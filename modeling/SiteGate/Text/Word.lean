import SiteGate.Text.Basic
import SiteGate.Text.WordTable

/-!
# Characters of words

Words are made of letters and numbers of any script. Some characters are both; a letter here may be
a number too.
-/

set_option autoImplicit false

namespace SiteGate.Text

/-- Whether a character is a letter or a number. -/
def isWordChar (c : Char) : Bool := c.isAlphanum || inRanges wordRanges c

/-- Whether a character is a letter. -/
def isLetter (c : Char) : Bool :=
  c.isAlpha || (inRanges wordRanges c && !inRanges numberRanges c)

/-- Letters are characters of words. -/
theorem isWordChar_of_isLetter {c : Char} (h : isLetter c) : isWordChar c := by
  simp only [isLetter, Bool.or_eq_true, Bool.and_eq_true] at h
  rcases h with h | h
  · simp [isWordChar, Char.isAlphanum, h]
  · simp [isWordChar, h.1]

end SiteGate.Text
