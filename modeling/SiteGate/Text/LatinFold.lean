import SiteGate.Text.Basic

/-!
# Latin letters without case

Two texts are the same without case if they are equal once every character is folded. Most
characters fold to their lower case, but a few that are no letters from A to Z fold to such letters:
the Kelvin sign, the long and the sharp s, and ligatures of f and s. This folding is exact where
one of the two texts has only characters of the first 128 code points: every other character folds
to something that such a text cannot contain.
-/

set_option autoImplicit false

namespace SiteGate.Text

/-- The characters beyond the first 128 code points that fold to letters from a to z. -/
def latinFolds : List (Char × String) :=
  [('\u00DF', "ss"), ('\u017F', "s"), ('\u1E9E', "ss"), ('\u212A', "k"), ('\uFB00', "ff"),
    ('\uFB01', "fi"), ('\uFB02', "fl"), ('\uFB03', "ffi"), ('\uFB04', "ffl"), ('\uFB05', "st"),
    ('\uFB06', "st"), (Char.ofNat 0x1DF95, "ss")]

/-- What a character folds to, if that is made of letters from a to z; otherwise itself. -/
def foldLatinChar (c : Char) : Text :=
  match latinFolds.lookup c with
  | some letters => letters.toList
  | none => [c.toLower]

/-- A text with its Latin letters folded. -/
def foldLatin (t : Text) : Text := t.flatMap foldLatinChar

end SiteGate.Text
