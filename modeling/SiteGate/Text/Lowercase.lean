import SiteGate.Text.Basic
import SiteGate.Text.CaseTable

/-!
# Lower case

The full lower-case mapping of Unicode, without the rules of a particular language. Every character
is mapped on its own, with two exceptions: the dotted capital I becomes two characters, and the
capital sigma takes its final form at the end of a word.

A sigma ends a word when, passing over case-ignorable characters, a cased character comes before
it and none comes after it. The reader below therefore carries one bit from left to right and looks
ahead at a sigma only.
-/

set_option autoImplicit false

namespace SiteGate.Text

/-- Whether `c` is passed over when a word's last letter is looked for. -/
def isCaseIgnorable (c : Char) : Bool := inRanges ignorableRanges c

/-- Whether `c` has, or is, an upper or lower case. -/
def isCased (c : Char) : Bool := inRanges casedRanges c

/-- The lower case of one character that is not the capital sigma. -/
def lowerChar (c : Char) : Text :=
  if isAscii c then [c.toLower]
  else if c = 'İ' then ['i', '\u0307']
  else
    match caseRuns.find? (·.holds c.toNat) with
    | some run => [Char.ofNat (c.toNat + run.shift).toNat]
    | none => [c]

/-- Whether the first character that is not case-ignorable is cased. -/
def startsCased : Text → Bool
  | [] => false
  | c :: rest => if isCaseIgnorable c then startsCased rest else isCased c

/-- The lower case of a text that follows a cased character if `cased` says so. -/
def lowerAfter (cased : Bool) : Text → Text
  | [] => []
  | c :: rest =>
    let tail := lowerAfter (if isCaseIgnorable c then cased else isCased c) rest
    if c = 'Σ' then (if cased && !startsCased rest then 'ς' else 'σ') :: tail
    else lowerChar c ++ tail

/-- The lower case of a text. -/
def lower (t : Text) : Text := lowerAfter false t

end SiteGate.Text
