import SiteGate.Text.Basic
import SiteGate.Text.HiddenTable

/-!
# Quoted text

A text in double quotes, written so that every character can be told from what is printed. The
quote and the backslash follow a backslash, the line breaks, the tab and the zero have a letter, and
every other character that is not shown by itself is given by its number in braces.
-/

set_option autoImplicit false

namespace SiteGate.Text

/-- Whether a character can be seen by itself. -/
def isShown (c : Char) : Bool := 0x20 ≤ c.toNat && !inRanges hiddenRanges c

/-- A character within quotes. -/
def quoteChar (c : Char) : Text :=
  if c = '\x00' then ['\\', '0']
  else if c = '\t' then ['\\', 't']
  else if c = '\r' then ['\\', 'r']
  else if c = '\n' then ['\\', 'n']
  else if c = '\\' || c = '"' then ['\\', c]
  else if isShown c then [c]
  else ['\\', 'u', '\x7b'] ++ Nat.toDigits 16 c.toNat ++ ['\x7d']

/-- A text in quotes. -/
def quoted (t : Text) : Text := '"' :: t.flatMap quoteChar ++ ['"']

end SiteGate.Text
