import SiteGate.Json.Basic

/-!
# Writing JSON

Values are written without blanks. In a string the quote, the backslash and the characters below
U+0020 are escaped, with a letter where there is one and by number otherwise; every other character
stands for itself.
-/

set_option autoImplicit false

namespace SiteGate.Json

/-- The hexadecimal digit, in lower case, of a number below sixteen. -/
def hexDigit (n : Nat) : Char := Nat.digitChar n

/-- The escape by number of a number below 2^16. -/
def unitEscape (n : Nat) : Text :=
  ['\\', 'u', hexDigit (n / 4096), hexDigit (n / 256 % 16), hexDigit (n / 16 % 16),
    hexDigit (n % 16)]

/-- A character within a string. -/
def writeChar (c : Char) : Text :=
  if c = '"' then ['\\', '"']
  else if c = '\\' then ['\\', '\\']
  else if c = '\x08' then ['\\', 'b']
  else if c = '\t' then ['\\', 't']
  else if c = '\n' then ['\\', 'n']
  else if c = '\x0c' then ['\\', 'f']
  else if c = '\r' then ['\\', 'r']
  else if c.toNat < 0x20 then unitEscape c.toNat
  else [c]

/-- A piece of a string. -/
def writePiece : StringPiece → Text
  | .char c => writeChar c
  | .unit n => unitEscape n

/-- A string with its quotes. -/
def writeString (s : StringToken) : Text := '"' :: s.flatMap writePiece ++ ['"']

/-- A number with the digits it has. -/
def writeNumber (n : Number) : Text :=
  let sign := if n.negative then ['-'] else []
  let fraction := if n.fraction.isEmpty then [] else '.' :: n.fraction
  let exponent :=
    match n.exponent with
    | none => []
    | some e => 'e' :: (if e.negative then ['-'] else []) ++ e.digits
  sign ++ n.whole ++ fraction ++ exponent

mutual

/-- A value. -/
def write : Json → Text
  | .null => "null".toList
  | .bool true => "true".toList
  | .bool false => "false".toList
  | .number n => writeNumber n
  | .string s => writeString s
  | .array [] => ['[', ']']
  | .array (j :: rest) => '[' :: write j ++ writeItems rest
  | .object [] => ['\x7b', '\x7d']
  | .object ((name, j) :: rest) => '\x7b' :: writeString name ++ ':' :: write j ++ writeMembers rest

/-- The items after the first one, and the end of the array. -/
def writeItems : List Json → Text
  | [] => [']']
  | j :: rest => ',' :: write j ++ writeItems rest

/-- The members after the first one, and the end of the object. -/
def writeMembers : List (StringToken × Json) → Text
  | [] => ['\x7d']
  | (name, j) :: rest => ',' :: writeString name ++ ':' :: write j ++ writeMembers rest

end

end SiteGate.Json
