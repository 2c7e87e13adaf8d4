import SiteGate.Text.Utf8

/-!
# Headers

The headers of a request, in order and with repetitions. A name is a token of ASCII characters and
is kept in lower case; a value is any bytes but control characters.
-/

set_option autoImplicit false

namespace SiteGate.Http

/-- A header: its name in lower case and its value. -/
structure Header where
  name : Text
  value : Bytes
deriving DecidableEq

/-- Why a header is refused. -/
inductive HeaderError where
  | name
  | value
deriving DecidableEq

/-- The characters of a token besides letters and digits. -/
def tokenMarks : List Char := "!#$%&'*+-.^_`|~".toList

/-- Whether a character may stand in a token. -/
def isTokenChar (c : Char) : Bool := c.isAlphanum || tokenMarks.contains c

/-- Whether a text can be the name of a header. -/
def isHeaderName (t : Text) : Bool := !t.isEmpty && t.length < UInt16.size && t.all isTokenChar

/-- Whether a byte may stand in the value of a header. -/
def isValueByte (b : UInt8) : Bool := (32 ≤ b && b ≠ 127) || b = 9

/-- Whether a byte is a visible ASCII character, a space or a tab. -/
def isVisibleByte (b : UInt8) : Bool := (32 ≤ b && b < 127) || b = 9

/-- The header with a name in any case and a value. -/
def Header.make (name : Text) (value : Bytes) : Except HeaderError Header :=
  if !isHeaderName name then .error .name
  else if !value.all isValueByte then .error .value
  else .ok ⟨Text.lowerAscii name, value⟩

/-- Headers from names and values, in order; the first fault counts. -/
def Header.makeAll (pairs : List (Text × Bytes)) : Except HeaderError (List Header) :=
  pairs.mapM fun (name, value) => Header.make name value

/-- The value of the first header with a name in lower case. -/
def headerValue? (headers : List Header) (name : Text) : Option Bytes :=
  (headers.find? (·.name == name)).map Header.value

end SiteGate.Http
