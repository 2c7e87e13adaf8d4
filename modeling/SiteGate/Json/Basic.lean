import SiteGate.Text.Decimal

/-!
# JSON values

A JSON value as its text gives it. Strings keep their `\u` escapes as the numbers they name and
numbers keep their digits, because not every well-formed escape names a character and not every
well-formed number can be represented. A reader of the value says what it needs: `StringToken.text?`
asks for characters, `Number.integer?` for a whole number of sixty-four bits, and `Json.acceptable`
asks everything of every part at once. What nobody asks for need only be well-formed.

Objects keep their members in order and with repetitions; `Json.lastWins` drops all but the last
member of each name.
-/

set_option autoImplicit false

namespace SiteGate

/-- A piece of a string: a character, or the number of a `\u` escape. -/
inductive StringPiece where
  | char (c : Char)
  | unit (n : Nat)
deriving DecidableEq

/-- A string as it is written between its quotes. -/
abbrev StringToken := List StringPiece

namespace StringToken

/-- The characters of a string. An escape that names half of a surrogate pair has to be followed
by one that names the other half. -/
def text? : StringToken → Option Text
  | [] => some []
  | .char c :: rest => (text? rest).map (c :: ·)
  | .unit high :: .unit low :: rest =>
    if 0xD800 ≤ high ∧ high ≤ 0xDBFF then
      if 0xDC00 ≤ low ∧ low ≤ 0xDFFF then
        (text? rest).map (Char.ofNat (0x10000 + (high - 0xD800) * 0x400 + (low - 0xDC00)) :: ·)
      else none
    else if 0xDC00 ≤ high ∧ high ≤ 0xDFFF then none
    else (text? (.unit low :: rest)).map (Char.ofNat high :: ·)
  | .unit n :: rest =>
    if 0xD800 ≤ n ∧ n ≤ 0xDFFF then none else (text? rest).map (Char.ofNat n :: ·)

/-- The string with the given characters and no escapes by number. -/
def ofText (t : Text) : StringToken := t.map .char

/-- The text of a string that was made of a text is that text. -/
theorem text?_ofText (t : Text) : (ofText t).text? = some t := by
  induction t with
  | nil => rfl
  | cons c rest ih =>
    show (text? (ofText rest)).map (c :: ·) = some (c :: rest)
    rw [ih, Option.map_some]

end StringToken

/-- The exponent of a number: its sign and its digits. -/
structure Exponent where
  negative : Bool
  digits : Text
deriving DecidableEq

/-- A number as it is written: the digits before and after the point, of which the latter may be
missing, and perhaps an exponent. -/
structure Number where
  negative : Bool
  whole : Text
  fraction : Text
  exponent : Option Exponent
deriving DecidableEq

/-- A JSON value. -/
inductive Json where
  | null
  | bool (b : Bool)
  | number (n : Number)
  | string (s : StringToken)
  | array (items : List Json)
  | object (members : List (StringToken × Json))

namespace Json

/-- The string value with the given characters. -/
def ofText (t : Text) : Json := .string (.ofText t)

/-- The number value of an integer. -/
def ofInt (n : Int) : Json :=
  .number ⟨decide (n < 0), Text.ofNat n.natAbs, [], none⟩

/-- The number value of a natural number. -/
def ofNat (n : Nat) : Json := .number ⟨false, Text.ofNat n, [], none⟩

/-- The characters of a string value. -/
def text? : Json → Option Text
  | .string s => s.text?
  | _ => none

/-- The truth value, if it is one. -/
def bool? : Json → Option Bool
  | .bool b => some b
  | _ => none

/-- The items of an array. -/
def items? : Json → Option (List Json)
  | .array items => some items
  | _ => none

mutual

/-- The value with every object reduced to the last member of each name, at the place of the first
one. Members whose names are no text are dropped. -/
def lastWins : Json → Json
  | .array items => .array (lastWinsItems items)
  | .object members => .object (lastWinsMembers members [])
  | j => j

/-- The items of an array, each reduced. -/
def lastWinsItems : List Json → List Json
  | [] => []
  | j :: rest => lastWins j :: lastWinsItems rest

/-- The members, reduced, put one after another into the members read so far. -/
def lastWinsMembers : List (StringToken × Json) → List (StringToken × Json) →
    List (StringToken × Json)
  | [], done => done
  | (name, j) :: rest, done =>
    let value := lastWins j
    let same := fun (m : StringToken × Json) => m.1.text? == name.text?
    lastWinsMembers rest <|
      if done.any same then done.map fun m => if same m then (m.1, value) else m
      else done ++ [(name, value)]

end

end Json

end SiteGate
