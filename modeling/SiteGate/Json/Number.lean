import SiteGate.Json.Basic

/-!
# Numbers in JSON

A number without a point and an exponent is a whole number if it fits into sixty-four bits: from
0 to 2^64 - 1, or from -2^63 to -1. Everything else is a floating-point number, also minus zero and
a whole number that does not fit.

A floating-point number is in range unless its value, computed the way it is read, overflows. It is
read as a significand of at most sixty-four bits (later digits are dropped, and count as a factor
ten each when they stand before the point) times a power of ten, both rounded to fifty-three bits
before they are multiplied. The product overflows from 2^1024 - 2^970 on, half a unit above the
largest finite number.
-/

set_option autoImplicit false

namespace SiteGate.Number

/-- The value of decimal digits. -/
def valueOf (digits : Text) : Nat := digits.foldl (fun v c => v * 10 + (c.toNat - '0'.toNat)) 0

/-- The whole number of sixty-four bits that is written. -/
def integer? (n : Number) : Option Int :=
  if n.fraction.isEmpty && n.exponent.isNone then
    let v := valueOf n.whole
    if n.negative then if 0 < v ∧ v ≤ UInt64.size / 2 then some (-(v : Int)) else none
    else if v < UInt64.size then some v else none
  else none

/-- The natural number below `limit` that is written. -/
def natural? (limit : Nat) (n : Number) : Option Nat :=
  match n.integer? with
  | some (.ofNat v) => if v < limit then some v else none
  | _ => none

/-- The longest beginning of the digits that keeps the significand, which so far is `v`, below
2^64: its value and the digits left over. -/
def takeSignificand (v : Nat) : Text → Nat × Text
  | [] => (v, [])
  | c :: rest =>
    let next := v * 10 + (c.toNat - '0'.toNat)
    if next < UInt64.size then takeSignificand next rest else (v, c :: rest)

/-- The significand and the power of ten that digits before and after the point come to. -/
def scaled (n : Number) : Nat × Int :=
  let (v, left) := takeSignificand 0 n.whole
  let (v', left') := takeSignificand v n.fraction
  (v', (left.length : Int) - ((n.fraction.length : Int) - (left'.length : Int)))

/-- Rounds to fifty-three bits, a tie to the even neighbour. -/
def round53 (v : Nat) : Nat :=
  let unit := Nat.pow 2 (v.log2 - 52)
  let q := v / unit
  let r := 2 * (v % unit)
  (if r > unit ∨ (r = unit ∧ q % 2 = 1) then q + 1 else q) * unit

/-- Whether a significand times a power of ten stays finite. -/
def productFinite (v : Nat) (power : Int) : Bool :=
  if v = 0 then true
  else if power < 0 then true
  else if power > 308 then false
  else round53 v * round53 (Nat.pow 10 power.toNat) < (Nat.pow 2 54 - 1) * Nat.pow 2 970

/-- Whether the number can be represented. -/
def inRange (n : Number) : Bool :=
  if n.integer?.isSome then true
  else
    let (v, power) := n.scaled
    match n.exponent with
    | none => productFinite v power
    | some e =>
      let size := valueOf e.digits
      if size < UInt32.size / 2 then
        productFinite v (if e.negative then power - size else power + size)
      else v = 0 || e.negative

end SiteGate.Number

namespace SiteGate.Json

/-- The whole number of sixty-four bits, if the value is one. -/
def integer? : Json → Option Int
  | .number n => n.integer?
  | _ => none

/-- The integer of sixty-four bits with a sign, if the value is one. -/
def integer64? (j : Json) : Option Int := j.integer?.filter (· < Int.ofNat (UInt64.size / 2))

/-- The natural number below `limit`, if the value is one. -/
def natural? (limit : Nat) : Json → Option Nat
  | .number n => n.natural? limit
  | _ => none

/-- The greatest depth of nesting of a value all of whose parts are read. -/
def maxDepth : Nat := 127

mutual

/-- Whether every part of the value can be represented and arrays and objects are nested at most
`depth` deep. -/
def acceptableWithin (depth : Nat) : Json → Bool
  | .number n => n.inRange
  | .string s => s.text?.isSome
  | .array items => 0 < depth && acceptableItems (depth - 1) items
  | .object members => 0 < depth && acceptableMembers (depth - 1) members
  | _ => true

/-- The same of all items. -/
def acceptableItems (depth : Nat) : List Json → Bool
  | [] => true
  | j :: rest => acceptableWithin depth j && acceptableItems depth rest

/-- The same of all members, whose names have to be texts. -/
def acceptableMembers (depth : Nat) : List (StringToken × Json) → Bool
  | [] => true
  | (name, j) :: rest =>
    name.text?.isSome && acceptableWithin depth j && acceptableMembers depth rest

end

/-- Whether every part of the value can be represented. -/
def acceptable (j : Json) : Bool := acceptableWithin maxDepth j

end SiteGate.Json
