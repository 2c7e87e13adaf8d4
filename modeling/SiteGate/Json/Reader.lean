import SiteGate.Json.Number

/-!
# Reading JSON

The reader is a fold over the characters of the text. Its state is a stack of the containers that
have begun and a phase that says what may come next. Because a character is read knowing only the
state, the same text leads from the same state to the same state whatever comes after it.

A number is the one thing that ends only when something else begins: its last character is known by
the next one, which is then read again as what follows a value.
-/

set_option autoImplicit false

namespace SiteGate

namespace Json

/-- A container that has begun. Items and members are kept in reverse. -/
inductive Frame where
  | array (items : List Json)
  | object (members : List (StringToken × Json)) (name : StringToken)

/-- How far a string has been read: its pieces in reverse and where in an escape it stands. -/
inductive StringState where
  | plain (pieces : StringToken)
  | escape (pieces : StringToken)
  | hex (pieces : StringToken) (count value : Nat)

/-- How far a number has been read: after its sign, after a leading zero, in the digits before the
point, just after the point, in the digits after it, just after the letter of the exponent, after
the exponent's sign, or in its digits. -/
inductive NumberPhase where
  | sign
  | zero
  | whole
  | point
  | fraction
  | letter
  | exponentSign
  | exponentDigits

/-- What may come next. -/
inductive Phase where
  /-- A value, or the end of an array if `closable`. -/
  | value (closable : Bool)
  /-- A member's name, or the end of an object if `closable`, after the members in reverse. -/
  | name (members : List (StringToken × Json)) (closable : Bool)
  /-- The colon after a member's name. -/
  | colon (members : List (StringToken × Json)) (name : StringToken)
  /-- A comma or the end of the array with the items, which are in reverse. -/
  | item (items : List Json)
  /-- A comma or the end of the object with the members, which are in reverse. -/
  | member (members : List (StringToken × Json))
  /-- The rest of a string that is a value. -/
  | string (s : StringState)
  /-- The rest of a string that names a member. -/
  | nameString (members : List (StringToken × Json)) (s : StringState)
  /-- The rest of a number. -/
  | number (n : Number) (phase : NumberPhase)
  /-- The rest of a word that stands for a value. -/
  | word (rest : Text) (j : Json)
  /-- Nothing but blanks. -/
  | done (j : Json)

/-- The state of the reader. -/
structure Reader where
  stack : List Frame
  phase : Phase

namespace Reader

/-- The state before the first character. -/
def start : Reader := ⟨[], .value false⟩

/-- The blanks of JSON. -/
def isSpace (c : Char) : Bool := c = ' ' || c = '\t' || c = '\n' || c = '\r'

/-- The decimal digits. -/
def isDigit (c : Char) : Bool := '0' ≤ c && c ≤ '9'

/-- The value of a hexadecimal digit. -/
def hexValue? (c : Char) : Option Nat :=
  if '0' ≤ c && c ≤ '9' then some (c.toNat - '0'.toNat)
  else if 'a' ≤ c && c ≤ 'f' then some (c.toNat - 'a'.toNat + 10)
  else if 'A' ≤ c && c ≤ 'F' then some (c.toNat - 'A'.toNat + 10)
  else none

/-- The character that a one-letter escape names. -/
def escaped? : Char → Option Char
  | '"' => some '"'
  | '\\' => some '\\'
  | '/' => some '/'
  | 'b' => some '\x08'
  | 'f' => some '\x0c'
  | 'n' => some '\n'
  | 'r' => some '\r'
  | 't' => some '\t'
  | _ => none

/-- Puts a complete value where the innermost container expects it. -/
def place (stack : List Frame) (j : Json) : Reader :=
  match stack with
  | [] => ⟨[], .done j⟩
  | .array items :: rest => ⟨rest, .item (j :: items)⟩
  | .object members name :: rest => ⟨rest, .member ((name, j) :: members)⟩

/-- Reads one character of a string: the state in it, or the whole string. -/
def stringStep (s : StringState) (c : Char) : Option (StringState ⊕ StringToken) :=
  match s with
  | .plain pieces =>
    if c = '"' then some (.inr pieces.reverse)
    else if c = '\\' then some (.inl (.escape pieces))
    else if c.toNat < 0x20 then none
    else some (.inl (.plain (.char c :: pieces)))
  | .escape pieces =>
    if c = 'u' then some (.inl (.hex pieces 0 0))
    else (escaped? c).map fun e => .inl (.plain (.char e :: pieces))
  | .hex pieces count value =>
    (hexValue? c).map fun d =>
      let next := value * 16 + d
      .inl (if count = 3 then .plain (.unit next :: pieces) else .hex pieces (count + 1) next)

/-- Reads one more character of a number, if it belongs to the number. -/
def numberStep (n : Number) (phase : NumberPhase) (c : Char) : Option (Number × NumberPhase) :=
  let whole := fun next => some ({ n with whole := n.whole ++ [c] }, next)
  let digit := fun (e : Exponent) =>
    { n with exponent := some { e with digits := e.digits ++ [c] } }
  let current := n.exponent.getD ⟨false, []⟩
  let isLetter := c = 'e' || c = 'E'
  let exponent := some ({ n with exponent := some ⟨false, []⟩ }, NumberPhase.letter)
  match phase with
  | .sign => if c = '0' then whole .zero else if isDigit c then whole .whole else none
  | .zero => if c = '.' then some (n, .point) else if isLetter then exponent else none
  | .whole =>
    if isDigit c then whole .whole
    else if c = '.' then some (n, .point)
    else if isLetter then exponent
    else none
  | .point =>
    if isDigit c then some ({ n with fraction := n.fraction ++ [c] }, .fraction) else none
  | .fraction =>
    if isDigit c then some ({ n with fraction := n.fraction ++ [c] }, .fraction)
    else if isLetter then exponent
    else none
  | .letter =>
    if c = '+' || c = '-' then
      some ({ n with exponent := some ⟨c = '-', []⟩ }, .exponentSign)
    else if isDigit c then some (digit current, .exponentDigits)
    else none
  | .exponentSign | .exponentDigits =>
    if isDigit c then some (digit current, .exponentDigits) else none

/-- Whether a number may end here. -/
def numberMayEnd : NumberPhase → Bool
  | .zero | .whole | .fraction | .exponentDigits => true
  | _ => false

/-- Reads the first character of a value. -/
def valueStep (stack : List Frame) (closable : Bool) (c : Char) : Option Reader :=
  if c = '{' then some ⟨stack, .name [] true⟩
  else if c = '[' then some ⟨.array [] :: stack, .value true⟩
  else if c = '"' then some ⟨stack, .string (.plain [])⟩
  else if c = 't' then some ⟨stack, .word ['r', 'u', 'e'] (.bool true)⟩
  else if c = 'f' then some ⟨stack, .word ['a', 'l', 's', 'e'] (.bool false)⟩
  else if c = 'n' then some ⟨stack, .word ['u', 'l', 'l'] .null⟩
  else if c = '-' then some ⟨stack, .number ⟨true, [], [], none⟩ .sign⟩
  else if isDigit c then
    some ⟨stack, .number ⟨false, [c], [], none⟩ (if c = '0' then .zero else .whole)⟩
  else if closable && c = ']' then
    match stack with
    | .array [] :: rest => some (place rest (.array []))
    | _ => none
  else none

/-- Reads a character after a complete value. -/
def afterStep (r : Reader) (c : Char) : Option Reader :=
  if isSpace c then some r
  else
    match r.phase with
    | .item items =>
      if c = ',' then some ⟨.array items :: r.stack, .value false⟩
      else if c = ']' then some (place r.stack (.array items.reverse))
      else none
    | .member members =>
      if c = ',' then some ⟨r.stack, .name members false⟩
      else if c = '}' then some (place r.stack (.object members.reverse))
      else none
    | _ => none

/-- Reads one character. -/
def step (r : Reader) (c : Char) : Option Reader :=
  match r.phase with
  | .value closable => if isSpace c then some r else valueStep r.stack closable c
  | .name members closable =>
    if isSpace c then some r
    else if c = '"' then some ⟨r.stack, .nameString members (.plain [])⟩
    else if closable && c = '}' then some (place r.stack (.object []))
    else none
  | .colon members name =>
    if isSpace c then some r
    else if c = ':' then some ⟨.object members name :: r.stack, .value false⟩
    else none
  | .string s =>
    (stringStep s c).map fun
      | .inl next => ⟨r.stack, .string next⟩
      | .inr token => place r.stack (.string token)
  | .nameString members s =>
    (stringStep s c).map fun
      | .inl next => ⟨r.stack, .nameString members next⟩
      | .inr token => ⟨r.stack, .colon members token⟩
  | .number n phase =>
    match numberStep n phase c with
    | some (n', phase') => some ⟨r.stack, .number n' phase'⟩
    | none => if numberMayEnd phase then afterStep (place r.stack (.number n)) c else none
  | .word [] _ => none
  | .word (expected :: rest) j =>
    if c = expected then
      some (if rest.isEmpty then place r.stack j else ⟨r.stack, .word rest j⟩)
    else none
  | .item _ | .member _ | .done _ => afterStep r c

/-- The value that is complete when the text ends. -/
def finish (r : Reader) : Option Json :=
  match r.stack, r.phase with
  | [], .done j => some j
  | [], .number n phase => if numberMayEnd phase then some (.number n) else none
  | _, _ => none

end Reader

/-- The value that a text spells, if it is well-formed. -/
def parse? (t : Text) : Option Json := (t.foldlM Reader.step Reader.start).bind Reader.finish

/-- The value that a text spells, if all of it can be represented. -/
def ofText? (t : Text) : Option Json := (parse? t).filter acceptable

end Json

end SiteGate
