import SiteGate.Text.Decimal

/-!
# Parts of a file

A request may ask for a part of a file: the bytes from one place to another, those from a place to
the end, or so many at the end. Several parts are separated by commas, and a blank may stand before
every part but the first. Parts that reach beyond the end of the file are cut there. A part that
begins there, more bytes at the end than there are, or parts that overlap cannot be given.
-/

set_option autoImplicit false

namespace SiteGate.Http

/-- A part of a file whose length is not known yet. -/
inductive Range where
  /-- From one place to another, both included, or to the end. -/
  | span (first : Nat) (last : Option Nat)
  /-- So many bytes at the end. -/
  | ending (length : Nat)
deriving DecidableEq

namespace Range

/-- The place that a text spells: digits without a sign and without zeros before them. -/
def place? (t : Text) : Option Nat :=
  if t.head? = some '+' || (t.head? = some '0' && t.length ≠ 1) then none
  else Text.natural? UInt64.size t

/-- The part that a text spells. No part is empty. -/
def ofText? (t : Text) : Option Range :=
  match t.splitOn '-' with
  | [[], length] => ((place? length).filter (0 < ·)).map .ending
  | [first, []] => (place? first).map (.span · none)
  | [first, last] =>
    match place? first, place? last with
    | some first, some last => some (.span first (some last))
    | _, _ => none
  | _ => none

/-- Drops one blank before a text. -/
def dropBlank : Text → Text
  | [] => []
  | c :: rest => if Text.isBlank c then rest else c :: rest

/-- The parts that the value of a header asks for. -/
def listOfHeader? (value : Text) : Option (List Range) :=
  let unit := "bytes=".toList
  let parts := (value.drop unit.length).splitOn ','
  match unit.isPrefixOf value, parts with
  | true, first :: rest => (first :: rest.map dropBlank).mapM ofText?
  | _, _ => none

/-- The first and the last place of a part of a file of a known size. -/
def bounds? (size : Nat) : Range → Option (Nat × Nat)
  | .span first last => some (first, min (last.getD (size - 1)) (size - 1))
  | .ending length => if length ≤ size then some (size - length, size - 1) else none

/-- Whether two parts have no place in common. -/
def apart (a b : Nat × Nat) : Bool := a.2 < b.1 || b.2 < a.1

/-- Whether no two of some parts have a place in common. -/
def allApart : List (Nat × Nat) → Bool
  | [] => true
  | p :: rest => rest.all (apart p) && allApart rest

end Range

/-- What is given of a file. -/
inductive Selection where
  | whole
  /-- The bytes from one place to another, both included. -/
  | part (first last : Nat)
  /-- More than one part has been asked for. -/
  | several
  | impossible
deriving DecidableEq

/-- What is given of a file of a known size when a header asks for parts of it. -/
def Selection.ofHeader (size : Nat) (value : Text) : Selection :=
  match (Range.listOfHeader? value).bind (·.mapM (Range.bounds? size)) with
  | none => .impossible
  | some parts =>
    if parts.all (fun p => p.1 ≤ p.2) && Range.allApart parts then
      match parts with
      | [(first, last)] => .part first last
      | _ => .several
    else .impossible

end SiteGate.Http
