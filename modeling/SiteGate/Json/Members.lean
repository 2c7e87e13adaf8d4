import SiteGate.Json.Number

/-!
# Records in JSON

A record with named fields is written as an object, or as an array of its fields in order. Members
that the record does not know are passed over, or refused if the record is closed; a field that is
given twice is refused; an array may leave out fields at its end.
-/

set_option autoImplicit false

namespace SiteGate.Json

/-- Whether a record refuses members that it does not know. -/
inductive Openness where
  | opened
  | closed
deriving DecidableEq

/-- The fields of a record that are given, by name. -/
abbrev Fields := List (Text × Json)

/-- Goes through the members of an object, after the fields `seen`. -/
def fieldsOfMembers (names : List Text) (o : Openness) :
    Fields → List (StringToken × Json) → Option Fields
  | seen, [] => some seen.reverse
  | seen, (token, j) :: rest =>
    token.text?.bind fun name =>
      if names.contains name then
        if seen.any (·.1 == name) then none
        else fieldsOfMembers names o ((name, j) :: seen) rest
      else
        match o with
        | .opened => fieldsOfMembers names o seen rest
        | .closed => none

/-- The fields of a record with the given names, in order. -/
def fields? (names : List Text) (o : Openness) : Json → Option Fields
  | .object members => fieldsOfMembers names o [] members
  | .array items => if items.length ≤ names.length then some (names.zip items) else none
  | _ => none

/-- A field, or the default where it is not given. -/
def Fields.getD {α : Type} (fs : Fields) (name : String) (decode : Json → Option α) (default : α) :
    Option α :=
  match fs.lookup name.toList with
  | some j => decode j
  | none => some default

/-- A field that has to be given. -/
def Fields.require {α : Type} (fs : Fields) (name : String) (decode : Json → Option α) :
    Option α :=
  (fs.lookup name.toList).bind decode

/-- A list of texts. -/
def texts? (j : Json) : Option (List Text) := j.items?.bind fun items => items.mapM text?

/-- A text, or null for none. -/
def nullableText? : Json → Option (Option Text)
  | .null => some none
  | j => j.text?.map some

end SiteGate.Json
