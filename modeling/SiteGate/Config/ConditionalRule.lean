import SiteGate.Json.Members
import SiteGate.Json.Reader

/-!
# Conditional rules

A conditional rule guards one path: it is served only to requests that meet one of the rule's
criteria, and each rule looks at one part of the request only. Rules are written as a JSON array.

The rules of a configuration file are taken one by one, so that a rule that is malformed, or whose
path does not begin with a slash, is left out and costs no other rule. Text that is no JSON array
gives no rules.
-/

set_option autoImplicit false

namespace SiteGate.Config

/-- The part of a request that a rule looks at. -/
inductive RequestPart where
  | header
  | ipAddress
  | queryString
deriving DecidableEq

/-- The word for the part in a configuration. -/
def RequestPart.name : RequestPart → Text
  | .header => "header".toList
  | .ipAddress => "ip-address".toList
  | .queryString => "query-string".toList

/-- All parts. -/
def RequestPart.all : List RequestPart := [.header, .ipAddress, .queryString]

/-- A rule that serves a path to some requests only. -/
structure ConditionalRule where
  part : RequestPart
  urlPath : Text
  criteria : List Text
  statusCode : Int
deriving DecidableEq

namespace ConditionalRule

/-- The status of a refusal: the rule's own where it has three digits, and otherwise 404. -/
def denialStatus (r : ConditionalRule) : Nat :=
  if 100 ≤ r.statusCode ∧ r.statusCode ≤ 999 then r.statusCode.toNat else 404

/-- A refusal has a status of three digits. -/
theorem denialStatus_bounds (r : ConditionalRule) :
    100 ≤ r.denialStatus ∧ r.denialStatus ≤ 999 := by
  unfold denialStatus
  split <;> omega

/-- The part that a word names. -/
def partNamed? (token : StringToken) : Option RequestPart :=
  token.text?.bind fun t => RequestPart.all.find? (·.name == t)

/-- The part that a JSON value names: a word, or an object with the word as its one member's name
and null as its value. -/
def part? : Json → Option RequestPart
  | .string token => partNamed? token
  | .object [(token, .null)] => partNamed? token
  | _ => none

/-- The names of a rule's fields in JSON. -/
def fieldNames : List Text :=
  ["rule-type", "url-path", "serve-only-to-criteria", "http-status-code"].map String.toList

/-- The rule that a JSON value spells. -/
def ofJson? (j : Json) : Option ConditionalRule := do
  let fs ← j.fields? fieldNames .closed
  some {
    part := ← fs.require "rule-type" part?
    urlPath := ← fs.require "url-path" Json.text?
    criteria := ← fs.require "serve-only-to-criteria" Json.texts?
    statusCode := ← fs.getD "http-status-code" Json.integer64? 0 }

/-- The rule that an element of the array spells, if its path begins with a slash. -/
def accept? (element : Json) : Option ConditionalRule :=
  (ofJson? element.lastWins).filter (·.urlPath.head? = some '/')

/-- A rule that is taken has a path that begins with a slash. -/
theorem head?_urlPath_of_accept? {element : Json} {r : ConditionalRule}
    (h : accept? element = some r) : r.urlPath.head? = some '/' := by
  simpa using (Option.filter_eq_some_iff.mp h).2

/-- The rules of a configuration value. -/
def listOfText (value : Text) : List ConditionalRule :=
  if (Text.trim value).isEmpty then []
  else
    match Json.ofText? value with
    | some (.array items) => items.filterMap accept?
    | _ => []

end ConditionalRule

end SiteGate.Config
