import SiteGate.Gate.Conditional

/-!
# Searching through windows

A criterion is looked for in the value of a header by laying its bytes beside every window of their
length. A window has a length: a search with no bytes stops the program. So the empty criteria are
put aside before any search, and the others are tried header by header until one is met.
-/

set_option autoImplicit false

namespace SiteGate.Gate

open Config (ConditionalRule)

/-- Why a search stops the program. -/
inductive SearchFault where
  | emptyWindow
deriving DecidableEq

/-- The pieces of `width` neighbours, one from each place that has as many from there on. -/
def windowsFrom {α : Type} (width : Nat) : List α → List (List α)
  | [] => []
  | x :: rest =>
    if width ≤ (x :: rest).length then (x :: rest).take width :: windowsFrom width rest else []

/-- The windows of a width. -/
def windows {α : Type} (width : Nat) (hay : List α) : Except SearchFault (List (List α)) :=
  if width = 0 then .error .emptyWindow else .ok (windowsFrom width hay)

/-- Whether bytes stand among other ones. -/
def holdsBytes (hay needle : Bytes) : Except SearchFault Bool := do
  let found ← windows needle.length hay
  return found.any (· == needle)

/-- The criteria of a rule that can be met. -/
def criteriaOf (rule : ConditionalRule) : List Text := rule.criteria.filter (!·.isEmpty)

/-- Whether some header meets a criterion of a rule. -/
def headersMeet (rule : ConditionalRule) (request : Request) : Except SearchFault Bool :=
  request.headers.anyM fun h =>
    (criteriaOf rule).anyM fun c => holdsBytes h.value (Text.encode c)

/-- Whether the part of a request that a rule looks at meets one of its criteria. -/
def askRule (rule : ConditionalRule) (request : Request) : Except SearchFault Bool :=
  match rule.part with
  | .header => headersMeet rule request
  | .ipAddress =>
    let address := Net.addressPart request.peer
    pure ((criteriaOf rule).any (· == address))
  | .queryString => pure ((criteriaOf rule).any (Text.occursIn · request.query))

/-- What the rules say about a request, if one of them guards its path. -/
def askRules (rules : List ConditionalRule) (request : Request) :
    Except SearchFault (Option Verdict) :=
  match guardOf? rules request.path with
  | none => pure none
  | some rule => do
    let passes ← askRule rule request
    return some (if passes then .allowed else .denied rule.denialStatus)

end SiteGate.Gate
