import SiteGate.Gate.Validation

/-!
# Telling where a request is sent

The gate gives its caller an answer, which is whether the request passes and a status, and tells a
sink of the redirect when a forward rule applies. What the sink does with it is up to the caller:
it keeps what it likes in a state of its own.
-/

set_option autoImplicit false

namespace SiteGate.Gate

open Config (ConditionalRule Snapshot)

/-- What the caller is given: whether the request passes, and a status, which is zero if it does. -/
structure Answer where
  allowed : Bool
  status : Nat
deriving DecidableEq

namespace Answer

/-- The request passes. -/
def allow : Answer := ⟨true, 0⟩

/-- The request is refused. -/
def deny (status : Nat) : Answer := ⟨false, status⟩

end Answer

/-- A sink takes the location and the status of a redirect. -/
abbrev Sink (σ : Type) := Text → Nat → StateM σ Unit

/-- The answer of the conditional rules, if one of them guards the request's path. -/
def conditionalAnswer? (rules : List ConditionalRule) (request : Request) : Option Answer :=
  (guardOf? rules request.path).map fun rule =>
    if serves rule request then .allow else .deny rule.denialStatus

/-- Asks a request stage by stage, and tells the sink where a forward rule sends it. -/
def validate {σ : Type} (redirect : Sink σ) (s : Snapshot) (request : Request) :
    StateM σ Answer :=
  let path := Text.lower request.path
  if refusesHost s request then pure (.deny 502)
  else if !s.allowedMethods.contains request.method then pure (.deny 405)
  else if lists s.urlPaths.restrict path then pure (.deny 401)
  else if lists s.urlPaths.exclude path then pure (.deny 404)
  else
    match forwardOf? s.urlPaths.forward path with
    | some rule => do
      redirect rule.target redirectStatus
      return .deny redirectStatus
    | none => pure ((conditionalAnswer? s.urlPaths.conditional request).getD .allow)

end SiteGate.Gate
