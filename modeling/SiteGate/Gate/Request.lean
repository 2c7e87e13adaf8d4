import SiteGate.Http.Header

/-!
# What the gate sees of a request

The parts of a request that decide whether it passes, and the answer to it.
-/

set_option autoImplicit false

namespace SiteGate.Gate

/-- The parts of a request that the gate looks at. -/
structure Request where
  method : Text
  /-- The host that the request names, perhaps with a port. -/
  host : Text
  path : Text
  /-- What follows the question mark. -/
  query : Text
  /-- The address of the peer with its port. -/
  peer : Text
  headers : List Http.Header
deriving DecidableEq

/-- The answer of the gate. -/
inductive Verdict where
  | allowed
  | denied (status : Nat)
  /-- The request is sent to another path. -/
  | redirected (location : Text)
deriving DecidableEq

/-- The status of a redirect: the method stays the same. -/
def redirectStatus : Nat := 307

namespace Verdict

/-- Whether the request passes. -/
def isAllowed : Verdict → Bool
  | .allowed => true
  | _ => false

/-- The status of the answer; zero for a request that passes. -/
def status : Verdict → Nat
  | .allowed => 0
  | .denied s => s
  | .redirected _ => redirectStatus

/-- Where the request is sent. -/
def location? : Verdict → Option Text
  | .redirected l => some l
  | _ => none

end Verdict

/-- A host without its port. An address in brackets ends with the closing one. -/
def hostName (host : Text) : Text :=
  match host with
  | '[' :: _ => if host.contains ']' then Text.before ']' host ++ [']'] else host
  | _ => Text.before ':' host

end SiteGate.Gate
