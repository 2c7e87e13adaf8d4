import SiteGate.Config.ConditionalRule
import SiteGate.Gate.Request
import SiteGate.Net.Address
import SiteGate.Text.Lowercase

/-!
# Asking the conditional rules

The first rule whose path is the lower case of the request's path decides: the request passes if
one of the rule's criteria is met by the part of the request that the rule looks at. A criterion is
met by a header if its bytes stand in some header's value, by an address if it is the peer's
address, and by a query if it stands in the query. An empty criterion is never met. Where no rule
has the path, the rules have no say.
-/

set_option autoImplicit false

namespace SiteGate.Gate

open Config (ConditionalRule)

/-- Whether one criterion is met by the part of a request that a rule looks at. -/
def meets (rule : ConditionalRule) (request : Request) (criterion : Text) : Bool :=
  !criterion.isEmpty &&
    match rule.part with
    | .header => request.headers.any fun h => Text.occursIn (Text.encode criterion) h.value
    | .ipAddress => criterion == Net.addressPart request.peer
    | .queryString => Text.occursIn criterion request.query

/-- Whether a rule serves a request. -/
def serves (rule : ConditionalRule) (request : Request) : Bool :=
  rule.criteria.any (meets rule request)

/-- The rule that guards a path. -/
def guardOf? (rules : List ConditionalRule) (path : Text) : Option ConditionalRule :=
  rules.find? (·.urlPath == Text.lower path)

/-- What the rules say about a request, if one of them guards its path. -/
def conditionalVerdict (rules : List ConditionalRule) (request : Request) : Option Verdict :=
  (guardOf? rules request.path).map fun rule =>
    if serves rule request then .allowed else .denied rule.denialStatus

end SiteGate.Gate
