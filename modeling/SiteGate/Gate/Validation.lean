import SiteGate.Config.Snapshot
import SiteGate.Gate.Conditional

/-!
# The gate

A request is asked for its host, its method and its path, and the first stage that objects decides:

* the host, if hosts are checked and the site has a name: 502 if it is not the site's;
* the method: 405 if it is not listed as it is written;
* the restricted paths: 401;
* the excluded paths: 404;
* the forward rules that are valid: a redirect to the first one's target;
* the conditional rules: the rule's own status.

Hosts and paths are compared in lower case. An entry that stands for a refused value matches no
path.
-/

set_option autoImplicit false

namespace SiteGate.Gate

open Config (Snapshot ForwardRule)

/-- Whether the request's host has to be, and is not, one of the site's. -/
def refusesHost (s : Snapshot) (request : Request) : Bool :=
  s.validateHost && !s.site.hostname.isEmpty &&
    !s.site.answersTo (Text.lower (hostName request.host))

/-- Whether a list of paths holds a path, which is given in lower case. -/
def lists (entries : List Text) (lowered : Text) : Bool :=
  entries.any fun e => !Config.errorMark.isPrefixOf e && Text.lower e == lowered

/-- The forward rule for a path, which is given in lower case. -/
def forwardOf? (rules : List ForwardRule) (lowered : Text) : Option ForwardRule :=
  rules.find? fun r => r.isValid && Text.lower r.source == lowered

/-- The answer to a request. -/
def verdict (s : Snapshot) (request : Request) : Verdict :=
  let path := Text.lower request.path
  if refusesHost s request then .denied 502
  else if !s.allowedMethods.contains request.method then .denied 405
  else if lists s.urlPaths.restrict path then .denied 401
  else if lists s.urlPaths.exclude path then .denied 404
  else
    match forwardOf? s.urlPaths.forward path with
    | some rule => .redirected rule.target
    | none => (conditionalVerdict s.urlPaths.conditional request).getD .allowed

end SiteGate.Gate
