import SiteGate.Files.Tree
import SiteGate.Gate.Request
import SiteGate.Store.Basic

/-!
# Counters

What is counted: whether the banner is shown, reloads by what they came to, and requests by how they
were answered. What was never recorded has no line.
-/

set_option autoImplicit false

namespace SiteGate

/-- Counters by label. -/
abbrev Counters := Association Text Nat

/-- Adds one to a counter, which is zero before its first use. -/
def Counters.bump (c : Counters) (label : Text) : Counters :=
  c.insert label ((c.lookup label).getD 0 + 1)

/-- Everything that is counted. -/
structure Metrics where
  bannerOn : Option Bool
  reloads : Counters
  requests : Counters

namespace Metrics

/-- Nothing has been counted. -/
def none : Metrics := ⟨.none, [], []⟩

/-- A label with its value in quotes. -/
def label (name : String) (value : Text) : Text := name.toList ++ '=' :: '"' :: value ++ ['"']

/-- Records whether the banner is shown. -/
def recordBanner (m : Metrics) (on : Bool) : Metrics := { m with bannerOn := some on }

/-- Records what a reload has come to. -/
def recordReload (m : Metrics) (outcome : Except FileFailure Reload) : Metrics :=
  let word :=
    match outcome with
    | .ok r => r.label
    | .error _ => "error".toList
  { m with reloads := m.reloads.bump (label "outcome" word) }

/-- Records the answer to a request. -/
def recordVerdict (m : Metrics) (v : Gate.Verdict) : Metrics :=
  let word := if v.isAllowed then "allowed".toList else "denied".toList
  let labels := label "outcome" word ++ ',' :: label "status" (Text.ofNat v.status)
  { m with requests := m.requests.bump labels }

/-- The lines of labelled counters. -/
def counterLines (name : String) (cs : Counters) : List Text :=
  cs.map fun (labels, n) => name.toList ++ '\x7b' :: labels ++ ['\x7d', ' '] ++ Text.ofNat n

/-- A line for everything that has been recorded, in order. -/
def lines (m : Metrics) : List Text :=
  let banner :=
    match m.bannerOn with
    | .none => []
    | some on => ["webconf_banner_on ".toList ++ (if on then ['1'] else ['0'])]
  (banner ++ counterLines "webconf_reloads_total" m.reloads ++
    counterLines "webconf_requests_total" m.requests).mergeSort Tree.precedes

end Metrics

end SiteGate
