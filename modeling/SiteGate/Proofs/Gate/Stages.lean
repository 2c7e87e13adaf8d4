import SiteGate.Gate.Validation

/-!
# The stages of the gate

What the gate can answer is said once. A request that the first four stages do not object to is
admitted (`Admitted`). One that is not admitted is refused with the status of the stage that
objects, and one that is admitted is sent on by a forward rule, or left to the conditional rules
(`verdict_cases`). What other modules say about verdicts is read off from these cases.
-/

set_option autoImplicit false

namespace SiteGate.Gate

open Config (Snapshot ForwardRule)

variable {s : Snapshot} {request : Request}

/-- A list holds a path just if one of its entries is no refused value and has its lower case. -/
theorem lists_eq_true_iff {entries : List Text} {lowered : Text} :
    lists entries lowered = true ↔
      ∃ e ∈ entries, ¬ Config.errorMark <+: e ∧ Text.lower e = lowered := by
  simp [lists, Bool.eq_false_iff, List.isPrefixOf_iff_prefix]

/-- The stages before the forward rules do not object to a request. -/
structure Admitted (s : Snapshot) (request : Request) : Prop where
  host : refusesHost s request = false
  method : request.method ∈ s.allowedMethods
  restrict : lists s.urlPaths.restrict (Text.lower request.path) = false
  exclude : lists s.urlPaths.exclude (Text.lower request.path) = false

/-- The statuses of the stages before the forward rules. -/
def refusals : List Nat := [502, 405, 401, 404]

/-- A request is refused by a stage before the forward rules, or sent on by the first of them that
is for its path, or the conditional rules decide. -/
theorem verdict_cases (s : Snapshot) (request : Request) :
    (¬ Admitted s request ∧ ∃ status ∈ refusals, verdict s request = .denied status) ∨
    (Admitted s request ∧ ∃ rule,
      forwardOf? s.urlPaths.forward (Text.lower request.path) = some rule ∧
        verdict s request = .redirected rule.target) ∨
    (Admitted s request ∧ forwardOf? s.urlPaths.forward (Text.lower request.path) = none ∧
      verdict s request = (conditionalVerdict s.urlPaths.conditional request).getD .allowed) := by
  unfold verdict
  dsimp only
  split
  · next hhost => exact .inl ⟨fun h => by simp [h.host] at hhost, 502, by decide, rfl⟩
  split
  · next _ hmethod =>
    have hnot : request.method ∉ s.allowedMethods := by simpa using hmethod
    exact .inl ⟨fun h => hnot h.method, 405, by decide, rfl⟩
  split
  · next hrestrict => exact .inl ⟨fun h => by simp [h.restrict] at hrestrict, 401, by decide, rfl⟩
  split
  · next hexclude => exact .inl ⟨fun h => by simp [h.exclude] at hexclude, 404, by decide, rfl⟩
  next hhost hmethod hrestrict hexclude =>
  have hadmitted : Admitted s request :=
    ⟨Bool.eq_false_iff.mpr hhost, by simpa using hmethod, Bool.eq_false_iff.mpr hrestrict,
      Bool.eq_false_iff.mpr hexclude⟩
  cases hforward : forwardOf? s.urlPaths.forward (Text.lower request.path) with
  | some rule => exact .inr (.inl ⟨hadmitted, rule, rfl, rfl⟩)
  | none => exact .inr (.inr ⟨hadmitted, rfl, rfl⟩)

/-- A request that is allowed has been admitted. -/
theorem admitted_of_allowed (h : verdict s request = .allowed) : Admitted s request := by
  obtain ⟨-, status, -, hverdict⟩ | ⟨hadmitted, -⟩ | ⟨hadmitted, -⟩ := verdict_cases s request
  · rw [hverdict] at h
    cases h
  · exact hadmitted
  · exact hadmitted

end SiteGate.Gate
