import SiteGate.Proofs.Config.LastWord
import SiteGate.Proofs.Gate.Stages

/-!
# Where forward rules lead

A destination is refused if it does not begin with a slash, so every place that a request is sent to
begins with one (`slash_of_redirected`). A destination that begins with two slashes names another
host, and is not refused. So requests stay on the site just if no rule that a request can reach has
such a destination (`redirects_local_iff`), and a configuration can send visitors away
(`not_redirects_local`).
-/

set_option autoImplicit false

namespace SiteGate

namespace Config

/-- The forward rules of a configuration are read from the entries of a list. -/
theorem forward_ofText (t : Text) :
    ∀ rule ∈ (Snapshot.ofText t).urlPaths.forward, ∃ entry, rule = ForwardRule.ofText entry := by
  refine ofText_induction (P := fun s => ∀ r ∈ s.urlPaths.forward, ∃ e, r = ForwardRule.ofText e) t
    (by simp [Snapshot.empty]) ?_ fun _ _ _ hs => hs
  intro s x value hs
  by_cases hx : x = .key .forwardPaths
  · subst hx
    simp only [Snapshot.set, Snapshot.setKey, List.mem_map]
    rintro rule ⟨entry, -, rfl⟩
    exact ⟨entry, rfl⟩
  · have hkept : (s.set x value).urlPaths.forward = s.urlPaths.forward :=
      Value.forward.inj (s.get_set_of_ne (Ne.symm hx) value)
    rwa [hkept]

/-- No configuration asks for the host of a request to be checked. -/
theorem validateHost_ofText (t : Text) : (Snapshot.ofText t).validateHost = false :=
  (unsaid_ofText t).2.2

namespace ForwardRule

/-- A target is an error or begins with a slash. -/
theorem targetOf_cases (place : Text) :
    errorMark <+: targetOf place ∨ ['/'] <+: targetOf place := by
  obtain ⟨hslash, hkept⟩ | ⟨why, hwhy⟩ := targetOf_kept_or_refused place
  · obtain ⟨rest, hrest⟩ := List.head?_eq_some_iff.mp hslash
    exact .inr ⟨rest, by rw [hkept, hrest]; rfl⟩
  · rw [hwhy]
    exact .inl (errorMark_prefix_message why)

/-- A rule that may be used has a destination that begins with a slash. -/
theorem slash_of_isValid {entry : Text} (h : (ofText entry).isValid = true) :
    ['/'] <+: (ofText entry).target := by
  have htarget : ∃ place, (ofText entry).target = targetOf place := by
    unfold ofText
    split
    · next target _ => exact ⟨Text.trim target, rfl⟩
    · exact ⟨[], rfl⟩
  obtain ⟨place, hplace⟩ := htarget
  have hmark : ¬ errorMark <+: (ofText entry).target := by
    rw [← List.isPrefixOf_iff_prefix]
    simp only [isValid, Bool.and_eq_true, Bool.not_eq_true'] at h
    simp [h.2]
  rw [hplace] at hmark ⊢
  exact (targetOf_cases place).resolve_left hmark

end ForwardRule

end Config

namespace Gate

open Config (ForwardRule Snapshot)

/-- A place of the site itself: it begins with one slash, and not with two. -/
def IsLocal (location : Text) : Prop := ['/'] <+: location ∧ ¬ ['/', '/'] <+: location

/-- A forward rule that some request is answered by: no list holds its path, and no other rule comes
before it. -/
structure Reached (s : Snapshot) (rule : ForwardRule) : Prop where
  methods : s.allowedMethods ≠ []
  restrict : lists s.urlPaths.restrict (Text.lower rule.source) = false
  exclude : lists s.urlPaths.exclude (Text.lower rule.source) = false
  first : forwardOf? s.urlPaths.forward (Text.lower rule.source) = some rule

/-- The rule for a path is a rule of the list that may be used, and its own path is that one up to
upper and lower case. -/
theorem of_forwardOf? {rules : List ForwardRule} {lowered : Text} {rule : ForwardRule}
    (h : forwardOf? rules lowered = some rule) :
    rule ∈ rules ∧ rule.isValid = true ∧ Text.lower rule.source = lowered := by
  have hfound := List.find?_some h
  simp only [Bool.and_eq_true, beq_iff_eq] at hfound
  exact ⟨List.mem_of_find?_eq_some h, hfound⟩

section

variable {s : Snapshot} {rule : ForwardRule} {request : Request} {location : Text}

/-- A request is sent to the target of a rule that can be reached. -/
theorem reached_of_redirected (h : (verdict s request).location? = some location) :
    ∃ rule, Reached s rule ∧ rule.target = location := by
  obtain ⟨-, status, -, hverdict⟩ | ⟨hadmitted, rule, hrule, hverdict⟩ | ⟨-, -, hverdict⟩ :=
    verdict_cases s request
  · rw [hverdict] at h
    cases h
  · rw [hverdict] at h
    obtain ⟨-, -, hsource⟩ := of_forwardOf? hrule
    refine ⟨rule, ⟨List.ne_nil_of_mem hadmitted.method, ?_, ?_, ?_⟩, Option.some.inj h⟩
    · rw [hsource, hadmitted.restrict]
    · rw [hsource, hadmitted.exclude]
    · rw [hsource, hrule]
  · exfalso
    rw [hverdict, conditionalVerdict] at h
    cases hguard : guardOf? s.urlPaths.conditional request.path with
    | none =>
      rw [hguard] at h
      cases h
    | some guard =>
      rw [hguard] at h
      by_cases hserves : serves guard request = true <;> simp [hserves, Verdict.location?] at h

/-- A rule that can be reached sends a request for its path to its target. -/
theorem Reached.exists_redirected (hhost : s.validateHost = false) (h : Reached s rule) :
    ∃ request, (verdict s request).location? = some rule.target := by
  obtain ⟨method, hmethod⟩ := List.exists_mem_of_ne_nil _ h.methods
  -- any host will do, since no configuration asks for it
  let request : Request := ⟨method, [], rule.source, [], [], []⟩
  have hadmitted : Admitted s request :=
    ⟨by simp [refusesHost, hhost], hmethod, h.restrict, h.exclude⟩
  refine ⟨request, ?_⟩
  obtain ⟨hnot, -⟩ | ⟨-, other, hother, hverdict⟩ | ⟨-, hnone, -⟩ := verdict_cases s request
  · exact absurd hadmitted hnot
  · obtain rfl : rule = other := Option.some.inj (h.first.symm.trans hother)
    rw [hverdict, Verdict.location?]
  · exact absurd (h.first.symm.trans hnone) (by simp)

end

/-- A request is sent to a location that begins with a slash. -/
theorem slash_of_redirected {t : Text} {request : Request} {location : Text}
    (h : (verdict (Snapshot.ofText t) request).location? = some location) :
    ['/'] <+: location := by
  obtain ⟨rule, hreached, rfl⟩ := reached_of_redirected h
  obtain ⟨hmem, hvalid, -⟩ := of_forwardOf? hreached.first
  obtain ⟨entry, rfl⟩ := Config.forward_ofText t rule hmem
  exact ForwardRule.slash_of_isValid hvalid

/-- Requests are sent to places of the site only, just if no rule that can be reached has a
destination that begins with two slashes. -/
theorem redirects_local_iff (t : Text) :
    (∀ (request : Request) (location : Text),
        (verdict (Snapshot.ofText t) request).location? = some location → IsLocal location) ↔
      ∀ rule, Reached (Snapshot.ofText t) rule → ¬ ['/', '/'] <+: rule.target := by
  constructor
  · intro h rule hrule
    obtain ⟨request, hlocation⟩ := hrule.exists_redirected (Config.validateHost_ofText t)
    exact (h request rule.target hlocation).2
  · intro h request location hlocation
    refine ⟨slash_of_redirected hlocation, ?_⟩
    obtain ⟨rule, hrule, rfl⟩ := reached_of_redirected hlocation
    exact h rule hrule

/-- A configuration that forwards one path to another host. -/
def awayConfig : Text :=
  ["HTTP\n", "allowed-methods GET\n", "URLPaths\n", "forward-paths ", "/old|//example.com"].flatMap
    String.toList

/-- That configuration sends a visitor of the path to the other host. -/
theorem not_redirects_local :
    ¬ ∀ (t : Text) (request : Request) (location : Text),
      (verdict (Snapshot.ofText t) request).location? = some location → IsLocal location := by
  intro h
  have haway : (verdict (Snapshot.ofText awayConfig)
      ⟨"GET".toList, [], "/old".toList, [], [], []⟩).location? =
        some "//example.com".toList := by
    decide +kernel
  exact (h _ _ _ haway).2 ⟨"example.com".toList, rfl⟩

end Gate

end SiteGate
