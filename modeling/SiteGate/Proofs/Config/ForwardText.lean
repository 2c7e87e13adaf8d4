import SiteGate.Proofs.Config.ReadableBrackets

/-!
# The text of a forward rule

A forward rule is exported as the text of an entry, and read back as that entry's rule. A destination
that is given stays what it was, kept or refused, because blanks are cut off it only once and the
text that stands for a refused one is refused for the same reason. A destination that is missing does
not: the text that stands for it is there, and is refused for another reason
(`rereads_iff`, `not_rereads`).
-/

set_option autoImplicit false

namespace SiteGate.Config

open ForwardRule (destination)

/-- A rule is the rule of its own text just if its entry gives a destination. -/
theorem ForwardRule.ofText_toText_iff {entry : Text} :
    ofText (ofText entry).toText = ofText entry ↔ destination entry ≠ [] := by
  rw [ofText_toText_eq]
  by_cases hmissing : destination entry = []
  · rw [if_pos hmissing]
    refine iff_of_false (fun h => ?_) (not_not_intro hmissing)
    have htarget : Refusal.absolute.message = (ofText entry).target := congrArg target h
    rw [target_eq_missing_iff.mpr hmissing] at htarget
    exact absurd htarget (by decide)
  · rw [if_neg hmissing]
    exact iff_of_true rfl hmissing

/-- What is exported of a snapshot and can be read is read as its JSON text is. -/
theorem Snapshot.ofJsonText?_of_exportText {s s' : Snapshot}
    (h : ofJsonText? s.exportText = some s') : ofJsonText? s.toJsonText = some s' := by
  rw [ofJsonText?, parse?_exportText] at h
  split at h
  · exact h
  · cases h

/-- A published snapshot is read back with its forward rules looked at again. -/
theorem Snapshot.PublishedFor.ofJsonText? {s : Snapshot} {t : Text} (h : s.PublishedFor t) :
    Snapshot.ofJsonText? s.toJsonText = some { s with urlPaths := s.urlPaths.reread } := by
  have hticks : s.banner.tickCount < UInt64.size := Nat.lt_of_le_of_lt h.ticks h.bounded.seconds
  rw [Snapshot.ofJsonText?, toJsonText, Json.parse?_write s.plain_toJson, Option.bind_some]
  exact ofJson?_readBack_reread h.bounded hticks h.refresh

/-- An entry's rule is the rule of its own text just if the entry gives a destination; otherwise it
is refused for another reason. So the forward rules of a published snapshot are read back from its
JSON text, and from its export where that is JSON, just if none comes of an entry without one. -/
theorem rereads_iff (entry : Text) :
    (ForwardRule.ofText (ForwardRule.ofText entry).toText = ForwardRule.ofText entry ↔
      destination entry ≠ []) ∧
    (destination entry = [] → ForwardRule.ofText (ForwardRule.ofText entry).toText =
      ⟨(ForwardRule.ofText entry).source, Refusal.absolute.message⟩) ∧
    ∀ (s : Snapshot) (t : Text), s.PublishedFor t →
      ∃ s', Snapshot.ofJsonText? s.toJsonText = some s' ∧
        (∀ exported, Snapshot.ofJsonText? s.exportText = some exported → exported = s') ∧
        (s'.urlPaths.forward = s.urlPaths.forward ↔
          ∀ given, ForwardRule.ofText given ∈ s.urlPaths.forward → destination given ≠ []) := by
  refine ⟨ForwardRule.ofText_toText_iff, fun hmissing => ?_, fun s t h => ?_⟩
  · rw [ForwardRule.ofText_toText_eq, if_pos hmissing]
  refine ⟨_, h.ofJsonText?, fun exported hexported => ?_, ?_⟩
  · have hread := Snapshot.ofJsonText?_of_exportText hexported
    rw [h.ofJsonText?] at hread
    exact (Option.some.inj hread).symm
  · have hentries : ∀ r ∈ s.urlPaths.forward, ∃ entry, r = ForwardRule.ofText entry :=
      h.urlPaths ▸ forward_ofText t
    have hkept : s.urlPaths.reread.forward = s.urlPaths.forward ↔
        ∀ r ∈ s.urlPaths.forward, ForwardRule.ofText r.toText = r := by
      rw [← List.map_inj_left, List.map_id']
      rfl
    rw [hkept]
    constructor
    · exact fun hrules given hmem => ForwardRule.ofText_toText_iff.mp (hrules _ hmem)
    · intro hgiven r hr
      obtain ⟨given, rfl⟩ := hentries r hr
      exact ForwardRule.ofText_toText_iff.mpr (hgiven given hr)

/-- A configuration with an entry that gives no destination. -/
def lostConfig : Text := "URLPaths\nforward-paths /old|/new, /gone".toList

/-- Read back, the second rule of that configuration is another one. -/
theorem rereads_iff_lostConfig :
    (Snapshot.ofText lostConfig).PublishedFor lostConfig ∧
    ∃ s', Snapshot.ofJsonText? (Snapshot.ofText lostConfig).toJsonText = some s' ∧
      s'.urlPaths.forward ≠ (Snapshot.ofText lostConfig).urlPaths.forward := by
  have hpublished := Snapshot.publishedFor_ofText lostConfig
  obtain ⟨-, -, hsnapshot⟩ := rereads_iff "/gone".toList
  obtain ⟨s', hread, -, hkept⟩ := hsnapshot _ _ hpublished
  have hmem : ForwardRule.ofText "/gone".toList ∈ (Snapshot.ofText lostConfig).urlPaths.forward := by
    decide +kernel
  refine ⟨hpublished, s', hread, fun hsame => hkept.mp hsame _ hmem ?_⟩
  decide

/-- The rule of an entry without a destination is not the rule of its own text. -/
theorem not_rereads :
    ¬ ∀ entry : Text,
      ForwardRule.ofText (ForwardRule.ofText entry).toText = ForwardRule.ofText entry := by
  intro h
  exact absurd (h "/old".toList) (by decide)

end SiteGate.Config
