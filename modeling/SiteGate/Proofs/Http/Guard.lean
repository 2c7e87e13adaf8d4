import SiteGate.Http.Guard
import SiteGate.Proofs.Gate.Stages
import SiteGate.Proofs.Text.Utf8

/-!
# The guard's answers

What the guard answers tells what it has decided: a request that it does not answer is one that the
gate allows (`answer?_eq_none_iff`), and an answer with a location is a redirect there
(`redirected_of_answer`), which is sent as it is unless the location has control characters
(`redirect_of_noControls`). All statuses of the gate can be sent (`isStatus_of_denied`), so the
guard never falls back on another one.
-/

set_option autoImplicit false

namespace SiteGate.Http

/-! ## Decisions -/

/-- Only a request that the gate allows is left to others. -/
theorem answer?_eq_none_iff {d : Guarded} : d.answer? = none ↔ d = .asked .allowed := by
  cases d with
  | blocked => simp [Guarded.answer?]
  | maintenance => simp [Guarded.answer?]
  | asked v => cases v <;> simp [Guarded.answer?]

/-- What the guard asks is the gate's verdict. -/
theorem verdict_of_asked {s : Config.Snapshot} {r : Incoming} {v : Gate.Verdict}
    (h : guard s r = .asked v) : Gate.verdict s r.view = v := by
  unfold guard at h
  split at h
  · cases h
  split at h
  · cases h
  · exact Guarded.asked.inj h

/-- The statuses of the gate can be sent. -/
theorem isStatus_of_denied {s : Config.Snapshot} {request : Gate.Request} {status : Nat}
    (h : Gate.verdict s request = .denied status) : isStatus status = true := by
  obtain ⟨-, refusal, hrefusal, hverdict⟩ | ⟨-, rule, -, hverdict⟩ | ⟨-, -, hverdict⟩ :=
    Gate.verdict_cases s request
  · have hstatuses : ∀ n ∈ Gate.refusals, isStatus n = true := by decide
    rw [hverdict] at h
    rw [← Gate.Verdict.denied.inj h]
    exact hstatuses refusal hrefusal
  · rw [hverdict] at h
    cases h
  · rw [hverdict, Gate.conditionalVerdict] at h
    cases hguard : Gate.guardOf? s.urlPaths.conditional request.path with
    | none => simp [hguard] at h
    | some rule =>
      have hbounds := rule.denialStatus_bounds
      by_cases hserves : Gate.serves rule request = true
      · simp [hguard, hserves] at h
      · obtain rfl : rule.denialStatus = status := by simpa [hguard, hserves] using h
        simpa [isStatus] using hbounds

/-! ## Redirects -/

/-- A text has no control characters. -/
def NoControls (t : Text) : Prop := ∀ c ∈ t, 32 ≤ c.toNat ∧ c.toNat ≠ 127

/-- A text without control characters can be sent in a header. -/
theorem isValueByte_encode {t : Text} (h : NoControls t) :
    (Text.encode t).all isValueByte = true := by
  rw [List.all_eq_true]
  intro b hb
  obtain ⟨c, hc, hbyte⟩ := List.mem_flatMap.mp hb
  obtain ⟨hlow, hdelete⟩ := h c hc
  have hnumber : 32 ≤ b.toNat ∧ b.toNat ≠ 127 := by
    obtain ⟨hone, rfl⟩ | ⟨-, hupper⟩ := Text.mem_encodeChar hbyte
    · rw [Text.toNat_byte (by omega)]
      exact ⟨hlow, hdelete⟩
    · omega
  have hne : b ≠ 127 := by
    rintro rfl
    exact hnumber.2 rfl
  simp [isValueByte, UInt8.le_iff_toNat_le, hnumber.1, hne]

/-- A location without control characters is sent. -/
theorem redirect_of_noControls {location : Text} (h : NoControls location) :
    Answer.redirect location = ⟨307, some location, none, []⟩ := by
  rw [Answer.redirect, if_pos (isValueByte_encode h)]
  rfl

/-- An answer with a location is a redirect to it. -/
theorem redirected_of_answer {d : Guarded} {status : Nat} {location : Text} {type : Option Text}
    {body : Bytes} (h : d.answer? = some ⟨status, some location, type, body⟩) :
    d = .asked (.redirected location) := by
  cases d with
  | blocked => cases h
  | maintenance => cases h
  | asked v =>
    cases v with
    | allowed => cases h
    | denied refused => cases h
    | redirected other =>
      have hanswer : Answer.redirect other = ⟨status, some location, type, body⟩ :=
        Option.some.inj h
      unfold Answer.redirect at hanswer
      split at hanswer
      · cases hanswer
        rfl
      · cases hanswer

end SiteGate.Http
