import SiteGate.Json.Reader
import SiteGate.Proofs.Text.Trim

/-!
# Letters outside of strings

Outside of its strings JSON has few letters: those of its three words, and the one that begins an
exponent. Any other letter can only be read in a string, and after it the reader is in the string
until a quotation mark or a backslash comes. A control character before that ends the reading
(`parse?_eq_none_of_control`).
-/

set_option autoImplicit false

namespace SiteGate.Json

/-- The letters that the words of JSON have after their first one. -/
def wordLetters : Text := "rueals".toList

/-- A word that has begun goes on with letters of words only. -/
def Phase.ExpectsLetters : Phase → Prop
  | .word rest _ => ∀ c ∈ rest, c ∈ wordLetters
  | _ => True

/-- The reader is in a string, and in no escape. -/
def Phase.InString : Phase → Prop
  | .string (.plain _) => True
  | .nameString _ (.plain _) => True
  | _ => False

namespace Reader

/-- No word has begun where a value has ended. -/
theorem expectsLetters_place (stack : List Frame) (j : Json) :
    (place stack j).phase.ExpectsLetters := by
  cases stack with
  | nil => trivial
  | cons frame rest => cases frame <;> trivial

/-- The words that a value may begin with are made of their letters. -/
theorem expectsLetters_valueStep {stack : List Frame} {closable : Bool} {c : Char} {r : Reader}
    (h : valueStep stack closable c = some r) : r.phase.ExpectsLetters := by
  unfold valueStep at h
  repeat' split at h
  all_goals cases h
  all_goals first
    | trivial
    | exact expectsLetters_place _ _
    | (show ∀ c ∈ _, c ∈ wordLetters; decide)

/-- After a value no word begins at once. -/
theorem expectsLetters_afterStep {r r' : Reader} {c : Char} (hr : r.phase.ExpectsLetters)
    (h : afterStep r c = some r') : r'.phase.ExpectsLetters := by
  unfold afterStep at h
  repeat' split at h
  all_goals cases h
  all_goals first
    | exact hr
    | trivial
    | exact expectsLetters_place _ _

/-- Words go on with their letters from one character to the next. -/
theorem expectsLetters_step {r r' : Reader} {c : Char} (hr : r.phase.ExpectsLetters)
    (h : step r c = some r') : r'.phase.ExpectsLetters := by
  unfold step at h
  split at h
  case h_1 closable hphase =>
    split at h
    · cases h
      exact hr
    · exact expectsLetters_valueStep h
  case h_2 members closable hphase =>
    repeat' split at h
    all_goals cases h
    all_goals first
      | exact hr
      | trivial
      | exact expectsLetters_place _ _
  case h_3 members name hphase =>
    repeat' split at h
    all_goals cases h
    all_goals first
      | exact hr
      | trivial
  case h_4 s hphase =>
    obtain ⟨next, -, rfl⟩ := Option.map_eq_some_iff.mp h
    cases next with
    | inl s' => trivial
    | inr token => exact expectsLetters_place _ _
  case h_5 members s hphase =>
    obtain ⟨next, -, rfl⟩ := Option.map_eq_some_iff.mp h
    cases next <;> trivial
  case h_6 n phase hphase =>
    repeat' split at h
    · cases h
      trivial
    · exact expectsLetters_afterStep (expectsLetters_place _ _) h
    · cases h
  case h_7 j hphase => cases h
  case h_8 expected rest j hphase =>
    rw [hphase] at hr
    split at h
    · cases h
      split
      · exact expectsLetters_place _ _
      · exact fun c hc => hr c (by simp [hc])
    · cases h
  all_goals exact expectsLetters_afterStep hr h

/-- Words go on with their letters all through a text. -/
theorem expectsLetters_foldlM {t : Text} {r r' : Reader} (hr : r.phase.ExpectsLetters)
    (h : t.foldlM step r = some r') : r'.phase.ExpectsLetters := by
  induction t generalizing r with
  | nil =>
    obtain rfl := Option.some.inj h
    exact hr
  | cons c rest ih =>
    rw [List.foldlM_cons] at h
    obtain ⟨next, hnext, hrest⟩ := Option.bind_eq_some_iff.mp h
    exact ih (expectsLetters_step hr hnext) hrest

/-! ## In a string -/

/-- No number has the letter p. -/
theorem numberStep_letter (n : Number) (phase : NumberPhase) : numberStep n phase 'p' = none := by
  cases phase <;> rfl

/-- After a value no letter p can come. -/
theorem afterStep_letter (r : Reader) : afterStep r 'p' = none := by
  unfold afterStep
  cases r.phase <;> rfl

/-- A letter p that is read in a string is no part of an escape. -/
theorem stringStep_letter {s : StringState} {next : StringState ⊕ StringToken}
    (h : stringStep s 'p' = some next) : ∃ pieces, next = .inl (.plain pieces) := by
  cases s with
  | plain pieces => exact ⟨_, (Option.some.inj h).symm⟩
  | escape pieces => cases h
  | hex pieces count value => cases h

/-- After the letter p the reader is in a string. -/
theorem inString_of_step_letter {r r' : Reader} (hr : r.phase.ExpectsLetters)
    (h : step r 'p' = some r') : r'.phase.InString := by
  unfold step at h
  split at h
  case h_1 closable hphase =>
    have hvalue : valueStep r.stack closable 'p' = none := by
      simp [valueStep, isDigit]
    rw [if_neg (by decide), hvalue] at h
    cases h
  case h_2 members closable hphase => simp [isSpace] at h
  case h_3 members name hphase => simp [isSpace] at h
  case h_4 s hphase =>
    obtain ⟨next, hnext, rfl⟩ := Option.map_eq_some_iff.mp h
    obtain ⟨pieces, rfl⟩ := stringStep_letter hnext
    trivial
  case h_5 members s hphase =>
    obtain ⟨next, hnext, rfl⟩ := Option.map_eq_some_iff.mp h
    obtain ⟨pieces, rfl⟩ := stringStep_letter hnext
    trivial
  case h_6 n phase hphase =>
    rw [numberStep_letter] at h
    simp [afterStep_letter] at h
  case h_7 j hphase => cases h
  case h_8 expected rest j hphase =>
    rw [hphase] at hr
    have hexpected : 'p' ≠ expected := by
      rintro rfl
      exact absurd (hr 'p' (by simp)) (by decide)
    rw [if_neg hexpected] at h
    cases h
  all_goals
    rw [afterStep_letter] at h
    cases h

/-- A character in a string that neither ends it nor begins an escape is kept, unless it is a
control character. -/
theorem stringStep_plain (pieces : StringToken) {c : Char} (hquote : c ≠ '"')
    (hescape : c ≠ '\\') :
    (c.toNat < 0x20 → stringStep (.plain pieces) c = none) ∧
      ∀ next, stringStep (.plain pieces) c = some next → ∃ kept, next = .inl (.plain kept) := by
  by_cases hcontrol : c.toNat < 0x20
  · simp [stringStep, hquote, hescape, hcontrol]
  · refine ⟨fun h => absurd h hcontrol, ?_⟩
    intro next hnext
    simp only [stringStep, hquote, hescape, hcontrol, if_false] at hnext
    exact ⟨_, (Option.some.inj hnext).symm⟩

/-- In a string the reader stays there, or gives up at a control character, until a quotation mark
or a backslash comes. -/
theorem step_of_inString {r : Reader} {c : Char} (hr : r.phase.InString) (hquote : c ≠ '"')
    (hescape : c ≠ '\\') :
    (c.toNat < 0x20 → step r c = none) ∧ ∀ r', step r c = some r' → r'.phase.InString := by
  obtain ⟨stack, phase⟩ := r
  cases phase with
  | string s =>
    cases s with
    | plain pieces =>
      obtain ⟨hcontrol, hplain⟩ := stringStep_plain pieces hquote hescape
      refine ⟨fun h => by simp only [step, hcontrol h, Option.map_none], ?_⟩
      intro r' hr'
      obtain ⟨next, hnext, rfl⟩ := Option.map_eq_some_iff.mp hr'
      obtain ⟨kept, rfl⟩ := hplain next hnext
      trivial
    | _ => cases hr
  | nameString members s =>
    cases s with
    | plain pieces =>
      obtain ⟨hcontrol, hplain⟩ := stringStep_plain pieces hquote hescape
      refine ⟨fun h => by simp only [step, hcontrol h, Option.map_none], ?_⟩
      intro r' hr'
      obtain ⟨next, hnext, rfl⟩ := Option.map_eq_some_iff.mp hr'
      obtain ⟨kept, rfl⟩ := hplain next hnext
      trivial
    | _ => cases hr
  | _ => cases hr

/-- In a string the reader stays there over any text without quotation marks and backslashes. -/
theorem inString_foldlM {t : Text} {r r' : Reader} (hr : r.phase.InString)
    (ht : ∀ c ∈ t, c ≠ '"' ∧ c ≠ '\\') (h : t.foldlM step r = some r') : r'.phase.InString := by
  induction t generalizing r with
  | nil =>
    obtain rfl := Option.some.inj h
    exact hr
  | cons c rest ih =>
    rw [List.foldlM_cons] at h
    obtain ⟨next, hnext, hrest⟩ := Option.bind_eq_some_iff.mp h
    obtain ⟨hquote, hescape⟩ := ht c (by simp)
    exact ih ((step_of_inString hr hquote hescape).2 next hnext)
      (fun d hd => ht d (by simp [hd])) hrest

end Reader

/-- A text is no JSON if a control character comes after the letter p, with neither a quotation mark
nor a backslash between them. -/
theorem parse?_eq_none_of_control {before between after : Text}
    (h : ∀ c ∈ between, c ≠ '"' ∧ c ≠ '\\') :
    parse? (before ++ 'p' :: (between ++ '\r' :: after)) = none := by
  -- The text is read in four parts, of which the letter and the control character are two.
  rw [parse?, Option.bind_eq_none_iff]
  intro r hr
  exfalso
  rw [List.foldlM_append] at hr
  obtain ⟨r₁, hr₁, hr⟩ := Option.bind_eq_some_iff.mp hr
  rw [List.foldlM_cons] at hr
  obtain ⟨r₂, hr₂, hr⟩ := Option.bind_eq_some_iff.mp hr
  rw [List.foldlM_append] at hr
  obtain ⟨r₃, hr₃, hr⟩ := Option.bind_eq_some_iff.mp hr
  rw [List.foldlM_cons] at hr
  obtain ⟨r₄, hr₄, -⟩ := Option.bind_eq_some_iff.mp hr
  have hletters := Reader.expectsLetters_foldlM (r := Reader.start) trivial hr₁
  have hstring := Reader.inString_foldlM (Reader.inString_of_step_letter hletters hr₂) h hr₃
  have hnone := (Reader.step_of_inString hstring (c := '\r') (by decide) (by decide)).1 (by decide)
  rw [hnone] at hr₄
  cases hr₄

end SiteGate.Json
