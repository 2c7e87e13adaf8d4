import SiteGate.Proofs.Json.ReadBack

/-!
# Elements of an array

The reader never looks below the frames that it has put on the stack itself, so it reads a value
above other frames as it reads the value alone (`Above.step`). Where the text of a value comes to
its end, it is where a comma or a closing bracket is read as what follows that value
(`outcome_element`); that holds of a number too, which ends only there. So the texts of values, with
commas between them and in brackets, are read as the array of these values (`parse?_arrayText`).

What can be represented is settled for each element on its own, so an array is accepted if every
array of one of its elements is (`ofText?_arrayText`).
-/

set_option autoImplicit false

namespace SiteGate.Json

/-- The text of an array, from the texts of its elements. -/
def arrayText (elements : List Text) : Text := '[' :: [','].intercalate elements ++ [']']

namespace Reader

/-! ## Reading above other frames -/

/-- The reader with other frames below its own. A value that is complete alone is placed there. -/
def above (base : List Frame) (r : Reader) : Reader :=
  match r.phase with
  | .done j => place (r.stack ++ base) j
  | phase => ⟨r.stack ++ base, phase⟩

variable {base : List Frame} {r r' r₂ : Reader} {c : Char}

/-- A reader that has not come to the end of its value keeps its phase above other frames. -/
@[simp]
theorem above_of_not_done {stack : List Frame} {phase : Phase} (h : ∀ j, phase ≠ .done j) :
    above base ⟨stack, phase⟩ = ⟨stack ++ base, phase⟩ := by
  cases phase with
  | done j => exact absurd rfl (h j)
  | _ => rfl

/-- A value is placed alike alone and above other frames. -/
@[simp]
theorem above_place (base stack : List Frame) (j : Json) :
    (place stack j).above base = place (stack ++ base) j := by
  cases stack with
  | nil => rfl
  | cons frame rest => cases frame <;> rfl

/-- A step behind a value is the same above other frames. -/
theorem afterStep_above (h : afterStep r c = some r') :
    afterStep (r.above base) c = some (r'.above base) := by
  obtain ⟨stack, phase⟩ := r
  by_cases hspace : isSpace c = true
  · rw [afterStep, if_pos hspace] at h ⊢
    cases h
    rfl
  rw [afterStep, if_neg hspace] at h ⊢
  -- only where an item or a member is complete may anything but a blank come
  cases phase with
  | item items =>
    dsimp only at h
    rw [above_of_not_done (by simp)]
    dsimp only
    split at h
    · next hcomma =>
      cases h
      rw [if_pos hcomma, above_of_not_done (by simp), List.cons_append]
    split at h
    · next hcomma hclose =>
      cases h
      rw [if_neg hcomma, if_pos hclose, above_place]
    · cases h
  | member members =>
    dsimp only at h
    rw [above_of_not_done (by simp)]
    dsimp only
    split at h
    · next hcomma =>
      cases h
      rw [if_pos hcomma, above_of_not_done (by simp)]
    split at h
    · next hcomma hclose =>
      cases h
      rw [if_neg hcomma, if_pos hclose, above_place]
    · cases h
  | _ => cases h

/-- A step that begins a value is the same above other frames, where an array may end as well. -/
theorem valueStep_above (base : List Frame) {stack : List Frame} {closable closable' : Bool}
    (hclosable : closable = true → closable' = true) (h : valueStep stack closable c = some r') :
    valueStep (stack ++ base) closable' c = some (r'.above base) := by
  unfold valueStep at h ⊢
  repeat' split at h
  all_goals cases h
  all_goals simp_all

/-- A string is read in the same way wherever the reader is before and after it. -/
theorem Inside.step_above {inside inside' : StringState → Reader}
    {after after' : StringToken → Reader} (h : Inside inside after) (h' : Inside inside' after')
    (hinside : ∀ s, (inside s).above base = inside' s)
    (hafter : ∀ token, (after token).above base = after' token) {s : StringState}
    (hstep : Reader.step (inside s) c = some r') :
    Reader.step (inside' s) c = some (r'.above base) := by
  rw [h.step] at hstep
  obtain ⟨next, hnext, rfl⟩ := Option.map_eq_some_iff.mp hstep
  rw [h'.step, hnext]
  cases next with
  | inl s' => exact congrArg some (hinside s').symm
  | inr token => exact congrArg some (hafter token).symm

/-- The reader reads a character above other frames as it reads it alone. -/
theorem step_above (h : step r c = some r') : step (r.above base) c = some (r'.above base) := by
  obtain ⟨stack, phase⟩ := r
  cases phase with
  | value closable =>
    rw [above_of_not_done (by simp)]
    unfold step at h ⊢
    dsimp only at h ⊢
    split at h
    · next hspace =>
      cases h
      rw [if_pos hspace, above_of_not_done (by simp)]
    · next hspace =>
      rw [if_neg hspace]
      exact valueStep_above base id h
  | name members closable =>
    rw [above_of_not_done (by simp)]
    unfold step at h ⊢
    dsimp only at h ⊢
    repeat' split at h
    all_goals cases h
    all_goals simp_all
  | colon members name =>
    rw [above_of_not_done (by simp)]
    unfold step at h ⊢
    dsimp only at h ⊢
    repeat' split at h
    all_goals cases h
    all_goals simp_all
  | string s =>
    exact (inside_string stack).step_above (inside_string (stack ++ base)) (by simp) (by simp) h
  | nameString members s =>
    exact (inside_nameString stack members).step_above (inside_nameString (stack ++ base) members)
      (by simp) (by simp) h
  | number n phase =>
    rw [above_of_not_done (by simp)]
    unfold step at h ⊢
    dsimp only at h ⊢
    cases hnumber : numberStep n phase c with
    | some next =>
      rw [hnumber] at h
      cases h
      simp
    | none =>
      rw [hnumber] at h
      dsimp only at h ⊢
      split at h
      · next hend =>
        rw [if_pos hend, ← above_place]
        exact afterStep_above h
      · cases h
  | word rest j =>
    cases rest with
    | nil => cases h
    | cons expected rest =>
      rw [above_of_not_done (by simp)]
      unfold step at h ⊢
      dsimp only at h ⊢
      split at h
      · next hc =>
        cases h
        rw [if_pos hc]
        split <;> simp
      · cases h
  | item items => exact afterStep_above (r := ⟨stack, .item items⟩) h
  | member members => exact afterStep_above (r := ⟨stack, .member members⟩) h
  | done j => exact (step_place _ j c).trans (afterStep_above (r := ⟨stack, .done j⟩) h)

/-- One reader stands above other frames where another one stands alone. Before a value has begun, it
may also be at the beginning of an array that may end there. -/
inductive Above (base : List Frame) : Reader → Reader → Prop
  | same (r : Reader) : Above base r (r.above base)
  | start (closable : Bool) : Above base start ⟨base, .value closable⟩

/-- A reader above other frames takes each step that the one alone does. -/
theorem Above.step (h : Above base r r₂) (hstep : Reader.step r c = some r') :
    ∃ r₂', Reader.step r₂ c = some r₂' ∧ Above base r' r₂' := by
  cases h with
  | same => exact ⟨_, step_above hstep, .same r'⟩
  | start closable =>
    by_cases hspace : isSpace c = true
    · obtain rfl : Reader.start = r' := by simpa [Reader.step, Reader.start, hspace] using hstep
      exact ⟨_, by simp [Reader.step, hspace], .start closable⟩
    · have hvalue : valueStep [] false c = some r' := by
        simpa [Reader.step, Reader.start, hspace] using hstep
      refine ⟨_, ?_, .same r'⟩
      simpa [Reader.step, hspace] using valueStep_above base (by simp) hvalue

/-- A reader above other frames reads each text that the one alone does. -/
theorem Above.run {t : Text} (h : Above base r r₂) (hrun : t.foldlM Reader.step r = some r') :
    ∃ r₂', t.foldlM Reader.step r₂ = some r₂' ∧ Above base r' r₂' := by
  induction t generalizing r r₂ with
  | nil =>
    obtain rfl := Option.some.inj hrun
    exact ⟨r₂, rfl, h⟩
  | cons c rest ih =>
    rw [List.foldlM_cons] at hrun
    obtain ⟨next, hnext, hrest⟩ := Option.bind_eq_some_iff.mp hrun
    obtain ⟨next₂, hnext₂, hnextAbove⟩ := h.step hnext
    obtain ⟨r₂', hrest₂, hr'⟩ := ih hnextAbove hrest
    exact ⟨r₂', by rw [List.foldlM_cons, hnext₂]; exact hrest₂, hr'⟩

/-! ## The end of an element -/

/-- The characters that come after an element of an array. -/
def separators : List Char := [',', ']']

/-- A number does not go on with a separator. -/
theorem numberStep_separator (n : Number) (phase : NumberPhase) (hc : c ∈ separators) :
    numberStep n phase c = none := by
  obtain rfl | rfl : c = ',' ∨ c = ']' := by simpa [separators] using hc
  all_goals cases phase <;> rfl

/-- Where a text may end, a value is complete, or a number that may end. -/
theorem eq_of_finish {j : Json} (h : finish r = some j) :
    r = ⟨[], .done j⟩ ∨
      ∃ n phase, r = ⟨[], .number n phase⟩ ∧ numberMayEnd phase = true ∧ j = .number n := by
  obtain ⟨stack, phase⟩ := r
  unfold finish at h
  split at h
  · next j' hstack hphase =>
    cases h
    dsimp only at hstack hphase
    exact .inl (by rw [hstack, hphase])
  · next n phase' hstack hphase =>
    split at h
    · next hend =>
      cases h
      dsimp only at hstack hphase
      exact .inr ⟨n, phase', by rw [hstack, hphase], hend, rfl⟩
    · cases h
  · cases h

/-- Where a text may end, a comma or a closing bracket is read as what comes after the value. -/
theorem Above.step_separator {j : Json} (h : Above base r r₂) (hj : finish r = some j)
    (hc : c ∈ separators) : Reader.step r₂ c = Reader.step (place base j) c := by
  obtain rfl | ⟨n, phase, rfl, hend, rfl⟩ := eq_of_finish hj
  · cases h
    rfl
  · cases h
    rw [above_of_not_done (by simp), step_place]
    simp [Reader.step, numberStep_separator n phase hc, hend]

/-- Above other frames the text of a value is read as that value, if a comma or a closing bracket
comes after it. -/
theorem outcome_element {e : Text} {j : Json} (h : parse? e = some j) (base : List Frame)
    (closable : Bool) (hc : c ∈ separators) (rest : Text) :
    outcome ⟨base, .value closable⟩ (e ++ c :: rest) = outcome (place base j) (c :: rest) := by
  obtain ⟨r, hr, hj⟩ := Option.bind_eq_some_iff.mp h
  obtain ⟨r₂, hr₂, habove⟩ := Above.run (.start closable : Above base _ _) hr
  have hstep := habove.step_separator hj hc
  rw [outcome, List.foldlM_append, hr₂, outcome, List.foldlM_cons, ← hstep]
  rfl

/-- The elements of an array are read one after another, and then the array is complete. -/
theorem outcome_elements (base : List Frame) (e : Text) (es : List Text)
    (h : ∀ x ∈ e :: es, (parse? x).isSome) (done : List Json) (closable : Bool) (rest : Text) :
    outcome ⟨.array done :: base, .value closable⟩ ([','].intercalate (e :: es) ++ ']' :: rest) =
      outcome (place base (.array (done.reverse ++ (e :: es).filterMap parse?))) rest := by
  induction es generalizing e done closable with
  | nil =>
    obtain ⟨j, hj⟩ := Option.isSome_iff_exists.mp (h e (by simp))
    have hclose : step (place (.array done :: base) j) ']' =
        some (place base (.array (j :: done).reverse)) := rfl
    rw [List.intercalate_singleton, outcome_element hj _ _ (by decide), outcome_cons hclose]
    simp [hj]
  | cons e' es ih =>
    obtain ⟨j, hj⟩ := Option.isSome_iff_exists.mp (h e (by simp))
    have hcomma : step (place (.array done :: base) j) ',' =
        some ⟨.array (j :: done) :: base, .value false⟩ := rfl
    have htext : [','].intercalate (e :: e' :: es) ++ ']' :: rest =
        e ++ ',' :: ([','].intercalate (e' :: es) ++ ']' :: rest) := by
      simp
    rw [htext, outcome_element hj _ _ (by decide), outcome_cons hcomma,
      ih e' (fun x hx => h x (List.mem_cons_of_mem e hx))]
    simp [hj]

end Reader

/-! ## Arrays of values -/

/-- The texts of values make the text of the array of these values. -/
theorem parse?_arrayText {es : List Text} (h : ∀ e ∈ es, (parse? e).isSome) :
    parse? (arrayText es) = some (.array (es.filterMap parse?)) := by
  cases es with
  | nil => rfl
  | cons e es =>
    have hopen : Reader.step Reader.start '[' = some ⟨[.array []], .value true⟩ := rfl
    have hread := Reader.outcome_elements [] e es h [] true []
    exact (Reader.outcome_cons hopen _).trans hread

/-- Items are acceptable if each of them is. -/
theorem acceptableItems_iff {depth : Nat} {items : List Json} :
    acceptableItems depth items = true ↔ ∀ j ∈ items, acceptableWithin depth j = true := by
  induction items with
  | nil => simp [acceptableItems]
  | cons j rest ih => simp [acceptableItems, ih]

/-- An array is accepted just if each of its elements is accepted as the only one. -/
theorem acceptable_array_iff {items : List Json} :
    acceptable (.array items) = true ↔ ∀ j ∈ items, acceptable (.array [j]) = true := by
  simp [acceptable, acceptableWithin, maxDepth, acceptableItems_iff]

/-- If every text alone makes the text of an array that is accepted, all of them do. -/
theorem ofText?_arrayText {es : List Text} (hvalue : ∀ e ∈ es, (parse? e).isSome)
    (haccepted : ∀ e ∈ es, (ofText? (arrayText [e])).isSome) :
    ofText? (arrayText es) = some (.array (es.filterMap parse?)) := by
  have hacceptable : acceptable (.array (es.filterMap parse?)) = true := by
    rw [acceptable_array_iff]
    intro j hj
    obtain ⟨e, he, hparse⟩ := List.mem_filterMap.mp hj
    have hone : parse? (arrayText [e]) = some (.array [j]) := by
      rw [parse?_arrayText (by simp [hparse]), List.filterMap_cons_some hparse, List.filterMap_nil]
    have hfilter := haccepted e he
    rw [ofText?, hone, Option.isSome_iff_exists] at hfilter
    obtain ⟨_, hsome⟩ := hfilter
    obtain ⟨hj', haccept⟩ := Option.filter_eq_some_iff.mp hsome
    rwa [Option.some.inj hj']
  rw [ofText?, parse?_arrayText hvalue, Option.filter_some, if_pos hacceptable]

end SiteGate.Json
