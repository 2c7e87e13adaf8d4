/-!
# Associations

Keys with their values, no key twice, in the order in which the keys first came. An association is
looked at through `List.lookup` and through its keys, and `insert` is described by both: the key has
its new value, the other keys have theirs, and a key that is new comes last.
-/

set_option autoImplicit false

namespace SiteGate

/-- Keys with their values. -/
abbrev Association (α β : Type) := List (α × β)

namespace Association

variable {α β : Type} [BEq α]

/-- Gives a key its value, at the key's place if it has one and at the end otherwise. -/
def insert : Association α β → α → β → Association α β
  | [], key, value => [(key, value)]
  | (k, v) :: rest, key, value =>
    if k == key then (k, value) :: rest else (k, v) :: insert rest key value

variable [LawfulBEq α]

/-- A key has the value that it was given. -/
theorem lookup_insert_self (d : Association α β) (key : α) (value : β) :
    List.lookup key (d.insert key value) = some value := by
  induction d with
  | nil => simp [insert]
  | cons entry rest ih =>
    obtain ⟨k, v⟩ := entry
    by_cases h : k = key
    · simp [insert, h]
    · simp [insert, h, List.lookup_cons, ih, beq_false_of_ne (Ne.symm h)]

/-- Other keys keep their values. -/
theorem lookup_insert_of_ne {key other : α} (h : other ≠ key) (d : Association α β) (value : β) :
    List.lookup other (d.insert key value) = List.lookup other d := by
  induction d with
  | nil => simp [insert, List.lookup_cons, beq_false_of_ne h]
  | cons entry rest ih =>
    obtain ⟨k, v⟩ := entry
    by_cases hk : k = key
    · simp [insert, hk, List.lookup_cons, beq_false_of_ne h]
    · simp [insert, hk, List.lookup_cons, ih]

/-- A key that is there keeps its place, and a new one comes last. -/
theorem keys_insert (d : Association α β) (key : α) (value : β) :
    (d.insert key value).map Prod.fst =
      if (d.map Prod.fst).contains key then d.map Prod.fst else d.map Prod.fst ++ [key] := by
  induction d with
  | nil => simp [insert]
  | cons entry rest ih =>
    obtain ⟨k, v⟩ := entry
    by_cases hk : k = key
    · simp [insert, hk]
    · by_cases hm : key ∈ rest.map Prod.fst
      · simp_all [insert]
      · simp_all [insert, Ne.symm hk]

/-- What is in an association after a key has been given its value was in it, or is the key with the
value. -/
theorem mem_insert {d : Association α β} {key : α} {value : β} {entry : α × β}
    (h : entry ∈ d.insert key value) : entry = (key, value) ∨ entry ∈ d := by
  induction d with
  | nil => simpa [insert] using h
  | cons first rest ih =>
    obtain ⟨k, v⟩ := first
    rw [insert] at h
    split at h
    · next hk =>
      rcases List.mem_cons.mp h with rfl | h
      · exact .inl (by rw [eq_of_beq hk])
      · exact .inr (List.mem_cons_of_mem _ h)
    · rcases List.mem_cons.mp h with rfl | h
      · exact .inr List.mem_cons_self
      · exact (ih h).imp_right (List.mem_cons_of_mem _)

/-- A key that is new comes last. -/
theorem insert_of_not_mem {d : Association α β} {key : α} (h : key ∉ d.map Prod.fst) (value : β) :
    d.insert key value = d ++ [(key, value)] := by
  induction d with
  | nil => rfl
  | cons entry rest ih =>
    obtain ⟨k, v⟩ := entry
    obtain ⟨hkey, hrest⟩ : key ≠ k ∧ key ∉ rest.map Prod.fst := by simpa using h
    rw [insert, if_neg (by simpa using Ne.symm hkey), ih hrest]
    rfl

/-- Only the last of two values that a key is given counts. -/
theorem insert_insert (d : Association α β) (key : α) (first second : β) :
    (d.insert key first).insert key second = d.insert key second := by
  induction d with
  | nil => simp [insert]
  | cons entry rest ih =>
    obtain ⟨k, v⟩ := entry
    by_cases h : k == key
    · simp [insert, h]
    · simp [insert, h, ih]

/-- The keys that are kept keep their values. -/
theorem lookup_filter (d : Association α β) (keep : α → Bool) {key : α} (h : keep key = true) :
    List.lookup key (d.filter fun entry => keep entry.1) = List.lookup key d := by
  induction d with
  | nil => rfl
  | cons entry rest ih =>
    obtain ⟨k, v⟩ := entry
    by_cases hk : key = k
    · subst hk
      simp [h]
    · by_cases hkeep : keep k = true
      · simp [hkeep, List.lookup_cons, beq_false_of_ne hk, ih]
      · simp [hkeep, List.lookup_cons, beq_false_of_ne hk, ih]

end Association

end SiteGate
