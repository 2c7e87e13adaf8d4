import SiteGate.Proofs.Config.LastWord

/-!
# Entries of the free data

Of all lines that enter a name in the free data the last one counts (`Snapshot.datum?_foldl_obey`),
just as it is with settings. Settings and entries do not get in each other's way: what lines make of
the settings is decided by what was there before apart from the free data
(`Snapshot.withoutData_foldl_obey`).

Two snapshots say the same if they differ at most in the order in which the names of the free data
have come (`Snapshot.Same`).
-/

set_option autoImplicit false

namespace SiteGate.Config

/-- The value that a line enters under a name. -/
def enteredOf? (name : Text) : Option Statement → Option Text
  | some (.entry key value) => if key = name then some value else none
  | _ => none

/-- The last value that is entered under a name. -/
def lastEntered? (name : Text) (sts : List (Option Statement)) : Option Text :=
  sts.reverse.findSome? (enteredOf? name)

/-- The free data of a snapshot under a name. -/
def Snapshot.datum? (s : Snapshot) (name : Text) : Option Text := List.lookup name s.data

/-- A snapshot but for its free data. -/
def Snapshot.withoutData (s : Snapshot) : Snapshot := { s with data := [] }

/-- Two snapshots that differ at most in the order of their free data. -/
structure Snapshot.Same (s s' : Snapshot) : Prop where
  settings : s.withoutData = s'.withoutData
  entries : ∀ name, s.datum? name = s'.datum? name

/-- A statement enters a value for a name just if it is an entry of both. -/
theorem enteredOf?_eq_some_iff {name : Text} {st : Option Statement} {value : Text} :
    enteredOf? name st = some value ↔ st = some (.entry name value) := by
  unfold enteredOf?
  constructor
  · intro h
    split at h
    · split at h
      · rename_i hname
        rw [hname, Option.some.inj h]
      · cases h
    · cases h
  · rintro rfl
    simp

/-! ## The last entry -/

namespace Snapshot

/-- Giving a setting a value leaves the free data. -/
theorem datum?_set (s : Snapshot) (x : Setting) (value name : Text) :
    (s.set x value).datum? name = s.datum? name := by
  cases x with
  | key k => cases k <;> rfl
  | directive d => cases d <;> rfl

/-- A value that is entered is there. -/
theorem datum?_setData_self (s : Snapshot) (name value : Text) :
    (s.setData name value).datum? name = some value :=
  Association.lookup_insert_self s.data name value

/-- Entering a value leaves those of other names. -/
theorem datum?_setData_of_ne (s : Snapshot) {name other : Text} (h : other ≠ name)
    (value : Text) : (s.setData name value).datum? other = s.datum? other :=
  Association.lookup_insert_of_ne h s.data value

/-- A name keeps its entry at a line that enters nothing under it. -/
theorem datum?_obey_of_not_entered {name : Text} {st : Option Statement}
    (h : enteredOf? name st = none) (s : Snapshot) : (s.obey st).datum? name = s.datum? name := by
  match st with
  | none => rfl
  | some (.setting x value) => exact s.datum?_set x value name
  | some (.entry key value) =>
    have hne : name ≠ key := by
      rintro rfl
      simp [enteredOf?] at h
    exact s.datum?_setData_of_ne hne value

/-- The entry under a name is the last one that was made. -/
theorem datum?_foldl_obey (name : Text) (sts : List (Option Statement)) (s : Snapshot) :
    (sts.foldl Snapshot.obey s).datum? name = (lastEntered? name sts).or (s.datum? name) := by
  induction sts generalizing s with
  | nil => rfl
  | cons st rest ih =>
    have hlast : lastEntered? name (st :: rest) =
        (lastEntered? name rest).or (enteredOf? name st) := by
      rw [lastEntered?, List.reverse_cons, List.findSome?_append, ← lastEntered?]
      cases h : enteredOf? name st <;> simp [h]
    rw [List.foldl_cons, ih, hlast, Option.or_assoc]
    congr 1
    cases hst : enteredOf? name st with
    | none => rw [s.datum?_obey_of_not_entered hst, Option.none_or]
    | some value =>
      rw [enteredOf?_eq_some_iff.mp hst]
      exact s.datum?_setData_self name value

/-- A name that lines enter nothing under keeps its entry. -/
theorem datum?_foldl_obey_of_not_entered {name : Text} {sts : List (Option Statement)}
    (h : ∀ st ∈ sts, enteredOf? name st = none) (s : Snapshot) :
    (sts.foldl Snapshot.obey s).datum? name = s.datum? name := by
  have hlast : lastEntered? name sts = none := by
    rw [lastEntered?, List.findSome?_eq_none_iff]
    intro st hst
    exact h st (List.mem_reverse.mp hst)
  rw [datum?_foldl_obey, hlast, Option.none_or]

/-! ## Entries and settings -/

/-- Entering a value leaves all but the free data. -/
theorem withoutData_setData (s : Snapshot) (name value : Text) :
    (s.setData name value).withoutData = s.withoutData := rfl

/-- What lines make of the settings does not depend on the free data. -/
theorem withoutData_foldl_obey {s s' : Snapshot} (h : s.withoutData = s'.withoutData)
    (sts : List (Option Statement)) :
    (sts.foldl Snapshot.obey s).withoutData = (sts.foldl Snapshot.obey s').withoutData := by
  induction sts generalizing s s' with
  | nil => exact h
  | cons st rest ih =>
    apply ih
    match st with
    | none => exact h
    | some (.entry key value) => exact h
    | some (.setting x value) =>
      have hset : ∀ s : Snapshot, (s.set x value).withoutData = s.withoutData.set x value := by
        intro s
        cases x with
        | key k => cases k <;> rfl
        | directive d => cases d <;> rfl
      rw [obey, obey, hset, hset, h]

end Snapshot

/-! ## Where a line makes an entry -/

/-- A line makes an entry just if it stands in the free data and is neither passed over nor a
header. -/
theorem statement?_eq_entry_iff {above : List Text} {line name value : Text} :
    statement? above line = some (.entry name value) ↔
      isSkippable line = false ∧ nearestHeader? above = some .data ∧
        Section.ofBareLine? line = none ∧ splitKeyValue line = (name, value) := by
  unfold statement?
  cases hskip : isSkippable line with
  | true => simp
  | false =>
    by_cases hdata : nearestHeader? above = some .data ∧ Section.ofBareLine? line = none
    · simp [hdata, Prod.ext_iff]
    · have hnot : ¬ (nearestHeader? above = some .data ∧ Section.ofBareLine? line = none ∧
          splitKeyValue line = (name, value)) := fun h => hdata ⟨h.1, h.2.1⟩
      cases hd : Directive.ofLine? (Text.lower line) with
      | some d => simp [hdata, hnot]
      | none =>
        have hkey : ∀ found : Option Key, found.map (fun k =>
            Statement.setting (.key k) (splitKeyValue line).2) ≠ some (.entry name value) := by
          intro found h
          obtain ⟨k, -, hk⟩ := Option.map_eq_some_iff.mp h
          cases hk
        simp only [hdata, if_false, Bool.false_eq_true]
        exact iff_of_false (hkey _) (by simpa using hnot)

end SiteGate.Config
