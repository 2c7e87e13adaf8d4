import SiteGate.Proofs.Config.NamedLine

/-!
# Who owns a line

What a line of a configuration says is seen from the line and from those above it, without a reader.

* The free data reach from their header down to the next header, and every line there is an entry.
* A line outside of the free data that begins with a directive's name is that directive.
* A section owns a line if the first line above it that is neither passed over nor one of the
  section's own is the section's bare name. What it owns and what matches one of its keys is the
  value of that key.
* Every other line says nothing.

Lines above a line are listed from the nearest one upwards.
-/

set_option autoImplicit false

namespace SiteGate.Config

/-- What a line says: an entry of the free data, or the value of a setting. -/
inductive Statement where
  | entry (key value : Text)
  | setting (x : Setting) (value : Text)
deriving DecidableEq

/-- The snapshot after a line that says something or nothing. -/
def Snapshot.obey (s : Snapshot) : Option Statement → Snapshot
  | none => s
  | some (.entry key value) => s.setData key value
  | some (.setting x value) => s.set x value

/-- The section of the nearest header. -/
def nearestHeader? (above : List Text) : Option Section := above.findSome? Section.ofBareLine?

namespace Section

/-- A line past which a section goes on: it is passed over, or it is one of the section's own. -/
def passes (s : Section) (line : Text) : Bool :=
  isSkippable line || (s.matchKey? (Text.lower line)).isSome

/-- A section owns the line below the given ones: the first of them past which the section does not
go on is its bare name. -/
def owns (s : Section) (above : List Text) : Bool :=
  match above.find? (!s.passes ·) with
  | some line => Text.lower line = s.name
  | none => false

/-- The key that a line holds for the section that owns it. -/
def ownedKey? (s : Section) (above : List Text) (line : Text) : Option Key :=
  if s.owns above then s.matchKey? (Text.lower line) else none

end Section

/-- What a line says below the given ones. -/
def statement? (above : List Text) (line : Text) : Option Statement :=
  let (key, value) := splitKeyValue line
  if isSkippable line then none
  else if nearestHeader? above = some .data ∧ Section.ofBareLine? line = none then
    some (.entry key value)
  else
    match Directive.ofLine? (Text.lower line) with
    | some d => some (.setting (.directive d) value)
    | none =>
      (Section.all.findSome? fun s => s.ownedKey? above line).map fun k => .setting (.key k) value

/-- What each line says, one after the other. -/
def statements (above : List Text) : List Text → List (Option Statement)
  | [] => []
  | line :: rest => statement? above line :: statements (line :: above) rest

/-- What is said by lines one after the other is said by the first part of them, and then by the
second part. -/
theorem statements_append (above lines lines' : List Text) :
    statements above (lines ++ lines') =
      statements above lines ++ statements (lines.reverse ++ above) lines' := by
  induction lines generalizing above with
  | nil => rfl
  | cons line rest ih => simp [statements, ih]

/-! ## Owners -/

/-- The nearest header of one more line is that line, or else the nearest one above it. -/
theorem nearestHeader?_cons (line : Text) (above : List Text) :
    nearestHeader? (line :: above) = (Section.ofBareLine? line).or (nearestHeader? above) := by
  cases h : Section.ofBareLine? line with
  | none => simp [nearestHeader?, h]
  | some s => simp [nearestHeader?, h]

namespace Section

/-- The lower case of a line that is no header is no section's name. -/
theorem lower_ne_of_ofBareLine?_eq_none {line : Text} (h : ofBareLine? line = none) (s : Section) :
    Text.lower line ≠ s.name := by
  intro hs
  rw [ofBareLine?_of_lower_eq hs] at h
  cases h

/-- There is no key in the free data. -/
theorem ne_data_of_mem_keys {s : Section} {k : Key} (h : k ∈ s.keys) : s ≠ .data := by
  rintro rfl
  cases h

/-- A section's key is found on a line just if the section owns the line and the line holds it. -/
theorem ownedKey?_eq_some_iff {s : Section} {above : List Text} {line : Text} {k : Key} :
    s.ownedKey? above line = some k ↔
      s.owns above = true ∧ k ∈ s.keys ∧ (Setting.key k).HeldBy line := by
  unfold ownedKey?
  by_cases howns : s.owns above = true
  · rw [if_pos howns, matchKey?_eq_some_iff]
    simp [howns]
  · simp [howns]

/-- No section finds a key on a line whose first word is a section's name. -/
theorem matchKey?_of_ofHeader? {s s' : Section} {line : Text} (h : ofHeader? line = some s') :
    s.matchKey? (Text.lower line) = none := by
  cases hk : s.matchKey? (Text.lower line) with
  | none => rfl
  | some k =>
    have hheld := (matchKey?_eq_some_iff.mp hk).2
    rw [Setting.ofHeader?_of_heldBy hheld] at h
    cases h

/-- No section finds a key on a header. -/
theorem matchKey?_of_ofBareLine? {s s' : Section} {line : Text} (h : ofBareLine? line = some s') :
    s.matchKey? (Text.lower line) = none :=
  matchKey?_of_ofHeader? (ofHeader?_of_ofBareLine? h)

/-- No section goes on past a header. -/
theorem passes_of_ofBareLine? {s s' : Section} {line : Text} (h : ofBareLine? line = some s') :
    s.passes line = false := by
  simp [passes, isSkippable_of_ofBareLine? h, matchKey?_of_ofBareLine? h]

/-- A section owns what stands below its bare name, and goes on owning below a line past which it
goes on. -/
theorem owns_cons_iff {s : Section} {line : Text} {above : List Text} :
    s.owns (line :: above) = true ↔
      Text.lower line = s.name ∨ s.passes line = true ∧ s.owns above = true := by
  by_cases hpass : s.passes line = true
  · have hlower : Text.lower line ≠ s.name := by
      intro hs
      rw [passes_of_ofBareLine? (ofBareLine?_of_lower_eq hs)] at hpass
      cases hpass
    simp [owns, hpass, hlower]
  · simp [owns, hpass]

end Section

/-- A header is no directive. -/
theorem Directive.ofLine?_of_ofBareLine? {s : Section} {line : Text}
    (h : Section.ofBareLine? line = some s) : Directive.ofLine? (Text.lower line) = none := by
  cases hd : Directive.ofLine? (Text.lower line) with
  | none => rfl
  | some d =>
    have hheld := Directive.ofLine?_eq_some_iff.mp hd
    rw [Setting.ofBareLine?_of_heldBy hheld] at h
    cases h

/-- A line that holds a key is no directive. -/
theorem Directive.ofLine?_of_matchKey? {s : Section} {line : Text} {k : Key}
    (h : s.matchKey? (Text.lower line) = some k) : Directive.ofLine? (Text.lower line) = none := by
  cases hd : Directive.ofLine? (Text.lower line) with
  | none => rfl
  | some d =>
    have hname := Setting.name_eq_of_heldBy (Section.matchKey?_eq_some_iff.mp h).2
      (Directive.ofLine?_eq_some_iff.mp hd)
    exact absurd hname (by cases d <;> cases k <;> decide)

/-- Past lines of its own a section owns what it owned above them. -/
theorem Section.owns_append {s : Section} {lines : List Text}
    (h : ∀ line ∈ lines, s.passes line = true) (above : List Text) :
    s.owns (lines ++ above) = s.owns above := by
  have hnone : lines.find? (!s.passes ·) = none :=
    List.find?_eq_none.mpr fun line hline => by simp [h line hline]
  rw [owns, List.find?_append, hnone, Option.none_or]
  rfl

/-- Past lines that are no headers the nearest header is the one above them. -/
theorem nearestHeader?_append {lines : List Text}
    (h : ∀ line ∈ lines, Section.ofBareLine? line = none) (above : List Text) :
    nearestHeader? (lines ++ above) = nearestHeader? above := by
  rw [nearestHeader?, List.findSome?_append, List.findSome?_eq_none_iff.mpr h, Option.none_or]
  rfl

end SiteGate.Config
