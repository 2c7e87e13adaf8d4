import SiteGate.Proofs.Config.Edit
import SiteGate.Proofs.Config.Ownership

/-!
# Which line has the last word

Of all lines that say something about a setting the last one counts (`get_foldl_obey`). Whether a
line speaks about a setting is decided by the lines above it, so a changed line could give the lines
below it another meaning. It does not if the two lines are alike: if neither or both are passed
over, are headers, and hold the same settings (`statements_of_alike`). Lines are alike if they hold
the same setting (`Alike.of_heldBy`), or if they differ only in what comes after a name that both
hold somewhere in their first word (`alike_append`).
-/

set_option autoImplicit false

namespace SiteGate.Config

/-! ## The last word -/

/-- The value that a line gives to a setting. -/
def saidOf? (x : Setting) : Option Statement → Option Text
  | some (.setting y value) => if y = x then some value else none
  | _ => none

/-- The last value that is given to a setting. -/
def lastSaid? (x : Setting) (sts : List (Option Statement)) : Option Text :=
  sts.reverse.findSome? (saidOf? x)

/-- A line gives a setting a value just if that is what the line says. -/
theorem saidOf?_eq_some_iff {x : Setting} {st : Option Statement} {value : Text} :
    saidOf? x st = some value ↔ st = some (.setting x value) := by
  unfold saidOf?
  constructor
  · intro h
    split at h
    · split at h
      · rename_i hx
        rw [hx, Option.some.inj h]
      · cases h
    · cases h
  · rintro rfl
    simp

/-- A setting keeps its value at a line that says nothing about it. -/
theorem Snapshot.get_obey_of_not_said {x : Setting} {st : Option Statement}
    (h : saidOf? x st = none) (s : Snapshot) : (s.obey st).get x = s.get x := by
  match st with
  | none => rfl
  | some (.entry key value) => exact s.get_setData x key value
  | some (.setting y value) =>
    have hne : x ≠ y := by
      rintro rfl
      simp [saidOf?] at h
    exact s.get_set_of_ne hne value

/-- The value of a setting is the last one that was given to it. -/
theorem Snapshot.get_foldl_obey (x : Setting) (sts : List (Option Statement)) (s : Snapshot) :
    (sts.foldl Snapshot.obey s).get x = ((lastSaid? x sts).map x.read).getD (s.get x) := by
  induction sts generalizing s with
  | nil => rfl
  | cons st rest ih =>
    have hlast : lastSaid? x (st :: rest) = (lastSaid? x rest).or (saidOf? x st) := by
      rw [lastSaid?, List.reverse_cons, List.findSome?_append, ← lastSaid?]
      cases h : saidOf? x st <;> simp [h]
    rw [List.foldl_cons, ih, hlast]
    cases lastSaid? x rest with
    | some value => rfl
    | none =>
      cases hst : saidOf? x st with
      | none => simp [s.get_obey_of_not_said hst]
      | some value =>
        rw [saidOf?_eq_some_iff.mp hst]
        simp [obey, s.get_set_self]

/-- Lines that say nothing about a setting may come before or after it is set. -/
theorem Snapshot.set_foldl_obey {x : Setting} {sts : List (Option Statement)}
    (h : ∀ st ∈ sts, saidOf? x st = none) (s : Snapshot) (value : Text) :
    (sts.foldl Snapshot.obey s).set x value = sts.foldl Snapshot.obey (s.set x value) := by
  induction sts generalizing s with
  | nil => rfl
  | cons st rest ih =>
    have hcomm : (s.obey st).set x value = (s.set x value).obey st := by
      match st with
      | none => rfl
      | some (.entry key entry) => exact s.set_setData x value key entry
      | some (.setting y other) =>
        have hne : x ≠ y := by
          rintro rfl
          simpa [saidOf?] using h (some (.setting x other)) (by simp)
        exact s.set_comm hne other value
    rw [List.foldl_cons, List.foldl_cons, ih (fun st' h' => h st' (by simp [h'])), hcomm]

/-! ## Where a line speaks about a setting -/

/-- A line that holds the setting gives it a value below the given lines: they do not end in the
free data, and for a key, a section that has the key owns the line. -/
def Setting.Open (x : Setting) (above : List Text) : Prop :=
  nearestHeader? above ≠ some .data ∧
    ∀ k, x = .key k → ∃ s : Section, k ∈ s.keys ∧ s.owns above = true

/-- A line gives a setting a value just if it holds the setting where that is open, and the value is
what comes after the first word. -/
theorem statement?_eq_setting_iff {above : List Text} {line : Text} {x : Setting} {value : Text} :
    statement? above line = some (.setting x value) ↔
      x.HeldBy line ∧ x.Open above ∧ (splitKeyValue line).2 = value := by
  have hnearest : ∀ {y : Setting}, y.HeldBy line →
      ¬ (nearestHeader? above = some .data ∧ Section.ofBareLine? line = none) →
      nearestHeader? above ≠ some .data := by
    intro y hheld hdata hnearest
    exact hdata ⟨hnearest, Setting.ofBareLine?_of_heldBy hheld⟩
  constructor
  · intro h
    unfold statement? at h
    cases hskip : isSkippable line with
    | true => simp [hskip] at h
    | false =>
      by_cases hdata : nearestHeader? above = some .data ∧ Section.ofBareLine? line = none
      · simp [hskip, hdata] at h
      · cases hd : Directive.ofLine? (Text.lower line) with
        | some d =>
          simp only [hskip, hdata, hd] at h
          obtain ⟨rfl, rfl⟩ := Statement.setting.inj (Option.some.inj h)
          have hheld := Directive.ofLine?_eq_some_iff.mp hd
          exact ⟨hheld, ⟨hnearest hheld hdata, by simp⟩, rfl⟩
        | none =>
          simp only [hskip, hdata, hd] at h
          obtain ⟨k, hk, hst⟩ := Option.map_eq_some_iff.mp h
          obtain ⟨rfl, rfl⟩ := Statement.setting.inj hst
          obtain ⟨s, hs⟩ := findSome?_ownedKey?_eq_some_iff.mp hk
          obtain ⟨howns, hmem, hheld⟩ := Section.ownedKey?_eq_some_iff.mp hs
          refine ⟨hheld, ⟨hnearest hheld hdata, ?_⟩, rfl⟩
          rintro k' hk'
          obtain rfl := Setting.key.inj hk'
          exact ⟨s, hmem, howns⟩
  · rintro ⟨hheld, ⟨habove, hopen⟩, rfl⟩
    have hskip := Setting.isSkippable_of_heldBy hheld
    simp only [statement?, hskip, habove]
    cases x with
    | directive d =>
      rw [Directive.ofLine?_eq_some_iff.mpr hheld]
      simp
    | key k =>
      obtain ⟨s, hk, howns⟩ := hopen k rfl
      have hfound := findSome?_ownedKey?_eq_some_iff.mpr
        ⟨s, Section.ownedKey?_eq_some_iff.mpr ⟨howns, hk, hheld⟩⟩
      have hmatch : s.matchKey? (Text.lower line) = some k :=
        Section.matchKey?_eq_some_iff.mpr ⟨hk, hheld⟩
      simp [Directive.ofLine?_of_matchKey? hmatch, hfound]

/-- A line that says something stands below some of the lines and above the others. -/
theorem exists_of_mem_statements {above lines : List Text} {st : Option Statement}
    (h : st ∈ statements above lines) :
    ∃ before line after, lines = before ++ line :: after ∧
      st = statement? (before.reverse ++ above) line := by
  induction lines generalizing above with
  | nil => cases h
  | cons line rest ih =>
    rcases List.mem_cons.mp h with rfl | h
    · exact ⟨[], line, rest, rfl, rfl⟩
    · obtain ⟨before, line', after, rfl, rfl⟩ := ih h
      exact ⟨line :: before, line', after, rfl, by simp⟩

/-! ## Alike lines -/

/-- Two lines that mean the same for the lines below them. -/
structure Alike (line line' : Text) : Prop where
  skippable : isSkippable line = isSkippable line'
  header : Section.ofBareLine? line = Section.ofBareLine? line'
  lower : ∀ s : Section, Text.lower line = s.name ↔ Text.lower line' = s.name
  held : ∀ x : Setting, x.HeldBy line ↔ x.HeldBy line'

/-- Sections go on past alike lines alike. -/
theorem Alike.passes {line line' : Text} (h : Alike line line') (s : Section) :
    s.passes line = s.passes line' := by
  have hkey : ∀ k, s.matchKey? (Text.lower line) = some k ↔
      s.matchKey? (Text.lower line') = some k := by
    intro k
    rw [Section.matchKey?_eq_some_iff, Section.matchKey?_eq_some_iff, h.held]
  rw [Section.passes, Section.passes, h.skippable, Option.ext hkey]

/-- What lines say is decided by the nearest header and the owners above them. -/
theorem statements_congr {above above' : List Text}
    (hnearest : nearestHeader? above = nearestHeader? above')
    (howns : ∀ s : Section, s.owns above = s.owns above') (lines : List Text) :
    statements above lines = statements above' lines := by
  induction lines generalizing above above' with
  | nil => rfl
  | cons line rest ih =>
    have hline : statement? above line = statement? above' line := by
      simp only [statement?, hnearest, Section.ownedKey?, howns]
    have hrest : statements (line :: above) rest = statements (line :: above') rest := by
      apply ih
      · rw [nearestHeader?_cons, nearestHeader?_cons, hnearest]
      · intro s
        rw [Bool.eq_iff_iff, Section.owns_cons_iff, Section.owns_cons_iff, howns]
    rw [statements, statements, hline, hrest]

/-- Below alike lines, lines say the same. -/
theorem statements_of_alike {line line' : Text} (h : Alike line line') (above lines : List Text) :
    statements (line :: above) lines = statements (line' :: above) lines := by
  apply statements_congr
  · rw [nearestHeader?_cons, nearestHeader?_cons, h.header]
  · intro s
    rw [Bool.eq_iff_iff, Section.owns_cons_iff, Section.owns_cons_iff, h.lower, h.passes]

/-- Lines that are no headers are alike if they are passed over alike and hold the same. -/
theorem Alike.of_not_header {line line' : Text} (h : Section.ofBareLine? line = none)
    (h' : Section.ofBareLine? line' = none) (hskip : isSkippable line = isSkippable line')
    (hheld : ∀ x : Setting, x.HeldBy line ↔ x.HeldBy line') : Alike line line' := by
  refine ⟨hskip, h.trans h'.symm, ?_, hheld⟩
  intro s
  exact iff_of_false (Section.lower_ne_of_ofBareLine?_eq_none h s)
    (Section.lower_ne_of_ofBareLine?_eq_none h' s)

/-- Two lines that hold one setting are alike. -/
theorem Alike.of_heldBy {x : Setting} {line line' : Text} (h : x.HeldBy line)
    (h' : x.HeldBy line') : Alike line line' := by
  apply Alike.of_not_header (Setting.ofBareLine?_of_heldBy h) (Setting.ofBareLine?_of_heldBy h')
  · rw [Setting.isSkippable_of_heldBy h, Setting.isSkippable_of_heldBy h']
  · intro y
    constructor
    · intro hy
      rw [Setting.HeldBy, Setting.name_eq_of_heldBy hy h]
      exact h'
    · intro hy
      rw [Setting.HeldBy, Setting.name_eq_of_heldBy hy h']
      exact h

/-- What comes after a name changes nothing for the lines below, whatever stands before the name. -/
theorem alike_append (x : Setting) {joined rest : Text}
    (hjoined : ∀ c ∈ joined.head?, Text.isBlank c = false)
    (hrest : ∀ c ∈ rest.head?, Text.isBlank c = true) :
    Alike (joined ++ x.name ++ rest) (joined ++ x.name) := by
  obtain ⟨d, hd, hlower, hforeign⟩ := x.exists_foreign_char
  have hheader : ∀ line : Text, d ∈ line → Section.ofBareLine? line = none := fun line hline =>
    Section.ofBareLine?_of_mem hline (x.name_chars hd).2.1 hlower hforeign
  have hhead : ∃ c, (joined ++ x.name).head? = some c ∧ Text.isBlank c = false := by
    cases joined with
    | cons c joined => exact ⟨c, rfl, hjoined c (by simp)⟩
    | nil =>
      cases hname : x.name with
      | nil => exact absurd hname x.name_ne_nil
      | cons c name => exact ⟨c, rfl, (x.name_chars (by simp [hname])).2.1⟩
  obtain ⟨c, hc, hblank⟩ := hhead
  have hc' : (joined ++ x.name ++ rest).head? = some c := by
    rw [List.head?_append, hc]
    rfl
  apply Alike.of_not_header (hheader _ (by simp [hd])) (hheader _ (by simp [hd]))
  · rw [isSkippable_of_head hc hblank, isSkippable_of_head hc' hblank]
  · exact fun y => Setting.heldBy_append_iff fun c hc => .inl (hrest c hc)

end SiteGate.Config
