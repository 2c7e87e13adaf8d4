import SiteGate.Proofs.Config.Document
import SiteGate.Proofs.Config.LastWord
import SiteGate.Proofs.Config.Reading

/-!
# Whether the reader believes an update

The document edits the first line that it finds for a setting, and the reader goes by the last line
that gives the setting a value. So an update of a file may be reported as done and have no effect.

Whether it has can be told before it is made. The edited line comes to stand in its slot whatever
the value is, and it says the same to the lines below it whatever the value is. The reader believes
it if it is given the setting there, if no line below is, and if the text that is joined before the
line, which is there only in files that do not fold cleanly, does not cut the value (`Believed`).
Where this is so every value is read back, and where it is not some value is not
(`updateText_effective_iff`).
-/

set_option autoImplicit false

namespace SiteGate.Config

/-- The section and the key, or the directive, that are asked for when a setting is updated. -/
def Setting.AddressedBy (x : Setting) (parent key : Text) : Prop :=
  Text.lower (Text.trim key) = x.name ∧
    match x with
    | .key k => ∃ s : Section, k ∈ s.keys ∧ Section.ofBareLine? parent = some s
    | .directive _ => Text.trim parent = []

/-- The reader goes by the line that is edited in a slot: it speaks about the setting below the
lines above it, nothing cuts its value, and no line below it has a later word. -/
structure Slot.Believed (slot : Slot) (x : Setting) : Prop where
  joined : ∀ c ∈ slot.joined, Text.isBlank c = false
  said : saidOf? x (statement? slot.above (slot.joined ++ x.name)) ≠ none
  last : lastSaid? x (statements ((slot.joined ++ x.name) :: slot.above) slot.below) = none

/-! ## The line in its slot -/

/-- What trimmed lines leave to be joined does not begin with a blank. -/
theorem cutBefore_head {lines : List Text} (h : ∀ line ∈ lines, Text.IsTrimmed line) :
    ∀ c ∈ (cutBefore lines).2.head?, Text.isBlank c = false := by
  fun_induction cutBefore lines with
  | case1 => simp
  | case2 line hopen =>
    intro c hc
    apply (h line (by simp)).head c
    have hbegin := List.dropLast_prefix line
    cases hkept : line.dropLast with
    | nil => simp [hkept] at hc
    | cons d kept =>
      obtain ⟨rest, hrest⟩ := hbegin
      rw [← hrest, hkept]
      simpa [hkept] using hc
  | case3 line hopen => simp
  | case4 line next rest hopen ih => exact ih fun l hl => h l (by simp [hl])
  | case5 line next rest hopen ih => exact ih fun l hl => h l (by simp_all)

/-- The text that is joined before an edited line does not begin with a blank. -/
theorem Document.slot_joined_head (d : Document) (pos : Nat) :
    ∀ c ∈ (d.slot pos).joined.head?, Text.isBlank c = false := by
  apply cutBefore_head
  intro line hline
  obtain ⟨e, -, rfl⟩ := List.mem_map.mp hline
  exact isTrimmed_trimLine e.raw

/-- Whatever the value is, the edited line speaks about the setting or does not. -/
theorem statement?_edited {x : Setting} {joined gap value : Text} (above : List Text)
    (halike : Alike (joined ++ (x.name ++ gap ++ value)) (joined ++ x.name)) :
    saidOf? x (statement? above (joined ++ (x.name ++ gap ++ value))) =
      (saidOf? x (statement? above (joined ++ x.name))).map fun _ =>
        (splitKeyValue (joined ++ (x.name ++ gap ++ value))).2 := by
  cases hsaid : saidOf? x (statement? above (joined ++ x.name)) with
  | some other =>
    obtain ⟨hheld, hopen, -⟩ := statement?_eq_setting_iff.mp (saidOf?_eq_some_iff.mp hsaid)
    exact saidOf?_eq_some_iff.mpr
      (statement?_eq_setting_iff.mpr ⟨(halike.held x).mpr hheld, hopen, rfl⟩)
  | none =>
    cases hline : saidOf? x (statement? above (joined ++ (x.name ++ gap ++ value))) with
    | none => rfl
    | some other =>
      obtain ⟨hheld, hopen, -⟩ := statement?_eq_setting_iff.mp (saidOf?_eq_some_iff.mp hline)
      have hshape := statement?_eq_setting_iff.mpr ⟨(halike.held x).mp hheld, hopen, rfl⟩
      rw [saidOf?_eq_some_iff.mpr hshape] at hsaid
      cases hsaid

/-- After an update a setting has the value of a line below the edited one, or else what is read on
the edited line, or else the value of a line above it. -/
theorem get_updateText {t parent key value : Text} {pos : Nat} {x : Setting}
    (hpos : (Document.ofText t).findKey (Text.trim parent) (Text.lower (Text.trim key)) = some pos)
    (hkey : Text.lower (Text.trim key) = x.name) (hvalue : Writable value) :
    let slot := (Document.ofText t).slot pos
    let shape := slot.joined ++ x.name
    ∃ gap, Text.Blank gap ∧ (gap = [] ↔ trimLine value = []) ∧
      (updateText t parent key value).1 = true ∧
      (Snapshot.ofText (updateText t parent key value).2).get x =
        (((lastSaid? x (statements (shape :: slot.above) slot.below)).or
          ((saidOf? x (statement? slot.above shape)).map fun _ =>
            (splitKeyValue (slot.joined ++ (x.name ++ gap ++ trimLine value))).2)).map x.read).getD
          (((statements [] slot.above.reverse).foldl Snapshot.obey .empty).get x) := by
  intro slot shape
  obtain ⟨gap, hgap, hempty, hfound, hlines⟩ := logicalLines_updateText hpos hkey hvalue
  refine ⟨gap, hgap, hempty, hfound, ?_⟩
  have halike : Alike (slot.joined ++ (x.name ++ gap ++ trimLine value))
      (slot.joined ++ x.name) := by
    have happend := alike_append x ((Document.ofText t).slot_joined_head pos)
      (isBlank_head_of_gap hgap hempty.mp)
    simpa only [List.append_assoc] using happend
  rw [ofText_eq_foldl_around hlines, List.reverse_reverse, statements_of_alike halike,
    Snapshot.get_foldl_obey]
  cases hlast : lastSaid? x (statements (shape :: slot.above) slot.below) with
  | some other => rfl
  | none =>
    have hsaid := statement?_edited slot.above halike
    cases hshape : saidOf? x (statement? slot.above shape) with
    | some other =>
      rw [hshape] at hsaid
      rw [saidOf?_eq_some_iff.mp hsaid]
      simp [Snapshot.obey, Snapshot.get_set_self]
    | none =>
      rw [hshape] at hsaid
      rw [Snapshot.get_obey_of_not_said hsaid]
      rfl

/-! ## Believed and effective -/

/-- What is written on a line that the reader goes by is read back. -/
theorem get_updateText_of_believed {t parent key value : Text} {pos : Nat} {x : Setting}
    (hpos : (Document.ofText t).findKey (Text.trim parent) (Text.lower (Text.trim key)) = some pos)
    (hkey : Text.lower (Text.trim key) = x.name) (hvalue : Writable value)
    (h : ((Document.ofText t).slot pos).Believed x) :
    (Snapshot.ofText (updateText t parent key value).2).get x = x.read (trimLine value) := by
  obtain ⟨gap, hgap, hempty, -, hget⟩ := get_updateText hpos hkey hvalue
  obtain ⟨other, hsaid⟩ := Option.ne_none_iff_exists'.mp h.said
  rw [hget, h.last, hsaid, splitKeyValue_edited x h.joined hgap hempty]
  rfl

/-- If the text that is joined before an edited line has a blank, the value that is read begins with
a part of that text and the name. -/
theorem splitKeyValue_joined {x : Setting} {joined gap value : Text}
    (hhead : ∀ c ∈ joined.head?, Text.isBlank c = false) (hempty : gap = [] ↔ trimLine value = [])
    (hblank : ¬ ∀ c ∈ joined, Text.isBlank c = false) :
    ∃ before, (splitKeyValue (joined ++ (x.name ++ gap ++ trimLine value))).2 =
      before ++ (x.name ++ gap ++ trimLine value) := by
  obtain ⟨rest, heq, hrest⟩ := Text.eq_word_append joined
  have hword : ∀ c ∈ Text.word joined, Text.isBlank c = false :=
    fun c hc => Text.isBlank_of_mem_word hc
  have hne : rest ≠ [] := by
    rintro rfl
    rw [List.append_nil] at heq
    exact hblank fun c hc => hword c (heq ▸ hc)
  have hfirst : Text.word joined ≠ [] := by
    intro hnil
    rw [hnil, List.nil_append] at heq
    cases rest with
    | nil => exact hne rfl
    | cons b rest =>
      have hb := hhead b (by simp [heq])
      rw [hrest b (by simp)] at hb
      cases hb
  have hline : joined ++ (x.name ++ gap ++ trimLine value) =
      Text.word joined ++ (rest ++ (x.name ++ gap ++ trimLine value)) := by
    rw [← List.append_assoc (Text.word joined), ← heq]
  have hnext : ∀ c ∈ (rest ++ (x.name ++ gap ++ trimLine value)).head?,
      Text.isBlank c = true := by
    cases rest with
    | nil => exact absurd rfl hne
    | cons b rest => simpa using hrest b (by simp)
  have hkept := x.isTrimmed_append (isTrimmed_trimLine value) hempty
  refine ⟨Text.trimStart rest, ?_⟩
  rw [hline, splitKeyValue_append hword hfirst hnext,
    Text.trim_append_isTrimmed rest hkept (by simp [x.name_ne_nil])]

/-- If every value is read back, the reader goes by the edited line. -/
theorem believed_of_get_updateText {t parent key : Text} {pos : Nat} {x : Setting}
    (hpos : (Document.ofText t).findKey (Text.trim parent) (Text.lower (Text.trim key)) = some pos)
    (hkey : Text.lower (Text.trim key) = x.name)
    (h : ∀ value, Writable value →
      (Snapshot.ofText (updateText t parent key value).2).get x = x.read (trimLine value)) :
    ((Document.ofText t).slot pos).Believed x := by
  -- No two values may be read as one.
  have hvaries : ∀ v : Value, ¬ ∀ value, Writable value → v = x.read (trimLine value) := by
    intro v hv
    obtain ⟨hwritable, htrim⟩ := x.writable_sample
    have hsample := hv x.sample hwritable
    rw [htrim, hv [] Setting.writable_nil] at hsample
    exact x.read_sample_ne hsample.symm
  have hhead := (Document.ofText t).slot_joined_head pos
  have hget := fun value (hvalue : Writable value) => get_updateText hpos hkey hvalue
  generalize (Document.ofText t).slot pos = slot at hhead hget ⊢
  have hlast : lastSaid? x
      (statements ((slot.joined ++ x.name) :: slot.above) slot.below) = none := by
    by_contra hne
    obtain ⟨other, hother⟩ := Option.ne_none_iff_exists'.mp hne
    apply hvaries (x.read other)
    intro value hvalue
    obtain ⟨gap, -, -, -, hfield⟩ := hget value hvalue
    rw [← h value hvalue, hfield, hother]
    rfl
  have hsaid : saidOf? x (statement? slot.above (slot.joined ++ x.name)) ≠ none := by
    intro hnone
    apply hvaries (((statements [] slot.above.reverse).foldl Snapshot.obey .empty).get x)
    intro value hvalue
    obtain ⟨gap, -, -, -, hfield⟩ := hget value hvalue
    rw [← h value hvalue, hfield, hlast, hnone]
    rfl
  refine ⟨?_, hsaid, hlast⟩
  by_contra hblank
  obtain ⟨value, hvalue, htells⟩ := x.exists_tells
  obtain ⟨gap, hgap, hempty, -, hfield⟩ := hget value hvalue
  obtain ⟨before, hbefore⟩ := splitKeyValue_joined (x := x) hhead hempty hblank
  obtain ⟨other, hother⟩ := Option.ne_none_iff_exists'.mp hsaid
  apply htells before gap hgap hempty
  rw [← h value hvalue, hfield, hlast, hother, ← hbefore]
  rfl

/-- An update that finds no line for its key does not report one. -/
theorem exists_findKey_of_updateText {t parent key value : Text}
    (h : (updateText t parent key value).1 = true) :
    ∃ pos, (Document.ofText t).findKey (Text.trim parent) (Text.lower (Text.trim key)) =
      some pos := by
  cases hpos : (Document.ofText t).findKey (Text.trim parent) (Text.lower (Text.trim key)) with
  | some pos => exact ⟨pos, rfl⟩
  | none => simp [updateText, Document.setValue?, hpos] at h

/-- Updates of a setting that are reported as done take effect, whatever the value is, just if the
reader goes by the line that the document edits. -/
theorem updateText_effective_iff {t parent key : Text} {x : Setting}
    (hx : x.AddressedBy parent key) :
    (∀ value, Writable value → (updateText t parent key value).1 = true →
      (Snapshot.ofText (updateText t parent key value).2).get x = x.read (trimLine value)) ↔
    ∀ pos, (Document.ofText t).findKey (Text.trim parent) (Text.lower (Text.trim key)) = some pos →
      ((Document.ofText t).slot pos).Believed x := by
  constructor
  · intro h pos hpos
    apply believed_of_get_updateText hpos hx.1
    intro value hvalue
    obtain ⟨_, -, -, hfound, -⟩ := get_updateText hpos hx.1 hvalue
    exact h value hvalue hfound
  · intro h value hvalue hfound
    obtain ⟨pos, hpos⟩ := exists_findKey_of_updateText hfound
    exact get_updateText_of_believed hpos hx.1 hvalue (h pos hpos)

/-- A file in which the free data and a section that a stray line has ended repeat a key. -/
def repeatedFile : Text := "Site\n hostname a\nData\n hostname b\nSite\nstray\nhostname c".toList

/-- Neither the free data nor a line that no section owns has a later word. -/
theorem updateText_effective_repeatedFile :
    (Setting.key .hostname).AddressedBy "Site".toList "hostname".toList ∧
      Writable "d".toList ∧
      (updateText repeatedFile "Site".toList "hostname".toList "d".toList).1 = true ∧
      (Snapshot.ofText (updateText repeatedFile "Site".toList "hostname".toList "d".toList).2).get
        (.key .hostname) = (Setting.key .hostname).read (trimLine "d".toList) := by
  have hx : (Setting.key .hostname).AddressedBy "Site".toList "hostname".toList :=
    ⟨by decide, .site, by decide, by decide⟩
  have hvalue : Writable "d".toList := ⟨by decide, by decide⟩
  have hfound : (updateText repeatedFile "Site".toList "hostname".toList "d".toList).1 = true := by
    decide +kernel
  refine ⟨hx, hvalue, hfound, (updateText_effective_iff hx).mpr ?_ _ hvalue hfound⟩
  intro pos hpos
  have hfirst : (Document.ofText repeatedFile).findKey (Text.trim "Site".toList)
      (Text.lower (Text.trim "hostname".toList)) = some 1 := by
    decide +kernel
  obtain rfl : 1 = pos := Option.some.inj (hfirst.symm.trans hpos)
  exact ⟨by decide +kernel, by decide +kernel, by decide +kernel⟩

/-- Where a key is repeated below its section, an update is reported as done and has no effect. -/
theorem not_updateText_effective :
    ¬ ∀ (t parent key value : Text) (x : Setting), x.AddressedBy parent key → Writable value →
      (updateText t parent key value).1 = true →
        (Snapshot.ofText (updateText t parent key value).2).get x = x.read (trimLine value) := by
  intro h
  have hread := h "Site\nhostname a\nhostname b".toList "Site".toList "hostname".toList "c".toList
    (.key .hostname) ⟨by decide, .site, by decide, by decide⟩ ⟨by decide, by decide⟩
    (by decide +kernel)
  revert hread
  decide +kernel

end SiteGate.Config
