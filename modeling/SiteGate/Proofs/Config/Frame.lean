import SiteGate.Proofs.Config.Entries
import SiteGate.Proofs.Config.FoundLine

/-!
# What an update leaves alone

An update asks for a word in a section. It should change no setting but those of the section whose
keys begin with the word, and no entry but those of the free data whose names do. Two things may go
wrong. The edited line has the word for its key, so an abbreviation makes it a line that its section
does not know, and the section no longer owns the lines below. And what the found line says need not
belong to the section at all, or be a key that the word goes beyond.

Neither happens in a file that folds cleanly if the found line, where it says a setting, says a key
of the section that is spelled in full (`SpeaksInFull`). The edited line then holds whatever the
sections that own it look for, so everything below means what it did before
(`FoundLine.statements_edited`). A key of the section in full is always such a word
(`speaksInFull_of_key`).
-/

set_option autoImplicit false

namespace SiteGate.Config

/-- The settings that an update asks for. -/
def Setting.AskedFor (x : Setting) (s : Section) (word : Text) : Prop :=
  ∃ k ∈ s.keys, x = .key k ∧ word <+: k.name

/-- The entries of the free data that an update asks for. -/
def EntryAskedFor (name : Text) (s : Section) (word : Text) : Prop :=
  s = .data ∧ word <+: Text.lower name

/-- Whether a word asks for a setting can be decided from the keys of its section. -/
instance (x : Setting) (s : Section) (word : Text) : Decidable (x.AskedFor s word) :=
  inferInstanceAs (Decidable (∃ k ∈ s.keys, _ ∧ _))

/-- Whether a word asks for an entry can be decided. -/
instance (name : Text) (s : Section) (word : Text) : Decidable (EntryAskedFor name s word) :=
  inferInstanceAs (Decidable (_ ∧ _))

/-- If the line that is found for a word says a setting, that is a key of the section, and the word
is its whole name. -/
def SpeaksInFull (t : Text) (s : Section) (word : Text) : Prop :=
  ∀ above between below header found,
    FoundLine s word (piecesOf t) above between below header found → ∀ x value,
      statement? ((above ++ header :: between).map Piece.line).reverse found.line =
        some (.setting x value) → ∃ k ∈ s.keys, x = .key k ∧ k.name = word

/-! ## An edited line -/

/-- A line with a value is no header, and one without is none if its word is no section's name. -/
theorem IsWord.ofBareLine?_edited {word gap value : Text} (h : IsWord word) (hgap : Text.Blank gap)
    (hempty : gap = [] ↔ trimLine value = [])
    (hname : trimLine value = [] → Section.ofName? word = none) :
    Section.ofBareLine? (word ++ gap ++ trimLine value) = none := by
  have htrim := Text.trim_of_isTrimmed (h.isTrimmed_append (isTrimmed_trimLine value) hempty)
  rw [Section.ofBareLine?, htrim]
  cases hcase : gap with
  | nil =>
    have hnil := hempty.mp hcase
    rw [hnil, List.append_nil, List.append_nil]
    exact hname hnil
  | cons b rest =>
    by_contra hsome
    obtain ⟨s, hs⟩ := Option.ne_none_iff_exists'.mp hsome
    have hblank := (chars_of_lowerAscii_name (Section.ofName?_eq_some_iff.mp hs) (c := b)
      (by simp)).2.1
    rw [hgap b (by simp [hcase])] at hblank
    cases hblank

namespace KeyWord

variable {word gap value : Text}

/-- A line that begins with a word of a key is not passed over. -/
theorem isSkippable_append (h : KeyWord word) (hsign : word.head? ≠ some '#') (rest : Text) :
    isSkippable (word ++ rest) = false := by
  obtain ⟨c, tail, hc⟩ := List.exists_cons_of_ne_nil h.ne_nil
  have hblank : Text.isBlank c = false := h.blank c (by simp [hc])
  have hne : c ≠ '#' := by simpa [hc] using hsign
  rw [isSkippable_of_head (c := c) (by simp [hc]) hblank]
  exact decide_eq_false hne

/-- A line with a value is no header, and one without is none if its key is no section's name. -/
theorem ofBareLine?_edited (h : KeyWord word) (hgap : Text.Blank gap)
    (hempty : gap = [] ↔ trimLine value = [])
    (hname : trimLine value = [] → Section.ofName? word = none) :
    Section.ofBareLine? (word ++ gap ++ trimLine value) = none :=
  h.isWord.ofBareLine?_edited hgap hempty hname

/-- An edited line holds the settings whose names its key begins with. -/
theorem heldBy_edited (hlower : Text.lower word = word) (hgap : Text.Blank gap)
    (hempty : gap = [] ↔ trimLine value = []) {x : Setting} :
    x.HeldBy (word ++ gap ++ trimLine value) ↔ x.name <+: word := by
  have hrest := isBlank_head_of_gap hgap hempty.mp
  rw [List.append_assoc, Setting.heldBy_append_iff fun c hc => .inl (hrest c hc), Setting.HeldBy,
    hlower]

end KeyWord

/-- A section owns lines only below its own header. -/
theorem nearestHeader?_of_owns {s : Section} {above : List Text} (h : s.owns above = true) :
    nearestHeader? above = some s := by
  induction above with
  | nil => cases h
  | cons line above ih =>
    rw [nearestHeader?_cons]
    rcases Section.owns_cons_iff.mp h with hlower | ⟨hpass, howns⟩
    · rw [Section.ofBareLine?_of_lower_eq hlower]
      rfl
    · cases hbare : Section.ofBareLine? line with
      | none => exact ih howns
      | some s' =>
        rw [Section.passes_of_ofBareLine? hbare] at hpass
        cases hpass

namespace FoundLine

variable {t word : Text} {s : Section} {above between below : List Piece} {header found : Piece}

/-- What the found line holds has a name that the word begins with, or that begins with the
word. -/
theorem name_of_heldBy (h : FoundLine s word (piecesOf t) above between below header found)
    (hfolds : ∀ p ∈ piecesOf t, p.FoldsCleanly) (hne : word ≠ [])
    (hlast : word.getLast? ≠ some '\\') {x : Setting} (hx : x.HeldBy found.line) :
    x.name <+: word ∨ word <+: x.name :=
  List.prefix_or_prefix_of_prefix (Setting.heldBy_word_iff.mpr hx)
    (h.begins_found hfolds hne hlast).2

/-- The found line holds what the word holds. -/
theorem heldBy_found (h : FoundLine s word (piecesOf t) above between below header found)
    (hfolds : ∀ p ∈ piecesOf t, p.FoldsCleanly) (hne : word ≠ [])
    (hlast : word.getLast? ≠ some '\\') {x : Setting} (hx : x.name <+: word) :
    x.HeldBy found.line :=
  Setting.heldBy_word_iff.mp (hx.trans (h.begins_found hfolds hne hlast).2)

/-- The lines below the found line say the same after it is edited. -/
theorem statements_edited (h : FoundLine s word (piecesOf t) above between below header found)
    (hfolds : ∀ p ∈ piecesOf t, p.FoldsCleanly) (hne : word ≠ [])
    (hlast : word.getLast? ≠ some '\\') (hfull : SpeaksInFull t s word) {gap value : Text}
    (hgap : Text.Blank gap) (hempty : gap = [] ↔ trimLine value = [])
    (hname : trimLine value = [] → Section.ofName? word = none) :
    let lines := ((above ++ header :: between).map Piece.line).reverse
    statements (found.line :: lines) (below.map Piece.line) =
      statements ((word ++ gap ++ trimLine value) :: lines) (below.map Piece.line) := by
  intro lines
  by_cases hbelow : below = []
  · rw [hbelow]
    rfl
  obtain ⟨hword, hsign, hlower⟩ := h.keyWord hfolds hne hlast
  have hbare := h.ofBareLine?_found hfolds hbelow
  have hbare' := hword.ofBareLine?_edited hgap hempty hname
  apply statements_congr
  · rw [nearestHeader?_cons, nearestHeader?_cons, hbare, hbare']
  intro s'
  have hskip := (h.isSkippable_found hne hlast).1
  have hskip' : isSkippable (word ++ gap ++ trimLine value) = false := by
    rw [List.append_assoc]
    exact hword.isSkippable_append hsign _
  rw [Bool.eq_iff_iff, Section.owns_cons_iff, Section.owns_cons_iff]
  simp only [Section.lower_ne_of_ofBareLine?_eq_none hbare s',
    Section.lower_ne_of_ofBareLine?_eq_none hbare' s', Section.passes, hskip, hskip',
    Bool.false_or, false_or, Option.isSome_iff_exists, Section.matchKey?_eq_some_iff,
    KeyWord.heldBy_edited hlower hgap hempty]
  -- A section that owns both lines finds the same keys on them.
  refine and_congr_left fun howns => exists_congr fun k => and_congr_right fun hk => ?_
  constructor
  · intro hheld
    have hopen : (Setting.key k).Open lines := by
      constructor
      · rw [nearestHeader?_of_owns howns]
        simpa using Section.ne_data_of_mem_keys hk
      rintro k' hk'
      obtain rfl := Setting.key.inj hk'
      exact ⟨s', hk, howns⟩
    obtain ⟨k', -, hkey, hwhole⟩ := hfull _ _ _ _ _ h (.key k) _
      (statement?_eq_setting_iff.mpr ⟨hheld, hopen, rfl⟩)
    obtain rfl := Setting.key.inj hkey
    rw [← hwhole]
    exact List.prefix_rfl
  · exact h.heldBy_found hfolds hne hlast

/-- Neither the found line nor the edited one speaks about a setting that is not asked for. -/
theorem not_said (h : FoundLine s word (piecesOf t) above between below header found)
    (hfolds : ∀ p ∈ piecesOf t, p.FoldsCleanly) (hne : word ≠ [])
    (hlast : word.getLast? ≠ some '\\') (hfull : SpeaksInFull t s word) {gap value : Text}
    (hgap : Text.Blank gap) (hempty : gap = [] ↔ trimLine value = []) {x : Setting}
    (hx : ¬ x.AskedFor s word) :
    let lines := ((above ++ header :: between).map Piece.line).reverse
    saidOf? x (statement? lines found.line) = none ∧
      saidOf? x (statement? lines (word ++ gap ++ trimLine value)) = none := by
  intro lines
  obtain ⟨-, -, hlower⟩ := h.keyWord hfolds hne hlast
  have hfound : ∀ other, statement? lines found.line ≠ some (.setting x other) := by
    intro other hst
    obtain ⟨k, hk, rfl, hwhole⟩ := hfull _ _ _ _ _ h x other hst
    exact hx ⟨k, hk, rfl, hwhole ▸ List.prefix_rfl⟩
  constructor
  · by_contra hsaid
    obtain ⟨other, hother⟩ := Option.ne_none_iff_exists'.mp hsaid
    exact hfound other (saidOf?_eq_some_iff.mp hother)
  · by_contra hsaid
    obtain ⟨other, hother⟩ := Option.ne_none_iff_exists'.mp hsaid
    obtain ⟨hheld, hopen, -⟩ := statement?_eq_setting_iff.mp (saidOf?_eq_some_iff.mp hother)
    have hbegins := (KeyWord.heldBy_edited hlower hgap hempty).mp hheld
    have hheld' := h.heldBy_found hfolds hne hlast hbegins
    exact hfound _ (statement?_eq_setting_iff.mpr ⟨hheld', hopen, rfl⟩)

/-- Neither of them makes an entry that is not asked for. -/
theorem not_entered (h : FoundLine s word (piecesOf t) above between below header found)
    (hfolds : ∀ p ∈ piecesOf t, p.FoldsCleanly) (hne : word ≠ [])
    (hlast : word.getLast? ≠ some '\\') {gap value : Text} (hgap : Text.Blank gap)
    (hempty : gap = [] ↔ trimLine value = []) {name : Text} (hask : ¬ EntryAskedFor name s word) :
    let lines := ((above ++ header :: between).map Piece.line).reverse
    enteredOf? name (statement? lines found.line) = none ∧
      enteredOf? name (statement? lines (word ++ gap ++ trimLine value)) = none := by
  intro lines
  obtain ⟨hword, -, hlower⟩ := h.keyWord hfolds hne hlast
  have hnearest := h.nearestHeader? hfolds
  have hnot : ∀ line : Text, word <+: Text.lower (splitKeyValue line).1 →
      enteredOf? name (statement? lines line) = none := by
    intro line hbegins
    by_contra hentered
    obtain ⟨other, hother⟩ := Option.ne_none_iff_exists'.mp hentered
    obtain ⟨-, hdata, -, hsplit⟩ := statement?_eq_entry_iff.mp (enteredOf?_eq_some_iff.mp hother)
    rw [hsplit] at hbegins
    exact hask ⟨Option.some.inj (hnearest.symm.trans hdata), hbegins⟩
  constructor
  · apply hnot
    obtain ⟨hkey, hbegins⟩ := h.begins_found hfolds hne hlast
    rwa [hkey]
  · apply hnot
    have hsplit := hword.splitKeyValue_edited (List.forall_mem_nil _) hgap hempty
    rw [List.nil_append, List.nil_append] at hsplit
    have hkey : Text.lower (splitKeyValue (word ++ gap ++ trimLine value)).1 = word := by
      rw [hsplit, hlower]
    exact hkey.symm ▸ List.prefix_rfl

/-- An update puts the edited line in the place of the found one. -/
theorem logicalLines_updateText {parent key value : Text}
    (h : FoundLine s (Text.lower (Text.trim key)) (piecesOf t) above between below header found)
    (hfolds : ∀ p ∈ piecesOf t, p.FoldsCleanly) (hparent : Section.ofBareLine? parent = some s)
    (hne : Text.lower (Text.trim key) ≠ [])
    (hlast : (Text.lower (Text.trim key)).getLast? ≠ some '\\') (hvalue : Writable value) :
    ∃ gap, Text.Blank gap ∧ (gap = [] ↔ trimLine value = []) ∧
      (updateText t parent key value).1 = true ∧
      logicalLines (updateText t parent key value).2 =
        (above ++ header :: between).map Piece.line ++
          (Text.lower (Text.trim key) ++ gap ++ trimLine value) :: below.map Piece.line := by
  have hpos := (Document.findKey_eq_some_iff hfolds
    (Section.ofBareLine?_eq_some_iff.mp hparent)).mpr ⟨above, between, below, header, found, h, rfl⟩
  obtain ⟨gap, hgap, hempty, hfound, hnew⟩ :=
    (h.keyWord hfolds hne hlast).1.logicalLines_updateText hpos hvalue
  rw [slot_of_piecesOf_eq h.split hfolds, List.reverse_reverse, List.nil_append] at hnew
  exact ⟨gap, hgap, hempty, hfound, hnew⟩

end FoundLine

/-! ## The settings that are not asked for -/

/-- An update that finds no line leaves the text as it is. -/
theorem updateText_of_findKey_eq_none {t parent key : Text} (value : Text)
    (h : (Document.ofText t).findKey (Text.trim parent) (Text.lower (Text.trim key)) = none) :
    updateText t parent key value = (false, t) := by
  have hrender : (Document.ofText t).render = t := by
    rw [Document.render, Document.ofText, Document.map_raw_ofLines]
    exact List.intercalate_splitOn '\n'
  simp [updateText, Document.setValue?, h, hrender]

/-- A key of the section in full says no other setting. -/
theorem speaksInFull_of_key {t : Text} {s : Section} {k : Key}
    (hfolds : ∀ p ∈ piecesOf t, p.FoldsCleanly) (hk : k ∈ s.keys) : SpeaksInFull t s k.name := by
  have hne : k.name ≠ [] := (Setting.key k).name_ne_nil
  have hlast : k.name.getLast? ≠ some '\\' := (Setting.key k).keyWord.last
  intro above between below header found h x value hst
  obtain ⟨hheld, ⟨-, hopen⟩, -⟩ := statement?_eq_setting_iff.mp hst
  have hname : x.name = k.name := by
    rcases h.name_of_heldBy hfolds hne hlast hheld with hx | hx
    · exact Setting.name_eq_of_begins (y := .key k) hx
    · exact (Setting.name_eq_of_begins (x := .key k) hx).symm
  cases x with
  | directive d => exact absurd hname (by cases d <;> cases k <;> decide)
  | key k' =>
    obtain ⟨s', hk', howns⟩ := hopen k' rfl
    have hnearest := (nearestHeader?_of_owns howns).symm.trans (h.nearestHeader? hfolds)
    obtain rfl := Option.some.inj hnearest
    exact ⟨k', hk', rfl, hname⟩

/-- In a file that folds cleanly an update changes no setting and no entry that it does not ask for,
if the line that is found says nothing but a key of the section in full, and if the word does not
become a header where the value is empty. -/
theorem updateText_keeps {t parent key value : Text} {s : Section}
    (hfolds : ∀ p ∈ piecesOf t, p.FoldsCleanly) (hparent : Section.ofBareLine? parent = some s)
    (hne : Text.lower (Text.trim key) ≠ [])
    (hlast : (Text.lower (Text.trim key)).getLast? ≠ some '\\')
    (hname : trimLine value = [] → Section.ofName? (Text.lower (Text.trim key)) = none)
    (hfull : SpeaksInFull t s (Text.lower (Text.trim key))) (hvalue : Writable value) :
    (∀ x : Setting, ¬ x.AskedFor s (Text.lower (Text.trim key)) →
      (Snapshot.ofText (updateText t parent key value).2).get x = (Snapshot.ofText t).get x) ∧
    ∀ name, ¬ EntryAskedFor name s (Text.lower (Text.trim key)) →
      (Snapshot.ofText (updateText t parent key value).2).datum? name =
        (Snapshot.ofText t).datum? name := by
  cases hpos : (Document.ofText t).findKey (Text.trim parent) (Text.lower (Text.trim key)) with
  | none =>
    rw [updateText_of_findKey_eq_none value hpos]
    exact ⟨fun _ _ => rfl, fun _ _ => rfl⟩
  | some pos =>
    obtain ⟨above, between, below, header, found, h, -⟩ :=
      (Document.findKey_eq_some_iff hfolds (Section.ofBareLine?_eq_some_iff.mp hparent)).mp hpos
    obtain ⟨gap, hgap, hempty, -, hnew⟩ :=
      h.logicalLines_updateText hfolds hparent hne hlast hvalue
    have hbelow := h.statements_edited hfolds hne hlast hfull hgap hempty hname
    rw [ofText_eq_foldl_around hnew, ofText_eq_foldl_around h.logicalLines_eq, hbelow]
    constructor
    · intro x hx
      obtain ⟨hold, hedited⟩ := h.not_said hfolds hne hlast hfull hgap hempty hx
      rw [Snapshot.get_foldl_obey, Snapshot.get_foldl_obey, Snapshot.get_obey_of_not_said hold,
        Snapshot.get_obey_of_not_said hedited]
    · intro name hask
      obtain ⟨hold, hedited⟩ := h.not_entered hfolds hne hlast hgap hempty hask
      rw [Snapshot.datum?_foldl_obey, Snapshot.datum?_foldl_obey,
        Snapshot.datum?_obey_of_not_entered hold, Snapshot.datum?_obey_of_not_entered hedited]

/-- A file with a setting and an entry that look alike, and with a continued value. -/
def lookalikeFile : Text :=
  "Site\n\thostname a, \\\n\t\tb\nportno 80\nstray\nproto x\nData\nhostname y".toList

/-- A host name that is written in full leaves the port and the entry alone. -/
theorem updateText_keeps_lookalikeFile :
    (∀ p ∈ piecesOf lookalikeFile, p.FoldsCleanly) ∧ Writable "c d".toList ∧
      (Snapshot.ofText (updateText lookalikeFile "site".toList "HostName".toList
        "c d".toList).2).get (.key .sitePort) =
          (Snapshot.ofText lookalikeFile).get (.key .sitePort) ∧
      (Snapshot.ofText (updateText lookalikeFile "site".toList "HostName".toList
        "c d".toList).2).datum? "hostname".toList =
          (Snapshot.ofText lookalikeFile).datum? "hostname".toList := by
  have hfolds : ∀ p ∈ piecesOf lookalikeFile, p.FoldsCleanly := by decide +kernel
  have hvalue : Writable "c d".toList := ⟨by decide, by decide⟩
  have hfull : SpeaksInFull lookalikeFile .site (Text.lower (Text.trim "HostName".toList)) :=
    speaksInFull_of_key (k := .hostname) hfolds (by decide)
  have hparent : Section.ofBareLine? "site".toList = some .site := by decide
  have hkept := updateText_keeps hfolds hparent (by decide) (by decide) (by decide) hfull hvalue
  exact ⟨hfolds, hvalue, hkept.1 _ (by decide), hkept.2 _ (by decide)⟩

/-- An abbreviated key makes its section lose the lines below. -/
theorem not_updateText_keeps :
    ¬ ∀ (t parent key value : Text) (s : Section), Section.ofBareLine? parent = some s →
      Writable value → ∀ x : Setting, ¬ x.AskedFor s (Text.lower (Text.trim key)) →
        (Snapshot.ofText (updateText t parent key value).2).get x = (Snapshot.ofText t).get x := by
  intro h
  have hport := h "Site\nhostname a\nportno 80".toList "Site".toList "host".toList "b".toList
    .site (by decide) ⟨by decide, by decide⟩ (.key .sitePort) (by decide)
  revert hport
  decide +kernel

end SiteGate.Config
