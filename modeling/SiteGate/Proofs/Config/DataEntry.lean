import SiteGate.Proofs.Config.Frame
import SiteGate.Proofs.Config.Reading

/-!
# Updating an entry of the free data

The names of the free data are taken as they are written. The document looks for a name in lower
case, takes the first line of the first block of free data whose key begins with it, and writes the
name in lower case. So an update of a name may miss the name's own line, and rename another entry.

When it cannot go wrong can be told before it is made (`EnteredOnce`): the name is in lower case and
no section's name, the line that the document finds for it has it for its whole key, and no line
further down enters it again. In a file that folds cleanly, and in which no key stands behind a line
with nothing but a backslash, this is not only enough: where it is not so, some value is not entered
as it should be (`updateText_entry_iff`).
-/

set_option autoImplicit false

namespace SiteGate.Config

/-- The document finds the line of a name by that name, and no line below enters it again. -/
structure EnteredOnce (t name : Text) : Prop where
  lower : Text.lower name = name
  nameless : Section.ofName? name = none
  line : ∃ above between below header found,
    FoundLine .data name (piecesOf t) above between below header found ∧
      (splitKeyValue found.line).1 = name ∧
      ∀ st ∈ statements (found.line :: ((above ++ header :: between).map Piece.line).reverse)
        (below.map Piece.line), enteredOf? name st = none

/-! ## Keys -/

/-- The key of a line is its first word, and the value is what is left of it. -/
theorem exists_splitKeyValue (line : Text) :
    ∃ rest, Text.trim line = Text.word (Text.trim line) ++ rest ∧
      splitKeyValue line = (Text.word (Text.trim line), Text.trim rest) := by
  have htrimmed := Text.isTrimmed_trim line
  have htrim : splitKeyValue line = splitKeyValue (Text.trim line) := by
    unfold splitKeyValue
    rw [Text.trim_of_isTrimmed htrimmed]
  obtain ⟨rest, heq, hrest⟩ := Text.eq_word_append (Text.trim line)
  refine ⟨rest, heq, ?_⟩
  cases hline : Text.trim line with
  | nil =>
    rw [hline] at htrim heq
    obtain ⟨-, rfl⟩ := List.append_eq_nil_iff.mp heq.symm
    exact htrim
  | cons c tail =>
    have hword : Text.word (Text.trim line) ≠ [] := by
      simp [hline, Text.word, htrimmed.head c (by simp [hline])]
    have hsplit := splitKeyValue_append (fun c hc => Text.isBlank_of_mem_word hc) hword hrest
    rw [← heq, ← htrim] at hsplit
    rw [hsplit, hline]

/-- A line without a value is its key. -/
theorem fst_splitKeyValue_of_snd_eq_nil {line : Text} (h : (splitKeyValue line).2 = []) :
    (splitKeyValue line).1 = Text.trim line := by
  obtain ⟨rest, heq, hsplit⟩ := exists_splitKeyValue line
  rw [hsplit] at h ⊢
  obtain ⟨pre, post, hpre, hpost, hrest, -⟩ := Text.exists_eq_trim rest
  have hblank : Text.Blank rest := by
    rw [hrest, show Text.trim rest = [] from h, List.append_nil]
    exact hpre.append hpost
  cases hlast : rest.getLast? with
  | none =>
    rw [List.getLast?_eq_none_iff.mp hlast, List.append_nil] at heq
    exact heq.symm
  | some c =>
    -- A trimmed line does not end in a blank.
    have hc : Text.isBlank c = false := by
      apply (Text.isTrimmed_trim line).last c
      rw [heq, List.getLast?_append, hlast]
      rfl
    rw [hblank c (List.mem_of_mem_getLast? hlast)] at hc
    cases hc

/-- The key of a header is the section's name. -/
theorem ofName?_key_of_ofBareLine? {line : Text} {s : Section}
    (h : Section.ofBareLine? line = some s) :
    Section.ofName? (splitKeyValue line).1 = some s := by
  obtain ⟨rest, heq, hsplit⟩ := exists_splitKeyValue line
  have hchars := fun c hc => (chars_of_lowerAscii_name
    (Section.ofBareLine?_eq_some_iff.mp h) (c := c) hc).2.1
  have hnone : ∀ c ∈ ([] : Text).head?, Text.isBlank c = true := by simp
  have hword : Text.word (Text.trim line) = Text.trim line := by
    simpa using Text.word_append hchars hnone
  rw [hsplit, hword]
  exact h

/-! ## Entries and lines -/

/-- No value is entered last just if none is entered. -/
theorem lastEntered?_eq_none_iff {name : Text} {sts : List (Option Statement)} :
    lastEntered? name sts = none ↔ ∀ st ∈ sts, enteredOf? name st = none := by
  simp [lastEntered?, List.findSome?_eq_none_iff]

/-- What lines enter under a name stands on one of them. -/
theorem exists_line_of_lastEntered? {name value : Text} {lines : List Text}
    (h : lastEntered? name (statements [] lines) = some value) :
    ∃ before line after, lines = before ++ line :: after ∧
      statement? before.reverse line = some (.entry name value) := by
  obtain ⟨st, hst, hentered⟩ := List.exists_of_findSome?_eq_some h
  obtain ⟨before, line, after, rfl, rfl⟩ := exists_of_mem_statements (List.mem_reverse.mp hst)
  rw [List.append_nil] at hentered
  exact ⟨before, line, after, rfl, enteredOf?_eq_some_iff.mp hentered⟩

/-- The free data of a text are what its lines enter. -/
theorem datum?_ofText (t name : Text) : (Snapshot.ofText t).datum? name =
    lastEntered? name (statements [] (logicalLines t)) := by
  rw [ofText_eq_foldl_obey, Snapshot.datum?_foldl_obey]
  exact Option.or_none

/-- A name that is entered is a word. -/
theorem word_of_entered {t name : Text} (h : (Snapshot.ofText t).datum? name ≠ none) :
    name ≠ [] ∧ ∀ c ∈ name, Text.isBlank c = false := by
  obtain ⟨value, hvalue⟩ := Option.ne_none_iff_exists'.mp h
  rw [datum?_ofText] at hvalue
  obtain ⟨before, line, after, -, hst⟩ := exists_line_of_lastEntered? hvalue
  obtain ⟨hskip, -, -, hsplit⟩ := statement?_eq_entry_iff.mp hst
  obtain ⟨rest, heq, hword⟩ := exists_splitKeyValue line
  obtain rfl : name = Text.word (Text.trim line) := by
    rw [hsplit] at hword
    exact (Prod.mk.inj hword).1
  refine ⟨?_, fun c hc => Text.isBlank_of_mem_word hc⟩
  have hhead := (Text.isTrimmed_trim line).head
  unfold isSkippable at hskip
  cases hline : Text.trim line with
  | nil => simp [hline] at hskip
  | cons c tail => simp [Text.word, hhead c (by simp [hline])]

/-- A name that is entered without a value is no section's name. -/
theorem ofName?_of_entered_nil {t name : Text} (h : (Snapshot.ofText t).datum? name = some []) :
    Section.ofName? name = none := by
  rw [datum?_ofText] at h
  obtain ⟨before, line, after, -, hst⟩ := exists_line_of_lastEntered? h
  obtain ⟨-, -, hbare, hsplit⟩ := statement?_eq_entry_iff.mp hst
  have hkey := fst_splitKeyValue_of_snd_eq_nil (congrArg Prod.snd hsplit)
  rw [hsplit] at hkey
  rwa [Section.ofBareLine?, ← hkey] at hbare

/-- Settings are not said in the free data. -/
theorem speaksInFull_data {t : Text} (hfolds : ∀ p ∈ piecesOf t, p.FoldsCleanly) (word : Text) :
    SpeaksInFull t .data word := by
  intro above between below header found h x value hst
  obtain ⟨-, ⟨hnearest, -⟩, -⟩ := statement?_eq_setting_iff.mp hst
  exact absurd (h.nearestHeader? hfolds) hnearest

/-! ## Where a name has been entered -/

/-- A key in lower case that is no header and stands on the first line of its piece can be found
there. -/
theorem Piece.holdsKey_first_of_key {p : Piece} {name : Text} (hfolds : p.FoldsCleanly)
    (hvisible : p.joined.isSome = true → p.head ≠ []) (hskip : isSkippable p.line = false)
    (hheader : Document.isHeader p.first = false) (hkey : (splitKeyValue p.line).1 = name)
    (hne : name ≠ []) (hlast : name.getLast? ≠ some '\\') (hlower : Text.lower name = name) :
    Document.holdsKey name p.first = true := by
  have hhead : p.head ≠ [] := by
    intro hnil
    cases hjoined : p.joined with
    | some next => exact hvisible (by simp [hjoined]) hnil
    | none =>
      have hempty : p.line = [] := by simp [Piece.line, hjoined, hnil]
      rw [hempty] at hskip
      cases hskip
  have hsign : p.head.head? ≠ some '#' := by
    intro hsign
    have hfirst : p.line.head? = some '#' := (Piece.head?_line hhead).trans hsign
    rw [isSkippable_of_head hfirst (p.head_not_blank '#' hsign)] at hskip
    cases hskip
  have hword : Text.word p.head = name := by
    rw [← splitKeyValue_fst p.head_not_blank hhead, ← hkey]
    cases hjoined : p.joined with
    | some next => exact ((hfolds (by simp [hjoined])).2.2 hhead).symm
    | none => simp [Piece.line, hjoined]
  have hbare : Section.ofBareLine? (trimLine p.raw) = none := by
    by_contra hbare
    obtain ⟨s, hs⟩ := Option.ne_none_iff_exists'.mp hbare
    simp [Document.isHeader, Piece.first, lineKind_eq_header_iff.mpr hs] at hheader
  rw [Piece.holdsKey_first_iff hne hlast, hword, hlower]
  exact ⟨hhead, hsign, hbare, List.prefix_rfl⟩

namespace FoundLine

variable {t name : Text} {above between below : List Piece} {header found : Piece}

/-- What stands above the found line and below a header of its section stands between the two. -/
theorem mem_between {s : Section} {word : Text}
    (h : FoundLine s word (piecesOf t) above between below header found)
    (hfolds : ∀ p ∈ piecesOf t, p.FoldsCleanly) {before after : List Piece} {p : Piece}
    (heq : above ++ header :: between = before ++ p :: after)
    (hnearest : Config.nearestHeader? (before.map Piece.line).reverse = some s) :
    p ∈ between := by
  have hheader : ¬ ∀ q ∈ before, q ∈ above := by
    intro hsub
    obtain ⟨line, hline, hbare⟩ := List.exists_of_findSome?_eq_some hnearest
    obtain ⟨q, hq, rfl⟩ := List.mem_map.mp (List.mem_reverse.mp hline)
    have hq' : q ∈ above ++ header :: between := List.mem_append_left _ (hsub q hq)
    have hmem : q ∈ piecesOf t := by
      rw [h.split]
      exact List.mem_append_left _ hq'
    have hwhole := (whole_of_piecesOf_eq h.split).1 q hq'
    rw [Piece.ofBareLine?_line_iff (hfolds q hmem) hwhole] at hbare
    exact h.above q (hsub q hq) hbare
  rcases List.append_eq_append_iff.mp heq with ⟨before', rfl, hbefore⟩ | ⟨above', rfl, -⟩
  · cases before' with
    | nil => exact absurd (fun q hq => by simpa using hq) hheader
    | cons q before' =>
      obtain ⟨-, rfl⟩ := List.cons.inj hbefore
      simp
  · exact absurd (fun q hq => List.mem_append_left _ hq) hheader

/-- In a file that folds cleanly and hides no key behind a lone backslash, no line above the found
one enters the name that is looked for. -/
theorem not_entered_above (h : FoundLine .data name (piecesOf t) above between below header found)
    (hfolds : ∀ p ∈ piecesOf t, p.FoldsCleanly)
    (hvisible : ∀ p ∈ piecesOf t, p.joined.isSome = true → p.head ≠ [])
    (hne : name ≠ []) (hlast : name.getLast? ≠ some '\\') (hlower : Text.lower name = name) :
    ∀ st ∈ statements [] ((above ++ header :: between).map Piece.line),
      enteredOf? name st = none := by
  intro st hst
  by_contra hentered
  obtain ⟨value, hvalue⟩ := Option.ne_none_iff_exists'.mp hentered
  obtain ⟨before, line, after, hsplit, rfl⟩ := exists_of_mem_statements hst
  rw [List.append_nil] at hvalue
  obtain ⟨hskip, hnearest, -, hkey⟩ :=
    statement?_eq_entry_iff.mp (enteredOf?_eq_some_iff.mp hvalue)
  obtain ⟨ps, rest, heq, rfl, hrest⟩ := List.map_eq_append_iff.mp hsplit
  obtain ⟨p, qs, rfl, rfl, rfl⟩ := List.map_eq_cons_iff.mp hrest
  have hp : p ∈ between := h.mem_between hfolds heq hnearest
  have hmem : p ∈ piecesOf t := by simp [h.eq, hp]
  -- Between the header and the found line it would have been found.
  have hheld := Piece.holdsKey_first_of_key (hfolds p hmem) (hvisible p hmem) hskip
    (h.between p hp).1 (congrArg Prod.fst hkey) hne hlast hlower
  rw [(h.between p hp).2] at hheld
  cases hheld

/-- A name that is there, and that no line below the found one enters, is the found line's. -/
theorem key_found (h : FoundLine .data name (piecesOf t) above between below header found)
    (hfolds : ∀ p ∈ piecesOf t, p.FoldsCleanly)
    (hvisible : ∀ p ∈ piecesOf t, p.joined.isSome = true → p.head ≠ [])
    (hthere : (Snapshot.ofText t).datum? name ≠ none)
    (hlast : name.getLast? ≠ some '\\') (hlower : Text.lower name = name)
    (hbelow : lastEntered? name (statements
      (found.line :: ((above ++ header :: between).map Piece.line).reverse)
      (below.map Piece.line)) = none) : (splitKeyValue found.line).1 = name := by
  by_contra hkey
  apply hthere
  have hfound : enteredOf? name
      (statement? ((above ++ header :: between).map Piece.line).reverse found.line) = none := by
    by_contra hentered
    obtain ⟨value, hvalue⟩ := Option.ne_none_iff_exists'.mp hentered
    obtain ⟨-, -, -, hsplit⟩ := statement?_eq_entry_iff.mp (enteredOf?_eq_some_iff.mp hvalue)
    exact hkey (congrArg Prod.fst hsplit)
  have habove :=
    h.not_entered_above hfolds hvisible (word_of_entered hthere).1 hlast hlower
  rw [ofText_eq_foldl_around h.logicalLines_eq, Snapshot.datum?_foldl_obey, hbelow,
    Option.none_or, Snapshot.datum?_obey_of_not_entered hfound,
    Snapshot.datum?_foldl_obey_of_not_entered habove]
  rfl

end FoundLine

/-! ## The line that an update writes -/

namespace FoundLine

variable {t name : Text} {above between below : List Piece} {header found : Piece}

/-- Where the found line is edited it becomes an entry of the word, and the lines around it say what
they have said. -/
theorem ofText_edited (h : FoundLine .data name (piecesOf t) above between below header found)
    (hfolds : ∀ p ∈ piecesOf t, p.FoldsCleanly) (hne : name ≠ [])
    (hlast : name.getLast? ≠ some '\\') {text gap value : Text} (hgap : Text.Blank gap)
    (hempty : gap = [] ↔ trimLine value = [])
    (hname : trimLine value = [] → Section.ofName? name = none)
    (hnew : logicalLines text = (above ++ header :: between).map Piece.line ++
      (name ++ gap ++ trimLine value) :: below.map Piece.line) :
    let lines := ((above ++ header :: between).map Piece.line).reverse
    Snapshot.ofText text = (statements (found.line :: lines) (below.map Piece.line)).foldl
      Snapshot.obey (((statements [] lines.reverse).foldl Snapshot.obey .empty).setData name
        (trimLine value)) := by
  intro lines
  obtain ⟨hword, hsign, -⟩ := h.keyWord hfolds hne hlast
  have hsplit := hword.splitKeyValue_edited (List.forall_mem_nil _) hgap hempty
  rw [List.nil_append, List.nil_append] at hsplit
  have hskip : isSkippable (name ++ gap ++ trimLine value) = false := by
    rw [List.append_assoc]
    exact hword.isSkippable_append hsign _
  have hentry := statement?_eq_entry_iff.mpr ⟨hskip, h.nearestHeader? hfolds,
    hword.ofBareLine?_edited hgap hempty hname, hsplit⟩
  rw [ofText_eq_foldl_around hnew, hentry, List.reverse_reverse,
    h.statements_edited hfolds hne hlast (speaksInFull_data hfolds name) hgap hempty hname]
  rfl

end FoundLine

/-! ## Whether an update of an entry goes right -/

section Update

variable {t parent name : Text}

/-- An update of the free data finds its line by the word. -/
theorem exists_foundLine_of_updateText {value : Text}
    (hfolds : ∀ p ∈ piecesOf t, p.FoldsCleanly) (hparent : Section.ofBareLine? parent = some .data)
    (htrim : Text.trim name = name) (hfound : (updateText t parent name value).1 = true) :
    ∃ above between below header found,
      FoundLine .data (Text.lower name) (piecesOf t) above between below header found := by
  cases hpos : (Document.ofText t).findKey (Text.trim parent) (Text.lower (Text.trim name)) with
  | none =>
    rw [updateText_of_findKey_eq_none value hpos] at hfound
    cases hfound
  | some pos =>
    rw [htrim] at hpos
    obtain ⟨above, between, below, header, found, h, -⟩ :=
      (Document.findKey_eq_some_iff hfolds (Section.ofBareLine?_eq_some_iff.mp hparent)).mp hpos
    exact ⟨above, between, below, header, found, h⟩

/-- What the free data of the file are after an update. -/
theorem FoundLine.ofText_updateText {above between below : List Piece} {header found : Piece}
    {value : Text}
    (h : FoundLine .data (Text.lower name) (piecesOf t) above between below header found)
    (hfolds : ∀ p ∈ piecesOf t, p.FoldsCleanly) (hparent : Section.ofBareLine? parent = some .data)
    (htrim : Text.trim name = name) (hne : Text.lower name ≠ [])
    (hlast : (Text.lower name).getLast? ≠ some '\\') (hvalue : Writable value)
    (hname : trimLine value = [] → Section.ofName? (Text.lower name) = none) :
    let lines := ((above ++ header :: between).map Piece.line).reverse
    (updateText t parent name value).1 = true ∧
      Snapshot.ofText (updateText t parent name value).2 =
        (statements (found.line :: lines) (below.map Piece.line)).foldl Snapshot.obey
          (((statements [] lines.reverse).foldl Snapshot.obey .empty).setData (Text.lower name)
            (trimLine value)) := by
  have hword : Text.lower (Text.trim name) = Text.lower name := congrArg Text.lower htrim
  obtain ⟨gap, hgap, hempty, hfound, hnew⟩ := FoundLine.logicalLines_updateText (hword ▸ h) hfolds
    hparent (hword ▸ hne) (hword ▸ hlast) hvalue
  rw [hword] at hnew
  exact ⟨hfound, h.ofText_edited hfolds hne hlast hgap hempty hname hnew⟩

/-- If every value is entered under a name, the document finds the name's own line, and no line
below enters the name again. -/
theorem enteredOnce_of_updateText (hfolds : ∀ p ∈ piecesOf t, p.FoldsCleanly)
    (hvisible : ∀ p ∈ piecesOf t, p.joined.isSome = true → p.head ≠ [])
    (hparent : Section.ofBareLine? parent = some .data)
    (hthere : (Snapshot.ofText t).datum? name ≠ none)
    (hlast : (Text.lower name).getLast? ≠ some '\\')
    (h : ∀ value, Writable value → (updateText t parent name value).1 = true ∧
      (Snapshot.ofText (updateText t parent name value).2).datum? name = some (trimLine value)) :
    EnteredOnce t name := by
  obtain ⟨hnil, hblank⟩ := word_of_entered hthere
  have htrim : Text.trim name = name := Text.trim_of_isTrimmed (Text.IsTrimmed.of_forall hblank)
  have hne : Text.lower name ≠ [] := lower_ne_nil hnil
  have ha : Writable "a".toList := ⟨by decide, by decide⟩
  have hb : Writable "b".toList := ⟨by decide, by decide⟩
  obtain ⟨above, between, below, header, found, hline⟩ :=
    exists_foundLine_of_updateText hfolds hparent htrim (h _ ha).1
  let lines := ((above ++ header :: between).map Piece.line).reverse
  let base := (statements [] lines.reverse).foldl Snapshot.obey .empty
  -- Two values are read back, so what is read depends on the value.
  have hread : ∀ value, Writable value → trimLine value ≠ [] →
      (lastEntered? name (statements (found.line :: lines) (below.map Piece.line))).or
        ((base.setData (Text.lower name) (trimLine value)).datum? name) =
          some (trimLine value) := by
    intro value hvalue hsome
    have hnew := (hline.ofText_updateText hfolds hparent htrim hne hlast hvalue
      fun hnone => absurd hnone hsome).2
    rw [← Snapshot.datum?_foldl_obey, ← hnew]
    exact (h value hvalue).2
  have hreadA := hread _ ha (by decide)
  have hreadB := hread _ hb (by decide)
  have hbelow : lastEntered? name (statements (found.line :: lines) (below.map Piece.line)) =
      none := by
    cases hsaid : lastEntered? name (statements (found.line :: lines) (below.map Piece.line)) with
    | none => rfl
    | some other =>
      rw [hsaid] at hreadA hreadB
      exact absurd (hreadA.symm.trans hreadB) (by decide)
  rw [hbelow, Option.none_or] at hreadA hreadB
  have hlower : Text.lower name = name := by
    by_contra hother
    rw [base.datum?_setData_of_ne (Ne.symm hother)] at hreadA hreadB
    exact absurd (hreadA.symm.trans hreadB) (by decide)
  rw [hlower] at hline hlast
  -- An empty value leaves the name alone on its line, where it must not be a header.
  have hname : Section.ofName? name = none := ofName?_of_entered_nil (h [] Setting.writable_nil).2
  exact ⟨hlower, hname, above, between, below, header, found, hline,
    hline.key_found hfolds hvisible hthere hlast hlower hbelow, lastEntered?_eq_none_iff.mp hbelow⟩

/-- In a file that folds cleanly and hides no key behind a lone backslash, every update of a name
that is there sets the name's entry, and changes nothing else, just if the name is entered once
where the document finds it. -/
theorem updateText_entry_iff (hfolds : ∀ p ∈ piecesOf t, p.FoldsCleanly)
    (hvisible : ∀ p ∈ piecesOf t, p.joined.isSome = true → p.head ≠ [])
    (hparent : Section.ofBareLine? parent = some .data)
    (hthere : (Snapshot.ofText t).datum? name ≠ none)
    (hlast : (Text.lower name).getLast? ≠ some '\\') :
    (∀ value, Writable value → (updateText t parent name value).1 = true ∧
      (Snapshot.ofText (updateText t parent name value).2).Same
        ((Snapshot.ofText t).setData name (trimLine value))) ↔ EnteredOnce t name := by
  constructor
  · intro h
    apply enteredOnce_of_updateText hfolds hvisible hparent hthere hlast
    intro value hvalue
    obtain ⟨hfound, hsame⟩ := h value hvalue
    exact ⟨hfound, (hsame.entries name).trans (Snapshot.datum?_setData_self _ _ _)⟩
  · rintro ⟨hlower, hname, above, between, below, header, found, hline, hkey, hbelow⟩
    intro value hvalue
    obtain ⟨hnil, hblank⟩ := word_of_entered hthere
    have htrim : Text.trim name = name := Text.trim_of_isTrimmed (Text.IsTrimmed.of_forall hblank)
    rw [← hlower] at hline hnil
    obtain ⟨hfound, hnew⟩ := hline.ofText_updateText hfolds hparent htrim hnil hlast hvalue
      fun _ => hlower.symm ▸ hname
    refine ⟨hfound, ?_⟩
    have hbare : Section.ofBareLine? found.line = none := by
      by_contra hbare
      obtain ⟨s, hs⟩ := Option.ne_none_iff_exists'.mp hbare
      rw [← hkey, ofName?_key_of_ofBareLine? hs] at hname
      cases hname
    have hold := statement?_eq_entry_iff.mpr ⟨(hline.isSkippable_found hnil hlast).1,
      hline.nearestHeader? hfolds, hbare, Prod.ext hkey rfl⟩
    rw [hnew, ofText_eq_foldl_around hline.logicalLines_eq, hold, List.reverse_reverse, hlower]
    generalize (statements [] ((above ++ header :: between).map Piece.line)).foldl
      Snapshot.obey .empty = base
    constructor
    · have hsettings : (base.setData name (trimLine value)).withoutData =
          (base.obey (some (.entry name (splitKeyValue found.line).2))).withoutData := rfl
      rw [Snapshot.withoutData_setData]
      exact Snapshot.withoutData_foldl_obey hsettings _
    · intro other
      by_cases hother : other = name
      · rw [hother, Snapshot.datum?_foldl_obey_of_not_entered hbelow,
          Snapshot.datum?_setData_self, Snapshot.datum?_setData_self]
      · rw [Snapshot.datum?_setData_of_ne _ hother, Snapshot.datum?_foldl_obey,
          Snapshot.datum?_foldl_obey, Snapshot.datum?_setData_of_ne _ hother, Snapshot.obey,
          Snapshot.datum?_setData_of_ne _ hother]

end Update

/-- A file with a setting, two entries one of whose names begins the other, and a continued
value. -/
def entriesFile : Text :=
  "Site\nhostname a\nDATA\n # links\n\tlink-to\tb, \\\n\t\tc\nlink-to-top d\nHTTP\n".toList

/-- The shorter name comes first, so its entry can be updated. -/
theorem updateText_entry_entriesFile :
    EnteredOnce entriesFile "link-to".toList ∧ Writable "e f".toList ∧
      (updateText entriesFile "data".toList "link-to".toList "e f".toList).1 = true ∧
      (Snapshot.ofText (updateText entriesFile "data".toList "link-to".toList "e f".toList).2).Same
        ((Snapshot.ofText entriesFile).setData "link-to".toList (trimLine "e f".toList)) := by
  have hfolds : ∀ p ∈ piecesOf entriesFile, p.FoldsCleanly := by decide +kernel
  have hvisible : ∀ p ∈ piecesOf entriesFile, p.joined.isSome = true → p.head ≠ [] := by
    decide +kernel
  have hparent : Section.ofBareLine? "data".toList = some .data := by decide
  have hthere : (Snapshot.ofText entriesFile).datum? "link-to".toList ≠ none := by decide +kernel
  have hlast : (Text.lower "link-to".toList).getLast? ≠ some '\\' := by decide +kernel
  have hvalue : Writable "e f".toList := ⟨by decide, by decide⟩
  have honce : EnteredOnce entriesFile "link-to".toList := by
    refine ⟨by decide +kernel, by decide, [⟨"Site".toList, none⟩, ⟨"hostname a".toList, none⟩],
      [⟨" # links".toList, none⟩],
      [⟨"link-to-top d".toList, none⟩, ⟨"HTTP".toList, none⟩, ⟨[], none⟩],
      ⟨"DATA".toList, none⟩, ⟨"\tlink-to\tb, \\".toList, some "\t\tc".toList⟩, ?_,
      by decide +kernel, by decide +kernel⟩
    exact ⟨by decide +kernel, by decide +kernel, by decide +kernel, by decide +kernel,
      by decide +kernel⟩
  exact ⟨honce, hvalue,
    (updateText_entry_iff hfolds hvisible hparent hthere hlast).mpr honce _ hvalue⟩

/-- An update of a name that begins another one may reach the other one's line. -/
theorem not_updateText_entry :
    ¬ ∀ t parent name value : Text, Section.ofBareLine? parent = some .data →
      (Snapshot.ofText t).datum? name ≠ none → Writable value →
        (updateText t parent name value).1 = true ∧
          (Snapshot.ofText (updateText t parent name value).2).Same
            ((Snapshot.ofText t).setData name (trimLine value)) := by
  intro h
  obtain ⟨-, hsame⟩ := h "Data\nab 1\na 2".toList "Data".toList "a".toList "3".toList (by decide)
    (by decide +kernel) ⟨by decide, by decide⟩
  have hother := hsame.entries "ab".toList
  revert hother
  decide +kernel

end SiteGate.Config
