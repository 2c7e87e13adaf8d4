import SiteGate.Config.Update
import SiteGate.Proofs.Config.Edit
import SiteGate.Proofs.Config.Folding

/-!
# Where a document is edited

A document finds a setting on one physical line. That line is replaced, the lines that continue it
go, and the rest stays. Seen by the reader, the edited line comes to stand in a slot among the
logical lines: below those that the lines above it fold into, after the text that the last of them
joins to it, and above those that the remaining lines fold into (`Slot`). All that an update does
to the logical lines is said by its slot and the edited line (`logicalLines_updateText`).
-/

set_option autoImplicit false

namespace SiteGate.Config

/-- The parts between separators hold no separator. -/
theorem not_mem_of_mem_splitOn {c : Char} {t part : Text} (h : part ∈ t.splitOn c) : c ∉ part := by
  induction t generalizing part with
  | nil =>
    obtain rfl : part = [] := by simpa [List.splitOn_nil] using h
    simp
  | cons d rest ih =>
    rw [List.splitOn_cons_eq_if_modifyHead] at h
    split at h
    · rcases List.mem_cons.mp h with rfl | h
      · simp
      · exact ih h
    · rename_i hd
      cases hparts : rest.splitOn c with
      | nil => exact absurd hparts (List.splitOn_ne_nil c rest)
      | cons first parts =>
        rw [hparts, List.modifyHead_cons] at h
        rcases List.mem_cons.mp h with rfl | h
        · have hfirst : c ∉ first := ih (by simp [hparts])
          have hne : c ≠ d := by
            rintro rfl
            simp at hd
          simp [hne, hfirst]
        · exact ih (by simp [hparts, h])

/-- A line that does not continue another is of one of the other kinds. -/
theorem lineKind_ne_continuation (raw : Text) : lineKind raw ≠ .continuation := by
  unfold lineKind
  grind

namespace Document

/-- A line that is no continuation holds a setting in the document just if it does for the
reader. -/
theorem holdsKey_iff {x : Setting} {e : Entry} (h : e.kind = lineKind e.raw) :
    holdsKey x.name e = true ↔ x.HeldBy (trimLine e.raw) := by
  have hhead := (isTrimmed_trimLine e.raw).head
  rw [holdsKey, h, lineKind]
  cases hline : trimLine e.raw with
  | nil =>
    have hnot : ¬ x.HeldBy [] := fun hheld => x.name_ne_nil (List.prefix_nil.mp hheld)
    simp [hnot]
  | cons c rest =>
    by_cases hsign : c = '#'
    · have hnot : ¬ x.HeldBy (c :: rest) := by
        intro hheld
        obtain ⟨d, hd, -, hne⟩ := Setting.head_of_heldBy hheld
        obtain rfl : c = d := by simpa using hd
        exact hne hsign
      subst hsign
      simpa using hnot
    · cases hbare : Section.ofBareLine? (c :: rest) with
      | some s =>
        have hnot : ¬ x.HeldBy (c :: rest) := by
          intro hheld
          rw [Setting.ofBareLine?_of_heldBy hheld] at hbare
          cases hbare
        simp [hsign, hnot]
      | none =>
        rw [hline] at hhead
        have hkey := splitKeyValue_fst hhead (by simp)
        simp only [hsign, hkey, if_false]
        rw [List.isPrefixOf_iff_prefix]
        exact Setting.heldBy_word_iff

/-- A search for a key ends at a line that holds it. -/
theorem exists_of_findKey {d : Document} {parent key : Text} {pos : Nat}
    (h : d.findKey parent key = some pos) :
    ∃ before e after, d = before ++ e :: after ∧ before.length = pos ∧ holdsKey key e = true := by
  have hget : ∃ hpos : pos < d.length, holdsKey key d[pos] = true := by
    unfold findKey at h
    split at h
    · obtain ⟨hpos, hheld, -⟩ := List.findIdx?_eq_some_iff_getElem.mp h
      exact ⟨hpos, hheld⟩
    · obtain ⟨start, -, hblock⟩ := Option.bind_eq_some_iff.mp h
      obtain ⟨offset, hoffset, rfl⟩ := Option.map_eq_some_iff.mp hblock
      obtain ⟨hlt, hheld, -⟩ := List.findIdx?_eq_some_iff_getElem.mp hoffset
      have hbegin := List.takeWhile_prefix (!isHeader ·) (l := d.drop (start + 1))
      have hdrop : offset < (d.drop (start + 1)).length := lt_of_lt_of_le hlt hbegin.length_le
      rw [hbegin.getElem hlt, List.getElem_drop] at hheld
      exact ⟨by rw [List.length_drop] at hdrop; omega, hheld⟩
  obtain ⟨hpos, hheld⟩ := hget
  refine ⟨d.take pos, d[pos], d.drop (pos + 1), ?_, by simp; omega, hheld⟩
  rw [List.getElem_cons_drop, List.take_append_drop]

/-- Setting a value replaces the line that holds the key and drops what continues it. -/
theorem setValue?_of_findKey {d before after : Document} {e : Entry} {parent key value : Text}
    (hd : d = before ++ e :: after)
    (h : d.findKey (Text.trim parent) (Text.lower (Text.trim key)) = some before.length) :
    d.setValue? parent key value = some (before ++
      ⟨editLine e.raw (Text.lower (Text.trim key)) (Text.trim value),
        .keyValue (Text.lower (Text.trim key))⟩ :: after.dropWhile (·.kind = .continuation)) := by
  unfold setValue?
  simp only [h, Option.map_some]
  simp [hd]

/-- A document whose lines hold no line feeds is written and read back as it is. -/
theorem splitOn_render {d : Document} (hne : d ≠ []) (h : ∀ e ∈ d, '\n' ∉ e.raw) :
    d.render.splitOn '\n' = d.map Entry.raw := by
  refine List.splitOn_intercalate '\n' ?_ (by simpa using hne)
  intro raw hraw
  obtain ⟨e, he, rfl⟩ := List.mem_map.mp hraw
  exact h e he

/-- The lines of a text's document hold no line feeds. -/
theorem newline_not_mem_ofText {t : Text} {e : Entry} (h : e ∈ ofText t) : '\n' ∉ e.raw := by
  apply not_mem_of_mem_splitOn (t := t)
  rw [← map_raw_ofLines false (t.splitOn '\n')]
  exact List.mem_map_of_mem h

end Document

/-! ## The slot of the edited line -/

/-- Where an edited line comes to stand: the logical lines above it from the nearest one upwards,
the text that is joined before it, and the logical lines below it. -/
structure Slot where
  above : List Text
  joined : Text
  below : List Text
deriving DecidableEq

/-- The slot of the line at a position of a document when the line is edited. -/
def Document.slot (d : Document) (pos : Nat) : Slot :=
  let before := cutBefore ((d.take pos).map fun e => trimLine e.raw)
  let rest := (d.drop (pos + 1)).dropWhile (·.kind = .continuation)
  ⟨before.1.reverse, before.2, joinLines (rest.map fun e => trimLine e.raw)⟩

/-- An update turns the logical lines into those above its slot, the edited line, and those below
its slot. -/
theorem KeyWord.logicalLines_updateText {t parent key value : Text} {pos : Nat}
    (hword : KeyWord (Text.lower (Text.trim key)))
    (hpos : (Document.ofText t).findKey (Text.trim parent) (Text.lower (Text.trim key)) = some pos)
    (hvalue : Writable value) :
    let slot := (Document.ofText t).slot pos
    ∃ gap, Text.Blank gap ∧ (gap = [] ↔ trimLine value = []) ∧
      (updateText t parent key value).1 = true ∧
      logicalLines (updateText t parent key value).2 = slot.above.reverse ++
        (slot.joined ++ (Text.lower (Text.trim key) ++ gap ++ trimLine value)) :: slot.below := by
  obtain ⟨before, e, after, hd, rfl, hheld⟩ := Document.exists_of_findKey hpos
  have hset : (Document.ofText t).setValue? parent key value = some (before ++
      ⟨Document.editLine e.raw (Text.lower (Text.trim key)) (Text.trim value),
        .keyValue (Text.lower (Text.trim key))⟩ :: after.dropWhile (·.kind = .continuation)) :=
    Document.setValue?_of_findKey hd hpos
  generalize Text.lower (Text.trim key) = word at hword hset
  obtain ⟨gap, hgap, hempty, hedit⟩ := hword.trimLine_editLine e.raw value
  refine ⟨gap, hgap, hempty, ?_⟩
  -- No line holds a line feed, so the text is split again where its lines were joined.
  have hlines : ∀ e' ∈ before ++ ⟨Document.editLine e.raw word (Text.trim value),
      .keyValue word⟩ :: after.dropWhile (·.kind = .continuation), '\n' ∉ e'.raw := by
    have hold : ∀ e' ∈ before ++ e :: after, '\n' ∉ e'.raw := by
      rw [← hd]
      exact fun e' he' => Document.newline_not_mem_ofText he'
    intro e' he'
    rcases List.mem_append.mp he' with he' | he'
    · exact hold e' (by simp [he'])
    · rcases List.mem_cons.mp he' with rfl | he'
      · exact hword.newline_not_mem_editLine (hold e (by simp)) hvalue
      · exact hold e' (by simp [(List.dropWhile_suffix _).subset he'])
  have hslot : (Document.ofText t).slot before.length =
      ⟨(cutBefore (before.map fun e => trimLine e.raw)).1.reverse,
        (cutBefore (before.map fun e => trimLine e.raw)).2,
        joinLines ((after.dropWhile (·.kind = .continuation)).map fun e => trimLine e.raw)⟩ := by
    simp [Document.slot, hd]
  have hupdate : updateText t parent key value = (true, Document.render (before ++
      ⟨Document.editLine e.raw word (Text.trim value), .keyValue word⟩ ::
        after.dropWhile (·.kind = .continuation))) := by
    simp [updateText, hset]
  refine ⟨by rw [hupdate], ?_⟩
  rw [hupdate, logicalLines, Document.splitOn_render (by simp) hlines, hslot]
  have hjoin := joinLines_append (before.map fun e => trimLine e.raw)
    ((after.dropWhile (·.kind = .continuation)).map fun e => trimLine e.raw)
    (hword.getLast?_edited hvalue hempty)
  simpa [Function.comp_def, hedit] using hjoin

/-- So does an update of a setting, and its line has the setting's name. -/
theorem logicalLines_updateText {t parent key value : Text} {pos : Nat} {x : Setting}
    (hpos : (Document.ofText t).findKey (Text.trim parent) (Text.lower (Text.trim key)) = some pos)
    (hkey : Text.lower (Text.trim key) = x.name) (hvalue : Writable value) :
    let slot := (Document.ofText t).slot pos
    ∃ gap, Text.Blank gap ∧ (gap = [] ↔ trimLine value = []) ∧
      (updateText t parent key value).1 = true ∧
      logicalLines (updateText t parent key value).2 = slot.above.reverse ++
        (slot.joined ++ (x.name ++ gap ++ trimLine value)) :: slot.below := by
  have hword : KeyWord (Text.lower (Text.trim key)) := hkey ▸ x.keyWord
  rw [← hkey]
  exact hword.logicalLines_updateText hpos hvalue

end SiteGate.Config
