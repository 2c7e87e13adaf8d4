import SiteGate.Config.Document
import SiteGate.Proofs.Config.NamedLine

/-!
# An edited line

An edited line keeps the blanks of the old one: its indentation, the gap after its key and a
carriage return at its end. Between these stand the key's name and the trimmed value. So when the
edited line is read, what comes out is the name, a gap and the value (`trimLine_editLine`), and when
this is cut at the gap, it is the name and the value (`splitKeyValue_append`). Only an empty value
leaves no gap.

What follows the first word of a line has no say in which settings the line holds
(`Setting.heldBy_append_iff`).
-/

set_option autoImplicit false

namespace SiteGate.Config

/-! ## Trimmed lines -/

/-- A character with a space for a tab. -/
def untab (c : Char) : Char := if c = '\t' then ' ' else c

/-- A tab is as blank as a space. -/
theorem isBlank_untab (c : Char) : Text.isBlank (untab c) = Text.isBlank c := by
  unfold untab
  split
  · rename_i htab
    rw [htab]
    rfl
  · rfl

/-- A character that is not blank is no tab. -/
theorem untab_of_not_blank {c : Char} (h : Text.isBlank c = false) : untab c = c := by
  unfold untab
  split
  · rename_i htab
    rw [htab] at h
    cases h
  · rfl

/-- A text without blanks has no tabs. -/
theorem map_untab_of_forall {t : Text} (h : ∀ c ∈ t, Text.isBlank c = false) :
    t.map untab = t := by
  induction t with
  | nil => rfl
  | cons c rest ih =>
    rw [List.map_cons, untab_of_not_blank (h c (by simp)), ih fun d hd => h d (by simp [hd])]

/-- A line may be trimmed before its tabs are made spaces. -/
theorem trimLine_eq (line : Text) : trimLine line = (Text.trim line).map untab :=
  Text.trim_map isBlank_untab line

/-- A trimmed line is trimmed. -/
theorem isTrimmed_trimLine (line : Text) : Text.IsTrimmed (trimLine line) := Text.isTrimmed_trim _

/-- Blanks stay blanks when their tabs are made spaces. -/
theorem blank_map_untab {t : Text} (h : Text.Blank t) : Text.Blank (t.map untab) := by
  intro c hc
  obtain ⟨d, hd, rfl⟩ := List.mem_map.mp hc
  rw [isBlank_untab]
  exact h d hd

/-- A line ends in a backslash just if what is left of it without the blanks at its ends does. -/
theorem getLast?_trimLine_eq_backslash_iff (line : Text) :
    (trimLine line).getLast? = some '\\' ↔ (Text.trim line).getLast? = some '\\' := by
  have huntab : ∀ c, untab c = '\\' ↔ c = '\\' := by
    intro c
    unfold untab
    split
    · rename_i htab
      simp [htab]
    · rfl
  rw [trimLine_eq, List.getLast?_map]
  cases (Text.trim line).getLast? with
  | none => simp
  | some c => simp [huntab]

/-! ## Key and value -/

/-- A first word and what comes after it, cut in two. -/
theorem splitKeyValue_append {word rest : Text} (hword : ∀ c ∈ word, Text.isBlank c = false)
    (hne : word ≠ []) (hrest : ∀ c ∈ rest.head?, Text.isBlank c = true) :
    splitKeyValue (word ++ rest) = (word, Text.trim rest) := by
  obtain ⟨pre, post, hpre, hpost, heq, hkept⟩ := Text.exists_eq_trim rest
  unfold splitKeyValue
  cases hval : Text.trim rest with
  | nil =>
    have hblank : Text.Blank rest := by
      rw [heq, hval, List.append_nil]
      exact hpre.append hpost
    have htrim : Text.trim (word ++ rest) = word := by
      simpa using Text.trim_append Text.Blank.nil (Text.IsTrimmed.of_forall hword) hblank
    simp [htrim, Text.cutAt?_eq_none hword]
  | cons d kept =>
    rw [hval] at heq hkept
    have htrim : Text.trim (word ++ rest) = word ++ pre ++ d :: kept := by
      have hmiddle : Text.IsTrimmed (word ++ pre ++ d :: kept) := by
        constructor
        · cases word with
          | nil => exact absurd rfl hne
          | cons c word =>
            intro e he
            obtain rfl : c = e := by simpa using he
            exact hword c (by simp)
        · intro e he
          apply hkept.last e
          simpa [List.getLast?_append] using he
      rw [heq, ← List.append_assoc, ← List.append_assoc]
      simpa using Text.trim_append Text.Blank.nil hmiddle hpost
    obtain ⟨b, gap, rfl⟩ : ∃ b gap, pre = b :: gap := by
      cases pre with
      | cons b gap => exact ⟨b, gap, rfl⟩
      | nil =>
        have hd := hrest d (by simp [heq])
        rw [hkept.head d (by simp)] at hd
        cases hd
    have hvalue : Text.trim (gap ++ d :: kept) = d :: kept := by
      simpa using Text.trim_append (fun c hc => hpre c (by simp [hc])) hkept Text.Blank.nil
    have hcut : Text.cutAt? Text.isBlank (word ++ b :: (gap ++ d :: kept)) =
        some (word, gap ++ d :: kept) := Text.cutAt?_append hword (hpre b (by simp))
    simp [htrim, hcut, hvalue]

/-- The key of a line is its first word. -/
theorem splitKeyValue_fst {line : Text} (hhead : ∀ c ∈ line.head?, Text.isBlank c = false)
    (hne : line ≠ []) : (splitKeyValue line).1 = Text.word line := by
  obtain ⟨rest, heq, hrest⟩ := Text.eq_word_append line
  have hword : Text.word line ≠ [] := by
    cases line with
    | nil => exact absurd rfl hne
    | cons c line => simp [Text.word, hhead c (by simp)]
  have hsplit := splitKeyValue_append (fun c hc => Text.isBlank_of_mem_word hc) hword hrest
  rw [← heq] at hsplit
  rw [hsplit]

/-! ## What a line holds -/

namespace Setting

/-- What follows a character that stands in no name has no say in what a line holds. -/
theorem heldBy_append_iff {x : Setting} {t rest : Text}
    (hrest : ∀ c ∈ rest.head?, Text.isBlank c = true ∨ c = '\\') :
    x.HeldBy (t ++ rest) ↔ x.HeldBy t := by
  rw [heldBy_iff, heldBy_iff, Text.lowerEach, List.flatMap_append, ← Text.lowerEach,
    Text.prefix_append_iff]
  constructor
  · rintro (h | ⟨m, hm, hbegin⟩)
    · exact h
    · cases rest with
      | nil =>
        rw [List.prefix_nil.mp hbegin, List.append_nil] at hm
        exact ⟨[], by rw [hm, List.append_nil]⟩
      | cons c rest =>
        have hone : Text.lowerOne c = [c] := by
          rcases hrest c (by simp) with hblank | rfl
          · exact Text.lowerOne_of_isBlank hblank
          · decide
        rw [List.flatMap_cons, hone] at hbegin
        cases m with
        | nil =>
          exact ⟨[], by rw [hm, List.append_nil, List.append_nil]⟩
        | cons d m =>
          obtain rfl : d = c := by
            obtain ⟨_, heq⟩ := hbegin
            exact (List.cons.inj heq).1
          have hchars := x.name_chars (c := d) (by simp [hm])
          rcases hrest d (by simp) with hblank | rfl
          · rw [hchars.2.1] at hblank
            cases hblank
          · exact absurd rfl hchars.2.2.2.2.1
  · exact Or.inl

/-- The first word of a line says which settings it holds. -/
theorem heldBy_word_iff {x : Setting} {line : Text} :
    x.HeldBy (Text.word line) ↔ x.HeldBy line := by
  obtain ⟨rest, heq, hrest⟩ := Text.eq_word_append line
  have h := heldBy_append_iff (x := x) (t := Text.word line) fun c hc => .inl (hrest c hc)
  rw [← heq] at h
  exact h.symm

/-- A line that begins with a setting's name holds the setting. -/
theorem heldBy_name_append (x : Setting) (rest : Text) : x.HeldBy (x.name ++ rest) := by
  have hname : Text.lowerEach x.name = x.name := by
    have key : ∀ x ∈ all, Text.lowerEach x.name = x.name := by decide +kernel
    exact key x x.mem_all
  rw [heldBy_iff, Text.lowerEach, List.flatMap_append, ← Text.lowerEach, hname]
  exact List.prefix_append _ _

end Setting

/-! ## The edited line -/

/-- A value that may stand on a line of its own: it holds no line feed, and it would not make the
next line continue it. -/
structure Writable (value : Text) : Prop where
  newline : '\n' ∉ value
  last : (Text.trim value).getLast? ≠ some '\\'

/-- A key that may stand on a line of its own: a word that would not make the next line continue
it. -/
structure KeyWord (word : Text) : Prop where
  ne_nil : word ≠ []
  blank : ∀ c ∈ word, Text.isBlank c = false
  last : word.getLast? ≠ some '\\'

/-- A text that is one word. -/
structure IsWord (word : Text) : Prop where
  ne_nil : word ≠ []
  blank : ∀ c ∈ word, Text.isBlank c = false

/-- The word of a key is a word. -/
theorem KeyWord.isWord {word : Text} (h : KeyWord word) : IsWord word := ⟨h.ne_nil, h.blank⟩

/-- The names of settings are such keys. -/
theorem Setting.keyWord (x : Setting) : KeyWord x.name where
  ne_nil := x.name_ne_nil
  blank := fun _ hc => (x.name_chars hc).2.1
  last := fun hlast => (x.name_chars (List.mem_of_mem_getLast? hlast)).2.2.2.2.1 rfl

/-- An edited line is the name, a gap and the value, after blanks and perhaps before a carriage
return. -/
theorem exists_laid_editLine (raw key value : Text) :
    ∃ indent gap ending, Text.Blank indent ∧ Text.Blank gap ∧ (ending = [] ∨ ending = ['\r']) ∧
      (gap = [] ↔ value = []) ∧
      Document.editLine raw key value = indent ++ (key ++ gap ++ value) ++ ending ∧
      ('\n' ∉ raw → '\n' ∉ indent ∧ '\n' ∉ gap) := by
  let bare := if raw.getLast? = some '\r' then raw.dropLast else raw
  let oldGap := ((bare.dropWhile Text.isBlank).dropWhile (!Text.isBlank ·)).takeWhile Text.isBlank
  let ending : Text := if raw.getLast? = some '\r' then ['\r'] else []
  have hbare : ∀ c ∈ bare, c ∈ raw := by
    intro c hc
    by_cases hreturn : raw.getLast? = some '\r'
    · simp only [bare, if_pos hreturn] at hc
      exact (List.dropLast_prefix raw).subset hc
    · simpa only [bare, if_neg hreturn] using hc
  have hindent : Text.Blank (bare.takeWhile Text.isBlank) := fun c hc => List.mem_takeWhile_imp hc
  have hgap : Text.Blank oldGap := fun c hc => List.mem_takeWhile_imp hc
  have hending : ending = [] ∨ ending = ['\r'] := by
    by_cases hreturn : raw.getLast? = some '\r'
    · exact .inr (if_pos hreturn)
    · exact .inl (if_neg hreturn)
  have hline : '\n' ∉ raw → '\n' ∉ bare.takeWhile Text.isBlank ∧ '\n' ∉ oldGap := by
    refine fun hraw => ⟨fun hc => hraw (hbare _ ?_), fun hc => hraw (hbare _ ?_)⟩
    · exact (List.takeWhile_prefix _).subset hc
    · exact (List.dropWhile_suffix _).subset
        ((List.dropWhile_suffix _).subset ((List.takeWhile_prefix _).subset hc))
  cases hvalue : value with
  | nil =>
    refine ⟨bare.takeWhile Text.isBlank, [], ending, hindent, Text.Blank.nil, hending, by simp,
      ?_, fun hraw => ⟨(hline hraw).1, by simp⟩⟩
    simp [Document.editLine, bare, ending]
  | cons c rest =>
    -- A line that has had no gap is given one, for else the key and the value would be one word.
    by_cases hempty : oldGap = []
    · refine ⟨bare.takeWhile Text.isBlank, [' '], ending, hindent, ?_, hending, by simp, ?_,
        fun hraw => ⟨(hline hraw).1, by decide⟩⟩
      · simp only [Text.Blank]
        decide
      · simp only [oldGap, bare] at hempty
        simp [Document.editLine, bare, ending, hempty]
    · refine ⟨bare.takeWhile Text.isBlank, oldGap, ending, hindent, hgap, hending,
        by simp [hempty], ?_, hline⟩
      have hisEmpty : oldGap.isEmpty = false := by simpa using hempty
      simp only [oldGap, bare] at hisEmpty
      simp [Document.editLine, bare, ending, oldGap, hisEmpty]

/-- An edited line is the name, a gap and the value, with blanks around them. -/
theorem exists_eq_editLine (raw key value : Text) :
    ∃ indent gap ending, Text.Blank indent ∧ Text.Blank gap ∧ Text.Blank ending ∧
      (gap = [] ↔ value = []) ∧
      Document.editLine raw key value = indent ++ (key ++ gap ++ value) ++ ending ∧
      ('\n' ∉ raw → '\n' ∉ indent ∧ '\n' ∉ gap ∧ '\n' ∉ ending) := by
  obtain ⟨indent, gap, ending, hindent, hgap, hending, hempty, heq, hline⟩ :=
    exists_laid_editLine raw key value
  have hblank : Text.Blank ending ∧ '\n' ∉ ending := by
    rcases hending with rfl | rfl <;> simp only [Text.Blank] <;> decide
  exact ⟨indent, gap, ending, hindent, hgap, hblank.1, hempty, heq,
    fun hraw => ⟨(hline hraw).1, (hline hraw).2, hblank.2⟩⟩

namespace IsWord

variable {word : Text}

/-- A word, a gap and a trimmed value make a trimmed line if only an empty value has no gap. -/
theorem isTrimmed_append (h : IsWord word) {gap value : Text} (hvalue : Text.IsTrimmed value)
    (hempty : gap = [] ↔ value = []) : Text.IsTrimmed (word ++ gap ++ value) := by
  constructor
  · intro c hc
    cases hword : word with
    | nil => exact absurd hword h.ne_nil
    | cons d rest =>
      obtain rfl : d = c := by simpa [hword] using hc
      exact h.blank d (by simp [hword])
  · intro c hc
    cases hval : value with
    | nil =>
      rw [hempty.mpr hval, hval, List.append_nil, List.append_nil] at hc
      exact h.blank c (List.mem_of_mem_getLast? hc)
    | cons d rest =>
      apply hvalue.last c
      simpa [List.getLast?_append, hval] using hc

/-- What is read where a line was edited: the word, a gap and the value. -/
theorem trimLine_editLine (h : IsWord word) (raw value : Text) :
    ∃ gap, Text.Blank gap ∧ (gap = [] ↔ trimLine value = []) ∧
      trimLine (Document.editLine raw word (Text.trim value)) = word ++ gap ++ trimLine value := by
  obtain ⟨indent, gap, ending, hindent, hgap, hending, hempty, heq, -⟩ :=
    exists_eq_editLine raw word (Text.trim value)
  have htrimmed := h.isTrimmed_append (Text.isTrimmed_trim value) hempty
  refine ⟨gap.map untab, blank_map_untab hgap, by simpa [trimLine_eq] using hempty, ?_⟩
  rw [trimLine_eq, heq, Text.trim_append hindent htrimmed hending, List.map_append,
    List.map_append, map_untab_of_forall h.blank, trimLine_eq]

end IsWord

namespace KeyWord

variable {word : Text}

/-- A key, a gap and a trimmed value make a trimmed line if only an empty value has no gap. -/
theorem isTrimmed_append (h : KeyWord word) {gap value : Text} (hvalue : Text.IsTrimmed value)
    (hempty : gap = [] ↔ value = []) : Text.IsTrimmed (word ++ gap ++ value) :=
  h.isWord.isTrimmed_append hvalue hempty

/-- What is read where a line was edited: the key, a gap and the value. -/
theorem trimLine_editLine (h : KeyWord word) (raw value : Text) :
    ∃ gap, Text.Blank gap ∧ (gap = [] ↔ trimLine value = []) ∧
      trimLine (Document.editLine raw word (Text.trim value)) = word ++ gap ++ trimLine value :=
  h.isWord.trimLine_editLine raw value

end KeyWord

/-- A name, a gap and a trimmed value make a trimmed line if only an empty value has no gap. -/
theorem Setting.isTrimmed_append (x : Setting) {gap value : Text} (hvalue : Text.IsTrimmed value)
    (hempty : gap = [] ↔ value = []) : Text.IsTrimmed (x.name ++ gap ++ value) :=
  x.keyWord.isTrimmed_append hvalue hempty

/-- What is read where a line was edited: the name, a gap and the value. -/
theorem trimLine_editLine (x : Setting) (raw value : Text) :
    ∃ gap, Text.Blank gap ∧ (gap = [] ↔ trimLine value = []) ∧
      trimLine (Document.editLine raw x.name (Text.trim value)) =
        x.name ++ gap ++ trimLine value :=
  x.keyWord.trimLine_editLine raw value

/-- What is left of an edited line begins with a blank after the name. -/
theorem isBlank_head_of_gap {gap value : Text} (hgap : Text.Blank gap)
    (hempty : gap = [] → value = []) : ∀ c ∈ (gap ++ value).head?, Text.isBlank c = true := by
  cases gap with
  | nil => simp [hempty rfl]
  | cons b gap =>
    intro c hc
    obtain rfl : b = c := by simpa using hc
    exact hgap b (by simp)

/-! ## Lines that are edited again -/

/-- What is split off a text in front of something that begins otherwise. -/
theorem takeWhile_append_of_head {f : Char → Bool} {front rest : Text}
    (hfront : ∀ c ∈ front, f c = true) (hrest : ∀ c ∈ rest.head?, f c = false) :
    (front ++ rest).takeWhile f = front ∧ (front ++ rest).dropWhile f = rest := by
  rw [List.takeWhile_append_of_pos hfront, List.dropWhile_append_of_pos hfront]
  cases rest with
  | nil => simp
  | cons c rest => simp [hrest c rfl]

/-- A line that ends in something other than a blank ends in no carriage return. -/
theorem getLast?_append_ne_return (indent : Text) {body : Text} (h : Text.IsTrimmed body)
    (hne : body ≠ []) : (indent ++ body).getLast? ≠ some '\r' := by
  rw [List.getLast?_append, List.getLast?_eq_some_getLast hne, Option.some_or,
    ← List.getLast?_eq_some_getLast hne]
  intro hreturn
  have hblank := h.last '\r' hreturn
  revert hblank
  decide

/-- A line that is laid out as an edited one is edited to itself. -/
theorem IsWord.editLine_of_laid {indent gap word value ending : Text} (h : IsWord word)
    (hvalue : Text.IsTrimmed value) (hindent : Text.Blank indent) (hgap : Text.Blank gap)
    (hending : ending = [] ∨ ending = ['\r']) (hempty : gap = [] ↔ value = []) :
    Document.editLine (indent ++ (word ++ gap ++ value) ++ ending) word value =
      indent ++ (word ++ gap ++ value) ++ ending := by
  obtain ⟨hindent', hbody⟩ :=
    takeWhile_append_of_head hindent (h.isTrimmed_append hvalue hempty).head
  have hword : ∀ c ∈ word, (!Text.isBlank c) = true := fun c hc => by simp [h.blank c hc]
  have hgapHead : ∀ c ∈ (gap ++ value).head?, (!Text.isBlank c) = false :=
    fun c hc => by simp [isBlank_head_of_gap hgap hempty.mp c hc]
  have hafterKey := (takeWhile_append_of_head hword hgapHead).2
  have hgap' := (takeWhile_append_of_head hgap hvalue.head).1
  rw [← List.append_assoc] at hafterKey
  have hlast' : (indent ++ (word ++ gap ++ value)).getLast? ≠ some '\r' :=
    getLast?_append_ne_return indent (h.isTrimmed_append hvalue hempty) (by simp [h.ne_nil])
  have hbare : (if (indent ++ (word ++ gap ++ value) ++ ending).getLast? = some '\r'
      then (indent ++ (word ++ gap ++ value) ++ ending).dropLast
      else indent ++ (word ++ gap ++ value) ++ ending) = indent ++ (word ++ gap ++ value) := by
    rcases hending with rfl | rfl
    · rw [List.append_nil, if_neg hlast']
    · rw [if_pos List.getLast?_concat, List.dropLast_concat]
  have hreturned : (if (indent ++ (word ++ gap ++ value) ++ ending).getLast? = some '\r'
      then ['\r'] else []) = ending := by
    rcases hending with rfl | rfl
    · rw [List.append_nil, if_neg hlast']
    · rw [if_pos List.getLast?_concat]
  unfold Document.editLine
  simp only [hbare, hreturned, hindent', hbody, hafterKey, hgap']
  cases hval : value with
  | nil => simp [hempty.mpr hval]
  | cons c rest =>
    have hne : gap.isEmpty = false := by simp [hempty, hval]
    simp [hne]

/-- Editing a line again in the same way leaves it. -/
theorem IsWord.editLine_editLine {word value : Text} (h : IsWord word)
    (hvalue : Text.IsTrimmed value) (raw : Text) :
    Document.editLine (Document.editLine raw word value) word value =
      Document.editLine raw word value := by
  obtain ⟨indent, gap, ending, hindent, hgap, hending, hempty, heq, -⟩ :=
    exists_laid_editLine raw word value
  rw [heq, h.editLine_of_laid hvalue hindent hgap hending hempty]

namespace KeyWord

variable {word : Text}

/-- The key and the value that are read where a line was edited, if a text without blanks is joined
before the line. -/
theorem splitKeyValue_edited (h : KeyWord word) {joined gap value : Text}
    (hjoined : ∀ c ∈ joined, Text.isBlank c = false) (hgap : Text.Blank gap)
    (hempty : gap = [] ↔ trimLine value = []) :
    splitKeyValue (joined ++ (word ++ gap ++ trimLine value)) =
      (joined ++ word, trimLine value) := by
  have hword : ∀ c ∈ joined ++ word, Text.isBlank c = false := by
    intro c hc
    rcases List.mem_append.mp hc with hc | hc
    · exact hjoined c hc
    · exact h.blank c hc
  have hsplit := splitKeyValue_append hword (by simp [h.ne_nil])
    (isBlank_head_of_gap hgap hempty.mp)
  have hvalue : Text.trim (gap ++ trimLine value) = trimLine value := by
    simpa using Text.trim_append hgap (isTrimmed_trimLine value) Text.Blank.nil
  rw [hvalue] at hsplit
  rw [show joined ++ (word ++ gap ++ trimLine value) =
    joined ++ word ++ (gap ++ trimLine value) by simp, hsplit]

/-- An edited line holds no line feed. -/
theorem newline_not_mem_editLine (h : KeyWord word) {raw value : Text} (hraw : '\n' ∉ raw)
    (hvalue : Writable value) : '\n' ∉ Document.editLine raw word (Text.trim value) := by
  obtain ⟨indent, gap, ending, -, -, -, -, heq, hline⟩ :=
    exists_eq_editLine raw word (Text.trim value)
  obtain ⟨hindent, hgap, hending⟩ := hline hraw
  have hname : '\n' ∉ word := by
    intro hc
    have hblank := h.blank _ hc
    revert hblank
    decide
  have htrim : '\n' ∉ Text.trim value := by
    obtain ⟨pre, post, -, -, hsplit, -⟩ := Text.exists_eq_trim value
    intro hc
    apply hvalue.newline
    rw [hsplit]
    exact List.mem_append_left _ (List.mem_append_right _ hc)
  simp [heq, hindent, hgap, hending, hname, htrim]

/-- An edited line does not make the next line continue it. -/
theorem getLast?_edited (h : KeyWord word) {gap value : Text} (hvalue : Writable value)
    (hempty : gap = [] ↔ trimLine value = []) :
    (word ++ gap ++ trimLine value).getLast? ≠ some '\\' := by
  cases hval : trimLine value with
  | nil =>
    rw [hempty.mpr hval, List.append_nil, List.append_nil]
    exact h.last
  | cons c rest =>
    have hlast := mt (getLast?_trimLine_eq_backslash_iff value).mp hvalue.last
    rw [hval] at hlast
    simpa [List.getLast?_append] using hlast

end KeyWord

/-- The value that is read where a line was edited is the one that was written, also if a text
without blanks is joined before the line. -/
theorem splitKeyValue_edited (x : Setting) {joined gap value : Text}
    (hjoined : ∀ c ∈ joined, Text.isBlank c = false) (hgap : Text.Blank gap)
    (hempty : gap = [] ↔ trimLine value = []) :
    (splitKeyValue (joined ++ (x.name ++ gap ++ trimLine value))).2 = trimLine value := by
  rw [x.keyWord.splitKeyValue_edited hjoined hgap hempty]

end SiteGate.Config
