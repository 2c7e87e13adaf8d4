import SiteGate.Proofs.Config.InStep

/-!
# What an update leaves as it is

A line with a key is blanks, a word, blanks, a value, and perhaps a carriage return (`LineParts`).
Every line that is not blank has such parts (`told_ofLine`), and no others (`Told.ofLine_line`). An
edited line has the parts of the old one, except for the word and the value, and for a gap where
there has been none and a value is to be set off (`Told.editLine`); taken apart again it has just
these parts (`Told.set`).

All other lines stay as they are, but for the one below that has continued the edited line, if
there is one (`updateText_one_line`).
-/

set_option autoImplicit false

namespace SiteGate.Config

/-- The parts of a line: the blanks before its first word, the word, the blanks after it, what
follows them, and the carriage return that the line ends in, if it does. -/
structure LineParts where
  indent : Text
  word : Text
  gap : Text
  value : Text
  ending : Text
deriving DecidableEq

namespace LineParts

/-- The line with the given parts. -/
def line (p : LineParts) : Text := p.indent ++ p.word ++ p.gap ++ p.value ++ p.ending

/-- Each part is as long as it can be, so that the line has no other parts. -/
structure Told (p : LineParts) : Prop where
  indent : Text.Blank p.indent
  word : IsWord p.word
  gap : Text.Blank p.gap
  value : ∀ c ∈ p.value.head?, Text.isBlank c = false
  value_nil : p.gap = [] → p.value = []
  ending : p.ending = ['\r'] ∨ p.ending = [] ∧ p.line.getLast? ≠ some '\r'

/-- The parts with another word and value. A value that has had no gap before it is given one. -/
def set (p : LineParts) (word value : Text) : LineParts where
  indent := p.indent
  word := word
  gap := if value = [] then [] else if p.gap = [] then [' '] else p.gap
  value := value
  ending := p.ending

variable {p : LineParts} {word value : Text}

/-- The gap of an edited line is blank. -/
theorem blank_gap_set (h : p.Told) : Text.Blank (p.set word value).gap := by
  unfold set
  split
  · exact Text.Blank.nil
  · split
    · simp only [Text.Blank]
      decide
    · exact h.gap

/-- An edited line has no gap just if it has no value. -/
theorem gap_set_eq_nil_iff (p : LineParts) (word value : Text) :
    (p.set word value).gap = [] ↔ value = [] := by
  unfold set
  grind

/-- The parts of a line. -/
def ofLine (raw : Text) : LineParts :=
  let returned := raw.getLast? = some '\r'
  let bare := if returned then raw.dropLast else raw
  let body := bare.dropWhile Text.isBlank
  let afterWord := body.dropWhile (!Text.isBlank ·)
  { indent := bare.takeWhile Text.isBlank
    word := Text.word body
    gap := afterWord.takeWhile Text.isBlank
    value := afterWord.dropWhile Text.isBlank
    ending := if returned then ['\r'] else [] }

/-- The parts of a line make up the line. -/
theorem line_ofLine (raw : Text) : (ofLine raw).line = raw := by
  have hbare : (if raw.getLast? = some '\r' then raw.dropLast else raw) ++
      (if raw.getLast? = some '\r' then ['\r'] else []) = raw := by
    by_cases hreturn : raw.getLast? = some '\r'
    · obtain ⟨bare, rfl⟩ := List.getLast?_eq_some_iff.mp hreturn
      simp
    · simp [hreturn]
  simp only [line, ofLine, Text.word, List.append_assoc, List.takeWhile_append_dropWhile]
  exact hbare

/-- A line that is not blank has a word. -/
theorem word_ofLine_ne_nil {raw : Text} (h : trimLine raw ≠ []) : (ofLine raw).word ≠ [] := by
  intro hnil
  have hline := line_ofLine raw
  have hending : Text.Blank (ofLine raw).ending := by
    simp only [ofLine, Text.Blank]
    split <;> decide
  have hindent : Text.Blank (ofLine raw).indent := fun c hc => List.mem_takeWhile_imp hc
  have hrest : (ofLine raw).gap = [] ∧ (ofLine raw).value = [] := by
    simp only [ofLine] at hnil ⊢
    generalize hbody : List.dropWhile Text.isBlank _ = body at hnil ⊢
    cases body with
    | nil => exact ⟨rfl, rfl⟩
    | cons c rest =>
      have hc : Text.isBlank c = false := Text.head_dropWhile c (by rw [hbody]; rfl)
      simp [Text.word, hc] at hnil
  apply h
  rw [← hline, line, hnil, hrest.1, hrest.2, List.append_nil, List.append_nil, trimLine_eq,
    Text.trim_append hindent Text.IsTrimmed.nil hending, List.map_nil]

/-- A line that is not blank is told apart. -/
theorem told_ofLine {raw : Text} (h : trimLine raw ≠ []) : (ofLine raw).Told where
  indent := fun c hc => List.mem_takeWhile_imp hc
  word := ⟨word_ofLine_ne_nil h, fun c hc => Text.isBlank_of_mem_word hc⟩
  gap := fun c hc => List.mem_takeWhile_imp hc
  value := Text.head_dropWhile
  value_nil := by
    intro hgap
    simp only [ofLine] at hgap ⊢
    generalize hafter : List.dropWhile (!Text.isBlank ·) _ = after at hgap ⊢
    cases after with
    | nil => rfl
    | cons c rest =>
      have hnot : (!Text.isBlank c) = false := Text.head_dropWhile c (by rw [hafter]; rfl)
      have hc : Text.isBlank c = true := by simpa using hnot
      simp [hc] at hgap
  ending := by
    rw [line_ofLine]
    by_cases hreturn : raw.getLast? = some '\r'
    · exact .inl (if_pos hreturn)
    · exact .inr ⟨if_neg hreturn, hreturn⟩

/-- A line has no other parts. -/
theorem Told.ofLine_line (h : p.Told) : ofLine p.line = p := by
  have hbody : ∀ c ∈ (p.word ++ (p.gap ++ p.value)).head?, Text.isBlank c = false := by
    rw [List.head?_append_of_ne_nil _ h.word.ne_nil]
    exact fun c hc => h.word.blank c (List.mem_of_mem_head? hc)
  have hword : ∀ c ∈ p.word, (!Text.isBlank c) = true := fun c hc => by simp [h.word.blank c hc]
  have hafter : ∀ c ∈ (p.gap ++ p.value).head?, (!Text.isBlank c) = false :=
    fun c hc => by simp [isBlank_head_of_gap h.gap h.value_nil c hc]
  obtain ⟨hindent', hbody'⟩ := takeWhile_append_of_head h.indent hbody
  obtain ⟨hword', hafter'⟩ := takeWhile_append_of_head hword hafter
  obtain ⟨hgap', hvalue'⟩ := takeWhile_append_of_head h.gap h.value
  have hline : p.line = p.indent ++ (p.word ++ (p.gap ++ p.value)) ++ p.ending := by simp [line]
  have hbare : (if p.line.getLast? = some '\r' then p.line.dropLast else p.line) =
      p.indent ++ (p.word ++ (p.gap ++ p.value)) := by
    rcases h.ending with hending | ⟨hending, hlast⟩
    · rw [hline, hending, if_pos List.getLast?_concat, List.dropLast_concat]
    · rw [if_neg hlast, hline, hending, List.append_nil]
  have hreturned : (if p.line.getLast? = some '\r' then ['\r'] else []) = p.ending := by
    rcases h.ending with hending | ⟨hending, hlast⟩
    · rw [hline, hending, if_pos List.getLast?_concat]
    · rw [if_neg hlast, hending]
  simp only [ofLine, Text.word, hbare, hreturned, hindent', hbody', hword', hafter', hgap', hvalue']

/-- An edited line has the parts of the old one, but for the word and the value. -/
theorem Told.editLine (h : p.Told) (word value : Text) :
    Document.editLine p.line word value = (p.set word value).line := by
  conv_rhs => rw [← h.ofLine_line]
  by_cases hvalue : value = []
  · simp [Document.editLine, hvalue, set, line, ofLine]
  · simp [Document.editLine, hvalue, set, line, ofLine]

/-- Taken apart again, an edited line has the parts that it is made of. -/
theorem Told.set (h : p.Told) (hword : IsWord word) (hvalue : Text.IsTrimmed value) :
    (p.set word value).Told := by
  have hgap := gap_set_eq_nil_iff p word value
  refine ⟨h.indent, hword, blank_gap_set h, hvalue.head, hgap.mp, ?_⟩
  refine h.ending.imp_right fun hending => ⟨hending.1, ?_⟩
  have hbody := hword.isTrimmed_append hvalue hgap
  have hne : word ++ (p.set word value).gap ++ value ≠ [] := by simp [hword.ne_nil]
  have hlast := getLast?_append_ne_return p.indent hbody hne
  simpa [line, LineParts.set, hending.1] using hlast

end LineParts

/-! ## All other lines -/

namespace Document

variable {c : Bool} {d : Document} {key : Text}

/-- The first of some lines continues one above them just if that is continued. -/
theorem ReadFrom.kind_head_iff (h : ReadFrom c d) :
    d.head?.map Entry.kind = some .continuation ↔ c = true ∧ d ≠ [] := by
  cases d with
  | nil => simp
  | cons e rest =>
    cases c with
    | false => simpa using h.kind_head e rfl
    | true => simp [(readFrom_true_cons.mp h).1]

/-- A line that holds a key is not blank, and it is continued just if it ends in a backslash. -/
theorem of_holdsKey {e : Entry} (hkind : e.kind = lineKind e.raw) (h : holdsKey key e = true) :
    trimLine e.raw ≠ [] ∧ isContinued e.raw e.kind = endsOpen e.raw := by
  unfold holdsKey at h
  split at h
  · rename_i k hk
    rw [hk] at hkind ⊢
    exact ⟨(lineKind_eq_keyValue_iff.mp hkind.symm).1, rfl⟩
  · cases h

/-- Where a key is found in a text: the lines above, its own, which is not blank, and the lines
below, which are read as below a line that is continued if it ends in a backslash. -/
theorem exists_of_findKey_ofText {t parent : Text} {pos : Nat}
    (h : (ofText t).findKey parent key = some pos) :
    ∃ before e after, ofText t = before ++ e :: after ∧ before.length = pos ∧
      holdsKey key e = true ∧ e.kind = lineKind e.raw ∧ trimLine e.raw ≠ [] ∧
      ReadFrom (endsOpen e.raw) after := by
  obtain ⟨before, e, after, hd, hlength, hheld⟩ := exists_of_findKey h
  obtain ⟨-, -, hread⟩ := inStep_iff.mp (inStep_ofText t)
  rw [hd] at hread
  have hfound := (readFrom_append.mp hread).2
  rw [hfound.of_holdsKey hheld] at hfound
  obtain ⟨hkind, hafter⟩ := readFrom_false_cons.mp hfound
  obtain ⟨hne, hcontinued⟩ := of_holdsKey hkind hheld
  rw [hcontinued] at hafter
  exact ⟨before, e, after, hd, hlength, hheld, hkind, hne, hafter⟩

end Document

/-- One line of a text is written anew: the line with the parts `p`, which stands below the lines
`above` and above the lines `below`. Of these only one that has continued it goes. -/
structure OneLineAnew (t t' word value : Text) (above below : List Text) (p : LineParts) :
    Prop where
  told : p.Told
  old : t.splitOn '\n' = above ++ p.line :: below
  new : t'.splitOn '\n' =
    above ++ (p.set word value).line :: if endsOpen p.line then below.tail else below
  continued : (Document.ofText t)[above.length + 1]?.map Entry.kind = some .continuation ↔
    endsOpen p.line = true ∧ below ≠ []
  told_set : word ≠ [] → (p.set word value).Told

/-- An update that finds no line gives the text back. One that finds a line writes that line anew
with its indentation, its gap and its carriage return, takes away the line below it just if that
has continued it, and leaves every other line as it is. -/
theorem updateText_one_line {t parent key value : Text} (hvalue : '\n' ∉ value) :
    ((updateText t parent key value).1 = false → (updateText t parent key value).2 = t) ∧
    ((updateText t parent key value).1 = true →
      ∃ above below p, OneLineAnew t (updateText t parent key value).2
        (Text.lower (Text.trim key)) (Text.trim value) above below p) := by
  refine ⟨Document.updateText_of_not_found, fun hfound => ?_⟩
  cases hpos : (Document.ofText t).findKey (Text.trim parent) (Text.lower (Text.trim key)) with
  | none => simp [updateText_of_findKey_eq_none value hpos] at hfound
  | some pos =>
    obtain ⟨before, e, after, hd, rfl, hheld, hkind, hne, hafter⟩ :=
      Document.exists_of_findKey_ofText hpos
    obtain ⟨p, htold, hline⟩ : ∃ p : LineParts, p.Told ∧ p.line = e.raw :=
      ⟨LineParts.ofLine e.raw, LineParts.told_ofLine hne, LineParts.line_ofLine e.raw⟩
    have hset := @Document.setValue?_of_findKey _ _ _ _ _ _ value hd hpos
    rw [← hline, htold.editLine, hafter.dropWhile_eq] at hset
    have hlines : t.splitOn '\n' = before.map Entry.raw ++ p.line :: after.map Entry.raw := by
      have hraw : (Document.ofText t).map Entry.raw = t.splitOn '\n' :=
        Document.map_raw_ofLines false _
      rw [← hraw, hd, hline, List.map_append, List.map_cons]
    have hwhole : ∀ line ∈ t.splitOn '\n', '\n' ∉ line := fun line => not_mem_of_mem_splitOn
    rw [hlines] at hwhole
    obtain ⟨raw, kind⟩ := e
    obtain rfl : kind = lineKind raw := hkind
    obtain rfl : p.line = raw := hline
    obtain ⟨hblank, -, -⟩ := Document.word_of_holdsKey hheld
    -- No line holds a line feed, so the text is split again where its lines are joined.
    have hnew : '\n' ∉ (p.set (Text.lower (Text.trim key)) (Text.trim value)).line := by
      rw [← htold.editLine, Document.newline_mem_editLine_iff hblank (hwhole p.line (by simp))]
      exact fun hc => hvalue (Text.trim_subset value hc)
    have hrest : (if endsOpen p.line then after.tail else after).map Entry.raw =
        if endsOpen p.line then (after.map Entry.raw).tail else after.map Entry.raw := by
      split <;> simp
    have hsub : (if endsOpen p.line then (after.map Entry.raw).tail else after.map Entry.raw) ⊆
        after.map Entry.raw := by
      split
      · exact List.tail_subset _
      · exact List.Subset.refl _
    refine ⟨before.map Entry.raw, after.map Entry.raw, p, htold, hlines, ?_, ?_, fun hkey => ?_⟩
    · simp only [updateText, hset, Document.render]
      rw [List.map_append, List.map_cons, hrest]
      refine List.splitOn_intercalate '\n' ?_ (by simp)
      intro line hmem
      rcases List.mem_append.mp hmem with habove | hbelow
      · exact hwhole line (by simp [habove])
      · rcases List.mem_cons.mp hbelow with rfl | hbelow
        · exact hnew
        · exact hwhole line (by simp [hsub hbelow])
    · rw [hd, ← List.head?_drop]
      have hkindHead := hafter.kind_head_iff
      simpa using hkindHead
    · exact htold.set ⟨hkey, hblank⟩ (Text.isTrimmed_trim value)

/-- Redirects on a line that goes on, in a file whose lines end in carriage returns. The line that
continues them ends in a backslash too. -/
def foldedPaths : Text :=
  "URLPaths\r\n\tforward-paths \t/a|/b, \\\r\n   /c|/d \\\r\n  exclude-paths /x\r\n".toList

/-- The new redirects stand after the tab and before the carriage return, and only one line goes. -/
theorem updateText_one_line_foldedPaths :
    (∃ above below p, OneLineAnew foldedPaths
      (updateText foldedPaths "URLPaths".toList " Forward-Paths".toList "/e|/f ".toList).2
      "forward-paths".toList "/e|/f".toList above below p) ∧
    (updateText foldedPaths "URLPaths".toList " Forward-Paths".toList "/e|/f ".toList).2 =
      "URLPaths\r\n\tforward-paths \t/e|/f\r\n  exclude-paths /x\r\n".toList := by
  have hword : Text.lower (Text.trim " Forward-Paths".toList) = "forward-paths".toList := by
    decide +kernel
  have hvalue : Text.trim "/e|/f ".toList = "/e|/f".toList := by decide +kernel
  have hanew : ∃ above below p, OneLineAnew foldedPaths
      (updateText foldedPaths "URLPaths".toList " Forward-Paths".toList "/e|/f ".toList).2
      (Text.lower (Text.trim " Forward-Paths".toList)) (Text.trim "/e|/f ".toList) above below p :=
    (updateText_one_line (by decide)).2 (by decide +kernel)
  rw [hword, hvalue] at hanew
  exact ⟨hanew, by decide +kernel⟩

end SiteGate.Config
