import SiteGate.Proofs.Config.CleanFolding
import SiteGate.Proofs.Config.Ownership
import SiteGate.Proofs.Text.LowercaseStable

/-!
# The line that a document finds

A document looks for a key in two steps. It goes down to the first header of the section, and from
there to the first line whose key begins with the given word, but not past the next header. In a
file that folds cleanly both steps can be followed piece by piece (`FoundLine`,
`findKey_eq_some_iff`), for what continues a line is neither a header nor a key.

What stands above the found line is complete for the reader, and the nearest header there is the one
that the document has found. So when the line is edited it stays between the same logical lines
(`slot_of_piecesOf_eq`). The line itself is neither passed over nor a header, and the key that the
reader takes from it begins with the word as well; only at the very end of a file may a backslash
with nothing behind it hide a header from the document.
-/

set_option autoImplicit false

namespace SiteGate.Config

/-- The line that a piece begins with, as what it is on its own. -/
def Piece.first (p : Piece) : Entry := ⟨p.raw, lineKind p.raw⟩

/-! ## Searching piece by piece -/

/-- The place of the first element of a kind. -/
theorem findIdx?_first {α : Type} {f : α → Bool} {before after : List α} {x : α}
    (hbefore : ∀ y ∈ before, f y = false) (hx : f x = true) :
    (before ++ x :: after).findIdx? f = some before.length := by
  simp [List.findIdx?_eq_none_iff.mpr hbefore, List.findIdx?_cons, hx]

namespace Document

variable {f : Entry → Bool}

/-- A piece whose first line fails a test that every continuation fails has no line that passes. -/
theorem forall_mem_entries (hf : ∀ raw, f ⟨raw, .continuation⟩ = false) {ps : List Piece}
    (h : ∀ p ∈ ps, f p.first = false) : ∀ e ∈ ps.flatMap Piece.entries, f e = false := by
  intro e he
  obtain ⟨p, hp, he⟩ := List.mem_flatMap.mp he
  rcases List.mem_cons.mp he with rfl | he
  · exact h p hp
  · obtain ⟨next, -, rfl⟩ := List.mem_map.mp he
    exact hf next

/-- A search that passes by every continuation ends at the first line of a piece. -/
theorem findIdx?_flatMap_entries (hf : ∀ raw, f ⟨raw, .continuation⟩ = false) {ps : List Piece}
    {pos : Nat} :
    (ps.flatMap Piece.entries).findIdx? f = some pos ↔
      ∃ before p after, ps = before ++ p :: after ∧ (∀ q ∈ before, f q.first = false) ∧
        f p.first = true ∧ (before.flatMap Piece.entries).length = pos := by
  have hfirst : ∀ before p after, (∀ q ∈ before, f q.first = false) → f p.first = true →
      ((before ++ p :: after).flatMap Piece.entries).findIdx? f =
        some (before.flatMap Piece.entries).length := by
    intro before p after hbefore hp
    rw [List.flatMap_append, List.flatMap_cons]
    exact findIdx?_first (forall_mem_entries hf hbefore) hp
  constructor
  · intro h
    cases hfound : ps.find? (f ·.first) with
    | none =>
      have hnone : ∀ p ∈ ps, f p.first = false := by simpa using hfound
      rw [List.findIdx?_eq_none_iff.mpr (forall_mem_entries hf hnone)] at h
      cases h
    | some p =>
      obtain ⟨hp, before, after, rfl, hbefore⟩ := List.find?_eq_some_iff_append.mp hfound
      have hbefore' : ∀ q ∈ before, f q.first = false := by simpa using hbefore
      rw [hfirst before p after hbefore' hp] at h
      exact ⟨before, p, after, rfl, hbefore', hp, Option.some.inj h⟩
  · rintro ⟨before, p, after, rfl, hbefore, hp, rfl⟩
    exact hfirst before p after hbefore hp

/-- Lines up to one that is no continuation are the lines of the pieces up to it. -/
theorem takeWhile_flatMap_entries (hf : ∀ raw, f ⟨raw, .continuation⟩ = true) (ps : List Piece) :
    (ps.flatMap Piece.entries).takeWhile f =
      (ps.takeWhile (f ·.first)).flatMap Piece.entries := by
  induction ps with
  | nil => rfl
  | cons p ps ih =>
    by_cases hp : f p.first = true
    · have hall : ∀ e ∈ p.entries, f e = true := by
        intro e he
        rcases List.mem_cons.mp he with rfl | he
        · exact hp
        · obtain ⟨next, -, rfl⟩ := List.mem_map.mp he
          exact hf next
      rw [List.flatMap_cons, List.takeWhile_append_of_pos hall, ih,
        List.takeWhile_cons_of_pos (by exact hp), List.flatMap_cons]
    · have hfirst : ∀ rest : Document, (p.entries ++ rest).takeWhile f = [] := fun rest =>
        List.takeWhile_cons_of_neg hp
      rw [List.flatMap_cons, hfirst, List.takeWhile_cons_of_neg (by exact hp)]
      rfl

/-- What is taken for a header is of the kind. -/
theorem kind_of_isHeader {e : Entry} (h : isHeader e = true) : ∃ s, e.kind = .header s := by
  unfold isHeader at h
  split at h
  · rename_i s hkind
    exact ⟨s, hkind⟩
  · cases h

/-- What is taken for the header of a section is of the kind. -/
theorem isHeaderOf_iff {e : Entry} {parent : Text} {s : Section}
    (hparent : Text.lowerAscii parent = s.name) :
    isHeaderOf parent e = true ↔ e.kind = .header s := by
  unfold isHeaderOf
  split
  · rename_i s' hkind
    have hname : Text.sameIgnoringCase s'.name parent = true ↔ s'.name = s.name := by
      simp [Text.sameIgnoringCase, Section.lowerAscii_name, hparent]
    rw [hname, hkind, LineKind.header.injEq]
    exact ⟨Section.eq_of_name_eq, congrArg Section.name⟩
  · rename_i hkind
    constructor
    · intro h
      cases h
    · intro h
      exact absurd h (hkind s)

end Document

/-! ## Found lines -/

/-- The parts of a file around the line that the document finds for a word in a section: nothing
above is a header of the section, and nothing between the header and the line is a header or has a
key that begins with the word. -/
structure FoundLine (s : Section) (word : Text) (ps above between below : List Piece)
    (header found : Piece) : Prop where
  eq : ps = above ++ header :: (between ++ found :: below)
  above : ∀ p ∈ above, lineKind p.raw ≠ .header s
  header : lineKind header.raw = .header s
  between : ∀ p ∈ between, Document.isHeader p.first = false ∧
    Document.holdsKey word p.first = false
  found : Document.holdsKey word found.first = true

/-- A line with a key is no header. -/
theorem Document.isHeader_of_holdsKey {word : Text} {e : Entry} (h : holdsKey word e = true) :
    isHeader e = false := by
  unfold holdsKey at h
  unfold isHeader
  split at h
  · rename_i k hkind
    rw [hkind]
  · cases h

/-- The header of a section has no line joined to it. -/
theorem joined_of_lineKind_header {lines : List Text} {p : Piece} (hp : p ∈ pieces lines)
    {s : Section} (h : lineKind p.raw = .header s) : p.joined = none ∧ endsOpen p.raw = false := by
  have hopen : endsOpen p.raw = false := by
    by_contra hopen
    have hnone := ofBareLine?_of_endsOpen (by simpa using hopen)
    rw [lineKind_eq_header_iff.mp h] at hnone
    cases hnone
  refine ⟨?_, hopen⟩
  cases hjoined : p.joined with
  | none => rfl
  | some next =>
    rw [endsOpen_of_joined hp (by simp [hjoined])] at hopen
    cases hopen

namespace Document

/-- How far the lines between a header and another line reach. -/
theorem length_entries_append {t : Text} {s : Section} {header : Piece} (hmem : header ∈ piecesOf t)
    (hheader : lineKind header.raw = .header s) (above between : List Piece) :
    ((above ++ header :: between).flatMap Piece.entries).length =
      (above.flatMap Piece.entries).length + 1 + (between.flatMap Piece.entries).length := by
  have hjoined := (joined_of_lineKind_header hmem hheader).1
  simp [Piece.entries, hjoined]
  omega

/-- Below a header the document looks as far as the pieces go before the next header. -/
theorem takeWhile_below_header {t : Text} {s : Section} {above rest : List Piece} {header : Piece}
    (hfolds : ∀ p ∈ piecesOf t, p.FoldsCleanly) (heq : piecesOf t = above ++ header :: rest)
    (hheader : lineKind header.raw = .header s) :
    ((ofText t).drop ((above.flatMap Piece.entries).length + 1)).takeWhile (!isHeader ·) =
      (rest.takeWhile (!isHeader ·.first)).flatMap Piece.entries := by
  have hentries : ofText t = (piecesOf t).flatMap Piece.entries :=
    ofLines_eq_flatMap_entries hfolds
  have hmem : header ∈ piecesOf t := by simp [heq]
  have hjoined := (joined_of_lineKind_header hmem hheader).1
  have htake := takeWhile_flatMap_entries (f := (!isHeader ·)) (fun raw => rfl) rest
  rw [hentries, heq, List.flatMap_append, List.drop_length_add_append, List.flatMap_cons, ← htake]
  simp [Piece.entries, hjoined]

/-- In a file that folds cleanly the document finds a line just if the file has these parts. -/
theorem findKey_eq_some_iff {t parent word : Text} {s : Section} {pos : Nat}
    (hfolds : ∀ p ∈ piecesOf t, p.FoldsCleanly) (hparent : Text.lowerAscii parent = s.name) :
    (ofText t).findKey parent word = some pos ↔
      ∃ above between below header found,
        FoundLine s word (piecesOf t) above between below header found ∧
          ((above ++ header :: between).flatMap Piece.entries).length = pos := by
  have hentries : ofText t = (piecesOf t).flatMap Piece.entries :=
    ofLines_eq_flatMap_entries hfolds
  have hne : parent.isEmpty = false := by
    cases parent with
    | nil => exact absurd hparent.symm s.name_ne_nil
    | cons c rest => rfl
  have hfirst : ∀ p : Piece, isHeaderOf parent p.first = true ↔ lineKind p.raw = .header s :=
    fun p => isHeaderOf_iff hparent
  rw [findKey, hne, if_neg Bool.false_ne_true]
  constructor
  · intro h
    obtain ⟨start, hstart, hrest⟩ := Option.bind_eq_some_iff.mp h
    rw [hentries] at hstart
    obtain ⟨above, header, rest, heq, habove, hheader, rfl⟩ :=
      (findIdx?_flatMap_entries (fun raw => rfl)).mp hstart
    rw [hfirst] at hheader
    rw [takeWhile_below_header hfolds heq hheader] at hrest
    obtain ⟨offset, hoffset, rfl⟩ := Option.map_eq_some_iff.mp hrest
    obtain ⟨between, found, after, hsplit, hbetween, hfound, rfl⟩ :=
      (findIdx?_flatMap_entries (fun raw => rfl)).mp hoffset
    have hheaders : ∀ p ∈ between, isHeader p.first = false := by
      intro p hp
      have hmem : p ∈ rest.takeWhile (!isHeader ·.first) := by simp [hsplit, hp]
      simpa using List.mem_takeWhile_imp hmem
    have hrest' : rest = between ++ found :: (after ++ rest.dropWhile (!isHeader ·.first)) := by
      have happend := List.takeWhile_append_dropWhile (p := (!isHeader ·.first)) (l := rest)
      rw [hsplit] at happend
      simpa using happend.symm
    have hmem : header ∈ piecesOf t := by simp [heq]
    refine ⟨above, between, _, header, found, ⟨by rw [heq, ← hrest'], ?_, hheader, ?_, hfound⟩,
      length_entries_append hmem hheader above between⟩
    · intro p hp hkind
      have hnot := habove p hp
      rw [(hfirst p).mpr hkind] at hnot
      cases hnot
    · exact fun p hp => ⟨hheaders p hp, hbetween p hp⟩
  · rintro ⟨above, between, below, header, found, h, rfl⟩
    have habove : ∀ p ∈ above, isHeaderOf parent p.first = false := by
      intro p hp
      have hnot := mt (hfirst p).mp (h.above p hp)
      simpa using hnot
    have hstart : (ofText t).findIdx? (isHeaderOf parent) =
        some (above.flatMap Piece.entries).length := by
      rw [hentries]
      exact (findIdx?_flatMap_entries (fun raw => rfl)).mpr
        ⟨above, header, _, h.eq, habove, (hfirst header).mpr h.header, rfl⟩
    have htake : (between ++ found :: below).takeWhile (!isHeader ·.first) =
        between ++ found :: below.takeWhile (!isHeader ·.first) := by
      rw [List.takeWhile_append_of_pos fun p hp => by simp [(h.between p hp).1],
        List.takeWhile_cons_of_pos (by simp [isHeader_of_holdsKey h.found])]
    have hoffset := (findIdx?_flatMap_entries (f := holdsKey word) (fun raw => rfl)).mpr
      ⟨between, found, below.takeWhile (!isHeader ·.first), htake,
        fun p hp => (h.between p hp).2, h.found, rfl⟩
    have hmem : header ∈ piecesOf t := by simp [h.eq]
    rw [hstart, Option.bind_some, takeWhile_below_header hfolds h.eq h.header, hoffset,
      Option.map_some, length_entries_append hmem h.header]

end Document

/-! ## What the reader makes of the parts -/

/-- A whole piece that folds cleanly is a header for the reader just if it is one in the
document. -/
theorem Piece.ofBareLine?_line_iff {p : Piece} (hfolds : p.FoldsCleanly) (hwhole : p.Whole)
    {s : Section} : Section.ofBareLine? p.line = some s ↔ lineKind p.raw = .header s := by
  rw [lineKind_eq_header_iff]
  cases hopen : endsOpen p.raw with
  | true =>
    have hjoined : p.joined.isSome = true := hwhole.trans hopen
    rw [(hfolds hjoined).2.1, ofBareLine?_of_endsOpen hopen]
  | false =>
    have hjoined : p.joined = none := by simpa [Piece.Whole, hopen] using hwhole
    rw [Piece.line, hjoined, p.head_of_not_endsOpen hopen]
    simp

/-- What stands above a piece is whole, and what stands below it are pieces of their own. -/
theorem whole_of_piecesOf_eq {t : Text} {above below : List Piece} {p : Piece}
    (h : piecesOf t = above ++ p :: below) :
    (∀ q ∈ above, q.Whole) ∧ (below ≠ [] → p.Whole) ∧
      pieces (below.flatMap Piece.raws) = below := by
  obtain ⟨hwhole, rest, -, hrest⟩ := pieces_eq_append h (List.cons_ne_nil p below)
  obtain ⟨rest', -, hbelow, hp⟩ := pieces_eq_cons hrest
  have hraws : below.flatMap Piece.raws = rest' := by
    rw [← hbelow, flatMap_raws_pieces]
  refine ⟨hwhole, ?_, by rw [hraws, hbelow]⟩
  intro hne
  apply hp
  rintro rfl
  exact hne hbelow.symm

/-- When the line that a piece begins with is edited, it stays below the logical lines above it, and
above those below. -/
theorem slot_of_piecesOf_eq {t : Text} {above below : List Piece} {p : Piece}
    (h : piecesOf t = above ++ p :: below) (hfolds : ∀ q ∈ piecesOf t, q.FoldsCleanly) :
    (Document.ofText t).slot (above.flatMap Piece.entries).length =
      ⟨(above.map Piece.line).reverse, [], below.map Piece.line⟩ := by
  obtain ⟨hwhole, -, hrest⟩ := whole_of_piecesOf_eq h
  have hdoc : Document.ofText t = above.flatMap Piece.entries ++
      p.first :: (p.joined.toList.map (⟨·, .continuation⟩) ++ below.flatMap Piece.entries) := by
    have hentries : Document.ofText t = (piecesOf t).flatMap Piece.entries :=
      Document.ofLines_eq_flatMap_entries hfolds
    rw [hentries, h]
    simp [Piece.entries, Piece.first]
  have hlines : ∀ ps : List Piece, (ps.flatMap Piece.entries).map (fun e => trimLine e.raw) =
      (ps.flatMap Piece.raws).map trimLine := by
    intro ps
    induction ps with
    | nil => rfl
    | cons p ps ih => simp [ih, Piece.entries, Piece.raws]
  have hbelow : ((p.joined.toList.map (Entry.mk · .continuation)) ++
      below.flatMap Piece.entries).dropWhile (·.kind = .continuation) =
        below.flatMap Piece.entries := by
    rw [List.dropWhile_append_of_pos (by simp)]
    cases below with
    | nil => rfl
    | cons p below => simp [Piece.entries, lineKind_ne_continuation]
  have hfold : joinLines ((below.flatMap Piece.raws).map trimLine) = below.map Piece.line := by
    rw [← map_line_pieces, hrest]
  unfold Document.slot
  rw [hdoc, List.take_left, List.drop_length_add_append, List.drop_one, List.tail_cons]
  simp only [hlines, cutBefore_of_whole hwhole, hbelow, hfold]

namespace FoundLine

variable {t word : Text} {s : Section} {above between below : List Piece} {header found : Piece}

/-- The pieces above the found line, the line, and those below it. -/
theorem split (h : FoundLine s word (piecesOf t) above between below header found) :
    piecesOf t = (above ++ header :: between) ++ found :: below := by
  simpa using h.eq

/-- The logical lines of the file. -/
theorem logicalLines_eq (h : FoundLine s word (piecesOf t) above between below header found) :
    logicalLines t =
      (above ++ header :: between).map Piece.line ++ found.line :: below.map Piece.line := by
  rw [← map_line_piecesOf, h.split, List.map_append, List.map_cons]

/-- The nearest header above the found line is the one of its section. -/
theorem nearestHeader? (h : FoundLine s word (piecesOf t) above between below header found)
    (hfolds : ∀ p ∈ piecesOf t, p.FoldsCleanly) :
    nearestHeader? ((above ++ header :: between).map Piece.line).reverse = some s := by
  have hwhole := (whole_of_piecesOf_eq h.split).1
  have hplain : ∀ line ∈ (between.map Piece.line).reverse, Section.ofBareLine? line = none := by
    intro line hline
    obtain ⟨p, hp, rfl⟩ := List.mem_map.mp (List.mem_reverse.mp hline)
    have hnot := (h.between p hp).1
    by_contra hbare
    obtain ⟨s', hs'⟩ := Option.ne_none_iff_exists'.mp hbare
    rw [Piece.ofBareLine?_line_iff (hfolds p (by simp [h.eq, hp])) (hwhole p (by simp [hp]))]
      at hs'
    simp [Document.isHeader, Piece.first, hs'] at hnot
  have hbare : Section.ofBareLine? header.line = some s :=
    (Piece.ofBareLine?_line_iff (hfolds header (by simp [h.eq])) (hwhole header (by simp))).mpr
      h.header
  rw [show ((above ++ header :: between).map Piece.line).reverse =
      (between.map Piece.line).reverse ++ header.line :: (above.map Piece.line).reverse by simp,
    nearestHeader?_append hplain, nearestHeader?_cons, hbare]
  rfl

end FoundLine

/-! ## The found line -/

/-- A character that is not blank ends the first word of a text or comes after it. -/
theorem word_concat (t : Text) {c : Char} (hc : Text.isBlank c = false) :
    Text.word (t ++ [c]) = Text.word t ∨ Text.word (t ++ [c]) = Text.word t ++ [c] := by
  unfold Text.word
  rw [List.takeWhile_append]
  split
  · rename_i hlength
    have hall : t.takeWhile (!Text.isBlank ·) = t :=
      (List.takeWhile_prefix _).eq_of_length hlength
    right
    simp [hall, hc]
  · exact .inl rfl

/-- Of the lines that begin with a character that is not blank the comments are passed over. -/
theorem isSkippable_iff_of_head {line : Text} (hne : line ≠ [])
    (hblank : ∀ c ∈ line.head?, Text.isBlank c = false) :
    isSkippable line = true ↔ line.head? = some '#' := by
  cases line with
  | nil => exact absurd rfl hne
  | cons c rest =>
    rw [isSkippable_of_head rfl (hblank c rfl)]
    simp

/-- A folded line begins as the first of its lines. -/
theorem Piece.head?_line {p : Piece} (h : p.head ≠ []) : p.line.head? = p.head.head? := by
  obtain ⟨c, rest, heq⟩ := List.exists_cons_of_ne_nil h
  simp [Piece.line, heq]

/-- The document finds a word on a line just if the line is no comment and no header, and its first
word begins with the word. -/
theorem holdsKey_lineKind_iff {word raw : Text} :
    Document.holdsKey word ⟨raw, lineKind raw⟩ = true ↔
      trimLine raw ≠ [] ∧ (trimLine raw).head? ≠ some '#' ∧
        Section.ofBareLine? (trimLine raw) = none ∧
          word <+: Text.lower (Text.word (trimLine raw)) := by
  have hhead := (isTrimmed_trimLine raw).head
  unfold Document.holdsKey lineKind
  cases hline : trimLine raw with
  | nil => simp
  | cons c rest =>
    rw [hline] at hhead
    by_cases hsign : c = '#'
    · simp [hsign]
    · cases hbare : Section.ofBareLine? (c :: rest) with
      | some s => simp [hsign, hbare]
      | none =>
        simp [hsign, hbare, List.isPrefixOf_iff_prefix,
          splitKeyValue_fst hhead (List.cons_ne_nil c rest)]

/-- What the document finds on the first line of a piece stands in what that line gives to the
logical line: the backslash at its end may belong to the key, but no word that is looked for reaches
it. -/
theorem Piece.holdsKey_first_iff {p : Piece} {word : Text} (hne : word ≠ [])
    (hlast : word.getLast? ≠ some '\\') :
    Document.holdsKey word p.first = true ↔
      p.head ≠ [] ∧ p.head.head? ≠ some '#' ∧ Section.ofBareLine? (trimLine p.raw) = none ∧
        word <+: Text.lower (Text.word p.head) := by
  rw [Piece.first, holdsKey_lineKind_iff]
  cases hopen : endsOpen p.raw with
  | false => rw [p.head_of_not_endsOpen hopen]
  | true =>
    have hraw := p.head_append_of_endsOpen hopen
    have hkey : word <+: Text.lower (Text.word (trimLine p.raw)) ↔
        word <+: Text.lower (Text.word p.head) := by
      rw [hraw]
      rcases word_concat p.head (c := '\\') rfl with hword | hword
      · rw [hword]
      · have hends : word ≠ Text.lower (Text.word p.head) ++ ['\\'] := by
          rintro rfl
          simp at hlast
        rw [hword, Text.lower_concat (by decide +kernel) (by decide +kernel)
          (Text.settled_of_ascii (by decide) (by decide)), List.prefix_concat_iff]
        exact or_iff_right hends
    rw [hkey]
    cases hhead : p.head with
    | nil =>
      have hnot : ¬ word <+: Text.lower (Text.word []) := fun h => hne (List.prefix_nil.mp h)
      simp [hnot]
    | cons c rest => simp [hraw, hhead]

namespace FoundLine

variable {t word : Text} {s : Section} {above between below : List Piece} {header found : Piece}

/-- The found line is not passed over. -/
theorem isSkippable_found (h : FoundLine s word (piecesOf t) above between below header found)
    (hne : word ≠ []) (hlast : word.getLast? ≠ some '\\') :
    isSkippable found.line = false ∧ (∀ c ∈ found.line.head?, Text.isBlank c = false) ∧
      found.line ≠ [] := by
  obtain ⟨hhead, hsign, -, -⟩ := (Piece.holdsKey_first_iff hne hlast).mp h.found
  have hfirst := Piece.head?_line hhead
  have hblank : ∀ c ∈ found.line.head?, Text.isBlank c = false := by
    rw [hfirst]
    exact found.head_not_blank
  have hline : found.line ≠ [] := by
    intro hnil
    rw [hnil] at hfirst
    exact hhead (List.head?_eq_none_iff.mp hfirst.symm)
  refine ⟨?_, hblank, hline⟩
  rw [← hfirst] at hsign
  simpa using mt (isSkippable_iff_of_head hline hblank).mp hsign

/-- The key that the reader takes from the found line begins with the word. -/
theorem begins_found (h : FoundLine s word (piecesOf t) above between below header found)
    (hfolds : ∀ p ∈ piecesOf t, p.FoldsCleanly) (hne : word ≠ [])
    (hlast : word.getLast? ≠ some '\\') :
    (splitKeyValue found.line).1 = Text.word found.line ∧
      word <+: Text.lower (Text.word found.line) := by
  obtain ⟨hhead, -, -, hbegins⟩ := (Piece.holdsKey_first_iff hne hlast).mp h.found
  obtain ⟨-, hblank, hline⟩ := h.isSkippable_found hne hlast
  have hkey := splitKeyValue_fst hblank hline
  refine ⟨hkey, ?_⟩
  cases hjoined : found.joined with
  | none => simpa [Piece.line, hjoined] using hbegins
  | some next =>
    have hsame := (hfolds found (by simp [h.eq]) (by simp [hjoined])).2.2 hhead
    rw [← hkey, hsame, splitKeyValue_fst found.head_not_blank hhead]
    exact hbegins

/-- Only in the last place of a file may the found line be a header for the reader. -/
theorem ofBareLine?_found (h : FoundLine s word (piecesOf t) above between below header found)
    (hfolds : ∀ p ∈ piecesOf t, p.FoldsCleanly) (hbelow : below ≠ []) :
    Section.ofBareLine? found.line = none := by
  by_contra hbare
  obtain ⟨s', hs'⟩ := Option.ne_none_iff_exists'.mp hbare
  have hwhole := (whole_of_piecesOf_eq h.split).2.1 hbelow
  rw [Piece.ofBareLine?_line_iff (hfolds found (by simp [h.eq])) hwhole] at hs'
  obtain ⟨-, -, hnone, -⟩ := holdsKey_lineKind_iff.mp h.found
  rw [lineKind_eq_header_iff.mp hs'] at hnone
  cases hnone

/-- The word can be written as a key, begins with no number sign, and is in lower case. -/
theorem keyWord (h : FoundLine s word (piecesOf t) above between below header found)
    (hfolds : ∀ p ∈ piecesOf t, p.FoldsCleanly) (hne : word ≠ [])
    (hlast : word.getLast? ≠ some '\\') :
    KeyWord word ∧ word.head? ≠ some '#' ∧ Text.lower word = word := by
  obtain ⟨-, hbegins⟩ := h.begins_found hfolds hne hlast
  refine ⟨⟨hne, Text.isBlank_of_prefix_word hbegins, hlast⟩, fun hsign => ?_,
    Text.lower_of_prefix hbegins⟩
  obtain ⟨hskip, hblank, hne⟩ := h.isSkippable_found hne hlast
  rw [(isSkippable_iff_of_head hne hblank).mpr (Text.head?_of_prefix_word hbegins hsign)] at hskip
  cases hskip

end FoundLine

end SiteGate.Config
