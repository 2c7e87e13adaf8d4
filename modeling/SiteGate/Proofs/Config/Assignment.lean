import Mathlib.Data.List.Perm.Basic
import SiteGate.Proofs.Config.Belief
import SiteGate.Proofs.Config.FoundLine
import SiteGate.Proofs.Config.InStep

/-!
# Assignments

An assignment is a change that gives a setting a value which may stand on a line of its own. It
always leaves the document in step with its text (`accepts`), so that all assignments of a list
can be made in memory before the text is written.

A document is made of pieces, each a line with the one that continues it, and an assignment is
found by the first lines of the pieces alone (`findKey_flatMap_entries`). The line that it writes
is found by the same assignments as the one it stands for, since no setting's name is the
beginning of another one. So no assignment moves the place of another (`place?_put`). Two that
concern different settings have different places (`place?_ne`) and may be made in either order
(`put_comm`), and one that is made again changes nothing more (`put_put`).
-/

set_option autoImplicit false

namespace SiteGate.Config

/-- A change that gives a setting a value. -/
structure Assignment extends Change where
  setting : Setting
  addressed : setting.AddressedBy parent key
  writable : Writable value

namespace Document

/-! ## The first lines of the pieces -/

/-- Every document that is read is made of pieces. -/
theorem exists_entries : ∀ lines : List Text,
    ∃ ps : List Piece, ofLines false lines = ps.flatMap Piece.entries
  | [] => ⟨[], rfl⟩
  | [raw] => ⟨[⟨raw, none⟩], rfl⟩
  | raw :: next :: rest => by
    cases hcontinued : isContinued raw (lineKind raw) with
    | true =>
      obtain ⟨ps, hps⟩ := exists_entries rest
      exact ⟨⟨raw, some next⟩ :: ps, by simp [ofLines, hcontinued, Piece.entries, hps]⟩
    | false =>
      obtain ⟨ps, hps⟩ := exists_entries (next :: rest)
      refine ⟨⟨raw, none⟩ :: ps, ?_⟩
      simp only [ofLines, hcontinued, Bool.false_eq_true, if_false] at hps ⊢
      rw [hps]
      rfl

/-- How many lines the first pieces have. -/
def linesBefore (ps : List Piece) (i : Nat) : Nat := ((ps.take i).flatMap Piece.entries).length

variable {f : Entry → Bool} {ps : List Piece}

/-- What continues a line is passed by. -/
theorem findIdx?_joined (hf : ∀ raw, f ⟨raw, .continuation⟩ = false) (joined : List Text)
    (d : Document) :
    (joined.map (Entry.mk · .continuation) ++ d).findIdx? f =
      (d.findIdx? f).map (· + joined.length) := by
  induction joined with
  | nil => simp
  | cons raw joined ih =>
    rw [List.map_cons, List.cons_append, List.findIdx?_cons, hf, ih]
    cases d.findIdx? f <;> simp [Nat.add_assoc]

/-- A search that passes over continuations finds the first line of a piece. -/
theorem findIdx?_entries (hf : ∀ raw, f ⟨raw, .continuation⟩ = false) (ps : List Piece) :
    (ps.flatMap Piece.entries).findIdx? f =
      ((ps.map Piece.first).findIdx? f).map (linesBefore ps) := by
  induction ps with
  | nil => rfl
  | cons p ps ih =>
    rw [List.flatMap_cons, List.map_cons, Piece.entries, List.cons_append, ← Piece.first,
      List.findIdx?_cons, List.findIdx?_cons, findIdx?_joined hf, ih]
    by_cases hp : f p.first = true
    · simp [hp, linesBefore]
    · simp only [hp, if_false, Option.map_map, Bool.false_eq_true]
      congr 1
      funext i
      simp [linesBefore, Piece.entries]
      omega

/-- The lines of the first pieces are counted without the later ones. -/
theorem linesBefore_of_le_length {qs : List Piece} (h : qs <+: ps) {i : Nat} (hi : i ≤ qs.length) :
    linesBefore ps i = linesBefore qs i := by
  obtain ⟨rest, rfl⟩ := h
  simp [linesBefore, List.take_append_of_le_length hi]

/-- The lines of the first pieces are those above a piece, its own, and those below it. -/
theorem linesBefore_append_cons (above below : List Piece) (p : Piece) (i : Nat) :
    linesBefore (above ++ p :: below) (above.length + 1 + i) =
      linesBefore (above ++ p :: below) above.length + 1 +
        (linesBefore below i + p.joined.toList.length) := by
  have htake : (above ++ p :: below).take (above.length + 1 + i) = above ++ p :: below.take i := by
    rw [Nat.add_assoc, List.take_length_add_append, Nat.add_comm 1 i, List.take_succ_cons]
  simp [linesBefore, htake, Piece.entries]
  omega

/-- The lines of a section are searched by the first lines of its pieces too; what continues its
header comes before them. -/
theorem findIdx?_block (above below : List Piece) (p : Piece) (key : Text) :
    ((((above ++ p :: below).flatMap Piece.entries).drop
        (linesBefore (above ++ p :: below) above.length + 1)).takeWhile (!isHeader ·)).findIdx?
          (holdsKey key) =
      (((((above ++ p :: below).map Piece.first).drop (above.length + 1)).takeWhile
        (!isHeader ·)).findIdx? (holdsKey key)).map
          fun i => linesBefore below i + p.joined.toList.length := by
  have hlines : ((above ++ p :: below).flatMap Piece.entries).drop
      (linesBefore (above ++ p :: below) above.length + 1) =
        p.joined.toList.map (Entry.mk · .continuation) ++ below.flatMap Piece.entries := by
    rw [linesBefore, List.take_left, List.flatMap_append, List.drop_length_add_append]
    rfl
  have hheads : ((above ++ p :: below).map Piece.first).drop (above.length + 1) =
      below.map Piece.first := by
    rw [← List.map_drop, List.drop_length_add_append]
    rfl
  have hblock : (below.map Piece.first).takeWhile (!isHeader ·) =
      (below.takeWhile (!isHeader ·.first)).map Piece.first := by
    rw [List.takeWhile_map]
    rfl
  rw [hlines, hheads, hblock, List.takeWhile_append_of_pos (by simp [isHeader]),
    takeWhile_flatMap_entries (f := (!isHeader ·)) (fun _ => rfl) below,
    findIdx?_joined (fun _ => rfl),
    findIdx?_entries (f := holdsKey key) (fun _ => rfl) (below.takeWhile (!isHeader ·.first))]
  cases hoffset : ((below.takeWhile (!isHeader ·.first)).map Piece.first).findIdx? (holdsKey key)
    with
  | none => rfl
  | some offset =>
    obtain ⟨hlt, -⟩ := List.findIdx?_eq_some_iff_getElem.mp hoffset
    rw [List.length_map] at hlt
    simp only [Option.map_some, Option.some.injEq]
    rw [linesBefore_of_le_length (List.takeWhile_prefix _) hlt.le]

/-- A document is searched for a key by the first lines of its pieces alone. -/
theorem findKey_flatMap_entries (ps : List Piece) (parent key : Text) :
    findKey (ps.flatMap Piece.entries) parent key =
      (findKey (ps.map Piece.first) parent key).map (linesBefore ps) := by
  unfold findKey
  split
  · exact findIdx?_entries (f := holdsKey key) (fun _ => rfl) ps
  · rw [findIdx?_entries (f := isHeaderOf parent) (fun _ => rfl) ps]
    cases hstart : (ps.map Piece.first).findIdx? (isHeaderOf parent) with
    | none => rfl
    | some start =>
      obtain ⟨hlt, -⟩ := List.findIdx?_eq_some_iff_getElem.mp hstart
      obtain ⟨above, p, below, rfl, rfl⟩ : ∃ above p below, ps = above ++ p :: below ∧
          above.length = start := by
        rw [List.length_map] at hlt
        exact ⟨ps.take start, ps[start], ps.drop (start + 1), by simp, by simp; omega⟩
      simp only [Option.map_some, Option.bind_some, findIdx?_block, Option.map_map]
      congr 1
      funext offset
      exact (linesBefore_append_cons above below p offset).symm

end Document

/-! ## Changes of pieces -/

namespace Change

variable {c : Change} {ps : List Piece}

/-- The place of the piece that a change finds. -/
def place? (c : Change) (ps : List Piece) : Option Nat :=
  Document.findKey (ps.map Piece.first) (Text.trim c.parent) c.word

/-- The piece that a change makes of another one. -/
def piece (c : Change) (p : Piece) : Piece := ⟨(c.line p.raw).raw, none⟩

/-- The pieces after a change. -/
def put (c : Change) (ps : List Piece) : List Piece :=
  match c.place? ps with
  | some i => ps.modify i c.piece
  | none => ps

/-- What is found at a place holds the key, and is the one piece that is changed. -/
theorem exists_of_place? {i : Nat} (h : c.place? ps = some i) :
    ∃ above p below, ps = above ++ p :: below ∧ above.length = i ∧
      Document.holdsKey c.word p.first = true ∧ c.put ps = above ++ c.piece p :: below := by
  obtain ⟨before, e, after, hmap, hlength, hheld⟩ := Document.exists_of_findKey h
  obtain ⟨above, rest, rfl, rfl, hrest⟩ := List.map_eq_append_iff.mp hmap
  obtain ⟨p, below, rfl, rfl, -⟩ := List.map_eq_cons_iff.mp hrest
  obtain rfl : above.length = i := by simpa using hlength
  exact ⟨above, p, below, rfl, rfl, hheld, by simp [put, h, List.modify_eq_take_drop]⟩

/-- A change that finds no piece leaves all of them. -/
theorem put_of_none (h : c.place? ps = none) : c.put ps = ps := by
  rw [put, h]

/-- A document is changed piece by piece, if the line that is written is read as what it is meant
for. -/
theorem change_flatMap_entries
    (h : ∀ p ∈ ps, Document.holdsKey c.word p.first = true → (c.piece p).first = c.line p.raw) :
    Document.change (ps.flatMap Piece.entries) c = (c.put ps).flatMap Piece.entries := by
  have hkey := Document.findKey_flatMap_entries ps (Text.trim c.parent) c.word
  rw [← place?] at hkey
  cases hplace : c.place? ps with
  | none =>
    rw [hplace] at hkey
    simp only [Change.word, Option.map_none] at hkey
    simp [put_of_none hplace, Document.change, Document.setValue?, hkey]
  | some i =>
    rw [hplace, Option.map_some] at hkey
    obtain ⟨above, p, below, rfl, rfl, hheld, hput⟩ := exists_of_place? hplace
    have hd : (above ++ p :: below).flatMap Piece.entries = above.flatMap Piece.entries ++
        p.first :: (p.joined.toList.map (Entry.mk · .continuation) ++
          below.flatMap Piece.entries) := by
      rw [List.flatMap_append]
      rfl
    have hlength : Document.linesBefore (above ++ p :: below) above.length =
        (above.flatMap Piece.entries).length := by
      rw [Document.linesBefore, List.take_left]
    have hbelow : (p.joined.toList.map (Entry.mk · .continuation) ++
        below.flatMap Piece.entries).dropWhile (·.kind = .continuation) =
          below.flatMap Piece.entries := by
      rw [List.dropWhile_append_of_pos (by simp)]
      cases below with
      | nil => rfl
      | cons q below => simp [Piece.entries, lineKind_ne_continuation]
    rw [hlength] at hkey
    have hentries : (c.piece p).entries = [c.line p.raw] := by
      rw [← h p (by simp) hheld]
      rfl
    rw [Document.change, Document.setValue?_of_findKey hd hkey, hbelow, Option.getD_some, hput,
      List.flatMap_append, List.flatMap_cons, hentries]
    rfl

end Change

/-! ## What is found by -/

namespace Document

/-- All that a search for a key sees of a line. -/
def sight (parent key : Text) (e : Entry) : Bool × Bool × Bool :=
  (isHeaderOf parent e, isHeader e, holdsKey key e)

/-- A search finds the same line where it sees the same. -/
theorem findKey_congr {d d' : Document} {parent key : Text}
    (h : d.map (sight parent key) = d'.map (sight parent key)) :
    findKey d parent key = findKey d' parent key := by
  have hkeys : ∀ d : Document, d.findIdx? (holdsKey key) =
      (d.map (sight parent key)).findIdx? (·.2.2) := by
    intro d
    rw [List.findIdx?_map]
    rfl
  have hheader : ∀ d : Document, d.findIdx? (isHeaderOf parent) =
      (d.map (sight parent key)).findIdx? (·.1) := by
    intro d
    rw [List.findIdx?_map]
    rfl
  have hblock : ∀ (d : Document) (start : Nat),
      ((d.drop start).takeWhile (!isHeader ·)).findIdx? (holdsKey key) =
        (((d.map (sight parent key)).drop start).takeWhile (!·.2.1)).findIdx? (·.2.2) := by
    intro d start
    rw [← List.map_drop, List.takeWhile_map, List.findIdx?_map]
    rfl
  unfold findKey
  rw [hkeys d, hkeys d', hheader d, hheader d', h]
  simp only [hblock, h]

/-- The nearest header above a line. -/
def headerAbove? (d : Document) (pos : Nat) : Option Entry := (d.take pos).reverse.find? isHeader

/-- The nearest header above a line that is found in a section is that of the section. -/
theorem headerAbove?_of_findKey {d : Document} {parent key : Text} {pos : Nat} {s : Section}
    (hparent : Text.lowerAscii parent = s.name) (h : findKey d parent key = some pos) :
    ∃ e, headerAbove? d pos = some e ∧ e.kind = .header s := by
  have hne : parent.isEmpty = false := by
    cases parent with
    | nil => exact absurd hparent.symm s.name_ne_nil
    | cons c rest => rfl
  rw [findKey, hne, if_neg Bool.false_ne_true] at h
  obtain ⟨start, hstart, hblock⟩ := Option.bind_eq_some_iff.mp h
  obtain ⟨offset, hoffset, rfl⟩ := Option.map_eq_some_iff.mp hblock
  obtain ⟨hlt, hheader, -⟩ := List.findIdx?_eq_some_iff_getElem.mp hstart
  obtain ⟨hwithin, -, -⟩ := List.findIdx?_eq_some_iff_getElem.mp hoffset
  have hkind := (isHeaderOf_iff hparent).mp hheader
  have hbetween : ∀ e ∈ (d.drop (start + 1)).take offset, isHeader e = false := by
    intro e he
    obtain ⟨rest, hrest⟩ := List.takeWhile_prefix (!isHeader ·) (l := d.drop (start + 1))
    rw [← hrest, List.take_append_of_le_length hwithin.le] at he
    simpa using List.mem_takeWhile_imp (List.mem_of_mem_take he)
  have hnone : ((d.drop (start + 1)).take offset).reverse.find? isHeader = none := by
    simpa using hbetween
  have hfound : isHeader d[start] = true := by
    rw [isHeader, hkind]
  refine ⟨d[start], ?_, hkind⟩
  rw [headerAbove?, List.take_add, List.take_add_one, List.getElem?_eq_getElem hlt,
    List.reverse_append, List.find?_append, hnone, List.reverse_append]
  simp [hfound]

end Document

/-! ## Names on a line -/

/-- A line holds the keys of settings with one name only. -/
theorem Setting.name_eq_of_holdsKey {x y : Setting} {e : Entry}
    (hx : Document.holdsKey x.name e = true) (hy : Document.holdsKey y.name e = true) :
    x.name = y.name := by
  obtain ⟨raw, kind⟩ := e
  cases kind with
  | keyValue k =>
    rcases List.prefix_or_prefix_of_prefix (List.isPrefixOf_iff_prefix.mp hx)
      (List.isPrefixOf_iff_prefix.mp hy) with h | h
    · exact name_eq_of_begins h
    · exact (name_eq_of_begins h).symm
  | _ => cases hx

/-- No setting is called like a section. -/
theorem Setting.ofName?_name (x : Setting) : Section.ofName? x.name = none := by
  have key : ∀ x ∈ all, Section.ofName? x.name = none := by decide +kernel
  exact key x x.mem_all

/-- A directive has its name to itself. -/
theorem Setting.eq_directive_of_name_eq {x : Setting} {d : Directive}
    (h : x.name = (Setting.directive d).name) : x = .directive d := by
  have key : ∀ x ∈ all, x.name = (Setting.directive d).name → x = .directive d := by
    cases d <;> decide
  exact key x x.mem_all h

namespace Assignment

variable {a b : Assignment} {ps : List Piece}

/-- The word of an assignment is the name of its setting. -/
theorem word_eq (a : Assignment) : a.word = a.setting.name := a.addressed.1

/-- The word of an assignment is a word. -/
theorem isWord_word (a : Assignment) : IsWord a.word := a.word_eq ▸ a.setting.keyWord.isWord

/-- The line that an assignment writes is read as one with its key. -/
theorem lineKind_line (a : Assignment) (raw : Text) :
    lineKind (a.line raw).raw = .keyValue a.word := by
  have hsign : a.word.head? ≠ some '#' := by
    intro hfirst
    rw [a.word_eq] at hfirst
    exact (a.setting.name_chars (List.mem_of_mem_head? hfirst)).2.2.2.1 rfl
  apply (Document.lineKind_editLine_iff a.isWord_word hsign (Text.lower_lower _)).mpr
  intro _
  rw [a.word_eq]
  exact a.setting.ofName?_name

/-- The first line of the piece that an assignment makes is the line that it writes. -/
theorem first_piece (a : Assignment) (p : Piece) : (a.piece p).first = a.line p.raw := by
  rw [Change.piece, Piece.first, lineKind_line]
  rfl

/-- An assignment writes a line that is seen like the one it is written over. -/
theorem sight_line (a b : Assignment) {e : Entry} (h : Document.holdsKey a.word e = true)
    (parent : Text) :
    Document.sight parent b.word (a.line e.raw) = Document.sight parent b.word e := by
  obtain ⟨raw, kind⟩ := e
  cases kind with
  | keyValue k =>
    have hbegins : a.word <+: k := List.isPrefixOf_iff_prefix.mp h
    have hholds : b.word.isPrefixOf a.word = b.word.isPrefixOf k := by
      rw [Bool.eq_iff_iff, List.isPrefixOf_iff_prefix, List.isPrefixOf_iff_prefix]
      refine ⟨fun hb => hb.trans hbegins, fun hb => ?_⟩
      rw [a.word_eq] at h ⊢
      rw [b.word_eq] at hb ⊢
      have hheld : Document.holdsKey b.setting.name ⟨raw, .keyValue k⟩ = true :=
        List.isPrefixOf_iff_prefix.mpr hb
      exact Setting.name_eq_of_holdsKey hheld h ▸ List.prefix_rfl
    exact congrArg (fun held => (false, false, held)) hholds
  | _ => cases h

/-- No assignment moves the place of another one. -/
theorem place?_put (a b : Assignment) (ps : List Piece) : b.place? (a.put ps) = b.place? ps := by
  cases hplace : a.place? ps with
  | none => rw [Change.put_of_none hplace]
  | some i =>
    obtain ⟨above, p, below, rfl, -, hheld, hput⟩ := Change.exists_of_place? hplace
    have hsight : Document.sight (Text.trim b.parent) b.word (a.piece p).first =
        Document.sight (Text.trim b.parent) b.word p.first := by
      rw [first_piece]
      exact sight_line a b hheld (Text.trim b.parent)
    apply Document.findKey_congr
    simp [hput, hsight]

/-- Two assignments with one place write keys of one name. -/
theorem name_eq_of_place? {i : Nat} (ha : a.place? ps = some i) (hb : b.place? ps = some i) :
    a.setting.name = b.setting.name := by
  obtain ⟨above, p, below, rfl, rfl, hheldA, -⟩ := Change.exists_of_place? ha
  obtain ⟨above', p', below', heq, hlength, hheldB, -⟩ := Change.exists_of_place? hb
  obtain ⟨rfl, htail⟩ := List.append_inj heq hlength.symm
  obtain rfl := (List.cons.inj htail).1
  rw [a.word_eq] at hheldA
  rw [b.word_eq] at hheldB
  exact Setting.name_eq_of_holdsKey hheldA hheldB

/-- Two assignments with one place are of one setting. -/
theorem setting_eq_of_place? {i : Nat} (ha : a.place? ps = some i) (hb : b.place? ps = some i) :
    a.setting = b.setting := by
  have hname := name_eq_of_place? ha hb
  have haddressA := a.addressed.2
  have haddressB := b.addressed.2
  cases hx : a.setting with
  | directive d =>
    rw [hx] at hname
    exact (Setting.eq_directive_of_name_eq hname.symm).symm
  | key k =>
    cases hy : b.setting with
    -- A directive has its name to itself; keys of one name are told apart by the header above them.
    | directive d =>
      rw [hx, hy] at hname
      exact Setting.eq_directive_of_name_eq hname
    | key k' =>
      rw [hx, hy] at hname
      rw [hx] at haddressA
      rw [hy] at haddressB
      obtain ⟨s, hk, hs⟩ := haddressA
      obtain ⟨s', hk', hs'⟩ := haddressB
      obtain ⟨e, hheader, hkind⟩ :=
        Document.headerAbove?_of_findKey (Section.ofBareLine?_eq_some_iff.mp hs) ha
      obtain ⟨e', hheader', hkind'⟩ :=
        Document.headerAbove?_of_findKey (Section.ofBareLine?_eq_some_iff.mp hs') hb
      obtain rfl := Option.some.inj (hheader.symm.trans hheader')
      obtain rfl := LineKind.header.inj (hkind.symm.trans hkind')
      exact congrArg Setting.key (Section.eq_of_key_name_eq hk hk' hname)

/-- Assignments to two settings find two pieces. -/
theorem place?_ne (hne : a.setting ≠ b.setting) {i j : Nat} (ha : a.place? ps = some i)
    (hb : b.place? ps = some j) : i ≠ j := by
  rintro rfl
  exact hne (setting_eq_of_place? ha hb)

/-- Assignments of different settings may be made in either order. -/
theorem put_comm (hne : a.setting ≠ b.setting) (ps : List Piece) :
    b.put (a.put ps) = a.put (b.put ps) := by
  have hb := place?_put a b ps
  have ha := place?_put b a ps
  unfold Change.put at ha hb ⊢
  rw [hb, ha]
  cases hplaceA : a.place? ps with
  | none => rfl
  | some i =>
    cases hplaceB : b.place? ps with
    | none => rfl
    | some j => exact List.modify_modify_ne _ _ ps (place?_ne hne hplaceA hplaceB)

/-- An assignment that is made again makes the same piece. -/
theorem piece_piece (a : Assignment) (p : Piece) : a.piece (a.piece p) = a.piece p := by
  rw [Change.piece, Change.piece, Change.line, Change.line]
  simp only [a.isWord_word.editLine_editLine (Text.isTrimmed_trim a.value)]

/-- An assignment that is made again changes nothing more. -/
theorem put_put (a : Assignment) (ps : List Piece) : a.put (a.put ps) = a.put ps := by
  have hsame := place?_put a a ps
  unfold Change.put at hsame ⊢
  rw [hsame]
  cases hplace : a.place? ps with
  | none => rfl
  | some i =>
    have htwice : a.piece ∘ a.piece = a.piece := funext a.piece_piece
    simp only [List.modify_modify_eq, htwice]

/-! ## Texts -/

/-- An assignment fits whatever line it finds. -/
theorem accepts (a : Assignment) (d : Document) : d.Accepts a.toChange := by
  have hword := a.setting.keyWord
  intro pos _
  refine ⟨?_, ?_, ?_, ?_⟩
  · rw [a.word_eq]
    exact hword.ne_nil
  · obtain ⟨pre, post, -, -, heq, -⟩ := Text.exists_eq_trim a.value
    intro hmem
    apply a.writable.newline
    rw [heq]
    simp [hmem]
  · intro _
    rw [a.word_eq]
    exact a.setting.ofName?_name
  · intro hlast
    exfalso
    cases hvalue : Text.trim a.value with
    | nil =>
      rw [hvalue, List.append_nil, a.word_eq] at hlast
      exact hword.last hlast
    | cons c rest =>
      rw [List.getLast?_append_of_ne_nil _ (by simp [hvalue])] at hlast
      exact a.writable.last hlast

/-- The text after an assignment is read as the document after it. -/
theorem ofText_changeText (a : Assignment) (t : Text) :
    Document.ofText (changeText t a.toChange) = (Document.ofText t).change a.toChange := by
  have hstep := Document.inStep_ofText t
  have hrender := Document.render_change hstep a.toChange
  rw [Document.render_ofText] at hrender
  rw [← hrender]
  exact (Document.inStep_change_iff hstep a.toChange).mpr (a.accepts _)

/-- The text after an assignment has the pieces after it. -/
theorem ofText_changeText_of_pieces (a : Assignment) {t : Text}
    (h : Document.ofText t = ps.flatMap Piece.entries) :
    Document.ofText (changeText t a.toChange) = (a.put ps).flatMap Piece.entries := by
  rw [a.ofText_changeText, h]
  exact Change.change_flatMap_entries fun p _ _ => a.first_piece p

/-- Whether an update finds its line is seen from the pieces. -/
theorem updateText_fst {t : Text} (h : Document.ofText t = ps.flatMap Piece.entries)
    (c : Change) : (updateText t c.parent c.key c.value).1 = (c.place? ps).isSome := by
  have hkey := Document.findKey_flatMap_entries ps (Text.trim c.parent) c.word
  rw [← Change.place?, ← h, Change.word] at hkey
  unfold updateText
  cases hplace : c.place? ps with
  | none => simp [Document.setValue?, hkey, hplace]
  | some i => simp [Document.setValue?, hkey, hplace]

/-- An update that is made again answers the same and leaves the text as it is. -/
theorem updateText_again (a : Assignment) (t : Text) :
    updateText (changeText t a.toChange) a.parent a.key a.value =
      ((updateText t a.parent a.key a.value).1, changeText t a.toChange) := by
  obtain ⟨ps, hps⟩ := Document.exists_entries (t.splitOn '\n')
  have hps' := a.ofText_changeText_of_pieces hps
  have htwice := a.ofText_changeText_of_pieces hps'
  rw [put_put, ← hps'] at htwice
  refine Prod.ext ?_ ?_
  · rw [updateText_fst hps', updateText_fst hps, place?_put]
  · exact Document.ofText_injective htwice

end Assignment

end SiteGate.Config
