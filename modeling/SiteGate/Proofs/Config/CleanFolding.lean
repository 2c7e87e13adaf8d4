import SiteGate.Proofs.Config.Document

/-!
# Files that fold alike for the reader and for the document

The reader joins lines before it looks at them, and the document looks at them first: it takes no
comment to be continued, and judges a line that is continued by what stands before the backslash.
In a file that folds cleanly this makes no difference. No comment swallows the line below it, no
header is put together from two lines, and no key is split between two lines.

Then the document is, piece by piece, the first line as what it is on its own and the second one as
its continuation (`ofLines_eq_flatMap_entries`). What the document takes for a header is one, and
what it takes for a key is one; the converse needs that the line does not begin with the backslash.
-/

set_option autoImplicit false

namespace SiteGate.Config

namespace Piece

/-- A line that another one is joined to is no comment, makes no header with it, and keeps its key
unless nothing but the backslash stands on it. -/
def FoldsCleanly (p : Piece) : Prop :=
  p.joined.isSome = true → p.head.head? ≠ some '#' ∧ Section.ofBareLine? p.line = none ∧
    (p.head ≠ [] → (splitKeyValue p.line).1 = (splitKeyValue p.head).1)

/-- Whether a piece folds cleanly can be decided. -/
instance (p : Piece) : Decidable p.FoldsCleanly := inferInstanceAs (Decidable (_ → _))

/-- The lines of a piece in a document whose lines fold cleanly. -/
def entries (p : Piece) : Document :=
  ⟨p.raw, lineKind p.raw⟩ :: p.joined.toList.map (⟨·, .continuation⟩)

end Piece

/-! ## Lines that end in a backslash -/

/-- A line that ends in a backslash is no header. -/
theorem ofBareLine?_of_endsOpen {raw : Text} (h : endsOpen raw = true) :
    Section.ofBareLine? (trimLine raw) = none := by
  have hlast : (trimLine raw).getLast? = some '\\' := by simpa [endsOpen] using h
  refine Section.ofBareLine?_of_mem (List.mem_of_mem_getLast? hlast) (by decide) (by decide) ?_
  intro s
  cases s <;> decide

/-- What a line that ends in a backslash gives to the logical line is all but the backslash. -/
theorem Piece.head_append_of_endsOpen {p : Piece} (h : endsOpen p.raw = true) :
    trimLine p.raw = p.head ++ ['\\'] := by
  have hlast : (trimLine p.raw).getLast? = some '\\' := by simpa [endsOpen] using h
  obtain ⟨kept, hkept⟩ := List.getLast?_eq_some_iff.mp hlast
  rw [Piece.head, if_pos h, hkept, List.dropLast_concat]

/-- A line that ends in no backslash is all that it gives to the logical line. -/
theorem Piece.head_of_not_endsOpen {p : Piece} (h : endsOpen p.raw = false) :
    p.head = trimLine p.raw := by
  simp [Piece.head, h]

/-- What a line gives to the logical line does not begin with a blank. -/
theorem Piece.head_not_blank (p : Piece) : ∀ c ∈ p.head.head?, Text.isBlank c = false := by
  intro c hc
  apply (isTrimmed_trimLine p.raw).head c
  cases hopen : endsOpen p.raw with
  | true =>
    rw [p.head_append_of_endsOpen hopen, List.head?_append, show p.head.head? = some c from hc]
    rfl
  | false =>
    rw [← p.head_of_not_endsOpen hopen]
    exact hc

/-- The document takes a line to be continued just if it ends in a backslash and is no comment. -/
theorem isContinued_lineKind {raw : Text}
    (h : endsOpen raw = true → (trimLine raw).head? ≠ some '#') :
    isContinued raw (lineKind raw) = endsOpen raw := by
  cases hopen : endsOpen raw with
  | true =>
    have hbare := ofBareLine?_of_endsOpen hopen
    have hsign := h hopen
    have hlast : (trimLine raw).getLast? = some '\\' := by simpa [endsOpen] using hopen
    unfold lineKind
    cases hline : trimLine raw with
    | nil => simp [hline] at hlast
    | cons c rest =>
      rw [hline] at hbare hsign
      have hne : c ≠ '#' := by simpa using hsign
      simp only [hne, hbare, if_false, isContinued]
      simpa [endsOpen] using hopen
  | false =>
    cases lineKind raw <;> simp only [isContinued]
    simpa [endsOpen] using hopen

/-- In a document a line is a header of a section just if it is one on its own. -/
theorem lineKind_eq_header_iff {raw : Text} {s : Section} :
    lineKind raw = .header s ↔ Section.ofBareLine? (trimLine raw) = some s := by
  have hskip : Section.ofBareLine? (trimLine raw) = some s → isSkippable (trimLine raw) = false :=
    isSkippable_of_ofBareLine?
  unfold lineKind
  cases hline : trimLine raw with
  | nil =>
    rw [hline] at hskip
    have hnot : Section.ofBareLine? [] ≠ some s := by
      intro h
      cases hskip h
    simp [hnot]
  | cons c rest =>
    have hblank := (isTrimmed_trimLine raw).head c (by simp [hline])
    rw [hline] at hskip
    have hhead : isSkippable (c :: rest) = decide (c = '#') := isSkippable_of_head rfl hblank
    by_cases hsign : c = '#'
    · have hnot : Section.ofBareLine? (c :: rest) ≠ some s := by
        intro h
        have hfalse := hskip h
        rw [hhead] at hfalse
        simp [hsign] at hfalse
      simp only [hsign, if_true]
      simpa [hsign] using hnot
    · simp only [hsign, if_false]
      cases Section.ofBareLine? (c :: rest) <;> simp

/-! ## The document piece by piece -/

namespace Document

/-- In a file that folds cleanly the document joins the same lines as the reader. -/
theorem ofLines_eq_flatMap_entries {lines : List Text}
    (h : ∀ p ∈ pieces lines, p.FoldsCleanly) :
    ofLines false lines = (pieces lines).flatMap Piece.entries := by
  fun_induction pieces lines with
  | case1 => rfl
  | case2 raw => simp [ofLines, Piece.entries]
  | case3 raw next rest hopen ih =>
    have hraw : trimLine raw = (Piece.mk raw (some next)).head ++ ['\\'] :=
      Piece.head_append_of_endsOpen (p := ⟨raw, some next⟩) hopen
    obtain ⟨hsign, -, -⟩ := h ⟨raw, some next⟩ (by simp) rfl
    have hcomment : (trimLine raw).head? ≠ some '#' := by
      rw [hraw]
      cases hhead : (Piece.mk raw (some next)).head with
      | nil => decide
      | cons c head => simpa [hhead] using hsign
    have hcontinued : isContinued raw (lineKind raw) = true := by
      rw [isContinued_lineKind fun _ => hcomment, hopen]
    have hrest := ih fun p hp => h p (by simp [hp])
    simp [ofLines, hcontinued, Piece.entries, hrest]
  | case4 raw next rest hopen ih =>
    have hcontinued : isContinued raw (lineKind raw) = false := by
      rw [isContinued_lineKind fun htrue => absurd htrue hopen]
      simpa using hopen
    have hrest := ih fun p hp => h p (by simp [hp])
    have hline : ofLines false (raw :: next :: rest) =
        ⟨raw, lineKind raw⟩ :: ofLines (isContinued raw (lineKind raw)) (next :: rest) := rfl
    rw [hline, hcontinued, hrest]
    simp [Piece.entries]

/-- Of a piece, the document takes at most the first line for a header, and then the reader does. -/
theorem ofBareLine?_of_mem_entries {p : Piece} {e : Entry} {s : Section} (he : e ∈ p.entries)
    (hkind : e.kind = .header s) (hp : p.joined.isSome = true → endsOpen p.raw = true) :
    Section.ofBareLine? p.line = some s := by
  rcases List.mem_cons.mp he with rfl | he
  · have hbare := lineKind_eq_header_iff.mp hkind
    have hopen : endsOpen p.raw = false := by
      by_contra hopen
      rw [ofBareLine?_of_endsOpen (by simpa using hopen)] at hbare
      cases hbare
    have hjoined : p.joined = none := by
      cases hjoined : p.joined with
      | none => rfl
      | some next =>
        rw [hp (by simp [hjoined])] at hopen
        cases hopen
    simpa [Piece.line, hjoined, p.head_of_not_endsOpen hopen] using hbare
  · obtain ⟨next, -, rfl⟩ := List.mem_map.mp he
    cases hkind

/-- The first line of a piece holds a setting in the document just if what it gives to the logical
line does for the reader. -/
theorem holdsKey_first_iff {x : Setting} {p : Piece} :
    holdsKey x.name ⟨p.raw, lineKind p.raw⟩ = true ↔ x.HeldBy p.head := by
  rw [holdsKey_iff rfl]
  cases hopen : endsOpen p.raw with
  | true =>
    rw [p.head_append_of_endsOpen hopen]
    exact Setting.heldBy_append_iff (by simp)
  | false => rw [p.head_of_not_endsOpen hopen]

end Document

/-- The logical line of a piece holds a setting just if its first line does, unless nothing but a
backslash stands there. -/
theorem Piece.heldBy_head_iff {p : Piece} (h : p.FoldsCleanly) (hne : p.head ≠ []) {x : Setting} :
    x.HeldBy p.head ↔ x.HeldBy p.line := by
  cases hjoined : p.joined with
  | none => simp [Piece.line, hjoined]
  | some next =>
    have hkey := (h (by simp [hjoined])).2.2 hne
    have hline : p.line ≠ [] := by simp [Piece.line, hne]
    have hhead : ∀ c ∈ p.line.head?, Text.isBlank c = false := by
      intro c hc
      apply p.head_not_blank c
      rw [Piece.line] at hc
      cases hp : p.head with
      | nil => exact absurd hp hne
      | cons d rest => simpa [hp] using hc
    rw [splitKeyValue_fst hhead hline, splitKeyValue_fst p.head_not_blank hne] at hkey
    rw [← Setting.heldBy_word_iff, ← hkey, Setting.heldBy_word_iff]

/-- The document finds no setting on a piece whose logical line holds none. -/
theorem Piece.heldBy_of_holdsKey {p : Piece} (h : p.FoldsCleanly) {x : Setting} {e : Entry}
    (he : e ∈ p.entries) (hheld : Document.holdsKey x.name e = true) : x.HeldBy p.line := by
  rcases List.mem_cons.mp he with rfl | he
  · have hhead := Document.holdsKey_first_iff.mp hheld
    have hne : p.head ≠ [] := by
      intro hnil
      rw [hnil] at hhead
      exact x.name_ne_nil (List.prefix_nil.mp hhead)
    exact (Piece.heldBy_head_iff h hne).mp hhead
  · obtain ⟨next, -, rfl⟩ := List.mem_map.mp he
    cases hheld

/-- Only a line that ends in a backslash has another one joined to it. -/
theorem endsOpen_of_joined {lines : List Text} {p : Piece} (hp : p ∈ pieces lines)
    (hjoined : p.joined.isSome = true) : endsOpen p.raw = true := by
  fun_induction pieces lines with
  | case1 => cases hp
  | case2 raw =>
    obtain rfl := List.mem_singleton.mp hp
    cases hjoined
  | case3 raw next rest hopen ih =>
    rcases List.mem_cons.mp hp with rfl | hp
    · exact hopen
    · exact ih hp
  | case4 raw next rest hopen ih =>
    rcases List.mem_cons.mp hp with rfl | hp
    · cases hjoined
    · exact ih hp

end SiteGate.Config
