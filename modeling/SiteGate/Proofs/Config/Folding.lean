import SiteGate.Config.Line
import SiteGate.Proofs.Text.Trim

/-!
# How physical lines fold

A logical line is one physical line, or two if the first of them ends in a backslash. This module
keeps with each logical line the physical lines that it is made of (`pieces`), so that the file can
be taken apart and put together again (`flatMap_raws_pieces`, `map_line_pieces`).

What stands before a physical line decides whether that line is joined to the one above it. If the
line itself does not end in a backslash, the file folds above it and below it as if each were a
file of its own, apart from the text that is joined before the line (`joinLines_append`).
-/

set_option autoImplicit false

namespace SiteGate.Config

/-- Whether a physical line asks for the next one to be joined to it. -/
def endsOpen (raw : Text) : Bool := (trimLine raw).getLast? = some '\\'

/-- The physical lines of a logical line. -/
structure Piece where
  raw : Text
  joined : Option Text
deriving DecidableEq

namespace Piece

/-- The physical lines, in order. -/
def raws (p : Piece) : List Text := p.raw :: p.joined.toList

/-- What the first physical line gives to the logical one. -/
def head (p : Piece) : Text :=
  if endsOpen p.raw then (trimLine p.raw).dropLast else trimLine p.raw

/-- The logical line. -/
def line (p : Piece) : Text := p.head ++ (p.joined.map trimLine).getD []

/-- A piece has all of its physical lines: the next line is joined just if the first asks for it. -/
def Whole (p : Piece) : Prop := p.joined.isSome = endsOpen p.raw

end Piece

/-- The pieces that physical lines fold into. -/
def pieces : List Text → List Piece
  | [] => []
  | [raw] => [⟨raw, none⟩]
  | raw :: next :: rest =>
    if endsOpen raw then ⟨raw, some next⟩ :: pieces rest else ⟨raw, none⟩ :: pieces (next :: rest)

/-- The pieces of a text. -/
def piecesOf (t : Text) : List Piece := pieces (t.splitOn '\n')

/-- The pieces hold the physical lines in order. -/
theorem flatMap_raws_pieces (lines : List Text) : (pieces lines).flatMap Piece.raws = lines := by
  fun_induction pieces lines with
  | case1 => rfl
  | case2 raw => rfl
  | case3 raw next rest hopen ih => simp [Piece.raws, ih]
  | case4 raw next rest hopen ih => simp [Piece.raws, ih]

/-- The pieces spell the logical lines in order. -/
theorem map_line_pieces (lines : List Text) :
    (pieces lines).map Piece.line = joinLines (lines.map trimLine) := by
  fun_induction pieces lines with
  | case1 => rfl
  | case2 raw => simp [Piece.line, Piece.head, joinLines, endsOpen]
  | case3 raw next rest hopen ih =>
    have hlast : (trimLine raw).getLast? = some '\\' := by simpa [endsOpen] using hopen
    simp [Piece.line, Piece.head, joinLines, hopen, hlast, ih]
  | case4 raw next rest hopen ih =>
    have hlast : ¬ (trimLine raw).getLast? = some '\\' := by simpa [endsOpen] using hopen
    rw [List.map_cons, ih]
    simp [Piece.line, Piece.head, joinLines, hopen, hlast]

/-- The pieces of a text spell its logical lines. -/
theorem map_line_piecesOf (t : Text) : (piecesOf t).map Piece.line = logicalLines t :=
  map_line_pieces _

/-- Below the first piece the lines fold as if it were not there. Only the last piece may lack a
line. -/
theorem pieces_eq_cons {lines : List Text} {p : Piece} {ps : List Piece}
    (h : pieces lines = p :: ps) :
    ∃ rest, lines = p.raws ++ rest ∧ pieces rest = ps ∧ (rest ≠ [] → p.Whole) := by
  cases lines with
  | nil => cases h
  | cons raw lines =>
    cases lines with
    | nil =>
      obtain ⟨rfl, rfl⟩ := List.cons.inj h
      exact ⟨[], rfl, rfl, by simp⟩
    | cons next rest =>
      by_cases hopen : endsOpen raw = true
      · rw [pieces, if_pos hopen] at h
        obtain ⟨rfl, rfl⟩ := List.cons.inj h
        exact ⟨rest, rfl, rfl, fun _ => by simp [Piece.Whole, hopen]⟩
      · rw [pieces, if_neg hopen] at h
        obtain ⟨rfl, rfl⟩ := List.cons.inj h
        exact ⟨next :: rest, rfl, rfl, fun _ => by simp [Piece.Whole, hopen]⟩

/-- Pieces that others follow are whole, and the lines of the others fold into just these. -/
theorem pieces_eq_append {lines : List Text} {ps qs : List Piece} (h : pieces lines = ps ++ qs)
    (hqs : qs ≠ []) :
    (∀ p ∈ ps, p.Whole) ∧ ∃ rest, lines = ps.flatMap Piece.raws ++ rest ∧ pieces rest = qs := by
  induction ps generalizing lines with
  | nil => exact ⟨by simp, lines, rfl, h⟩
  | cons p ps ih =>
    obtain ⟨rest, rfl, hrest, hwhole⟩ := pieces_eq_cons h
    obtain ⟨hps, rest', rfl, hqs'⟩ := ih hrest
    refine ⟨?_, rest', by simp, hqs'⟩
    intro q hq
    rcases List.mem_cons.mp hq with rfl | hq
    · apply hwhole
      intro hnil
      rw [hnil] at hrest
      simp [pieces, hqs] at hrest
    · exact hps q hq

/-! ## Above and below a line -/

/-- The logical lines that are complete before a physical line, and the text that the line before it
joins to it. -/
def cutBefore : List Text → List Text × Text
  | [] => ([], [])
  | [line] => if line.getLast? = some '\\' then ([], line.dropLast) else ([line], [])
  | line :: next :: rest =>
    if line.getLast? = some '\\' then
      ((line.dropLast ++ next) :: (cutBefore rest).1, (cutBefore rest).2)
    else (line :: (cutBefore (next :: rest)).1, (cutBefore (next :: rest)).2)

/-- A line that does not end in a backslash is joined only to what stands before it. -/
theorem joinLines_append (before after : List Text) {line : Text}
    (h : line.getLast? ≠ some '\\') :
    joinLines (before ++ line :: after) =
      (cutBefore before).1 ++ ((cutBefore before).2 ++ line) :: joinLines after := by
  fun_induction cutBefore before with
  | case1 => cases after <;> simp [joinLines, h]
  | case2 last hopen => simp [joinLines, hopen]
  | case3 last hopen => cases after <;> simp [joinLines, hopen, h]
  | case4 first next rest hopen ih => simp [joinLines, hopen, ih]
  | case5 first next rest hopen ih =>
    rw [List.cons_append] at ih
    simp [joinLines, hopen, ih]

/-- Whole pieces leave nothing to be joined to the line below them. -/
theorem cutBefore_of_whole {ps : List Piece} (h : ∀ p ∈ ps, p.Whole) :
    cutBefore ((ps.flatMap Piece.raws).map trimLine) = (ps.map Piece.line, []) := by
  induction ps with
  | nil => rfl
  | cons p ps ih =>
    have hrest := ih fun q hq => h q (by simp [hq])
    have hp : p.Whole := h p (by simp)
    obtain ⟨raw, joined⟩ := p
    rw [List.flatMap_cons, List.map_append, List.map_cons (f := Piece.line)]
    cases joined with
    | some next =>
      have hopen : endsOpen raw = true := by simpa [Piece.Whole] using hp.symm
      have hlast : (trimLine raw).getLast? = some '\\' := by simpa [endsOpen] using hopen
      simp [Piece.raws, Piece.line, Piece.head, cutBefore, hopen, hlast, hrest]
    | none =>
      have hopen : endsOpen raw = false := by simpa [Piece.Whole] using hp.symm
      have hlast : ¬ (trimLine raw).getLast? = some '\\' := by simpa [endsOpen] using hopen
      cases hbelow : (ps.flatMap Piece.raws).map trimLine with
      | nil =>
        rw [hbelow] at hrest
        obtain ⟨hnil, -⟩ := Prod.mk.inj hrest
        simp [Piece.raws, Piece.line, Piece.head, cutBefore, hopen, hlast, ← hnil]
      | cons next rest =>
        rw [hbelow] at hrest
        simp [Piece.raws, Piece.line, Piece.head, cutBefore, hopen, hlast, hrest]

end SiteGate.Config
