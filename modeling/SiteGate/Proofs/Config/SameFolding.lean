import SiteGate.Proofs.Config.CleanFolding

/-!
# Where the document folds like the reader

Two readers join physical lines. The reader of logical lines joins the next line to every line that
ends in a backslash. The document looks first at what a line is, and takes only keys with their
values to be continued. Blank lines and headers do not end in a backslash, so the two differ at
comments: a comment that ends in a backslash swallows the line below it for the reader, and not for
the document.

That is the only difference. The document marks the same lines as continuations as the reader joins
to the lines before them just if no comment has a line joined to it (`marks_ofLines_eq_iff`), and
then its other lines are the beginnings of the logical lines, one for each and in order
(`map_raw_beginnings`).
-/

set_option autoImplicit false

namespace SiteGate.Config

/-- Which lines of a piece are joined to the line before them. -/
def Piece.marks (p : Piece) : List Bool := false :: p.joined.toList.map fun _ => true

namespace Document

/-- Which lines of a document continue the line before them. -/
def marks (d : Document) : List Bool := d.map fun e => decide (e.kind = .continuation)

/-- The lines of a document that continue no other line. -/
def beginnings (d : Document) : Document := d.filter (·.kind ≠ .continuation)

end Document

/-- The document of a text takes a physical line for a continuation just if the reader joins it to
the line before it. -/
def FoldsAlike (t : Text) : Prop := (Document.ofText t).marks = (piecesOf t).flatMap Piece.marks

/-- Whether a text folds alike can be decided. -/
instance (t : Text) : Decidable (FoldsAlike t) := inferInstanceAs (Decidable (_ = _))

/-! ## Which lines are continued -/

/-- A line is a comment if it begins with the number sign. -/
theorem lineKind_eq_comment_iff {raw : Text} :
    lineKind raw = .comment ↔ (trimLine raw).head? = some '#' := by
  unfold lineKind
  cases trimLine raw with
  | nil => simp
  | cons c rest =>
    by_cases hsign : c = '#'
    · simp [hsign]
    · simp only [hsign, if_false]
      cases Section.ofBareLine? (c :: rest) <;> simp [hsign]

/-- The document takes a line to be continued just if it ends in a backslash and is no comment. -/
theorem isContinued_lineKind_iff {raw : Text} :
    isContinued raw (lineKind raw) = true ↔ endsOpen raw = true ∧ lineKind raw ≠ .comment := by
  by_cases hcomment : lineKind raw = .comment
  · simp [hcomment, isContinued]
  · have hsign : (trimLine raw).head? ≠ some '#' := mt lineKind_eq_comment_iff.mpr hcomment
    rw [isContinued_lineKind fun _ => hsign]
    simp [hcomment]

/-! ## Continuations -/

namespace Document

/-- The marks of a line that stands first, and of those that follow it. -/
theorem marks_ofLines_cons (raw : Text) (rest : List Text) :
    (ofLines false (raw :: rest)).marks =
      false :: (ofLines (isContinued raw (lineKind raw)) rest).marks := by
  have hkind : decide (lineKind raw = .continuation) = false :=
    decide_eq_false (lineKind_ne_continuation raw)
  simp [ofLines, marks, hkind]

/-- A document marks the lines that the reader joins, and no others, just if no comment has a line
joined to it. -/
theorem marks_ofLines_eq_iff (lines : List Text) :
    (ofLines false lines).marks = (pieces lines).flatMap Piece.marks ↔
      ∀ p ∈ pieces lines, p.joined.isSome = true → lineKind p.raw ≠ .comment := by
  -- By the pieces: where the reader joins two lines the document must go on below the second one,
  -- for the marks of the two lines to agree.
  fun_induction pieces lines with
  | case1 => simp [ofLines, marks]
  | case2 raw =>
    have hnil : (ofLines (isContinued raw (lineKind raw)) []).marks = [] := rfl
    rw [marks_ofLines_cons, hnil]
    simp [Piece.marks]
  | case3 raw next rest hopen ih =>
    have hsplit : (∀ p ∈ (⟨raw, some next⟩ : Piece) :: pieces rest,
        p.joined.isSome = true → lineKind p.raw ≠ .comment) ↔
        lineKind raw ≠ .comment ∧
          ∀ p ∈ pieces rest, p.joined.isSome = true → lineKind p.raw ≠ .comment := by
      simp
    rw [marks_ofLines_cons, hsplit, ← ih]
    cases hcontinued : isContinued raw (lineKind raw) with
    | true =>
      have hcomment : lineKind raw ≠ .comment := (isContinued_lineKind_iff.mp hcontinued).2
      simp [ofLines, marks, Piece.marks, hcomment]
    | false =>
      have hcomment : lineKind raw = .comment := by
        by_contra hne
        rw [isContinued_lineKind_iff.mpr ⟨hopen, hne⟩] at hcontinued
        cases hcontinued
      rw [marks_ofLines_cons]
      simp [Piece.marks, hcomment]
  | case4 raw next rest hopen ih =>
    have hcontinued : isContinued raw (lineKind raw) = false := by
      by_contra htrue
      exact hopen (isContinued_lineKind_iff.mp (by simpa using htrue)).1
    rw [marks_ofLines_cons, hcontinued, List.flatMap_cons, show
      (⟨raw, none⟩ : Piece).marks = [false] from rfl, List.singleton_append, List.cons.injEq]
    simpa using ih

/-- If the marks agree, the lines that continue no other line are those that the pieces begin
with. -/
theorem map_raw_beginnings {d : Document} {ps : List Piece}
    (hraws : d.map Entry.raw = ps.flatMap Piece.raws) (hmarks : d.marks = ps.flatMap Piece.marks) :
    d.beginnings.map Entry.raw = ps.map Piece.raw := by
  induction ps generalizing d with
  | nil =>
    have hnil : d = [] := by simpa using hraws
    simp [hnil, beginnings]
  | cons p ps ih =>
    obtain ⟨raw, joined⟩ := p
    cases d with
    | nil => simp [Piece.raws] at hraws
    | cons e d =>
      cases joined with
      | none =>
        simp only [Piece.raws, Piece.marks, marks, List.map_cons, List.flatMap_cons,
          Option.toList_none, List.map_nil, List.cons_append, List.nil_append,
          List.cons.injEq, decide_eq_false_iff_not] at hraws hmarks
        have hrest := ih hraws.2 hmarks.2
        unfold beginnings at hrest ⊢
        simpa [hmarks.1, hraws.1] using hrest
      | some next =>
        cases d with
        | nil => simp [Piece.raws] at hraws
        | cons e' d =>
          simp only [Piece.raws, Piece.marks, marks, List.map_cons, List.flatMap_cons,
            Option.toList_some, List.map_nil, List.cons_append, List.nil_append,
            List.cons.injEq, decide_eq_false_iff_not, decide_eq_true_eq] at hraws hmarks
          have hrest := ih hraws.2.2 hmarks.2.2
          unfold beginnings at hrest ⊢
          simpa [hmarks.1, hmarks.2.1, hraws.1] using hrest

end Document

/-! ## Folding alike -/

/-- A text folds alike for the document and for the reader just if no comment has a line joined to
it. Then the lines of the document that continue no other line are the first lines of the logical
ones, in order, and there are as many of them. -/
theorem foldsAlike_iff (t : Text) :
    (FoldsAlike t ↔ ∀ p ∈ piecesOf t, p.joined.isSome = true → lineKind p.raw ≠ .comment) ∧
      (FoldsAlike t →
        (Document.ofText t).beginnings.map Entry.raw = (piecesOf t).map Piece.raw ∧
          (Document.ofText t).beginnings.length = (logicalLines t).length) := by
  refine ⟨Document.marks_ofLines_eq_iff (t.splitOn '\n'), fun hmarks => ?_⟩
  have hraws : (Document.ofText t).map Entry.raw = (piecesOf t).flatMap Piece.raws := by
    rw [Document.ofText, Document.map_raw_ofLines, piecesOf, flatMap_raws_pieces]
  have hbegin := Document.map_raw_beginnings hraws hmarks
  refine ⟨hbegin, ?_⟩
  have hlength := congrArg List.length hbegin
  rw [← map_line_piecesOf]
  simpa using hlength

/-- A comment that ends in a backslash swallows the line below it for the reader alone. -/
theorem not_foldsAlike :
    ¬ ∀ t : Text, FoldsAlike t ∧
      (Document.ofText t).beginnings.length = (logicalLines t).length := by
  intro h
  obtain ⟨-, hcount⟩ := h "# former names \\\nhostname a".toList
  revert hcount
  decide +kernel

end SiteGate.Config
