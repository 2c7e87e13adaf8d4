import Mathlib.Logic.Relation
import SiteGate.Proofs.Config.Edit
import SiteGate.Proofs.Config.Folding
import SiteGate.Proofs.Config.Loops

/-!
# Changes that a configuration does not notice

A file can be laid out in many ways. Blank lines and comments may be put between its lines, the tabs
and spaces at the ends of a line may be others, and a line may end in a carriage return or not
(`Retouch`). None of this changes what the file says (`ofText_retouched`).

The blanks at the ends of a line are gone before the lines are folded (`trimLine_between`). A line
that is put in must not come to stand where it is joined to the line above it (`takesNext`), and
must not take the line below it. Then the lines above and below fold as before
(`pieces_append`), and the reader passes over the line (`ReadState.read_of_isSkippable`).
-/

set_option autoImplicit false

namespace SiteGate.Config

/-! ## Changes -/

/-- Whether the last of some lines takes the line below it: it ends in a backslash, and has not been
taken itself by the line above. -/
def takesNext (lines : List Text) : Bool :=
  lines.foldl (fun taken line => !taken && endsOpen line) false

/-- A text of tabs and spaces. -/
def IsIndent (t : Text) : Prop := ∀ c ∈ t, c = '\t' ∨ c = ' '

/-- Whether a text is an indent can be decided. -/
instance (t : Text) : Decidable (IsIndent t) :=
  inferInstanceAs (Decidable (∀ c ∈ t, c = '\t' ∨ c = ' '))

/-- A change in the layout of a file's lines. -/
inductive Retouch : List Text → List Text → Prop
  /-- A blank line or a comment, which does not end in a backslash, is put in at a place where it is
  not joined to the line above. -/
  | insert {before after : List Text} {line : Text} (skippable : isSkippable line = true)
      (closed : endsOpen line = false) (free : takesNext before = false) :
      Retouch (before ++ after) (before ++ line :: after)
  /-- The tabs and spaces at both ends of a line, before a carriage return if there is one, are
  replaced by others. -/
  | indent {before after : List Text} {pre pre' core post post' ending : Text}
      (pre_indent : IsIndent pre) (pre'_indent : IsIndent pre') (post_indent : IsIndent post)
      (post'_indent : IsIndent post') (ending_return : ending = [] ∨ ending = ['\r']) :
      Retouch (before ++ (pre ++ core ++ post ++ ending) :: after)
        (before ++ (pre' ++ core ++ post' ++ ending) :: after)
  /-- A carriage return is put before the line feed of a line. -/
  | addReturn {before after : List Text} {line next : Text} :
      Retouch (before ++ line :: next :: after) (before ++ (line ++ ['\r']) :: next :: after)
  /-- The carriage return before the line feed of a line is taken away. -/
  | dropReturn {before after : List Text} {line next : Text} :
      Retouch (before ++ (line ++ ['\r']) :: next :: after) (before ++ line :: next :: after)

/-- A text is made of another one by any number of changes in its layout. -/
def Retouched : Text → Text → Prop :=
  Relation.ReflTransGen fun t t' => Retouch (t.splitOn '\n') (t'.splitOn '\n')

/-! ## The ends of a line -/

/-- An indent is blank. -/
theorem IsIndent.blank {t : Text} (h : IsIndent t) : Text.Blank t := by
  intro c hc
  rcases h c hc with rfl | rfl <;> rfl

/-- Blanks around a line do not count. -/
theorem trimLine_between {pre post : Text} (hpre : Text.Blank pre) (core : Text)
    (hpost : Text.Blank post) : trimLine (pre ++ core ++ post) = trimLine core := by
  obtain ⟨start, stop, hstart, hstop, heq, htrimmed⟩ := Text.exists_eq_trim core
  have hparts : pre ++ core ++ post = pre ++ start ++ Text.trim core ++ (stop ++ post) := by
    calc pre ++ core ++ post = pre ++ (start ++ Text.trim core ++ stop) ++ post := by rw [← heq]
      _ = pre ++ start ++ Text.trim core ++ (stop ++ post) := by simp
  rw [trimLine_eq, trimLine_eq, hparts,
    Text.trim_append (hpre.append hstart) htrimmed (hstop.append hpost)]

/-- A carriage return behind a line is trimmed. -/
theorem trimLine_return (line : Text) : trimLine (line ++ ['\r']) = trimLine line := by
  simpa using trimLine_between Text.Blank.nil line
    (show Text.Blank ['\r'] by simp [Text.Blank, Text.isBlank])

/-- A line is passed over just if it is when it has been trimmed. -/
theorem isSkippable_trimLine (line : Text) : isSkippable (trimLine line) = isSkippable line := by
  unfold isSkippable
  rw [Text.trim_of_isTrimmed (isTrimmed_trimLine line), trimLine_eq]
  cases Text.trim line with
  | nil => rfl
  | cons c rest =>
    have hsign : untab c = '#' ↔ c = '#' := by
      unfold untab
      split
      · next htab => simp [htab]
      · rfl
    simp [hsign]

/-! ## A line that is put in -/

/-- Lines of which the last takes no other fold into whole pieces. -/
theorem whole_of_takesNext {lines : List Text} (h : takesNext lines = false) :
    ∀ p ∈ pieces lines, p.Whole := by
  -- By the pieces: whatever the second line of a piece ends in, it does not take the next one.
  fun_induction pieces lines with
  | case1 => simp
  | case2 raw =>
    have hopen : endsOpen raw = false := by simpa [takesNext] using h
    simp [Piece.Whole, hopen]
  | case3 raw next rest hopen ih =>
    have hrest : takesNext rest = false := by simpa [takesNext, hopen] using h
    simpa [Piece.Whole, hopen] using ih hrest
  | case4 raw next rest hopen ih =>
    have hrest : takesNext (next :: rest) = false := by simpa [takesNext, hopen] using h
    simpa [Piece.Whole, hopen] using ih hrest

/-- Below whole pieces the lines fold as if nothing stood above them. -/
theorem pieces_append {lines : List Text} (h : ∀ p ∈ pieces lines, p.Whole) (below : List Text) :
    pieces (lines ++ below) = pieces lines ++ pieces below := by
  fun_induction pieces lines with
  | case1 => rfl
  | case2 raw =>
    have hopen : endsOpen raw = false := by simpa [Piece.Whole] using h
    cases below with
    | nil => rfl
    | cons next rest => simp [pieces, hopen]
  | case3 raw next rest hopen ih =>
    have hrest := ih fun p hp => h p (by simp [hp])
    simp [pieces, hopen, hrest]
  | case4 raw next rest hopen ih =>
    have hrest := ih fun p hp => h p (by simp [hp])
    rw [List.cons_append] at hrest
    simp [pieces, hopen, hrest]

/-- A line that takes no other is a piece of its own. -/
theorem pieces_cons {line : Text} (h : endsOpen line = false) (below : List Text) :
    pieces (line :: below) = ⟨line, none⟩ :: pieces below := by
  cases below with
  | nil => rfl
  | cons next rest => simp [pieces, h]

/-- A line that takes no other is a logical line. -/
theorem joinLines_cons {line : Text} (h : endsOpen line = false) (below : List Text) :
    joinLines ((line :: below).map trimLine) = trimLine line :: joinLines (below.map trimLine) := by
  rw [← map_line_pieces, pieces_cons h, List.map_cons, map_line_pieces]
  simp [Piece.line, Piece.head, h]

/-- Below lines of which the last takes no other, lines are joined as if nothing stood above. -/
theorem joinLines_append_free {before : List Text} (hfree : takesNext before = false)
    (after : List Text) :
    joinLines ((before ++ after).map trimLine) =
      joinLines (before.map trimLine) ++ joinLines (after.map trimLine) := by
  rw [← map_line_pieces, pieces_append (whole_of_takesNext hfree), List.map_append,
    map_line_pieces, map_line_pieces]

/-- Retouched lines are read alike. -/
theorem Retouch.foldl_read {lines lines' : List Text} (h : Retouch lines lines') (st : ReadState) :
    (joinLines (lines'.map trimLine)).foldl ReadState.read st =
      (joinLines (lines.map trimLine)).foldl ReadState.read st := by
  cases h with
  | insert skippable closed free =>
    rw [joinLines_append_free free, joinLines_append_free free, joinLines_cons closed,
      List.foldl_append, List.foldl_append, List.foldl_cons, ReadState.read_of_isSkippable]
    rw [isSkippable_trimLine, skippable]
  | @indent before after pre pre' core post post' ending hpre hpre' hpost hpost' hending =>
    have hreturn : Text.Blank ending := by
      rcases hending with rfl | rfl <;> simp [Text.Blank, Text.isBlank]
    have hline := trimLine_between hpre.blank core (hpost.blank.append hreturn)
    have hline' := trimLine_between hpre'.blank core (hpost'.blank.append hreturn)
    rw [← List.append_assoc] at hline hline'
    simp only [List.map_append, List.map_cons, hline, hline']
  | addReturn => simp only [List.map_append, List.map_cons, trimLine_return]
  | dropReturn => simp only [List.map_append, List.map_cons, trimLine_return]

/-- A text says the same however often its layout is changed. -/
theorem ofText_retouched {t t' : Text} (h : Retouched t t') :
    Snapshot.ofText t' = Snapshot.ofText t := by
  induction h with
  | refl => rfl
  | tail _ hstep ih =>
    rw [← ih, ofText_eq_foldl_read, ofText_eq_foldl_read, logicalLines, logicalLines,
      hstep.foldl_read]

/-- A file with a line that goes on; the backslash at the end of its second part is text. -/
def plainFile : Text := "Site\nhostname a.\\\nexample\\\nportno 80".toList

/-- The same file with a carriage return, a tab and a comment. -/
def retouchedFile : Text :=
  "Site\r\n\thostname a.\\\nexample\\\n# the port\nportno 80".toList

/-- A comment may stand below a line that ends in a backslash, if that line is joined itself. -/
theorem ofText_retouched_plainFile :
    Retouched plainFile retouchedFile ∧
      Snapshot.ofText retouchedFile = Snapshot.ofText plainFile := by
  have hreturn : Retouched plainFile
      "Site\r\nhostname a.\\\nexample\\\nportno 80".toList := by
    have hstep : Retouch
        ([] ++ "Site".toList :: "hostname a.\\".toList ::
          ["example\\".toList, "portno 80".toList])
        ([] ++ ("Site".toList ++ ['\r']) :: "hostname a.\\".toList ::
          ["example\\".toList, "portno 80".toList]) := .addReturn
    exact .single hstep
  have htab : Retouched "Site\r\nhostname a.\\\nexample\\\nportno 80".toList
      "Site\r\n\thostname a.\\\nexample\\\nportno 80".toList := by
    have hstep : Retouch
        (["Site\r".toList] ++ ([] ++ "hostname a.\\".toList ++ [] ++ []) ::
          ["example\\".toList, "portno 80".toList])
        (["Site\r".toList] ++ (['\t'] ++ "hostname a.\\".toList ++ [] ++ []) ::
          ["example\\".toList, "portno 80".toList]) :=
      .indent (by decide) (by decide) (by decide) (by decide) (.inl rfl)
    exact .single hstep
  have hcomment : Retouched "Site\r\n\thostname a.\\\nexample\\\nportno 80".toList
      retouchedFile := by
    have hstep : Retouch
        (["Site\r".toList, "\thostname a.\\".toList, "example\\".toList] ++
          ["portno 80".toList])
        (["Site\r".toList, "\thostname a.\\".toList, "example\\".toList] ++
          "# the port".toList :: ["portno 80".toList]) :=
      .insert (by decide +kernel) (by decide +kernel) (by decide +kernel)
    exact .single hstep
  have hretouched : Retouched plainFile retouchedFile := (hreturn.trans htab).trans hcomment
  exact ⟨hretouched, ofText_retouched hretouched⟩

end SiteGate.Config
