import SiteGate.Proofs.Config.FoundLine
import SiteGate.Proofs.Config.LastWord

/-!
# Updating a value

An update edits the first line that holds a key in the first block of its section. The reader goes
by the last line that gives the key a value. In a file where both are the same line, changing the
file and reading it is reading it and setting the value (`Editable`).
-/

set_option autoImplicit false

namespace SiteGate.Config

/-! ## Lists with one element of a kind -/

/-- One element of a kind stands alone between the others. -/
theorem exists_eq_append_of_countP {α : Type} {f : α → Bool} {xs : List α}
    (h : xs.countP f = 1) :
    ∃ before x after, xs = before ++ x :: after ∧ (∀ y ∈ before, f y = false) ∧ f x = true ∧
      ∀ y ∈ after, f y = false := by
  induction xs with
  | nil => cases h
  | cons x xs ih =>
    cases hx : f x with
    | true =>
      refine ⟨[], x, xs, rfl, by simp, hx, ?_⟩
      have hnone : xs.countP f = 0 := by
        rw [List.countP_cons_of_pos hx] at h
        omega
      simpa using List.countP_eq_zero.mp hnone
    | false =>
      rw [List.countP_cons_of_neg (by simp [hx])] at h
      obtain ⟨before, y, after, rfl, hbefore, hy, hafter⟩ := ih h
      refine ⟨x :: before, y, after, rfl, ?_, hy, hafter⟩
      intro z hz
      rcases List.mem_cons.mp hz with rfl | hz
      · exact hx
      · exact hbefore z hz

/-- The elements before the first one of a kind, and the rest. -/
theorem span_first {α : Type} {f : α → Bool} {before after : List α} {x : α}
    (hbefore : ∀ y ∈ before, f y = false) (hx : f x = true) :
    (before ++ x :: after).takeWhile (!f ·) = before ∧
      (before ++ x :: after).dropWhile (!f ·) = x :: after := by
  constructor
  · rw [List.takeWhile_append_of_pos fun y hy => by simp [hbefore y hy],
      List.takeWhile_cons_of_neg (by simp [hx]), List.append_nil]
  · rw [List.dropWhile_append_of_pos fun y hy => by simp [hbefore y hy],
      List.dropWhile_cons_of_neg (by simp [hx])]

/-! ## Files that can be edited -/

namespace Section

/-- Whether a logical line is the header of a section. -/
def opens (s : Section) (p : Piece) : Bool := Section.ofBareLine? p.line = some s

/-- Whether a logical line is no header. -/
def isPlain (p : Piece) : Bool := (Section.ofBareLine? p.line).isNone

/-- The logical lines between the first header of a section and the next header. -/
def block (s : Section) (ps : List Piece) : List Piece :=
  ((ps.dropWhile (!s.opens ·)).drop 1).takeWhile isPlain

end Section

/-- Whether a logical line holds a setting. -/
def Setting.holds (x : Setting) (p : Piece) : Bool := x.HeldBy p.line

/-- A file that says one thing about a key of a section: it folds cleanly, the section has one
header and the key one line below it, and what stands between the two belongs to the section. -/
structure SaidOnce (t : Text) (s : Section) (k : Key) : Prop where
  key : k ∈ s.keys
  folds : ∀ p ∈ piecesOf t, p.FoldsCleanly
  header : (piecesOf t).countP s.opens = 1
  once : (s.block (piecesOf t)).countP (Setting.key k).holds = 1
  before : ∀ p ∈ (s.block (piecesOf t)).takeWhile (!(Setting.key k).holds ·),
    s.passes p.line = true

/-- A file in which a key of a section can be edited: what it says once about the key does not stand
behind a line with nothing but a backslash. -/
structure Editable (t : Text) (s : Section) (k : Key) : Prop extends SaidOnce t s k where
  visible : ∀ p ∈ s.block (piecesOf t), (Setting.key k).holds p = true → p.head ≠ []

/-- The parts of a file around the one line that holds a key below the one header of a section. -/
structure Arrangement (s : Section) (x : Setting) (ps above before below : List Piece)
    (header edited : Piece) : Prop where
  eq : ps = above ++ header :: (before ++ edited :: below)
  opens : s.opens header = true
  opens_above : ∀ p ∈ above, s.opens p = false
  opens_below : ∀ p ∈ below, s.opens p = false
  between : ∀ p ∈ before, Section.isPlain p = true ∧ x.holds p = false ∧ s.passes p.line = true
  holds : x.holds edited = true
  holds_below : ∀ p ∈ below.takeWhile Section.isPlain, x.holds p = false

/-- A line that holds a setting is no header. -/
theorem Setting.isPlain_of_holds {x : Setting} {p : Piece} (h : x.holds p = true) :
    Section.isPlain p = true := by
  have hheld : x.HeldBy p.line := by simpa [Setting.holds] using h
  simp [Section.isPlain, Setting.ofBareLine?_of_heldBy hheld]

/-- A file that can be edited has these parts. -/
theorem Editable.exists_arrangement {t : Text} {s : Section} {k : Key} (h : Editable t s k) :
    ∃ above before below header edited,
      Arrangement s (.key k) (piecesOf t) above before below header edited ∧ edited.head ≠ [] := by
  obtain ⟨above, header, rest, heq, habove, hheader, hrest⟩ := exists_eq_append_of_countP h.header
  have hblock : s.block (piecesOf t) = rest.takeWhile Section.isPlain := by
    rw [Section.block, heq, (span_first habove hheader).2]
    rfl
  obtain ⟨before, edited, after, hsplit, hbefore, hedited, hafter⟩ :=
    exists_eq_append_of_countP h.once
  have hpasses := h.before
  rw [hsplit, (span_first hbefore hedited).1] at hpasses
  have hplain : ∀ p ∈ before ++ edited :: after, Section.isPlain p = true := by
    rw [← hsplit, hblock]
    exact fun p hp => List.mem_takeWhile_imp hp
  have hrest' : rest = before ++ edited :: (after ++ rest.dropWhile Section.isPlain) := by
    have happend := List.takeWhile_append_dropWhile (p := Section.isPlain) (l := rest)
    rw [← hblock, hsplit] at happend
    simpa using happend.symm
  refine ⟨above, before, after ++ rest.dropWhile Section.isPlain, header, edited, ?_,
    h.visible edited (by simp [hsplit]) hedited⟩
  refine ⟨by rw [heq, ← hrest'], hheader, habove, ?_, ?_, hedited, ?_⟩
  · intro p hp
    apply hrest p
    rw [hrest']
    simp [hp]
  · exact fun p hp => ⟨hplain p (by simp [hp]), hbefore p hp, hpasses p hp⟩
  · intro p hp
    rw [List.takeWhile_append_of_pos fun q hq => hplain q (by simp [hq])] at hp
    rcases List.mem_append.mp hp with hp | hp
    · exact hafter p hp
    · have hnil : (rest.dropWhile Section.isPlain).takeWhile Section.isPlain = [] := by
        cases hd : rest.dropWhile Section.isPlain with
        | nil => rfl
        | cons q qs =>
          have hq := List.head?_dropWhile_not Section.isPlain rest
          rw [hd] at hq
          exact List.takeWhile_cons_of_neg (by simpa using hq)
      rw [hnil] at hp
      cases hp

/-! ## The line that the document edits -/

namespace Arrangement

variable {t : Text} {s : Section} {x : Setting} {above before below : List Piece}
  {header edited : Piece}

/-- The pieces above the edited line, the line, and those below it. -/
theorem split (h : Arrangement s x (piecesOf t) above before below header edited) :
    piecesOf t = (above ++ header :: before) ++ edited :: below := by
  simpa using h.eq

/-- The header is a header for the document as well. -/
theorem lineKind_header (h : Arrangement s x (piecesOf t) above before below header edited)
    (hfolds : ∀ p ∈ piecesOf t, p.FoldsCleanly) : lineKind header.raw = .header s := by
  have hwhole := (whole_of_piecesOf_eq h.split).1 header (by simp)
  rw [← Piece.ofBareLine?_line_iff (hfolds header (by simp [h.eq])) hwhole]
  simpa [Section.opens] using h.opens

/-- The header is the bare name of the section. -/
theorem lower_header (h : Arrangement s x (piecesOf t) above before below header edited)
    (hfolds : ∀ p ∈ piecesOf t, p.FoldsCleanly) : Text.lower header.line = s.name := by
  have hmem : header ∈ pieces (t.splitOn '\n') := by
    rw [← piecesOf, h.eq]
    simp
  obtain ⟨hjoined, hopen⟩ := joined_of_lineKind_header hmem (h.lineKind_header hfolds)
  have hline : header.line = trimLine header.raw := by
    simp [Piece.line, hjoined, header.head_of_not_endsOpen hopen]
  have hbare : Section.ofBareLine? header.line = some s := by
    simpa [Section.opens] using h.opens
  rw [Section.ofBareLine?_eq_some_iff, hline,
    Text.trim_of_isTrimmed (isTrimmed_trimLine header.raw), ← hline] at hbare
  rw [Text.lower_of_ascii fun c hc => (chars_of_lowerAscii_name hbare hc).1, hbare]

/-- The edited line is the one that the document finds. -/
theorem foundLine (h : Arrangement s x (piecesOf t) above before below header edited)
    (hfolds : ∀ p ∈ piecesOf t, p.FoldsCleanly) (hhead : edited.head ≠ []) :
    FoundLine s x.name (piecesOf t) above before below header edited where
  eq := h.eq
  above := by
    intro p hp hkind
    have hwhole := (whole_of_piecesOf_eq h.split).1 p (by simp [hp])
    have hnot := h.opens_above p hp
    rw [← Piece.ofBareLine?_line_iff (hfolds p (by simp [h.eq, hp])) hwhole] at hkind
    simp [Section.opens, hkind] at hnot
  header := h.lineKind_header hfolds
  between := by
    intro p hp
    have hmem : p ∈ piecesOf t := by simp [h.eq, hp]
    have hfirst : p.first ∈ p.entries := List.mem_cons_self
    obtain ⟨hplain, hnot, -⟩ := h.between p hp
    constructor
    · by_contra hheader
      obtain ⟨s', hkind⟩ := Document.kind_of_isHeader (by simpa using hheader)
      have hbare := Document.ofBareLine?_of_mem_entries hfirst hkind (endsOpen_of_joined hmem)
      simp [Section.isPlain, hbare] at hplain
    · by_contra hheld
      have hline := Piece.heldBy_of_holdsKey (hfolds p hmem) hfirst (by simpa using hheld)
      simp [Setting.holds, hline] at hnot
  found := by
    rw [Piece.first, Document.holdsKey_first_iff,
      Piece.heldBy_head_iff (hfolds edited (by simp [h.eq])) hhead]
    simpa [Setting.holds] using h.holds

/-- The document finds the edited line. -/
theorem findKey (h : Arrangement s x (piecesOf t) above before below header edited)
    (hfolds : ∀ p ∈ piecesOf t, p.FoldsCleanly) (hhead : edited.head ≠ []) {parent : Text}
    (hparent : Text.lowerAscii parent = s.name) :
    (Document.ofText t).findKey parent x.name =
      some ((above ++ header :: before).flatMap Piece.entries).length :=
  (Document.findKey_eq_some_iff hfolds hparent).mpr
    ⟨above, before, below, header, edited, h.foundLine hfolds hhead, rfl⟩

/-- The edited line stays where it was: below the logical lines above it, and above those below. -/
theorem slot (h : Arrangement s x (piecesOf t) above before below header edited)
    (hfolds : ∀ p ∈ piecesOf t, p.FoldsCleanly) :
    (Document.ofText t).slot ((above ++ header :: before).flatMap Piece.entries).length =
      ⟨((above ++ header :: before).map Piece.line).reverse, [], below.map Piece.line⟩ :=
  slot_of_piecesOf_eq h.split hfolds

/-! ## The line that the reader goes by -/

/-- The edited line is below the header of its section, and only its own lines are in between. -/
theorem open_edited (h : Arrangement s x (piecesOf t) above before below header edited)
    (hfolds : ∀ p ∈ piecesOf t, p.FoldsCleanly) {k : Key} (hx : x = .key k) (hk : k ∈ s.keys) :
    x.Open ((above ++ header :: before).map Piece.line).reverse := by
  have hlines : ((above ++ header :: before).map Piece.line).reverse =
      (before.map Piece.line).reverse ++ header.line :: (above.map Piece.line).reverse := by
    simp
  have hbefore : ∀ line ∈ (before.map Piece.line).reverse,
      Section.ofBareLine? line = none ∧ s.passes line = true := by
    intro line hline
    obtain ⟨p, hp, rfl⟩ := List.mem_map.mp (List.mem_reverse.mp hline)
    have hplain := (h.between p hp).1
    exact ⟨by simpa [Section.isPlain] using hplain, (h.between p hp).2.2⟩
  have hbare : Section.ofBareLine? header.line = some s := by
    simpa [Section.opens] using h.opens
  constructor
  · rw [hlines, nearestHeader?_append fun line hline => (hbefore line hline).1,
      nearestHeader?_cons, hbare]
    simpa using Section.ne_data_of_mem_keys hk
  · rintro k' hk'
    obtain rfl : k = k' := by simpa [hx] using hk'
    refine ⟨s, hk, ?_⟩
    rw [hlines, Section.owns_append fun line hline => (hbefore line hline).2,
      Section.owns_cons_iff]
    exact .inl (h.lower_header hfolds)

/-- Below the edited line, the lines that its section owns are those up to the next header. -/
theorem passes_of_owns (h : Arrangement s x (piecesOf t) above before below header edited)
    {lines rest : List Text} (hsub : ∀ line ∈ lines, line ∈ below.map Piece.line)
    (howns : s.owns (lines ++ rest) = true) : ∀ line ∈ lines, s.passes line = true := by
  induction lines with
  | nil => simp
  | cons line lines ih =>
    have hlower : Text.lower line ≠ s.name := by
      intro hlower
      obtain ⟨p, hp, rfl⟩ := List.mem_map.mp (hsub line (by simp))
      have hopens := h.opens_below p hp
      simp [Section.opens, Section.ofBareLine?_of_lower_eq hlower] at hopens
    obtain ⟨hpass, hrest⟩ := (Section.owns_cons_iff.mp howns).resolve_left hlower
    intro line' hline'
    rcases List.mem_cons.mp hline' with rfl | hline'
    · exact hpass
    · exact ih (fun l hl => hsub l (by simp [hl])) hrest line' hline'

/-- No line below the edited one gives the key another value. -/
theorem not_said_below (h : Arrangement s x (piecesOf t) above before below header edited)
    {k : Key} (hx : x = .key k) (hk : k ∈ s.keys) (lines : List Text) :
    ∀ st ∈ statements lines (below.map Piece.line), saidOf? x st = none := by
  intro st hst
  obtain ⟨lines₁, line, lines₂, hsplit, rfl⟩ := exists_of_mem_statements hst
  by_contra hsaid
  obtain ⟨value, hvalue⟩ := Option.ne_none_iff_exists'.mp hsaid
  obtain ⟨hheld, ⟨-, hopen⟩, -⟩ := statement?_eq_setting_iff.mp (saidOf?_eq_some_iff.mp hvalue)
  obtain ⟨s', hk', howns⟩ := hopen k hx
  obtain rfl := Section.eq_of_mem_keys hk hk'
  -- The section owns the line, so every line above it up to the edited one is the section's own.
  have hpasses := h.passes_of_owns (fun l hl => by rw [hsplit]; simp_all) howns
  obtain ⟨ps, qs, rfl, hps, hqs⟩ := List.map_eq_append_iff.mp hsplit
  obtain ⟨q, rest, rfl, rfl, -⟩ := List.map_eq_cons_iff.mp hqs
  have hplain : ∀ p ∈ ps, Section.isPlain p = true := by
    intro p hp
    have hpass := hpasses p.line (by simp [← hps]; exact ⟨p, hp, rfl⟩)
    cases hbare : Section.ofBareLine? p.line with
    | none => simp [Section.isPlain, hbare]
    | some s' =>
      rw [Section.passes_of_ofBareLine? hbare] at hpass
      cases hpass
  have hq : x.holds q = true := by simpa [Setting.holds] using hheld
  have hnot := h.holds_below q (by
    rw [List.takeWhile_append_of_pos hplain,
      List.takeWhile_cons_of_pos (Setting.isPlain_of_holds hq)]
    simp)
  rw [hq] at hnot
  cases hnot

end Arrangement

/-! ## Changing the file and reading it -/

/-- In a file in which a key of a section can be edited, an update finds the key, and the file that
it makes reads like the old one with the value set. -/
theorem ofText_updateText_of_editable {t parent key value : Text} {s : Section} {k : Key}
    (h : Editable t s k) (hparent : Section.ofBareLine? parent = some s)
    (hkey : Text.lower (Text.trim key) = k.name) (hvalue : Writable value) :
    (updateText t parent key value).1 = true ∧
      Snapshot.ofText (updateText t parent key value).2 =
        (Snapshot.ofText t).set (.key k) (trimLine value) := by
  obtain ⟨above, before, below, header, edited, harr, hhead⟩ := h.exists_arrangement
  have hpos := harr.findKey h.folds hhead (Section.ofBareLine?_eq_some_iff.mp hparent)
  rw [show (Setting.key k).name = k.name from rfl, ← hkey] at hpos
  obtain ⟨gap, hgap, hempty, hfound, hnew⟩ := logicalLines_updateText (x := .key k) hpos hkey hvalue
  rw [harr.slot h.folds, List.reverse_reverse, List.nil_append] at hnew
  refine ⟨hfound, ?_⟩
  have hold : logicalLines t =
      (above ++ header :: before).map Piece.line ++ edited.line :: below.map Piece.line := by
    rw [← map_line_piecesOf, harr.eq]
    simp
  have hopen := harr.open_edited h.folds rfl h.key
  have hheld : (Setting.key k).HeldBy edited.line := by
    simpa [Setting.holds] using harr.holds
  have hheld' : (Setting.key k).HeldBy ((Setting.key k).name ++ gap ++ trimLine value) := by
    rw [List.append_assoc]
    exact Setting.heldBy_name_append _ _
  have hsplit := splitKeyValue_edited (.key k) (List.forall_mem_nil _) hgap hempty
  rw [List.nil_append] at hsplit
  have hold' := statement?_eq_setting_iff.mpr ⟨hheld, hopen, rfl⟩
  have hnew' := statement?_eq_setting_iff.mpr ⟨hheld', hopen, hsplit⟩
  rw [ofText_eq_foldl_around hnew, ofText_eq_foldl_around hold, hold', hnew',
    statements_of_alike (Alike.of_heldBy hheld' hheld),
    Snapshot.set_foldl_obey (harr.not_said_below rfl h.key _), Snapshot.obey, Snapshot.obey,
    Snapshot.set_set]

/-- A file with a comment, a sibling and a continued value below the header of the section. -/
def continuedFile : Text :=
  "maintenance-window off\r\nSite\r\n # names\r\n\tportno\t80\r\n".toList ++
    "\thostname\told, \\\r\n\t\tolder\r\nHTTP\n".toList

/-- A continued value is replaced as a whole by one with blanks and a tab in it. -/
theorem ofText_updateText_continuedFile :
    Editable continuedFile .site .hostname ∧ Writable " a\tb ".toList ∧
      (updateText continuedFile " SITE".toList "HostName".toList " a\tb ".toList).1 = true ∧
      Snapshot.ofText (updateText continuedFile " SITE".toList "HostName".toList
        " a\tb ".toList).2 =
          (Snapshot.ofText continuedFile).set (.key .hostname) (trimLine " a\tb ".toList) := by
  have hedit : Editable continuedFile .site .hostname :=
    ⟨⟨by decide, by decide +kernel, by decide +kernel, by decide +kernel, by decide +kernel⟩,
      by decide +kernel⟩
  have hvalue : Writable " a\tb ".toList := ⟨by decide, by decide⟩
  exact ⟨hedit, hvalue, ofText_updateText_of_editable hedit (by decide) (by decide) hvalue⟩

/-- A line that stands behind nothing but a backslash is read but not found. -/
theorem not_updateText_of_saidOnce :
    ¬ ∀ (t parent key value : Text) (s : Section) (k : Key), SaidOnce t s k →
      Section.ofBareLine? parent = some s → Text.lower (Text.trim key) = k.name →
      Writable value → (updateText t parent key value).1 = true ∧
        Snapshot.ofText (updateText t parent key value).2 =
          (Snapshot.ofText t).set (.key k) (trimLine value) := by
  intro h
  have honce : SaidOnce "Site\n\\\nhostname a".toList .site .hostname :=
    ⟨by decide, by decide +kernel, by decide +kernel, by decide +kernel, by decide +kernel⟩
  obtain ⟨hfound, -⟩ := h _ "Site".toList "hostname".toList "b".toList _ _ honce (by decide)
    (by decide) ⟨by decide, by decide⟩
  revert hfound
  decide +kernel

end SiteGate.Config
