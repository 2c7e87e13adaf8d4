import Mathlib.Data.List.Nodup
import SiteGate.Proofs.Config.Entries
import SiteGate.Proofs.Config.Frame
import SiteGate.Proofs.Config.Retouch

/-!
# The order of sections

A file is often made of blocks, each a header and the lines below it (`Block`). Whatever a block
ends with, the header of the next one is read as a header, and what its lines say is seen from the
block alone (`statements_lines`). So a file says what its blocks say, one after the other
(`ofText_textOf`).

A block concerns the keys of its own section, the free data if it is theirs, and the directives that
it holds outside of them (`Concerns`). Two blocks with different sections do not concern the same,
unless both hold one directive, and what concerns different things may be said in either order
(`obey_comm`). So the blocks may stand in any order (`ofText_textOf_perm`).
-/

set_option autoImplicit false

namespace SiteGate.Config

/-! ## What a statement is about -/

/-- What a statement is about: a setting, or the free data. -/
def Statement.subject : Statement → Option Setting
  | .entry _ _ => none
  | .setting x _ => some x

namespace Snapshot

/-- Statements about different things may be obeyed in either order. -/
theorem obey_comm {st st' : Statement} (h : st.subject ≠ st'.subject) (s : Snapshot) :
    (s.obey (some st)).obey (some st') = (s.obey (some st')).obey (some st) := by
  cases st with
  | entry key value =>
    cases st' with
    | entry key' value' => exact absurd rfl h
    | setting y other => exact s.set_setData y other key value
  | setting x value =>
    cases st' with
    | entry key' value' => exact (s.set_setData x value key' value').symm
    | setting y other =>
      have hne : y ≠ x := by
        rintro rfl
        exact h rfl
      exact s.set_comm hne value other

/-- A statement may be obeyed after others that are about different things. -/
theorem foldl_obey_past {st : Statement} {sts : List (Option Statement)}
    (h : ∀ st', some st' ∈ sts → st.subject ≠ st'.subject) (s : Snapshot) :
    sts.foldl obey (s.obey (some st)) = (sts.foldl obey s).obey (some st) := by
  induction sts generalizing s with
  | nil => rfl
  | cons said rest ih =>
    have hstep : (s.obey (some st)).obey said = (s.obey said).obey (some st) := by
      cases said with
      | none => rfl
      | some st' => exact obey_comm (h st' (by simp)) s
    rw [List.foldl_cons, List.foldl_cons, hstep, ih fun st' hst' => h st' (by simp [hst'])]

/-- Lists of statements may be obeyed in either order if none of one list is about what one of the
other list is about. -/
theorem foldl_obey_comm {sts sts' : List (Option Statement)}
    (h : ∀ st st', some st ∈ sts → some st' ∈ sts' → st.subject ≠ st'.subject) (s : Snapshot) :
    sts'.foldl obey (sts.foldl obey s) = sts.foldl obey (sts'.foldl obey s) := by
  induction sts generalizing s with
  | nil => rfl
  | cons said rest ih =>
    rw [List.foldl_cons, ih fun st st' hst => h st st' (by simp [hst]), List.foldl_cons]
    cases said with
    | none => rfl
    | some st => rw [foldl_obey_past fun st' => h st st' (by simp)]

end Snapshot

/-! ## Blocks -/

/-- A section's header and the lines below it, of which none is a header or ends in a backslash. -/
structure Block where
  title : Section
  header : Text
  body : List Text
  isHeader : Section.ofBareLine? (trimLine header) = some title
  isBody : ∀ line ∈ body, Section.ofBareLine? (trimLine line) = none ∧ endsOpen line = false
  areLines : ∀ line ∈ header :: body, '\n' ∉ line

namespace Block

/-- The physical lines of a block. -/
def lines (b : Block) : List Text := b.header :: b.body

/-- The text of blocks one after the other, with or without a line feed at its end. -/
def textOf (blocks : List Block) (ended : Bool) : Text :=
  ['\n'].intercalate (blocks.flatMap lines ++ if ended then [[]] else [])

/-- What the lines of a block say. -/
def said (b : Block) : List (Option Statement) := statements [] (b.lines.map trimLine)

/-- What a block may say something about. -/
def Concerns (b : Block) : Option Setting → Prop
  | none => b.title = .data
  | some (.key k) => k ∈ b.title.keys
  | some (.directive d) =>
    b.title ≠ .data ∧ ∃ line ∈ b.body, (Setting.directive d).HeldBy (trimLine line)

/-- The lines outside of the free data. -/
def linesOutsideData (blocks : List Block) : List Text :=
  (blocks.filter (·.title ≠ .data)).flatMap body

/-! ## What a block says -/

/-- No line of a block takes the one below it. -/
theorem endsOpen_of_mem_lines {b : Block} {line : Text} (h : line ∈ b.lines) :
    endsOpen line = false := by
  rcases List.mem_cons.mp h with rfl | hbody
  · cases hopen : endsOpen b.header with
    | false => rfl
    | true =>
      have hheader := b.isHeader
      rw [ofBareLine?_of_endsOpen hopen] at hheader
      cases hheader
  · exact (b.isBody line hbody).2

/-- A header says nothing. -/
theorem statement?_header (b : Block) (above : List Text) :
    statement? above (trimLine b.header) = none := by
  have hkey : (Section.all.findSome? fun s => s.ownedKey? above (trimLine b.header)) = none := by
    rw [List.findSome?_eq_none_iff]
    intro s _
    rw [Section.ownedKey?, Section.matchKey?_of_ofBareLine? b.isHeader, ite_self]
  simp [statement?, isSkippable_of_ofBareLine? b.isHeader, b.isHeader, hkey,
    Directive.ofLine?_of_ofBareLine? b.isHeader]

/-- What a block says does not depend on what stands above it. -/
theorem statements_lines (b : Block) (above : List Text) :
    statements above (b.lines.map trimLine) = b.said := by
  have hbelow : statements (trimLine b.header :: above) (b.body.map trimLine) =
      statements [trimLine b.header] (b.body.map trimLine) := by
    apply statements_congr
    · rw [nearestHeader?_cons, nearestHeader?_cons, b.isHeader]
      rfl
    · intro s
      rw [Bool.eq_iff_iff, Section.owns_cons_iff, Section.owns_cons_iff,
        Section.passes_of_ofBareLine? b.isHeader]
      simp
  rw [said, lines, List.map_cons, statements, statements, statement?_header, statement?_header,
    hbelow]

/-- The lines of blocks say what the blocks say, one after the other. -/
theorem statements_flatMap_lines (blocks : List Block) (above : List Text) :
    statements above ((blocks.flatMap lines).map trimLine) = blocks.flatMap said := by
  induction blocks generalizing above with
  | nil => rfl
  | cons b blocks ih =>
    rw [List.flatMap_cons, List.map_append, statements_append, statements_lines, ih,
      List.flatMap_cons]

/-- What a block says stands on one of the lines below its header. -/
theorem exists_of_mem_said {b : Block} {st : Statement} (h : some st ∈ b.said) :
    ∃ above, ∃ line ∈ b.body, nearestHeader? above = some b.title ∧
      statement? above (trimLine line) = some st := by
  obtain ⟨before, line, after, hlines, hst⟩ := exists_of_mem_statements h
  rw [lines, List.map_cons] at hlines
  cases before with
  | nil =>
    obtain ⟨rfl, -⟩ := List.cons.inj hlines
    rw [b.statement?_header] at hst
    cases hst
  | cons header before =>
    obtain ⟨rfl, hbody⟩ := List.cons.inj hlines
    have hbefore : ∀ l ∈ before.reverse, Section.ofBareLine? l = none := by
      intro l hl
      have hmem : l ∈ b.body.map trimLine := by simp [hbody, List.mem_reverse.mp hl]
      obtain ⟨raw, hraw, rfl⟩ := List.mem_map.mp hmem
      exact (b.isBody raw hraw).1
    have hline : line ∈ b.body.map trimLine := by simp [hbody]
    obtain ⟨raw, hraw, rfl⟩ := List.mem_map.mp hline
    refine ⟨_, raw, hraw, ?_, hst.symm⟩
    rw [List.reverse_cons, List.append_nil, nearestHeader?_append hbefore, nearestHeader?_cons,
      b.isHeader]
    rfl

/-- A block speaks of nothing but what concerns it. -/
theorem concerns_of_mem_said {b : Block} {st : Statement} (h : some st ∈ b.said) :
    b.Concerns st.subject := by
  obtain ⟨above, line, hline, hnearest, hst⟩ := exists_of_mem_said h
  match st with
  | .entry key value =>
    have hdata := (statement?_eq_entry_iff.mp hst).2.1
    exact Option.some.inj (hnearest.symm.trans hdata)
  | .setting (.key k) value =>
    obtain ⟨-, ⟨-, hopen⟩, -⟩ := statement?_eq_setting_iff.mp hst
    obtain ⟨s, hk, howns⟩ := hopen k rfl
    obtain rfl : s = b.title :=
      Option.some.inj ((nearestHeader?_of_owns howns).symm.trans hnearest)
    exact hk
  | .setting (.directive d) value =>
    obtain ⟨hheld, ⟨hdata, -⟩, -⟩ := statement?_eq_setting_iff.mp hst
    refine ⟨?_, line, hline, hheld⟩
    intro htitle
    exact hdata (hnearest.trans (congrArg some htitle))

/-! ## What a file of blocks says -/

/-- Lines that take no others are the logical lines. -/
theorem joinLines_of_closed {ls : List Text} (h : ∀ line ∈ ls, endsOpen line = false) :
    joinLines (ls.map trimLine) = ls.map trimLine := by
  induction ls with
  | nil => rfl
  | cons line ls ih =>
    rw [joinLines_cons (h line (by simp)), ih fun l hl => h l (by simp [hl]), List.map_cons]

/-- The lines of a file of blocks are those of the blocks, and a blank one if it has no blocks or
ends in a line feed. -/
theorem exists_splitOn_textOf (blocks : List Block) (ended : Bool) :
    ∃ blank : List Text, (blank = [] ∨ blank = [[]]) ∧
      (textOf blocks ended).splitOn '\n' = blocks.flatMap lines ++ blank := by
  have hlines : ∀ line ∈ blocks.flatMap lines, '\n' ∉ line := by
    intro line hline
    obtain ⟨b, -, hb⟩ := List.mem_flatMap.mp hline
    exact b.areLines line hb
  cases ended with
  | true =>
    refine ⟨[[]], .inr rfl, List.splitOn_intercalate '\n' ?_ (by simp)⟩
    intro line hline
    rcases List.mem_append.mp hline with hline | hline
    · exact hlines line hline
    · obtain rfl : line = [] := by simpa using hline
      simp
  | false =>
    by_cases hnil : blocks.flatMap lines = []
    · exact ⟨[[]], .inr rfl, by simp [textOf, hnil]⟩
    · refine ⟨[], .inl rfl, List.splitOn_intercalate '\n' ?_ ?_⟩
      · simpa using hlines
      · simpa using hnil

/-- A file says what its blocks say, one after the other. -/
theorem ofText_textOf (blocks : List Block) (ended : Bool) :
    Snapshot.ofText (textOf blocks ended) =
      blocks.foldl (fun s b => b.said.foldl Snapshot.obey s) .empty := by
  obtain ⟨blank, hblank, hsplit⟩ := exists_splitOn_textOf blocks ended
  have hclosed : ∀ line ∈ blocks.flatMap lines ++ blank, endsOpen line = false := by
    intro line hline
    rcases List.mem_append.mp hline with hline | hline
    · obtain ⟨b, -, hb⟩ := List.mem_flatMap.mp hline
      exact endsOpen_of_mem_lines hb
    · rcases hblank with rfl | rfl
      · cases hline
      · obtain rfl := List.mem_singleton.mp hline
        rfl
  have hpass : ∀ st : ReadState, (blank.map trimLine).foldl ReadState.read st = st := by
    intro st
    rcases hblank with rfl | rfl
    · rfl
    · have hskip : isSkippable (trimLine []) = true := rfl
      exact st.read_of_isSkippable hskip
  have hread := Agrees.start.snapshot_foldl ((blocks.flatMap lines).map trimLine)
  rw [ofText_eq_foldl_read, logicalLines, hsplit, joinLines_of_closed hclosed, List.map_append,
    List.foldl_append, hpass, hread, statements_flatMap_lines, List.foldl_flatMap]
  rfl

/-! ## Blocks in any order -/

/-- If a directive is held by one line at most outside of the free data, it is held in one block at
most. -/
theorem eq_of_concerns_directive {blocks : List Block} {d : Directive}
    (honce : (linesOutsideData blocks).countP (fun line =>
      (Setting.directive d).HeldBy (trimLine line)) ≤ 1) {b b' : Block} (hb : b ∈ blocks)
    (hb' : b' ∈ blocks) (hd : b.Concerns (some (.directive d)))
    (hd' : b'.Concerns (some (.directive d))) : b = b' := by
  by_contra hne
  have hpos : ∀ {bs : List Block} {c : Block}, c ∈ bs → c.Concerns (some (.directive d)) →
      0 < (bs.flatMap body).countP fun line => (Setting.directive d).HeldBy (trimLine line) := by
    rintro bs c hc ⟨-, line, hline, hheld⟩
    rw [List.countP_pos_iff]
    exact ⟨line, List.mem_flatMap.mpr ⟨c, hc, hline⟩, by simpa using hheld⟩
  have hone := hpos (List.mem_singleton.mpr rfl) hd
  obtain ⟨before, after, heq⟩ : ∃ before after,
      blocks.filter (·.title ≠ .data) = before ++ b :: after :=
    List.append_of_mem (List.mem_filter.mpr ⟨hb, by simpa using hd.1⟩)
  have hother : b' ∈ before ++ b :: after := by
    rw [← heq]
    exact List.mem_filter.mpr ⟨hb', by simpa using hd'.1⟩
  rw [linesOutsideData, heq, List.flatMap_append, List.flatMap_cons, List.countP_append,
    List.countP_append] at honce
  rw [List.flatMap_cons, List.flatMap_nil, List.append_nil] at hone
  rcases List.mem_append.mp hother with hbefore | hafter
  · have htwo := hpos hbefore hd'
    omega
  · have htwo := hpos ((List.mem_cons.mp hafter).resolve_left (Ne.symm hne)) hd'
    omega

/-- Blocks that concern different things may be read in either order. -/
theorem foldl_said_comm {b b' : Block} (h : ∀ x, b.Concerns x → ¬ b'.Concerns x) (s : Snapshot) :
    b'.said.foldl Snapshot.obey (b.said.foldl Snapshot.obey s) =
      b.said.foldl Snapshot.obey (b'.said.foldl Snapshot.obey s) := by
  apply Snapshot.foldl_obey_comm
  intro st st' hst hst' heq
  have hb := concerns_of_mem_said hst
  rw [heq] at hb
  exact h _ hb (concerns_of_mem_said hst')

/-- Blocks of different sections say the same in any order, if each directive stands on at most one
line outside of the free data. -/
theorem ofText_textOf_perm {blocks blocks' : List Block} (hdistinct : (blocks.map title).Nodup)
    (honce : ∀ d : Directive, (linesOutsideData blocks).countP (fun line =>
      (Setting.directive d).HeldBy (trimLine line)) ≤ 1)
    (hperm : blocks.Perm blocks') (ended ended' : Bool) :
    Snapshot.ofText (textOf blocks' ended') = Snapshot.ofText (textOf blocks ended) := by
  rw [ofText_textOf, ofText_textOf]
  refine (hperm.foldl_eq' (fun b hb b' hb' s => ?_) _).symm
  by_cases hsame : b = b'
  · rw [hsame]
  · apply foldl_said_comm
    intro x hx hx'
    have htitle : b.title ≠ b'.title := fun htitle =>
      hsame (List.inj_on_of_nodup_map hdistinct hb hb' htitle)
    match x with
    | none => exact htitle (hx.trans hx'.symm)
    | some (.key k) => exact htitle (Section.eq_of_mem_keys hx hx')
    | some (.directive d) => exact hsame (eq_of_concerns_directive (honce d) hb hb' hx hx')

/-- A site with a stray line and a header that is not bare, both of which end its section. -/
def siteBlock : Block where
  title := .site
  header := "Site".toList
  body := ["portno 80".toList, "stray".toList, "maintenance-window on".toList,
    "Admin area".toList, "proto https".toList]
  isHeader := by decide
  isBody := by decide +kernel
  areLines := by decide

/-- Free data with a line that would be a directive elsewhere. -/
def dataBlock : Block where
  title := .data
  header := " DATA".toList
  body := ["maintenance-window off".toList, [], "portno x".toList]
  isHeader := by decide
  isBody := by decide +kernel
  areLines := by decide

/-- The administration with a port of its own, and a key of another section. -/
def adminBlock : Block where
  title := .admin
  header := "Admin".toList
  body := ["# access".toList, "portno 81".toList, "hostname a".toList]
  isHeader := by decide
  isBody := by decide +kernel
  areLines := by decide

/-- The stray line does not reach the block below it, in whatever order the blocks stand. -/
theorem ofText_textOf_perm_sites :
    ([siteBlock, dataBlock, adminBlock].map title).Nodup ∧
      textOf [adminBlock, dataBlock, siteBlock] true =
        ("Admin\n# access\nportno 81\nhostname a\n DATA\nmaintenance-window off\n\nportno x\n" ++
          "Site\nportno 80\nstray\nmaintenance-window on\nAdmin area\nproto https\n").toList ∧
      Snapshot.ofText (textOf [adminBlock, dataBlock, siteBlock] true) =
        Snapshot.ofText (textOf [siteBlock, dataBlock, adminBlock] false) := by
  have hdistinct : ([siteBlock, dataBlock, adminBlock].map title).Nodup := by decide
  have honce : ∀ d : Directive,
      (linesOutsideData [siteBlock, dataBlock, adminBlock]).countP (fun line =>
        (Setting.directive d).HeldBy (trimLine line)) ≤ 1 := by
    intro d
    cases d <;> decide +kernel
  have hperm := [siteBlock, dataBlock, adminBlock].reverse_perm.symm
  exact ⟨hdistinct, by decide +kernel, ofText_textOf_perm hdistinct honce hperm false true⟩

end Block

end SiteGate.Config
