import SiteGate.Proofs.Config.Frame
import SiteGate.Proofs.Config.Reading
import Mathlib.Data.List.Basic
import Mathlib.Data.List.Induction
import Mathlib.Data.List.Infix

/-!
# A document in step with its text

A document is changed in memory, line by line, and written only then. It is in step with its text
if reading the text again gives the same lines, each of the same kind (`Document.InStep`). A
document that has been read is (`inStep_ofText`), and whoever goes on with one that is may as well
write it and read it again after every change (`render_changeAll`).

A change sets the text and the kind of one line, and removes the lines that continued it. Read
again, the edited line is of the kind that it has been given, and the lines below it are what they
have been, just if the change fits (`Document.Fits`): the value has no line feed in it, the line
is not a section's name or without a key, and no backslash at its end makes the next line its
continuation. So the document stays in step just as long as the changes fit
(`inStep_changeAll_iff`).
-/

set_option autoImplicit false

namespace SiteGate.Config

/-- A value that is asked for: the section, the key and the value as they are given. -/
structure Change where
  parent : Text
  key : Text
  value : Text

/-- The key that is looked for and written. -/
def Change.word (c : Change) : Text := Text.lower (Text.trim c.key)

/-- The line that a change writes over another one, with its kind. -/
def Change.line (c : Change) (raw : Text) : Entry :=
  ⟨Document.editLine raw c.word (Text.trim c.value), .keyValue c.word⟩

/-- The text after a change. -/
def changeText (t : Text) (c : Change) : Text := (updateText t c.parent c.key c.value).2

namespace Document

/-- The document after a change. If it has no line for the key it stays as it is. -/
def change (d : Document) (c : Change) : Document := (d.setValue? c.parent c.key c.value).getD d

/-- The document after changes one after the other. -/
def changeAll (d : Document) (cs : List Change) : Document := cs.foldl change d

/-- Reading the text of the document gives the document. -/
def InStep (d : Document) : Prop := ofText d.render = d

/-- Whether a document is in step can be decided by reading its text. -/
instance (d : Document) : Decidable d.InStep := inferInstanceAs (Decidable (_ = _))

/-- What a change writes on a line of the document is read again as it is meant. -/
structure Fits (d : Document) (c : Change) (pos : Nat) : Prop where
  named : c.word ≠ []
  newline : '\n' ∉ Text.trim c.value
  header : Text.trim c.value = [] → Section.ofName? c.word = none
  /-- Only on the last line may a backslash stand at the end. -/
  closed : (c.word ++ Text.trim c.value).getLast? = some '\\' →
    (d.drop (pos + 1)).dropWhile (·.kind = .continuation) = []

/-- If a change finds a line it fits there. -/
def Accepts (d : Document) (c : Change) : Prop :=
  ∀ pos, d.findKey (Text.trim c.parent) c.word = some pos → d.Fits c pos

/-! ## Lines that are what they are read as -/

/-- Whether the next line continues the last one of a document, or what stands before the document
if that is empty. -/
def continues (c : Bool) (d : Document) : Bool := d.foldl (fun _ e => isContinued e.raw e.kind) c

/-- The lines of a document are of the kinds that they are read as, below a line that is continued
if `c` says so. -/
def ReadFrom (c : Bool) (d : Document) : Prop := ofLines c (d.map Entry.raw) = d

variable {d d' before after rest : Document} {e : Entry} {c : Bool}

/-- A document without lines is as it is read. -/
theorem readFrom_nil (c : Bool) : ReadFrom c [] := rfl

/-- Below a line that is not continued, a line is of the kind that it has by itself. -/
theorem readFrom_false_cons :
    ReadFrom false (e :: rest) ↔ e.kind = lineKind e.raw ∧
      ReadFrom (isContinued e.raw e.kind) rest := by
  obtain ⟨raw, kind⟩ := e
  simp only [ReadFrom, List.map_cons, ofLines, Bool.false_eq_true, if_false, List.cons.injEq,
    Entry.mk.injEq, true_and]
  constructor
  · rintro ⟨rfl, hrest⟩
    exact ⟨rfl, hrest⟩
  · rintro ⟨rfl, hrest⟩
    exact ⟨rfl, hrest⟩

/-- Below a line that is continued there is a continuation. -/
theorem readFrom_true_cons :
    ReadFrom true (e :: rest) ↔ e.kind = .continuation ∧ ReadFrom false rest := by
  obtain ⟨raw, kind⟩ := e
  simp [ReadFrom, ofLines, eq_comm]

/-- A document is as it is read if its two parts are. -/
theorem readFrom_append :
    ReadFrom c (before ++ after) ↔ ReadFrom c before ∧ ReadFrom (continues c before) after := by
  induction before generalizing c with
  | nil => simp [readFrom_nil, continues]
  | cons e rest ih =>
    cases c with
    | true =>
      rw [List.cons_append, readFrom_true_cons, readFrom_true_cons, ih, and_assoc]
      refine and_congr_right fun hkind => ?_
      simp [continues, hkind, isContinued]
    | false =>
      rw [List.cons_append, readFrom_false_cons, readFrom_false_cons, ih, and_assoc]
      rfl

/-- A line with a key is no continuation, whatever stands before it. -/
theorem ReadFrom.of_holdsKey {key : Text} (h : ReadFrom c (e :: rest))
    (hkey : holdsKey key e = true) :
    c = false := by
  cases c with
  | false => rfl
  | true =>
    rw [holdsKey, (readFrom_true_cons.mp h).1] at hkey
    cases hkey

/-- Lines that continue nothing begin with no continuation. -/
theorem ReadFrom.kind_head (h : ReadFrom false d) : ∀ e ∈ d.head?, e.kind ≠ .continuation := by
  intro e he
  cases d with
  | nil => cases he
  | cons e' rest =>
    obtain rfl : e' = e := by simpa using he
    rw [(readFrom_false_cons.mp h).1]
    exact lineKind_ne_continuation e'.raw

/-- Below a line that is continued only the first line continues it, and below another none. -/
theorem ReadFrom.dropWhile_eq (h : ReadFrom c d) :
    d.dropWhile (·.kind = .continuation) = if c then d.tail else d := by
  have hkeep : ∀ {d : Document}, ReadFrom false d → d.dropWhile (·.kind = .continuation) = d := by
    intro d hd
    cases d with
    | nil => rfl
    | cons e rest => simp [hd.kind_head e rfl]
  cases c with
  | false => exact hkeep h
  | true =>
    cases d with
    | nil => rfl
    | cons e rest =>
      obtain ⟨hkind, hrest⟩ := readFrom_true_cons.mp h
      rw [List.dropWhile_cons_of_pos (by simpa using hkind), hkeep hrest]
      rfl

/-- What is left when the continuations are dropped continues nothing. -/
theorem ReadFrom.dropWhile (h : ReadFrom c d) :
    ReadFrom false (d.dropWhile (·.kind = .continuation)) := by
  rw [h.dropWhile_eq]
  cases c with
  | false => exact h
  | true =>
    cases d with
    | nil => exact readFrom_nil false
    | cons e rest => exact (readFrom_true_cons.mp h).2

/-- Lines that continue nothing can be put below a line just if that is not continued. -/
theorem ReadFrom.below_iff (h : ReadFrom false rest) :
    ReadFrom c rest ↔ (c = true → rest = []) := by
  cases c with
  | false => simp [h]
  | true =>
    cases rest with
    | nil => simp [readFrom_nil]
    | cons e rest => simp [readFrom_true_cons, h.kind_head e rfl]

/-! ## In step -/

/-- A text that has been read is given back as it was. -/
theorem render_ofText (t : Text) : (ofText t).render = t := by
  rw [render, ofText, map_raw_ofLines, List.intercalate_splitOn]

/-- An update that finds no line gives the text back. -/
theorem updateText_of_not_found {t parent key value : Text}
    (h : (updateText t parent key value).1 = false) : (updateText t parent key value).2 = t := by
  unfold updateText at h ⊢
  cases hset : (ofText t).setValue? parent key value with
  | some d => simp [hset] at h
  | none => simp [hset, render_ofText]

/-- Different texts are taken apart into different lines. -/
theorem ofText_injective : Function.Injective ofText :=
  Function.LeftInverse.injective render_ofText

/-- A document that has just been read is in step. -/
theorem inStep_ofText (t : Text) : (ofText t).InStep := by
  rw [InStep, render_ofText]

/-- Every text has a line. -/
theorem ofText_ne_nil (t : Text) : ofText t ≠ [] := by
  intro hnil
  have hlines := map_raw_ofLines false (t.splitOn '\n')
  rw [← ofText, hnil] at hlines
  exact List.splitOn_ne_nil '\n' t hlines.symm

/-- A document is in step with its text if it has lines, no line feed in any of them, and each is of
the kind that it is read as. -/
theorem inStep_iff :
    d.InStep ↔ d ≠ [] ∧ (∀ e ∈ d, '\n' ∉ e.raw) ∧ ReadFrom false d := by
  constructor
  · intro h
    have hne : d ≠ [] := h ▸ ofText_ne_nil d.render
    have hlines : ∀ e ∈ d, '\n' ∉ e.raw := by
      intro e he
      rw [← h] at he
      exact newline_not_mem_ofText he
    refine ⟨hne, hlines, ?_⟩
    rw [InStep, ofText, splitOn_render hne hlines] at h
    exact h
  · rintro ⟨hne, hlines, hread⟩
    rw [InStep, ofText, splitOn_render hne hlines]
    exact hread

/-! ## The edited line -/

/-- A word that is found on a line has no blanks, begins with no number sign, and is in lower
case. -/
theorem word_of_holdsKey {word raw : Text} (h : holdsKey word ⟨raw, lineKind raw⟩ = true) :
    (∀ c ∈ word, Text.isBlank c = false) ∧ word.head? ≠ some '#' ∧ Text.lower word = word := by
  obtain ⟨-, hsign, -, hbegins⟩ := holdsKey_lineKind_iff.mp h
  exact ⟨Text.isBlank_of_prefix_word hbegins,
    fun hfirst => hsign (Text.head?_of_prefix_word hbegins hfirst), Text.lower_of_prefix hbegins⟩

/-- A line is a key with its value if it is none of the other kinds, and the key is its first word
in lower case. -/
theorem lineKind_eq_keyValue_iff {raw key : Text} :
    lineKind raw = .keyValue key ↔
      trimLine raw ≠ [] ∧ (trimLine raw).head? ≠ some '#' ∧
        Section.ofBareLine? (trimLine raw) = none ∧
        key = Text.lower (Text.word (trimLine raw)) := by
  have hhead := (isTrimmed_trimLine raw).head
  unfold lineKind
  cases hline : trimLine raw with
  | nil => simp
  | cons c rest =>
    rw [hline] at hhead
    by_cases hsign : c = '#'
    · simp [hsign]
    · cases hbare : Section.ofBareLine? (c :: rest) with
      | some s => simp [hsign, hbare]
      | none =>
        have hfst := splitKeyValue_fst hhead (List.cons_ne_nil c rest)
        simp [hsign, hbare, hfst, eq_comm (a := key)]

/-- A line is never read as one with an empty key. -/
theorem lineKind_ne_keyValue_nil (raw : Text) : lineKind raw ≠ .keyValue [] := by
  intro h
  obtain ⟨hne, -, -, hword⟩ := lineKind_eq_keyValue_iff.mp h
  obtain ⟨c, rest, hline⟩ := List.exists_cons_of_ne_nil hne
  have hblank : Text.isBlank c = false := (isTrimmed_trimLine raw).head c (by simp [hline])
  refine lower_ne_nil ?_ hword.symm
  simp [hline, Text.word, hblank]

variable {raw word value : Text}

/-- An edited line is read as one with its key, unless nothing but a section's name stands on it. -/
theorem lineKind_editLine_iff (hword : IsWord word) (hsign : word.head? ≠ some '#')
    (hlower : Text.lower word = word) :
    lineKind (editLine raw word (Text.trim value)) = .keyValue word ↔
      (Text.trim value = [] → Section.ofName? word = none) := by
  obtain ⟨gap, hgap, hempty, hline⟩ := hword.trimLine_editLine raw value
  have hvalue : trimLine value = [] ↔ Text.trim value = [] := by simp [trimLine_eq]
  have hne : word ++ gap ++ trimLine value ≠ [] := by simp [hword.ne_nil]
  have hfirst : (word ++ gap ++ trimLine value).head? ≠ some '#' := by
    rw [List.append_assoc, List.head?_append_of_ne_nil _ hword.ne_nil]
    exact hsign
  have hkey : Text.word (word ++ gap ++ trimLine value) = word := by
    rw [List.append_assoc]
    exact Text.word_append hword.blank (isBlank_head_of_gap hgap hempty.mp)
  rw [lineKind_eq_keyValue_iff, hline, hkey, hlower]
  constructor
  · rintro ⟨-, -, hbare, -⟩ hnil
    have hblank := hvalue.mpr hnil
    rw [hempty.mpr hblank, hblank, List.append_nil, List.append_nil, Section.ofBareLine?,
      Text.trim_of_isTrimmed (Text.IsTrimmed.of_forall hword.blank)] at hbare
    exact hbare
  · intro hname
    exact ⟨hne, hfirst,
      hword.ofBareLine?_edited hgap hempty fun hnil => hname (hvalue.mp hnil), rfl⟩

/-- An edited line ends in a backslash if its value does, or its key where there is no value. -/
theorem endsOpen_editLine_iff (hword : IsWord word) :
    endsOpen (editLine raw word (Text.trim value)) = true ↔
      (word ++ Text.trim value).getLast? = some '\\' := by
  obtain ⟨gap, -, hempty, hline⟩ := hword.trimLine_editLine raw value
  have hvalue : trimLine value = [] ↔ Text.trim value = [] := by simp [trimLine_eq]
  rw [endsOpen, hline, decide_eq_true_iff]
  cases hval : Text.trim value with
  | nil =>
    rw [hempty.mpr (hvalue.mpr hval), hvalue.mpr hval, List.append_nil]
  | cons c rest =>
    have hlast := getLast?_trimLine_eq_backslash_iff value
    have hne : trimLine value ≠ [] := by simp [hvalue, hval]
    rw [hval] at hlast
    rw [List.getLast?_append_of_ne_nil _ hne, List.getLast?_append_of_ne_nil _ (by simp), hlast]

/-- A line that has been edited has a line feed if the value has one. -/
theorem newline_mem_editLine_iff (hblank : ∀ c ∈ word, Text.isBlank c = false) (hraw : '\n' ∉ raw) :
    '\n' ∈ editLine raw word value ↔ '\n' ∈ value := by
  obtain ⟨indent, gap, ending, -, -, -, -, heq, hline⟩ := exists_eq_editLine raw word value
  obtain ⟨hindent, hgap, hending⟩ := hline hraw
  have hname : '\n' ∉ word := by
    intro hc
    have hnot := hblank _ hc
    revert hnot
    decide
  simp [heq, hindent, hgap, hending, hname]

/-! ## Changes -/

/-- The line that a change writes, and what is left below it, are read again as they are just if the
change fits there. -/
theorem readFrom_line_iff {c : Change} (h : ReadFrom false (e :: after))
    (hheld : holdsKey c.word e = true) (hraw : '\n' ∉ e.raw)
    (hd : d = before ++ e :: after) :
    ('\n' ∉ (c.line e.raw).raw ∧
        ReadFrom false (c.line e.raw :: after.dropWhile (·.kind = .continuation))) ↔
      d.Fits c before.length := by
  obtain ⟨hkind, hafter⟩ := readFrom_false_cons.mp h
  have hbelow : (d.drop (before.length + 1)).dropWhile (·.kind = .continuation) =
      after.dropWhile (·.kind = .continuation) := by simp [hd]
  rw [readFrom_false_cons]
  by_cases hword : c.word = []
  · have hkind' : LineKind.keyValue c.word ≠ lineKind (c.line e.raw).raw := by
      rw [hword]
      exact (lineKind_ne_keyValue_nil _).symm
    exact iff_of_false (fun hread => hkind' hread.2.1) (fun hfits => hfits.named hword)
  · obtain ⟨raw, kind⟩ := e
    obtain rfl : kind = lineKind raw := hkind
    obtain ⟨hblank, hsign, hlower⟩ := word_of_holdsKey hheld
    have hisWord : IsWord c.word := ⟨hword, hblank⟩
    have hopen : isContinued (c.line raw).raw (c.line raw).kind =
        endsOpen (editLine raw c.word (Text.trim c.value)) := rfl
    rw [hafter.dropWhile.below_iff, hopen, endsOpen_editLine_iff hisWord, ← hbelow,
      eq_comm (a := (c.line raw).kind)]
    rw [Change.line, newline_mem_editLine_iff hblank hraw,
      lineKind_editLine_iff hisWord hsign hlower]
    exact ⟨fun ⟨hnewline, hheader, hclosed⟩ => ⟨hword, hnewline, hheader, hclosed⟩,
      fun hfits => ⟨hfits.newline, hfits.header, hfits.closed⟩⟩

/-- A change leaves a document in step just if it fits the line that it finds. -/
theorem inStep_change_iff (h : d.InStep) (c : Change) : (d.change c).InStep ↔ d.Accepts c := by
  cases hpos : d.findKey (Text.trim c.parent) c.word with
  | none =>
    have hchange : d.change c = d := by
      simp only [Change.word] at hpos
      simp [change, setValue?, hpos]
    simp [hchange, h, Accepts, hpos]
  | some pos =>
    obtain ⟨before, e, after, hd, rfl, hheld⟩ := exists_of_findKey hpos
    have hchange : d.change c =
        before ++ c.line e.raw :: after.dropWhile (·.kind = .continuation) := by
      rw [change, setValue?_of_findKey hd hpos]
      rfl
    have haccepts : d.Accepts c ↔ d.Fits c before.length := by simp [Accepts, hpos]
    obtain ⟨-, hlines, hread⟩ := inStep_iff.mp h
    rw [hd] at hlines hread
    obtain ⟨hbefore, hfound⟩ := readFrom_append.mp hread
    have hcontinues := hfound.of_holdsKey hheld
    rw [hcontinues] at hfound
    have hleft : ∀ e' ∈ after.dropWhile (·.kind = .continuation), '\n' ∉ e'.raw := by
      intro e' he'
      have hmem := (List.dropWhile_suffix _).subset he'
      exact hlines e' (by simp [hmem])
    have hline := readFrom_line_iff hfound hheld (hlines e (by simp)) hd
    rw [hchange, haccepts, ← hline, inStep_iff, readFrom_append, hcontinues]
    constructor
    · rintro ⟨-, hnew, -, hread'⟩
      exact ⟨hnew _ (by simp), hread'⟩
    · rintro ⟨hnew, hread'⟩
      refine ⟨by simp, ?_, hbefore, hread'⟩
      intro e' he'
      rcases List.mem_append.mp he' with he' | he'
      · exact hlines e' (List.mem_append_left _ he')
      · rcases List.mem_cons.mp he' with rfl | he'
        · exact hnew
        · exact hleft e' he'

/-! ## One change after the other -/

/-- The last change is made after the other ones. -/
theorem changeAll_concat (d : Document) (cs : List Change) (c : Change) :
    d.changeAll (cs ++ [c]) = (d.changeAll cs).change c := by
  simp [changeAll]

/-- Writing a change of a document in step is changing its text. -/
theorem render_change (h : d.InStep) (c : Change) :
    (d.change c).render = changeText d.render c := by
  have hread : ofText d.render = d := h
  simp only [changeText, updateText, hread]
  cases hset : d.setValue? c.parent c.key c.value <;> simp [change, hset]

/-- A document that stays in step may as well be written and read again after every change. -/
theorem render_changeAll {cs : List Change}
    (h : ∀ done, done <+: cs → (d.changeAll done).InStep) :
    (d.changeAll cs).render = cs.foldl changeText d.render := by
  induction cs using List.reverseRecOn with
  | nil => rfl
  | append_singleton cs c ih =>
    have hbefore : ∀ done, done <+: cs → (d.changeAll done).InStep :=
      fun done hdone => h done (hdone.trans (List.prefix_append cs [c]))
    rw [changeAll_concat, render_change (hbefore cs (List.prefix_refl cs)), ih hbefore,
      List.foldl_append]
    rfl

/-- A document that has been read stays in step with its text just as long as the changes fit, and
as long as it does, it gives the text that comes of changing the file and reading it again each
time. -/
theorem inStep_changeAll_iff (t : Text) (cs : List Change) :
    ((∀ done, done <+: cs → ((ofText t).changeAll done).InStep) ↔
      ∀ done c, done ++ [c] <+: cs → ((ofText t).changeAll done).Accepts c) ∧
    ((∀ done, done <+: cs → ((ofText t).changeAll done).InStep) →
      ((ofText t).changeAll cs).render = cs.foldl changeText t) := by
  refine ⟨⟨?_, ?_⟩, ?_⟩
  · intro h done c hdone
    have hnext := h (done ++ [c]) hdone
    rw [changeAll_concat] at hnext
    exact (inStep_change_iff (h done ((List.prefix_append done [c]).trans hdone)) c).mp hnext
  · intro h done hdone
    induction done using List.reverseRecOn with
    | nil => exact inStep_ofText t
    | append_singleton done c ih =>
      rw [changeAll_concat]
      exact (inStep_change_iff (ih ((List.prefix_append done [c]).trans hdone)) c).mpr
        (h done c hdone)
  · intro h
    rw [render_changeAll h, render_ofText]

/-- A host name on a line that goes on, and the port below it. -/
def foldedHost : Text := "Site\nhostname a \\\nc\nportno 80".toList

/-- Another host name, and another port. -/
def closedChanges : List Change :=
  [⟨"Site".toList, "hostname".toList, "b".toList⟩, ⟨"Site".toList, "portno".toList, "90".toList⟩]

/-- Both changes fit, and the port is found in the file as it is in memory. -/
theorem inStep_changeAll_foldedHost :
    (∀ done c, done ++ [c] <+: closedChanges → ((ofText foldedHost).changeAll done).Accepts c) ∧
      closedChanges.foldl changeText foldedHost = "Site\nhostname b\nportno 90".toList := by
  have hinits : ∀ done ∈ closedChanges.inits, ((ofText foldedHost).changeAll done).InStep := by
    decide +kernel
  have hstays : ∀ done, done <+: closedChanges → ((ofText foldedHost).changeAll done).InStep :=
    fun done hdone => hinits done ((List.mem_inits done closedChanges).mpr hdone)
  obtain ⟨hfits, hrender⟩ := inStep_changeAll_iff foldedHost closedChanges
  refine ⟨hfits.mp hstays, (hrender hstays).symm.trans ?_⟩
  decide +kernel

/-- A host name that ends in a backslash, and then a port. -/
def openingChanges : List Change :=
  [⟨"Site".toList, "hostname".toList, "b\\".toList⟩, ⟨"Site".toList, "portno".toList, "90".toList⟩]

/-- A value that ends in a backslash takes in the next line, but the document keeps that line as a
key of its own, and finds it there for a change that does not find it in the file. -/
theorem not_inStep_changeAll :
    ¬ ∀ (t : Text) (cs : List Change), ((ofText t).changeAll cs).InStep ∧
      ((ofText t).changeAll cs).render = cs.foldl changeText t := by
  intro h
  have hrender := (h "Site\nhostname a\nportno 80".toList openingChanges).2
  have hdocument : ((ofText "Site\nhostname a\nportno 80".toList).changeAll openingChanges).render =
      "Site\nhostname b\\\nportno 90".toList := by decide +kernel
  have hfile : openingChanges.foldl changeText "Site\nhostname a\nportno 80".toList =
      "Site\nhostname b\\\nportno 80".toList := by decide +kernel
  rw [hdocument, hfile] at hrender
  revert hrender
  decide

end Document

end SiteGate.Config
