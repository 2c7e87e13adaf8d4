import Mathlib.Data.List.Nodup
import SiteGate.Proofs.Config.Assignment
import SiteGate.Proofs.Config.Layout
import SiteGate.Proofs.Text.Utf8

/-!
# Updates in any order

A file is updated many times, each time from what it holds then (`updateFiles`). Between two
updates it is written, read and taken apart again; its pieces are those that the assignments leave
(`ofText_textAfter`), and a text that has been written is read as it was (`Text.decode_encode`).
So what is known of assignments in any order holds of the updates of a file: the content, the
answers and the lines that are found at the end do not depend on the order (`updateFiles_perm`).

A file that cannot be replaced fails in the same way whatever the update is, and is left as it is
(`updateFile_cases`).
-/

set_option autoImplicit false

namespace SiteGate.Config

/-- Makes changes in the file at `path` one after the other. Gives what each of them answers, and
the tree after them. -/
def updateFiles (t : Tree) (path swap : Path) :
    List Change → List (Except FileFailure Bool) × Tree
  | [] => ([], t)
  | c :: cs =>
    let (answer, t') := updateFile t path swap c.parent c.key c.value
    let (answers, last) := updateFiles t' path swap cs
    (answer :: answers, last)

/-- The line that a change finds. -/
def Document.lineOf? (d : Document) (c : Change) : Option Text :=
  (d.findKey (Text.trim c.parent) c.word).bind fun pos => d[pos]?.map Entry.raw

section

variable {t : Tree} {path swap : Path}

/-- Either no update of the file can be made, for one and the same reason, or all can. -/
theorem updateFile_cases (t : Tree) (path swap : Path) :
    (∃ f, ∀ c : Change, updateFile t path swap c.parent c.key c.value = (.error f, t)) ∨
    ∃ old written, t.contentAt path = .ok old ∧ t.write swap [] = .ok written := by
  cases hold : t.contentAt path with
  | error f => exact .inl ⟨f, fun c => by simp [updateFile, hold]⟩
  | ok old =>
    rcases t.write_cases swap with ⟨e, hfails⟩ | ⟨place, -, hwrites⟩
    · refine .inl ⟨⟨swap, e⟩, fun c => ?_⟩
      simp [updateFile, hold, Tree.replace, Tree.storeAt, hfails]
    · exact .inr ⟨old, _, rfl, (hwrites []).1⟩

/-- Where the file can be read and the swap file be written, an update changes the text, and the
swap file can be written again. -/
theorem updateFile_of_write {old sample : Bytes} {written : Tree}
    (hold : t.contentAt path = .ok old) (hwrite : t.write swap sample = .ok written) (c : Change) :
    ∃ t', updateFile t path swap c.parent c.key c.value =
        (.ok (updateText (Text.decode old) c.parent c.key c.value).1, t') ∧
      t'.contentAt path = .ok (Text.encode (changeText (Text.decode old) c)) ∧
      ∃ written, t'.write swap sample = .ok written := by
  obtain ⟨t', hreplace, hread, hwrite'⟩ := Tree.exists_replaced (contentAt_eq_ok_iff.mp hold) hwrite
    (Text.encode (changeText (Text.decode old) c))
  refine ⟨t', ?_, contentAt_eq_ok_iff.mpr hread, hwrite' sample⟩
  rw [changeText] at hreplace
  simp [updateFile, hold, hreplace]

end

namespace Assignment

/-! ## Pieces -/

/-- The pieces after assignments one after the other. -/
def putAll (ps : List Piece) (as : List Assignment) : List Piece :=
  as.foldl (fun ps a => a.put ps) ps

variable {a b : Assignment} {as bs : List Assignment} {ps : List Piece}

/-- Assignments do not move the piece that another one finds. -/
theorem place?_putAll (a : Assignment) (as : List Assignment) (ps : List Piece) :
    a.place? (putAll ps as) = a.place? ps := by
  induction as generalizing ps with
  | nil => rfl
  | cons b as ih => exact (ih (b.put ps)).trans (place?_put b a ps)

/-- Distinct settings may be given their values in any order. -/
theorem putAll_perm (hdistinct : (as.map setting).Nodup) (hperm : as.Perm bs) (ps : List Piece) :
    putAll ps bs = putAll ps as := by
  refine (hperm.foldl_eq' (fun a ha b hb ps => ?_) ps).symm
  by_cases hsame : a.setting = b.setting
  · rw [List.inj_on_of_nodup_map hdistinct ha hb hsame]
  · exact put_comm hsame ps

/-- An assignment leaves what others find. -/
theorem getElem?_putAll (hothers : ∀ b ∈ as, a.setting ≠ b.setting) {i : Nat}
    (hplace : a.place? ps = some i) : (putAll ps as)[i]? = ps[i]? := by
  induction as generalizing ps with
  | nil => rfl
  | cons b as ih =>
    have hkept : (b.put ps)[i]? = ps[i]? := by
      unfold Change.put
      cases hother : b.place? ps with
      | none => rfl
      | some j =>
        exact List.getElem?_modify_ne _ _ (place?_ne (hothers b (by simp)).symm hother hplace)
    have hplace' : a.place? (b.put ps) = some i := by rw [place?_put, hplace]
    exact (ih (fun c hc => hothers c (by simp [hc])) hplace').trans hkept

/-- The line that is found is the first one of the piece at the place. -/
theorem lineOf?_flatMap_entries (c : Change) (ps : List Piece) :
    Document.lineOf? (ps.flatMap Piece.entries) c =
      (c.place? ps).bind fun i => ps[i]?.map Piece.raw := by
  have hkey := Document.findKey_flatMap_entries ps (Text.trim c.parent) c.word
  rw [← Change.place?] at hkey
  rw [Document.lineOf?, hkey]
  cases hplace : c.place? ps with
  | none => rfl
  | some i =>
    obtain ⟨above, p, below, rfl, rfl, -, -⟩ := Change.exists_of_place? hplace
    simp [Document.linesBefore, Piece.entries]

/-- A change finds a line just if it finds a piece. -/
theorem isSome_lineOf? (c : Change) (ps : List Piece) :
    (Document.lineOf? (ps.flatMap Piece.entries) c).isSome = (c.place? ps).isSome := by
  rw [lineOf?_flatMap_entries]
  cases hplace : c.place? ps with
  | none => rfl
  | some i =>
    obtain ⟨above, p, below, rfl, rfl, -, -⟩ := Change.exists_of_place? hplace
    simp

/-- After all assignments each has its line, in the layout of the one that it has found first. -/
theorem lineOf?_putAll (hdistinct : (as.map setting).Nodup) (ha : a ∈ as) (ps : List Piece) :
    Document.lineOf? ((putAll ps as).flatMap Piece.entries) a.toChange =
      (Document.lineOf? (ps.flatMap Piece.entries) a.toChange).map fun raw => (a.line raw).raw := by
  obtain ⟨before, after, rfl⟩ := List.append_of_mem ha
  have hperm : (before ++ a :: after).Perm (a :: (before ++ after)) := List.perm_middle
  have hfirst := (hperm.map setting).nodup_iff.mp hdistinct
  have hothers : ∀ b ∈ before ++ after, a.setting ≠ b.setting := by
    intro b hb heq
    apply (List.nodup_cons.mp hfirst).1
    rw [heq]
    exact List.mem_map_of_mem hb
  -- The assignment may as well come first; the others leave its piece alone then.
  rw [lineOf?_flatMap_entries, lineOf?_flatMap_entries, place?_putAll,
    ← putAll_perm hdistinct hperm]
  cases hplace : a.place? ps with
  | none => rfl
  | some i =>
    have hplace' : a.place? (a.put ps) = some i := by rw [place?_put, hplace]
    have hput : (a.put ps)[i]? = ps[i]?.map a.piece := by
      unfold Change.put
      rw [hplace]
      exact List.getElem?_modify_eq _ _ _
    have hafter : (putAll ps (a :: (before ++ after)))[i]? = ps[i]?.map a.piece :=
      (getElem?_putAll hothers hplace').trans hput
    simp only [Option.bind_some]
    rw [hafter, Option.map_map, Option.map_map]
    rfl

/-! ## Texts -/

/-- The text after assignments one after the other. -/
def textAfter (t : Text) (as : List Assignment) : Text :=
  as.foldl (fun t a => changeText t a.toChange) t

/-- A text is taken apart into what the assignments have left of its pieces. -/
theorem ofText_textAfter {t : Text} (h : Document.ofText t = ps.flatMap Piece.entries)
    (as : List Assignment) :
    Document.ofText (textAfter t as) = (putAll ps as).flatMap Piece.entries := by
  induction as generalizing t ps with
  | nil => exact h
  | cons a as ih => exact ih (a.ofText_changeText_of_pieces h)

/-! ## Files -/

variable {t : Tree} {path swap : Path}

/-- The content of a file after assignments one after the other. -/
def contentAfter (old : Bytes) (as : List Assignment) : Bytes :=
  if as.isEmpty then old else Text.encode (textAfter (Text.decode old) as)

/-- The content after assignments is the text after them. -/
theorem decode_contentAfter (old : Bytes) (as : List Assignment) :
    Text.decode (contentAfter old as) = textAfter (Text.decode old) as := by
  cases as with
  | nil => rfl
  | cons a as => exact Text.decode_encode _

/-- The content after assignments to different settings does not depend on their order. -/
theorem contentAfter_perm (hdistinct : (as.map setting).Nodup) (hperm : as.Perm bs)
    (old : Bytes) : contentAfter old bs = contentAfter old as := by
  obtain ⟨ps, hps⟩ := Document.exists_entries ((Text.decode old).splitOn '\n')
  have hofText := ofText_textAfter hps bs
  rw [putAll_perm hdistinct hperm, ← ofText_textAfter hps as] at hofText
  rw [contentAfter, contentAfter, Document.ofText_injective hofText, hperm.isEmpty_eq]

/-- Where one update can be made all can, and what each answers depends on whether its setting has a
piece. -/
theorem updateFiles_of_write {old sample : Bytes} {written : Tree}
    (hold : t.contentAt path = .ok old) (hwrite : t.write swap sample = .ok written)
    (hps : Document.ofText (Text.decode old) = ps.flatMap Piece.entries) (as : List Assignment) :
    (updateFiles t path swap (as.map toChange)).1 = as.map (fun a => .ok (a.place? ps).isSome) ∧
      (updateFiles t path swap (as.map toChange)).2.contentAt path =
        .ok (contentAfter old as) := by
  induction as generalizing t old ps written with
  | nil => exact ⟨rfl, hold⟩
  | cons a as ih =>
    obtain ⟨t', hupdate, hold', written', hwrite'⟩ := updateFile_of_write hold hwrite a.toChange
    rw [updateText_fst hps] at hupdate
    -- The next update reads the bytes that this one has written, and finds the same pieces in them.
    have hps' := a.ofText_changeText_of_pieces hps
    rw [← Text.decode_encode (changeText (Text.decode old) a.toChange)] at hps'
    obtain ⟨hanswers, hcontent⟩ := ih hold' hwrite' hps'
    simp only [place?_put] at hanswers
    simp only [List.map_cons, updateFiles, hupdate]
    refine ⟨by rw [hanswers], ?_⟩
    rw [hcontent]
    cases as with
    | nil => rfl
    | cons b as => simp [contentAfter, textAfter, Text.decode_encode]

/-- Where no update can be made all fail for one reason, and the tree stays as it is. -/
theorem updateFiles_of_error {f : FileFailure}
    (hfails : ∀ c : Change, updateFile t path swap c.parent c.key c.value = (.error f, t))
    (cs : List Change) :
    (updateFiles t path swap cs).1 = cs.map (fun _ => .error f) ∧
      (updateFiles t path swap cs).2 = t := by
  induction cs with
  | nil => exact ⟨rfl, rfl⟩
  | cons c cs ih => simp [updateFiles, hfails, ih]

end Assignment

/-- Updates that give distinct settings their values may be made in any order. The file holds the
same in the end, each update answers what it would answer alone, and the line of each that finds
one is in the file as it has been rewritten. -/
theorem updateFiles_perm (t : Tree) (path swap : Path) {as bs : List Assignment}
    (hdistinct : (as.map Assignment.setting).Nodup) (hperm : as.Perm bs) :
    (updateFiles t path swap (bs.map Assignment.toChange)).2.contentAt path =
        (updateFiles t path swap (as.map Assignment.toChange)).2.contentAt path ∧
      (updateFiles t path swap (bs.map Assignment.toChange)).1 =
        bs.map (fun b => (updateFile t path swap b.parent b.key b.value).1) ∧
      ∀ a ∈ as, (updateFile t path swap a.parent a.key a.value).1 = .ok true →
        ∃ old new raw, t.contentAt path = .ok old ∧
          (updateFiles t path swap (bs.map Assignment.toChange)).2.contentAt path = .ok new ∧
          (Document.ofText (Text.decode old)).lineOf? a.toChange = some raw ∧
          (Document.ofText (Text.decode new)).lineOf? a.toChange =
            some (Document.editLine raw a.setting.name (Text.trim a.value)) := by
  rcases updateFile_cases t path swap with ⟨f, hfails⟩ | ⟨old, written, hold, hwrite⟩
  · obtain ⟨has, hsame⟩ := Assignment.updateFiles_of_error hfails (as.map Assignment.toChange)
    obtain ⟨hbs, hsame'⟩ := Assignment.updateFiles_of_error hfails (bs.map Assignment.toChange)
    refine ⟨by rw [hsame, hsame'], ?_, ?_⟩
    · rw [hbs, List.map_map]
      exact List.map_congr_left fun b _ => by simp [hfails b.toChange]
    · intro a _ hfound
      rw [hfails a.toChange] at hfound
      cases hfound
  · obtain ⟨ps, hps⟩ := Document.exists_entries ((Text.decode old).splitOn '\n')
    have hruns := Assignment.updateFiles_of_write hold hwrite hps
    have halone : ∀ a : Assignment, (updateFile t path swap a.parent a.key a.value).1 =
        .ok (a.place? ps).isSome := by
      intro a
      obtain ⟨t', hupdate, -⟩ := updateFile_of_write hold hwrite a.toChange
      rw [hupdate, Assignment.updateText_fst hps]
    have hdistinct' := (hperm.map Assignment.setting).nodup_iff.mp hdistinct
    have hread : ∀ cs : List Assignment, Document.ofText (Text.decode
        (Assignment.contentAfter old cs)) = (Assignment.putAll ps cs).flatMap Piece.entries := by
      intro cs
      rw [Assignment.decode_contentAfter]
      exact Assignment.ofText_textAfter hps cs
    refine ⟨?_, ?_, ?_⟩
    · rw [(hruns bs).2, (hruns as).2, Assignment.contentAfter_perm hdistinct hperm]
    · rw [(hruns bs).1]
      exact List.map_congr_left fun b _ => (halone b).symm
    · intro a ha hfound
      rw [halone, Except.ok.injEq, ← Assignment.isSome_lineOf?, ← hps] at hfound
      obtain ⟨raw, hraw⟩ := Option.isSome_iff_exists.mp hfound
      refine ⟨old, _, raw, hold, (hruns bs).2, hraw, ?_⟩
      rw [hread, Assignment.lineOf?_putAll hdistinct' (hperm.mem_iff.mp ha), ← hps, hraw,
        ← a.word_eq]
      rfl

/-- A tree with a configuration in which two sections have a key of one name, and a line goes on. -/
def portsTree : Tree :=
  Tree.empty.put [".all".toList] (.file (Text.encode
    "maintenance-window off\nSite\nhostname a \\\nb\n portno  80\nAdmin\nportno 81".toList))

/-- The two ports, the host name, the directive, and a key that the configuration does not have. -/
def portsAssignments : List Assignment :=
  [⟨⟨"Admin".toList, "portno".toList, "91".toList⟩, .key .adminPort,
      ⟨by decide, .admin, by decide, by decide⟩, ⟨by decide, by decide⟩⟩,
    ⟨⟨"Site".toList, "portno".toList, "90".toList⟩, .key .sitePort,
      ⟨by decide, .site, by decide, by decide⟩, ⟨by decide, by decide⟩⟩,
    ⟨⟨"Site".toList, "hostname".toList, "c".toList⟩, .key .hostname,
      ⟨by decide, .site, by decide, by decide⟩, ⟨by decide, by decide⟩⟩,
    ⟨⟨[], "maintenance-window".toList, "on".toList⟩, .directive .maintenanceWindow,
      ⟨by decide, by decide⟩, ⟨by decide, by decide⟩⟩,
    ⟨⟨"Site".toList, "proto".toList, "https".toList⟩, .key .proto,
      ⟨by decide, .site, by decide, by decide⟩, ⟨by decide, by decide⟩⟩]

/-- The ports are told apart in either order, and the last answer is that there is no such line. -/
theorem updateFiles_perm_portsTree :
    (portsAssignments.map Assignment.setting).Nodup ∧
      portsAssignments.Perm portsAssignments.reverse ∧
      (updateFiles portsTree ".all".toList ".swap".toList
          (portsAssignments.reverse.map Assignment.toChange)).2.contentAt ".all".toList =
        .ok (Text.encode
          "maintenance-window on\nSite\nhostname c\n portno  90\nAdmin\nportno 91".toList) ∧
      (updateFiles portsTree ".all".toList ".swap".toList
          (portsAssignments.reverse.map Assignment.toChange)).1 =
        [.ok false, .ok true, .ok true, .ok true, .ok true] := by
  have hdistinct : (portsAssignments.map Assignment.setting).Nodup := by decide
  have hperm := portsAssignments.reverse_perm.symm
  obtain ⟨hcontent, hanswers, -⟩ :=
    updateFiles_perm portsTree ".all".toList ".swap".toList hdistinct hperm
  refine ⟨hdistinct, hperm, hcontent.trans ?_, hanswers.trans ?_⟩ <;> decide +kernel

end SiteGate.Config
