import SiteGate.Config.Snapshot.Parser
import SiteGate.Proofs.Config.Owners

/-!
# The loops of the reader are one pass

The three loops of the reader hand indices on to one another, and the loop of a section looks back
at the header before it takes a line. A reader that goes through the lines once comes to the same
snapshot: all that it has to remember between two lines is the section that owns the next one
(`readFrom_eq_foldl`). The look back only tells whether the header was the section's bare name
(`ownedBy_of_header`), and a line that a loop gives back is one that its section does not take.
-/

set_option autoImplicit false

namespace SiteGate.Config

/-- What is known between two lines: the section that owns the next line, if one does, and what
has been read so far. -/
@[ext]
structure ReadState where
  owner : Option Section
  snapshot : Snapshot

namespace ReadState

/-- The state before the first line. -/
def start : ReadState := ⟨none, .empty⟩

/-- Reads a line that no section owns. -/
def readFree (st : ReadState) (line : Text) : ReadState :=
  let lowered := Text.lower line
  match Directive.ofLine? lowered with
  | some d => ⟨none, st.snapshot.setDirective d (splitKeyValue line).2⟩
  | none =>
    match Section.ofHeader? line with
    | some .data => ⟨if (Section.ofBareLine? line).isSome then some .data else none, st.snapshot⟩
    | some s => ⟨if lowered = s.name then some s else none, st.snapshot⟩
    | none => ⟨none, st.snapshot⟩

/-- Reads a line. -/
def read (st : ReadState) (line : Text) : ReadState :=
  if isSkippable line then st
  else
    match st.owner with
    | none => st.readFree line
    | some .data =>
      if (Section.ofBareLine? line).isSome then st.readFree line
      else
        let (key, value) := splitKeyValue line
        ⟨some .data, st.snapshot.setData key value⟩
    | some s =>
      match s.matchKey? (Text.lower line) with
      | some key => ⟨some s, st.snapshot.setKey key (splitKeyValue line).2⟩
      | none => st.readFree line

/-- A line that is passed over changes nothing. -/
theorem read_of_isSkippable (st : ReadState) {line : Text} (h : isSkippable line = true) :
    st.read line = st := by
  simp [read, h]

/-- A line that no section owns is read on its own. -/
theorem read_free (snapshot : Snapshot) {line : Text} (h : isSkippable line = false) :
    read ⟨none, snapshot⟩ line = readFree ⟨none, snapshot⟩ line := by
  simp [read, h]

/-- A section takes the lines that match one of its keys. -/
theorem read_key (snapshot : Snapshot) {s : Section} {line : Text} {k : Key}
    (h : s.matchKey? (Text.lower line) = some k) :
    read ⟨some s, snapshot⟩ line = ⟨some s, snapshot.setKey k (splitKeyValue line).2⟩ := by
  obtain ⟨hmem, hheld⟩ := Section.matchKey?_eq_some_iff.mp h
  have hs := Section.ne_data_of_mem_keys hmem
  have hskip := Setting.isSkippable_of_heldBy hheld
  cases s <;> first | exact absurd rfl hs | simp [read, hskip, h]

/-- A line that matches none of a section's keys is read on its own. -/
theorem read_foreign (snapshot : Snapshot) {s : Section} (hs : s ≠ .data) {line : Text}
    (hskip : isSkippable line = false) (hkey : s.matchKey? (Text.lower line) = none) :
    read ⟨some s, snapshot⟩ line = read ⟨none, snapshot⟩ line := by
  cases s <;> first | exact absurd rfl hs | simp [read, hskip, hkey, readFree]

/-- Below its header the free data take every line that is no header. -/
theorem read_entry (snapshot : Snapshot) {line : Text} (hskip : isSkippable line = false)
    (hbare : Section.ofBareLine? line = none) :
    read ⟨some .data, snapshot⟩ line =
      ⟨some .data, snapshot.setData (splitKeyValue line).1 (splitKeyValue line).2⟩ := by
  simp [read, hskip, hbare]

/-- The free data end at a header, which is read on its own. -/
theorem read_header (snapshot : Snapshot) {line : Text}
    (hbare : (Section.ofBareLine? line).isSome = true) :
    read ⟨some .data, snapshot⟩ line = read ⟨none, snapshot⟩ line := by
  obtain ⟨s, hs⟩ := Option.isSome_iff_exists.mp hbare
  have hskip := isSkippable_of_ofBareLine? hs
  simp [read, hskip, hbare, readFree]

end ReadState

/-! ## Runs of lines -/

/-- Reading the lines from one index up to another in one pass leads from one state to another. -/
structure Reads (lines : Array Text) (i : Nat) (st : ReadState) (j : Nat) (st' : ReadState) :
    Prop where
  onward : i ≤ j
  within : j ≤ lines.size
  reads : (lines.toList.extract i j).foldl ReadState.read st = st'

namespace Reads

variable {lines : Array Text} {i j k : Nat} {st st' st'' : ReadState}

/-- No lines are read between an index and itself. -/
theorem refl (h : i ≤ lines.size) (st : ReadState) : Reads lines i st i st :=
  ⟨Nat.le_refl i, h, by simp⟩

/-- One line is read between an index and the next one. -/
theorem step (h : i < lines.size) (st : ReadState) :
    Reads lines i st (i + 1) (st.read lines[i]) := by
  refine ⟨Nat.le_succ i, h, ?_⟩
  have hone : lines.toList.extract i (i + 1) = [lines[i]] := by
    rw [List.extract_eq_take_drop, Nat.add_sub_cancel_left,
      List.drop_eq_getElem_cons (by simpa using h)]
    rfl
  rw [hone]
  rfl

/-- What is read up to an index, and then from there on, is read in one run. -/
theorem trans (h : Reads lines i st j st') (h' : Reads lines j st' k st'') :
    Reads lines i st k st'' := by
  refine ⟨h.onward.trans h'.onward, h'.within, ?_⟩
  have hsplit : lines.toList.extract i k =
      lines.toList.extract i j ++ lines.toList.extract j k := by
    obtain ⟨n, rfl⟩ := Nat.exists_eq_add_of_le h.onward
    obtain ⟨m, rfl⟩ := Nat.exists_eq_add_of_le h'.onward
    rw [List.extract_eq_take_drop, List.extract_eq_take_drop, List.extract_eq_take_drop,
      Nat.add_sub_cancel_left, Nat.add_sub_cancel_left, Nat.add_assoc, Nat.add_sub_cancel_left,
      List.take_add, List.drop_drop]
  rw [hsplit, List.foldl_append, h.reads, h'.reads]

/-- The lines from an index on are read by reading a run of them and then the others. -/
theorem foldl_drop (h : Reads lines i st j st') :
    (lines.toList.drop i).foldl ReadState.read st =
      (lines.toList.drop j).foldl ReadState.read st' := by
  have hsplit : lines.toList.drop i = lines.toList.extract i j ++ lines.toList.drop j := by
    obtain ⟨n, rfl⟩ := Nat.exists_eq_add_of_le h.onward
    rw [List.extract_eq_take_drop, Nat.add_sub_cancel_left, ← List.drop_drop,
      List.take_append_drop]
  rw [hsplit, List.foldl_append, h.reads]

end Reads

/-! ## The loop of a section -/

namespace Parser

/-- The lines up to the first one that is not passed over are passed over. -/
theorem skipFrom_cases (lines : Array Text) (i : Nat) (hi : i ≤ lines.size) (st : ReadState) :
    Reads lines i st (skipFrom lines i) st ∧
      (∀ x (hx : x < lines.size), i ≤ x → x < skipFrom lines i → isSkippable lines[x] = true) ∧
      ∀ h : skipFrom lines i < lines.size, isSkippable lines[skipFrom lines i] = false := by
  fun_induction skipFrom lines i with
  | case1 i h hskip ih =>
    obtain ⟨hreads, hbelow, hnext⟩ := ih (by omega)
    have hstep := Reads.step h st
    rw [ReadState.read_of_isSkippable st hskip] at hstep
    refine ⟨hstep.trans hreads, fun x hx hix hlt => ?_, hnext⟩
    rcases Nat.lt_or_eq_of_le hix with hix | rfl
    · exact hbelow x hx hix hlt
    · exact hskip
  | case2 i h hskip => exact ⟨.refl hi st, fun x hx hix hlt => by omega, fun _ => by simpa using hskip⟩
  | case3 i h => exact ⟨.refl hi st, fun x hx hix hlt => by omega, fun h' => absurd h' h⟩

/-- The look back finds what owning says: the first line above past which the section does not go on
is its bare name. -/
theorem ownedBy_eq_owns (lines : Array Text) (s : Section) (i : Nat) (h : i ≤ lines.size) :
    ownedBy lines s i h = s.owns (lines.toList.take i).reverse := by
  induction i with
  | zero => rfl
  | succ i ih =>
    have habove : (lines.toList.take (i + 1)).reverse =
        lines[i] :: (lines.toList.take i).reverse := by
      rw [List.take_succ_eq_append_getElem (Nat.lt_of_succ_le h)]
      simp
    rw [habove, ownedBy, ih]
    by_cases hpass : s.passes lines[i] = true
    · have hstep := hpass
      simp only [Section.passes] at hstep
      rw [if_pos hstep]
      simp [Section.owns, hpass]
    · have hstop := hpass
      simp only [Section.passes] at hstop
      rw [if_neg hstop]
      simp [Section.owns, hpass]

/-- Below a header the look back past lines of the section's own comes to the header: it finds the
section's bare name, or it does not. -/
theorem ownedBy_of_header {lines : Array Text} {s : Section} {p i : Nat} (hp : p < lines.size)
    (hhead : Section.ofHeader? lines[p] = some s) (hskip : isSkippable lines[p] = false)
    (hpi : p < i) (hi : i ≤ lines.size)
    (hpass : ∀ x (hx : x < lines.size), p < x → x < i → s.passes lines[x] = true) :
    ownedBy lines s i hi = decide (Text.lower lines[p] = s.name) := by
  have hkey := Section.matchKey?_of_ofHeader? (s := s) hhead
  induction i with
  | zero => omega
  | succ i ih =>
    rw [ownedBy]
    rcases Nat.lt_or_eq_of_le (Nat.le_of_lt_succ hpi) with hpi | rfl
    · have hline := hpass i hi hpi (Nat.lt_succ_self i)
      simp only [Section.passes] at hline
      rw [if_pos hline, ih hpi (by omega) fun x hx hpx hxi => hpass x hx hpx (by omega)]
    · simp [hskip, hkey]

/-- Below its bare name, past lines of its own, a section takes one run of lines, and gives back the
first line that matches none of its keys. -/
theorem reads_readSection {lines : Array Text} {s : Section} {p i : Nat}
    (hp : p < lines.size) (hname : Text.lower lines[p] = s.name) (hpi : p < i)
    (hi : i ≤ lines.size)
    (hpass : ∀ x (hx : x < lines.size), p < x → x < i → s.passes lines[x] = true)
    (snapshot : Snapshot) :
    Reads lines i ⟨some s, snapshot⟩ (readSection lines s i snapshot).1
        ⟨some s, (readSection lines s i snapshot).2⟩ ∧
      ∀ h : (readSection lines s i snapshot).1 < lines.size,
        isSkippable lines[(readSection lines s i snapshot).1] = false ∧
          s.matchKey? (Text.lower lines[(readSection lines s i snapshot).1]) = none := by
  have hbare := Section.ofBareLine?_of_lower_eq hname
  have hskip := isSkippable_of_ofBareLine? hbare
  fun_induction readSection lines s i snapshot with
  | case1 i snapshot hlt line key hkey howned ih =>
    obtain ⟨hreads, hbelow, -⟩ := skipFrom_cases lines i hi ⟨some s, snapshot⟩
    have hstep := Reads.step hlt ⟨some s, snapshot⟩
    rw [ReadState.read_key snapshot hkey] at hstep
    have hpass' : ∀ x (hx : x < lines.size), p < x → x < skipFrom lines i + 1 →
        s.passes lines[x] = true := by
      intro x hx hpx hxi
      rcases Nat.lt_or_ge x i with hlt | hge
      · exact hpass x hx hpx hlt
      · rcases Nat.lt_or_eq_of_le (Nat.le_of_lt_succ hxi) with hlt | rfl
        · simp [Section.passes, hbelow x hx hge hlt]
        · simp [Section.passes, show s.matchKey? (Text.lower lines[skipFrom lines i]) = _ from hkey]
    obtain ⟨hrest, hend⟩ := ih (by have := hreads.onward; omega) hlt hpass'
    exact ⟨(hreads.trans hstep).trans hrest, hend⟩
  | case2 i snapshot hlt line key hkey howned =>
    obtain ⟨hreads, hbelow, -⟩ := skipFrom_cases lines i hi ⟨some s, snapshot⟩
    refine absurd ?_ howned
    rw [ownedBy_of_header hp (Section.ofHeader?_of_ofBareLine? hbare) hskip
      (by have := hreads.onward; omega)]
    · simpa using hname
    · intro x hx hpx hxi
      rcases Nat.lt_or_ge x i with hlt | hge
      · exact hpass x hx hpx hlt
      · simp [Section.passes, hbelow x hx hge hxi]
  | case3 i snapshot hlt line hkey =>
    obtain ⟨hreads, -, hnext⟩ := skipFrom_cases lines i hi ⟨some s, snapshot⟩
    exact ⟨hreads, fun h => ⟨hnext h, hkey⟩⟩
  | case4 i snapshot hge =>
    obtain ⟨hreads, -, -⟩ := skipFrom_cases lines i hi ⟨some s, snapshot⟩
    exact ⟨hreads, fun h => absurd h hge⟩

/-- Below a header with more words a section takes nothing. -/
theorem readSection_of_header {lines : Array Text} {s : Section} {p : Nat} (hp : p < lines.size)
    (hhead : Section.ofHeader? lines[p] = some s) (hskip : isSkippable lines[p] = false)
    (hname : Text.lower lines[p] ≠ s.name) (snapshot : Snapshot) :
    readSection lines s (p + 1) snapshot = (skipFrom lines (p + 1), snapshot) := by
  obtain ⟨hreads, hbelow, -⟩ := skipFrom_cases lines (p + 1) hp ⟨none, snapshot⟩
  unfold readSection
  by_cases hlt : skipFrom lines (p + 1) < lines.size
  · rw [dif_pos hlt]
    have howned := ownedBy_of_header hp hhead hskip hreads.onward (Nat.le_of_lt hlt)
      fun x hx hpx hxi => by simp [Section.passes, hbelow x hx hpx hxi]
    dsimp only
    split
    · simp [howned, hname]
    · rfl
  · rw [dif_neg hlt]

/-- The free data take one run of lines, and give back the next header. -/
theorem reads_readData (lines : Array Text) (i : Nat) (hi : i ≤ lines.size) (snapshot : Snapshot) :
    Reads lines i ⟨some .data, snapshot⟩ (readData lines i snapshot.data).1
        ⟨some .data, { snapshot with data := (readData lines i snapshot.data).2 }⟩ ∧
      ∀ h : (readData lines i snapshot.data).1 < lines.size,
        (Section.ofBareLine? lines[(readData lines i snapshot.data).1]).isSome = true := by
  generalize hdata : snapshot.data = data
  fun_induction readData lines i data generalizing snapshot with
  | case1 i data hlt hskip ih =>
    have hstep := Reads.step hlt ⟨some .data, snapshot⟩
    rw [ReadState.read_of_isSkippable _ hskip] at hstep
    obtain ⟨hreads, hend⟩ := ih hlt snapshot hdata
    exact ⟨hstep.trans hreads, hend⟩
  | case2 i data hlt hskip hbare =>
    subst hdata
    exact ⟨.refl hi _, fun _ => hbare⟩
  | case3 i data hlt hskip hbare key value hsplit ih =>
    have hstep := Reads.step hlt ⟨some .data, snapshot⟩
    rw [ReadState.read_entry snapshot (by simpa using hskip) (by simpa using hbare)] at hstep
    obtain ⟨hreads, hend⟩ := ih hlt (snapshot.setData key value) (by simp [Snapshot.setData, hdata])
    rw [hsplit] at hstep
    exact ⟨hstep.trans hreads, hend⟩
  | case4 i data hge =>
    subst hdata
    exact ⟨.refl hi _, fun h => absurd h hge⟩

/-! ## The loop at the top -/

/-- A line that a section does not take is read as if no section had been remembered, and so are the
lines below it. -/
theorem foldl_drop_free {lines : Array Text} {j : Nat} {s : Section} (snapshot : Snapshot)
    (h : ∀ h : j < lines.size, ReadState.read ⟨some s, snapshot⟩ lines[j] =
      ReadState.read ⟨none, snapshot⟩ lines[j]) :
    ((lines.toList.drop j).foldl ReadState.read ⟨some s, snapshot⟩).snapshot =
      ((lines.toList.drop j).foldl ReadState.read ⟨none, snapshot⟩).snapshot := by
  by_cases hlt : j < lines.size
  · rw [List.drop_eq_getElem_cons (by simpa using hlt), List.foldl_cons, List.foldl_cons,
      Array.getElem_toList, h hlt]
  · rw [List.drop_eq_nil_of_le (by simpa using hlt)]
    rfl

/-- The loop at the top comes to what one pass over the lines comes to. -/
theorem readFrom_eq_foldl (lines : Array Text) (i : Nat) (snapshot : Snapshot) :
    readFrom lines i snapshot =
      ((lines.toList.drop i).foldl ReadState.read ⟨none, snapshot⟩).snapshot := by
  have hstep : ∀ {i : Nat} (h : i < lines.size) (snapshot : Snapshot),
      (lines.toList.drop i).foldl ReadState.read ⟨none, snapshot⟩ =
        (lines.toList.drop (i + 1)).foldl ReadState.read
          (ReadState.read ⟨none, snapshot⟩ lines[i]) :=
    fun h snapshot => (Reads.step h ⟨none, snapshot⟩).foldl_drop
  fun_induction readFrom lines i snapshot with
  | case1 i snapshot hlt line hskip ih =>
    rw [ih, hstep hlt, ReadState.read_of_isSkippable _ hskip]
  | case2 i snapshot hlt line hskip d hd ih =>
    have hline : ReadState.read ⟨none, snapshot⟩ line =
        ⟨none, snapshot.setDirective d (splitKeyValue line).2⟩ := by
      simp [ReadState.read, ReadState.readFree, hskip, hd]
    rw [ih, hstep hlt, hline]
  | case3 i snapshot hlt line hskip hd hhead hbare handed ih =>
    have hline : ReadState.read ⟨none, snapshot⟩ line = ⟨some .data, snapshot⟩ := by
      simp [ReadState.read, ReadState.readFree, hskip, hd, hhead, hbare]
    obtain ⟨hreads, hend⟩ := reads_readData lines (i + 1) hlt snapshot
    rw [ih, hstep hlt, hline, hreads.foldl_drop]
    exact (foldl_drop_free _ fun h => ReadState.read_header _ (hend h)).symm
  | case4 i snapshot hlt line hskip hd hhead hbare ih =>
    have hline : ReadState.read ⟨none, snapshot⟩ line = ⟨none, snapshot⟩ := by
      simp [ReadState.read, ReadState.readFree, hskip, hd, hhead, hbare]
    rw [ih, hstep hlt, hline]
  | case5 i snapshot hlt line hskip hd s hs hhead handed ih =>
    have hline : ReadState.read ⟨none, snapshot⟩ line =
        ⟨if Text.lower line = s.name then some s else none, snapshot⟩ := by
      cases s <;> first | exact absurd rfl hs |
        simp [ReadState.read, ReadState.readFree, hskip, hd, hhead]
    rw [ih, hstep hlt, hline]
    by_cases hname : Text.lower line = s.name
    · rw [if_pos hname]
      obtain ⟨hreads, hend⟩ := reads_readSection hlt hname (Nat.lt_succ_self i) hlt
        (fun x _ hpx hxi => by omega) snapshot
      rw [hreads.foldl_drop]
      exact (foldl_drop_free _ fun h =>
        ReadState.read_foreign _ hs (hend h).1 (hend h).2).symm
    · rw [if_neg hname]
      have hnothing := readSection_of_header hlt hhead (by simpa using hskip) hname snapshot
      obtain ⟨hreads, -, -⟩ := skipFrom_cases lines (i + 1) hlt ⟨none, snapshot⟩
      rw [show handed = _ from hnothing, hreads.foldl_drop]
  | case6 i snapshot hlt line hskip hd hhead ih =>
    have hline : ReadState.read ⟨none, snapshot⟩ line = ⟨none, snapshot⟩ := by
      simp [ReadState.read, ReadState.readFree, hskip, hd, hhead]
    rw [ih, hstep hlt, hline]
  | case7 i snapshot hge =>
    rw [List.drop_eq_nil_of_le (by simpa using hge)]
    rfl

end Parser

/-- The loops of the reader come to what one pass over the logical lines comes to. -/
theorem ofText_eq_foldl_read (t : Text) :
    Snapshot.ofText t = ((logicalLines t).foldl ReadState.read ReadState.start).snapshot :=
  Parser.readFrom_eq_foldl (logicalLines t).toArray 0 .empty

end SiteGate.Config
