import SiteGate.Proofs.Config.Loops

/-!
# What the lines of a configuration say

The reader computes what the lines say by their owners. The section that the reader in one pass
remembers is at every line the one that owns it (`Agrees.read`, `agrees_foldr`), and so the snapshot
of a text is what its logical lines say, one after the other (`ofText_eq_foldl_obey`). The loops
that hand indices on to one another share these lines out among themselves: each takes a run of
them, and the next one begins where it ended (`handsOn_readSection`, `handsOn_readData`).
-/

set_option autoImplicit false

namespace SiteGate.Config

/-! ## The reader between two lines -/

/-- What the reader remembers agrees with the lines above: it is in the free data just if their
header is the nearest one, and it remembers any other section just if that owns the next line. -/
structure Agrees (above : List Text) (st : ReadState) : Prop where
  data : st.owner = some .data ↔ nearestHeader? above = some .data
  owned : ∀ s, s ≠ .data → (st.owner = some s ↔ s.owns above = true)

namespace ReadState

/-- Of a line that no section owns, the reader takes the value of a directive and nothing else. -/
theorem snapshot_readFree (st : ReadState) (line : Text) :
    (st.readFree line).snapshot = match Directive.ofLine? (Text.lower line) with
      | some d => st.snapshot.set (.directive d) (splitKeyValue line).2
      | none => st.snapshot := by
  simp only [readFree]
  cases Directive.ofLine? (Text.lower line) with
  | some d => rfl
  | none =>
    cases hs : Section.ofHeader? line with
    | none => rfl
    | some s => cases s <;> rfl

/-- After a line that is no header, and that no section owns, the reader remembers no section. -/
theorem owner_readFree_of_not_header (st : ReadState) {line : Text}
    (h : Section.ofBareLine? line = none) : (st.readFree line).owner = none := by
  have hlower := Section.lower_ne_of_ofBareLine?_eq_none h
  simp only [readFree]
  cases Directive.ofLine? (Text.lower line) with
  | some d => rfl
  | none =>
    cases hs : Section.ofHeader? line with
    | none => rfl
    | some s => cases s <;> simp [h, hlower]

/-- After a header the reader remembers the free data if they are named, and any other section if
the line is its bare name. -/
theorem owner_readFree_of_header (st : ReadState) {line : Text} {s : Section}
    (h : Section.ofBareLine? line = some s) :
    (st.readFree line).owner = if s = .data ∨ Text.lower line = s.name then some s else none := by
  have hdir := Directive.ofLine?_of_ofBareLine? h
  have hhead := Section.ofHeader?_of_ofBareLine? h
  simp only [readFree, hdir, hhead]
  cases s <;> simp [h]

/-- A line is passed over, or the section that the reader remembers takes it, or it is read on its
own. -/
theorem read_cases (st : ReadState) {line : Text} (hline : isSkippable line = false) :
    (st.owner = some .data ∧ Section.ofBareLine? line = none ∧
      st.read line = ⟨some .data, st.snapshot.setData (splitKeyValue line).1
        (splitKeyValue line).2⟩) ∨
    (∃ s k, s ≠ .data ∧ st.owner = some s ∧ s.matchKey? (Text.lower line) = some k ∧
      st.read line = ⟨some s, st.snapshot.set (.key k) (splitKeyValue line).2⟩) ∨
    ((st.owner = some .data → (Section.ofBareLine? line).isSome = true) ∧
      (∀ s, s ≠ .data → st.owner = some s → s.matchKey? (Text.lower line) = none) ∧
      st.read line = st.readFree line) := by
  cases howner : st.owner with
  | none => exact .inr (.inr ⟨by simp, by simp, by simp [read, hline, howner]⟩)
  | some s =>
    by_cases hs : s = .data
    · subst hs
      cases hbare : Section.ofBareLine? line with
      | none => exact .inl ⟨rfl, rfl, by simp [read, hline, howner, hbare]⟩
      | some s' =>
        refine .inr (.inr ⟨by simp, ?_, by simp [read, hline, howner, hbare]⟩)
        intro s hs heq
        exact absurd (Option.some.inj heq).symm hs
    · cases hk : s.matchKey? (Text.lower line) with
      | some k =>
        refine .inr (.inl ⟨s, k, hs, rfl, hk, ?_⟩)
        cases s <;> simp [read, hline, howner, hk, Snapshot.set] at hs ⊢
      | none =>
        refine .inr (.inr ⟨fun heq => absurd (Option.some.inj heq) hs, ?_, ?_⟩)
        · rintro s' - hs'
          obtain rfl := Option.some.inj hs'
          exact hk
        · cases s <;> simp [read, hline, howner, hk] at hs ⊢

end ReadState

/-- Before the first line the reader remembers no section. -/
theorem Agrees.start : Agrees [] ReadState.start :=
  ⟨by simp [ReadState.start, nearestHeader?], by simp [ReadState.start, Section.owns]⟩

/-- Lines that are passed over change nothing. -/
theorem Agrees.read_skippable {above : List Text} {st : ReadState} (h : Agrees above st)
    {line : Text} (hskip : isSkippable line = true) : Agrees (line :: above) (st.read line) := by
  have hbare : Section.ofBareLine? line = none := by
    by_contra hne
    obtain ⟨s, hs⟩ := Option.ne_none_iff_exists'.mp hne
    rw [isSkippable_of_ofBareLine? hs] at hskip
    cases hskip
  have hread : st.read line = st := by simp [ReadState.read, hskip]
  rw [hread]
  constructor
  · rw [h.data, nearestHeader?_cons, hbare]
    rfl
  · intro s hs
    have hlower := Section.lower_ne_of_ofBareLine?_eq_none hbare s
    simp [h.owned s hs, Section.owns_cons_iff, hlower, Section.passes, hskip]

/-- A header is read on its own, whatever the reader remembered above it. -/
theorem agrees_read_header (above : List Text) (st : ReadState) {line : Text} {s : Section}
    (hbare : Section.ofBareLine? line = some s) : Agrees (line :: above) (st.read line) := by
  have hread : st.read line = st.readFree line := by
    rcases st.read_cases (isSkippable_of_ofBareLine? hbare) with
      ⟨-, hnone, -⟩ | ⟨s', k, -, -, hk, -⟩ | ⟨-, -, hread⟩
    · rw [hbare] at hnone
      cases hnone
    · rw [Section.matchKey?_of_ofBareLine? hbare] at hk
      cases hk
    · exact hread
  rw [hread]
  constructor
  · rw [ReadState.owner_readFree_of_header st hbare, nearestHeader?_cons, hbare]
    split <;> simp_all
  · intro s' hs'
    have hpass := Section.passes_of_ofBareLine? (s := s') hbare
    rw [ReadState.owner_readFree_of_header st hbare, Section.owns_cons_iff, hpass]
    constructor
    · intro howner
      split at howner
      · rename_i hnamed
        obtain rfl := Option.some.inj howner
        exact .inl (hnamed.resolve_left hs')
      · cases howner
    · rintro (hlower | ⟨hfalse, -⟩)
      · have hs := Section.ofBareLine?_of_lower_eq hlower
        rw [hbare] at hs
        obtain rfl := Option.some.inj hs
        simp [hlower]
      · cases hfalse

/-- A line that is neither passed over nor a header is taken by the owner, or ends what the owner
owns. -/
theorem Agrees.read_plain {above : List Text} {st : ReadState} (h : Agrees above st) {line : Text}
    (hline : isSkippable line = false) (hbare : Section.ofBareLine? line = none) :
    Agrees (line :: above) (st.read line) := by
  have hnearest : nearestHeader? (line :: above) = nearestHeader? above := by
    rw [nearestHeader?_cons, hbare]
    rfl
  have howns : ∀ s : Section, s.owns (line :: above) = true ↔
      (s.matchKey? (Text.lower line)).isSome = true ∧ s.owns above = true := by
    intro s
    have hlower := Section.lower_ne_of_ofBareLine?_eq_none hbare s
    simp [Section.owns_cons_iff, hlower, Section.passes, hline]
  rcases st.read_cases hline with ⟨howner, -, hread⟩ | ⟨s, k, hs, howner, hk, hread⟩ |
    ⟨hdata, hkeys, hread⟩
  · -- The free data take the line.
    rw [hread]
    constructor
    · simp [hnearest, h.data.mp howner]
    · intro s hs
      have hnot : ¬ s.owns above = true := by
        rw [← h.owned s hs, howner]
        simpa using hs.symm
      simp [howns, hnot, hs.symm]
  · -- The section that owns the line takes it, and there is no other one.
    rw [hread]
    constructor
    · rw [hnearest, ← h.data, howner]
    · intro s' hs'
      rw [howns, ← h.owned s' hs', howner]
      constructor
      · intro heq
        obtain rfl := Option.some.inj heq
        exact ⟨by simp [hk], rfl⟩
      · exact fun h => h.2
  · -- No section takes the line.
    rw [hread]
    constructor
    · have hnot : ¬ nearestHeader? above = some .data := by
        rw [← h.data]
        intro howner
        have hsome := hdata howner
        rw [hbare] at hsome
        cases hsome
      simp [hnearest, hnot, ReadState.owner_readFree_of_not_header st hbare]
    · intro s hs
      rw [ReadState.owner_readFree_of_not_header st hbare, howns, ← h.owned s hs]
      constructor
      · intro hnone
        cases hnone
      · rintro ⟨hsome, howner⟩
        rw [hkeys s hs howner] at hsome
        cases hsome

/-- The reader remembers the owner from one line to the next. -/
theorem Agrees.read {above : List Text} {st : ReadState} (h : Agrees above st) (line : Text) :
    Agrees (line :: above) (st.read line) := by
  cases hskip : isSkippable line with
  | true => exact h.read_skippable hskip
  | false =>
    cases hbare : Section.ofBareLine? line with
    | some s => exact agrees_read_header above st hbare
    | none => exact h.read_plain hskip hbare

/-- The reader remembers the owner below any lines. -/
theorem agrees_foldr (above : List Text) :
    Agrees above (above.foldr (fun line st => st.read line) ReadState.start) := by
  induction above with
  | nil => exact Agrees.start
  | cons line above ih => exact ih.read line

/-- The reader still remembers the owner after any further lines. -/
theorem Agrees.foldl {above : List Text} {st : ReadState} (h : Agrees above st)
    (lines : List Text) : Agrees (lines.reverse ++ above) (lines.foldl ReadState.read st) := by
  induction lines generalizing above st with
  | nil => exact h
  | cons line rest ih => simpa using ih (h.read line)

/-- No two sections own the same line. -/
theorem Section.eq_of_ownedKey? {s s' : Section} {above : List Text} {line : Text} {k k' : Key}
    (h : s.ownedKey? above line = some k) (h' : s'.ownedKey? above line = some k') :
    s = s' ∧ k = k' := by
  obtain ⟨howns, hk, hheld⟩ := ownedKey?_eq_some_iff.mp h
  obtain ⟨howns', hk', hheld'⟩ := ownedKey?_eq_some_iff.mp h'
  have hagrees := agrees_foldr above
  have howner := (hagrees.owned s (ne_data_of_mem_keys hk)).mpr howns
  have howner' := (hagrees.owned s' (ne_data_of_mem_keys hk')).mpr howns'
  obtain rfl : s = s' := Option.some.inj (howner.symm.trans howner')
  exact ⟨rfl, eq_of_key_name_eq hk hk' (Setting.name_eq_of_heldBy hheld hheld')⟩

/-! ## What the reader makes of a line -/

/-- The key of a line is the one that it holds for its owner, if it has one. -/
theorem findSome?_ownedKey?_eq_some_iff {above : List Text} {line : Text} {k : Key} :
    (Section.all.findSome? fun s => s.ownedKey? above line) = some k ↔
      ∃ s : Section, s.ownedKey? above line = some k := by
  constructor
  · intro h
    obtain ⟨s, -, hs⟩ := List.exists_of_findSome?_eq_some h
    exact ⟨s, hs⟩
  · rintro ⟨s, hs⟩
    cases hfound : Section.all.findSome? fun s => s.ownedKey? above line with
    | none =>
      have hnone := List.findSome?_eq_none_iff.mp hfound s s.mem_all
      rw [hs] at hnone
      cases hnone
    | some k' =>
      obtain ⟨s', -, hs'⟩ := List.exists_of_findSome?_eq_some hfound
      rw [(Section.eq_of_ownedKey? hs' hs).2]

/-- The snapshot is changed by what the line says. -/
theorem Agrees.snapshot_read {above : List Text} {st : ReadState} (h : Agrees above st)
    (line : Text) : (st.read line).snapshot = st.snapshot.obey (statement? above line) := by
  cases hskip : isSkippable line with
  | true => simp [ReadState.read, statement?, hskip, Snapshot.obey]
  | false =>
    rcases st.read_cases hskip with ⟨howner, hbare, hread⟩ | ⟨s, k, hs, howner, hk, hread⟩ |
      ⟨hdata, hkeys, hread⟩
    · simp [hread, statement?, hskip, hbare, h.data.mp howner, Snapshot.obey]
    · have hnearest : ¬ nearestHeader? above = some .data := by
        rw [← h.data, howner]
        simpa using hs
      have hkey : (Section.all.findSome? fun s => s.ownedKey? above line) = some k := by
        refine findSome?_ownedKey?_eq_some_iff.mpr ⟨s, ?_⟩
        rw [Section.ownedKey?, if_pos ((h.owned s hs).mp howner), hk]
      simp [hread, statement?, hskip, hnearest, hkey, Directive.ofLine?_of_matchKey? hk,
        Snapshot.obey]
    · have hnearest : ¬ (nearestHeader? above = some .data ∧ Section.ofBareLine? line = none) := by
        rintro ⟨hnearest, hbare⟩
        have hsome := hdata (h.data.mpr hnearest)
        rw [hbare] at hsome
        cases hsome
      have hkey : (Section.all.findSome? fun s => s.ownedKey? above line) = none := by
        rw [List.findSome?_eq_none_iff]
        rintro s -
        cases hfound : s.ownedKey? above line with
        | none => rfl
        | some k =>
          obtain ⟨howns, hk, hheld⟩ := Section.ownedKey?_eq_some_iff.mp hfound
          have hdata' := Section.ne_data_of_mem_keys hk
          have hnone := hkeys s hdata' ((h.owned s hdata').mpr howns)
          rw [Section.matchKey?_eq_some_iff.mpr ⟨hk, hheld⟩] at hnone
          cases hnone
      rw [hread, ReadState.snapshot_readFree]
      simp only [statement?, hskip, hnearest, hkey]
      cases Directive.ofLine? (Text.lower line) <;> rfl

/-- The reader makes of a file what its lines say, one after the other. -/
theorem Agrees.snapshot_foldl {above : List Text} {st : ReadState} (h : Agrees above st)
    (lines : List Text) :
    (lines.foldl ReadState.read st).snapshot =
      (statements above lines).foldl Snapshot.obey st.snapshot := by
  induction lines generalizing above st with
  | nil => rfl
  | cons line rest ih =>
    rw [List.foldl_cons, statements, List.foldl_cons, ih (h.read line), h.snapshot_read line]

/-- The snapshot of a text is what its logical lines say, one after the other, to the empty one. -/
theorem ofText_eq_foldl_obey (t : Text) :
    Snapshot.ofText t = (statements [] (logicalLines t)).foldl Snapshot.obey .empty :=
  (ofText_eq_foldl_read t).trans (Agrees.start.snapshot_foldl (logicalLines t))

/-- What the empty snapshot has, and neither a setting nor an entry of the free data takes away, the
snapshot of every text has. -/
theorem ofText_induction {P : Snapshot → Prop} (t : Text) (empty : P .empty)
    (setting : ∀ s x value, P s → P (s.set x value))
    (entry : ∀ s key value, P s → P (s.setData key value)) : P (Snapshot.ofText t) := by
  rw [ofText_eq_foldl_obey]
  refine List.foldlRecOn _ _ empty fun s hs st _ => ?_
  match st with
  | none => exact hs
  | some (.entry key value) => exact entry s key value hs
  | some (.setting x value) => exact setting s x value hs

/-- No line of a configuration says what is left of its banner, how often it is read, or that the
host of a request is checked. -/
theorem unsaid_ofText (t : Text) :
    (Snapshot.ofText t).banner.tickCount = 0 ∧ (Snapshot.ofText t).refreshSeconds = 0 ∧
      (Snapshot.ofText t).validateHost = false := by
  refine ofText_induction (P := fun s => s.banner.tickCount = 0 ∧ s.refreshSeconds = 0 ∧
    s.validateHost = false) t ⟨rfl, rfl, rfl⟩ ?_ fun _ _ _ hs => hs
  intro s x value hs
  cases x with
  | key k => cases k <;> exact hs
  | directive d => cases d <;> exact hs

/-- What one line does to the snapshot, between the lines above it and those below it. -/
theorem ofText_eq_foldl_around {t line : Text} {above below : List Text}
    (h : logicalLines t = above ++ line :: below) :
    Snapshot.ofText t = (statements (line :: above.reverse) below).foldl Snapshot.obey
      (((statements [] above).foldl Snapshot.obey .empty).obey
        (statement? above.reverse line)) := by
  rw [ofText_eq_foldl_obey, h, statements_append, List.foldl_append, statements, List.append_nil,
    List.foldl_cons]

/-! ## What the loops hand on -/

/-- What a loop makes of an index and a snapshot that it is given. It gives back an index that lies
between the one it was given and the end, and a snapshot that has obeyed each line between the two
indices once and in order; and the loop at the top, when it goes on from there, obeys each of the
lines that are left. -/
structure HandsOn (lines : Array Text) (i : Nat) (s : Snapshot) (next : Nat) (s' : Snapshot) :
    Prop where
  onward : i ≤ next
  within : next ≤ lines.size
  taken : s' = (statements (lines.toList.take i).reverse
    (lines.toList.extract i next)).foldl Snapshot.obey s
  left : Parser.readFrom lines next s' = (statements (lines.toList.take next).reverse
    (lines.toList.drop next)).foldl Snapshot.obey s'

/-- A loop hands on what it should if it reads as the reader in one pass does below a header, up to
a line that it does not take. -/
theorem Agrees.handsOn {lines : Array Text} {s : Section} {i next : Nat}
    {snapshot snapshot' : Snapshot}
    (h : Agrees (lines.toList.take i).reverse ⟨some s, snapshot⟩)
    (hreads : Reads lines i ⟨some s, snapshot⟩ next ⟨some s, snapshot'⟩)
    (hend : ∀ h : next < lines.size, ReadState.read ⟨some s, snapshot'⟩ lines[next] =
      ReadState.read ⟨none, snapshot'⟩ lines[next]) :
    HandsOn lines i snapshot next snapshot' := by
  have habove : (lines.toList.extract i next).reverse ++ (lines.toList.take i).reverse =
      (lines.toList.take next).reverse := by
    obtain ⟨n, rfl⟩ := Nat.exists_eq_add_of_le hreads.onward
    rw [← List.reverse_append, List.extract_eq_take_drop, Nat.add_sub_cancel_left, ← List.take_add]
  have hnext := h.foldl (lines.toList.extract i next)
  rw [hreads.reads, habove] at hnext
  refine ⟨hreads.onward, hreads.within, ?_, ?_⟩
  · rw [← h.snapshot_foldl, hreads.reads]
  · rw [Parser.readFrom_eq_foldl, ← Parser.foldl_drop_free snapshot' hend, hnext.snapshot_foldl]

/-- Below its bare name a section remembers that it owns the next line. -/
theorem agrees_take_succ {lines : Array Text} {p : Nat} (hp : p < lines.size) {s : Section}
    (hbare : Section.ofBareLine? lines[p] = some s)
    (hname : s = .data ∨ Text.lower lines[p] = s.name) (snapshot : Snapshot) :
    Agrees (lines.toList.take (p + 1)).reverse ⟨some s, snapshot⟩ := by
  have hhead := agrees_read_header (lines.toList.take p).reverse ⟨none, snapshot⟩ hbare
  have hread : ReadState.read ⟨none, snapshot⟩ lines[p] = ⟨some s, snapshot⟩ := by
    have howner := ReadState.owner_readFree_of_header ⟨none, snapshot⟩ hbare
    have hsame := ReadState.snapshot_readFree ⟨none, snapshot⟩ lines[p]
    rw [if_pos hname] at howner
    rw [Directive.ofLine?_of_ofBareLine? hbare] at hsame
    rw [ReadState.read_free snapshot (isSkippable_of_ofBareLine? hbare)]
    exact ReadState.ext howner hsame
  rw [hread] at hhead
  rw [List.take_succ_eq_append_getElem (by simpa using hp)]
  simpa using hhead

/-- Below its bare name the loop of a section hands on what it should. -/
theorem handsOn_readSection {lines : Array Text} {p : Nat} (hp : p < lines.size) {s : Section}
    (hs : s ≠ .data) (hname : Text.lower lines[p] = s.name) (snapshot : Snapshot) :
    HandsOn lines (p + 1) snapshot (Parser.readSection lines s (p + 1) snapshot).1
      (Parser.readSection lines s (p + 1) snapshot).2 := by
  obtain ⟨hreads, hend⟩ := Parser.reads_readSection hp hname (Nat.lt_succ_self p) hp
    (fun x _ hpx hxi => by omega) snapshot
  refine (agrees_take_succ hp (Section.ofBareLine?_of_lower_eq hname) (.inr hname) snapshot).handsOn
    hreads fun h => ?_
  exact ReadState.read_foreign _ hs (hend h).1 (hend h).2

/-- Below their header the loop of the free data hands on what it should. -/
theorem handsOn_readData {lines : Array Text} {p : Nat} (hp : p < lines.size)
    (hbare : Section.ofBareLine? lines[p] = some .data) (snapshot : Snapshot) :
    HandsOn lines (p + 1) snapshot (Parser.readData lines (p + 1) snapshot.data).1
      { snapshot with data := (Parser.readData lines (p + 1) snapshot.data).2 } := by
  obtain ⟨hreads, hend⟩ := Parser.reads_readData lines (p + 1) hp snapshot
  exact (agrees_take_succ hp hbare (.inl rfl) snapshot).handsOn hreads fun h =>
    ReadState.read_header _ (hend h)

/-- Reading a configuration is obeying its logical lines in order: each of them counts once, by
what it says below the lines above it, and no line has two sections to own it. The look back from a
line finds what owning says of the lines above it. No line is lost or counted twice where the loops
hand an index on: below its header each loop takes exactly the lines before the index that it gives
back, the loop at the top takes exactly those from there on, and below a header with more words a
section takes none but the lines that say nothing anyway. -/
theorem ofText_obeys_owned_lines (t : Text) :
    Snapshot.ofText t = (statements [] (logicalLines t)).foldl Snapshot.obey .empty ∧
      (∀ (above : List Text) (line : Text) (s s' : Section) (k k' : Key),
        s.ownedKey? above line = some k → s'.ownedKey? above line = some k' → s = s' ∧ k = k') ∧
      (∀ (s : Section) (i : Nat) (hi : i ≤ (logicalLines t).toArray.size),
        Parser.ownedBy (logicalLines t).toArray s i hi =
          s.owns ((logicalLines t).take i).reverse) ∧
      ∀ (p : Nat) (hp : p < (logicalLines t).toArray.size) (snapshot : Snapshot),
        let lines := (logicalLines t).toArray
        (∀ s, s ≠ Section.data → Section.ofHeader? lines[p] = some s →
          if Text.lower lines[p] = s.name then
            HandsOn lines (p + 1) snapshot (Parser.readSection lines s (p + 1) snapshot).1
              (Parser.readSection lines s (p + 1) snapshot).2
          else
            Parser.readSection lines s (p + 1) snapshot =
              (Parser.skipFrom lines (p + 1), snapshot)) ∧
        (Section.ofBareLine? lines[p] = some .data →
          HandsOn lines (p + 1) snapshot (Parser.readData lines (p + 1) snapshot.data).1
            { snapshot with data := (Parser.readData lines (p + 1) snapshot.data).2 }) := by
  refine ⟨ofText_eq_foldl_obey t, fun _ _ _ _ _ _ => Section.eq_of_ownedKey?,
    fun s i hi => Parser.ownedBy_eq_owns _ s i hi, ?_⟩
  intro p hp snapshot lines
  refine ⟨fun s hs hhead => ?_, fun hbare => handsOn_readData hp hbare snapshot⟩
  split
  · next hname => exact handsOn_readSection hp hs hname snapshot
  · next hname =>
    exact Parser.readSection_of_header hp hhead (isSkippable_of_ofHeader? hhead) hname snapshot

end SiteGate.Config
