import Mathlib.Data.List.Basic
import Mathlib.Tactic.IntervalCases
import SiteGate.Net.Address

/-!
# Addresses read back

What an address is written as is read as that address. Readers go as far as they can, so each of
them is shown to stop where what it reads ends: a number before one of the marks that stand between
numbers (`takeDigits_append`), the groups of an address before anything that is no colon with a
group behind it (`readGroups_followed`). From that an address with a port is read from its text
(`SocketAddress.ofText?_toText`), and the address in the text of a peer is the peer's
(`addressPart_of_peer`), as it is in the text of an address alone (`addressPart_of_address`).
-/

set_option autoImplicit false

namespace SiteGate.Net

/-! ## Numbers -/

/-- The digits that a number is written with: they spell it, and a zero comes first only alone. -/
structure Digits (base n : Nat) (ds : List Nat) : Prop where
  text : Nat.toDigits base n = ds.map Nat.digitChar
  small : ∀ d ∈ ds, d < base
  value : valueOf base ds = n
  head : ds.head? = some 0 → ds.length = 1

/-- One digit more multiplies the value by the base and adds the digit. -/
theorem valueOf_append_singleton (base : Nat) (ds : List Nat) (d : Nat) :
    valueOf base (ds ++ [d]) = valueOf base ds * base + d := by
  simp [valueOf]

/-- Every number has digits that it is written with. -/
theorem exists_digits {base : Nat} (hbase : 1 < base) (n : Nat) : ∃ ds, Digits base n ds := by
  induction n using Nat.strongRecOn with
  | ind n ih =>
    by_cases hn : n < base
    · refine ⟨[n], Nat.toDigits_of_lt_base hn, by simpa using hn, by simp [valueOf], fun _ => rfl⟩
    · have hle : base ≤ n := Nat.le_of_not_lt hn
      obtain ⟨ds, hds⟩ := ih (n / base) (Nat.div_lt_self (by omega) hbase)
      have hpos : 0 < n / base := Nat.div_pos hle (by omega)
      have hne : ds ≠ [] := by
        rintro rfl
        exact Nat.toDigits_ne_nil hds.text
      refine ⟨ds ++ [n % base], ?_, ?_, ?_, ?_⟩
      · rw [Nat.toDigits_of_base_le hbase hle, hds.text, List.map_append, List.map_singleton]
      · intro d hd
        obtain hd | hd := List.mem_append.mp hd
        · exact hds.small d hd
        · rw [List.mem_singleton.mp hd]
          exact Nat.mod_lt n (by omega)
      · rw [valueOf_append_singleton, hds.value, Nat.mul_comm, Nat.div_add_mod]
      · -- a leading zero would be the only digit of `n / base`, which is positive
        intro hzero
        rw [List.head?_append_of_ne_nil _ hne] at hzero
        obtain ⟨d, rfl⟩ := List.length_eq_one_iff.mp (hds.head hzero)
        have hd : d = 0 := by simpa using hzero
        have hvalue := hds.value
        simp [valueOf, hd] at hvalue
        omega

/-- A number below a power of the base has no more digits than the exponent says. -/
theorem Digits.length_le {base n k : Nat} {ds : List Nat} (h : Digits base n ds) (hbase : 1 < base)
    (hk : 0 < k) (hn : n < base ^ k) : ds.length ≤ k := by
  have hlength := (Nat.length_toDigits_le_iff hbase hk).mpr hn
  rwa [h.text, List.length_map] at hlength

/-- A number is written with at least one digit. -/
theorem Digits.ne_nil {base n : Nat} {ds : List Nat} (h : Digits base n ds) : ds ≠ [] := by
  rintro rfl
  exact Nat.toDigits_ne_nil h.text

/-! ## Where a reader stops -/

/-- The marks that stand behind a number. -/
def marks : List Char := [':', '.', '%', ']']

/-- A text is at its end or begins with one of some characters. -/
def StartsIn (cs : List Char) (t : Text) : Prop := ∀ c ∈ t.head?, c ∈ cs

/-- A text at its end begins with nothing else. -/
theorem StartsIn.nil (cs : List Char) : StartsIn cs [] := by simp [StartsIn]

/-- A text begins with its first character. -/
theorem StartsIn.cons {cs : List Char} {c : Char} (h : c ∈ cs) (t : Text) :
    StartsIn cs (c :: t) := by
  simpa [StartsIn] using h

/-- A text that begins with one of some characters begins with one of any more. -/
theorem StartsIn.mono {cs cs' : List Char} {t : Text} (h : StartsIn cs t) (hsub : cs ⊆ cs') :
    StartsIn cs' t := fun c hc => hsub (h c hc)

section

variable {base : Nat} {rest : Text}

/-- A digit is read as its value. -/
theorem digitIn?_digitChar {d : Nat} (hbase : base ≤ 16) (hd : d < base) :
    Text.digitIn? base (Nat.digitChar d) = some d := by
  have hsixteen : d < 16 := by omega
  interval_cases d <;> simp [Text.digitIn?, Nat.digitChar] <;> omega

/-- A mark is no digit. -/
theorem digitIn?_of_mem_marks {c : Char} (hc : c ∈ marks) : Text.digitIn? base c = none := by
  simp only [marks, List.mem_cons, List.not_mem_nil, or_false] at hc
  rcases hc with rfl | rfl | rfl | rfl <;> simp [Text.digitIn?]

/-- Digits are read up to the next mark. -/
theorem takeDigits_append {ds : List Nat} (hbase : base ≤ 16) (hds : ∀ d ∈ ds, d < base)
    (hrest : StartsIn marks rest) :
    takeDigits base (ds.map Nat.digitChar ++ rest) = (ds, rest) := by
  induction ds with
  | nil =>
    cases rest with
    | nil => rfl
    | cons c more =>
      have hc : Text.digitIn? base c = none := digitIn?_of_mem_marks (hrest c rfl)
      simp [takeDigits, hc]
  | cons d ds ih =>
    have hd := digitIn?_digitChar hbase (hds d (List.mem_cons_self ..))
    have htail := ih fun x hx => hds x (List.mem_cons_of_mem _ hx)
    simp [takeDigits, hd, htail]

/-- There are no digits where a mark stands. -/
theorem takeDigits_mark (hrest : StartsIn marks rest) : takeDigits base rest = ([], rest) := by
  cases rest with
  | nil => rfl
  | cons c more =>
    have hc : Text.digitIn? base c = none := digitIn?_of_mem_marks (hrest c rfl)
    simp [takeDigits, hc]

end

/-! ## Addresses of four numbers -/

/-- A number of eight bits is read up to the next mark. -/
theorem readOctet_ofNat (n : UInt8) {rest : Text} (hrest : StartsIn marks rest) :
    readOctet (Text.ofNat n.toNat ++ rest) = some (n, rest) := by
  obtain ⟨ds, hds⟩ := exists_digits (by decide : 1 < 10) n.toNat
  have hlength : ds.length ≤ 3 :=
    hds.length_le (by decide) (by decide) (by have := n.toNat_lt; omega)
  have hread : takeDigits 10 (Text.ofNat n.toNat ++ rest) = (ds, rest) := by
    rw [Text.ofNat, hds.text]
    exact takeDigits_append (by decide) hds.small hrest
  have hzero : ¬ (1 < ds.length ∧ ds.head? = some 0) := fun h => by
    have := hds.head h.2
    omega
  have hvalue : ¬ 255 < n.toNat := by
    have := n.toNat_lt
    omega
  have hlong : ¬ 3 < ds.length := by omega
  simp only [readOctet, hread, hds.value]
  simp [hds.ne_nil, hzero, hvalue, hlong]

/-- An address of four numbers is written as these, with points between them. -/
theorem IPv4.toText_eq (x : IPv4) :
    x.toText = Text.ofNat x.a.toNat ++ '.' :: (Text.ofNat x.b.toNat ++ '.' ::
      (Text.ofNat x.c.toNat ++ '.' :: Text.ofNat x.d.toNat)) := by
  simp [IPv4.toText, List.intercalate, List.intersperse]

/-- An address of four numbers is read up to the next mark. -/
theorem readIPv4_toText (x : IPv4) {rest : Text} (hrest : StartsIn marks rest) :
    readIPv4 (x.toText ++ rest) = some (x, rest) := by
  have hdot : ∀ t : Text, StartsIn marks ('.' :: t) := fun t => .cons (by decide) t
  rw [IPv4.toText_eq]
  simp [readIPv4, readOctet_ofNat, hdot, hrest, readChar]

/-- What has no point behind its first digits is no address of four numbers. -/
theorem readIPv4_eq_none {t : Text} (h : (takeDigits 10 t).2.head? ≠ some '.') :
    readIPv4 t = none := by
  have hchar : readChar '.' (takeDigits 10 t).2 = none := by
    cases hrest : (takeDigits 10 t).2 with
    | nil => rfl
    | cons c more =>
      rw [hrest] at h
      have hc : c ≠ '.' := by simpa using h
      simp [readChar, hc]
  rw [readIPv4]
  cases hread : readOctet t with
  | none => rfl
  | some p =>
    obtain ⟨n, rest⟩ := p
    have hrest : rest = (takeDigits 10 t).2 := by
      simp only [readOctet] at hread
      split at hread
      · cases hread
      · exact (congrArg Prod.snd (Option.some.inj hread)).symm
    simp [hrest, hchar]

/-! ## Groups -/

/-- The marks that stand behind a group. -/
def groupMarks : List Char := [':', '%', ']']

/-- The marks behind a group are among all marks. -/
theorem groupMarks_subset : groupMarks ⊆ marks := by decide

/-- A group is read up to one of its marks. -/
theorem readGroup_toDigits (g : UInt16) {rest : Text} (hrest : StartsIn groupMarks rest) :
    readGroup (Nat.toDigits 16 g.toNat ++ rest) = some (g, rest) := by
  obtain ⟨ds, hds⟩ := exists_digits (by decide : 1 < 16) g.toNat
  have hlength : ds.length ≤ 4 :=
    hds.length_le (by decide) (by decide) (by have := g.toNat_lt; omega)
  have hlong : ¬ 4 < ds.length := by omega
  have hread : takeDigits 16 (Nat.toDigits 16 g.toNat ++ rest) = (ds, rest) := by
    rw [hds.text]
    exact takeDigits_append (by decide) hds.small (hrest.mono groupMarks_subset)
  simp only [readGroup, hread, hds.value]
  simp [hds.ne_nil, hlong]

/-- A group does not begin an address of four numbers. -/
theorem readIPv4_toDigits (g : UInt16) {rest : Text} (hrest : StartsIn groupMarks rest) :
    readIPv4 (Nat.toDigits 16 g.toNat ++ rest) = none := by
  apply readIPv4_eq_none
  obtain ⟨ds, hds⟩ := exists_digits (by decide : 1 < 16) g.toNat
  have hpoint : ∀ d < 16, Nat.digitChar d ≠ '.' := by decide
  rw [hds.text]
  -- the digits in base ten are a beginning of the group, so a character of the group or what stands
  -- behind it comes next
  have hgo : ∀ ds : List Nat, (∀ d ∈ ds, d < 16) →
      (takeDigits 10 (ds.map Nat.digitChar ++ rest)).2.head? ≠ some '.' := by
    intro ds hsmall
    induction ds with
    | nil =>
      rw [List.map_nil, List.nil_append, takeDigits_mark (hrest.mono groupMarks_subset)]
      intro hhead
      exact absurd (hrest '.' hhead) (by decide)
    | cons d ds ih =>
      have htail := ih fun x hx => hsmall x (List.mem_cons_of_mem _ hx)
      rw [List.map_cons, List.cons_append, takeDigits]
      cases Text.digitIn? 10 (Nat.digitChar d) with
      | none => exact fun h => hpoint d (hsmall d (List.mem_cons_self ..)) (Option.some.inj h)
      | some v => exact htail
  exact hgo ds hds.small

/-- What stands behind groups that have been read to their end: it does not go on the last of them,
and is no colon with a group behind it. -/
structure Stops (rest : Text) : Prop where
  start : StartsIn groupMarks rest
  colon : ∀ more, rest = ':' :: more → StartsIn marks more

/-- Groups have been read to their end where a scope or a bracket follows. -/
theorem Stops.of_startsIn {rest : Text} (h : StartsIn ['%', ']'] rest) : Stops rest := by
  refine ⟨h.mono (by decide), ?_⟩
  rintro more rfl
  exact absurd (h ':' rfl) (by decide)

/-- Groups have been read to their end where two colons follow. -/
theorem Stops.colons (rest : Text) : Stops (':' :: ':' :: rest) := by
  refine ⟨.cons (by decide) _, ?_⟩
  rintro more hmore
  obtain rfl : ':' :: rest = more := List.tail_eq_of_cons_eq hmore
  exact .cons (by decide) _

/-- There is no group where a mark stands. -/
theorem readGroup_mark {t : Text} (h : StartsIn marks t) : readGroup t = none := by
  simp [readGroup, takeDigits_mark h]

/-- There is no address of four numbers where a mark stands. -/
theorem readIPv4_mark {t : Text} (h : StartsIn marks t) : readIPv4 t = none := by
  simp [readIPv4, readOctet, takeDigits_mark h]

/-- The groups behind the first one. -/
def followed (gs : List UInt16) : Text := gs.flatMap fun g => ':' :: Nat.toDigits 16 g.toNat

/-- Groups are written as the first one and those behind it. -/
theorem groupsText_cons (g : UInt16) (gs : List UInt16) :
    groupsText (g :: gs) = Nat.toDigits 16 g.toNat ++ followed gs := by
  induction gs generalizing g with
  | nil => simp [groupsText, followed, List.intercalate]
  | cons h gs ih =>
    have hstep : groupsText (g :: h :: gs) =
        Nat.toDigits 16 g.toNat ++ ':' :: groupsText (h :: gs) := by
      simp [groupsText, List.intercalate]
    rw [hstep, ih]
    simp [followed]

/-- Behind a group there is the mark of the next one, or what stands behind all of them. -/
theorem startsIn_followed (gs : List UInt16) {rest : Text} (h : StartsIn groupMarks rest) :
    StartsIn groupMarks (followed gs ++ rest) := by
  cases gs with
  | nil => exact h
  | cons g gs => exact .cons (by decide) _

section

variable {gs : List UInt16} {room : Nat} {rest t : Text} {first : Bool}

/-- The reader goes on behind a group. -/
theorem readGroups_step {g : UInt16} {mixed : Bool} {tail : Text}
    (hstart : (if first then some t else readChar ':' t) = some (Nat.toDigits 16 g.toNat ++ rest))
    (hrest : StartsIn groupMarks rest) (htail : readGroups room false rest = (gs, mixed, tail)) :
    readGroups (room + 1) first t = (g :: gs, mixed, tail) := by
  have hnot : (if room = 0 then none else readIPv4 (Nat.toDigits 16 g.toNat ++ rest)) = none := by
    rw [readIPv4_toDigits g hrest, ite_self]
  simp only [readGroups, hstart, Option.bind_some, hnot, readGroup_toDigits g hrest, htail]

/-- The reader stops where no group begins. -/
theorem readGroups_stop
    (hstart : ∀ more, (if first then some t else readChar ':' t) = some more → StartsIn marks more) :
    readGroups room first t = ([], false, t) := by
  cases room with
  | zero => rfl
  | succ room =>
    rw [readGroups]
    cases hmore : if first = true then some t else readChar ':' t with
    | none => simp
    | some more =>
      have hmarks := hstart more hmore
      simp [readIPv4_mark hmarks, readGroup_mark hmarks]

/-- An address of four numbers is read as the last two groups. -/
theorem readGroups_mixed (room : Nat) (x : IPv4) (hrest : StartsIn marks rest) :
    readGroups (room + 2) false (':' :: (x.toText ++ rest)) = (x.groups, true, rest) := by
  simp [readGroups, readChar, readIPv4_toText x hrest]

/-- As many groups as stand there are read, if there is room for them. -/
theorem readGroups_followed (hroom : gs.length ≤ room) (hrest : Stops rest) :
    readGroups room false (followed gs ++ rest) = (gs, false, rest) := by
  induction gs generalizing room with
  | nil =>
    refine readGroups_stop fun more hmore => hrest.colon more ?_
    cases rest with
    | nil => cases hmore
    | cons c tail =>
      have hcolon : c = ':' ∧ tail = more := by simpa [readChar, followed] using hmore
      rw [hcolon.1, hcolon.2]
  | cons g gs ih =>
    cases room with
    | zero => simp at hroom
    | succ room =>
      have hfit : gs.length ≤ room := by simpa using hroom
      exact readGroups_step (by simp [followed, readChar]) (startsIn_followed gs hrest.start)
        (ih hfit)

/-- Groups are read to their end if there is room for them. -/
theorem readGroups_groupsText (gs : List UInt16) (hroom : gs.length ≤ room) (hrest : Stops rest) :
    readGroups room true (groupsText gs ++ rest) = (gs, false, rest) := by
  cases gs with
  | nil =>
    refine readGroups_stop fun more hmore => ?_
    obtain rfl : rest = more := Option.some.inj hmore
    exact hrest.start.mono groupMarks_subset
  | cons g gs =>
    cases room with
    | zero => simp at hroom
    | succ room =>
      have hfit : gs.length ≤ room := by simpa using hroom
      refine readGroups_step ?_ (startsIn_followed gs hrest.start) (readGroups_followed hfit hrest)
      simp [groupsText_cons]

end

/-! ## The run that is left out -/

/-- A run of true values in a list: where it begins, and how long it is. -/
def IsRun (bs : List Bool) (run : Nat × Nat) : Prop :=
  ∃ before after, before.length = run.1 ∧ bs = before ++ List.replicate run.2 true ++ after

/-- A run in a list is a run in every longer one. -/
theorem IsRun.append {bs : List Bool} {run : Nat × Nat} (h : IsRun bs run) (more : List Bool) :
    IsRun (bs ++ more) run := by
  obtain ⟨before, after, hlength, rfl⟩ := h
  exact ⟨before, after ++ more, hlength, by simp⟩

/-- The search goes on behind what it has seen, which ends in `current` true values. -/
theorem isRun_longestRunFrom (bs seen : List Bool) {current : Nat} {best : Nat × Nat}
    (hcurrent : ∃ before, seen = before ++ List.replicate current true) (hbest : IsRun seen best) :
    IsRun (seen ++ bs) (longestRunFrom seen.length current best bs) := by
  induction bs generalizing seen current best with
  | nil => simpa [longestRunFrom] using hbest
  | cons b bs ih =>
    obtain ⟨before, hseen⟩ := hcurrent
    have hlength : (seen ++ [b]).length = seen.length + 1 := by simp
    rw [List.append_cons]
    cases b with
    | true =>
      have hnow : seen ++ [true] = before ++ List.replicate (current + 1) true := by
        rw [hseen, List.append_assoc, ← List.replicate_succ']
      rw [longestRunFrom, ← hlength]
      refine ih _ ⟨before, hnow⟩ ?_
      split
      · refine ⟨before, [], ?_, by simpa using hnow⟩
        have htotal := congrArg List.length hnow
        simp only [List.length_append, List.length_replicate, List.length_singleton] at htotal ⊢
        omega
      · exact hbest.append [true]
    | false =>
      rw [longestRunFrom, ← hlength]
      exact ih _ ⟨seen ++ [false], by simp⟩ (hbest.append [false])

/-- The longest run is a run. -/
theorem isRun_longestRun (bs : List Bool) : IsRun bs (longestRun bs) :=
  isRun_longestRunFrom bs [] ⟨[], rfl⟩ ⟨[], [], rfl, rfl⟩

/-- The groups that are left out are zero. -/
theorem eq_zeros_of_isRun (gs : List UInt16) {start length : Nat}
    (h : IsRun (gs.map (· == 0)) (start, length)) :
    gs = gs.take start ++ List.replicate length 0 ++ gs.drop (start + length) := by
  obtain ⟨before, after, hbefore, hmap⟩ := h
  have hmapped : ((gs.drop start).take length).map (· == 0) = List.replicate length true := by
    rw [List.map_take, List.map_drop, hmap, List.append_assoc, List.drop_left' hbefore,
      List.take_left' (List.length_replicate ..)]
  have hzeros : (gs.drop start).take length = List.replicate length 0 := by
    rw [List.eq_replicate_iff] at hmapped ⊢
    refine ⟨by simpa using hmapped.1, fun g hg => ?_⟩
    simpa using hmapped.2 _ (List.mem_map_of_mem hg)
  rw [← hzeros, List.append_assoc, ← List.drop_drop, List.take_append_drop,
    List.take_append_drop]

/-! ## Addresses of eight groups -/

/-- Two groups are the groups of the four numbers that their halves are. -/
theorem IPv4.groups_of_words (g h : UInt16) :
    (IPv4.groups ⟨UInt8.ofNat (g.toNat / 256), UInt8.ofNat g.toNat, UInt8.ofNat (h.toNat / 256),
      UInt8.ofNat h.toNat⟩) = [g, h] := by
  have hword : ∀ w : UInt16,
      UInt16.ofNat ((UInt8.ofNat (w.toNat / 256)).toNat * 256 + (UInt8.ofNat w.toNat).toNat) =
        w := by
    intro w
    have hw := w.toNat_lt
    apply UInt16.toNat.inj
    rw [UInt16.toNat_ofNat', UInt8.toNat_ofNat', UInt8.toNat_ofNat']
    omega
  rw [IPv4.groups, hword, hword]

/-- The three forms of an address of eight groups: with an address of four numbers at its end, with
a run of zero groups left out, or with all its groups. -/
theorem IPv6.toText_cases (x : IPv6) :
    (∃ v : IPv4, x.groups = [0, 0, 0, 0, 0, 0xffff] ++ v.groups ∧
      x.toText = "::ffff:".toList ++ v.toText) ∨
    (∃ front zeros back, 1 < zeros ∧ x.groups = front ++ List.replicate zeros 0 ++ back ∧
      x.toText = groupsText front ++ [':', ':'] ++ groupsText back) ∨
    x.toText = groupsText x.groups := by
  rw [IPv6.toText]
  split
  · next g h hgroups => exact .inl ⟨_, by rw [IPv4.groups_of_words, hgroups]; rfl, rfl⟩
  · have hzeros := eq_zeros_of_isRun x.groups (isRun_longestRun (x.groups.map (· == 0)))
    dsimp only
    split
    · next hlong => exact .inr (.inl ⟨_, _, _, hlong, hzeros, rfl⟩)
    · exact .inr (.inr rfl)

/-- An address is made of its groups. -/
theorem IPv6.ofGroups?_groups (x : IPv6) : IPv6.ofGroups? x.groups = some x := by
  simp [IPv6.ofGroups?, x.eight]

/-- Where two colons stand for zero groups, those before and those behind them are read. -/
theorem readIPv6_colons {t behind rest : Text} {front back : List UInt16} {mixed : Bool} {x : IPv6}
    (hfront : readGroups 8 true t = (front, false, ':' :: ':' :: behind))
    (hback : readGroups (7 - front.length) true behind = (back, mixed, rest))
    (hroom : front.length + back.length < 8)
    (hgroups : x.groups =
      front ++ List.replicate (8 - front.length - back.length) 0 ++ back) :
    readIPv6 t = some (x, rest) := by
  have hne : front.length ≠ 8 := by omega
  have hof := x.ofGroups?_groups
  rw [hgroups] at hof
  simp only [readIPv6, hfront, if_neg hne, readChar, ↓reduceIte, Option.bind_eq_bind,
    Option.bind_some, hback, hof, Option.map_some, Bool.false_eq_true]

/-- An address of eight groups is read from its text. -/
theorem readIPv6_toText (x : IPv6) {rest : Text} (hrest : StartsIn ['%', ']'] rest) :
    readIPv6 (x.toText ++ rest) = some (x, rest) := by
  have height := x.eight
  obtain ⟨v, hgroups, htext⟩ | ⟨front, zeros, back, hlong, hgroups, htext⟩ | htext := x.toText_cases
  · have hmark : Nat.toDigits 16 (0xffff : UInt16).toNat = "ffff".toList := by decide
    have hfront := readGroups_groupsText [] (Nat.zero_le 8)
      (Stops.colons ("ffff:".toList ++ (v.toText ++ rest)))
    have hback : readGroups 7 true ("ffff:".toList ++ (v.toText ++ rest)) =
        (0xffff :: v.groups, true, rest) :=
      readGroups_step (by rw [hmark]; rfl) (.cons (by decide) _)
        (readGroups_mixed 4 v (hrest.mono (by decide)))
    rw [htext]
    exact readIPv6_colons hfront hback (by simp [IPv4.groups]) hgroups
  · have hlength : front.length + zeros + back.length = 8 := by
      rw [← height, hgroups, List.length_append, List.length_append, List.length_replicate]
    have hfront := readGroups_groupsText front (by omega : front.length ≤ 8)
      (Stops.colons (groupsText back ++ rest))
    have hback := readGroups_groupsText back (by omega : back.length ≤ 7 - front.length)
      (Stops.of_startsIn hrest)
    have hzeros : 8 - front.length - back.length = zeros := by omega
    rw [htext, List.append_assoc, List.append_assoc]
    exact readIPv6_colons hfront hback (by omega) (by rw [hzeros, hgroups])
  · have hread := readGroups_groupsText x.groups height.le (Stops.of_startsIn hrest)
    have hof := x.ofGroups?_groups
    rw [htext]
    simp only [readIPv6, hread, if_pos height, hof, Option.map_some]

/-- Groups are no address of four numbers. -/
theorem readIPv4_groupsText (gs : List UInt16) {rest : Text} (hrest : StartsIn groupMarks rest) :
    readIPv4 (groupsText gs ++ rest) = none := by
  cases gs with
  | nil => exact readIPv4_mark (hrest.mono groupMarks_subset)
  | cons g gs =>
    rw [groupsText_cons, List.append_assoc]
    exact readIPv4_toDigits g (startsIn_followed gs hrest)

/-- The text of an address of eight groups begins no address of four numbers. -/
theorem readIPv4_toText_groups (x : IPv6) {rest : Text} (hrest : StartsIn groupMarks rest) :
    readIPv4 (x.toText ++ rest) = none := by
  obtain ⟨v, -, htext⟩ | ⟨front, zeros, back, -, -, htext⟩ | htext := x.toText_cases
  · rw [htext]
    exact readIPv4_mark (.cons (by decide) _)
  · rw [htext, List.append_assoc, List.append_assoc]
    exact readIPv4_groupsText front (.cons (by decide) _)
  · rw [htext]
    exact readIPv4_groupsText x.groups hrest

/-- An address is read from its text. -/
theorem Address.ofText?_toText (a : Address) : Address.ofText? a.toText = some a := by
  cases a with
  | v4 x =>
    have hread := readIPv4_toText x (.nil marks)
    rw [List.append_nil] at hread
    simp [Address.ofText?, Address.toText, hread, complete]
  | v6 x =>
    have hnone := readIPv4_toText_groups x (.nil groupMarks)
    have hread := readIPv6_toText x (.nil _)
    rw [List.append_nil] at hnone hread
    simp [Address.ofText?, Address.toText, hnone, hread, complete]

/-! ## Addresses with a port -/

/-- A number below a bound is read up to the next mark. -/
theorem readBelow_ofNat {limit n : Nat} (hn : n < limit) {rest : Text}
    (hrest : StartsIn marks rest) : readBelow limit (Text.ofNat n ++ rest) = some (n, rest) := by
  obtain ⟨ds, hds⟩ := exists_digits (by decide : 1 < 10) n
  have hread : takeDigits 10 (Text.ofNat n ++ rest) = (ds, rest) := by
    rw [Text.ofNat, hds.text]
    exact takeDigits_append (by decide) hds.small hrest
  simp only [readBelow, hread, hds.value]
  simp [hds.ne_nil, hn]

/-- The number of a port is read behind its colon. -/
theorem readPort_ofNat (port : UInt16) :
    readPort (':' :: Text.ofNat port.toNat) = some (port, []) := by
  have hread := readBelow_ofNat port.toNat_lt (.nil marks)
  rw [List.append_nil] at hread
  simp [readPort, readChar, UInt16.size, hread]

/-- A scope as it is written before the closing bracket. -/
def scopeText (scope : UInt32) : Text := if scope = 0 then [] else '%' :: Text.ofNat scope.toNat

/-- Where a scope may stand there is its mark, or the closing bracket. -/
theorem startsIn_scopeText (scope : UInt32) (rest : Text) :
    StartsIn ['%', ']'] (scopeText scope ++ ']' :: rest) := by
  unfold scopeText
  split <;> exact .cons (by decide) _

/-- A scope is read up to the closing bracket. -/
theorem readScope_scopeText (scope : UInt32) (rest : Text) :
    readScope (scopeText scope ++ ']' :: rest) = (scope, ']' :: rest) := by
  by_cases hscope : scope = 0
  · simp [scopeText, hscope, readScope, readChar]
  · have hread := readBelow_ofNat scope.toNat_lt (.cons (by decide : ']' ∈ marks) rest)
    simp [scopeText, hscope, readScope, readChar, UInt32.size, hread]

/-- An address with a port is read from its text. -/
theorem SocketAddress.ofText?_toText (s : SocketAddress) :
    SocketAddress.ofText? s.toText = some s := by
  cases s with
  | v4 x port =>
    have hread := readIPv4_toText x (.cons (by decide : ':' ∈ marks) (Text.ofNat port.toNat))
    simp [SocketAddress.ofText?, SocketAddress.toText, readSocketV4, hread, readPort_ofNat, complete]
  | v6 x scope port =>
    have htext : (SocketAddress.v6 x scope port).toText =
        '[' :: (x.toText ++ (scopeText scope ++ ']' :: ':' :: Text.ofNat port.toNat)) := by
      simp [SocketAddress.toText, scopeText]
    have hnone : readSocketV4 (SocketAddress.v6 x scope port).toText = none := by
      rw [htext]
      simp [readSocketV4, readIPv4, readOctet, takeDigits, Text.digitIn?]
    have hread := readIPv6_toText x (startsIn_scopeText scope (':' :: Text.ofNat port.toNat))
    rw [SocketAddress.ofText?, hnone, Option.none_or, htext]
    simp [readSocketV6, readChar, hread, readScope_scopeText, readPort_ofNat, complete]

/-! ## The address in a text -/

/-- No address begins with a bracket. -/
theorem Address.ofText?_bracket (rest : Text) : Address.ofText? ('[' :: rest) = none := by
  have hmark : takeDigits 10 ('[' :: rest) = ([], '[' :: rest) := by
    simp [takeDigits, Text.digitIn?]
  have hgroups : readGroups 8 true ('[' :: rest) = ([], false, '[' :: rest) := by
    simp [readGroups, readIPv4, readOctet, readGroup, takeDigits, Text.digitIn?]
  simp [Address.ofText?, readIPv4, readOctet, hmark, readIPv6, hgroups, readChar, complete]

/-- No address is written as nothing. -/
theorem Address.toText_ne_nil (a : Address) : a.toText ≠ [] := by
  intro hnil
  have hread := Address.ofText?_toText a
  rw [hnil] at hread
  cases hread

/-- The text of an address without a port is no address with one: it is in no brackets, and nothing
stands behind four numbers. -/
theorem SocketAddress.ofText?_address (a : Address) : SocketAddress.ofText? a.toText = none := by
  have hsix : readSocketV6 a.toText = none := by
    cases htext : a.toText with
    | nil => rfl
    | cons c rest =>
      have hc : c ≠ '[' := by
        rintro rfl
        have hread := Address.ofText?_toText a
        rw [htext, Address.ofText?_bracket] at hread
        cases hread
      simp [readSocketV6, readChar, hc]
  have hfour : readSocketV4 a.toText = none := by
    cases a with
    | v4 x =>
      have hread := readIPv4_toText x (.nil marks)
      rw [List.append_nil] at hread
      simp [readSocketV4, Address.toText, hread, readPort, readChar]
    | v6 x =>
      have hread := readIPv4_toText_groups x (.nil groupMarks)
      rw [List.append_nil] at hread
      simp [readSocketV4, Address.toText, hread]
  rw [SocketAddress.ofText?, hfour, hsix]
  rfl

/-- The address in the text of an address is that address. -/
theorem addressPart_of_address (a : Address) : addressPart a.toText = a.toText := by
  simp [addressPart, SocketAddress.ofText?_address, Address.ofText?_toText]

/-- The address in the text of a peer is the peer's. -/
theorem addressPart_of_peer {t : Text} {s : SocketAddress} (h : SocketAddress.ofText? t = some s) :
    addressPart t = s.address.toText := by
  simp [addressPart, h]

end SiteGate.Net
