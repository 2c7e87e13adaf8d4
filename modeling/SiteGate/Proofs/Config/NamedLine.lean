import SiteGate.Proofs.Config.Setting

/-!
# Lines that hold settings and lines that are headers

What the reader asks of a line comes down to two relations. A line holds a setting if its lower case
begins with the setting's name, and it is the header of a section if it is the section's name in
any case, with blanks around it. No line is both, a line that holds a setting is no comment, and
all settings that a line holds have one name.

A line whose lower case is exactly a section's name is a header of that section. The converse needs
that there are no blanks around the name.
-/

set_option autoImplicit false

namespace SiteGate.Config

/-- A line holds a setting: its lower case begins with the setting's name. -/
def Setting.HeldBy (x : Setting) (line : Text) : Prop := x.name <+: Text.lower line

/-- Whether a line holds a setting can be decided. -/
instance (x : Setting) (line : Text) : Decidable (x.HeldBy line) :=
  inferInstanceAs (Decidable (_ <+: _))

/-- The first element of a list that passes a test is the only one that does. -/
theorem find?_eq_some_iff_of_unique {α : Type} {l : List α} {test : α → Bool} {a : α}
    (hunique : ∀ b ∈ l, ∀ c ∈ l, test b = true → test c = true → b = c) :
    l.find? test = some a ↔ a ∈ l ∧ test a = true := by
  constructor
  · intro h
    exact ⟨List.mem_of_find?_eq_some h, List.find?_some h⟩
  · rintro ⟨hmem, htest⟩
    cases hfound : l.find? test with
    | none => exact absurd htest (List.find?_eq_none.mp hfound a hmem)
    | some b =>
      have hb : test b = true := List.find?_some hfound
      rw [hunique b (List.mem_of_find?_eq_some hfound) a hmem hb htest]

/-! ## Names of sections -/

namespace Section

/-- There are no sections but those of the list. -/
theorem mem_all (s : Section) : s ∈ all := by cases s <;> decide

/-- No two sections have the same name. -/
theorem eq_of_name_eq {s s' : Section} (h : s.name = s'.name) : s = s' := by
  have key : ∀ s ∈ all, ∀ s' ∈ all, s.name = s'.name → s = s' := by decide +kernel
  exact key s (mem_all s) s' (mem_all s') h

/-- A section's name is made of lower-case letters other than k. -/
theorem name_chars (s : Section) {c : Char} (hc : c ∈ s.name) :
    Text.isAscii c = true ∧ Text.isBlank c = false ∧ c.toLower = c ∧ c ≠ 'k' ∧ c ≠ '#' := by
  have key : ∀ s ∈ all, ∀ c ∈ s.name, Text.isAscii c = true ∧ Text.isBlank c = false ∧
      c.toLower = c ∧ c ≠ 'k' ∧ c ≠ '#' := by
    decide +kernel
  exact key s (mem_all s) c hc

/-- A section's name is in lower case. -/
theorem lowerAscii_name (s : Section) : Text.lowerAscii s.name = s.name := by
  have key : ∀ s ∈ all, Text.lowerAscii s.name = s.name := by decide +kernel
  exact key s (mem_all s)

/-- No section's name is empty. -/
theorem name_ne_nil (s : Section) : s.name ≠ [] := by cases s <;> decide

/-- No key belongs to two sections. -/
theorem eq_of_mem_keys {s s' : Section} {k : Key} (h : k ∈ s.keys) (h' : k ∈ s'.keys) : s = s' := by
  have key : ∀ s ∈ all, ∀ s' ∈ all, ∀ k ∈ s.keys, k ∈ s'.keys → s = s' := by decide
  exact key s (mem_all s) s' (mem_all s') k h h'

/-- The keys of a section have different names. -/
theorem eq_of_key_name_eq {s : Section} {k k' : Key} (hk : k ∈ s.keys) (hk' : k' ∈ s.keys)
    (h : k.name = k'.name) : k = k' := by
  have key : ∀ s ∈ all, ∀ k ∈ s.keys, ∀ k' ∈ s.keys, k.name = k'.name → k = k' := by
    decide +kernel
  exact key s (mem_all s) k hk k' hk' h

/-- A text names a section just if it is the section's name but for the case of the letters. -/
theorem ofName?_eq_some_iff {w : Text} {s : Section} :
    ofName? w = some s ↔ Text.lowerAscii w = s.name := by
  have hsame : ∀ s : Section, Text.sameIgnoringCase w s.name = true ↔
      Text.lowerAscii w = s.name := by
    intro s
    rw [Text.sameIgnoringCase, lowerAscii_name, beq_iff_eq]
  unfold ofName?
  rw [find?_eq_some_iff_of_unique, hsame]
  · simp [mem_all s]
  · intro b _ c _ hb hc
    exact eq_of_name_eq (((hsame b).mp hb).symm.trans ((hsame c).mp hc))

/-- A line is a header just if it is a section's name but for case and the blanks around it. -/
theorem ofBareLine?_eq_some_iff {line : Text} {s : Section} :
    ofBareLine? line = some s ↔ Text.lowerAscii (Text.trim line) = s.name :=
  ofName?_eq_some_iff

end Section

/-- What differs from a section's name in case only is made of characters of the first 128 code
points and holds no blanks. -/
theorem chars_of_lowerAscii_name {w : Text} {s : Section} (h : Text.lowerAscii w = s.name)
    {c : Char} (hc : c ∈ w) : Text.isAscii c = true ∧ Text.isBlank c = false ∧ c ≠ '#' := by
  have hmem : c.toLower ∈ s.name := by
    rw [← h]
    exact List.mem_map_of_mem hc
  obtain ⟨hascii, hblank, -, -, hsign⟩ := s.name_chars hmem
  refine ⟨Text.isAscii_of_toLower hascii, ?_, ?_⟩
  · by_contra hc
    have hsame : c.toLower = c :=
      Text.forall_isBlank (p := fun c => c.toLower = c) (by decide) (by simpa using hc)
    exact hc (hsame ▸ hblank)
  · rintro rfl
    exact hsign rfl

/-! ## Headers -/

namespace Section

/-- A header is the section's name, in any case, with blanks around it. -/
theorem exists_eq_of_ofBareLine? {line : Text} {s : Section} (h : ofBareLine? line = some s) :
    ∃ pre w post, Text.Blank pre ∧ Text.Blank post ∧ line = pre ++ w ++ post ∧
      Text.lowerAscii w = s.name := by
  obtain ⟨pre, post, hpre, hpost, heq, -⟩ := Text.exists_eq_trim line
  exact ⟨pre, Text.trim line, post, hpre, hpost, heq, ofBareLine?_eq_some_iff.mp h⟩

/-- A line that holds a character which is in no section's name is no header. -/
theorem ofBareLine?_of_mem {line : Text} {c : Char} (hc : c ∈ line)
    (hblank : Text.isBlank c = false) (hlower : c.toLower = c)
    (hforeign : ∀ s : Section, c ∉ s.name) :
    ofBareLine? line = none := by
  cases hs : ofBareLine? line with
  | none => rfl
  | some s =>
    exfalso
    obtain ⟨pre, w, post, hpre, hpost, rfl, hw⟩ := exists_eq_of_ofBareLine? hs
    have hmem : c ∈ w := by
      rcases List.mem_append.mp hc with hc | hc
      · rcases List.mem_append.mp hc with hc | hc
        · rw [hpre c hc] at hblank
          cases hblank
        · exact hc
      · rw [hpost c hc] at hblank
        cases hblank
    apply hforeign s
    rw [← hw, ← hlower]
    exact List.mem_map_of_mem hmem

/-- A line whose lower case is a section's name is a header of the section. -/
theorem ofBareLine?_of_lower_eq {line : Text} {s : Section} (h : Text.lower line = s.name) :
    ofBareLine? line = some s := by
  have hline : Text.lowerAscii line = s.name :=
    Text.lowerAscii_of_lowerAfter_eq (fun c hc => (s.name_chars hc).1)
      (fun hk => (s.name_chars hk).2.2.2.1 rfl) h
  rw [ofBareLine?_eq_some_iff, Text.trim_of_isTrimmed, hline]
  exact Text.IsTrimmed.of_forall fun c hc => (chars_of_lowerAscii_name hline hc).2.1

/-- The first word of a header is the section's name. -/
theorem ofHeader?_of_ofBareLine? {line : Text} {s : Section} (h : ofBareLine? line = some s) :
    ofHeader? line = some s := by
  obtain ⟨pre, w, post, hpre, hpost, rfl, hw⟩ := exists_eq_of_ofBareLine? h
  have hchars := fun c hc => (chars_of_lowerAscii_name hw (c := c) hc).2.1
  have hne : w ≠ [] := by
    rintro rfl
    exact s.name_ne_nil hw.symm
  have hhead : ∀ c ∈ (w ++ post).head?, Text.isBlank c = false := by
    intro c hc
    cases w with
    | nil => exact absurd rfl hne
    | cons d w => exact hchars c (by simp_all)
  have hword : Text.firstWord? (pre ++ w ++ post) = some w := by
    rw [List.append_assoc, Text.firstWord?, Text.trimStart_append_blank hpre,
      ← Text.firstWord?, Text.firstWord?_of_head hhead (by simp [hne]),
      Text.word_append hchars fun c hc => hpost c (List.mem_of_mem_head? hc)]
  rw [ofHeader?, hword]
  exact ofName?_eq_some_iff.mpr hw

/-- A line whose first word is a section's name begins with that name, in any case, after blanks. -/
theorem exists_eq_of_ofHeader? {line : Text} {s : Section} (h : ofHeader? line = some s) :
    ∃ pre w post, Text.Blank pre ∧ line = pre ++ w ++ post ∧ Text.lowerAscii w = s.name := by
  obtain ⟨w, hword, hname⟩ := Option.bind_eq_some_iff.mp h
  obtain ⟨pre, hpre, hline, -⟩ := Text.exists_eq_trimStart line
  have hw : (Text.trimStart line).takeWhile (!Text.isBlank ·) = w := by
    unfold Text.firstWord? at hword
    split at hword
    · cases hword
    · exact Option.some.inj hword
  refine ⟨pre, w, (Text.trimStart line).dropWhile (!Text.isBlank ·), hpre, ?_,
    ofName?_eq_some_iff.mp hname⟩
  rw [← hw, List.append_assoc, List.takeWhile_append_dropWhile]
  exact hline

end Section

/-- A line that does not begin with a blank is passed over just if it begins with a number sign. -/
theorem isSkippable_of_head {line : Text} {c : Char} (hc : line.head? = some c)
    (hblank : Text.isBlank c = false) : isSkippable line = decide (c = '#') := by
  have hhead := Text.head?_trim hc hblank
  unfold isSkippable
  cases hline : Text.trim line with
  | nil => simp [hline] at hhead
  | cons d rest =>
    rw [hline] at hhead
    obtain rfl := Option.some.inj hhead
    rfl

/-- A line whose first word is a section's name is not passed over. -/
theorem isSkippable_of_ofHeader? {line : Text} {s : Section}
    (h : Section.ofHeader? line = some s) : isSkippable line = false := by
  obtain ⟨pre, w, post, hpre, rfl, hw⟩ := Section.exists_eq_of_ofHeader? h
  cases w with
  | nil => exact absurd hw.symm s.name_ne_nil
  | cons c w =>
    obtain ⟨-, hblank, hsign⟩ := chars_of_lowerAscii_name hw (List.mem_cons_self (a := c) (l := w))
    have htrim : Text.trim (pre ++ c :: w ++ post) = Text.trim (c :: w ++ post) := by
      rw [List.append_assoc, Text.trim, Text.trimStart_append_blank hpre, Text.trim]
    rw [isSkippable, htrim, ← isSkippable, isSkippable_of_head rfl hblank]
    exact decide_eq_false hsign

/-- A header is not passed over. -/
theorem isSkippable_of_ofBareLine? {line : Text} {s : Section}
    (h : Section.ofBareLine? line = some s) : isSkippable line = false :=
  isSkippable_of_ofHeader? (Section.ofHeader?_of_ofBareLine? h)

/-! ## Lines that hold settings -/

namespace Setting

/-- Whether a line holds a setting can be seen from its characters one by one. -/
theorem heldBy_iff {x : Setting} {line : Text} : x.HeldBy line ↔ x.name <+: Text.lowerEach line :=
  Text.prefix_lower_iff (fun _ hc => (x.name_chars hc).1) line

/-- All settings that a line holds have one name. -/
theorem name_eq_of_heldBy {x y : Setting} {line : Text} (hx : x.HeldBy line) (hy : y.HeldBy line) :
    x.name = y.name := by
  rcases List.prefix_or_prefix_of_prefix hx hy with h | h
  · exact name_eq_of_begins h
  · exact (name_eq_of_begins h).symm

/-- A line that holds a setting begins with neither a blank nor a number sign. -/
theorem head_of_heldBy {x : Setting} {line : Text} (h : x.HeldBy line) :
    ∃ c, line.head? = some c ∧ Text.isBlank c = false ∧ c ≠ '#' := by
  rw [heldBy_iff] at h
  cases line with
  | nil => exact absurd (List.prefix_nil.mp h) x.name_ne_nil
  | cons c rest =>
    have hmem : Text.lowerOne c = [c] → c ∈ x.name := by
      intro hone
      rw [Text.lowerEach, List.flatMap_cons, hone] at h
      cases hname : x.name with
      | nil => exact absurd hname x.name_ne_nil
      | cons d rest =>
        rw [hname] at h
        have hd : d = c := by
          obtain ⟨_, heq⟩ := h
          exact (List.cons.inj heq).1
        simp [hd]
    refine ⟨c, rfl, ?_, ?_⟩
    · by_contra hblank
      have hone := hmem (Text.lowerOne_of_isBlank (by simpa using hblank))
      exact hblank (x.name_chars hone).2.1
    · rintro rfl
      exact (x.name_chars (hmem (by decide))).2.2.2.1 rfl

/-- A line that holds a setting is not passed over. -/
theorem isSkippable_of_heldBy {x : Setting} {line : Text} (h : x.HeldBy line) :
    isSkippable line = false := by
  obtain ⟨c, hc, hblank, hsign⟩ := head_of_heldBy h
  rw [isSkippable_of_head hc hblank]
  exact decide_eq_false hsign

/-- The first word of a line that holds a setting is no section's name. -/
theorem ofHeader?_of_heldBy {x : Setting} {line : Text} (h : x.HeldBy line) :
    Section.ofHeader? line = none := by
  cases hs : Section.ofHeader? line with
  | none => rfl
  | some s =>
    exfalso
    obtain ⟨pre, w, post, hpre, rfl, hw⟩ := Section.exists_eq_of_ofHeader? hs
    have hpre' : pre = [] := by
      obtain ⟨c, hc, hblank, -⟩ := head_of_heldBy h
      cases pre with
      | nil => rfl
      | cons b pre =>
        obtain rfl : b = c := by simpa using hc
        rw [hpre b (by simp)] at hblank
        cases hblank
    subst hpre'
    rw [heldBy_iff, Text.lowerEach, List.nil_append, List.flatMap_append, ← Text.lowerEach,
      Text.lowerEach_of_ascii fun c hc => (chars_of_lowerAscii_name hw hc).1, hw] at h
    rcases Text.prefix_append_iff.mp h with h | ⟨m, hm, -⟩
    · exact (x.not_begins_section s).1 h
    · exact (x.not_begins_section s).2 ⟨m, hm.symm⟩

/-- A line that holds a setting is no header. -/
theorem ofBareLine?_of_heldBy {x : Setting} {line : Text} (h : x.HeldBy line) :
    Section.ofBareLine? line = none := by
  cases hs : Section.ofBareLine? line with
  | none => rfl
  | some s =>
    have hhead := Section.ofHeader?_of_ofBareLine? hs
    rw [ofHeader?_of_heldBy h] at hhead
    cases hhead

end Setting

/-! ## What the reader finds -/

/-- The reader finds a directive on a line just if the line holds it. -/
theorem Directive.ofLine?_eq_some_iff {line : Text} {d : Directive} :
    Directive.ofLine? (Text.lower line) = some d ↔ (Setting.directive d).HeldBy line := by
  have hholds : ∀ d : Directive, d.name.isPrefixOf (Text.lower line) = true ↔
      (Setting.directive d).HeldBy line := fun d => List.isPrefixOf_iff_prefix
  have hdistinct : ∀ d d' : Directive, d.name = d'.name → d = d' := by
    intro d d'
    cases d <;> cases d' <;> decide
  unfold Directive.ofLine?
  rw [find?_eq_some_iff_of_unique, hholds]
  · cases d <;> simp
  · intro b _ c _ hb hc
    exact hdistinct b c (Setting.name_eq_of_heldBy ((hholds b).mp hb) ((hholds c).mp hc))

/-- A section finds a key on a line just if the key is one of its own and the line holds it. -/
theorem Section.matchKey?_eq_some_iff {s : Section} {line : Text} {k : Key} :
    s.matchKey? (Text.lower line) = some k ↔ k ∈ s.keys ∧ (Setting.key k).HeldBy line := by
  have hholds : ∀ k : Key, k.name.isPrefixOf (Text.lower line) = true ↔
      (Setting.key k).HeldBy line := fun k => List.isPrefixOf_iff_prefix
  unfold Section.matchKey?
  rw [find?_eq_some_iff_of_unique, hholds]
  intro b hmem c hmem' hb hc
  have hname := Setting.name_eq_of_heldBy ((hholds b).mp hb) ((hholds c).mp hc)
  exact Section.eq_of_key_name_eq hmem hmem' hname

end SiteGate.Config
