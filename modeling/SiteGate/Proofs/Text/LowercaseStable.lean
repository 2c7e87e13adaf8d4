import SiteGate.Proofs.Text.Lowercase

/-!
# What is in lower case stays as it is

Making a text lower case twice is making it lower case once (`lower_lower`). The table of the
upper-case characters decides it: no run of upper-case characters leads into another one, to a
letter A to Z, to the capital sigma or to the dotted capital I. Nor does any lead to a blank or to
the number sign, so these stand in a text in lower case only where they stood before
(`eq_of_mem_lowerChar`).
-/

set_option autoImplicit false

namespace SiteGate.Text

/-! ## Where the runs lead -/

/-- The code point of the first lower case of a run. -/
def CaseRun.low (r : CaseRun) : Nat := ((r.first : Int) + r.shift).toNat

/-- The code point of the last lower case of a run. -/
def CaseRun.high (r : CaseRun) : Nat := ((r.last : Int) + r.shift).toNat

/-- Whether no character of the first run has a lower case in the second one: the lower cases lie
before it, or after it, or between the places where it steps. -/
def CaseRun.avoids (r s : CaseRun) : Bool :=
  r.high.blt s.first || s.last.blt r.low ||
    (s.step.beq 2 && (r.step.beq 2 || r.first.beq r.last) && ((r.low + s.first) % 2).beq 1)

/-- Characters that no run may lead to: the number sign, the letters A to Z, the capital sigma, the
dotted capital I, and the blanks. -/
def barredRuns : List CaseRun :=
  [⟨0x23, 0x23, 1, 0⟩, ⟨0x41, 0x5A, 1, 0⟩, ⟨0x130, 0x130, 1, 0⟩, ⟨0x3A3, 0x3A3, 1, 0⟩,
    ⟨9, 13, 1, 0⟩, ⟨0x20, 0x20, 1, 0⟩, ⟨0x85, 0x85, 1, 0⟩, ⟨0xA0, 0xA0, 1, 0⟩,
    ⟨0x1680, 0x1680, 1, 0⟩, ⟨0x2000, 0x200A, 1, 0⟩, ⟨0x2028, 0x2029, 1, 0⟩,
    ⟨0x202F, 0x202F, 1, 0⟩, ⟨0x205F, 0x205F, 1, 0⟩, ⟨0x3000, 0x3000, 1, 0⟩]

/-- Whether a code point is of one of these characters. -/
def isBarred (n : Nat) : Bool := barredRuns.any (·.holds n)

/-- No lower case of a run has another lower case, or is barred. -/
theorem all_avoids : (caseRuns.all fun r => (caseRuns ++ barredRuns).all r.avoids) = true := by
  decide +kernel

/-- A run and where it leads keep to valid code points. -/
theorem bounds_of_mem {r : CaseRun} (hr : r ∈ caseRuns) :
    (r.low : Int) = r.first + r.shift ∧ (r.high : Int) = r.last + r.shift ∧
      (r.high < 0xD800 ∨ 0xE000 ≤ r.low ∧ r.high < 0x110000) := by
  have key : ∀ r ∈ caseRuns, (r.low : Int) = r.first + r.shift ∧
      (r.high : Int) = r.last + r.shift ∧
        (r.high < 0xD800 ∨ 0xE000 ≤ r.low ∧ r.high < 0x110000) := by
    decide +kernel
  exact key r hr

/-- No run leads into another one, or to a barred character. -/
theorem holds_of_mem {r s : CaseRun} (hr : r ∈ caseRuns) (hs : s ∈ caseRuns ++ barredRuns) {n : Nat}
    (hn : r.holds n = true) : s.holds ((n : Int) + r.shift).toNat = false := by
  have havoids : r.avoids s = true :=
    List.all_eq_true.mp (List.all_eq_true.mp all_avoids r hr) s hs
  obtain ⟨hlow, hhigh, -⟩ := bounds_of_mem hr
  by_contra hholds
  simp only [CaseRun.avoids, CaseRun.holds, Bool.or_eq_true, Bool.and_eq_true, decide_eq_true_eq,
    beq_iff_eq, Nat.beq_eq, Nat.blt_eq, Bool.not_eq_false] at havoids hn hholds
  obtain ⟨⟨hfirst, hlast⟩, hstep⟩ := hn
  obtain ⟨⟨hfirst', hlast'⟩, hstep'⟩ := hholds
  obtain (hbefore | hafter) | ⟨⟨htwo, hr⟩, hparity⟩ := havoids
  · omega
  · omega
  · rw [htwo] at hstep'
    rcases hr with hr | hsingle
    · rw [hr] at hstep
      omega
    · omega

/-- The lower case of an upper-case character that is in a run. -/
def runTarget (r : CaseRun) (c : Char) : Char := Char.ofNat ((c.toNat : Int) + r.shift).toNat

/-- The code point of a lower case is that of the character, shifted by its run. -/
theorem toNat_runTarget {c : Char} {r : CaseRun} (hr : r ∈ caseRuns)
    (h : r.holds c.toNat = true) : (runTarget r c).toNat = ((c.toNat : Int) + r.shift).toNat := by
  have hvalid : ((c.toNat : Int) + r.shift).toNat.isValidChar := by
    obtain ⟨hlow, hhigh, hbounds⟩ := bounds_of_mem hr
    simp only [CaseRun.holds, Bool.and_eq_true, decide_eq_true_eq] at h
    unfold Nat.isValidChar
    omega
  rw [runTarget, Char.ofNat, dif_pos hvalid]
  rfl

/-- Where a run leads there is no upper-case character, and no barred one. -/
theorem holds_runTarget {c : Char} {r : CaseRun} (hr : r ∈ caseRuns)
    (h : r.holds c.toNat = true) :
    (∀ s ∈ caseRuns, s.holds (runTarget r c).toNat = false) ∧
      isBarred (runTarget r c).toNat = false := by
  rw [toNat_runTarget hr h]
  constructor
  · exact fun s hs => holds_of_mem hr (List.mem_append_left _ hs) h
  · rw [isBarred, List.any_eq_false]
    intro s hs
    simp [holds_of_mem hr (List.mem_append_right _ hs) h]

/-! ## Characters in lower case -/

/-- The lower case of a character is a letter A to Z made small, two characters for the dotted
capital I, where a run leads, or the character itself. -/
theorem lowerChar_cases (c : Char) :
    (isAscii c = true ∧ lowerChar c = [c.toLower]) ∨ (c = 'İ' ∧ lowerChar c = ['i', '\u0307']) ∨
    (∃ r ∈ caseRuns, r.holds c.toNat = true ∧ lowerChar c = [runTarget r c]) ∨
    lowerChar c = [c] := by
  by_cases hascii : isAscii c = true
  · exact .inl ⟨hascii, by simp [lowerChar, hascii]⟩
  by_cases hdotted : c = 'İ'
  · exact .inr (.inl ⟨hdotted, by rw [hdotted]; decide⟩)
  cases hrun : caseRuns.find? (·.holds c.toNat) with
  | none => exact .inr (.inr (.inr (by simp [lowerChar, hascii, hdotted, hrun])))
  | some r =>
    refine .inr (.inr (.inl ⟨r, List.mem_of_find?_eq_some hrun, ?_, ?_⟩))
    · simpa using List.find?_some hrun
    · simp [lowerChar, hascii, hdotted, hrun, runTarget]

/-- A character that is none of the letters A to Z is its own lower case among these. -/
theorem toLower_of_not_upper {c : Char} (h : c.toNat ∉ List.range' 65 26) : c.toLower = c := by
  have hupper : ¬ ('A'.val ≤ c.val ∧ c.val ≤ 'Z'.val) := by
    rintro ⟨hlow, hhigh⟩
    have hlow' : 65 ≤ c.toNat := hlow
    have hhigh' : c.toNat ≤ 90 := hhigh
    apply h
    rw [List.mem_range'_1]
    omega
  unfold Char.toLower
  exact dif_neg hupper

/-- A letter A to Z made small is no such letter, no blank and no number sign. -/
theorem toLower_cases (c : Char) :
    c.toLower = c ∨ (isAscii c.toLower = true ∧ c.toLower.toLower = c.toLower ∧
      isBlank c.toLower = false ∧ c.toLower ≠ '#') := by
  by_cases hupper : c.toNat ∈ List.range' 65 26
  · have key : ∀ n ∈ List.range' 65 26, isAscii (Char.ofNat n).toLower = true ∧
        (Char.ofNat n).toLower.toLower = (Char.ofNat n).toLower ∧
          isBlank (Char.ofNat n).toLower = false ∧ (Char.ofNat n).toLower ≠ '#' := by
      decide +kernel
    have hc := key c.toNat hupper
    rw [Char.ofNat_toNat] at hc
    exact .inr hc
  · exact .inl (toLower_of_not_upper hupper)

/-- A character that is its own lower case wherever it stands. -/
structure Settled (c : Char) : Prop where
  sigma : c ≠ 'Σ'
  lower : lowerChar c = [c]

/-- A character of the first 128 that is its own lower case is settled. -/
theorem settled_of_ascii {c : Char} (h : isAscii c = true) (hlower : c.toLower = c) :
    Settled c where
  sigma := by
    rintro rfl
    exact absurd h (by decide)
  lower := by simp [lowerChar, h, hlower]

/-- The lower case of a character in a run is settled. -/
theorem settled_runTarget {c : Char} {r : CaseRun} (hr : r ∈ caseRuns)
    (h : r.holds c.toNat = true) : Settled (runTarget r c) := by
  obtain ⟨hruns, hbarred⟩ := holds_runTarget hr h
  generalize runTarget r c = d at hruns hbarred
  constructor
  · rintro rfl
    revert hbarred
    decide
  · obtain ⟨hascii, hlower⟩ | ⟨rfl, -⟩ | ⟨s, hs, hholds, -⟩ | hself := lowerChar_cases d
    · have hsmall : d.toNat ∉ List.range' 65 26 := by
        intro hmem
        rw [List.mem_range'_1] at hmem
        have hletter : (⟨0x41, 0x5A, 1, 0⟩ : CaseRun).holds d.toNat = true := by
          simp only [CaseRun.holds, Nat.mod_one, Bool.and_eq_true, decide_eq_true_eq,
            beq_iff_eq, and_true]
          omega
        rw [isBarred, List.any_eq_false] at hbarred
        exact hbarred _ (by simp [barredRuns]) hletter
      rw [hlower, toLower_of_not_upper hsmall]
    · revert hbarred
      decide
    · rw [hruns s hs] at hholds
      cases hholds
    · exact hself

/-- The lower case of a character is in lower case. -/
theorem settled_of_mem_lowerChar {c d : Char} (hc : c ≠ 'Σ') (h : d ∈ lowerChar c) :
    Settled d := by
  obtain ⟨hascii, hlower⟩ | ⟨-, hlower⟩ | ⟨r, hr, hholds, hlower⟩ | hlower := lowerChar_cases c
  · rw [hlower, List.mem_singleton] at h
    subst h
    obtain hsame | ⟨hascii', hagain, -, -⟩ := toLower_cases c
    · rw [hsame]
      exact settled_of_ascii hascii hsame
    · exact settled_of_ascii hascii' hagain
  · rw [hlower] at h
    rcases List.mem_cons.mp h with rfl | h
    · exact ⟨by decide, by decide⟩
    · obtain rfl := List.mem_singleton.mp h
      exact ⟨by decide, by decide +kernel⟩
  · rw [hlower, List.mem_singleton] at h
    rw [h]
    exact settled_runTarget hr hholds
  · have hdc : d = c := by simpa [hlower] using h
    rw [hdc]
    exact ⟨hc, hlower⟩

/-- A blank or a number sign is the lower case of itself only. -/
theorem eq_of_mem_lowerChar {c d : Char} (h : d ∈ lowerChar c)
    (hd : isBlank d = true ∨ d = '#') : d = c := by
  obtain ⟨-, hlower⟩ | ⟨-, hlower⟩ | ⟨r, hr, hholds, hlower⟩ | hlower := lowerChar_cases c
  · rw [hlower, List.mem_singleton] at h
    subst h
    obtain hsame | ⟨-, -, hblank, hsign⟩ := toLower_cases c
    · exact hsame
    · rcases hd with hd | hd
      · rw [hblank] at hd
        cases hd
      · exact absurd hd hsign
  · rw [hlower] at h
    rcases List.mem_cons.mp h with rfl | h
    · exact absurd hd (by decide)
    · obtain rfl := List.mem_singleton.mp h
      exact absurd hd (by decide)
  · rw [hlower, List.mem_singleton] at h
    obtain ⟨-, hbarred⟩ := holds_runTarget hr hholds
    rw [← h] at hbarred
    have htrue : isBarred d.toNat = true := by
      rcases hd with hd | rfl
      · exact forall_isBlank (p := fun c => isBarred c.toNat = true) (by decide) hd
      · decide
    rw [htrue] at hbarred
    cases hbarred
  · simpa [hlower] using h

/-! ## Texts in lower case -/

/-- The characters of a text in lower case are settled. -/
theorem settled_of_mem_lowerAfter {t : Text} {cased : Bool} {d : Char}
    (h : d ∈ lowerAfter cased t) : Settled d := by
  induction t generalizing cased with
  | nil => cases h
  | cons c rest ih =>
    rw [lowerAfter] at h
    by_cases hsigma : c = 'Σ'
    · rw [if_pos hsigma] at h
      rcases List.mem_cons.mp h with rfl | h
      · split
        · exact ⟨by decide, by decide +kernel⟩
        · exact ⟨by decide, by decide +kernel⟩
      · exact ih h
    · rw [if_neg hsigma] at h
      rcases List.mem_append.mp h with h | h
      · exact settled_of_mem_lowerChar hsigma h
      · exact ih h

/-- A text of settled characters is its own lower case. -/
theorem lowerAfter_of_settled {t : Text} (h : ∀ c ∈ t, Settled c) (cased : Bool) :
    lowerAfter cased t = t := by
  induction t generalizing cased with
  | nil => rfl
  | cons c rest ih =>
    have hc := h c (by simp)
    rw [lowerAfter, if_neg hc.sigma, hc.lower, ih fun d hd => h d (by simp [hd])]
    rfl

/-- A beginning of a text in lower case is in lower case. -/
theorem lower_of_prefix {t u : Text} (h : u <+: lower t) : lower u = u :=
  lowerAfter_of_settled (fun _ hc => settled_of_mem_lowerAfter (h.subset hc)) false

/-- A text in lower case is its own lower case. -/
theorem lower_lower (t : Text) : lower (lower t) = lower t := lower_of_prefix List.prefix_rfl

/-- The blanks and the number signs of a text in lower case stood in the text before. -/
theorem mem_of_mem_lower {t : Text} {d : Char} (h : d ∈ lower t)
    (hd : isBlank d = true ∨ d = '#') : d ∈ t := by
  suffices hafter : ∀ cased, d ∈ lowerAfter cased t → d ∈ t from hafter false h
  clear h
  intro cased h
  induction t generalizing cased with
  | nil => exact h
  | cons c rest ih =>
    rw [lowerAfter] at h
    by_cases hsigma : c = 'Σ'
    · rw [if_pos hsigma] at h
      rcases List.mem_cons.mp h with rfl | h
      · split at hd <;> exact absurd hd (by decide)
      · exact List.mem_cons_of_mem _ (ih _ h)
    · rw [if_neg hsigma] at h
      rcases List.mem_append.mp h with h | h
      · simp [eq_of_mem_lowerChar h hd]
      · exact List.mem_cons_of_mem _ (ih _ h)

/-- A text begins with a number sign if its lower case does. -/
theorem head?_of_head?_lower {t : Text} (h : (lower t).head? = some '#') : t.head? = some '#' := by
  cases t with
  | nil => cases h
  | cons c rest =>
    rw [lower, lowerAfter] at h
    by_cases hsigma : c = 'Σ'
    · rw [if_pos hsigma] at h
      split at h <;> exact absurd h (by simp)
    · rw [if_neg hsigma, List.head?_append] at h
      have hne : lowerChar c ≠ [] := by
        obtain ⟨-, hc⟩ | ⟨-, hc⟩ | ⟨r, -, -, hc⟩ | hc := lowerChar_cases c <;> simp [hc]
      obtain ⟨d, tail, hd⟩ := List.exists_cons_of_ne_nil hne
      have hfirst : d = '#' := by simpa [hd] using h
      have hmem : '#' ∈ lowerChar c := by simp [hd, hfirst]
      rw [← eq_of_mem_lowerChar hmem (.inr rfl)]
      rfl

/-- A character that ends words and has no case does not change how the text before it becomes lower
case. -/
theorem lower_concat {c : Char} (hignorable : isCaseIgnorable c = false)
    (hcased : isCased c = false) (hsettled : Settled c) (t : Text) :
    lower (t ++ [c]) = lower t ++ [c] := by
  have hstarts : ∀ t : Text, startsCased (t ++ [c]) = startsCased t := by
    intro t
    induction t with
    | nil => simp [startsCased, hignorable, hcased]
    | cons d rest ih => simp [startsCased, ih]
  suffices hafter : ∀ cased, lowerAfter cased (t ++ [c]) = lowerAfter cased t ++ [c] from
    hafter false
  intro cased
  induction t generalizing cased with
  | nil => simp [lowerAfter, hsettled.sigma, hsettled.lower]
  | cons d rest ih =>
    rw [List.cons_append, lowerAfter, lowerAfter, ih, hstarts]
    split <;> simp

/-! ## The beginning of the first word -/

section

variable {w t : Text}

/-- What the first word begins with in lower case has no blanks. -/
theorem isBlank_of_prefix_word (h : w <+: lower (word t)) : ∀ c ∈ w, isBlank c = false := by
  intro c hc
  by_contra hblank
  have hmem := mem_of_mem_lower (h.subset hc) (.inl (by simpa using hblank))
  exact hblank (isBlank_of_mem_word hmem)

/-- If it begins with a number sign, the text does. -/
theorem head?_of_prefix_word (h : w <+: lower (word t)) (hfirst : w.head? = some '#') :
    t.head? = some '#' := by
  obtain ⟨tail, htail⟩ := h
  have hlower : (lower (word t)).head? = some '#' := by
    rw [← htail, List.head?_append, hfirst]
    rfl
  obtain ⟨rest, hline, -⟩ := eq_word_append t
  rw [hline, List.head?_append, head?_of_head?_lower hlower]
  rfl

end

end SiteGate.Text
