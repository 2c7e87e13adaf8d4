import Mathlib.Tactic.ByContra
import SiteGate.Proofs.Text.Trim
import SiteGate.Text.Lowercase

/-!
# Lower case and the first 128 code points

The names in a configuration file are made of characters of the first 128 code points, and lines are
compared with them in lower case. Two facts make that comparison easy to reason about. The final
form of the sigma is the only thing that depends on the characters around it, and it is not among
the first 128; so a line's lower case begins with a name just if the lower cases of its characters,
put side by side, do (`prefix_lower_iff`). And a character beyond the first 128 does not become one
of them, but for the Kelvin sign and, in part, the dotted capital I; so a text whose lower case is
a name without a k differs from it at most in the case of the letters A to Z
(`lowerAscii_eq_of_lower_eq`).
-/

set_option autoImplicit false

namespace SiteGate.Text

/-- The lower case of a character wherever it stands: a sigma never has its final form. -/
def lowerOne (c : Char) : Text := if c = 'Σ' then ['σ'] else lowerChar c

/-- The lower cases of the characters of a text side by side. -/
def lowerEach (t : Text) : Text := t.flatMap lowerOne

/-- A text of characters of the first 128 code points. -/
def Ascii (t : Text) : Prop := ∀ c ∈ t, isAscii c = true

/-! ## Blanks -/

/-- The code points of the blanks. -/
def blankCodes : List Nat :=
  [9, 10, 11, 12, 13, 0x20, 0x85, 0xA0, 0x1680, 0x2000, 0x2001, 0x2002, 0x2003, 0x2004, 0x2005,
    0x2006, 0x2007, 0x2008, 0x2009, 0x200A, 0x2028, 0x2029, 0x202F, 0x205F, 0x3000]

/-- What holds of the twenty-five blanks holds of every blank. -/
theorem forall_isBlank {p : Char → Prop} (h : ∀ n ∈ blankCodes, p (Char.ofNat n)) {c : Char}
    (hc : isBlank c = true) : p c := by
  have hmem : c.toNat ∈ blankCodes := by
    simp only [isBlank, Bool.or_eq_true, Bool.and_eq_true, decide_eq_true_eq, beq_iff_eq] at hc
    simp only [blankCodes, List.mem_cons, List.not_mem_nil, or_false]
    omega
  rw [← Char.ofNat_toNat c]
  exact h _ hmem

/-- A blank is its own lower case. -/
theorem lowerOne_of_isBlank {c : Char} (h : isBlank c = true) : lowerOne c = [c] :=
  forall_isBlank (p := fun c => lowerOne c = [c]) (by decide) h

/-! ## Characters of the first 128 code points -/

/-- The lower case of a character of the first 128 code points is one of them. -/
theorem lowerOne_of_isAscii {c : Char} (h : isAscii c = true) : lowerOne c = [c.toLower] := by
  have hne : c ≠ 'Σ' := by
    rintro rfl
    exact absurd h (by decide)
  simp [lowerOne, lowerChar, hne, h]

/-- Characters of the first 128 code points become lower case one by one. -/
theorem lowerEach_of_ascii {t : Text} (h : Ascii t) : lowerEach t = lowerAscii t := by
  induction t with
  | nil => rfl
  | cons c rest ih =>
    have hrest : lowerEach rest = lowerAscii rest := ih fun d hd => h d (by simp [hd])
    rw [lowerEach, List.flatMap_cons, lowerOne_of_isAscii (h c (by simp)), ← lowerEach, hrest]
    rfl

/-- Among characters of the first 128 code points there is no sigma to take its final form. -/
theorem lowerAfter_of_ascii {t : Text} (h : Ascii t) (cased : Bool) :
    lowerAfter cased t = lowerAscii t := by
  induction t generalizing cased with
  | nil => rfl
  | cons c rest ih =>
    have hc : isAscii c = true := h c (by simp)
    have hne : c ≠ 'Σ' := by
      rintro rfl
      exact absurd hc (by decide)
    have hone : lowerChar c = [c.toLower] := by
      simpa [lowerOne, hne] using lowerOne_of_isAscii hc
    rw [lowerAfter, if_neg hne, hone, ih (fun d hd => h d (by simp [hd]))]
    rfl

/-- The lower case of a text of the first 128 code points. -/
theorem lower_of_ascii {t : Text} (h : Ascii t) : lower t = lowerAscii t :=
  lowerAfter_of_ascii h false

/-- Making the letters A to Z lower case leaves other characters as they are. -/
theorem isAscii_of_toLower {c : Char} (h : isAscii c.toLower = true) : isAscii c = true := by
  by_cases hupper : 'A'.val ≤ c.val ∧ c.val ≤ 'Z'.val
  · have hle : c.toNat ≤ 90 := hupper.2
    simp only [isAscii, decide_eq_true_eq]
    omega
  · have hsame : c.toLower = c := by
      unfold Char.toLower
      exact dif_neg hupper
    rwa [hsame] at h

/-! ## Characters beyond -/

/-- Whether a run of upper-case characters keeps to valid code points from 128 on. -/
def CaseRun.staysBeyond (r : CaseRun) : Bool :=
  128 ≤ (r.first : Int) + r.shift &&
    ((r.last : Int) + r.shift < 0xD800 ||
      (0xE000 ≤ (r.first : Int) + r.shift && (r.last : Int) + r.shift < 0x110000))

/-- The Kelvin sign is the only upper-case character beyond the first 128 code points whose lower
case is among them. -/
theorem staysBeyond_or_kelvin :
    ∀ r ∈ caseRuns, r.staysBeyond = true ∨ (r.first = 0x212A ∧ r.last = 0x212A) := by
  decide +kernel

/-- The lower case of a character beyond the first 128 code points has a character beyond them,
unless it is a k. -/
theorem exists_mem_lowerOne {c : Char} (h : isAscii c = false) :
    ∃ d ∈ lowerOne c, isAscii d = false ∨ d = 'k' := by
  by_cases hsigma : c = 'Σ'
  · exact ⟨'σ', by simp [lowerOne, hsigma], Or.inl (by decide)⟩
  by_cases hdotted : c = 'İ'
  · subst hdotted
    exact ⟨'\u0307', by decide, Or.inl (by decide)⟩
  by_cases hkelvin : c = '\u212A'
  · subst hkelvin
    exact ⟨'k', by decide, Or.inr rfl⟩
  cases hrun : caseRuns.find? (·.holds c.toNat) with
  | none => exact ⟨c, by simp [lowerOne, lowerChar, hsigma, hdotted, h, hrun], Or.inl h⟩
  | some r =>
    have hholds : r.holds c.toNat = true := by simpa using List.find?_some hrun
    simp only [CaseRun.holds, Bool.and_eq_true, decide_eq_true_eq] at hholds
    refine ⟨Char.ofNat (c.toNat + r.shift).toNat, ?_, Or.inl ?_⟩
    · simp [lowerOne, lowerChar, hsigma, hdotted, h, hrun]
    rcases staysBeyond_or_kelvin r (List.mem_of_find?_eq_some hrun) with hstays | ⟨hfirst, hlast⟩
    · simp only [CaseRun.staysBeyond, Bool.and_eq_true, Bool.or_eq_true,
        decide_eq_true_eq] at hstays
      have hvalid : ((c.toNat : Int) + r.shift).toNat.isValidChar := by
        unfold Nat.isValidChar
        omega
      have hcode : (Char.ofNat ((c.toNat : Int) + r.shift).toNat).toNat =
          ((c.toNat : Int) + r.shift).toNat := by
        rw [Char.ofNat, dif_pos hvalid]
        rfl
      simp only [isAscii, decide_eq_false_iff_not]
      omega
    · have hcode : c.toNat = 0x212A := by omega
      exact absurd (by rw [← Char.ofNat_toNat c, hcode]) hkelvin

/-- A text whose lower case has only characters of the first 128 code points, and no k among them,
becomes that text when the letters A to Z are made lower case. -/
theorem lowerAscii_of_lowerAfter_eq {n t : Text} (hn : Ascii n) (hk : 'k' ∉ n) {cased : Bool}
    (h : lowerAfter cased t = n) : lowerAscii t = n := by
  induction t generalizing n cased with
  | nil => exact h
  | cons c rest ih =>
    have hsigma : c ≠ 'Σ' := by
      rintro rfl
      rw [lowerAfter, if_pos rfl] at h
      have hfirst := hn (if cased && !startsCased rest then 'ς' else 'σ') (by rw [← h]; simp)
      split at hfirst <;> cases hfirst
    rw [lowerAfter, if_neg hsigma, ← show lowerOne c = lowerChar c by simp [lowerOne, hsigma]] at h
    have hascii : isAscii c = true := by
      by_contra hc
      obtain ⟨d, hd, hbad⟩ := exists_mem_lowerOne (Bool.eq_false_iff.mpr hc)
      have hmem : d ∈ n := by rw [← h]; exact List.mem_append_left _ hd
      rcases hbad with hbad | rfl
      · rw [hn d hmem] at hbad
        cases hbad
      · exact hk hmem
    rw [lowerOne_of_isAscii hascii] at h
    subst h
    have hrest := ih (fun d hd => hn d (List.mem_cons_of_mem _ hd))
      (fun hd => hk (List.mem_cons_of_mem _ hd)) rfl
    exact congrArg (c.toLower :: ·) hrest

/-! ## Beginnings -/

/-- A text begins like two texts side by side if it ends within the first one, or goes on with the
beginning of the second one. -/
theorem prefix_append_iff {n u v : Text} :
    n <+: u ++ v ↔ n <+: u ∨ ∃ m, n = u ++ m ∧ m <+: v := by
  constructor
  · intro h
    rcases List.prefix_or_prefix_of_prefix h (List.prefix_append u v) with hu | ⟨m, rfl⟩
    · exact Or.inl hu
    · exact Or.inr ⟨m, rfl, (List.prefix_append_right_inj u).mp h⟩
  · rintro (h | ⟨m, rfl, hm⟩)
    · exact h.trans (List.prefix_append u v)
    · exact (List.prefix_append_right_inj u).mpr hm

/-- Whether the lower case of a text begins with a name does not depend on how sigmas end words. -/
theorem prefix_lowerAfter_iff {n : Text} (hn : Ascii n) (cased : Bool) (t : Text) :
    n <+: lowerAfter cased t ↔ n <+: lowerEach t := by
  induction t generalizing n cased with
  | nil => rfl
  | cons c rest ih =>
    rw [lowerEach, List.flatMap_cons, ← lowerEach, lowerAfter]
    by_cases hsigma : c = 'Σ'
    · have hfirst : ∀ (d : Char) (tail : Text), isAscii d = false → (n <+: d :: tail ↔ n = []) := by
        intro d tail hd
        cases n with
        | nil => simp
        | cons e n =>
          have he : e ≠ d := by
            rintro rfl
            rw [hn e (by simp)] at hd
            cases hd
          simp [he]
      subst hsigma
      rw [if_pos rfl, hfirst _ _ (by split <;> decide)]
      exact (hfirst 'σ' _ (by decide)).symm
    · rw [if_neg hsigma, show lowerOne c = lowerChar c by simp [lowerOne, hsigma],
        prefix_append_iff, prefix_append_iff]
      refine or_congr Iff.rfl (exists_congr fun m => and_congr_right fun hm => ih ?_ _)
      subst hm
      exact fun d hd => hn d (by simp [hd])

/-- The lower case of a line begins with a name just if the lower cases of its characters, side by
side, do. -/
theorem prefix_lower_iff {n : Text} (hn : Ascii n) (t : Text) :
    n <+: lower t ↔ n <+: lowerEach t :=
  prefix_lowerAfter_iff hn false t

end SiteGate.Text
