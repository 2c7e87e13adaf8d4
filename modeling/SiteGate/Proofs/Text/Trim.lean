import Mathlib.Data.List.TakeWhile
import SiteGate.Text.Basic

/-!
# Blanks at the ends of a text

A text is trimmed when no blank stands at either end. Trimming finds the one trimmed text that the
given one is made of when blanks are put around it: `trim_append` goes from the parts to the whole,
and `exists_eq_trim` from the whole to its parts. Everything else that is said about trimming, first
words and the two halves of a line is read off these two.
-/

set_option autoImplicit false

namespace SiteGate.Text

/-! ## Tests of all characters -/

-- A text is gone through here. Otherwise it is possible that all characters that there are are gone
-- through, and asked whether they are in the text.

/-- It can be decided whether all characters of a text pass a test. -/
instance (priority := high) decidableForallMem (p : Char → Prop) [DecidablePred p] (t : Text) :
    Decidable (∀ c ∈ t, p c) := List.decidableBAll p t

/-- It can be decided whether some character of a text passes a test. -/
instance (priority := high) decidableExistsMem (p : Char → Prop) [DecidablePred p] (t : Text) :
    Decidable (∃ c ∈ t, p c) := List.decidableBEx p t

/-! ## Blank and trimmed texts -/

/-- A text of nothing but blanks. -/
def Blank (t : Text) : Prop := ∀ c ∈ t, isBlank c = true

/-- A text that neither begins nor ends with a blank. -/
structure IsTrimmed (t : Text) : Prop where
  head : ∀ c ∈ t.head?, isBlank c = false
  last : ∀ c ∈ t.getLast?, isBlank c = false

/-- The empty text is blank. -/
theorem Blank.nil : Blank [] := by
  intro c hc
  cases hc

/-- Two blank texts make a blank text. -/
theorem Blank.append {s t : Text} (hs : Blank s) (ht : Blank t) : Blank (s ++ t) := by
  intro c hc
  rcases List.mem_append.mp hc with hc | hc
  · exact hs c hc
  · exact ht c hc

/-- The empty text is trimmed. -/
theorem IsTrimmed.nil : IsTrimmed [] := ⟨by simp, by simp⟩

/-- A text is trimmed if it holds no blank at all. -/
theorem IsTrimmed.of_forall {t : Text} (h : ∀ c ∈ t, isBlank c = false) : IsTrimmed t :=
  ⟨fun c hc => h c (List.mem_of_mem_head? hc), fun c hc => h c (List.mem_of_mem_getLast? hc)⟩

/-! ## The two ends -/

/-- A blank text has nothing left when its end is trimmed. -/
theorem trimEnd_blank {t : Text} (h : Blank t) : trimEnd t = [] := by
  induction t with
  | nil => rfl
  | cons c rest ih =>
    have hc : isBlank c = true := h c (by simp)
    have hrest : trimEnd rest = [] := ih fun d hd => h d (by simp [hd])
    simp [trimEnd, hc, hrest]

/-- Blanks at the end do not survive trimming. -/
theorem trimEnd_append_blank (t : Text) {post : Text} (h : Blank post) :
    trimEnd (t ++ post) = trimEnd t := by
  induction t with
  | nil => exact trimEnd_blank h
  | cons c rest ih => simp only [List.cons_append, trimEnd, ih]

/-- A text that does not end with a blank is not changed at its end. -/
theorem trimEnd_of_last {t : Text} (h : ∀ c ∈ t.getLast?, isBlank c = false) : trimEnd t = t := by
  induction t with
  | nil => rfl
  | cons c rest ih =>
    cases rest with
    | nil =>
      have hc : isBlank c = false := h c (by simp)
      simp [trimEnd, hc]
    | cons d rest =>
      have hrest : trimEnd (d :: rest) = d :: rest := ih fun e he => h e (by simpa using he)
      rw [trimEnd, hrest]

/-- Trimming the end takes off a blank text, and what is left does not end with a blank. -/
theorem exists_eq_trimEnd (t : Text) :
    ∃ post, Blank post ∧ t = trimEnd t ++ post ∧ ∀ c ∈ (trimEnd t).getLast?, isBlank c = false := by
  induction t with
  | nil => exact ⟨[], Blank.nil, rfl, by simp [trimEnd]⟩
  | cons c rest ih =>
    obtain ⟨post, hpost, heq, hlast⟩ := ih
    cases hrest : trimEnd rest with
    | nil =>
      rw [hrest, List.nil_append] at heq
      subst heq
      by_cases hc : isBlank c = true
      · have hblank : Blank (c :: rest) := by
          intro d hd
          rcases List.mem_cons.mp hd with rfl | hd
          · exact hc
          · exact hpost d hd
        exact ⟨c :: rest, hblank, by simp [trimEnd, hrest, hc], by simp [trimEnd, hrest, hc]⟩
      · exact ⟨rest, hpost, by simp [trimEnd, hrest, hc], by simp [trimEnd, hrest, hc]⟩
    | cons d kept =>
      have htrim : trimEnd (c :: rest) = c :: d :: kept := by rw [trimEnd, hrest]
      rw [hrest] at heq hlast
      refine ⟨post, hpost, ?_, ?_⟩
      · rw [htrim, heq]
        rfl
      · simpa [htrim] using hlast

/-- Blanks at the beginning do not survive trimming. -/
theorem trimStart_append_blank {pre : Text} (h : Blank pre) (t : Text) :
    trimStart (pre ++ t) = trimStart t := by
  induction pre with
  | nil => rfl
  | cons c rest ih =>
    have hc : isBlank c = true := h c (by simp)
    have hrest := ih fun d hd => h d (by simp [hd])
    simpa [trimStart, List.dropWhile_cons, hc] using hrest

/-- A text that does not begin with a blank is not changed at its beginning. -/
theorem trimStart_of_head {t : Text} (h : ∀ c ∈ t.head?, isBlank c = false) : trimStart t = t := by
  cases t with
  | nil => rfl
  | cons c rest => simp [trimStart, h c (by simp)]

/-- What is left when a text is taken off from the beginning begins otherwise. -/
theorem head_dropWhile {f : Char → Bool} {t : Text} :
    ∀ c ∈ (t.dropWhile f).head?, f c = false := by
  intro c hc
  have h := List.head?_dropWhile_not f t
  rw [Option.mem_def.mp hc] at h
  simpa using h

/-- Trimming the beginning takes off a blank text, and what is left does not begin with a blank. -/
theorem exists_eq_trimStart (t : Text) :
    ∃ pre, Blank pre ∧ t = pre ++ trimStart t ∧
      ∀ c ∈ (trimStart t).head?, isBlank c = false := by
  refine ⟨t.takeWhile isBlank, fun c hc => List.mem_takeWhile_imp hc,
    List.takeWhile_append_dropWhile.symm, head_dropWhile⟩

/-! ## Both ends -/

/-- Trimming takes the blanks off that stand around a trimmed text. -/
theorem trim_append {pre t post : Text} (hpre : Blank pre) (ht : IsTrimmed t) (hpost : Blank post) :
    trim (pre ++ t ++ post) = t := by
  unfold trim
  rw [List.append_assoc, trimStart_append_blank hpre]
  cases t with
  | nil =>
    have hstart : trimStart post = [] := by
      simpa [trimStart] using trimStart_append_blank hpost []
    rw [List.nil_append, hstart]
    rfl
  | cons c rest =>
    have hhead : ∀ d ∈ (c :: rest ++ post).head?, isBlank d = false := by
      intro d hd
      exact ht.head d (by simpa using hd)
    rw [trimStart_of_head hhead, trimEnd_append_blank _ hpost, trimEnd_of_last ht.last]

/-- A trimmed text is not changed by trimming. -/
theorem trim_of_isTrimmed {t : Text} (h : IsTrimmed t) : trim t = t := by
  simpa using trim_append Blank.nil h Blank.nil

/-- A text is its trimmed form with blanks around it. -/
theorem exists_eq_trim (t : Text) :
    ∃ pre post, Blank pre ∧ Blank post ∧ t = pre ++ trim t ++ post ∧ IsTrimmed (trim t) := by
  obtain ⟨pre, hpre, hstart, hhead⟩ := exists_eq_trimStart t
  obtain ⟨post, hpost, hend, hlast⟩ := exists_eq_trimEnd (trimStart t)
  refine ⟨pre, post, hpre, hpost, ?_, ?_, hlast⟩
  · rw [List.append_assoc, trim, ← hend, ← hstart]
  · intro c hc
    apply hhead c
    rw [hend]
    cases hkept : trimEnd (trimStart t) with
    | nil => rw [trim, hkept] at hc; cases hc
    | cons d kept => rw [trim, hkept] at hc; simpa using hc

/-- A trimmed text is trimmed. -/
theorem isTrimmed_trim (t : Text) : IsTrimmed (trim t) := by
  obtain ⟨_, _, _, _, _, h⟩ := exists_eq_trim t
  exact h

/-- Trimming brings nothing in. -/
theorem trim_subset (t : Text) : trim t ⊆ t := by
  obtain ⟨pre, post, -, -, heq, -⟩ := exists_eq_trim t
  intro c hc
  rw [heq]
  exact List.mem_append_left _ (List.mem_append_right _ hc)

/-- Before a trimmed text only the blanks at the beginning are taken off. -/
theorem trim_append_isTrimmed (t : Text) {kept : Text} (h : IsTrimmed kept) (hne : kept ≠ []) :
    trim (t ++ kept) = trimStart t ++ kept := by
  obtain ⟨pre, hpre, heq, hhead⟩ := exists_eq_trimStart t
  generalize trimStart t = start at heq hhead ⊢
  have hkept : IsTrimmed (start ++ kept) := by
    constructor
    · intro c hc
      cases start with
      | nil => exact h.head c hc
      | cons d start => exact hhead c hc
    · intro c hc
      apply h.last c
      simpa [List.getLast?_append, List.getLast?_eq_some_getLast hne] using hc
  have htrim := trim_append hpre hkept Blank.nil
  rw [List.append_nil] at htrim
  rw [heq, List.append_assoc, htrim]

/-- A text that does not begin with a blank keeps its first character. -/
theorem head?_trim {t : Text} {c : Char} (h : t.head? = some c) (hc : isBlank c = false) :
    (trim t).head? = some c := by
  obtain ⟨pre, post, hpre, hpost, heq, -⟩ := exists_eq_trim t
  rw [heq, List.append_assoc] at h
  cases pre with
  | cons b pre =>
    obtain rfl : b = c := by simpa using h
    rw [hpre b (by simp)] at hc
    cases hc
  | nil =>
    cases hkept : trim t with
    | nil =>
      rw [hkept] at h
      rw [hpost c (List.mem_of_mem_head? h)] at hc
      cases hc
    | cons d kept => simpa [hkept] using h

/-- Mapping characters commutes with trimming if it turns blanks into blanks and nothing else. -/
theorem trim_map {f : Char → Char} (hf : ∀ c, isBlank (f c) = isBlank c) (t : Text) :
    trim (t.map f) = (trim t).map f := by
  have hblank : ∀ {s : Text}, Blank s → Blank (s.map f) := by
    intro s hs c hc
    obtain ⟨d, hd, rfl⟩ := List.mem_map.mp hc
    rw [hf d]
    exact hs d hd
  obtain ⟨pre, post, hpre, hpost, heq, ht⟩ := exists_eq_trim t
  have hkept : IsTrimmed ((trim t).map f) := by
    constructor
    · intro c hc
      rw [List.head?_map] at hc
      obtain ⟨d, hd, rfl⟩ := Option.map_eq_some_iff.mp hc
      rw [hf d]
      exact ht.head d hd
    · intro c hc
      rw [List.getLast?_map] at hc
      obtain ⟨d, hd, rfl⟩ := Option.map_eq_some_iff.mp hc
      rw [hf d]
      exact ht.last d hd
  generalize trim t = kept at heq hkept ⊢
  subst heq
  rw [List.map_append, List.map_append]
  exact trim_append (hblank hpre) hkept (hblank hpost)

/-! ## The first word -/

/-- The characters up to the first blank. -/
def word (t : Text) : Text := t.takeWhile (!isBlank ·)

/-- A word holds no blanks. -/
theorem isBlank_of_mem_word {t : Text} {c : Char} (h : c ∈ word t) : isBlank c = false := by
  simpa using List.mem_takeWhile_imp h

/-- What comes after the first word is nothing, or begins with a blank. -/
theorem eq_word_append (t : Text) :
    ∃ rest, t = word t ++ rest ∧ ∀ c ∈ rest.head?, isBlank c = true := by
  refine ⟨t.dropWhile (!isBlank ·), List.takeWhile_append_dropWhile.symm, fun c hc => ?_⟩
  simpa using head_dropWhile (f := (!isBlank ·)) c hc

/-- A text without blanks that something else follows after a blank is the first word. -/
theorem word_append {w rest : Text} (hw : ∀ c ∈ w, isBlank c = false)
    (hrest : ∀ c ∈ rest.head?, isBlank c = true) : word (w ++ rest) = w := by
  unfold word
  rw [List.takeWhile_append_of_pos fun c hc => by simp [hw c hc]]
  cases rest with
  | nil => simp
  | cons c rest => simp [hrest c (by simp)]

/-- The first word of a text that begins with it. -/
theorem firstWord?_of_head {t : Text} (h : ∀ c ∈ t.head?, isBlank c = false) (hne : t ≠ []) :
    firstWord? t = some (word t) := by
  cases t with
  | nil => exact absurd rfl hne
  | cons c rest =>
    have hc : isBlank c = false := h c (by simp)
    simp [firstWord?, trimStart_of_head h, word, hc]

/-- A cut separates what comes before the first character of a kind from what comes after it. -/
theorem cutAt?_append {p : Char → Bool} {before after : Text} {c : Char}
    (hbefore : ∀ d ∈ before, p d = false) (hc : p c = true) :
    cutAt? p (before ++ c :: after) = some (before, after) := by
  induction before with
  | nil => simp [cutAt?, hc]
  | cons d before ih =>
    have hd : p d = false := hbefore d (by simp)
    simp [cutAt?, hd, ih fun e he => hbefore e (by simp [he])]

/-- A cut is at the first character that passes the test. -/
theorem exists_of_cutAt? {p : Char → Bool} {t before after : Text}
    (h : cutAt? p t = some (before, after)) :
    (∀ c ∈ before, p c = false) ∧ ∃ c, p c = true ∧ t = before ++ c :: after := by
  induction t generalizing before after with
  | nil => cases h
  | cons c rest ih =>
    rw [cutAt?] at h
    split at h
    · next hc =>
      obtain ⟨rfl, rfl⟩ := Prod.mk.inj (Option.some.inj h)
      exact ⟨by simp, c, hc, rfl⟩
    · next hc =>
      obtain ⟨⟨first, second⟩, hcut, heq⟩ := Option.map_eq_some_iff.mp h
      obtain ⟨rfl, rfl⟩ := Prod.mk.inj heq
      obtain ⟨hfirst, d, hd, rfl⟩ := ih hcut
      refine ⟨?_, d, hd, rfl⟩
      intro e he
      rcases List.mem_cons.mp he with rfl | he
      · simpa using hc
      · exact hfirst e he

/-- What stands before a cut does not pass the test. -/
theorem not_of_cutAt? {p : Char → Bool} {t before after : Text}
    (h : cutAt? p t = some (before, after)) : ∀ c ∈ before, p c = false :=
  (exists_of_cutAt? h).1

/-- There is no cut just if no character passes the test. -/
theorem cutAt?_eq_none_iff {p : Char → Bool} {t : Text} :
    cutAt? p t = none ↔ ∀ c ∈ t, p c = false := by
  induction t with
  | nil => simp [cutAt?]
  | cons c rest ih =>
    by_cases hc : p c = true
    · simp [cutAt?, hc]
    · simp [cutAt?, hc, ih]

/-- There is no cut in a text without characters of the kind. -/
theorem cutAt?_eq_none {p : Char → Bool} {t : Text} (h : ∀ c ∈ t, p c = false) :
    cutAt? p t = none :=
  cutAt?_eq_none_iff.mpr h

end SiteGate.Text
