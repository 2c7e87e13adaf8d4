import SiteGate.Proofs.Config.Edit
import SiteGate.Proofs.Json.OpenString

/-!
# What a value is read as

No setting is deaf: some text is read as something else than the empty text is
(`Setting.read_sample_ne`). And no setting takes its own name for a part of the value: for every
text there is a value that is read as something else when the text and the name come before it
(`Setting.exists_tells`). Texts and lists are told by the empty value, which the name makes one
that is not empty; numbers and flags by a value that the name spoils; and the rules in JSON by one
that has a carriage return where the name would open a string.
-/

set_option autoImplicit false

namespace SiteGate.Config

/-! ## Values with something before them -/

/-- The lower case of a text that is not empty is not empty. -/
theorem lower_ne_nil {t : Text} (h : t ≠ []) : Text.lower t ≠ [] := by
  cases t with
  | nil => exact absurd rfl h
  | cons c rest =>
    have hchar : Text.lowerChar c ≠ [] := by
      unfold Text.lowerChar
      repeat' split
      all_goals simp
    unfold Text.lower
    rw [Text.lowerAfter]
    split
    · simp
    · simp [hchar]

/-- A list has an element if its text has a character that is neither a blank nor a comma. -/
theorem splitList_ne_nil {t : Text} {c : Char} (hc : c ∈ t) (hblank : Text.isBlank c = false)
    (hcomma : c ≠ ',') : splitList t ≠ [] := by
  have hpart : ∃ part ∈ t.splitOn ',', c ∈ part := by
    have hjoin : [','].intercalate (t.splitOn ',') = t := List.intercalate_splitOn ','
    rw [← hjoin] at hc
    generalize t.splitOn ',' = parts at hc
    induction parts with
    | nil => cases hc
    | cons part parts ih =>
      cases parts with
      | nil => exact ⟨part, by simp, by simpa using hc⟩
      | cons next parts =>
        rw [List.intercalate_cons_cons] at hc
        simp only [List.mem_append, List.mem_singleton] at hc
        rcases hc with (hc | hc) | hc
        · exact ⟨part, by simp, hc⟩
        · exact absurd hc hcomma
        · obtain ⟨part', hmem, hc'⟩ := ih hc
          exact ⟨part', by simp [hmem], hc'⟩
  obtain ⟨part, hpart, hc⟩ := hpart
  have htrim : Text.trim part ≠ [] := by
    intro hnil
    obtain ⟨pre, post, hpre, hpost, heq, -⟩ := Text.exists_eq_trim part
    rw [heq, hnil, List.append_nil] at hc
    rw [(hpre.append hpost) c hc] at hblank
    cases hblank
  apply List.ne_nil_of_mem (a := Text.trim part)
  simp only [splitList, List.mem_filter, List.mem_map]
  exact ⟨⟨part, hpart, rfl⟩, by simpa using htrim⟩

/-- A list without repetitions is empty only if the list is. -/
theorem distinct_ne_nil {ts : List Text} (h : ts ≠ []) : distinct ts ≠ [] := by
  cases ts with
  | nil => exact absurd rfl h
  | cons x rest => simp [distinct]

/-- A text with a character that is neither a digit nor a sign is no number. -/
theorem natural?_eq_none {t : Text} {c : Char} (hc : c ∈ t) (hdigit : Text.digit? c = none)
    (hsign : c ≠ '+') (limit : Nat) : Text.natural? limit t = none := by
  have hdigits : ∀ (body : Text) (value : Nat), c ∈ body → Text.digits? value body = none := by
    intro body
    induction body with
    | nil =>
      intro value hmem
      cases hmem
    | cons d rest ih =>
      intro value hmem
      rcases List.mem_cons.mp hmem with rfl | hmem
      · simp [Text.digits?, hdigit]
      · cases hd : Text.digit? d with
        | none => simp [Text.digits?, hd]
        | some n => simp [Text.digits?, hd, ih _ hmem]
  unfold Text.natural?
  split
  · rename_i rest
    have hmem : c ∈ rest := (List.mem_cons.mp hc).resolve_left hsign
    simp [hdigits rest 0 hmem]
  · simp [hdigits t 0 hc]

/-- Two texts that differ in a character which has no case differ. -/
theorem sameIgnoringCase_eq_false {t word : Text} {c : Char} (hc : c ∈ t) (hlower : c.toLower = c)
    (hword : c ∉ Text.lowerAscii word) : Text.sameIgnoringCase t word = false := by
  rw [Text.sameIgnoringCase, beq_eq_false_iff_ne]
  intro heq
  apply hword
  rw [← heq, ← hlower]
  exact List.mem_map_of_mem hc

/-! ## Values that show a difference -/

namespace Setting

/-- A value that is read as something else than the empty one. -/
def sample : Setting → Text
  | .key .sitePort | .key .adminPort | .key .secondsToDisplay => "1".toList
  | .key .runOnStartup | .directive .redirectToHttps => "yes".toList
  | .key .displayMode | .directive .maintenanceWindow => "on".toList
  | .key .conditionalService => "[\r[\"header\",\"/\",[]]]".toList
  | _ => "a".toList

/-- A sample is read as something else than the empty value. -/
theorem read_sample_ne (x : Setting) : x.read x.sample ≠ x.read [] := by
  have key : ∀ x ∈ all, x.read x.sample ≠ x.read [] := by decide +kernel
  exact key x x.mem_all

/-- A sample may be written, and is what is then read. -/
theorem writable_sample (x : Setting) : Writable x.sample ∧ trimLine x.sample = x.sample := by
  have key : ∀ x ∈ all, '\n' ∉ x.sample ∧ (Text.trim x.sample).getLast? ≠ some '\\' ∧
      trimLine x.sample = x.sample := by
    decide +kernel
  obtain ⟨hnewline, hlast, htrim⟩ := key x x.mem_all
  exact ⟨⟨hnewline, hlast⟩, htrim⟩

/-- A value tells a setting from its own name if no text with the name and a gap before the value
is read like the value. -/
def Tells (x : Setting) (value : Text) : Prop :=
  ∀ before gap, Text.Blank gap → (gap = [] ↔ trimLine value = []) →
    x.read (before ++ (x.name ++ gap ++ trimLine value)) ≠ x.read (trimLine value)

/-- The name of the rules in JSON ends in a p and letters after it, and their sample begins with a
bracket and a carriage return. -/
theorem exists_eq_conditional : ∃ first last rest : Text,
    (Setting.key .conditionalService).name = first ++ 'p' :: last ∧
      (Setting.key .conditionalService).sample = '[' :: '\r' :: rest ∧
        ∀ c ∈ last, c ≠ '"' ∧ c ≠ '\\' :=
  ⟨"conditional-htt".toList, "-service".toList, "[\"header\",\"/\",[]]]".toList, by decide,
    by decide, by decide⟩

/-- The name makes the rules in JSON unreadable from the carriage return of the sample on. -/
theorem tells_sample_conditional : (Setting.key .conditionalService).Tells
    (Setting.key .conditionalService).sample := by
  rintro before gap hgap -
  obtain ⟨first, last, rest, hname, hsample, hlast⟩ := exists_eq_conditional
  have hbetween : ∀ c ∈ last ++ gap ++ ['['], c ≠ '"' ∧ c ≠ '\\' := by
    intro c hc
    rcases List.mem_append.mp hc with hc | hc
    · rcases List.mem_append.mp hc with hc | hc
      · exact hlast c hc
      · have hblank := hgap c hc
        constructor
        · rintro rfl
          cases hblank
        · rintro rfl
          cases hblank
    · obtain rfl := List.mem_singleton.mp hc
      decide
  have hnone : Json.parse? (before ++ first ++ 'p' :: (last ++ gap ++ ['['] ++ '\r' :: rest)) =
      none :=
    Json.parse?_eq_none_of_control hbetween
  have hsplit : before ++ ((Setting.key .conditionalService).name ++ gap ++
      (Setting.key .conditionalService).sample) =
        before ++ first ++ 'p' :: (last ++ gap ++ ['['] ++ '\r' :: rest) := by
    rw [hname, hsample]
    simp only [List.append_assoc, List.cons_append, List.nil_append]
  have hread : ∀ t, Json.parse? t = none → (Setting.key .conditionalService).read t =
      (Setting.key .conditionalService).read [] := by
    intro t ht
    have hlist : ConditionalRule.listOfText t = [] := by
      simp [ConditionalRule.listOfText, Json.ofText?, ht]
    exact congrArg Value.conditional hlist
  rw [(writable_sample _).2, hsplit, hread _ hnone]
  exact (read_sample_ne _).symm

/-- The sample tells a setting from its name if no text with all letters of the name says more than
the empty one. -/
theorem tells_sample {x : Setting} (h : ∀ t, (∀ c ∈ x.name, c ∈ t) → x.read t = x.read []) :
    x.Tells x.sample := by
  rintro before gap - -
  rw [(writable_sample x).2, h]
  · exact x.read_sample_ne.symm
  · exact fun c hc => by simp [hc]

/-- The empty value tells a setting from its name if every text with all letters of the name says
more. -/
theorem tells_nil {x : Setting} (h : ∀ t, (∀ c ∈ x.name, c ∈ t) → x.read t ≠ x.read []) :
    x.Tells [] := by
  rintro before gap - -
  exact h _ fun c hc => by simp [hc]

/-- The empty value may be written. -/
theorem writable_nil : Writable [] := ⟨by simp, by decide⟩

/-- A port is told from the name by its sample, for the name makes the text no number. -/
theorem tells_sample_port {x : Setting} (hread : ∀ t, x.read t = .port (portOf t))
    (hname : 'o' ∈ x.name) : x.Tells x.sample := by
  apply tells_sample
  intro t ht
  have hnone := natural?_eq_none (ht 'o' hname) (by decide) (by decide) UInt16.size
  have hport : portOf t = portOf [] := by
    rw [portOf, hnone]
    rfl
  rw [hread, hread, hport]

/-- A flag is told from the name by its sample, for a hyphen makes the text another word. -/
theorem tells_sample_flag {x : Setting} {word : Text}
    (hread : ∀ t, x.read t = .flag (Text.sameIgnoringCase t word)) (hname : '-' ∈ x.name)
    (hword : '-' ∉ Text.lowerAscii word) (hempty : Text.sameIgnoringCase [] word = false) :
    x.Tells x.sample := by
  apply tells_sample
  intro t ht
  have hother := sameIgnoringCase_eq_false (ht '-' hname) (by decide) hword
  rw [hread, hread, hother, hempty]

/-- A path is told from the name by the empty value. -/
theorem tells_nil_file {x : Setting} (hread : ∀ t, x.read t = .file (nonEmpty t)) :
    x.Tells [] := by
  apply tells_nil
  intro t ht h
  have hne : t ≠ [] := by
    rintro rfl
    cases hname : x.name with
    | nil => exact x.name_ne_nil hname
    | cons c rest => cases ht c (by simp [hname])
  rw [hread, hread] at h
  have hpath : nonEmpty t = none := Value.file.inj h
  simp [nonEmpty, hne] at hpath

/-- Every setting has a value that tells it from its name. -/
theorem exists_tells : ∀ x : Setting, ∃ value, Writable value ∧ x.Tells value
  | .key .conditionalService =>
    ⟨_, (writable_sample (.key .conditionalService)).1, tells_sample_conditional⟩
  | .key .sitePort =>
    ⟨_, (writable_sample (.key .sitePort)).1, tells_sample_port (fun _ => rfl) (by decide)⟩
  | .key .adminPort =>
    ⟨_, (writable_sample (.key .adminPort)).1, tells_sample_port (fun _ => rfl) (by decide)⟩
  | .key .secondsToDisplay => by
    refine ⟨_, (writable_sample (.key .secondsToDisplay)).1, tells_sample fun t ht => ?_⟩
    have hnone := natural?_eq_none (ht 'o' (by decide)) (by decide) (by decide) UInt64.size
    have hseconds : secondsOf t = secondsOf [] := by
      rw [secondsOf, hnone]
      rfl
    exact congrArg Value.seconds hseconds
  | .key .runOnStartup =>
    ⟨_, (writable_sample (.key .runOnStartup)).1,
      tells_sample_flag (fun _ => rfl) (by decide) (by decide) (by decide)⟩
  | .key .displayMode =>
    ⟨_, (writable_sample (.key .displayMode)).1,
      tells_sample_flag (fun _ => rfl) (by decide) (by decide) (by decide)⟩
  | .directive .maintenanceWindow =>
    ⟨_, (writable_sample (.directive .maintenanceWindow)).1,
      tells_sample_flag (fun _ => rfl) (by decide) (by decide) (by decide)⟩
  | .directive .redirectToHttps =>
    ⟨_, (writable_sample (.directive .redirectToHttps)).1,
      tells_sample_flag (fun _ => rfl) (by decide) (by decide) (by decide)⟩
  | .key .hostname => by
    refine ⟨[], writable_nil, tells_nil fun t ht h => ?_⟩
    exact lower_ne_nil (List.ne_nil_of_mem (ht 'o' (by decide))) (Value.text.inj h)
  | .key .proto => by
    refine ⟨[], writable_nil, tells_nil fun t ht h => ?_⟩
    exact List.ne_nil_of_mem (ht 'o' (by decide)) (Value.text.inj h)
  | .key .certificate => ⟨[], writable_nil, tells_nil_file fun _ => rfl⟩
  | .key .privateKey => ⟨[], writable_nil, tells_nil_file fun _ => rfl⟩
  | .key .forwardPaths => by
    refine ⟨[], writable_nil, tells_nil fun t ht h => ?_⟩
    have hne := splitList_ne_nil (ht 'o' (by decide)) (by decide) (by decide)
    have hrules : (splitList t).map ForwardRule.ofText = [] := Value.forward.inj h
    exact hne (List.map_eq_nil_iff.mp hrules)
  | .key .alternateHostnames => by
    refine ⟨[], writable_nil, tells_nil fun t ht h => ?_⟩
    have hne := splitList_ne_nil (ht 'o' (by decide)) (by decide) (by decide)
    have hhosts : distinct ((splitList t).map Text.lower) = [] := Value.texts.inj h
    exact distinct_ne_nil (by simpa using hne) hhosts
  | .key .allowedAddresses | .key .allowedMethods | .key .restrictPaths | .key .excludePaths => by
    refine ⟨[], writable_nil, tells_nil fun t ht h => ?_⟩
    exact splitList_ne_nil (ht '-' (by decide)) (by decide) (by decide) (Value.texts.inj h)

end Setting

end SiteGate.Config
