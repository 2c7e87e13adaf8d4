import SiteGate.Proofs.Config.DataEntry

/-!
# What every configuration that has been read is like

Whatever a text says, the snapshot that is read from it can be relied on: no list of it has an empty
element, hosts are told apart, a path is either usable or marked as refused, and so on
(`Snapshot.WellFormed`).

This is kept by every line (`ofText_lines_induction`), so a later line that takes the place of an
earlier one does no harm. It rests on what the reader does to a line before it looks at it: there is
neither a line feed nor a tab in a logical line (`oneLine_of_mem_logicalLines`), and so in nothing
that is cut out of one. Only the texts of conditional rules are not cut out but decoded, and a JSON
string may spell any character.
-/

set_option autoImplicit false

namespace SiteGate.Config

/-! ## Texts of one line -/

/-- A text in which there is neither a line feed nor a tab. -/
structure OneLine (t : Text) : Prop where
  newline : '\n' ∉ t
  tab : '\t' ∉ t

section

variable {t u : Text}

/-- An empty text is in one line. -/
theorem OneLine.nil : OneLine [] := ⟨by simp, by simp⟩

/-- A text of characters of a line is in one line. -/
theorem OneLine.mono (h : OneLine t) (hsubset : u ⊆ t) : OneLine u :=
  ⟨fun hc => h.newline (hsubset hc), fun hc => h.tab (hsubset hc)⟩

/-- Two texts in one line are in one line together. -/
theorem OneLine.append (ht : OneLine t) (hu : OneLine u) : OneLine (t ++ u) :=
  ⟨by simp [ht.newline, hu.newline], by simp [ht.tab, hu.tab]⟩

/-- A trimmed text is in one line if the text is. -/
theorem OneLine.trim (h : OneLine t) : OneLine (Text.trim t) := h.mono (Text.trim_subset t)

/-- Lower case brings in no blanks. -/
theorem OneLine.lower (h : OneLine t) : OneLine (Text.lower t) :=
  ⟨fun hc => h.newline (Text.mem_of_mem_lower hc (.inl rfl)),
    fun hc => h.tab (Text.mem_of_mem_lower hc (.inl rfl))⟩

end

/-- The parts between separators are parts of the text. -/
theorem subset_of_mem_splitOn {c : Char} {t part : Text} (h : part ∈ t.splitOn c) : part ⊆ t := by
  obtain ⟨i, hi⟩ := List.mem_iff_getElem?.mp h
  have hmem : part ∈ (t.splitOn c).intersperse [c] :=
    List.mem_of_getElem? (List.getElem?_intersperse_two_mul.trans hi)
  have hjoin : [c].intercalate (t.splitOn c) = t := List.intercalate_splitOn c
  intro d hd
  rw [← hjoin]
  exact List.mem_flatten.mpr ⟨part, hmem, hd⟩

/-- A physical line without its tabs is a text of one line. -/
theorem oneLine_trimLine {raw : Text} (h : '\n' ∉ raw) : OneLine (trimLine raw) := by
  rw [trimLine_eq]
  constructor
  · intro hc
    obtain ⟨d, hd, huntab⟩ := List.mem_map.mp hc
    unfold untab at huntab
    split at huntab
    · cases huntab
    · rw [huntab] at hd
      exact h (Text.trim_subset raw hd)
  · intro hc
    obtain ⟨d, -, huntab⟩ := List.mem_map.mp hc
    unfold untab at huntab
    split at huntab
    · cases huntab
    · next htab => exact htab huntab

/-- Joining lines makes texts of one line of such texts. -/
theorem oneLine_of_mem_joinLines {lines : List Text} (h : ∀ line ∈ lines, OneLine line) :
    ∀ line ∈ joinLines lines, OneLine line := by
  fun_induction joinLines lines with
  | case1 => simp
  | case2 last =>
    have hlast : OneLine last := h last (by simp)
    intro line hline
    rw [List.mem_singleton.mp hline]
    split
    · exact hlast.mono (List.dropLast_subset last)
    · exact hlast
  | case3 first next rest hopen ih =>
    obtain ⟨hfirst, hnext, hrest⟩ : OneLine first ∧ OneLine next ∧ ∀ line ∈ rest, OneLine line := by
      simpa using h
    intro line hline
    rcases List.mem_cons.mp hline with rfl | hline
    · exact (hfirst.mono (List.dropLast_subset first)).append hnext
    · exact ih hrest line hline
  | case4 first next rest hopen ih =>
    obtain ⟨hfirst, hrest⟩ := List.forall_mem_cons.mp h
    intro line hline
    rcases List.mem_cons.mp hline with rfl | hline
    · exact hfirst
    · exact ih hrest line hline

/-- The logical lines of a text are texts of one line. -/
theorem oneLine_of_mem_logicalLines {t line : Text} (h : line ∈ logicalLines t) : OneLine line := by
  refine oneLine_of_mem_joinLines ?_ line h
  intro trimmed htrimmed
  obtain ⟨raw, hraw, rfl⟩ := List.mem_map.mp htrimmed
  exact oneLine_trimLine (not_mem_of_mem_splitOn hraw)

/-- The value of a line is a part of it. -/
theorem OneLine.value {line : Text} (h : OneLine line) : OneLine (splitKeyValue line).2 := by
  obtain ⟨rest, heq, hsplit⟩ := exists_splitKeyValue line
  rw [hsplit]
  refine OneLine.trim (h.mono ?_)
  intro c hc
  apply Text.trim_subset line
  rw [heq]
  exact List.mem_append_right _ hc

/-! ## What is made of a value -/

/-- An element of a list with commas between its elements. -/
structure IsElement (t : Text) : Prop extends OneLine t where
  ne_nil : t ≠ []
  comma : ',' ∉ t
  trimmed : Text.IsTrimmed t

/-- What a value is split into is made of elements. -/
theorem isElement_of_mem_splitList {value t : Text} (hvalue : OneLine value)
    (h : t ∈ splitList value) : IsElement t := by
  obtain ⟨hmem, hne⟩ := List.mem_filter.mp h
  obtain ⟨part, hpart, rfl⟩ := List.mem_map.mp hmem
  exact
    { toOneLine := (hvalue.mono (subset_of_mem_splitOn hpart)).trim
      ne_nil := by simpa using hne
      comma := fun hc => not_mem_of_mem_splitOn hpart (Text.trim_subset part hc)
      trimmed := Text.isTrimmed_trim part }

/-- Leaving out repeated texts leaves every text once. -/
theorem mem_distinct {t : Text} {ts : List Text} : t ∈ distinct ts ↔ t ∈ ts := by
  induction ts with
  | nil => simp [distinct]
  | cons first rest ih =>
    by_cases ht : t = first
    · simp [distinct, ht]
    · simp [distinct, ht, ih]

/-- Where repeated texts have been left out none is repeated. -/
theorem nodup_distinct (ts : List Text) : (distinct ts).Nodup := by
  induction ts with
  | nil => exact List.nodup_nil
  | cons first rest ih => exact List.nodup_cons.mpr ⟨by simp, ih.filter _⟩

/-- A name of the site. -/
structure IsHost (t : Text) : Prop extends OneLine t where
  ne_nil : t ≠ []

/-- What is left of the names in a value are names of a site. -/
theorem isHost_of_mem_distinct {value t : Text} (hvalue : OneLine value)
    (h : t ∈ distinct ((splitList value).map Text.lower)) : IsHost t := by
  obtain ⟨host, hhost, rfl⟩ := List.mem_map.mp (mem_distinct.mp h)
  have helement := isElement_of_mem_splitList hvalue hhost
  exact ⟨helement.toOneLine.lower, lower_ne_nil helement.ne_nil⟩

namespace ForwardRule

/-- A forward rule that has been read: a path that it forwards to is a trimmed one of this site, and
any other has been replaced by a text that begins with the error mark. So a rule whose source does
not begin with the mark may be used just if it forwards to a path of this site. -/
structure WellFormed (r : ForwardRule) : Prop where
  source : OneLine r.source
  bar : '|' ∉ r.source
  target : OneLine r.target
  refused : r.target.head? = some '/' ∧ Text.IsTrimmed r.target ∨ errorMark <+: r.target
  valid : ¬ errorMark <+: r.source → (r.isValid = true ↔ r.target.head? = some '/')

/-- A rule whose source is no error may be used if its target is no error. -/
theorem isValid_iff {r : ForwardRule} (h : ¬ errorMark <+: r.source) :
    r.isValid = true ↔ ¬ errorMark <+: r.target := by
  rw [← List.isPrefixOf_iff_prefix, Bool.not_eq_true] at h
  rw [← List.isPrefixOf_iff_prefix, isValid, h, Bool.not_false, Bool.true_and, Bool.not_eq_true,
    Bool.not_eq_true']

/-- The text of a refusal is in one line. -/
theorem oneLine_message (why : Refusal) : OneLine why.message := by
  cases why <;> exact ⟨by decide, by decide⟩

/-- A rule is well-formed if it is made of a source without a bar and the target of a place. -/
theorem wellFormed_mk {source place : Text} (hsource : OneLine source) (hbar : '|' ∉ source)
    (hplace : OneLine place) : WellFormed ⟨source, targetOf (Text.trim place)⟩ := by
  obtain ⟨hslash, hkept⟩ | ⟨why, hwhy⟩ := targetOf_kept_or_refused (Text.trim place)
  · rw [hkept]
    refine ⟨hsource, hbar, hplace.trim, .inl ⟨hslash, Text.isTrimmed_trim place⟩, ?_⟩
    intro hmark
    -- No text begins both with a slash and with the error mark.
    have hnot : ¬ errorMark <+: Text.trim place := by
      rintro ⟨rest, heq⟩
      rw [← heq] at hslash
      cases hslash
    exact iff_of_true ((isValid_iff hmark).mpr hnot) hslash
  · rw [hwhy]
    refine ⟨hsource, hbar, oneLine_message why, .inr (errorMark_prefix_message why), ?_⟩
    intro hmark
    have hslash : why.message.head? ≠ some '/' := by cases why <;> decide
    exact iff_of_false (fun hvalid => (isValid_iff hmark).mp hvalid (errorMark_prefix_message why))
      hslash

/-- A rule that has been read from an entry is well-formed. -/
theorem wellFormed_entry {entry : Text} (h : OneLine entry) : (ofText entry).WellFormed := by
  unfold ofText
  split
  · next source target hcut =>
    obtain ⟨hbefore, c, -, rfl⟩ := Text.exists_of_cutAt? hcut
    refine wellFormed_mk (h.mono (List.subset_append_left _ _)).trim ?_ (h.mono ?_)
    · intro hbar
      simpa using hbefore _ (Text.trim_subset source hbar)
    · exact fun d hd => List.mem_append_right _ (List.mem_cons_of_mem c hd)
  · next hcut =>
    refine wellFormed_mk h.trim ?_ OneLine.nil
    intro hbar
    simpa using Text.cutAt?_eq_none_iff.mp hcut _ (Text.trim_subset entry hbar)

end ForwardRule

/-- The path of a conditional rule that has been read begins with a slash. -/
theorem ConditionalRule.urlPath_of_mem_listOfText {value : Text} {r : ConditionalRule}
    (h : r ∈ listOfText value) : r.urlPath.head? = some '/' := by
  unfold listOfText at h
  split at h
  · cases h
  · split at h
    · obtain ⟨element, -, haccept⟩ := List.mem_filterMap.mp h
      exact head?_urlPath_of_accept? haccept
    · cases h

/-- A text that is missing if it is empty is not empty if it is there. -/
theorem nonEmpty_ne_some_nil (value : Text) : nonEmpty value ≠ some [] := by
  unfold nonEmpty
  split
  · simp
  · next hne => simpa using hne

/-! ## Keys of the free data -/

/-- A key of the free data: a word that begins no comment. -/
structure IsDataKey (key : Text) : Prop where
  ne_nil : key ≠ []
  blank : ∀ c ∈ key, Text.isBlank c = false
  sign : key.head? ≠ some '#'

/-- The first word of a line that is not passed over is such a key. -/
theorem isDataKey_of_line {line : Text} (h : isSkippable line = false) :
    IsDataKey (splitKeyValue line).1 := by
  obtain ⟨rest, -, hsplit⟩ := exists_splitKeyValue line
  have hhead := (Text.isTrimmed_trim line).head
  unfold isSkippable at h
  rw [hsplit]
  cases hline : Text.trim line with
  | nil => simp [hline] at h
  | cons c tail =>
    have hword : Text.word (c :: tail) = c :: Text.word tail := by
      simp [Text.word, hhead c (by simp [hline])]
    refine ⟨by simp [hword], fun d hd => Text.isBlank_of_mem_word hd, ?_⟩
    simpa [hword, hline] using h

/-! ## Snapshots -/

/-- What the empty snapshot has, and no line of a text takes away, the snapshot of the text has. -/
theorem ofText_lines_induction {P : Snapshot → Prop} (t : Text) (empty : P .empty)
    (setting : ∀ s x, ∀ line ∈ logicalLines t, P s → P (s.set x (splitKeyValue line).2))
    (entry : ∀ s, ∀ line ∈ logicalLines t, isSkippable line = false → P s →
      P (s.setData (splitKeyValue line).1 (splitKeyValue line).2)) : P (Snapshot.ofText t) := by
  rw [ofText_eq_foldl_obey]
  refine List.foldlRecOn _ _ empty fun s hs st hst => ?_
  obtain ⟨before, line, after, hlines, heq⟩ := exists_of_mem_statements hst
  have hline : line ∈ logicalLines t := by simp [hlines]
  match st with
  | none => exact hs
  | some (.setting x value) =>
    obtain ⟨-, -, rfl⟩ := statement?_eq_setting_iff.mp heq.symm
    exact setting s x line hline hs
  | some (.entry key value) =>
    obtain ⟨hskip, -, -, hsplit⟩ := statement?_eq_entry_iff.mp heq.symm
    have hentry := entry s line hline hskip hs
    rwa [hsplit] at hentry

/-- What can be relied on in a snapshot that has been read. -/
structure Snapshot.WellFormed (s : Snapshot) : Prop where
  hosts_nodup : s.site.alternateHostnames.Nodup
  hosts : ∀ host ∈ s.site.alternateHostnames, IsHost host
  allowedAddresses : ∀ address ∈ s.admin.allowedAddresses, IsElement address
  allowedMethods : ∀ method ∈ s.allowedMethods, IsElement method
  restrict : ∀ path ∈ s.urlPaths.restrict, IsElement path
  exclude : ∀ path ∈ s.urlPaths.exclude, IsElement path
  forward : ∀ r ∈ s.urlPaths.forward, r.WellFormed
  conditional : ∀ r ∈ s.urlPaths.conditional, r.urlPath.head? = some '/'
  certificate : s.tls.certificate ≠ some []
  privateKey : s.tls.privateKey ≠ some []
  data : ∀ entry ∈ s.data, IsDataKey entry.1 ∧ OneLine entry.2

/-- Whatever a text says, the snapshot that is read from it is well formed. -/
theorem Snapshot.wellFormed_ofText (t : Text) : (ofText t).WellFormed := by
  refine ofText_lines_induction t ?_ ?_ ?_
  · constructor <;> simp [empty]
  · intro s x line hline hs
    have hvalue := (oneLine_of_mem_logicalLines hline).value
    have helements := fun t => isElement_of_mem_splitList (t := t) hvalue
    cases x with
    | directive d => cases d <;> exact { hs with }
    | key k =>
      cases k with
      | alternateHostnames =>
        exact { hs with
          hosts_nodup := nodup_distinct _
          hosts := fun _ => isHost_of_mem_distinct hvalue }
      | certificate => exact { hs with certificate := nonEmpty_ne_some_nil _ }
      | privateKey => exact { hs with privateKey := nonEmpty_ne_some_nil _ }
      | allowedAddresses => exact { hs with allowedAddresses := helements }
      | allowedMethods => exact { hs with allowedMethods := helements }
      | restrictPaths => exact { hs with restrict := helements }
      | excludePaths => exact { hs with exclude := helements }
      | forwardPaths =>
        refine { hs with forward := ?_ }
        intro r hr
        obtain ⟨entry, hentry, rfl⟩ := List.mem_map.mp hr
        exact ForwardRule.wellFormed_entry (helements entry hentry).toOneLine
      | conditionalService =>
        exact { hs with conditional := fun _ => ConditionalRule.urlPath_of_mem_listOfText }
      | _ => exact { hs with }
  · intro s line hline hskip hs
    have hvalue := (oneLine_of_mem_logicalLines hline).value
    refine { hs with data := ?_ }
    intro entry hentry
    rcases Association.mem_insert hentry with rfl | hentry
    · exact ⟨isDataKey_of_line hskip, hvalue⟩
    · exact hs.data entry hentry

end SiteGate.Config
