import SiteGate.Config.BlockedList
import SiteGate.Proofs.Config.SnapshotJson

/-!
# The export with readable brackets

The export of a snapshot is its JSON text with the escapes by number of the angle brackets replaced
by the brackets. The writer never makes such an escape. What is replaced is a text that spells one:
its backslash is written as two, and of these the second is taken for the beginning of an escape.
The first one is left before a bracket, which is no escape at all.

So the export means what the plain text means just if no text of the snapshot spells the escape of a
bracket, and otherwise it is no JSON (`parse?_exportText`).

The two replacements are one pass over the text that has its own way with backslashes only
(`readableBrackets_greater`, `readableBrackets_less`, `readableBrackets_backslash`), so this is a
`Rendering` of which it is enough to say how strings are read.
-/

set_option autoImplicit false

namespace SiteGate

/-! ## Replacing -/

namespace Text

variable {old new : Text}

/-- What still belongs to the last occurrence is passed over. -/
theorem replaceFrom_eq_drop (old new : Text) (skip : Nat) (t : Text) :
    replaceFrom old new skip t = replaceAll old new (t.drop skip) := by
  induction t generalizing skip with
  | nil => simp [replaceAll, replaceFrom]
  | cons c rest ih =>
    cases skip with
    | zero => rfl
    | succ k => rw [replaceFrom, ih, List.drop_succ_cons]

/-- What is to be replaced is replaced where it stands. -/
theorem replaceAll_append_old (hold : old ≠ []) (new t : Text) :
    replaceAll old new (old ++ t) = new ++ replaceAll old new t := by
  obtain ⟨c, rest, rfl⟩ := List.exists_cons_of_ne_nil hold
  have hbegins : (c :: rest).isPrefixOf (c :: (rest ++ t)) = true :=
    List.isPrefixOf_iff_prefix.mpr (List.prefix_append (c :: rest) t)
  rw [List.cons_append, replaceAll, replaceFrom, if_pos (by simp [hbegins]), replaceFrom_eq_drop]
  simp

/-- A character is left where nothing that is to be replaced begins. -/
theorem replaceAll_cons {c : Char} {t : Text} (h : old.isPrefixOf (c :: t) = false) (new : Text) :
    replaceAll old new (c :: t) = c :: replaceAll old new t := by
  rw [replaceAll, replaceFrom, if_neg (by simp [h])]
  rfl

/-- Where the first character of the old text does not stand, nothing is replaced. -/
theorem replaceAll_append {c : Char} {rest w : Text} (hw : c ∉ w) (new t : Text) :
    replaceAll (c :: rest) new (w ++ t) = w ++ replaceAll (c :: rest) new t := by
  induction w with
  | nil => rfl
  | cons d more ih =>
    obtain ⟨hd, hmore⟩ : c ≠ d ∧ c ∉ more := by simpa using hw
    rw [List.cons_append, replaceAll_cons (by simp [List.isPrefixOf, hd]), ih hmore]
    rfl

/-- A text that a replacement begins with begins the text before it, if what is put in does not
stand in it. -/
theorem isPrefixOf_of_replaceAll {d : Char} {w : Text} (hw : d ∉ w) {t : Text}
    (h : w.isPrefixOf (replaceAll old [d] t) = true) : w.isPrefixOf t = true := by
  induction w generalizing t with
  | nil => rfl
  | cons c more ih =>
    obtain ⟨hc, hmore⟩ : d ≠ c ∧ d ∉ more := by simpa using hw
    cases t with
    | nil => exact h
    | cons e rest =>
      rw [replaceAll, replaceFrom] at h
      split at h
      · simp [List.isPrefixOf, Ne.symm hc] at h
      · obtain ⟨hce, hrest⟩ : c = e ∧ more.isPrefixOf (replaceAll old [d] rest) = true := by
          simpa [List.isPrefixOf, replaceAll] using h
        simp [List.isPrefixOf, hce, ih hmore hrest]

end Text

namespace Config

/-! ## One pass -/

/-- What follows the backslash in the escape of the closing bracket. -/
def greaterCode : Text := "u003e".toList

/-- What follows the backslash in the escape of the opening bracket. -/
def lessCode : Text := "u003c".toList

/-- The two brackets are made readable one after the other. -/
theorem readableBrackets_eq (t : Text) :
    readableBrackets t = Text.replaceAll ('\\' :: lessCode) ['<']
      (Text.replaceAll ('\\' :: greaterCode) ['>'] t) := rfl

/-- A text without a backslash is left. -/
theorem readableBrackets_append {w : Text} (hw : '\\' ∉ w) (t : Text) :
    readableBrackets (w ++ t) = w ++ readableBrackets t := by
  rw [readableBrackets_eq, Text.replaceAll_append hw, Text.replaceAll_append hw,
    readableBrackets_eq]

/-- The code of the closing bracket becomes that bracket. -/
theorem readableBrackets_greater (t : Text) :
    readableBrackets ('\\' :: (greaterCode ++ t)) = '>' :: readableBrackets t := by
  rw [readableBrackets_eq, ← List.cons_append, Text.replaceAll_append_old (by simp),
    Text.replaceAll_append (by decide), readableBrackets_eq]
  rfl

/-- The code of the opening bracket becomes that bracket. -/
theorem readableBrackets_less (t : Text) :
    readableBrackets ('\\' :: (lessCode ++ t)) = '<' :: readableBrackets t := by
  have hno : ('\\' :: greaterCode).isPrefixOf ('\\' :: (lessCode ++ t)) = false := rfl
  rw [readableBrackets_eq, Text.replaceAll_cons hno, Text.replaceAll_append (by decide),
    ← List.cons_append, Text.replaceAll_append_old (by simp), readableBrackets_eq]
  rfl

/-- A backslash with no code behind it is left. -/
theorem readableBrackets_backslash {t : Text} (hgreater : greaterCode.isPrefixOf t = false)
    (hless : lessCode.isPrefixOf t = false) :
    readableBrackets ('\\' :: t) = '\\' :: readableBrackets t := by
  have hno : lessCode.isPrefixOf (Text.replaceAll ('\\' :: greaterCode) ['>'] t) = false := by
    rw [Bool.eq_false_iff] at hless ⊢
    exact fun h => hless (Text.isPrefixOf_of_replaceAll (by decide) h)
  rw [readableBrackets_eq, Text.replaceAll_cons (by simp [List.isPrefixOf, hgreater]),
    Text.replaceAll_cons (by simp [List.isPrefixOf, hno]), readableBrackets_eq]

/-! ## Strings that spell an escape -/

/-- Whether a text spells the escape by number of a bracket. -/
def spellsBracket (t : Text) : Bool :=
  Text.occursIn "\\u003e".toList t || Text.occursIn "\\u003c".toList t

/-- A character other than a backslash does not begin the code of a bracket. -/
theorem spellsBracket_cons {c : Char} (hc : c ≠ '\\') (t : Text) :
    spellsBracket (c :: t) = spellsBracket t := by
  simp [spellsBracket, Text.occursIn, List.isPrefixOf, beq_false_of_ne (Ne.symm hc)]

/-- A text without a backslash spells no bracket. -/
theorem spellsBracket_of_not_mem {t : Text} (h : '\\' ∉ t) : spellsBracket t = false := by
  induction t with
  | nil => rfl
  | cons c rest ih =>
    obtain ⟨hc, hrest⟩ : '\\' ≠ c ∧ '\\' ∉ rest := by simpa using h
    rw [spellsBracket_cons (Ne.symm hc), ih hrest]

/-- A text that begins with a backslash spells a bracket if a code follows, or further on. -/
theorem spellsBracket_backslash (t : Text) :
    spellsBracket ('\\' :: t) =
      (greaterCode.isPrefixOf t || lessCode.isPrefixOf t || spellsBracket t) := by
  have hbegins : ∀ code : Text, ('\\' :: code).isPrefixOf ('\\' :: t) = code.isPrefixOf t :=
    fun code => by simp [List.isPrefixOf]
  rw [spellsBracket, Text.occursIn, Text.occursIn,
    show "\\u003e".toList = '\\' :: greaterCode from rfl,
    show "\\u003c".toList = '\\' :: lessCode from rfl, hbegins, hbegins]
  simp only [spellsBracket, Bool.or_assoc, Bool.or_left_comm]
  rfl

/-- What a written string begins with its text begins with, where nothing has to be escaped. -/
theorem isPrefixOf_written {w : Text}
    (hw : ∀ c ∈ w, Json.writeChar c = [c] ∧ c ≠ '"' ∧ c ≠ '\\') (t rest : Text) :
    w.isPrefixOf (t.flatMap Json.writeChar ++ '"' :: rest) = w.isPrefixOf t := by
  induction w generalizing t with
  | nil => simp [List.isPrefixOf]
  | cons c more ih =>
    obtain ⟨hwrite, hquote, hescape⟩ := hw c (by simp)
    have ih := ih fun d hd => hw d (by simp [hd])
    cases t with
    | nil => simp [List.isPrefixOf, hquote]
    | cons d rest =>
      by_cases hd : c = d
      · subst hd
        rw [List.flatMap_cons, hwrite]
        simpa [List.isPrefixOf] using ih rest
      · have hfirst : ∃ e more, Json.writeChar d = e :: more ∧ c ≠ e := by
          obtain ⟨letter, -, -, hwrite, -⟩ | ⟨-, hwrite, -⟩ | ⟨-, -, -, hwrite, -⟩ :=
            Json.Reader.writeChar_cases d
          · exact ⟨_, _, hwrite, hescape⟩
          · exact ⟨_, _, hwrite, hescape⟩
          · exact ⟨_, _, hwrite, hd⟩
        obtain ⟨e, others, hwrite, he⟩ := hfirst
        rw [List.flatMap_cons, hwrite]
        simp [List.isPrefixOf, beq_false_of_ne he, beq_false_of_ne hd]

/-- The characters of the codes are written as they are. -/
theorem writeChar_bracketCode :
    ∀ c ∈ greaterCode ++ lessCode, Json.writeChar c = [c] ∧ c ≠ '"' ∧ c ≠ '\\' := by decide

/-- A written character that is no backslash is left as it is. -/
theorem readableBrackets_writeChar {c : Char} (hc : c ≠ '\\') (t : Text) :
    readableBrackets (Json.writeChar c ++ t) = Json.writeChar c ++ readableBrackets t := by
  obtain ⟨letter, hletter, hescaped, hwrite, -⟩ | ⟨hcontrol, hwrite, -⟩ | ⟨-, -, -, hwrite, -⟩ :=
    Json.Reader.writeChar_cases c
  · have hslash : letter ≠ '\\' := by
      rintro rfl
      exact hc (Option.some.inj hescaped).symm
    have hno : ∀ code : Text, ('u' :: code).isPrefixOf (letter :: t) = false := fun code => by
      simp [List.isPrefixOf, beq_false_of_ne (Ne.symm hletter)]
    have hrest := readableBrackets_append (w := [letter]) (by simpa using Ne.symm hslash) t
    rw [hwrite]
    show readableBrackets ('\\' :: (letter :: t)) = _
    have hsplit : letter :: t = [letter] ++ t := rfl
    rw [readableBrackets_backslash (hno _) (hno _), hsplit, hrest]
    rfl
  · -- The escape of a control character differs from those of the brackets in its third digit.
    have hno : ∀ n < 0x20, '\\' ∉ (Json.unitEscape n).tail ∧ ∀ t,
        greaterCode.isPrefixOf ((Json.unitEscape n).tail ++ t) = false ∧
        lessCode.isPrefixOf ((Json.unitEscape n).tail ++ t) = false := by
      intro n hn
      interval_cases n <;> exact ⟨by decide, fun _ => ⟨rfl, rfl⟩⟩
    obtain ⟨hslash, hcodes⟩ := hno c.toNat hcontrol
    rw [hwrite]
    show readableBrackets ('\\' :: ((Json.unitEscape c.toNat).tail ++ t)) = _
    rw [readableBrackets_backslash (hcodes t).1 (hcodes t).2, readableBrackets_append hslash]
    rfl
  · rw [hwrite]
    exact readableBrackets_append (by simpa using Ne.symm hc) t

section Strings

variable {inside : Json.StringState → Json.Reader} {after : StringToken → Json.Reader}

/-- A bracket is no escape. -/
theorem outcome_escapedBracket (h : Json.Reader.Inside inside after) (pieces : StringToken)
    {c : Char} (hc : c = '>' ∨ c = '<') (t : Text) :
    (inside (.plain pieces)).outcome ('\\' :: c :: t) = none := by
  rw [Json.Reader.outcome_cons (h.step (.plain pieces) '\\')]
  refine Json.Reader.outcome_cons_none ((h.step (.escape pieces) c).trans ?_) t
  rcases hc with rfl | rfl <;> rfl

/-- A backslash in a string is written as two. It is read as it was unless the code of a bracket
follows; then it is left before a bracket. -/
theorem outcome_readableBackslash (h : Json.Reader.Inside inside after) (pieces : StringToken)
    (t : Text) :
    (inside (.plain pieces)).outcome (readableBrackets ('\\' :: '\\' :: t)) =
      if greaterCode.isPrefixOf t || lessCode.isPrefixOf t then none
      else (inside (.plain (.char '\\' :: pieces))).outcome (readableBrackets t) := by
  rw [readableBrackets_backslash (t := '\\' :: t) rfl rfl]
  cases hgreater : greaterCode.isPrefixOf t with
  | true =>
    obtain ⟨u, rfl⟩ := List.isPrefixOf_iff_prefix.mp hgreater
    rw [readableBrackets_greater, outcome_escapedBracket h pieces (.inl rfl)]
    rfl
  | false =>
    cases hless : lessCode.isPrefixOf t with
    | true =>
      obtain ⟨u, rfl⟩ := List.isPrefixOf_iff_prefix.mp hless
      rw [readableBrackets_less, outcome_escapedBracket h pieces (.inr rfl)]
      rfl
    | false =>
      rw [readableBrackets_backslash hgreater hless,
        h.outcome_escaped pieces (by decide) (show Json.Reader.escaped? '\\' = some '\\' from rfl)]
      rfl

/-- A string is read as it was unless it spells the escape of a bracket. -/
theorem outcome_readableString (h : Json.Reader.Inside inside after) (pieces : StringToken)
    (t rest : Text) :
    (inside (.plain pieces)).outcome
        (readableBrackets (t.flatMap Json.writeChar ++ '"' :: rest)) =
      if !spellsBracket t then
        (after (pieces.reverse ++ .ofWritten t)).outcome (readableBrackets rest)
      else none := by
  induction t generalizing pieces with
  | nil =>
    have hquote := readableBrackets_append (w := ['"']) (by decide) rest
    rw [List.flatMap_nil, List.nil_append, show '"' :: rest = ['"'] ++ rest from rfl, hquote]
    simp [h.outcome_quote, spellsBracket, Text.occursIn, StringToken.ofWritten]
  | cons c more ih =>
    rw [List.flatMap_cons, List.append_assoc]
    by_cases hc : c = '\\'
    · subst hc
      have hgreater := isPrefixOf_written (w := greaterCode)
        (fun c hc => writeChar_bracketCode c (by simp [hc])) more rest
      have hless := isPrefixOf_written (w := lessCode)
        (fun c hc => writeChar_bracketCode c (by simp [hc])) more rest
      have hwrite : Json.writeChar '\\' = ['\\', '\\'] := rfl
      rw [hwrite, List.cons_append, List.cons_append, List.nil_append, outcome_readableBackslash h,
        hgreater, hless, ih, spellsBracket_backslash]
      cases greaterCode.isPrefixOf more <;> cases lessCode.isPrefixOf more <;>
        cases spellsBracket more <;> simp [StringToken.ofWritten, StringPiece.ofWritten]
    · rw [readableBrackets_writeChar hc, h.outcome_writeChar, ih, spellsBracket_cons hc]
      simp [StringToken.ofWritten]

end Strings

/-- The text with readable brackets, as a rendering. -/
def withReadableBrackets : Json.Reader.Rendering where
  render := readableBrackets
  keeps t := !spellsBracket t
  nil := rfl
  cons {c} hc t := readableBrackets_append (w := [c]) (by simpa using Ne.symm hc) t
  string := outcome_readableString

/-! ## Texts that spell no escape -/

/-- No text of the value spells the escape of a bracket. -/
def IsClean (j : Json) : Prop := ∀ t ∈ j.texts, spellsBracket t = false

/-- A truth value spells no bracket. -/
theorem isClean_bool (b : Bool) : IsClean (.bool b) := fun _ ht => nomatch ht

/-- A natural number spells no bracket. -/
theorem isClean_ofNat (n : Nat) : IsClean (Json.ofNat n) := fun _ ht => nomatch ht

/-- A whole number spells no bracket. -/
theorem isClean_ofInt (n : Int) : IsClean (Json.ofInt n) := fun _ ht => nomatch ht

/-- A text is clean if it spells no bracket. -/
theorem isClean_ofText_iff {t : Text} : IsClean (Json.ofText t) ↔ spellsBracket t = false := by
  simp [IsClean, Json.ofText, Json.texts, StringToken.text?_ofText]

/-- A list is clean if its items are. -/
theorem isClean_array_iff {items : List Json} :
    IsClean (.array items) ↔ ∀ j ∈ items, IsClean j := by
  have htexts : Json.textsOfItems items = items.flatMap Json.texts := by
    induction items with
    | nil => rfl
    | cons j rest ih => rw [Json.textsOfItems, ih, List.flatMap_cons]
  simp only [IsClean, Json.texts, htexts, List.mem_flatMap]
  exact ⟨fun h j hj t ht => h t ⟨j, hj, ht⟩, fun h t ⟨j, hj, ht⟩ => h j hj t ht⟩

/-- An object is clean if its names spell no bracket and its values are clean. -/
theorem isClean_object_iff {members : List (StringToken × Json)} :
    IsClean (.object members) ↔
      ∀ m ∈ members, spellsBracket (m.1.text?.getD []) = false ∧ IsClean m.2 := by
  have htexts : Json.textsOfMembers members =
      members.flatMap fun m => m.1.text?.getD [] :: m.2.texts := by
    induction members with
    | nil => rfl
    | cons m rest ih => rw [Json.textsOfMembers, ih, List.flatMap_cons]
  simp only [IsClean, Json.texts, htexts, List.mem_flatMap, List.mem_cons]
  constructor
  · exact fun h m hm => ⟨h _ ⟨m, hm, .inl rfl⟩, fun t ht => h t ⟨m, hm, .inr ht⟩⟩
  · rintro h t ⟨m, hm, rfl | ht⟩
    · exact (h m hm).1
    · exact (h m hm).2 t ht

/-- A list of texts is clean if none of them spells a bracket. -/
theorem isClean_textArray_iff {ts : List Text} :
    IsClean (textArray ts) ↔ ∀ t ∈ ts, spellsBracket t = false := by
  simp [textArray, isClean_array_iff, isClean_ofText_iff]

/-- A text that may be missing is clean if it is missing or spells no bracket. -/
theorem isClean_nullable_iff {t : Option Text} :
    IsClean (nullable t) ↔ ∀ u ∈ t.toList, spellsBracket u = false := by
  cases t with
  | none => simp [nullable, IsClean, Json.texts]
  | some t => simp [nullable, isClean_ofText_iff]

/-- A record whose names have no backslash is clean if its values are. -/
theorem isClean_record_iff {members : List (String × Json)}
    (h : ∀ m ∈ members, '\\' ∉ m.1.toList) :
    IsClean (record members) ↔ ∀ m ∈ members, IsClean m.2 := by
  simp only [record, isClean_object_iff, List.forall_mem_map, StringToken.text?_ofText,
    Option.getD_some]
  exact forall₂_congr fun m hm => and_iff_right (spellsBracket_of_not_mem (h m hm))

/-! ## The texts of a snapshot -/

/-- The texts of the site. -/
def Site.texts (s : Site) : List Text := s.hostname :: s.alternateHostnames ++ [s.proto]

/-- The names of the certificate files. -/
def TlsFiles.texts (t : TlsFiles) : List Text := t.certificate.toList ++ t.privateKey.toList

/-- The texts of a rule, less the word for its part. -/
def ConditionalRule.texts (r : ConditionalRule) : List Text := r.urlPath :: r.criteria

/-- The texts of the rules about paths. -/
def UrlPaths.texts (u : UrlPaths) : List Text :=
  u.restrict ++ u.exclude ++ u.forward.map ForwardRule.toText ++
    u.conditional.flatMap ConditionalRule.texts

/-- The keys of the free data and their values. -/
def Data.texts (d : Data) : List Text := d.flatMap fun entry => [entry.1, entry.2]

/-- All texts of a snapshot. -/
def Snapshot.texts (s : Snapshot) : List Text :=
  [s.webRoot, s.appdata, s.configFile, s.digest] ++ s.site.texts ++ s.tls.texts ++
    s.admin.allowedAddresses ++ s.allowedMethods ++ s.urlPaths.texts ++ s.blockedAddresses ++
    Data.texts s.data

/-- The names of a site are clean if none of its texts spells a bracket. -/
theorem isClean_site_iff {s : Site} :
    IsClean s.toJson ↔ ∀ t ∈ s.texts, spellsBracket t = false := by
  rw [Site.toJson, isClean_record_iff (by simp)]
  simp [Site.texts, isClean_ofText_iff, isClean_textArray_iff, isClean_ofNat, or_imp, forall_and]

/-- The files of a certificate are clean if none of their texts spells a bracket. -/
theorem isClean_tlsFiles_iff {f : TlsFiles} :
    IsClean f.toJson ↔ ∀ t ∈ f.texts, spellsBracket t = false := by
  rw [TlsFiles.toJson, isClean_record_iff (by simp)]
  simp [TlsFiles.texts, isClean_nullable_iff, or_imp, forall_and]

/-- The administration is clean if none of its addresses spells a bracket. -/
theorem isClean_admin_iff {a : Admin} :
    IsClean a.toJson ↔ ∀ t ∈ a.allowedAddresses, spellsBracket t = false := by
  rw [Admin.toJson, isClean_record_iff (by simp)]
  simp [isClean_bool, isClean_ofNat, isClean_textArray_iff]

/-- A conditional rule is clean if none of its texts spells a bracket. -/
theorem isClean_conditionalRule_iff {r : ConditionalRule} :
    IsClean r.toJson ↔ ∀ t ∈ r.texts, spellsBracket t = false := by
  have hname : spellsBracket r.part.name = false := by cases r.part <;> decide
  rw [ConditionalRule.toJson, isClean_record_iff (by simp)]
  simp [ConditionalRule.texts, isClean_ofText_iff, isClean_textArray_iff, isClean_ofInt, hname]

/-- The rules for paths are clean if none of their texts spells a bracket. -/
theorem isClean_urlPaths_iff {u : UrlPaths} :
    IsClean u.toJson ↔ ∀ t ∈ u.texts, spellsBracket t = false := by
  have hrules : IsClean (.array (u.conditional.map ConditionalRule.toJson)) ↔
      ∀ t ∈ u.conditional.flatMap ConditionalRule.texts, spellsBracket t = false := by
    simp only [isClean_array_iff, List.forall_mem_map, isClean_conditionalRule_iff,
      List.forall_mem_flatMap]
  rw [UrlPaths.toJson, isClean_record_iff (by simp)]
  simp [UrlPaths.texts, isClean_textArray_iff, hrules, or_imp, forall_and]

/-- A banner is clean: it has no texts. -/
theorem isClean_banner (b : MessageBanner) : IsClean b.toJson := by
  rw [MessageBanner.toJson, isClean_record_iff (by simp)]
  simp [isClean_bool, isClean_ofNat]

/-- Free data are clean if none of their texts spells a bracket. -/
theorem isClean_data_iff {d : Data} :
    IsClean (Data.toJson d) ↔ ∀ t ∈ Data.texts d, spellsBracket t = false := by
  simp only [Data.toJson, Data.texts, isClean_object_iff, List.forall_mem_map, isClean_ofText_iff,
    StringToken.text?_ofText, Option.getD_some, List.forall_mem_flatMap, List.forall_mem_cons,
    List.not_mem_nil, IsEmpty.forall_iff, implies_true, and_true]

/-- The texts of a snapshot are those of its JSON value, less the names in it. -/
theorem isClean_snapshot_iff {s : Snapshot} :
    IsClean s.toJson ↔ ∀ t ∈ s.texts, spellsBracket t = false := by
  have hhttp : IsClean (record [("allowed-methods", textArray s.allowedMethods)]) ↔
      ∀ t ∈ s.allowedMethods, spellsBracket t = false := by
    rw [isClean_record_iff (by simp)]
    simp [isClean_textArray_iff]
  rw [Snapshot.toJson, isClean_record_iff (by simp)]
  simp only [List.forall_mem_cons, List.not_mem_nil, IsEmpty.forall_iff, implies_true,
    isClean_ofText_iff, isClean_ofNat,
    isClean_site_iff, isClean_tlsFiles_iff, isClean_admin_iff, hhttp, isClean_urlPaths_iff,
    isClean_banner, isClean_bool, isClean_textArray_iff, isClean_data_iff, Snapshot.texts,
    List.forall_mem_append, and_true, true_and, and_assoc]

/-! ## The export -/

/-- The export of a snapshot is read as its JSON text is, unless a text of the snapshot spells the
escape of a bracket; then it is no JSON. -/
theorem parse?_exportText (s : Snapshot) :
    Json.parse? s.exportText =
      if s.toJson.texts.all (!spellsBracket ·) then Json.parse? s.toJsonText else none := by
  rw [Snapshot.toJsonText, Json.parse?_write s.plain_toJson]
  exact withReadableBrackets.parse?_render_write s.plain_toJson

/-- The export of a snapshot is JSON with the value of the plain text just if no text of the
snapshot spells the escape of a bracket, and otherwise it is no JSON. -/
theorem exported_iff (s : Snapshot) :
    ((∃ j, Json.parse? s.toJsonText = some j ∧ Json.parse? s.exportText = some j) ↔
      ∀ t ∈ s.texts, spellsBracket t = false) ∧
    (Json.parse? s.exportText = none ↔ ∃ t ∈ s.texts, spellsBracket t = true) := by
  have hplain : Json.parse? s.toJsonText = some s.toJson.readBack :=
    Json.parse?_write s.plain_toJson
  have hexport := parse?_exportText s
  rw [hplain] at hexport ⊢
  by_cases hclean : ∀ t ∈ s.texts, spellsBracket t = false
  · have hall : s.toJson.texts.all (!spellsBracket ·) = true :=
      List.all_eq_true.mpr fun t ht => by simp [isClean_snapshot_iff.mpr hclean t ht]
    rw [if_pos hall] at hexport
    refine ⟨iff_of_true ⟨_, rfl, hexport⟩ hclean, iff_of_false ?_ ?_⟩
    · simp [hexport]
    · rintro ⟨t, ht, hspells⟩
      rw [hclean t ht] at hspells
      cases hspells
  · have hall : ¬ s.toJson.texts.all (!spellsBracket ·) = true := fun h =>
      hclean (isClean_snapshot_iff.mp fun t ht => by simpa using List.all_eq_true.mp h t ht)
    rw [if_neg hall] at hexport
    refine ⟨iff_of_false ?_ hclean, iff_of_true hexport (by simpa using hclean)⟩
    rintro ⟨j, -, hj⟩
    rw [hexport] at hj
    cases hj

/-- A configuration with a text that spells an escape. -/
def escapeConfig : Text := "Data\nk \\u003e\n".toList

/-- The export of that configuration is no JSON. -/
theorem not_exported :
    ¬ ∀ t blocked : Text, ∃ j,
      Json.parse? { Snapshot.ofText t with
        blockedAddresses := blockedAddresses blocked }.toJsonText = some j ∧
      Json.parse? { Snapshot.ofText t with
        blockedAddresses := blockedAddresses blocked }.exportText = some j := by
  intro h
  obtain ⟨j, -, hj⟩ := h escapeConfig []
  have hspells : ({ Snapshot.ofText escapeConfig with
      blockedAddresses := blockedAddresses [] }.toJson.texts.all (!spellsBracket ·)) = false := by
    decide +kernel
  rw [parse?_exportText, if_neg (by simp [hspells])] at hj
  cases hj

end Config

end SiteGate
