import Mathlib.Data.List.Nodup
import SiteGate.Config.Snapshot.Json
import SiteGate.Proofs.Gate.Redirect
import SiteGate.Proofs.Json.ReadBack

/-!
# Snapshots read back from JSON

A snapshot that says what a configuration says is written in JSON and read back as it was
(`Snapshot.reads_back`), in whatever order its free data are kept. A record is read back by its
names, each of them once (`fields?_record`, `getD_record`), so every record is a line for each of
its fields. The numbers fit because the readers of a configuration have bounded them, and a forward
rule is its own text's rule because trimming it a second time takes nothing off. Only one that lacks
a destination is not: the text that stands for the missing destination would be refused for another
reason.
-/

set_option autoImplicit false

namespace SiteGate

namespace Json

/-! ## Values -/

/-- Items are plain if each of them is. -/
theorem plainItems_iff {items : List Json} : PlainItems items ↔ ∀ j ∈ items, j.Plain := by
  induction items with
  | nil => simp [PlainItems]
  | cons j rest ih => simp [PlainItems, ih]

/-- Members are plain if their names are texts and their values are plain. -/
theorem plainMembers_iff {members : List (StringToken × Json)} :
    PlainMembers members ↔ ∀ m ∈ members, (∃ t, m.1 = .ofText t) ∧ m.2.Plain := by
  induction members with
  | nil => simp [PlainMembers]
  | cons m rest ih => simp [PlainMembers, ih, and_assoc]

/-- Members are read back one by one. -/
theorem readBackMembers_eq_map (members : List (StringToken × Json)) :
    readBackMembers members =
      members.map fun m => (.ofWritten (m.1.text?.getD []), m.2.readBack) := by
  induction members with
  | nil => rfl
  | cons m rest ih => rw [readBackMembers, ih, List.map_cons]

/-- A text is plain. -/
theorem plain_ofText (t : Text) : (ofText t).Plain := ⟨t, rfl⟩

/-- A truth value is plain. -/
theorem plain_bool (b : Bool) : (bool b).Plain := trivial

/-- A natural number is plain. -/
theorem plain_ofNat (n : Nat) : (ofNat n).Plain := ⟨false, n, rfl⟩

/-- A whole number is plain. -/
theorem plain_ofInt (n : Int) : (ofInt n).Plain := ⟨_, n.natAbs, rfl⟩

/-- A text is read back as itself. -/
@[simp]
theorem text?_readBack_ofText (t : Text) : (ofText t).readBack.text? = some t := by
  simp [ofText, readBack, text?, StringToken.text?_ofText, StringToken.text?_ofWritten]

/-- The digits of a number say what it is. -/
theorem valueOf_ofNat (n : Nat) : Number.valueOf (Text.ofNat n) = n := by
  calc Number.valueOf (Text.ofNat n)
      = Nat.ofDigitChars 10 (Nat.toDigits 10 n) 0 := by
        simp only [Number.valueOf, Nat.ofDigitChars, Nat.mul_comm, Text.ofNat]
    _ = n := Nat.ofDigitChars_ten_toDigits

/-- A whole number is read as itself if one of the two kinds of integers has room for it. -/
theorem integer?_wholeNumber (negative : Bool) (n : Nat) :
    (wholeNumber negative n).integer? =
      if negative then if 0 < n ∧ n ≤ UInt64.size / 2 then some (-(n : Int)) else none
      else if n < UInt64.size then some (n : Int) else none := by
  simp [Number.integer?, wholeNumber, valueOf_ofNat]

/-- A natural number within its bound is read back. -/
theorem natural?_readBack_ofNat {limit n : Nat} (hlimit : limit ≤ UInt64.size) (hn : n < limit) :
    (ofNat n).readBack.natural? limit = some n := by
  have hvalue := integer?_wholeNumber false n
  rw [if_neg Bool.false_ne_true, if_pos (Nat.lt_of_lt_of_le hn hlimit)] at hvalue
  show (wholeNumber false n).natural? limit = some n
  rw [Number.natural?, hvalue]
  exact if_pos hn

/-- An integer of sixty-four bits is read back. -/
theorem integer64?_readBack_ofInt {n : Int} (hlow : -(UInt64.size / 2 : Nat) ≤ n)
    (hhigh : n < (UInt64.size / 2 : Nat)) : (ofInt n).readBack.integer64? = some n := by
  have hsize : UInt64.size = 18446744073709551616 := rfl
  have hvalue : (wholeNumber (decide (n < 0)) n.natAbs).integer? = some n := by
    rw [integer?_wholeNumber]
    by_cases hneg : n < 0
    · rw [if_pos (decide_eq_true hneg), if_pos (by omega)]
      congr 1
      omega
    · rw [if_neg (by simpa using hneg), if_pos (by omega)]
      congr 1
      omega
  show (wholeNumber (decide (n < 0)) n.natAbs).integer?.filter _ = some n
  rw [hvalue, Option.filter_some]
  exact if_pos (decide_eq_true hhigh)

end Json

namespace Config

open Json (Fields)

/-! ## Records -/

/-- A record is plain if its fields are. -/
theorem plain_record {members : List (String × Json)} (h : ∀ m ∈ members, m.2.Plain) :
    (record members).Plain := by
  refine Json.plainMembers_iff.mpr fun m hm => ?_
  obtain ⟨⟨name, j⟩, hmem, rfl⟩ := List.mem_map.mp hm
  exact ⟨⟨name.toList, rfl⟩, h _ hmem⟩

/-- A list of texts is plain. -/
theorem plain_textArray (ts : List Text) : (textArray ts).Plain :=
  Json.plainItems_iff.mpr (by simp [Json.plain_ofText])

/-- A text that may be missing is plain. -/
theorem plain_nullable (t : Option Text) : (nullable t).Plain := by
  cases t with
  | none => trivial
  | some t => exact Json.plain_ofText t

/-- A conditional rule is plain. -/
theorem ConditionalRule.plain_toJson (r : ConditionalRule) : r.toJson.Plain :=
  plain_record (by simp [Json.plain_ofText, Json.plain_ofInt, plain_textArray])

/-- The rules for paths are plain. -/
theorem UrlPaths.plain_toJson (u : UrlPaths) : u.toJson.Plain := by
  have hrules : (Json.array (u.conditional.map ConditionalRule.toJson)).Plain :=
    Json.plainItems_iff.mpr (by simp [ConditionalRule.plain_toJson])
  exact plain_record (by simp [plain_textArray, hrules])

/-- Free data are plain. -/
theorem Data.plain_toJson (d : Data) : (Data.toJson d).Plain := by
  refine Json.plainMembers_iff.mpr fun m hm => ?_
  obtain ⟨⟨key, value⟩, -, rfl⟩ := List.mem_map.mp hm
  exact ⟨⟨key, rfl⟩, Json.plain_ofText value⟩

/-- A snapshot is a plain value. -/
theorem Snapshot.plain_toJson (s : Snapshot) : s.toJson.Plain := by
  have hsite : s.site.toJson.Plain :=
    plain_record (by simp [Json.plain_ofText, Json.plain_ofNat, plain_textArray])
  have htls : s.tls.toJson.Plain := plain_record (by simp [plain_nullable])
  have hadmin : s.admin.toJson.Plain :=
    plain_record (by simp [Json.plain_bool, Json.plain_ofNat, plain_textArray])
  have hhttp : (record [("allowed-methods", textArray s.allowedMethods)]).Plain :=
    plain_record (by simp [plain_textArray])
  have hbanner : s.banner.toJson.Plain :=
    plain_record (by simp [Json.plain_bool, Json.plain_ofNat])
  exact plain_record (by simp [Json.plain_ofText, Json.plain_ofNat, Json.plain_bool,
    plain_textArray, hsite, htls, hadmin, hhttp, hbanner, s.urlPaths.plain_toJson,
    Data.plain_toJson])

/-- What is read of the members of a record. -/
def fieldsOf (members : List (String × Json)) : Fields :=
  members.map fun m => (m.1.toList, m.2.readBack)

/-- A record is read back as its fields, in their order. -/
theorem readBack_record (members : List (String × Json)) :
    (record members).readBack =
      .object ((fieldsOf members).map fun field => (.ofWritten field.1, field.2)) := by
  rw [record, Json.readBack, Json.readBackMembers_eq_map, fieldsOf, List.map_map, List.map_map]
  congr 1
  refine List.map_congr_left fun m _ => ?_
  simp [StringToken.text?_ofText]

/-- Fields with different known names are read one after the other. -/
theorem fieldsOfMembers_ofWritten {names : List Text} (o : Json.Openness) {fs : Fields}
    (hnames : ∀ field ∈ fs, field.1 ∈ names) (seen : Fields)
    (hnodup : ((seen.reverse ++ fs).map Prod.fst).Nodup) :
    Json.fieldsOfMembers names o seen (fs.map fun field => (.ofWritten field.1, field.2)) =
      some (seen.reverse ++ fs) := by
  induction fs generalizing seen with
  | nil => simp [Json.fieldsOfMembers]
  | cons field rest ih =>
    obtain ⟨name, j⟩ := field
    have hname : names.contains name = true := by simpa using hnames (name, j) (by simp)
    have hnew : seen.any (·.1 == name) = false := by
      rw [List.any_eq_false]
      intro f hf hsame
      rw [List.map_append, List.nodup_append] at hnodup
      refine hnodup.2.2 f.1 ?_ name (by simp) (by simpa using hsame)
      exact List.mem_map_of_mem (List.mem_reverse.mpr hf)
    have hrest := ih (fun f hf => hnames f (by simp [hf])) ((name, j) :: seen)
      (by simpa using hnodup)
    rw [List.map_cons, Json.fieldsOfMembers.eq_def]
    simp only [StringToken.text?_ofWritten, Option.bind_some, hname, hnew, if_true]
    simpa using hrest

/-- A record is read back with all its fields. -/
theorem fields?_record (o : Json.Openness) {names : List String} {members : List (String × Json)}
    (hnames : members.map Prod.fst = names) (hnodup : names.Nodup) :
    (record members).readBack.fields? (names.map String.toList) o = some (fieldsOf members) := by
  have hmap : (fieldsOf members).map Prod.fst = names.map String.toList := by
    rw [← hnames, fieldsOf, List.map_map, List.map_map]
    rfl
  have hlists : ((fieldsOf members).map Prod.fst).Nodup := by
    rw [hmap]
    exact List.Nodup.map (fun _ _ => String.toList_inj.mp) hnodup
  have hknown : ∀ field ∈ fieldsOf members, field.1 ∈ names.map String.toList := by
    intro field hfield
    rw [← hmap]
    exact List.mem_map_of_mem hfield
  rw [readBack_record]
  exact fieldsOfMembers_ofWritten o hknown [] hlists

section Fields

variable {α : Type} {name other : String} (j : Json) (rest : List (String × Json))
  (decode : Json → Option α) (default : α)

/-- A field is read back from the first member of its name. -/
theorem getD_fieldsOf_self :
    (fieldsOf ((name, j) :: rest)).getD name decode default = decode j.readBack := by
  simp [fieldsOf, Fields.getD]

/-- A field that may be missing is looked for behind members of other names. -/
theorem getD_fieldsOf_of_ne (h : name ≠ other) :
    (fieldsOf ((other, j) :: rest)).getD name decode default =
      (fieldsOf rest).getD name decode default := by
  have hlists : name.toList ≠ other.toList := fun heq => h (String.toList_inj.mp heq)
  simp [fieldsOf, Fields.getD, List.lookup_cons, beq_false_of_ne hlists]

/-- A field that is required is read back from the first member of its name. -/
theorem require_fieldsOf_self :
    (fieldsOf ((name, j) :: rest)).require name decode = decode j.readBack := by
  simp [fieldsOf, Fields.require]

/-- A field that is required is looked for behind members of other names. -/
theorem require_fieldsOf_of_ne (h : name ≠ other) :
    (fieldsOf ((other, j) :: rest)).require name decode =
      (fieldsOf rest).require name decode := by
  have hlists : name.toList ≠ other.toList := fun heq => h (String.toList_inj.mp heq)
  simp [fieldsOf, Fields.require, List.lookup_cons, beq_false_of_ne hlists]

end Fields

/-- An array is read back if its items are. -/
theorem mapM_readBack {α : Type} {encode : α → Json} {decode : Json → Option α} {xs : List α}
    (h : ∀ x ∈ xs, decode (encode x).readBack = some x) :
    (Json.readBackItems (xs.map encode)).mapM decode = some xs := by
  induction xs with
  | nil => rfl
  | cons x rest ih =>
    rw [List.map_cons, Json.readBackItems, List.mapM_cons, h x (by simp),
      ih fun y hy => h y (by simp [hy])]
    rfl

/-! ## Parts of a snapshot -/

/-- A list of texts is read back as itself. -/
theorem texts?_readBack_textArray (ts : List Text) : (textArray ts).readBack.texts? = some ts :=
  mapM_readBack fun t _ => Json.text?_readBack_ofText t

/-- A text that may be missing is read back as itself. -/
theorem nullableText?_readBack_nullable (t : Option Text) :
    (nullable t).readBack.nullableText? = some t := by
  cases t with
  | none => rfl
  | some t => exact congrArg (Option.map some) (Json.text?_readBack_ofText t)

/-- A truth value is read back as itself. -/
theorem bool?_readBack_bool (b : Bool) : (Json.bool b).readBack.bool? = some b := rfl

/-- A port is read back. -/
theorem natural?_readBack_port (port : UInt16) :
    (Json.ofNat port.toNat).readBack.natural? UInt16.size = some port.toNat :=
  Json.natural?_readBack_ofNat (by decide) port.toNat_lt

/-- The names of a site are read back as they are. -/
theorem Site.ofJson?_readBack (s : Site) : Site.ofJson? s.toJson.readBack = some s := by
  rw [Site.ofJson?, Site.toJson, fields?_record]
  · simp [getD_fieldsOf_self, getD_fieldsOf_of_ne, texts?_readBack_textArray,
      natural?_readBack_port]
  · rfl
  · simp

/-- The files of a certificate are read back as they are. -/
theorem TlsFiles.ofJson?_readBack (t : TlsFiles) : TlsFiles.ofJson? t.toJson.readBack = some t := by
  rw [TlsFiles.ofJson?, TlsFiles.toJson, fields?_record]
  · simp [getD_fieldsOf_self, getD_fieldsOf_of_ne, nullableText?_readBack_nullable]
  · rfl
  · simp

/-- The settings of the administration are read back as they are. -/
theorem Admin.ofJson?_readBack (a : Admin) : Admin.ofJson? a.toJson.readBack = some a := by
  rw [Admin.ofJson?, Admin.toJson, fields?_record]
  · simp [getD_fieldsOf_self, getD_fieldsOf_of_ne, texts?_readBack_textArray,
      natural?_readBack_port, bool?_readBack_bool]
  · rfl
  · simp

/-- The allowed methods are read back as they are. -/
theorem allowedMethodsOfJson?_readBack (methods : List Text) :
    allowedMethodsOfJson? (record [("allowed-methods", textArray methods)]).readBack =
      some methods := by
  rw [allowedMethodsOfJson?, show ["allowed-methods".toList] = ["allowed-methods"].map String.toList
    from rfl, fields?_record]
  · simp [getD_fieldsOf_self, texts?_readBack_textArray]
  · rfl
  · simp

/-- A banner is read back as it is if its numbers fit. -/
theorem MessageBanner.ofJson?_readBack {b : MessageBanner}
    (hseconds : b.secondsToDisplay < UInt64.size) (hticks : b.tickCount < UInt64.size) :
    MessageBanner.ofJson? b.toJson.readBack = some b := by
  rw [MessageBanner.ofJson?, MessageBanner.toJson, fields?_record]
  · simp [getD_fieldsOf_self, getD_fieldsOf_of_ne, bool?_readBack_bool,
      Json.natural?_readBack_ofNat, hseconds, hticks]
  · rfl
  · simp

/-- A status that a rule can have been given. -/
def ConditionalRule.Bounded (r : ConditionalRule) : Prop :=
  -(UInt64.size / 2 : Nat) ≤ r.statusCode ∧ r.statusCode < (UInt64.size / 2 : Nat)

/-- The part of a request that a rule is about is read back from its name. -/
theorem part?_readBack_name (part : RequestPart) :
    ConditionalRule.part? (Json.ofText part.name).readBack = some part := by
  cases part <;> decide

/-- A conditional rule is read back as it is if its number fits. -/
theorem ConditionalRule.ofJson?_readBack {r : ConditionalRule} (h : r.Bounded) :
    ofJson? r.toJson.readBack = some r := by
  rw [ofJson?, toJson, fieldNames, fields?_record]
  · simp [getD_fieldsOf_self, getD_fieldsOf_of_ne, require_fieldsOf_self, require_fieldsOf_of_ne,
      part?_readBack_name, texts?_readBack_textArray, Json.integer64?_readBack_ofInt h.1 h.2]
  · rfl
  · simp

/-- Path rules as they are read back: a forward rule is the one that its own text spells. -/
def UrlPaths.reread (u : UrlPaths) : UrlPaths :=
  { u with forward := u.forward.map fun r => ForwardRule.ofText r.toText }

/-- Looking again at the forward rules changes nothing if each is the rule of its text. -/
theorem UrlPaths.reread_eq {u : UrlPaths}
    (h : ∀ r ∈ u.forward, ForwardRule.ofText r.toText = r) : u.reread = u := by
  rw [reread, List.map_congr_left h, List.map_id']

/-- The rules for paths are read back with their forward rules looked at again. -/
theorem UrlPaths.ofJson?_readBack {u : UrlPaths} (hconditional : ∀ r ∈ u.conditional, r.Bounded) :
    UrlPaths.ofJson? u.toJson.readBack = some u.reread := by
  have hrules : (Json.array (u.conditional.map ConditionalRule.toJson)).readBack.items?.bind
      (·.mapM ConditionalRule.ofJson?) = some u.conditional :=
    mapM_readBack fun r hr => ConditionalRule.ofJson?_readBack (hconditional r hr)
  rw [UrlPaths.ofJson?, UrlPaths.toJson, fields?_record]
  · simp [getD_fieldsOf_self, getD_fieldsOf_of_ne, texts?_readBack_textArray, hrules, reread]
  · rfl
  · simp

/-- Free data without a repeated key are read back one entry after the other. -/
theorem Data.ofMembers?_readBack (done d : Data) (h : ((done ++ d).map Prod.fst).Nodup) :
    Data.ofMembers? done (Json.readBackMembers
      (d.map fun (key, value) => (.ofText key, Json.ofText value))) = some (done ++ d) := by
  induction d generalizing done with
  | nil => simp [Json.readBackMembers, Data.ofMembers?]
  | cons entry rest ih =>
    obtain ⟨key, value⟩ := entry
    have hnew : key ∉ done.map Prod.fst := by
      rw [List.map_append, List.nodup_append] at h
      exact fun hmem => h.2.2 key hmem key (by simp) rfl
    rw [List.map_cons, Json.readBackMembers, Data.ofMembers?, StringToken.text?_ofWritten,
      StringToken.text?_ofText, Json.text?_readBack_ofText, Option.bind_some, Option.bind_some,
      Option.getD_some, Association.insert_of_not_mem hnew, ih _ (by simpa using h)]
    simp

/-- Free data are read back as they are if no key is repeated. -/
theorem Data.ofJson?_readBack {d : Data} (h : (d.map Prod.fst).Nodup) :
    Data.ofJson? (Data.toJson d).readBack = some d :=
  Data.ofMembers?_readBack [] d h

/-! ## What a configuration can say -/

/-- An integer of sixty-four bits lies within its bounds. -/
theorem bounds_of_integer64? {j : Json} {n : Int} (h : j.integer64? = some n) :
    -(UInt64.size / 2 : Nat) ≤ n ∧ n < (UInt64.size / 2 : Nat) := by
  obtain ⟨hread, hhigh⟩ := Option.filter_eq_some_iff.mp h
  refine ⟨?_, by simpa using hhigh⟩
  cases j with
  | number v =>
    have hvalue : v.integer? = some n := hread
    unfold Number.integer? at hvalue
    simp only at hvalue
    repeat' split at hvalue
    all_goals first
      | (obtain rfl := Option.some.inj hvalue; omega)
      | cases hvalue
  | _ => cases hread

/-- A rule's status is one of sixty-four bits. -/
theorem ConditionalRule.bounded_of_ofJson? {j : Json} {r : ConditionalRule}
    (h : ofJson? j = some r) : r.Bounded := by
  simp only [ofJson?, Option.bind_eq_bind, Option.bind_eq_some_iff, Option.some.injEq] at h
  obtain ⟨fs, -, part, -, urlPath, -, criteria, -, status, hstatus, rfl⟩ := h
  unfold Fields.getD at hstatus
  split at hstatus
  · exact bounds_of_integer64? hstatus
  · obtain rfl := Option.some.inj hstatus
    show -(UInt64.size / 2 : Nat) ≤ (0 : Int) ∧ (0 : Int) < (UInt64.size / 2 : Nat)
    decide

/-- A destination that is looked at again is what it was, unless it was missing. The text that
stands for it then does not begin with a slash, so it is refused for that. -/
theorem ForwardRule.targetOf_targetOf (place : Text) :
    targetOf (Text.trim (targetOf (Text.trim place))) =
      if Text.trim place = [] then Refusal.absolute.message else targetOf (Text.trim place) := by
  have htrimmed := Text.isTrimmed_trim place
  generalize Text.trim place = kept at htrimmed
  cases kept with
  | nil => decide
  | cons c rest =>
    rw [if_neg (List.cons_ne_nil c rest)]
    by_cases hc : c = '/'
    · have htarget : targetOf (c :: rest) = c :: rest := if_pos hc
      rw [htarget, Text.trim_of_isTrimmed htrimmed, htarget]
    · have htarget : targetOf (c :: rest) = Refusal.absolute.message := if_neg hc
      rw [htarget]
      decide

/-- The destination of an entry: what stands behind its first bar, less the blanks around it. -/
def ForwardRule.destination (entry : Text) : Text :=
  match Text.cutAt? (· == '|') entry with
  | some (_, place) => Text.trim place
  | none => []

/-- The target of a rule depends on its destination alone. -/
theorem ForwardRule.target_ofText (entry : Text) :
    (ofText entry).target = targetOf (destination entry) := by
  cases hcut : Text.cutAt? (· == '|') entry with
  | none => rw [ofText, destination, hcut]
  | some parts => rw [ofText, destination, hcut]

/-- The target of a rule says that there is no destination just if there is none. -/
theorem ForwardRule.target_eq_missing_iff {entry : Text} :
    (ofText entry).target = Refusal.missing.message ↔ destination entry = [] := by
  rw [target_ofText]
  cases hplace : destination entry with
  | nil => exact iff_of_true rfl rfl
  | cons c rest =>
    refine iff_of_false (fun h => ?_) (List.cons_ne_nil c rest)
    have hhead : Refusal.missing.message.head? = some '~' := by decide
    by_cases hc : c = '/'
    · rw [show targetOf (c :: rest) = c :: rest from if_pos hc, hc] at h
      rw [← h] at hhead
      exact absurd hhead (by simp)
    · rw [show targetOf (c :: rest) = Refusal.absolute.message from if_neg hc] at h
      exact absurd h (by decide)

/-- The rule of a rule's own text has its source, and its destination looked at again. -/
theorem ForwardRule.ofText_toText_eq (entry : Text) :
    ofText (ofText entry).toText =
      if destination entry = [] then ⟨(ofText entry).source, Refusal.absolute.message⟩
      else ofText entry := by
  obtain ⟨source, place, hrule, hplace, hbar, hsource⟩ : ∃ source place,
      ofText entry = ⟨source, targetOf (Text.trim place)⟩ ∧ destination entry = Text.trim place ∧
        (∀ c ∈ source, (c == '|') = false) ∧ Text.trim source = source := by
    cases hcut : Text.cutAt? (· == '|') entry with
    | none =>
      refine ⟨Text.trim entry, [], by rw [ofText, hcut]; rfl, by rw [destination, hcut]; rfl, ?_,
        Text.trim_of_isTrimmed (Text.isTrimmed_trim entry)⟩
      exact fun c hc => Text.cutAt?_eq_none_iff.mp hcut c (Text.trim_subset entry hc)
    | some parts =>
      refine ⟨Text.trim parts.1, parts.2, by rw [ofText, hcut], by rw [destination, hcut], ?_,
        Text.trim_of_isTrimmed (Text.isTrimmed_trim parts.1)⟩
      exact fun c hc => Text.not_of_cutAt? hcut c (Text.trim_subset parts.1 hc)
  rw [hrule, hplace, toText, ofText, Text.cutAt?_append hbar rfl]
  simp only [hsource, targetOf_targetOf]
  split <;> rfl

/-- A rule that does not lack a destination is the rule of its own text. -/
theorem ForwardRule.ofText_toText {entry : Text}
    (h : (ofText entry).target ≠ Refusal.missing.message) :
    ofText (ofText entry).toText = ofText entry := by
  rw [ofText_toText_eq, if_neg (mt target_eq_missing_iff.mpr h)]

/-- The numbers of rules that have been read fit. -/
theorem ConditionalRule.bounded_of_mem_listOfText {value : Text} :
    ∀ r ∈ listOfText value, r.Bounded := by
  intro r hr
  unfold listOfText at hr
  repeat' split at hr
  · cases hr
  · obtain ⟨element, -, haccept⟩ := List.mem_filterMap.mp hr
    exact bounded_of_ofJson? (Option.filter_eq_some_iff.mp haccept).1
  · cases hr

/-- A number of seconds that has been read fits. -/
theorem secondsOf_lt (value : Text) : secondsOf value < UInt64.size := by
  unfold secondsOf
  cases hread : Text.natural? UInt64.size value with
  | none => decide
  | some n => exact Text.natural?_lt hread

/-- Entering a key leaves every key once. -/
theorem nodup_keys_insert {d : Data} (h : (d.map Prod.fst).Nodup) (key value : Text) :
    ((d.insert key value).map Prod.fst).Nodup := by
  rw [Association.keys_insert]
  split
  · exact h
  · next hnew =>
    refine List.nodup_append.mpr ⟨h, by simp, ?_⟩
    intro other hother last hlast heq
    rw [List.mem_singleton.mp hlast] at heq
    exact hnew (by simpa [heq] using hother)

namespace Snapshot

/-- The numbers of a snapshot fit where they are read, and no key of its free data is repeated. -/
structure Bounded (s : Snapshot) : Prop where
  seconds : s.banner.secondsToDisplay < UInt64.size
  conditional : ∀ r ∈ s.urlPaths.conditional, r.Bounded
  keys : (s.data.map Prod.fst).Nodup

/-- The numbers of a configuration that has been read fit, and no key of its free data is
repeated. -/
theorem bounded_ofText (t : Text) : (ofText t).Bounded := by
  refine ofText_induction t ⟨by decide, by simp [empty], by simp [empty]⟩ ?_ ?_
  · intro s x value hs
    cases x with
    | key k =>
      cases k with
      | secondsToDisplay => exact ⟨secondsOf_lt value, hs.conditional, hs.keys⟩
      | conditionalService =>
        exact ⟨hs.seconds, ConditionalRule.bounded_of_mem_listOfText, hs.keys⟩
      | _ => exact ⟨hs.seconds, hs.conditional, hs.keys⟩
    | directive d => cases d <;> exact ⟨hs.seconds, hs.conditional, hs.keys⟩
  · intro s key value hs
    exact ⟨hs.seconds, hs.conditional, nodup_keys_insert hs.keys key value⟩

/-! ## Snapshots -/

/-- A snapshot as it is published for a configuration text: it says what the text says, its free
data in any order, and has anything where only a store can know. -/
structure PublishedFor (s : Snapshot) (t : Text) : Prop where
  site : s.site = (ofText t).site
  tls : s.tls = (ofText t).tls
  admin : s.admin = (ofText t).admin
  allowedMethods : s.allowedMethods = (ofText t).allowedMethods
  urlPaths : s.urlPaths = (ofText t).urlPaths
  on : s.banner.on = (ofText t).banner.on
  seconds : s.banner.secondsToDisplay = (ofText t).banner.secondsToDisplay
  redirectToHttps : s.redirectToHttps = (ofText t).redirectToHttps
  maintenance : s.maintenance = (ofText t).maintenance
  data : s.data.Perm (ofText t).data
  ticks : s.banner.tickCount ≤ s.banner.secondsToDisplay
  refresh : s.refreshSeconds < UInt64.size

/-- A configuration that has just been read is published for its text. -/
theorem publishedFor_ofText (t : Text) : (ofText t).PublishedFor t where
  site := rfl
  tls := rfl
  admin := rfl
  allowedMethods := rfl
  urlPaths := rfl
  on := rfl
  seconds := rfl
  redirectToHttps := rfl
  maintenance := rfl
  data := .refl _
  ticks := by rw [(unsaid_ofText t).1]; exact Nat.zero_le _
  refresh := by rw [(unsaid_ofText t).2.1]; decide

/-- The numbers of a published configuration fit. -/
theorem PublishedFor.bounded {s : Snapshot} {t : Text} (h : s.PublishedFor t) : s.Bounded where
  seconds := h.seconds ▸ (bounded_ofText t).seconds
  conditional := h.urlPaths ▸ (bounded_ofText t).conditional
  keys := (h.data.map Prod.fst).nodup_iff.mpr (bounded_ofText t).keys

/-- A snapshot is read back with its forward rules looked at again. -/
theorem ofJson?_readBack_reread {s : Snapshot} (h : s.Bounded)
    (hticks : s.banner.tickCount < UInt64.size) (hrefresh : s.refreshSeconds < UInt64.size) :
    ofJson? s.toJson.readBack = some { s with urlPaths := s.urlPaths.reread } := by
  rw [ofJson?, toJson, fieldNames, fields?_record]
  · rw [Option.bind_eq_bind, Option.bind_some]
    -- The fields are read before they are put together, as each of them is a function of the ones
    -- before it.
    simp only [getD_fieldsOf_self, getD_fieldsOf_of_ne, ne_eq, String.reduceEq, not_false_eq_true,
      Json.text?_readBack_ofText, bool?_readBack_bool, texts?_readBack_textArray,
      Json.natural?_readBack_ofNat (Nat.le_refl _) hrefresh, Site.ofJson?_readBack,
      TlsFiles.ofJson?_readBack, Admin.ofJson?_readBack, allowedMethodsOfJson?_readBack,
      UrlPaths.ofJson?_readBack h.conditional,
      MessageBanner.ofJson?_readBack h.seconds hticks, Data.ofJson?_readBack h.keys]
    rfl
  · rfl
  · simp

/-- A snapshot is read back as it is if each forward rule is the rule of its text. -/
theorem ofJson?_readBack {s : Snapshot} (h : s.Bounded)
    (hforward : ∀ r ∈ s.urlPaths.forward, ForwardRule.ofText r.toText = r)
    (hticks : s.banner.tickCount < UInt64.size) (hrefresh : s.refreshSeconds < UInt64.size) :
    ofJson? s.toJson.readBack = some s := by
  rw [ofJson?_readBack_reread h hticks hrefresh, UrlPaths.reread_eq hforward]

/-- A snapshot is read back from its JSON text as it was, if no forward rule of its configuration
lacks a destination. -/
theorem reads_back {s : Snapshot} {t : Text} (h : s.PublishedFor t)
    (hforward : ∀ r ∈ s.urlPaths.forward, r.target ≠ Refusal.missing.message) :
    ofJsonText? s.toJsonText = some s := by
  have hrules : ∀ r ∈ s.urlPaths.forward, ForwardRule.ofText r.toText = r := by
    intro r hr
    have hmem : r ∈ (ofText t).urlPaths.forward := h.urlPaths ▸ hr
    obtain ⟨entry, rfl⟩ := forward_ofText t r hmem
    exact ForwardRule.ofText_toText (hforward _ hr)
  have hticks : s.banner.tickCount < UInt64.size := Nat.lt_of_le_of_lt h.ticks h.bounded.seconds
  rw [ofJsonText?, toJsonText, Json.parse?_write s.plain_toJson, Option.bind_some]
  exact ofJson?_readBack h.bounded hrules hticks h.refresh

/-- A configuration with text that has to be escaped, a rule that forwards and one that does not
apply, and a status below zero. -/
def mixedConfig : Text :=
  ["Site\n", "portno 65535\n", "URLPaths\n", "forward-paths /old|/new,/far|http://far\n",
    "conditional-http-service [\x7b\"rule-type\":\"header\",\"url-path\":\"/a\",",
    "\"serve-only-to-criteria\":[\"bot\"],\"http-status-code\":-1\x7d]\n",
    "Data\n", "quote \"\x01\\\"\n"].flatMap String.toList

/-- A configuration with something in every section is read back as it was. -/
theorem reads_back_mixedConfig :
    (∀ r ∈ (ofText mixedConfig).urlPaths.forward, r.target ≠ Refusal.missing.message) ∧
      ofJsonText? (ofText mixedConfig).toJsonText = some (ofText mixedConfig) := by
  have hforward : ∀ r ∈ (ofText mixedConfig).urlPaths.forward,
      r.target ≠ Refusal.missing.message := by decide +kernel
  exact ⟨hforward, reads_back (publishedFor_ofText mixedConfig) hforward⟩

end Snapshot

end Config

end SiteGate
