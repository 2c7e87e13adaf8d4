import SiteGate.Json.Reader
import SiteGate.Json.Writer
import SiteGate.Proofs.Net.Address
import SiteGate.Proofs.Text.Trim

/-!
# Values read back

What a plain value is written as is read as that value, except that a control character without a
letter of its own comes back as the number of its escape (`Json.readBack`). A plain value is one
whose strings are spelled by characters and whose numbers are whole (`Json.Plain`).

The text need not be read as it was written. It may first be rendered by a function that goes
through it and has its own way with backslashes only, as long as it is known how strings are read
after that (`Rendering`): the value is read back if all its strings are, and nothing is read
otherwise (`Rendering.outcome_write`). Leaving the text alone is one rendering
(`parse?_write`).

The induction is on the value, with items and members beside it. What carries it is that the reader
has no memory but its stack: after a value it is where `place` puts it.
-/

set_option autoImplicit false

namespace SiteGate

/-! ## Values that are plain -/

/-- The control characters that have a letter to be escaped with. -/
def letteredControls : Text := "\x08\t\n\x0c\r".toList

/-- What a character of a string is read as after it has been written. -/
def StringPiece.ofWritten (c : Char) : StringPiece :=
  if c.toNat < 0x20 ∧ c ∉ letteredControls then .unit c.toNat else .char c

/-- What a string with the given characters is read as after it has been written. -/
def StringToken.ofWritten (t : Text) : StringToken := t.map StringPiece.ofWritten

/-- The characters stay what they are. -/
theorem StringToken.text?_ofWritten (t : Text) : (ofWritten t).text? = some t := by
  induction t with
  | nil => rfl
  | cons c rest ih =>
    have hcons : ofWritten (c :: rest) = StringPiece.ofWritten c :: ofWritten rest := rfl
    by_cases hcontrol : c.toNat < 0x20 ∧ c ∉ letteredControls
    · -- A control character is no half of a surrogate pair, whatever follows it.
      have hc : StringPiece.ofWritten c = .unit c.toNat := if_pos hcontrol
      have hlow : ¬ (0xD800 ≤ c.toNat ∧ c.toNat ≤ 0xDBFF) := by omega
      have hhigh : ¬ (0xDC00 ≤ c.toNat ∧ c.toNat ≤ 0xDFFF) := by omega
      have hsurrogate : ¬ (0xD800 ≤ c.toNat ∧ c.toNat ≤ 0xDFFF) := by omega
      rw [hcons, hc]
      cases hrest : ofWritten rest with
      | nil =>
        rw [hrest] at ih
        simp only [text?, if_neg hsurrogate, Char.ofNat_toNat] at ih ⊢
        rw [← Option.some.inj ih]
        rfl
      | cons piece more =>
        rw [hrest] at ih
        cases piece with
        | char d =>
          simp only [text?, if_neg hsurrogate, Char.ofNat_toNat] at ih ⊢
          rw [ih, Option.map_some]
        | unit n =>
          rw [text?.eq_3, if_neg hlow, if_neg hhigh, ih, Option.map_some, Char.ofNat_toNat]
    · have hc : StringPiece.ofWritten c = .char c := if_neg hcontrol
      rw [hcons, hc]
      show (text? (ofWritten rest)).map (c :: ·) = some (c :: rest)
      rw [ih, Option.map_some]

namespace Json

/-- A whole number, as it is written. -/
def wholeNumber (negative : Bool) (n : Nat) : Number := ⟨negative, Text.ofNat n, [], none⟩

mutual

/-- The strings are spelled by characters and the numbers are whole. -/
def Plain : Json → Prop
  | .number n => ∃ negative v, n = wholeNumber negative v
  | .string s => ∃ t, s = .ofText t
  | .array items => PlainItems items
  | .object members => PlainMembers members
  | _ => True

/-- The same of all items. -/
def PlainItems : List Json → Prop
  | [] => True
  | j :: rest => j.Plain ∧ PlainItems rest

/-- The same of all members and their names. -/
def PlainMembers : List (StringToken × Json) → Prop
  | [] => True
  | (name, j) :: rest => (∃ t, name = .ofText t) ∧ j.Plain ∧ PlainMembers rest

end

mutual

/-- What a plain value is read as after it has been written. -/
def readBack : Json → Json
  | .string s => .string (.ofWritten (s.text?.getD []))
  | .array items => .array (readBackItems items)
  | .object members => .object (readBackMembers members)
  | j => j

/-- The same of all items. -/
def readBackItems : List Json → List Json
  | [] => []
  | j :: rest => readBack j :: readBackItems rest

/-- The same of all members and their names. -/
def readBackMembers : List (StringToken × Json) → List (StringToken × Json)
  | [] => []
  | (name, j) :: rest =>
    (.ofWritten (name.text?.getD []), readBack j) :: readBackMembers rest

end

mutual

/-- The texts of a value: those of its strings and of the names of its members. -/
def texts : Json → List Text
  | .string s => [s.text?.getD []]
  | .array items => textsOfItems items
  | .object members => textsOfMembers members
  | _ => []

/-- The texts of all items. -/
def textsOfItems : List Json → List Text
  | [] => []
  | j :: rest => texts j ++ textsOfItems rest

/-- The texts of all members. -/
def textsOfMembers : List (StringToken × Json) → List Text
  | [] => []
  | (name, j) :: rest => name.text?.getD [] :: texts j ++ textsOfMembers rest

end

/-! ## What the reader comes to -/

namespace Reader

/-- The value that is read when a text comes to its end. -/
def outcome (r : Reader) (t : Text) : Option Json := (t.foldlM step r).bind finish

variable {r r' : Reader} {stack : List Frame}

/-- A character that can be read is read first. -/
theorem outcome_cons {c : Char} (h : step r c = some r') (t : Text) :
    outcome r (c :: t) = outcome r' t := by
  rw [outcome, List.foldlM_cons, h]
  rfl

/-- Nothing comes of a text whose first character cannot be read. -/
theorem outcome_cons_none {c : Char} (h : step r c = none) (t : Text) :
    outcome r (c :: t) = none := by
  rw [outcome, List.foldlM_cons, h]
  rfl

/-- A reader within a string, in the states of the string, and where it is after the string. -/
structure Inside (inside : StringState → Reader) (after : StringToken → Reader) : Prop where
  step : ∀ s c, Reader.step (inside s) c = (stringStep s c).map (Sum.elim inside after)

/-- A string that is a value is read in the states of a string. -/
theorem inside_string (stack : List Frame) :
    Inside (fun s => ⟨stack, .string s⟩) (fun token => place stack (.string token)) where
  step s c := by
    show (stringStep s c).map _ = _
    congr 1
    funext next
    cases next <;> rfl

/-- A string that is a name is read in the states of a string. -/
theorem inside_nameString (stack : List Frame) (members : List (StringToken × Json)) :
    Inside (fun s => ⟨stack, .nameString members s⟩)
      (fun token => ⟨stack, .colon members token⟩) where
  step s c := by
    show (stringStep s c).map _ = _
    congr 1
    funext next
    cases next <;> rfl

section Strings

variable {inside : StringState → Reader} {after : StringToken → Reader}

/-- The end of a string. -/
theorem Inside.outcome_quote (h : Inside inside after) (pieces : StringToken) (rest : Text) :
    outcome (inside (.plain pieces)) ('"' :: rest) = outcome (after pieces.reverse) rest :=
  outcome_cons (h.step _ _) rest

/-- A digit of base sixteen is read as its value. -/
theorem hexValue?_hexDigit {d : Nat} (hd : d < 16) : hexValue? (hexDigit d) = some d := by
  revert d
  decide

/-- The next digit of an escape by number. -/
theorem Inside.outcome_hexDigit (h : Inside inside after) (pieces : StringToken)
    {count value d : Nat} (hd : d < 16) (rest : Text) :
    outcome (inside (.hex pieces count value)) (hexDigit d :: rest) =
      outcome (inside (if count = 3 then .plain (.unit (value * 16 + d) :: pieces)
        else .hex pieces (count + 1) (value * 16 + d))) rest := by
  refine outcome_cons ?_ rest
  rw [h.step, stringStep, hexValue?_hexDigit hd]
  rfl

/-- An escape by number. -/
theorem Inside.outcome_unitEscape (h : Inside inside after) (pieces : StringToken) {n : Nat}
    (hn : n < 65536) (rest : Text) :
    outcome (inside (.plain pieces)) (unitEscape n ++ rest) =
      outcome (inside (.plain (.unit n :: pieces))) rest := by
  have hvalue :
      (((0 * 16 + n / 4096) * 16 + n / 256 % 16) * 16 + n / 16 % 16) * 16 + n % 16 = n := by
    omega
  have hbegin : ∀ t, outcome (inside (.plain pieces)) ('\\' :: 'u' :: t) =
      outcome (inside (.hex pieces 0 0)) t := fun t =>
    (outcome_cons (h.step (.plain pieces) _) _).trans (outcome_cons (h.step (.escape pieces) _) _)
  rw [unitEscape, List.cons_append, List.cons_append, hbegin]
  simp only [List.cons_append, List.nil_append]
  rw [h.outcome_hexDigit pieces (by omega), if_neg (by decide),
    h.outcome_hexDigit pieces (by omega), if_neg (by decide),
    h.outcome_hexDigit pieces (by omega), if_neg (by decide),
    h.outcome_hexDigit pieces (by omega), if_pos rfl, hvalue]

/-- An escape by a letter. -/
theorem Inside.outcome_escaped (h : Inside inside after) (pieces : StringToken) {letter c : Char}
    (hletter : letter ≠ 'u') (hc : escaped? letter = some c) (rest : Text) :
    outcome (inside (.plain pieces)) ('\\' :: letter :: rest) =
      outcome (inside (.plain (.char c :: pieces))) rest := by
  rw [outcome_cons (h.step (.plain pieces) _)]
  refine outcome_cons ((h.step (.escape pieces) letter).trans ?_) rest
  simp [stringStep, hletter, hc]

/-- How a character is written: as an escape by a letter, as one by number, or as it is. -/
theorem writeChar_cases (c : Char) :
    (∃ letter, letter ≠ 'u' ∧ escaped? letter = some c ∧ writeChar c = ['\\', letter] ∧
      StringPiece.ofWritten c = .char c) ∨
    (c.toNat < 0x20 ∧ writeChar c = unitEscape c.toNat ∧
      StringPiece.ofWritten c = .unit c.toNat) ∨
    (c ≠ '"' ∧ c ≠ '\\' ∧ ¬ c.toNat < 0x20 ∧ writeChar c = [c] ∧
      StringPiece.ofWritten c = .char c) := by
  have hletters : ∀ d ∈ '"' :: '\\' :: letteredControls, ∃ letter ∈ "\"\\btnfr".toList,
      letter ≠ 'u' ∧ escaped? letter = some d ∧ writeChar d = ['\\', letter] ∧
        StringPiece.ofWritten d = .char d := by decide
  by_cases hescaped : c ∈ '"' :: '\\' :: letteredControls
  · obtain ⟨letter, -, hletter⟩ := hletters c hescaped
    exact .inl ⟨letter, hletter⟩
  · obtain ⟨hquote, hescape, hcontrols⟩ : c ≠ '"' ∧ c ≠ '\\' ∧ c ∉ letteredControls := by
      simpa using hescaped
    have hwrite : writeChar c = if c.toNat < 0x20 then unitEscape c.toNat else [c] := by
      obtain ⟨h₁, h₂, h₃, h₄, h₅⟩ :
          c ≠ '\x08' ∧ c ≠ '\t' ∧ c ≠ '\n' ∧ c ≠ '\x0c' ∧ c ≠ '\r' := by
        simpa [letteredControls] using hcontrols
      simp [writeChar, hquote, hescape, h₁, h₂, h₃, h₄, h₅]
    by_cases hcontrol : c.toNat < 0x20
    · refine .inr (.inl ⟨hcontrol, ?_, if_pos ⟨hcontrol, hcontrols⟩⟩)
      rw [hwrite, if_pos hcontrol]
    · refine .inr (.inr ⟨hquote, hescape, hcontrol, ?_, if_neg fun h => hcontrol h.1⟩)
      rw [hwrite, if_neg hcontrol]

/-- A character of a string. -/
theorem Inside.outcome_writeChar (h : Inside inside after) (pieces : StringToken) (c : Char)
    (rest : Text) :
    outcome (inside (.plain pieces)) (writeChar c ++ rest) =
      outcome (inside (.plain (.ofWritten c :: pieces))) rest := by
  obtain ⟨letter, hletter, hc, hwrite, hpiece⟩ | ⟨hcontrol, hwrite, hpiece⟩ |
    ⟨hquote, hescape, hcontrol, hwrite, hpiece⟩ := writeChar_cases c
  · rw [hwrite, hpiece]
    exact h.outcome_escaped pieces hletter hc rest
  · rw [hwrite, hpiece]
    exact h.outcome_unitEscape pieces (by omega) rest
  · rw [hwrite, hpiece]
    refine outcome_cons ?_ rest
    rw [h.step]
    simp [stringStep, hquote, hescape, hcontrol]

end Strings

/-! ## Numbers -/

/-- What may come after a value within another one. -/
def followers : List Char := [',', ']', '\x7d']

/-- A character behind a value that has been placed ends it, or stands behind it. -/
theorem step_place (stack : List Frame) (j : Json) (c : Char) :
    step (place stack j) c = afterStep (place stack j) c := by
  cases stack with
  | nil => rfl
  | cons frame rest => cases frame <;> rfl

/-- A number ends where another character comes, or the text ends. -/
theorem outcome_endNumber (stack : List Frame) (n : Number) {phase : NumberPhase}
    (hphase : phase = .zero ∨ phase = .whole) {rest : Text}
    (hrest : Net.StartsIn followers rest) :
    outcome ⟨stack, .number n phase⟩ rest = outcome (place stack (.number n)) rest := by
  have hend : numberMayEnd phase = true := by rcases hphase with rfl | rfl <;> rfl
  cases rest with
  | nil =>
    show finish _ = finish _
    cases stack with
    | nil => simp [finish, place, hend]
    | cons frame rest => cases frame <;> cases rest <;> rfl
  | cons c t =>
    have hc : c = ',' ∨ c = ']' ∨ c = '\x7d' := by simpa [followers] using hrest c rfl
    have hnumber : numberStep n phase c = none := by
      rcases hphase with rfl | rfl <;> rcases hc with rfl | rfl | rfl <;> rfl
    have hstep : step ⟨stack, .number n phase⟩ c = step (place stack (.number n)) c := by
      rw [step_place]
      simp [step, hnumber, hend]
    rw [outcome, outcome, List.foldlM_cons, List.foldlM_cons, hstep]

/-- The digits of a number after the first one. -/
theorem outcome_digits (stack : List Frame) (n : Number) {ds : Text}
    (hds : ∀ c ∈ ds, isDigit c = true) (rest : Text) :
    outcome ⟨stack, .number n .whole⟩ (ds ++ rest) =
      outcome ⟨stack, .number { n with whole := n.whole ++ ds } .whole⟩ rest := by
  induction ds generalizing n with
  | nil => simp
  | cons c more ih =>
    have hc : step ⟨stack, .number n .whole⟩ c =
        some ⟨stack, .number { n with whole := n.whole ++ [c] } .whole⟩ := by
      simp [step, numberStep, hds c (by simp)]
    rw [List.cons_append, outcome_cons hc, ih _ fun d hd => hds d (by simp [hd])]
    simp

/-- A whole number after what stands before its digits. -/
theorem outcome_ofNat {negative : Bool}
    (hfirst : ∀ d < 10, step r (Nat.digitChar d) = some ⟨stack,
      .number ⟨negative, [Nat.digitChar d], [], none⟩ (if d = 0 then .zero else .whole)⟩)
    (n : Nat) {rest : Text} (hrest : Net.StartsIn followers rest) :
    outcome r (Text.ofNat n ++ rest) =
      outcome (place stack (.number (wholeNumber negative n))) rest := by
  obtain ⟨ds, hds⟩ := Net.exists_digits (by decide : 1 < 10) n
  have htext : Text.ofNat n = ds.map Nat.digitChar := hds.text
  have hdigit : ∀ d < 10, isDigit (Nat.digitChar d) = true := by decide
  have hsmall := hds.small
  have hhead := hds.head
  cases ds with
  | nil => exact absurd rfl hds.ne_nil
  | cons d more =>
    rw [wholeNumber, htext, List.map_cons, List.cons_append,
      outcome_cons (hfirst d (hsmall d (by simp)))]
    by_cases hd : d = 0
    · have hmore : more = [] := by simpa [hd] using hhead
      rw [hmore, if_pos hd]
      exact outcome_endNumber stack _ (.inl rfl) hrest
    · rw [if_neg hd, outcome_digits stack _ ?_, outcome_endNumber stack _ (.inr rfl) hrest]
      · rfl
      · intro c hc
        obtain ⟨d', hd', rfl⟩ := List.mem_map.mp hc
        exact hdigit d' (hsmall d' (by simp [hd']))

/-- A whole number is read as itself up to what may follow it. -/
theorem outcome_writeNumber (stack : List Frame) (closable negative : Bool) (n : Nat)
    {rest : Text} (hrest : Net.StartsIn followers rest) :
    outcome ⟨stack, .value closable⟩ (writeNumber (wholeNumber negative n) ++ rest) =
      outcome (place stack (.number (wholeNumber negative n))) rest := by
  cases negative with
  | false =>
    have hwrite : writeNumber (wholeNumber false n) = Text.ofNat n := by
      simp [writeNumber, wholeNumber]
    rw [hwrite]
    refine outcome_ofNat ?_ n hrest
    intro d hd
    interval_cases d <;> rfl
  | true =>
    have hsign : step ⟨stack, .value closable⟩ '-' =
        some ⟨stack, .number ⟨true, [], [], none⟩ .sign⟩ := rfl
    have hwrite : writeNumber (wholeNumber true n) = '-' :: Text.ofNat n := by
      simp [writeNumber, wholeNumber]
    rw [hwrite, List.cons_append, outcome_cons hsign]
    refine outcome_ofNat ?_ n hrest
    intro d hd
    interval_cases d <;> rfl

/-! ## Values -/

/-- A whole number is written without a backslash. -/
theorem not_mem_writeNumber (negative : Bool) (n : Nat) :
    '\\' ∉ writeNumber (wholeNumber negative n) := by
  have htext : '\\' ∉ Text.ofNat n := Text.not_mem_ofNat (by decide) n
  cases negative <;> simpa [writeNumber, wholeNumber] using htext

/-- Behind an item there is what may follow a value. -/
theorem startsIn_writeItems (items : List Json) (rest : Text) :
    Net.StartsIn followers (writeItems items ++ rest) := by
  cases items with
  | nil => exact .cons (by decide) _
  | cons j more => exact .cons (by decide) _

/-- Behind a member there is what may follow a value. -/
theorem startsIn_writeMembers (members : List (StringToken × Json)) (rest : Text) :
    Net.StartsIn followers (writeMembers members ++ rest) := by
  cases members with
  | nil => exact .cons (by decide) _
  | cons m more => exact .cons (by decide) _

/-- A colon behind a name begins its value. -/
theorem outcome_colon (stack : List Frame) (members : List (StringToken × Json))
    (name : StringToken) :
    step ⟨stack, .colon members name⟩ ':' = some ⟨.object members name :: stack, .value false⟩ :=
  rfl

/-- Two conditions without which there is nothing. -/
theorem ite_and_none {α : Type} (a b : Bool) (x : Option α) :
    (if a then (if b then x else none) else none) = if a && b then x else none := by
  cases a <;> rfl

/-- A function that a text goes through before it is read. It has its own way with backslashes only,
and it is known which strings are read as they were; nothing is read if there is another one. -/
structure Rendering where
  render : Text → Text
  keeps : Text → Bool
  nil : render [] = []
  cons : ∀ {c : Char}, c ≠ '\\' → ∀ t, render (c :: t) = c :: render t
  string : ∀ {inside : StringState → Reader} {after : StringToken → Reader}, Inside inside after →
    ∀ (pieces : StringToken) (t rest : Text),
      outcome (inside (.plain pieces)) (render (t.flatMap writeChar ++ '"' :: rest)) =
        if keeps t then outcome (after (pieces.reverse ++ .ofWritten t)) (render rest) else none

namespace Rendering

variable (R : Rendering)

/-- A rendering leaves a text without a backslash. -/
theorem append {w : Text} (hw : '\\' ∉ w) (t : Text) : R.render (w ++ t) = w ++ R.render t := by
  induction w with
  | nil => rfl
  | cons c rest ih =>
    obtain ⟨hc, hrest⟩ : '\\' ≠ c ∧ '\\' ∉ rest := by simpa using hw
    rw [List.cons_append, R.cons (Ne.symm hc), ih hrest]
    rfl

/-- A rendering leaves what may follow a value. -/
theorem startsIn {rest : Text} (h : Net.StartsIn followers rest) :
    Net.StartsIn followers (R.render rest) := by
  cases rest with
  | nil => rw [R.nil]; exact .nil _
  | cons c t =>
    have hc : c ∈ followers := h c rfl
    have hslash : c ≠ '\\' := by
      rintro rfl
      exact absurd hc (by decide)
    rw [R.cons hslash]
    exact .cons hc _

/-- A string that is a value or names a member. -/
theorem outcome_writeString {begin : Reader} {inside : StringState → Reader}
    {after : StringToken → Reader} (h : Inside inside after)
    (hbegin : step begin '"' = some (inside (.plain []))) (t rest : Text) :
    outcome begin (R.render (writeString (.ofText t) ++ rest)) =
      if R.keeps t then outcome (after (.ofWritten t)) (R.render rest) else none := by
  have hwrite : writeString (.ofText t) ++ rest = '"' :: (t.flatMap writeChar ++ '"' :: rest) := by
    simp [writeString, StringToken.ofText, List.flatMap_map, writePiece]
  rw [hwrite, R.cons (by decide), outcome_cons hbegin, R.string h]
  rfl

mutual

/-- A value is read back, and then what comes after it, if all its strings are kept. -/
theorem outcome_write : ∀ (j : Json), j.Plain → ∀ (stack : List Frame) (closable : Bool)
    {rest : Text}, Net.StartsIn followers rest →
    outcome ⟨stack, .value closable⟩ (R.render (j.write ++ rest)) =
      if j.texts.all R.keeps then outcome (place stack j.readBack) (R.render rest) else none
  | .null, _, stack, closable, rest, _ => by
    rw [Json.write, R.append (by decide)]
    rfl
  | .bool true, _, stack, closable, rest, _ => by
    rw [Json.write, R.append (by decide)]
    rfl
  | .bool false, _, stack, closable, rest, _ => by
    rw [Json.write, R.append (by decide)]
    rfl
  | .number n, hplain, stack, closable, rest, hrest => by
    obtain ⟨negative, v, rfl⟩ := hplain
    rw [Json.write, R.append (not_mem_writeNumber negative v),
      outcome_writeNumber stack closable negative v (R.startsIn hrest)]
    rfl
  | .string s, hplain, stack, closable, rest, _ => by
    obtain ⟨t, rfl⟩ := hplain
    rw [Json.write, R.outcome_writeString (inside_string stack) rfl, readBack, texts,
      StringToken.text?_ofText]
    simp
  | .array [], _, stack, closable, rest, _ => by
    rw [Json.write, R.append (by decide)]
    rfl
  | .array (j :: more), hplain, stack, closable, rest, hrest => by
    obtain ⟨hj, hmore⟩ := hplain
    have hopen : step ⟨stack, .value closable⟩ '[' = some ⟨.array [] :: stack, .value true⟩ := rfl
    rw [Json.write, List.append_assoc, List.cons_append, R.cons (by decide), outcome_cons hopen,
      outcome_write j hj _ _ (startsIn_writeItems more rest), place,
      outcome_writeItems more hmore stack _ hrest, texts, textsOfItems, List.all_append,
      ite_and_none]
    rfl
  | .object [], _, stack, closable, rest, _ => by
    rw [Json.write, R.append (by decide)]
    rfl
  | .object ((name, j) :: more), hplain, stack, closable, rest, hrest => by
    obtain ⟨⟨t, rfl⟩, hj, hmore⟩ := hplain
    have hopen : step ⟨stack, .value closable⟩ '\x7b' = some ⟨stack, .name [] true⟩ := rfl
    have hwrite : (Json.object ((.ofText t, j) :: more)).write ++ rest =
        '\x7b' :: (writeString (.ofText t) ++ ':' :: (j.write ++ (writeMembers more ++ rest))) := by
      simp [Json.write]
    rw [hwrite, R.cons (by decide), outcome_cons hopen,
      R.outcome_writeString (inside_nameString stack []) rfl, R.cons (by decide),
      outcome_cons (outcome_colon stack [] _),
      outcome_write j hj _ _ (startsIn_writeMembers more rest), place,
      outcome_writeMembers more hmore stack _ hrest, ite_and_none, ite_and_none, texts,
      textsOfMembers, StringToken.text?_ofText]
    simp [readBack, readBackMembers, Bool.and_assoc, StringToken.text?_ofText]

/-- The items after the first one are read back, and the array is complete. -/
theorem outcome_writeItems : ∀ (items : List Json), PlainItems items → ∀ (stack : List Frame)
    (done : List Json) {rest : Text}, Net.StartsIn followers rest →
    outcome ⟨stack, .item done⟩ (R.render (writeItems items ++ rest)) =
      if (textsOfItems items).all R.keeps then
        outcome (place stack (.array (done.reverse ++ readBackItems items))) (R.render rest)
      else none
  | [], _, stack, done, rest, _ => by
    rw [writeItems, R.append (by decide), readBackItems, List.append_nil]
    rfl
  | j :: more, hplain, stack, done, rest, hrest => by
    obtain ⟨hj, hmore⟩ := hplain
    have hcomma : step ⟨stack, .item done⟩ ',' = some ⟨.array done :: stack, .value false⟩ := rfl
    rw [writeItems, List.append_assoc, List.cons_append, R.cons (by decide), outcome_cons hcomma,
      outcome_write j hj _ _ (startsIn_writeItems more rest), place,
      outcome_writeItems more hmore stack _ hrest, textsOfItems, List.all_append, ite_and_none]
    simp [readBackItems]

/-- The members after the first one are read back, and the object is complete. -/
theorem outcome_writeMembers : ∀ (members : List (StringToken × Json)), PlainMembers members →
    ∀ (stack : List Frame) (done : List (StringToken × Json)) {rest : Text},
    Net.StartsIn followers rest →
    outcome ⟨stack, .member done⟩ (R.render (writeMembers members ++ rest)) =
      if (textsOfMembers members).all R.keeps then
        outcome (place stack (.object (done.reverse ++ readBackMembers members))) (R.render rest)
      else none
  | [], _, stack, done, rest, _ => by
    rw [writeMembers, R.append (by decide), readBackMembers, List.append_nil]
    rfl
  | (name, j) :: more, hplain, stack, done, rest, hrest => by
    obtain ⟨⟨t, rfl⟩, hj, hmore⟩ := hplain
    have hcomma : step ⟨stack, .member done⟩ ',' = some ⟨stack, .name done false⟩ := rfl
    have hwrite : writeMembers ((.ofText t, j) :: more) ++ rest =
        ',' :: (writeString (.ofText t) ++ ':' :: (j.write ++ (writeMembers more ++ rest))) := by
      simp [writeMembers]
    rw [hwrite, R.cons (by decide), outcome_cons hcomma,
      R.outcome_writeString (inside_nameString stack done) rfl, R.cons (by decide),
      outcome_cons (outcome_colon stack done _),
      outcome_write j hj _ _ (startsIn_writeMembers more rest), place,
      outcome_writeMembers more hmore stack _ hrest, ite_and_none, ite_and_none,
      textsOfMembers, StringToken.text?_ofText]
    simp [readBackMembers, Bool.and_assoc, StringToken.text?_ofText]

end

/-- A plain value is read back from its rendered text if all its strings are kept, and otherwise
nothing is. -/
theorem parse?_render_write {j : Json} (h : j.Plain) :
    parse? (R.render j.write) = if j.texts.all R.keeps then some j.readBack else none := by
  have hwrite := R.outcome_write j h [] false (.nil followers)
  rw [List.append_nil, R.nil] at hwrite
  exact hwrite

end Rendering

/-- The text as it is written. -/
def asWritten : Rendering where
  render t := t
  keeps _ := true
  nil := rfl
  cons _ _ := rfl
  string h pieces t rest := by
    induction t generalizing pieces with
    | nil => simp [h.outcome_quote, StringToken.ofWritten]
    | cons c more ih =>
      rw [List.flatMap_cons, List.append_assoc, h.outcome_writeChar, ih]
      simp [StringToken.ofWritten]

end Reader

/-- A plain value is read back from its text. -/
theorem parse?_write {j : Json} (h : j.Plain) : parse? j.write = some j.readBack := by
  have hkeeps : j.texts.all Reader.asWritten.keeps = true := List.all_eq_true.mpr fun _ _ => rfl
  have hparse := Reader.asWritten.parse?_render_write h
  rwa [if_pos hkeeps] at hparse

end Json

end SiteGate
