import Mathlib.Data.List.Infix
import SiteGate.Json.Comments

/-!
# What is left without comments

A text with comments is made of pieces: strings in their quotation marks, comments to the end of a
line, blocks, and other characters (`Piece`). The end of the text may cut off one more piece that
has begun (`Ending`). Every text is made so (`Commented.exists_text`).

What is left of a piece is said of each kind (`Piece.kept`): strings and other characters stay as
they are, a comment to the end of a line leaves the line feed, and a block leaves nothing. One lemma
for each kind says that the pieces are read apart, whatever comes after them
(`stripComments_piece`), so what is left of a text is what is left of its pieces, and a text whose
strings alone hold marks of comments stays as it is (`stripComments_by_pieces`).
-/

set_option autoImplicit false

namespace SiteGate.Json

/-! ## Pieces -/

/-- A part of a string: a character that stands for itself, or a backslash with the character that
it escapes. -/
inductive LiteralPart where
  | char (c : Char) (plain : c ≠ '"' ∧ c ≠ '\\')
  | escape (c : Char)

/-- The part as it is written. -/
def LiteralPart.text : LiteralPart → Text
  | .char c _ => [c]
  | .escape c => ['\\', c]

/-- The characters that end a block. -/
def blockEnd : Text := ['*', '/']

/-- A piece of a text with comments. A comment to the end of a line takes the line feed with it, and
a block ends where its end occurs first. -/
inductive Piece where
  | literal (parts : List LiteralPart)
  | lineComment (body : Text) (inLine : '\n' ∉ body)
  | block (body : Text) (unended : ¬ blockEnd <:+: body ++ ['*'])
  | other (c : Char) (outside : c ≠ '"' ∧ c ≠ '#')

namespace Piece

/-- The piece as it is written. -/
def text : Piece → Text
  | .literal parts => '"' :: parts.flatMap LiteralPart.text ++ ['"']
  | .lineComment body _ => '#' :: body ++ ['\n']
  | .block body _ => '/' :: '*' :: body ++ blockEnd
  | .other c _ => [c]

/-- What is left of the piece. -/
def kept : Piece → Text
  | .literal parts => '"' :: parts.flatMap LiteralPart.text ++ ['"']
  | .lineComment _ _ => ['\n']
  | .block _ _ => []
  | .other c _ => [c]

/-- Whether the piece is a comment. -/
def isComment : Piece → Bool
  | .literal _ | .other _ _ => false
  | .lineComment _ _ | .block _ _ => true

/-- A piece that is no comment is kept. -/
theorem kept_of_not_comment {p : Piece} (h : p.isComment = false) : p.kept = p.text := by
  cases p with
  | literal parts => rfl
  | lineComment body inLine => cases h
  | block body unended => cases h
  | other c outside => rfl

/-- A piece has some text. -/
theorem text_ne_nil (p : Piece) : p.text ≠ [] := by
  cases p <;> simp [text]

end Piece

/-- What the end of a text cuts off: nothing, or a string, where perhaps the last character is a
backslash, a comment to the end of its line, or a block. -/
inductive Ending where
  | complete
  | literal (parts : List LiteralPart) (escaping : Bool)
  | lineComment (body : Text) (inLine : '\n' ∉ body)
  | block (body : Text) (unended : ¬ blockEnd <:+: body)

namespace Ending

/-- What has been cut off as it is written. -/
def text : Ending → Text
  | .complete => []
  | .literal parts escaping =>
    '"' :: parts.flatMap LiteralPart.text ++ if escaping then ['\\'] else []
  | .lineComment body _ => '#' :: body
  | .block body _ => '/' :: '*' :: body

/-- What is left of it. -/
def kept : Ending → Text
  | .complete => []
  | .literal parts escaping =>
    '"' :: parts.flatMap LiteralPart.text ++ if escaping then ['\\'] else []
  | .lineComment _ _ => []
  | .block _ _ => []

/-- Whether a comment has been cut off. -/
def isComment : Ending → Bool
  | .complete | .literal _ _ => false
  | .lineComment _ _ | .block _ _ => true

/-- An ending that is no comment is kept. -/
theorem kept_of_not_comment {e : Ending} (h : e.isComment = false) : e.kept = e.text := by
  cases e with
  | complete => rfl
  | literal parts escaping => rfl
  | lineComment body inLine => cases h
  | block body unended => cases h

end Ending

/-- The text of pieces that stand one after another, and of an ending. -/
def spell (pieces : List Piece) (ending : Ending) : Text :=
  pieces.flatMap Piece.text ++ ending.text

/-- A slash that is a piece of its own has no asterisk after it. -/
def Apart : List Piece → Ending → Prop
  | [], _ => True
  | p :: rest, ending =>
    (p.text = ['/'] → (spell rest ending).head? ≠ some '*') ∧ Apart rest ending

/-- A text with comments, in pieces. -/
structure Commented where
  pieces : List Piece
  ending : Ending
  apart : Apart pieces ending

namespace Commented

/-- The text. -/
def text (made : Commented) : Text := spell made.pieces made.ending

/-- What is left of the text without its comments. -/
def kept (made : Commented) : Text := made.pieces.flatMap Piece.kept ++ made.ending.kept

/-- No piece is a comment, and none is cut off. -/
def Uncommented (made : Commented) : Prop :=
  (∀ p ∈ made.pieces, p.isComment = false) ∧ made.ending.isComment = false

/-- A text without comments is kept. -/
theorem kept_of_uncommented {made : Commented} (h : made.Uncommented) : made.kept = made.text := by
  have hpieces : made.pieces.map Piece.kept = made.pieces.map Piece.text :=
    List.map_congr_left fun p hp => Piece.kept_of_not_comment (h.1 p hp)
  rw [kept, text, spell, List.flatMap_def, hpieces, ← List.flatMap_def,
    Ending.kept_of_not_comment h.2]

end Commented

/-! ## Reading the pieces -/

/-- Within a string, its parts are passed on. -/
theorem stripFrom_parts (parts : List LiteralPart) (rest : Text) :
    stripFrom (.string false) (parts.flatMap LiteralPart.text ++ rest) =
      parts.flatMap LiteralPart.text ++ stripFrom (.string false) rest := by
  induction parts with
  | nil => rfl
  | cons part more ih =>
    rw [List.flatMap_cons, List.append_assoc, List.append_assoc, ← ih]
    cases part with
    | char c plain => simp [LiteralPart.text, stripFrom, plain.1, plain.2]
    | escape c => simp [LiteralPart.text, stripFrom]

/-- Within a comment to the end of a line, what stands before the line feed is dropped. -/
theorem stripFrom_toLineEnd {body : Text} (h : '\n' ∉ body) (rest : Text) :
    stripFrom .toLineEnd (body ++ rest) = stripFrom .toLineEnd rest := by
  induction body with
  | nil => rfl
  | cons c more ih =>
    obtain ⟨hc, hmore⟩ : '\n' ≠ c ∧ '\n' ∉ more := by simpa using h
    rw [List.cons_append, stripFrom, if_neg (Ne.symm hc), ih hmore]

/-- What counts as read of a block: the last character if it may begin the block's end. -/
def starred (star : Bool) (t : Text) : Text := if star then '*' :: t else t

/-- Within a block, what holds no end of the block is dropped, and it is known whether the last
character may begin the end. -/
theorem stripFrom_block (star : Bool) {body : Text} (h : ¬ blockEnd <:+: starred star body)
    (rest : Text) :
    stripFrom (.block star) (body ++ rest) =
      stripFrom (.block ((starred star body).getLast? = some '*')) rest := by
  induction body generalizing star with
  | nil => cases star <;> rfl
  | cons c more ih =>
    have hend : ¬ (star && c = '/') = true := by
      intro hend
      obtain ⟨rfl, rfl⟩ : star = true ∧ c = '/' := by simpa using hend
      exact h ⟨[], more, rfl⟩
    have hsuffix : starred (c = '*') more <:+ starred star (c :: more) := by
      have hmore : starred (c = '*') more <:+ c :: more := by
        by_cases hc : c = '*'
        · simp [starred, hc]
        · simp [starred, hc]
      refine hmore.trans ?_
      cases star with
      | false => exact List.suffix_rfl
      | true => exact List.suffix_cons _ _
    have hlast : (starred (c = '*') more).getLast? = some '*' ↔
        (starred star (c :: more)).getLast? = some '*' := by
      by_cases hc : c = '*' <;> cases more <;> cases star <;> simp [starred, hc]
    rw [List.cons_append, stripFrom, if_neg hend,
      ih _ fun hwithin => h (List.IsInfix.trans hwithin hsuffix.isInfix)]
    simp only [hlast]

/-- A piece is read as what is left of it, whatever comes after it, if only no asterisk comes after
a slash. -/
theorem stripComments_piece (p : Piece) {rest : Text}
    (h : p.text = ['/'] → rest.head? ≠ some '*') :
    stripComments (p.text ++ rest) = p.kept ++ stripComments rest := by
  unfold stripComments
  cases p with
  | literal parts => simp [Piece.text, Piece.kept, stripFrom, stripFrom_parts]
  | lineComment body inLine =>
    simp [Piece.text, Piece.kept, stripFrom, stripFrom_toLineEnd inLine]
  | block body unended =>
    have hbegin : (Piece.block body unended).text ++ rest =
        '/' :: '*' :: (body ++ ['*'] ++ '/' :: rest) := by
      simp [Piece.text, blockEnd]
    have hstar : (starred false (body ++ ['*'])).getLast? = some '*' := by simp [starred]
    have hread : stripFrom (.block false) (body ++ ['*'] ++ '/' :: rest) = stripFrom .plain rest := by
      rw [stripFrom_block false unended]
      simp [hstar, stripFrom]
    rw [hbegin]
    simpa [Piece.kept, stripFrom] using hread
  | other c outside =>
    have hblock : c = '/' → ¬ rest.head? = some '*' := by
      rintro rfl
      exact h rfl
    have hplain : ¬ (c = '/' && decide (rest.head? = some '*')) = true := by simpa using hblock
    rw [Piece.text, List.singleton_append, stripFrom, if_neg outside.1, if_neg outside.2,
      if_neg hplain]
    rfl

/-- What has been cut off is read as what is left of it. -/
theorem stripComments_ending (e : Ending) : stripComments e.text = e.kept := by
  unfold stripComments
  cases e with
  | complete => rfl
  | literal parts escaping =>
    have hread := stripFrom_parts parts (if escaping then ['\\'] else [])
    cases escaping <;> simpa [Ending.text, Ending.kept, stripFrom] using hread
  | lineComment body inLine =>
    have hread := stripFrom_toLineEnd inLine []
    simpa [Ending.text, Ending.kept, stripFrom] using hread
  | block body unended =>
    have hread := stripFrom_block false unended []
    simpa [Ending.text, Ending.kept, stripFrom] using hread

/-- A text is read as what is left of its pieces. -/
theorem stripComments_spell {pieces : List Piece} {ending : Ending} (h : Apart pieces ending) :
    stripComments (spell pieces ending) = pieces.flatMap Piece.kept ++ ending.kept := by
  induction pieces with
  | nil => exact stripComments_ending ending
  | cons p rest ih =>
    obtain ⟨hp, hrest⟩ := h
    have hcons : spell (p :: rest) ending = p.text ++ spell rest ending := by simp [spell]
    rw [hcons, stripComments_piece p hp, ih hrest, List.flatMap_cons, List.append_assoc]

/-! ## Finding the pieces -/

/-- After a quotation mark there are parts of a string, and then its other quotation mark or the end
of the text. -/
theorem exists_parts : ∀ t : Text,
    (∃ (parts : List LiteralPart) (rest : Text),
        t = parts.flatMap LiteralPart.text ++ '"' :: rest) ∨
      ∃ (parts : List LiteralPart) (escaping : Bool),
        t = parts.flatMap LiteralPart.text ++ if escaping then ['\\'] else []
  | [] => .inr ⟨[], false, rfl⟩
  | [c] => by
    by_cases hquote : c = '"'
    · exact .inl ⟨[], [], by simp [hquote]⟩
    by_cases hescape : c = '\\'
    · exact .inr ⟨[], true, by simp [hescape]⟩
    · exact .inr ⟨[.char c ⟨hquote, hescape⟩], false, by simp [LiteralPart.text]⟩
  | c :: d :: rest => by
    by_cases hquote : c = '"'
    · exact .inl ⟨[], d :: rest, by simp [hquote]⟩
    by_cases hescape : c = '\\'
    · obtain ⟨parts, after, hrest⟩ | ⟨parts, escaping, hrest⟩ := exists_parts rest
      · exact .inl ⟨.escape d :: parts, after, by simp [LiteralPart.text, hescape, hrest]⟩
      · exact .inr ⟨.escape d :: parts, escaping, by simp [LiteralPart.text, hescape, hrest]⟩
    · obtain ⟨parts, after, hrest⟩ | ⟨parts, escaping, hrest⟩ := exists_parts (d :: rest)
      · exact .inl ⟨.char c ⟨hquote, hescape⟩ :: parts, after, by simp [LiteralPart.text, hrest]⟩
      · exact .inr ⟨.char c ⟨hquote, hescape⟩ :: parts, escaping, by
          simp [LiteralPart.text, hrest]⟩

/-- A text that holds the end of a block holds a first one. -/
theorem exists_blockEnd {t : Text} (h : blockEnd <:+: t) :
    ∃ body rest, t = body ++ blockEnd ++ rest ∧ ¬ blockEnd <:+: body ++ ['*'] := by
  induction t with
  | nil => exact absurd (List.infix_nil.mp h) (by decide)
  | cons c more ih =>
    by_cases hfirst : blockEnd <+: c :: more
    · obtain ⟨rest, hrest⟩ := hfirst
      exact ⟨[], rest, hrest.symm, by decide⟩
    · obtain ⟨body, rest, hmore, hbody⟩ := ih ((List.infix_cons_iff.mp h).resolve_left hfirst)
      refine ⟨c :: body, rest, by rw [hmore]; rfl, ?_⟩
      rw [List.cons_append, List.infix_cons_iff]
      rintro (hbegins | hwithin)
      · have hlonger : c :: (body ++ ['*']) <+: c :: more := by
          rw [hmore]
          exact ⟨'/' :: rest, by simp [blockEnd]⟩
        exact hfirst (List.IsPrefix.trans hbegins hlonger)
      · exact hbody hwithin

/-- A text begins with a piece, or it is one that has been cut off. -/
theorem exists_piece {t : Text} (hne : t ≠ []) :
    (∃ (p : Piece) (rest : Text), t = p.text ++ rest ∧ (p.text = ['/'] → rest.head? ≠ some '*')) ∨
      ∃ e : Ending, t = e.text := by
  obtain ⟨c, rest, rfl⟩ := List.exists_cons_of_ne_nil hne
  by_cases hquote : c = '"'
  · obtain ⟨parts, after, hrest⟩ | ⟨parts, escaping, hrest⟩ := exists_parts rest
    · exact .inl ⟨.literal parts, after, by simp [Piece.text, hquote, hrest], by simp [Piece.text]⟩
    · exact .inr ⟨.literal parts escaping, by rw [hquote, hrest]; rfl⟩
  by_cases hhash : c = '#'
  · by_cases hfeed : '\n' ∈ rest
    · obtain ⟨body, after, hrest, hbody⟩ := List.eq_append_cons_of_mem hfeed
      exact .inl ⟨.lineComment body hbody, after, by simp [Piece.text, hhash, hrest],
        by simp [Piece.text]⟩
    · exact .inr ⟨.lineComment rest hfeed, by rw [hhash]; rfl⟩
  by_cases hblock : c = '/' ∧ rest.head? = some '*'
  · obtain ⟨rfl, hstar⟩ := hblock
    obtain ⟨more, rfl⟩ := List.head?_eq_some_iff.mp hstar
    by_cases hend : blockEnd <:+: more
    · obtain ⟨body, after, hmore, hbody⟩ := exists_blockEnd hend
      exact .inl ⟨.block body hbody, after, by simp [Piece.text, hmore], by simp [Piece.text]⟩
    · exact .inr ⟨.block more hend, rfl⟩
  · refine .inl ⟨.other c ⟨hquote, hhash⟩, rest, rfl, fun htext hstar => hblock ⟨?_, hstar⟩⟩
    exact (List.cons.inj htext).1

/-- Every text is made of pieces. -/
theorem Commented.exists_text (t : Text) : ∃ made : Commented, made.text = t := by
  induction hlength : t.length using Nat.strong_induction_on generalizing t with
  | _ n ih =>
    by_cases hne : t = []
    · exact ⟨⟨[], .complete, trivial⟩, by rw [hne]; rfl⟩
    obtain ⟨p, rest, rfl, hp⟩ | ⟨e, rfl⟩ := exists_piece hne
    · have hpos : 0 < p.text.length := List.length_pos_iff.mpr p.text_ne_nil
      have hshorter : rest.length < n := by
        rw [← hlength, List.length_append]
        omega
      obtain ⟨made, rfl⟩ := ih rest.length hshorter rest rfl
      exact ⟨⟨p :: made.pieces, made.ending, hp, made.apart⟩, by
        simp [Commented.text, spell]⟩
    · exact ⟨⟨[], e, trivial⟩, rfl⟩

/-- Every text is made of pieces, and what is read of it is what is left of them: its strings and
other characters as they are, a line feed for every comment to the end of a line, and nothing for a
block. A text none of whose pieces is a comment stays as it is, whatever its strings hold. -/
theorem stripComments_by_pieces :
    (∀ t : Text, ∃ made : Commented, made.text = t) ∧
      ∀ made : Commented, stripComments made.text = made.kept ∧
        (made.Uncommented → stripComments made.text = made.text) := by
  refine ⟨Commented.exists_text, fun made => ?_⟩
  have hkept : stripComments made.text = made.kept := stripComments_spell made.apart
  exact ⟨hkept, fun h => by rw [hkept, Commented.kept_of_uncommented h]⟩

/-- Marks of comments in a string are kept, and a block does not end within its beginning. -/
example : stripComments "\"a#\\\"/*\"# b \"\n/*/ c **/d".toList = "\"a#\\\"/*\"\nd".toList := by
  decide

end SiteGate.Json
