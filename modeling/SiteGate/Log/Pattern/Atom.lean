import SiteGate.Text.Basic

/-!
# Atoms of patterns

An atom is the least part of a pattern: a character that stands for itself, a kind of characters, or
a condition on a place in a text. A backslash before a mark makes the mark an ordinary character,
and before some letters it makes an atom of the letter.

How an atom is read depends on the modes of the part of the pattern that it stands in, and so does
whether it may stand there. Characters are compared and sorted into kinds by the first 128 of them
only, so an atom that would need more is refused, and so is one that would take a text apart within
a character.
-/

set_option autoImplicit false

namespace SiteGate.Log.Pattern

/-- How a part of a pattern is read. -/
structure Modes where
  /-- Upper and lower case are the same. -/
  caseless : Bool
  /-- A pattern is about characters; otherwise it is about bytes. -/
  unicode : Bool
  /-- Blanks and comments in the pattern are left out. -/
  spaced : Bool
deriving DecidableEq

/-- The modes at the beginning of a pattern. -/
def Modes.initial : Modes := ⟨false, true, false⟩

/-- Drops the blanks and comments that a text begins with. A comment begins with a number sign and
goes to the end of its line; `inComment` says that the text begins within one. -/
def dropComments (inComment : Bool) : Text → Text
  | [] => []
  | c :: rest =>
    if inComment then dropComments (c ≠ '\n') rest
    else if Text.isBlank c then dropComments false rest
    else if c = '#' then dropComments true rest
    else c :: rest

/-- The text from the first character on that is not left out. -/
def Modes.skip (m : Modes) (t : Text) : Text := if m.spaced then dropComments false t else t

/-- An atom. -/
inductive Atom where
  /-- A character that stands for itself; `asByte` says that it is given by the two digits of a
  byte. -/
  | literal (c : Char) (asByte : Bool)
  /-- The digits, the blanks or the characters of words, or all characters but them. -/
  | kind (negated : Bool)
  /-- Any character. -/
  | any
  /-- The beginning or the end of a text. -/
  | margin
  /-- The edge of a word. -/
  | wordEdge
deriving DecidableEq

namespace Atom

/-- Reads a character that is given by so many hexadecimal digits, after digits with a value. -/
def ofDigits? (m : Modes) (asByte : Bool) : Nat → Nat → Text → Option (Atom × Text)
  | 0, value, t =>
    if value.isValidChar then some (.literal (Char.ofNat value) asByte, t) else none
  | n + 1, value, t =>
    match m.skip t with
    | [] => none
    | c :: rest =>
      (Text.digitIn? 16 c).bind fun d => ofDigits? m asByte n (value * 16 + d) rest

/-- The letters that stand for characters without a shape, and these. -/
def shapeless : List (Char × Nat) :=
  [('a', 0x07), ('t', 0x09), ('n', 0x0A), ('v', 0x0B), ('f', 0x0C), ('r', 0x0D)]

/-- Reads the atom that follows a backslash. -/
def ofEscape? (m : Modes) : Text → Option (Atom × Text)
  | [] => none
  | c :: rest =>
    match c with
    | 'x' => ofDigits? m true 2 0 rest
    | 'u' => ofDigits? m false 4 0 rest
    | 'U' => ofDigits? m false 8 0 rest
    | 'd' | 's' | 'w' => some (.kind false, rest)
    | 'D' | 'S' | 'W' => some (.kind true, rest)
    | 'A' | 'z' => some (.margin, rest)
    | 'b' | 'B' | '<' | '>' => some (.wordEdge, rest)
    | _ =>
      match shapeless.lookup c with
      | some n => some (.literal (Char.ofNat n) false, rest)
      | none =>
        if Text.isAscii c && !c.isAlphanum then some (.literal c false, rest) else none

/-- Reads an atom outside of classes. -/
def read? (m : Modes) : Text → Option (Atom × Text)
  | [] => none
  | c :: rest =>
    match c with
    | '\\' => ofEscape? m rest
    | '.' => some (.any, rest)
    | '^' | '$' => some (.margin, rest)
    | _ => some (.literal c false, rest)

/-- Reads an atom in a class. -/
def readInClass? (m : Modes) : Text → Option (Atom × Text)
  | [] => none
  | c :: rest => if c = '\\' then ofEscape? m rest else some (.literal c false, rest)

/-- Whether an atom may stand outside of classes. -/
def isAllowed (m : Modes) : Atom → Bool
  | .literal c asByte => if m.unicode then !m.caseless else !asByte || Text.isAscii c
  | .kind negated => !m.unicode && !negated
  | .any => m.unicode
  | .margin => true
  | .wordEdge => !m.unicode

/-- Whether an atom may stand in a class. -/
def isAllowedInClass (m : Modes) : Atom → Bool
  | .literal c _ => if m.unicode then !m.caseless else Text.isAscii c
  | .kind negated => !m.unicode && !negated
  | _ => false

end Atom

end SiteGate.Log.Pattern
