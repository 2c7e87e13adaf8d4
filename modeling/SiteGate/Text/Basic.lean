/-!
# Text as a list of characters

Every text of the program, whether a file, a line, a header or a JSON string, is a list of
characters, so a reader is a recursion on the text and a theorem about it is an induction on the
text. This module holds the operations the rest of the library reads text with: the ends cut by
`trim`, the first word, the two halves around a separator, and the search for one text in another.

The blank characters are those with the Unicode property `White_Space`; there are twenty-five of
them, all in the first plane.
-/

set_option autoImplicit false

namespace SiteGate

/-- A text: its characters in order. -/
abbrev Text := List Char

namespace Text

/-- Blank characters: the ones with the Unicode property `White_Space`. -/
def isBlank (c : Char) : Bool :=
  let n := c.toNat
  (9 ≤ n && n ≤ 13) || n == 0x20 || n == 0x85 || n == 0xA0 || n == 0x1680 ||
    (0x2000 ≤ n && n ≤ 0x200A) || n == 0x2028 || n == 0x2029 || n == 0x202F || n == 0x205F ||
    n == 0x3000

/-- Drops the blanks a text begins with. -/
def trimStart (t : Text) : Text := t.dropWhile isBlank

/-- Drops the blanks a text ends with. -/
def trimEnd : Text → Text
  | [] => []
  | c :: rest =>
    match trimEnd rest with
    | [] => if isBlank c then [] else [c]
    | kept => c :: kept

/-- Drops the blanks at both ends. -/
def trim (t : Text) : Text := trimEnd (trimStart t)

/-- The first run of characters that are not blank, if there is one. -/
def firstWord? (t : Text) : Option Text :=
  match (trimStart t).takeWhile (!isBlank ·) with
  | [] => none
  | word => some word

/-- The texts before and after the first character that satisfies `p`, which itself is dropped;
`none` when no character does. -/
def cutAt? (p : Char → Bool) : Text → Option (Text × Text)
  | [] => none
  | c :: rest =>
    if p c then some ([], rest) else (cutAt? p rest).map fun (before, after) => (c :: before, after)

/-- The text before the first `c`, or all of it. -/
def before (c : Char) (t : Text) : Text := t.takeWhile (· != c)

/-- Drops one carriage return at the end. -/
def dropReturn (line : Text) : Text :=
  if line.getLast? = some '\r' then line.dropLast else line

/-- The lines of a text: a line ends at a line feed and loses one carriage return before it, and no
empty line follows the last line feed. -/
def lines (t : Text) : List Text :=
  let pieces := t.splitOn '\n'
  let ended := pieces.dropLast.map dropReturn
  match pieces.getLast? with
  | none | some [] => ended
  | some last => ended ++ [last]

/-- Whether `needle` stands somewhere in `hay`, its elements side by side. -/
def occursIn {α : Type} [BEq α] (needle : List α) : List α → Bool
  | [] => needle.isEmpty
  | x :: rest => needle.isPrefixOf (x :: rest) || occursIn needle rest

/-- Copies a text with every occurrence of `old` replaced by `new`, after passing over the `skip`
characters that still belong to the last occurrence. -/
def replaceFrom (old new : Text) (skip : Nat) : Text → Text
  | [] => []
  | c :: rest =>
    match skip with
    | k + 1 => replaceFrom old new k rest
    | 0 =>
      if !old.isEmpty && old.isPrefixOf (c :: rest) then
        new ++ replaceFrom old new (old.length - 1) rest
      else c :: replaceFrom old new 0 rest

/-- Replaces every occurrence of `old` by `new`, from left to right and without overlap. An empty
`old` occurs nowhere. -/
def replaceAll (old new : Text) (t : Text) : Text := replaceFrom old new 0 t

/-- Lower case for the letters A to Z, and every other character as it is. -/
def lowerAscii (t : Text) : Text := t.map Char.toLower

/-- Whether two texts differ at most in the case of the letters A to Z. -/
def sameIgnoringCase (a b : Text) : Bool := lowerAscii a == lowerAscii b

/-- Whether a character lies in the first 128 code points. -/
def isAscii (c : Char) : Bool := c.toNat < 128

/-- The value of a digit in a base up to sixteen. -/
def digitIn? (base : Nat) (c : Char) : Option Nat :=
  let value :=
    if '0' ≤ c && c ≤ '9' then c.toNat - '0'.toNat
    else if 'a' ≤ c && c ≤ 'f' then c.toNat - 'a'.toNat + 10
    else if 'A' ≤ c && c ≤ 'F' then c.toNat - 'A'.toNat + 10
    else base
  if value < base then some value else none

/-- Whether the code point of `c` lies in one of the ranges. -/
def inRanges (ranges : List (Nat × Nat)) (c : Char) : Bool :=
  ranges.any fun (first, last) => first ≤ c.toNat && c.toNat ≤ last

end Text

end SiteGate
