import SiteGate.Text.Basic

/-!
# Text as bytes

Files hold bytes; the library reads them as UTF-8 text. Bytes that are not UTF-8 are no error: each
longest piece that is the beginning of a character and cannot go on, and each byte that begins no
character, is read as one replacement character.

`decode` is a state machine over the bytes. Between two bytes it knows either nothing, or that a
character has begun, how many bytes are missing, and in which range the next one has to lie. The
ranges for the second byte rule out overlong forms, the surrogates and numbers beyond the last code
point.
-/

set_option autoImplicit false

namespace SiteGate

/-- A file's content: its bytes in order. -/
abbrev Bytes := List UInt8

namespace Text

/-- The UTF-8 bytes of a text. -/
def encode (t : Text) : Bytes := t.flatMap String.utf8EncodeChar

/-- A character that has begun: `missing` more bytes after the next one, the range the next byte
has to lie in, and the bits read so far. -/
structure Begun where
  missing : Nat
  low : UInt8
  high : UInt8
  bits : Nat

/-- What a first byte tells: a whole character, the beginning of one, or neither. -/
inductive FirstByte where
  | whole (c : Char)
  | begins (state : Begun)
  | stray

/-- Reads a first byte. -/
def firstByte (b : UInt8) : FirstByte :=
  let n := b.toNat
  if n < 0x80 then .whole (Char.ofNat n)
  else if 0xC2 ≤ n ∧ n ≤ 0xDF then .begins ⟨0, 0x80, 0xBF, n - 0xC0⟩
  else if n = 0xE0 then .begins ⟨1, 0xA0, 0xBF, 0⟩
  else if n = 0xED then .begins ⟨1, 0x80, 0x9F, 0xD⟩
  else if 0xE1 ≤ n ∧ n ≤ 0xEF then .begins ⟨1, 0x80, 0xBF, n - 0xE0⟩
  else if n = 0xF0 then .begins ⟨2, 0x90, 0xBF, 0⟩
  else if 0xF1 ≤ n ∧ n ≤ 0xF3 then .begins ⟨2, 0x80, 0xBF, n - 0xF0⟩
  else if n = 0xF4 then .begins ⟨2, 0x80, 0x8F, 4⟩
  else .stray

/-- The character that stands for bytes that are no text. -/
def replacement : Char := '\uFFFD'

/-- Reads a byte where a character may begin: the characters it completes and the state after it. -/
def decodeFirst (b : UInt8) : Text × Option Begun :=
  match firstByte b with
  | .whole c => ([c], none)
  | .begins state => ([], some state)
  | .stray => ([replacement], none)

/-- Reads one byte: the characters it completes and the state after it. A byte that does not go on
with the character that has begun ends it, and is then read as a first byte. -/
def decodeStep (state : Option Begun) (b : UInt8) : Text × Option Begun :=
  match state with
  | none => decodeFirst b
  | some s =>
    if s.low ≤ b && b ≤ s.high then
      let bits := s.bits * 64 + (b.toNat - 0x80)
      match s.missing with
      | 0 => ([Char.ofNat bits], none)
      | k + 1 => ([], some ⟨k, 0x80, 0xBF, bits⟩)
    else
      let (out, next) := decodeFirst b
      (replacement :: out, next)

/-- Reads the rest of the bytes from a state. -/
def decodeFrom (state : Option Begun) : Bytes → Text
  | [] => if state.isSome then [replacement] else []
  | b :: rest =>
    let (out, next) := decodeStep state b
    out ++ decodeFrom next rest

/-- The text of the bytes, with replacement characters where they are no UTF-8. -/
def decode (bytes : Bytes) : Text := decodeFrom none bytes

/-- The text that the bytes are the UTF-8 form of, if there is one. -/
def decode? (bytes : Bytes) : Option Text :=
  let t := decode bytes
  if encode t = bytes then some t else none

end Text

end SiteGate
