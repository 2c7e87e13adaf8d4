import SiteGate.Text.Utf8

/-!
# Written text is read back

A text that is written as bytes is read back as it was (`decode_encode`): for each length of the
UTF-8 form of a character, the first byte tells how many bytes follow and in which range the next
one lies, and these bytes bring back the code point (`decodeFrom_encodeChar`). The other direction
fails, for bytes that are no UTF-8 are read as replacement characters.
-/

set_option autoImplicit false

namespace SiteGate.Text

/-! ## Single bytes -/

/-- A number that fits in a byte is that byte. -/
theorem toNat_byte {n : Nat} (h : n < 256) : (UInt8.ofNat n).toNat = n := by
  simp [Nat.mod_eq_of_lt h]

/-- A byte in the range that is waited for goes on with the character. -/
theorem decodeFrom_next {low high : UInt8} {missing bits n : Nat} (hn : n < 256)
    (hlow : low.toNat ≤ n) (hhigh : n ≤ high.toNat) (rest : Bytes) :
    decodeFrom (some ⟨missing + 1, low, high, bits⟩) (UInt8.ofNat n :: rest) =
      decodeFrom (some ⟨missing, 0x80, 0xBF, bits * 64 + (n - 0x80)⟩) rest := by
  simp [decodeFrom, decodeStep, UInt8.le_iff_toNat_le, toNat_byte hn, hlow, hhigh]

/-- The last byte that is waited for completes the character. -/
theorem decodeFrom_last {low high : UInt8} {bits n : Nat} (hn : n < 256)
    (hlow : low.toNat ≤ n) (hhigh : n ≤ high.toNat) (rest : Bytes) :
    decodeFrom (some ⟨0, low, high, bits⟩) (UInt8.ofNat n :: rest) =
      Char.ofNat (bits * 64 + (n - 0x80)) :: decodeFrom none rest := by
  simp [decodeFrom, decodeStep, UInt8.le_iff_toNat_le, toNat_byte hn, hlow, hhigh]

/-- A first byte that begins a character is followed by what it asks for. -/
theorem decodeFrom_begins {b : UInt8} {s : Begun} (h : firstByte b = .begins s) (rest : Bytes) :
    decodeFrom none (b :: rest) = decodeFrom (some s) rest := by
  simp [decodeFrom, decodeStep, decodeFirst, h]

/-! ## Characters -/

/-- A code point lies below or above the surrogates. -/
theorem codePoint_cases (c : Char) : c.toNat < 0xD800 ∨ 0xDFFF < c.toNat ∧ c.toNat < 0x110000 :=
  c.valid

variable {c : Char}

/-- A character of one byte is decoded. -/
theorem decodeFrom_one (h : c.toNat ≤ 127) (rest : Bytes) :
    decodeFrom none (UInt8.ofNat c.toNat :: rest) = c :: decodeFrom none rest := by
  have hfirst : firstByte (UInt8.ofNat c.toNat) = .whole c := by
    unfold firstByte
    rw [toNat_byte (by omega)]
    simp [show c.toNat < 128 by omega]
  simp [decodeFrom, decodeStep, decodeFirst, hfirst]

/-- A character of two bytes is decoded. -/
theorem decodeFrom_two (hlow : 127 < c.toNat) (hhigh : c.toNat ≤ 2047) (rest : Bytes) :
    decodeFrom none (UInt8.ofNat (c.toNat / 64 % 32 + 192) :: UInt8.ofNat (c.toNat % 64 + 128) ::
      rest) = c :: decodeFrom none rest := by
  have hfirst : firstByte (UInt8.ofNat (c.toNat / 64 % 32 + 192)) =
      .begins ⟨0, 0x80, 0xBF, c.toNat / 64⟩ := by
    unfold firstByte
    rw [toNat_byte (by omega)]
    dsimp only
    rw [if_neg (by omega), if_pos (by omega),
      show c.toNat / 64 % 32 + 192 - 0xC0 = c.toNat / 64 by omega]
  have hcode : c.toNat / 64 * 64 + (c.toNat % 64 + 128 - 0x80) = c.toNat := by omega
  rw [decodeFrom_begins hfirst, decodeFrom_last (by omega) (by simp) (by simp; omega), hcode,
    Char.ofNat_toNat]

/-- A character of three bytes is decoded. -/
theorem decodeFrom_three (hlow : 2047 < c.toNat) (hhigh : c.toNat ≤ 65535) (rest : Bytes) :
    decodeFrom none (UInt8.ofNat (c.toNat / 4096 % 16 + 224) ::
      UInt8.ofNat (c.toNat / 64 % 64 + 128) :: UInt8.ofNat (c.toNat % 64 + 128) :: rest) =
        c :: decodeFrom none rest := by
  have hvalid := codePoint_cases c
  -- The ranges for the second byte leave out overlong forms and the surrogates.
  obtain ⟨low, high, hfirst, hbegin, hend⟩ : ∃ low high : UInt8,
      firstByte (UInt8.ofNat (c.toNat / 4096 % 16 + 224)) =
        .begins ⟨1, low, high, c.toNat / 4096⟩ ∧
      low.toNat ≤ c.toNat / 64 % 64 + 128 ∧ c.toNat / 64 % 64 + 128 ≤ high.toNat := by
    unfold firstByte
    rw [toNat_byte (by omega)]
    dsimp only
    rw [if_neg (by omega), if_neg (by omega)]
    by_cases hoverlong : c.toNat / 4096 = 0
    · refine ⟨0xA0, 0xBF, ?_, by simp; omega, by simp; omega⟩
      rw [if_pos (by omega), hoverlong]
    · rw [if_neg (by omega)]
      by_cases hsurrogate : c.toNat / 4096 = 13
      · refine ⟨0x80, 0x9F, ?_, by simp, by simp; omega⟩
        rw [if_pos (by omega), hsurrogate]
      · refine ⟨0x80, 0xBF, ?_, by simp, by simp; omega⟩
        rw [if_neg (by omega), if_pos (by omega),
          show c.toNat / 4096 % 16 + 224 - 0xE0 = c.toNat / 4096 by omega]
  have hcode : (c.toNat / 4096 * 64 + (c.toNat / 64 % 64 + 128 - 0x80)) * 64 +
      (c.toNat % 64 + 128 - 0x80) = c.toNat := by
    omega
  rw [decodeFrom_begins hfirst, decodeFrom_next (by omega) hbegin hend,
    decodeFrom_last (by omega) (by simp) (by simp; omega), hcode, Char.ofNat_toNat]

/-- A character of four bytes is decoded. -/
theorem decodeFrom_four (hlow : 65535 < c.toNat) (rest : Bytes) :
    decodeFrom none (UInt8.ofNat (c.toNat / 262144 % 8 + 240) ::
      UInt8.ofNat (c.toNat / 4096 % 64 + 128) :: UInt8.ofNat (c.toNat / 64 % 64 + 128) ::
        UInt8.ofNat (c.toNat % 64 + 128) :: rest) = c :: decodeFrom none rest := by
  have hvalid := codePoint_cases c
  -- Here they leave out overlong forms and what is beyond the last code point.
  obtain ⟨low, high, hfirst, hbegin, hend⟩ : ∃ low high : UInt8,
      firstByte (UInt8.ofNat (c.toNat / 262144 % 8 + 240)) =
        .begins ⟨2, low, high, c.toNat / 262144⟩ ∧
      low.toNat ≤ c.toNat / 4096 % 64 + 128 ∧ c.toNat / 4096 % 64 + 128 ≤ high.toNat := by
    unfold firstByte
    rw [toNat_byte (by omega)]
    dsimp only
    rw [if_neg (by omega), if_neg (by omega), if_neg (by omega), if_neg (by omega),
      if_neg (by omega)]
    by_cases hoverlong : c.toNat / 262144 = 0
    · refine ⟨0x90, 0xBF, ?_, by simp; omega, by simp; omega⟩
      rw [if_pos (by omega), hoverlong]
    · rw [if_neg (by omega)]
      by_cases hlast : c.toNat / 262144 = 4
      · refine ⟨0x80, 0x8F, ?_, by simp, by simp; omega⟩
        rw [if_neg (by omega), if_pos (by omega), hlast]
      · refine ⟨0x80, 0xBF, ?_, by simp, by simp; omega⟩
        rw [if_pos (by omega),
          show c.toNat / 262144 % 8 + 240 - 0xF0 = c.toNat / 262144 by omega]
  have hcode : ((c.toNat / 262144 * 64 + (c.toNat / 4096 % 64 + 128 - 0x80)) * 64 +
      (c.toNat / 64 % 64 + 128 - 0x80)) * 64 + (c.toNat % 64 + 128 - 0x80) = c.toNat := by
    omega
  rw [decodeFrom_begins hfirst, decodeFrom_next (by omega) hbegin hend,
    decodeFrom_next (by omega) (by simp) (by simp; omega),
    decodeFrom_last (by omega) (by simp) (by simp; omega), hcode, Char.ofNat_toNat]

/-- The bytes of a character are read as the character. -/
theorem decodeFrom_encodeChar (c : Char) (rest : Bytes) :
    decodeFrom none (String.utf8EncodeChar c ++ rest) = c :: decodeFrom none rest := by
  unfold String.utf8EncodeChar
  dsimp only
  rw [show c.val.toNat = c.toNat from rfl]
  split
  · next h => exact decodeFrom_one h rest
  · split
    · exact decodeFrom_two (by omega) (by omega) rest
    · split
      · exact decodeFrom_three (by omega) (by omega) rest
      · exact decodeFrom_four (by omega) rest

/-- A character is one byte with its number, or all its bytes are beyond those numbers. -/
theorem mem_encodeChar {b : UInt8} (h : b ∈ String.utf8EncodeChar c) :
    c.toNat ≤ 127 ∧ b = UInt8.ofNat c.toNat ∨ 127 < c.toNat ∧ 128 ≤ b.toNat := by
  unfold String.utf8EncodeChar at h
  dsimp only at h
  rw [show c.val.toNat = c.toNat from rfl] at h
  -- the bytes of a longer character carry marks, which are all in the upper half
  have hupper : ∀ ns : List Nat, (∀ n ∈ ns, 128 ≤ n ∧ n < 256) → b ∈ ns.map UInt8.ofNat →
      128 ≤ b.toNat := by
    intro ns hns hb
    obtain ⟨n, hn, rfl⟩ := List.mem_map.mp hb
    rw [toNat_byte (hns n hn).2]
    exact (hns n hn).1
  split at h
  · next hone => exact .inl ⟨hone, List.mem_singleton.mp h⟩
  · refine .inr ⟨by omega, ?_⟩
    split at h
    · exact hupper [_, _] (by simp; omega) h
    · split at h
      · exact hupper [_, _, _] (by simp; omega) h
      · exact hupper [_, _, _, _] (by simp; omega) h

/-! ## Texts -/

/-- A text that has been encoded is decoded to itself. -/
theorem decode_encode (t : Text) : decode (encode t) = t := by
  unfold decode encode
  induction t with
  | nil => rfl
  | cons c rest ih => rw [List.flatMap_cons, decodeFrom_encodeChar, ih]

/-- Bytes are UTF-8 if they are those of a text. -/
def IsUtf8 (content : Bytes) : Prop := ∃ t, encode t = content

/-- Reading bytes and writing them again gives the same ones just if they are UTF-8. -/
theorem encode_decode_iff {content : Bytes} :
    encode (decode content) = content ↔ IsUtf8 content := by
  constructor
  · exact fun h => ⟨decode content, h⟩
  · rintro ⟨t, rfl⟩
    rw [decode_encode]

/-- Whether bytes are UTF-8 can be decided by decoding them. -/
instance (content : Bytes) : Decidable (IsUtf8 content) := decidable_of_iff _ encode_decode_iff

end SiteGate.Text
