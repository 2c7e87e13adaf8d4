import SiteGate.Digest.Sha256

/-!
# The digest of a file

A file's content is told from another by its digest: the SHA-256 hash of the SHA-256 hash, in lower
case hexadecimal. Two equal contents have equal digests; that two different contents have different
ones is an assumption about the hash function and no theorem.
-/

set_option autoImplicit false

namespace SiteGate

/-- The hexadecimal digit of a number below sixteen. -/
def hexDigit (n : Nat) : Char :=
  if n < 10 then Char.ofNat ('0'.toNat + n) else Char.ofNat ('a'.toNat + (n - 10))

/-- The bytes in lower-case hexadecimal, two digits a byte. -/
def hex (bytes : Bytes) : Text :=
  bytes.flatMap fun b => [hexDigit (b.toNat / 16), hexDigit (b.toNat % 16)]

/-- The digest of a file's content. -/
def contentDigest (content : Bytes) : Text := hex (Sha256.hash (Sha256.hash content))

end SiteGate
