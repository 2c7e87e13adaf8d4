import SiteGate.Config.Source

/-!
# Digests that tell contents apart

That two different contents have different digests is an assumption about the hash function. It is
made about the contents that matter only, and by name (`CollisionFree`). What holds of all contents
is that their digests are of the same length, and so none is the empty text that stands for a
missing list of blocked addresses (`contentDigest_ne_nil`).
-/

set_option autoImplicit false

namespace SiteGate

/-- Among the contents of a kind no two have the same digest. -/
def CollisionFree (kind : Bytes → Prop) : Prop :=
  ∀ b c, kind b → kind c → contentDigest b = contentDigest c → b = c

/-- A number is written with as many bytes as are asked for. -/
theorem Sha256.length_bigEndian (count n : Nat) : (bigEndian count n).length = count := by
  simp [bigEndian]

/-- A hash has thirty-two bytes. -/
theorem Sha256.length_hash (message : Bytes) : (hash message).length = 32 := by
  simp [hash, Words.toList, length_bigEndian]

/-- A digest has sixty-four digits. -/
theorem length_contentDigest (content : Bytes) : (contentDigest content).length = 64 := by
  simp [contentDigest, hex, List.length_flatMap, List.map_const', Sha256.length_hash]

/-- The digest of a content is not the text that stands for a missing list. -/
theorem contentDigest_ne_nil (content : Bytes) : contentDigest content ≠ [] := by
  intro hnil
  have hlength := length_contentDigest content
  rw [hnil] at hlength
  cases hlength

/-- Without collisions a list of blocked addresses is known by its digest, and so is its lack. -/
theorem CollisionFree.blocked_eq {kind : Bytes → Prop} (h : CollisionFree kind)
    {a b : Option Bytes} (ha : ∀ c ∈ a, kind c) (hb : ∀ c ∈ b, kind c)
    (hdigest : Config.blockedDigest a = Config.blockedDigest b) : a = b := by
  cases a with
  | none =>
    cases b with
    | none => rfl
    | some c => exact absurd hdigest.symm (contentDigest_ne_nil c)
  | some c =>
    cases b with
    | none => exact absurd hdigest (contentDigest_ne_nil c)
    | some d => rw [h c d (ha c rfl) (hb d rfl) hdigest]

end SiteGate
