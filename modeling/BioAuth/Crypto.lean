import BioAuth.Lib.Aead

namespace BioAuth

/-- The primitives the crates take from their dependencies: SHA-256, HKDF-SHA256 by salt, input key
and info, and ChaCha20-Poly1305. A ChaCha20-Poly1305 call fails only on a text past 2^38 octets,
which no caller reaches, so encryption always yields a ciphertext here. -/
class Crypto where
  sha256 : Bytes → Block 32
  hkdf : Bytes → Bytes → Bytes → (length : Nat) → Block length
  chacha20Poly1305 : Aead (Block 32) (Block 12)

/-- What ChaCha20-Poly1305 adds to a text. -/
def tagLen : Nat := 16

/-- Primitives that hide nothing: a hash that keeps the front of its input, and keys that count up. They are enough
to run the crates on one input. -/
abbrev Crypto.plain : Crypto where
  sha256 input := ⟨(input ++ List.replicate 32 0).take 32, by simp⟩
  hkdf _ _ _ length := ⟨(List.range length).map UInt8.ofNat, by simp⟩
  chacha20Poly1305 := Aead.plain (Block 32) (Block 12) tagLen

end BioAuth
