import BioAuth.Lib.BigEndian

namespace BioAuth

/-- An authenticated cipher: a key, a nonce, additional data and a text in that order. -/
structure Aead (Key Nonce : Type) where
  encrypt : Key → Nonce → Bytes → Bytes → Bytes
  decrypt : Key → Nonce → Bytes → Bytes → Option Bytes

/-- One call of `encrypt`, as a record of what has been sealed. -/
structure Sealing (Key Nonce : Type) where
  key : Key
  nonce : Nonce
  aad : Bytes
  plaintext : Bytes

namespace Aead
variable {Key Nonce : Type}

/-- The ciphertext a sealing produced. -/
def ciphertext (A : Aead Key Nonce) (sealing : Sealing Key Nonce) : Bytes :=
  A.encrypt sealing.key sealing.nonce sealing.aad sealing.plaintext

/-- Decryption undoes encryption, and a ciphertext is its plaintext and a tag long. -/
structure Correct (A : Aead Key Nonce) (tag : Nat) : Prop where
  decrypt_encrypt : ∀ key nonce aad text, A.decrypt key nonce aad (A.encrypt key nonce aad text) = some text
  encrypt_length : ∀ key nonce aad text, (A.encrypt key nonce aad text).length = text.length + tag

/-- One decryption that succeeds opens something that was sealed. -/
def Authentic (A : Aead Key Nonce) (sealed : Sealing Key Nonce → Prop) (key : Key) (nonce : Nonce)
    (aad ciphertext : Bytes) : Prop :=
  ∀ text, A.decrypt key nonce aad ciphertext = some text →
    sealed ⟨key, nonce, aad, text⟩ ∧ ciphertext = A.encrypt key nonce aad text

/-- The ideal cipher: it opens nothing but what has been sealed, under whatever key. -/
def Ideal (A : Aead Key Nonce) (sealed : Sealing Key Nonce → Prop) : Prop :=
  ∀ key nonce aad ciphertext, A.Authentic sealed key nonce aad ciphertext

theorem Correct.encrypt_injective {A : Aead Key Nonce} {tag : Nat} (correct : A.Correct tag) {key : Key}
    {nonce : Nonce} {aad a b : Bytes} (same : A.encrypt key nonce aad a = A.encrypt key nonce aad b) : a = b := by
  have opened := correct.decrypt_encrypt key nonce aad a
  rw [same, correct.decrypt_encrypt] at opened
  exact (Option.some.inj opened).symm

/-- A cipher that hides nothing: the text and a tag of zeros. -/
def plain (Key Nonce : Type) (tag : Nat) : Aead Key Nonce where
  encrypt _ _ _ text := text ++ List.replicate tag 0
  decrypt _ _ _ ciphertext :=
    if ciphertext.drop (ciphertext.length - tag) = List.replicate tag 0 then
      some (ciphertext.take (ciphertext.length - tag))
    else none

theorem plain_correct (Key Nonce : Type) (tag : Nat) : (plain Key Nonce tag).Correct tag where
  decrypt_encrypt key nonce aad text := by
    have length : (text ++ List.replicate tag (0 : UInt8)).length - tag = text.length := by simp
    simp only [plain, length, List.take_left, List.drop_left, if_true]
  encrypt_length key nonce aad text := by simp [plain]

/-- The cipher made ideal for a log: it opens what the log records and nothing else. -/
def recorded [DecidableEq Key] [DecidableEq Nonce] (A : Aead Key Nonce) (log : List (Sealing Key Nonce)) :
    Aead Key Nonce where
  encrypt := A.encrypt
  decrypt key nonce aad ciphertext :=
    (log.find? fun sealing => sealing.key = key ∧ sealing.nonce = nonce ∧ sealing.aad = aad ∧
      A.ciphertext sealing = ciphertext).map Sealing.plaintext

theorem recorded_ideal [DecidableEq Key] [DecidableEq Nonce] (A : Aead Key Nonce) (log : List (Sealing Key Nonce)) :
    (A.recorded log).Ideal (· ∈ log) := by
  intro key nonce aad ciphertext text opened
  obtain ⟨sealing, found, rfl⟩ := Option.map_eq_some_iff.mp opened
  have member := List.mem_of_find?_eq_some found
  have matched := List.find?_some found
  simp only [decide_eq_true_eq] at matched
  obtain ⟨rfl, rfl, rfl, rfl⟩ := matched
  exact ⟨member, rfl⟩

/-- What the log records, the ideal cipher opens. -/
theorem recorded_opens [DecidableEq Key] [DecidableEq Nonce] {A : Aead Key Nonce} {tag : Nat} (correct : A.Correct tag)
    {log : List (Sealing Key Nonce)} {sealing : Sealing Key Nonce} (member : sealing ∈ log) :
    (A.recorded log).decrypt sealing.key sealing.nonce sealing.aad (A.ciphertext sealing) = some sealing.plaintext := by
  obtain ⟨found, search⟩ : ∃ found, log.find? (fun other => other.key = sealing.key ∧ other.nonce = sealing.nonce ∧
      other.aad = sealing.aad ∧ A.ciphertext other = A.ciphertext sealing) = some found := by
    rw [← Option.isSome_iff_exists, List.find?_isSome]
    exact ⟨sealing, member, by simp⟩
  have matched := List.find?_some search
  simp only [decide_eq_true_eq] at matched
  obtain ⟨key, nonce, aad, same⟩ := matched
  simp only [ciphertext, key, nonce, aad] at same
  have text := correct.encrypt_injective same
  simp only [recorded, search, Option.map_some, text]

end Aead

end BioAuth
