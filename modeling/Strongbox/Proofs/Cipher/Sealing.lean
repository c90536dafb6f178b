import Mathlib.Tactic.Lemma
import Strongbox.Cipher

/-!
# Sealed messages

What is sealed under a key, a nonce and authenticated data can be opened again under the same three.
`CipherSuite.Lawful` states that of a suite, and nothing else about its cipher is used to show that
a container can be read back.

* `Gcm.stream_stream` — adding the key stream twice changes nothing.
* **`Gcm.decrypt_encrypt`** — AES-256-GCM opens what it has sealed.
* **`Gcm.last_of_decrypt`** — of two messages that differ in the last byte one is opened at most.
* **`CipherSuite.lawful_standard`** — so the suite in use is lawful.
-/

namespace Strongbox

namespace Gcm

/-! ## The key stream -/

lemma length_toBytes (block : Aes.Block) : block.toBytes.length = 16 := rfl

lemma length_flatMap_toBytes (blocks : List Aes.Block) :
    (blocks.flatMap Aes.Block.toBytes).length = 16 * blocks.length := by
  induction blocks with
  | nil => rfl
  | cons block blocks ih =>
      rw [List.flatMap_cons, List.length_append, ih, length_toBytes, List.length_cons]
      omega

lemma length_keyStream (keys : Aes.Schedule) (nonce : Bytes) (counter : UInt32) (n : Nat) :
    (keyStream keys nonce counter n).length = n := by
  induction n generalizing counter with
  | zero => rfl
  | succ n ih => rw [keyStream, List.length_cons, ih]

/-- Adding a long enough pad twice changes nothing. -/
lemma zipWith_xor_twice (message pad : Bytes) (h : message.length ≤ pad.length) :
    List.zipWith (· ^^^ ·) (List.zipWith (· ^^^ ·) message pad) pad = message := by
  induction message generalizing pad with
  | nil => rfl
  | cons b message ih =>
      cases pad with
      | nil => cases h
      | cons p pad =>
          simp only [List.zipWith_cons_cons, UInt8.xor_assoc, UInt8.xor_self, UInt8.xor_zero]
          rw [ih pad (Nat.le_of_succ_le_succ h)]

/-- The pad of a message covers it to its end. -/
lemma le_length_pad (keys : Aes.Schedule) (nonce : Bytes) (n : Nat) :
    n ≤ ((keyStream keys nonce 2 ((n + 15) / 16)).flatMap Aes.Block.toBytes).length := by
  rw [length_flatMap_toBytes, length_keyStream]
  omega

lemma length_stream (keys : Aes.Schedule) (nonce message : Bytes) :
    (stream keys nonce message).length = message.length := by
  rw [stream, List.length_zipWith]
  exact Nat.min_eq_left (le_length_pad keys nonce message.length)

lemma stream_stream (keys : Aes.Schedule) (nonce message : Bytes) :
    stream keys nonce (stream keys nonce message) = message := by
  have hlength := length_stream keys nonce message
  rw [stream, hlength, stream]
  exact zipWith_xor_twice message _ (le_length_pad keys nonce message.length)

/-! ## Sealing -/

lemma length_tag (keys : Aes.Schedule) (nonce aad ciphertext : Bytes) :
    (tag keys nonce aad ciphertext).length = tagLength := rfl

/-- What is encrypted is within the limit, and is the message with the key stream added, followed by
the tag. -/
lemma encrypt_eq_some {key nonce aad message sealed : Bytes}
    (h : encrypt key nonce aad message = some sealed) :
    message.length ≤ lengthLimit ∧ aad.length ≤ lengthLimit
      ∧ sealed = stream (Aes.Schedule.ofKey key) nonce message
        ++ tag (Aes.Schedule.ofKey key) nonce aad
          (stream (Aes.Schedule.ofKey key) nonce message) := by
  rw [encrypt] at h
  split at h
  · cases h
  · next hlong =>
      rw [not_or, Nat.not_lt, Nat.not_lt] at hlong
      exact ⟨hlong.1, hlong.2, (Option.some.inj h).symm⟩

/-- A sealed message is opened again under the same key, nonce and authenticated data. -/
theorem decrypt_encrypt {key nonce aad message sealed : Bytes}
    (h : encrypt key nonce aad message = some sealed) :
    decrypt key nonce aad sealed = some message := by
  obtain ⟨hmessage, haad, rfl⟩ := encrypt_eq_some h
  rw [decrypt, List.length_append, length_tag, Nat.add_sub_cancel, if_neg (by omega)]
  dsimp only
  rw [List.drop_left, List.take_left, length_stream, if_neg (by omega), if_pos rfl, stream_stream]

/-- What can be decrypted ends with the tag of the bytes in front of it. -/
lemma tag_of_decrypt {key nonce aad sealed message : Bytes}
    (h : decrypt key nonce aad sealed = some message) :
    tagLength ≤ sealed.length ∧ sealed.drop (sealed.length - tagLength)
      = tag (Aes.Schedule.ofKey key) nonce aad (sealed.take (sealed.length - tagLength)) := by
  rw [decrypt] at h
  obtain ⟨hlength, h⟩ := Option.ite_none_left_eq_some.1 h
  obtain ⟨-, h⟩ := Option.ite_none_left_eq_some.1 h
  exact ⟨Nat.not_lt.1 hlength, (Option.ite_none_right_eq_some.1 h).1⟩

lemma ne_nil_of_decrypt {key nonce aad sealed message : Bytes}
    (h : decrypt key nonce aad sealed = some message) : sealed ≠ [] := by
  rintro rfl
  exact absurd (tag_of_decrypt h).1 (by decide)

/-- The last byte of the tag is determined by everything in front of the tag. -/
theorem last_of_decrypt {key nonce aad front message message' : Bytes} {last last' : UInt8}
    (h : decrypt key nonce aad (front ++ [last]) = some message)
    (h' : decrypt key nonce aad (front ++ [last']) = some message') : last = last' := by
  obtain ⟨hlength, htag⟩ := tag_of_decrypt h
  obtain ⟨-, htag'⟩ := tag_of_decrypt h'
  simp only [List.length_append, List.length_singleton] at hlength htag htag'
  have hfront : front.length + 1 - tagLength ≤ front.length := by
    rw [tagLength] at hlength ⊢
    omega
  rw [List.take_append_of_le_length hfront, List.drop_append_of_le_length hfront] at htag htag'
  exact List.singleton_inj.1 (List.append_cancel_left (htag.trans htag'.symm))

end Gcm

namespace CipherSuite

/-- A suite whose cipher opens what it has sealed. -/
structure Lawful (suite : CipherSuite) : Prop where
  decrypt_encrypt : ∀ {key nonce aad message ciphertext},
    suite.encrypt key nonce aad message = some ciphertext →
      suite.decrypt key nonce aad ciphertext = some message

theorem lawful_standard : standard.Lawful :=
  ⟨Gcm.decrypt_encrypt⟩

lemma lock_eq_ok {suite : CipherSuite} {key : ContainerKey} {nonce : Nonce}
    {aad message ciphertext : Bytes} :
    suite.lock key nonce aad message = .ok ciphertext
      ↔ suite.encrypt key nonce aad message = some ciphertext := by
  rw [lock]
  cases suite.encrypt key nonce aad message <;> simp

end CipherSuite

end Strongbox
