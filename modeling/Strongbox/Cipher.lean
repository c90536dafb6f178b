import Strongbox.Cipher.Gcm
import Strongbox.Cipher.Scrypt
import Strongbox.Credential
import Strongbox.Text.Normal

/-!
# Cipher suites

A container is protected by an authenticated cipher and by a function that stretches passwords.  A
`CipherSuite` is a choice of the two, and of the normal form that makes differently typed spellings
of a password equal.  Everything about containers holds for any suite; `CipherSuite.standard` is the
one in use.

* `ContainerKey` is a key of the right length.
* `CipherSuite.keyOf` makes the key of a password.
* `CipherSuite.lock` encrypts a message, unless it is too long, and `CipherSuite.unlock` refuses one
  that was not made under the same key, nonce and authenticated data.
-/

namespace Strongbox

/-- The length of a fresh salt, in bytes. -/
def saltLength : Nat := 32

/-- The length of a nonce, in bytes. -/
def nonceLength : Nat := 12

/-- Why a key could not be made or used. -/
inductive CryptoError where
  /-- Wrong key, or a message that was tampered with: the two cannot be told apart. -/
  | authenticationFailed
  /-- A message that is longer than the cipher takes. -/
  | sealFailed
  | invalidParameters
  | invalidKeyLength (actual : Nat)
  deriving DecidableEq, Repr

def CryptoError.message : CryptoError → String
  | .authenticationFailed =>
    "Container authentication failed - wrong credential or corrupted container"
  | .sealFailed => "Encryption failed"
  | .invalidParameters => "Invalid scrypt parameters: invalid scrypt parameters"
  | .invalidKeyLength actual => s!"Invalid key length: expected {rawKeyLength}, got {actual}"

/-- A key that a container can be encrypted with. -/
structure ContainerKey where
  bytes : Bytes
  length_eq : bytes.length = rawKeyLength
  deriving DecidableEq

namespace ContainerKey

/-- Use raw bytes as a key. -/
def ofRaw (bytes : Bytes) : Except CryptoError ContainerKey :=
  if h : bytes.length = rawKeyLength then .ok ⟨bytes, h⟩
  else .error (.invalidKeyLength bytes.length)

end ContainerKey

/-- A nonce, which no two messages under one key may share. -/
structure Nonce where
  bytes : Bytes
  length_eq : bytes.length = nonceLength
  deriving DecidableEq

namespace Nonce

/-- The nonce with given bytes, if their number is right. -/
def ofBytes? (bytes : Bytes) : Option Nonce :=
  if h : bytes.length = nonceLength then some ⟨bytes, h⟩ else none

/-- The nonce that writes a number, least significant byte first. -/
def ofNat (n : Nat) : Nonce :=
  ⟨(List.range nonceLength).map fun i => UInt8.ofNat (n >>> (8 * i)), by simp⟩

end Nonce

/-- An authenticated cipher with a way to stretch passwords. -/
structure CipherSuite where
  /-- How many bytes a message may have. -/
  capacity : Nat
  /-- The ciphertext, with its tag, of a message under a key, a nonce and authenticated data.  There
  may be none if something is too long. -/
  encrypt : ContainerKey → Nonce → Bytes → Bytes → Option Bytes
  /-- A message that is not too long is encrypted with any header that has a 32-bit length. -/
  exists_encrypt : ∀ key nonce aad message, aad.length < UInt32.size → message.length ≤ capacity →
    ∃ ciphertext, encrypt key nonce aad message = some ciphertext
  /-- The message of a ciphertext, if it is authentic. -/
  decrypt : ContainerKey → Nonce → Bytes → Bytes → Option Bytes
  /-- The normal form of a password. -/
  normalForm : String → String
  /-- The key of a password's bytes, a salt and cost parameters. -/
  stretch : Bytes → Bytes → Scrypt.Params → Except CryptoError ContainerKey

namespace CipherSuite

/-- The key of a password.  Passwords with one normal form have one key. -/
def keyOf (suite : CipherSuite) (password : String) (salt : Bytes) (cost : Scrypt.Params) :
    Except CryptoError ContainerKey :=
  suite.stretch (Bytes.ofText (suite.normalForm password)) salt cost

/-- Encrypt a message, or say that this failed. -/
def lock (suite : CipherSuite) (key : ContainerKey) (nonce : Nonce) (aad message : Bytes) :
    Except CryptoError Bytes :=
  match suite.encrypt key nonce aad message with
  | some ciphertext => .ok ciphertext
  | none => .error .sealFailed

/-- Decrypt a message, or say that it is not authentic. -/
def unlock (suite : CipherSuite) (key : ContainerKey) (nonce : Nonce) (aad sealed : Bytes) :
    Except CryptoError Bytes :=
  match suite.decrypt key nonce aad sealed with
  | some message => .ok message
  | none => .error .authenticationFailed

/-- Stretch with scrypt, whose parameters have to be valid. -/
def scryptKey (password salt : Bytes) (cost : Scrypt.Params) : Except CryptoError ContainerKey :=
  if cost.valid then ContainerKey.ofRaw (Scrypt.derive password salt cost rawKeyLength)
  else .error .invalidParameters

/-- AES-256-GCM, the composed normal form, and scrypt. -/
def standard : CipherSuite where
  capacity := Gcm.lengthLimit
  encrypt key nonce aad message := Gcm.encrypt key.bytes nonce.bytes aad message
  exists_encrypt key nonce aad message haad hmessage :=
    Gcm.exists_encrypt key.bytes nonce.bytes hmessage (Nat.le_trans (Nat.le_of_lt haad) (by decide))
  decrypt key nonce aad ciphertext := Gcm.decrypt key.bytes nonce.bytes aad ciphertext
  normalForm := Text.compose
  stretch := scryptKey

end CipherSuite

end Strongbox
