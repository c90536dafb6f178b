import Strongbox.Cipher.Aes

/-!
# Sealing with AES-256-GCM

Galois/counter mode encrypts a message under a key and a nonce of twelve bytes and appends a tag of
sixteen bytes, which also covers data that is authenticated but not encrypted.

* `Gcm.encrypt` gives ciphertext and tag, for a message within `Gcm.lengthLimit`.
* `Gcm.decrypt` gives the message back if the tag is right, and nothing otherwise.
-/

namespace Strongbox.Gcm

/-! ## The field of 2¹²⁸ elements -/

/-- An element: the coefficients of the lower powers come first, from the uppermost bit on. -/
structure Element where
  high : UInt64
  low : UInt64
  deriving DecidableEq

namespace Element

def zero : Element := ⟨0, 0⟩

def add (a b : Element) : Element :=
  ⟨a.high ^^^ b.high, a.low ^^^ b.low⟩

/-- Multiplication by the polynomial `x`. -/
def timesX (a : Element) : Element :=
  let shifted : Element := ⟨a.high >>> 1, a.low >>> 1 ||| a.high <<< 63⟩
  if a.low &&& 1 = 0 then shifted else ⟨shifted.high ^^^ 0xE100000000000000, shifted.low⟩

/-- Add to `sum` the product of `b` with the uppermost `n` bits of a word. -/
def addProduct : Nat → UInt64 → Element → Element → Element × Element
  | 0, _, b, sum => (b, sum)
  | n + 1, word, b, sum =>
    addProduct n (word <<< 1) b.timesX (if word >>> 63 = 0 then sum else sum.add b)

/-- Multiplication. -/
def mul (a b : Element) : Element :=
  let (b, sum) := addProduct 64 a.high b zero
  (addProduct 64 a.low b sum).2

/-- The element of a cipher block. -/
def ofBlock (b : Aes.Block) : Element :=
  ⟨b.c₀.toUInt64 <<< 32 ||| b.c₁.toUInt64, b.c₂.toUInt64 <<< 32 ||| b.c₃.toUInt64⟩

/-- The cipher block of an element. -/
def toBlock (e : Element) : Aes.Block :=
  ⟨(e.high >>> 32).toUInt32, e.high.toUInt32, (e.low >>> 32).toUInt32, e.low.toUInt32⟩

end Element

/-! ## The tag -/

/-- Cut a message into blocks; the last one is filled up with zeros. -/
def blocks (message : Bytes) : List Aes.Block :=
  if message.isEmpty then []
  else Aes.Block.ofBytes (message.take 16) :: blocks (message.drop 16)
termination_by message.length
decreasing_by
  cases message with
  | nil => simp_all
  | cons _ _ => simp only [List.length_drop, List.length_cons]; omega

/-- The hash of a list of blocks under a key of the field. -/
def hash (key : Element) (message : List Aes.Block) : Element :=
  message.foldl (fun sum block => (sum.add (.ofBlock block)).mul key) .zero

/-- The block that closes the hash: both lengths, in bits. -/
def lengths (aad ciphertext : Bytes) : Aes.Block :=
  Element.toBlock ⟨UInt64.ofNat (aad.length * 8), UInt64.ofNat (ciphertext.length * 8)⟩

/-! ## Counter mode -/

/-- The counter block of a nonce. -/
def counterBlock (nonce : Bytes) (counter : UInt32) : Aes.Block :=
  { Aes.Block.ofBytes (nonce.take 12) with c₃ := counter }

/-- A number of blocks of key stream, from a counter on. -/
def keyStream (keys : Aes.Schedule) (nonce : Bytes) : UInt32 → Nat → List Aes.Block
  | _, 0 => []
  | counter, n + 1 =>
    Aes.encryptBlock keys (counterBlock nonce counter) :: keyStream keys nonce (counter + 1) n

/-- Add the key stream to a message. -/
def stream (keys : Aes.Schedule) (nonce message : Bytes) : Bytes :=
  let pad := (keyStream keys nonce 2 ((message.length + 15) / 16)).flatMap Aes.Block.toBytes
  List.zipWith (· ^^^ ·) message pad

/-- The tag of a ciphertext and the data authenticated with it. -/
def tag (keys : Aes.Schedule) (nonce aad ciphertext : Bytes) : Bytes :=
  let hashKey := Element.ofBlock (Aes.encryptBlock keys ⟨0, 0, 0, 0⟩)
  let sum := hash hashKey (blocks aad ++ blocks ciphertext ++ [lengths aad ciphertext])
  (sum.toBlock.add (Aes.encryptBlock keys (counterBlock nonce 1))).toBytes

/-! ## Sealing -/

/-- The length of a tag. -/
def tagLength : Nat := 16

/-- The longest message and the longest authenticated data, in bytes. -/
def lengthLimit : Nat := 1 <<< 36

/-- Encrypt a message and append the tag.  What is too long is refused. -/
def encrypt (key nonce aad message : Bytes) : Option Bytes :=
  if lengthLimit < message.length ∨ lengthLimit < aad.length then none
  else
    let keys := Aes.Schedule.ofKey key
    let ciphertext := stream keys nonce message
    some (ciphertext ++ tag keys nonce aad ciphertext)

/-- Decrypt a sealed message whose tag is right.  A ciphertext may be longer than any message by
another tag. -/
def decrypt (key nonce aad sealed : Bytes) : Option Bytes :=
  if sealed.length < tagLength then none
  else
    let ciphertext := sealed.take (sealed.length - tagLength)
    if lengthLimit + tagLength < ciphertext.length ∨ lengthLimit < aad.length then none
    else
      let keys := Aes.Schedule.ofKey key
      if sealed.drop (sealed.length - tagLength) = tag keys nonce aad ciphertext then
        some (stream keys nonce ciphertext)
      else none

/-- What is not too long is encrypted. -/
theorem exists_encrypt (key nonce : Bytes) {aad message : Bytes}
    (hmessage : message.length ≤ lengthLimit) (haad : aad.length ≤ lengthLimit) :
    ∃ ciphertext, encrypt key nonce aad message = some ciphertext :=
  ⟨_, if_neg fun hlong => hlong.elim (Nat.not_lt.2 hmessage) (Nat.not_lt.2 haad)⟩

end Strongbox.Gcm
