import Strongbox.Bytes

/-!
# SHA-256

The hash function SHA-256 and what is built on it for deriving keys: HMAC and the key stretching
function PBKDF2 with a single iteration.

* `Sha256.hash` hashes a message.
* `Sha256.hmac` authenticates a message under a key.
* `Sha256.stretch` makes any number of bytes from a password and a salt.
-/

namespace Strongbox.Sha256

/-- The eight words of a hash value. -/
structure Digest where
  a : UInt32
  b : UInt32
  c : UInt32
  d : UInt32
  e : UInt32
  f : UInt32
  g : UInt32
  h : UInt32

namespace Digest

/-- The first 32 bits of the fractional parts of the square roots of the first eight primes. -/
def initial : Digest :=
  ⟨0x6A09E667, 0xBB67AE85, 0x3C6EF372, 0xA54FF53A, 0x510E527F, 0x9B05688C, 0x1F83D9AB, 0x5BE0CD19⟩

/-- Wordwise sum. -/
def add (x y : Digest) : Digest :=
  ⟨x.a + y.a, x.b + y.b, x.c + y.c, x.d + y.d, x.e + y.e, x.f + y.f, x.g + y.g, x.h + y.h⟩

/-- The bytes of a word, uppermost first. -/
def wordBytes (w : UInt32) : Bytes :=
  [(w >>> 24).toUInt8, (w >>> 16).toUInt8, (w >>> 8).toUInt8, w.toUInt8]

def toBytes (x : Digest) : Bytes :=
  [x.a, x.b, x.c, x.d, x.e, x.f, x.g, x.h].flatMap wordBytes

end Digest

/-- The first 32 bits of the fractional parts of the cube roots of the first 64 primes. -/
def constants : List UInt32 := [
  0x428A2F98, 0x71374491, 0xB5C0FBCF, 0xE9B5DBA5, 0x3956C25B, 0x59F111F1, 0x923F82A4, 0xAB1C5ED5,
  0xD807AA98, 0x12835B01, 0x243185BE, 0x550C7DC3, 0x72BE5D74, 0x80DEB1FE, 0x9BDC06A7, 0xC19BF174,
  0xE49B69C1, 0xEFBE4786, 0x0FC19DC6, 0x240CA1CC, 0x2DE92C6F, 0x4A7484AA, 0x5CB0A9DC, 0x76F988DA,
  0x983E5152, 0xA831C66D, 0xB00327C8, 0xBF597FC7, 0xC6E00BF3, 0xD5A79147, 0x06CA6351, 0x14292967,
  0x27B70A85, 0x2E1B2138, 0x4D2C6DFC, 0x53380D13, 0x650A7354, 0x766A0ABB, 0x81C2C92E, 0x92722C85,
  0xA2BFE8A1, 0xA81A664B, 0xC24B8B70, 0xC76C51A3, 0xD192E819, 0xD6990624, 0xF40E3585, 0x106AA070,
  0x19A4C116, 0x1E376C08, 0x2748774C, 0x34B0BCB5, 0x391C0CB3, 0x4ED8AA4A, 0x5B9CCA4F, 0x682E6FF3,
  0x748F82EE, 0x78A5636F, 0x84C87814, 0x8CC70208, 0x90BEFFFA, 0xA4506CEB, 0xBEF9A3F7, 0xC67178F2]

/-- The bits of a word, rotated to the right. -/
def rotate (w : UInt32) (n : UInt32) : UInt32 :=
  w >>> n ||| w <<< (32 - n)

/-- One round, with a word of the message and a constant. -/
def round (x : Digest) (word constant : UInt32) : Digest :=
  let s₁ := rotate x.e 6 ^^^ rotate x.e 11 ^^^ rotate x.e 25
  let choice := (x.e &&& x.f) ^^^ (~~~x.e &&& x.g)
  let t₁ := x.h + s₁ + choice + constant + word
  let s₀ := rotate x.a 2 ^^^ rotate x.a 13 ^^^ rotate x.a 22
  let majority := (x.a &&& x.b) ^^^ (x.a &&& x.c) ^^^ (x.b &&& x.c)
  ⟨t₁ + s₀ + majority, x.a, x.b, x.c, x.d + t₁, x.e, x.f, x.g⟩

/-- Extend the message words by one, made from the words 16, 15, 7 and 2 places back. -/
def nextWord (words : Array UInt32) : UInt32 :=
  let back := fun n => words[words.size - n]?.getD 0
  let w₁₅ := back 15
  let w₂ := back 2
  let s₀ := rotate w₁₅ 7 ^^^ rotate w₁₅ 18 ^^^ w₁₅ >>> 3
  let s₁ := rotate w₂ 17 ^^^ rotate w₂ 19 ^^^ w₂ >>> 10
  back 16 + s₀ + back 7 + s₁

/-- Extend the message words by a number of further ones. -/
def extend : Nat → Array UInt32 → Array UInt32
  | 0, words => words
  | n + 1, words => extend n (words.push (nextWord words))

/-- The words of a string of bytes, four bytes to a word, uppermost first. -/
def toWords : Bytes → List UInt32
  | a :: b :: c :: d :: rest =>
    (a.toUInt32 <<< 24 ||| b.toUInt32 <<< 16 ||| c.toUInt32 <<< 8 ||| d.toUInt32) :: toWords rest
  | _ => []

/-- Take in one block of sixteen words. -/
def compress (x : Digest) (block : List UInt32) : Digest :=
  let words := (extend 48 block.toArray).toList
  x.add ((words.zip constants).foldl (fun y (word, constant) => round y word constant) x)

/-- Take in whole blocks of sixteen words, as many as given. -/
def compressAll : Nat → Digest → List UInt32 → Digest
  | 0, x, _ => x
  | n + 1, x, words => compressAll n (compress x (words.take 16)) (words.drop 16)

/-- The message with a one bit, zeros up to a whole number of blocks, and its length in bits. -/
def padded (message : Bytes) : Bytes :=
  let length := message.length
  let zeros := (55 + 64 - length % 64) % 64
  let bits := UInt64.ofNat (length * 8)
  message ++ (0x80 :: List.replicate zeros 0 : Bytes)
    ++ Digest.wordBytes (bits >>> 32).toUInt32 ++ Digest.wordBytes bits.toUInt32

/-- The hash of a message. -/
def hash (message : Bytes) : Bytes :=
  let words := toWords (padded message)
  (compressAll (words.length / 16) .initial words).toBytes

/-! ## Authentication and stretching -/

/-- The key of an authentication, filled up with zeros to a block of 64 bytes.  A longer key is
hashed first. -/
def hmacKey (key : Bytes) : Bytes :=
  let short := if 64 < key.length then hash key else key
  short ++ List.replicate (64 - short.length) 0

/-- The authentication code of a message under a key. -/
def hmac (key message : Bytes) : Bytes :=
  let full := hmacKey key
  hash (full.map (· ^^^ 0x5C) ++ hash (full.map (· ^^^ 0x36) ++ message))

/-- The bytes of a block number, uppermost first. -/
def blockNumber (n : Nat) : Bytes :=
  Digest.wordBytes (UInt32.ofNat n)

/-- A number of bytes made from a password and a salt, by one authentication for every 32 of
them. -/
def stretch (password salt : Bytes) (length : Nat) : Bytes :=
  let block := fun i => hmac password (salt ++ blockNumber (i + 1))
  ((List.range ((length + 31) / 32)).flatMap block).take length

end Strongbox.Sha256
