import Strongbox.Bytes

/-!
# Base64

Binary fields of the container's header and payload are written in the standard Base64 alphabet.

* `Base64.encode` writes padded text.
* `Base64.decode` reads it back, with or without the padding, and refuses text whose last digit
  has bits beyond the data, so that every byte string has one spelling up to padding.
-/

namespace Strongbox.Base64

/-- The ASCII code of a six-bit digit. -/
def digit (n : Nat) : UInt8 :=
  if n < 26 then UInt8.ofNat (65 + n)
  else if n < 52 then UInt8.ofNat (71 + n)
  else if n < 62 then UInt8.ofNat (n - 4)
  else if n = 62 then 43
  else 47

/-- The six-bit value of an ASCII code. -/
def value? (code : UInt8) : Option Nat :=
  let c := code.toNat
  if 65 ≤ c ∧ c ≤ 90 then some (c - 65)
  else if 97 ≤ c ∧ c ≤ 122 then some (c - 71)
  else if 48 ≤ c ∧ c ≤ 57 then some (c + 4)
  else if c = 43 then some 62
  else if c = 47 then some 63
  else none

/-- The padding sign. -/
def pad : UInt8 := 61

/-- Three bytes become four digits; a rest of one or two bytes is padded to four signs.  `done`
are the digits written so far, backwards. -/
def encodeOnto (done : Bytes) : Bytes → Bytes
  | [] => done.reverse
  | [a] =>
    done.reverse ++ [digit (a.toNat / 4), digit (a.toNat % 4 * 16), pad, pad]
  | [a, b] =>
    done.reverse
      ++ [digit (a.toNat / 4), digit (a.toNat % 4 * 16 + b.toNat / 16),
        digit (b.toNat % 16 * 4), pad]
  | a :: b :: c :: rest =>
    encodeOnto
      (digit (c.toNat % 64) :: digit (b.toNat % 16 * 4 + c.toNat / 64)
        :: digit (a.toNat % 4 * 16 + b.toNat / 16) :: digit (a.toNat / 4) :: done)
      rest

/-- Write bytes as Base64 text. -/
def encode (bytes : Bytes) : Bytes :=
  encodeOnto [] bytes

/-- Read a last group of two digits: one byte and four bits that must be zero. -/
def decodePair (p q : UInt8) : Option Bytes := do
  let x ← value? p
  let y ← value? q
  if y % 16 = 0 then some [UInt8.ofNat (x * 4 + y / 16)] else none

/-- Read a last group of three digits: two bytes and two bits that must be zero. -/
def decodeTriple (p q r : UInt8) : Option Bytes := do
  let x ← value? p
  let y ← value? q
  let z ← value? r
  if z % 4 = 0 then
    some [UInt8.ofNat (x * 4 + y / 16), UInt8.ofNat (y % 16 * 16 + z / 4)]
  else none

/-- Read four digits as three bytes. -/
def decodeQuad (p q r s : UInt8) : Option (UInt8 × UInt8 × UInt8) := do
  let x ← value? p
  let y ← value? q
  let z ← value? r
  let w ← value? s
  some (UInt8.ofNat (x * 4 + y / 16), UInt8.ofNat (y % 16 * 16 + z / 4),
    UInt8.ofNat (z % 4 * 64 + w))

/-- Read the last group of a text, of at most four signs.  It may hold padding behind two or three
digits, and may also end without it. -/
def decodeLast : Bytes → Option Bytes
  | [] => some []
  | [p, q] => decodePair p q
  | [p, q, r] => if r = pad then decodePair p q else decodeTriple p q r
  | [p, q, r, s] =>
    if s = pad then (if r = pad then decodePair p q else decodeTriple p q r)
    else (decodeQuad p q r s).map fun (a, b, c) => [a, b, c]
  | _ => none

/-- Read groups of four digits while more text follows them.  `done` are the bytes read so far,
backwards. -/
def decodeOnto (done : Bytes) : Bytes → Option Bytes
  | p :: q :: r :: s :: t :: rest =>
    match decodeQuad p q r s with
    | some (a, b, c) => decodeOnto (c :: b :: a :: done) (t :: rest)
    | none => none
  | last => (decodeLast last).map (done.reverse ++ ·)

/-- Read Base64 text. -/
def decode (text : Bytes) : Option Bytes :=
  decodeOnto [] text

end Strongbox.Base64
