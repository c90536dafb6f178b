/-!
# Byte strings

File contents, container files, salts and keys are all lists of bytes.

* `Bytes.ofUInt32` and `Bytes.toUInt32` are the little-endian form of a 32-bit length.
* `Bytes.toHex` writes bytes as lower-case digits, and `Bytes.ofHex` reads either case.
* `Bytes.ofText` and `Bytes.toText?` are the UTF-8 form of text.
-/

namespace Strongbox

/-- A string of bytes. -/
abbrev Bytes := List UInt8

namespace Bytes

/-! ## Fixed-width integers -/

/-- The four bytes of a word, least significant first. -/
def ofUInt32 (word : UInt32) : Bytes :=
  [word.toUInt8, (word >>> 8).toUInt8, (word >>> 16).toUInt8, (word >>> 24).toUInt8]

/-- The word whose bytes are given least significant first. -/
def toUInt32 (b₀ b₁ b₂ b₃ : UInt8) : UInt32 :=
  b₀.toUInt32 ||| b₁.toUInt32 <<< 8 ||| b₂.toUInt32 <<< 16 ||| b₃.toUInt32 <<< 24

/-! ## Hexadecimal -/

/-- The digit of a value below sixteen. -/
def hexDigit (n : Nat) : Char :=
  if n < 10 then Char.ofNat (48 + n) else Char.ofNat (87 + n)

/-- The value of a hexadecimal digit given as an ASCII byte. -/
def hexValue? (b : UInt8) : Option UInt8 :=
  if 48 ≤ b && b ≤ 57 then some (b - 48)
  else if 97 ≤ b && b ≤ 102 then some (b - 87)
  else if 65 ≤ b && b ≤ 70 then some (b - 55)
  else none

/-- Two lower-case digits for each byte. -/
def toHex (bytes : Bytes) : String :=
  String.ofList (bytes.flatMap fun b => [hexDigit (b.toNat / 16), hexDigit (b.toNat % 16)])

/-- Why a text is no string of hexadecimal digit pairs. -/
inductive HexError where
  /-- The number of bytes in the text is odd. -/
  | oddLength
  /-- The byte at a position is no digit. -/
  | badDigit (byte : UInt8) (position : Nat)
  deriving DecidableEq, Repr

/-- Read digit pairs, the first of them at `position` of the whole text.  `done` are the bytes read
so far, backwards. -/
def ofHexOnto (done : Bytes) (position : Nat) : Bytes → Except HexError Bytes
  | [] => .ok done.reverse
  | [_] => .error .oddLength
  | high :: low :: rest =>
    match hexValue? high, hexValue? low with
    | none, _ => .error (.badDigit high position)
    | _, none => .error (.badDigit low (position + 1))
    | some h, some l => ofHexOnto ((h * 16 + l) :: done) (position + 2) rest

/-! ## Text -/

/-- The UTF-8 form of a text. -/
def ofText (text : String) : Bytes :=
  text.toUTF8.toList

/-- The text with a given UTF-8 form. -/
def toText? (bytes : Bytes) : Option String :=
  String.fromUTF8? (ByteArray.mk bytes.toArray)

/-- The bytes that a text of hexadecimal digits stands for.  An odd length is reported before any
wrong digit. -/
def ofHex (text : String) : Except HexError Bytes :=
  let bytes := ofText text
  if bytes.length % 2 = 1 then .error .oddLength else ofHexOnto [] 0 bytes

end Bytes

end Strongbox
