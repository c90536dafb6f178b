import Strongbox.Bytes

/-!
# AES-256

The block cipher AES with a key of 32 bytes, in the encrypting direction, which is the only one that
counter mode needs.

* `Aes.Schedule.ofKey` expands a key into the fifteen round keys.
* `Aes.encryptBlock` encrypts one block.

A block is four 32-bit columns, each with its first byte uppermost.
-/

namespace Strongbox.Aes

/-! ## The field of 256 elements -/

/-- Multiplication by `x` modulo `x⁸ + x⁴ + x³ + x + 1`. -/
def timesX (a : UInt8) : UInt8 :=
  (a <<< 1) ^^^ (if a &&& 0x80 = 0 then 0 else 0x1B)

/-- Multiplication, by the given number of lower bits of the first factor. -/
def timesBits : Nat → UInt8 → UInt8 → UInt8
  | 0, _, _ => 0
  | n + 1, a, b => (if a &&& 1 = 0 then 0 else b) ^^^ timesBits n (a >>> 1) (timesX b)

/-- Multiplication. -/
def times (a b : UInt8) : UInt8 :=
  timesBits 8 a b

/-- The inverse of an element; zero stands for its own.  Every other element has order dividing
255, so its inverse is its 254th power. -/
def inverse (a : UInt8) : UInt8 :=
  let a2 := times a a
  let a4 := times a2 a2
  let a8 := times a4 a4
  let a16 := times a8 a8
  let a32 := times a16 a16
  let a64 := times a32 a32
  let a128 := times a64 a64
  times a128 (times a64 (times a32 (times a16 (times a8 (times a4 a2)))))

/-- The bits of a byte, rotated to the left. -/
def rotate (a : UInt8) (n : UInt8) : UInt8 :=
  (a <<< n) ||| (a >>> (8 - n))

/-- The substitution of a byte: its inverse, spread over the bits. -/
def substitute (a : UInt8) : UInt8 :=
  let b := inverse a
  b ^^^ rotate b 1 ^^^ rotate b 2 ^^^ rotate b 3 ^^^ rotate b 4 ^^^ 0x63

/-- All substitutions. -/
def substitutions : Array UInt8 :=
  Array.ofFn fun i : Fin 256 => substitute (UInt8.ofNat i)

/-- The substitution of a byte, looked up. -/
def sub (a : UInt8) : UInt8 :=
  substitutions[a.toNat]?.getD 0

/-! ## Columns -/

/-- The column of four bytes. -/
def column (a b c d : UInt8) : UInt32 :=
  a.toUInt32 <<< 24 ||| b.toUInt32 <<< 16 ||| c.toUInt32 <<< 8 ||| d.toUInt32

/-- The byte of a column above a number of lower bits. -/
def byteAt (w : UInt32) (shift : UInt32) : UInt8 :=
  (w >>> shift).toUInt8

/-- The substitution of every byte of a column. -/
def subColumn (w : UInt32) : UInt32 :=
  column (sub (byteAt w 24)) (sub (byteAt w 16)) (sub (byteAt w 8)) (sub (byteAt w 0))

/-- One block, as its four columns. -/
structure Block where
  c₀ : UInt32
  c₁ : UInt32
  c₂ : UInt32
  c₃ : UInt32
  deriving DecidableEq

namespace Block

/-- The block of sixteen bytes; missing bytes count as zero. -/
def ofBytes (bytes : Bytes) : Block :=
  let at' := fun i => bytes.getD i 0
  ⟨column (at' 0) (at' 1) (at' 2) (at' 3), column (at' 4) (at' 5) (at' 6) (at' 7),
    column (at' 8) (at' 9) (at' 10) (at' 11), column (at' 12) (at' 13) (at' 14) (at' 15)⟩

/-- The bytes of a column, first to last. -/
def columnBytes (w : UInt32) : Bytes :=
  [byteAt w 24, byteAt w 16, byteAt w 8, byteAt w 0]

/-- The sixteen bytes of a block. -/
def toBytes (b : Block) : Bytes :=
  columnBytes b.c₀ ++ columnBytes b.c₁ ++ columnBytes b.c₂ ++ columnBytes b.c₃

/-- Bitwise sum of two blocks. -/
def add (a b : Block) : Block :=
  ⟨a.c₀ ^^^ b.c₀, a.c₁ ^^^ b.c₁, a.c₂ ^^^ b.c₂, a.c₃ ^^^ b.c₃⟩

end Block

/-- Substitute four bytes from four columns, which shifts the rows. -/
def shifted (a b c d : UInt32) : UInt32 :=
  column (sub (byteAt a 24)) (sub (byteAt b 16)) (sub (byteAt c 8)) (sub (byteAt d 0))

/-- Multiply a column by the fixed polynomial of the cipher. -/
def mix (w : UInt32) : UInt32 :=
  let a := byteAt w 24
  let b := byteAt w 16
  let c := byteAt w 8
  let d := byteAt w 0
  let all := a ^^^ b ^^^ c ^^^ d
  column (a ^^^ all ^^^ timesX (a ^^^ b)) (b ^^^ all ^^^ timesX (b ^^^ c))
    (c ^^^ all ^^^ timesX (c ^^^ d)) (d ^^^ all ^^^ timesX (d ^^^ a))

/-- Substitution and shift of rows for a whole block. -/
def substituteShift (b : Block) : Block :=
  ⟨shifted b.c₀ b.c₁ b.c₂ b.c₃, shifted b.c₁ b.c₂ b.c₃ b.c₀,
    shifted b.c₂ b.c₃ b.c₀ b.c₁, shifted b.c₃ b.c₀ b.c₁ b.c₂⟩

/-- An inner round. -/
def round (roundKey : Block) (b : Block) : Block :=
  let s := substituteShift b
  Block.add ⟨mix s.c₀, mix s.c₁, mix s.c₂, mix s.c₃⟩ roundKey

/-! ## Keys -/

/-- The round keys of a key: the first, the thirteen inner ones, and the last. -/
structure Schedule where
  first : Block
  inner : List Block
  last : Block

/-- Extend a schedule by two round keys, made from the two before them. -/
def extend (constant : UInt8) (a b : Block) : Block × Block :=
  let rotated := b.c₃ <<< 8 ||| b.c₃ >>> 24
  let a₀ := a.c₀ ^^^ subColumn rotated ^^^ (constant.toUInt32 <<< 24)
  let a₁ := a.c₁ ^^^ a₀
  let a₂ := a.c₂ ^^^ a₁
  let a₃ := a.c₃ ^^^ a₂
  let b₀ := b.c₀ ^^^ subColumn a₃
  let b₁ := b.c₁ ^^^ b₀
  let b₂ := b.c₂ ^^^ b₁
  let b₃ := b.c₃ ^^^ b₂
  (⟨a₀, a₁, a₂, a₃⟩, ⟨b₀, b₁, b₂, b₃⟩)

/-- The round keys behind a pair of them, as many pairs as asked for. -/
def expand : Nat → UInt8 → Block → Block → List Block
  | 0, _, _, _ => []
  | n + 1, constant, a, b =>
    let (a, b) := extend constant a b
    a :: b :: expand n (timesX constant) a b

/-- The schedule of a key of 32 bytes. -/
def Schedule.ofKey (key : Bytes) : Schedule :=
  let a := Block.ofBytes (key.take 16)
  let b := Block.ofBytes (key.drop 16)
  let all := b :: expand 7 1 a b
  ⟨a, all.take 13, all.getD 13 b⟩

/-- Encrypt one block. -/
def encryptBlock (keys : Schedule) (block : Block) : Block :=
  let state := keys.inner.foldl (fun b roundKey => round roundKey b) (block.add keys.first)
  (substituteShift state).add keys.last

end Strongbox.Aes
