import Strongbox.Cipher.Sha256

/-!
# Stretching passwords with scrypt

The key derivation function scrypt makes a key from a password at a cost in time and memory that its
parameters set.

* `Scrypt.Params` are the parameters, and `Scrypt.Params.valid` the condition on them.
* `Scrypt.derive` makes the key.
-/

namespace Strongbox.Scrypt

/-! ## The core permutation -/

/-- Sixteen words, the unit that the mixing works on. -/
structure Words where
  w₀ : UInt32
  w₁ : UInt32
  w₂ : UInt32
  w₃ : UInt32
  w₄ : UInt32
  w₅ : UInt32
  w₆ : UInt32
  w₇ : UInt32
  w₈ : UInt32
  w₉ : UInt32
  w₁₀ : UInt32
  w₁₁ : UInt32
  w₁₂ : UInt32
  w₁₃ : UInt32
  w₁₄ : UInt32
  w₁₅ : UInt32

/-- The bits of a word, rotated to the left. -/
@[inline] def rotate (w : UInt32) (n : UInt32) : UInt32 :=
  w <<< n ||| w >>> (32 - n)

/-- Rounds over the columns and then the rows of a square of sixteen words. -/
def doubleRounds : Nat → UInt32 → UInt32 → UInt32 → UInt32 → UInt32 → UInt32 → UInt32 → UInt32 →
    UInt32 → UInt32 → UInt32 → UInt32 → UInt32 → UInt32 → UInt32 → UInt32 → Words
  | 0, x₀, x₁, x₂, x₃, x₄, x₅, x₆, x₇, x₈, x₉, x₁₀, x₁₁, x₁₂, x₁₃, x₁₄, x₁₅ =>
    ⟨x₀, x₁, x₂, x₃, x₄, x₅, x₆, x₇, x₈, x₉, x₁₀, x₁₁, x₁₂, x₁₃, x₁₄, x₁₅⟩
  | n + 1, x₀, x₁, x₂, x₃, x₄, x₅, x₆, x₇, x₈, x₉, x₁₀, x₁₁, x₁₂, x₁₃, x₁₄, x₁₅ =>
    let x₄ := x₄ ^^^ rotate (x₀ + x₁₂) 7
    let x₈ := x₈ ^^^ rotate (x₄ + x₀) 9
    let x₁₂ := x₁₂ ^^^ rotate (x₈ + x₄) 13
    let x₀ := x₀ ^^^ rotate (x₁₂ + x₈) 18
    let x₉ := x₉ ^^^ rotate (x₅ + x₁) 7
    let x₁₃ := x₁₃ ^^^ rotate (x₉ + x₅) 9
    let x₁ := x₁ ^^^ rotate (x₁₃ + x₉) 13
    let x₅ := x₅ ^^^ rotate (x₁ + x₁₃) 18
    let x₁₄ := x₁₄ ^^^ rotate (x₁₀ + x₆) 7
    let x₂ := x₂ ^^^ rotate (x₁₄ + x₁₀) 9
    let x₆ := x₆ ^^^ rotate (x₂ + x₁₄) 13
    let x₁₀ := x₁₀ ^^^ rotate (x₆ + x₂) 18
    let x₃ := x₃ ^^^ rotate (x₁₅ + x₁₁) 7
    let x₇ := x₇ ^^^ rotate (x₃ + x₁₅) 9
    let x₁₁ := x₁₁ ^^^ rotate (x₇ + x₃) 13
    let x₁₅ := x₁₅ ^^^ rotate (x₁₁ + x₇) 18
    let x₁ := x₁ ^^^ rotate (x₀ + x₃) 7
    let x₂ := x₂ ^^^ rotate (x₁ + x₀) 9
    let x₃ := x₃ ^^^ rotate (x₂ + x₁) 13
    let x₀ := x₀ ^^^ rotate (x₃ + x₂) 18
    let x₆ := x₆ ^^^ rotate (x₅ + x₄) 7
    let x₇ := x₇ ^^^ rotate (x₆ + x₅) 9
    let x₄ := x₄ ^^^ rotate (x₇ + x₆) 13
    let x₅ := x₅ ^^^ rotate (x₄ + x₇) 18
    let x₁₁ := x₁₁ ^^^ rotate (x₁₀ + x₉) 7
    let x₈ := x₈ ^^^ rotate (x₁₁ + x₁₀) 9
    let x₉ := x₉ ^^^ rotate (x₈ + x₁₁) 13
    let x₁₀ := x₁₀ ^^^ rotate (x₉ + x₈) 18
    let x₁₂ := x₁₂ ^^^ rotate (x₁₅ + x₁₄) 7
    let x₁₃ := x₁₃ ^^^ rotate (x₁₂ + x₁₅) 9
    let x₁₄ := x₁₄ ^^^ rotate (x₁₃ + x₁₂) 13
    let x₁₅ := x₁₅ ^^^ rotate (x₁₄ + x₁₃) 18
    doubleRounds n x₀ x₁ x₂ x₃ x₄ x₅ x₆ x₇ x₈ x₉ x₁₀ x₁₁ x₁₂ x₁₃ x₁₄ x₁₅

namespace Words

/-- The word at a place of an array, zero beyond its end. -/
@[inline] def wordAt (a : Array UInt32) (i : Nat) : UInt32 :=
  if h : i < a.size then a[i] else 0

/-- Sixteen words of an array, from a place on. -/
def ofArray (a : Array UInt32) (i : Nat) : Words :=
  ⟨wordAt a i, wordAt a (i + 1), wordAt a (i + 2), wordAt a (i + 3), wordAt a (i + 4),
    wordAt a (i + 5), wordAt a (i + 6), wordAt a (i + 7), wordAt a (i + 8), wordAt a (i + 9),
    wordAt a (i + 10), wordAt a (i + 11), wordAt a (i + 12), wordAt a (i + 13),
    wordAt a (i + 14), wordAt a (i + 15)⟩

/-- Sixteen further words at the end of an array. -/
def pushTo (a : Array UInt32) (x : Words) : Array UInt32 :=
  ((((((((((((((((a.push x.w₀).push x.w₁).push x.w₂).push x.w₃).push x.w₄).push x.w₅).push
    x.w₆).push x.w₇).push x.w₈).push x.w₉).push x.w₁₀).push x.w₁₁).push x.w₁₂).push
    x.w₁₃).push x.w₁₄).push x.w₁₅)

/-- Wordwise exclusive or. -/
def xor (x y : Words) : Words :=
  ⟨x.w₀ ^^^ y.w₀, x.w₁ ^^^ y.w₁, x.w₂ ^^^ y.w₂, x.w₃ ^^^ y.w₃, x.w₄ ^^^ y.w₄, x.w₅ ^^^ y.w₅,
    x.w₆ ^^^ y.w₆, x.w₇ ^^^ y.w₇, x.w₈ ^^^ y.w₈, x.w₉ ^^^ y.w₉, x.w₁₀ ^^^ y.w₁₀,
    x.w₁₁ ^^^ y.w₁₁, x.w₁₂ ^^^ y.w₁₂, x.w₁₃ ^^^ y.w₁₃, x.w₁₄ ^^^ y.w₁₄, x.w₁₅ ^^^ y.w₁₅⟩

/-- Wordwise sum. -/
def add (x y : Words) : Words :=
  ⟨x.w₀ + y.w₀, x.w₁ + y.w₁, x.w₂ + y.w₂, x.w₃ + y.w₃, x.w₄ + y.w₄, x.w₅ + y.w₅,
    x.w₆ + y.w₆, x.w₇ + y.w₇, x.w₈ + y.w₈, x.w₉ + y.w₉, x.w₁₀ + y.w₁₀,
    x.w₁₁ + y.w₁₁, x.w₁₂ + y.w₁₂, x.w₁₃ + y.w₁₃, x.w₁₄ + y.w₁₄, x.w₁₅ + y.w₁₅⟩

/-- The core of the mixing: eight rounds, and the input added to their result. -/
def salsa (x : Words) : Words :=
  x.add (doubleRounds 4 x.w₀ x.w₁ x.w₂ x.w₃ x.w₄ x.w₅ x.w₆ x.w₇ x.w₈ x.w₉ x.w₁₀ x.w₁₁ x.w₁₂
    x.w₁₃ x.w₁₄ x.w₁₅)

end Words

/-! ## Mixing -/

/-- Mix the units of a block from unit `i` on, `n` of them.  The mixed units with even numbers go
to the first half of the result and the others to the second. -/
def mixUnits (block : Array UInt32) : Nat → Nat → Words → Array UInt32 → Array UInt32 →
    Array UInt32
  | 0, _, _, even, odd => even ++ odd
  | n + 1, i, x, even, odd =>
    let y := (x.xor (.ofArray block (16 * i))).salsa
    if i % 2 = 0 then mixUnits block n (i + 1) y (y.pushTo even) odd
    else mixUnits block n (i + 1) y even (y.pushTo odd)
where
  /-- Append a unit. -/
  pushTo (y : Words) (a : Array UInt32) : Array UInt32 := Words.pushTo a y

/-- Mix a block of `2 * r` units. -/
def mixBlock (r : Nat) (block : Array UInt32) : Array UInt32 :=
  mixUnits block (2 * r) 0 (.ofArray block (16 * (2 * r - 1)))
    (Array.emptyWithCapacity (32 * r)) (Array.emptyWithCapacity (16 * r))

/-- Fill the memory with `n` successive mixtures, and give the next one too. -/
def fill (r : Nat) : Nat → Array (Array UInt32) → Array UInt32 →
    Array (Array UInt32) × Array UInt32
  | 0, memory, block => (memory, block)
  | n + 1, memory, block => fill r n (memory.push block) (mixBlock r block)

/-- The place of the memory that a block points to. -/
def place (r size : Nat) (block : Array UInt32) : Nat :=
  let i := 16 * (2 * r - 1)
  ((Words.wordAt block i).toNat + (Words.wordAt block (i + 1)).toNat * UInt32.size) % size

/-- Wordwise exclusive or of two blocks. -/
def xorBlock (a b : Array UInt32) : Array UInt32 :=
  Array.zipWith (· ^^^ ·) a b

/-- Mix a block with the places of the memory that it points to, `n` times. -/
def revisit (r : Nat) (memory : Array (Array UInt32)) : Nat → Array UInt32 → Array UInt32
  | 0, block => block
  | n + 1, block =>
    let old := memory[place r memory.size block]?.getD #[]
    revisit r memory n (mixBlock r (xorBlock block old))

/-- The words of a string of bytes, four bytes to a word, least significant first. -/
def toWords : Bytes → List UInt32
  | a :: b :: c :: d :: rest => Bytes.toUInt32 a b c d :: toWords rest
  | _ => []

/-- Mix a chunk of `128 * r` bytes, with a memory of `2 ^ logN` blocks. -/
def mix (logN r : Nat) (chunk : Bytes) : Bytes :=
  let size := 1 <<< logN
  let (memory, block) := fill r size (Array.emptyWithCapacity size) (toWords chunk).toArray
  (revisit r memory size block).toList.flatMap Bytes.ofUInt32

/-- Mix `n` chunks of a string of bytes, each by itself. -/
def mixChunks (logN r : Nat) : Nat → Bytes → Bytes
  | 0, _ => []
  | n + 1, bytes =>
    mix logN r (bytes.take (128 * r)) ++ mixChunks logN r n (bytes.drop (128 * r))

/-! ## Parameters -/

/-- The cost parameters: the binary logarithm of the number of blocks in memory, the size of a
block, and the number of chunks. -/
structure Params where
  logN : Nat
  r : Nat
  p : Nat
  deriving DecidableEq, Repr

namespace Params

/-- The parameters for a new container. -/
def standard : Params := ⟨15, 8, 1⟩

/-- Cheap parameters, for trying things out. -/
def cheap : Params := ⟨4, 8, 1⟩

/-- The condition on parameters: all sizes fit into 64 bits, the memory is smaller than the range
of the pointer into it, and the output of the stretching is long enough for all chunks. -/
def valid (params : Params) : Bool :=
  0 < params.r && 0 < params.p && params.logN < 64
    && (params.r * 128) <<< params.logN < UInt64.size
    && params.r * 128 * params.p < UInt64.size
    && params.logN < params.r * 16
    && params.r * params.p < 0x40000000

end Params

/-- The key of a given length for a password and a salt. -/
def derive (password salt : Bytes) (params : Params) (length : Nat) : Bytes :=
  let start := Sha256.stretch password salt (params.p * 128 * params.r)
  Sha256.stretch password (mixChunks params.logN params.r params.p start) length

end Strongbox.Scrypt
