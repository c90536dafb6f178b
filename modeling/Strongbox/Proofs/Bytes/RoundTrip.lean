import Mathlib.Tactic.Lemma
import Strongbox.Bytes.Base64

/-!
# Bytes written and read back

The three forms in which a container file spells what it holds: a length as four bytes, binary data
as Base64, and text as UTF-8.  Each of them reads back as what was written.

* `Bytes.toUInt32_bytes`, `Bytes.ofUInt32_toUInt32` — a 32-bit length, both ways.
* **`Base64.decode_encode`** — any bytes.
* `Bytes.toText?_ofText` — any text.
-/

namespace Strongbox

/-! ## Lengths -/

namespace Bytes

/-- A word is put together from its four bytes. -/
lemma toUInt32_bytes (word : UInt32) :
    toUInt32 word.toUInt8 (word >>> 8).toUInt8 (word >>> 16).toUInt8 (word >>> 24).toUInt8
      = word := by
  have h8 : (UInt32.toBitVec 8 % 32).toNat = 8 := rfl
  have h16 : (UInt32.toBitVec 16 % 32).toNat = 16 := rfl
  have h24 : (UInt32.toBitVec 24 % 32).toNat = 24 := rfl
  apply UInt32.toBitVec_inj.1
  apply BitVec.eq_of_getLsbD_eq
  intro i hi
  -- bit by bit, each of the 32 comes from exactly one of the bytes
  simp only [toUInt32, UInt32.toBitVec_or, UInt32.toBitVec_shiftLeft, UInt32.toBitVec_shiftRight,
    UInt8.toBitVec_toUInt32, UInt32.toBitVec_toUInt8, BitVec.getLsbD_or, BitVec.getLsbD_setWidth,
    BitVec.shiftLeft_eq', BitVec.ushiftRight_eq', BitVec.getLsbD_shiftLeft,
    BitVec.getLsbD_ushiftRight, h8, h16, h24]
  grind

/-- The four bytes of a word are those that it was put together from. -/
lemma ofUInt32_toUInt32 (b₀ b₁ b₂ b₃ : UInt8) :
    ofUInt32 (toUInt32 b₀ b₁ b₂ b₃) = [b₀, b₁, b₂, b₃] := by
  have h8 : (UInt32.toBitVec 8 % 32).toNat = 8 := rfl
  have h16 : (UInt32.toBitVec 16 % 32).toNat = 16 := rfl
  have h24 : (UInt32.toBitVec 24 % 32).toNat = 24 := rfl
  simp only [ofUInt32, List.cons.injEq, and_true]
  -- each byte has eight bits of the word, and the other three leave them alone
  refine ⟨?_, ?_, ?_, ?_⟩ <;>
    apply UInt8.toBitVec_inj.1 <;>
    apply BitVec.eq_of_getLsbD_eq <;>
    intro i hi <;>
    simp only [toUInt32, UInt32.toBitVec_or, UInt32.toBitVec_shiftLeft, UInt32.toBitVec_shiftRight,
      UInt8.toBitVec_toUInt32, UInt32.toBitVec_toUInt8, BitVec.getLsbD_or, BitVec.getLsbD_setWidth,
      BitVec.shiftLeft_eq', BitVec.ushiftRight_eq', BitVec.getLsbD_shiftLeft,
      BitVec.getLsbD_ushiftRight, h8, h16, h24] <;>
    grind

/-! ## Text -/

lemma toList_loop (bytes : ByteArray) (i : Nat) (done : List UInt8) :
    ByteArray.toList.loop bytes i done = done.reverse ++ bytes.data.toList.drop i := by
  fun_induction ByteArray.toList.loop bytes i done with
  | case1 i done hi ih =>
      have hlen : i < bytes.data.toList.length := hi
      have hget : bytes.get! i = bytes.data.toList[i] := getElem!_pos bytes.data i hi
      rw [ih, List.drop_eq_getElem_cons hlen, hget, List.reverse_cons, List.append_assoc]
      rfl
  | case2 i done hi =>
      rw [List.drop_eq_nil_of_le (Nat.le_of_not_lt hi), List.append_nil]

/-- The UTF-8 form of a text is how the text is kept. -/
lemma ofText_eq (text : String) : ofText text = text.toUTF8.data.toList := by
  rw [ofText, ByteArray.toList, toList_loop]
  rfl

/-- The UTF-8 form of a text is the text's, and no other's. -/
lemma toText?_ofText (text : String) : toText? (ofText text) = some text := by
  have hbytes : ByteArray.mk (ofText text).toArray = text.toUTF8 := by
    rw [ofText_eq]
  rw [toText?, hbytes]
  exact dif_pos text.isValidUTF8

end Bytes

/-! ## Base64 -/

namespace Base64

lemma value?_digit {n : Nat} (h : n < 64) : value? (digit n) = some n := by
  have hall : ∀ n : Fin 64, value? (digit n) = some n.val := by decide
  exact hall ⟨n, h⟩

/-- No digit is taken for padding. -/
lemma digit_ne_pad {n : Nat} (h : n < 64) : digit n ≠ pad := by
  have hall : ∀ n : Fin 64, digit n ≠ pad := by decide
  exact hall ⟨n, h⟩

/-- What is written goes behind what was written before. -/
lemma encodeOnto_append (more done bytes : Bytes) :
    encodeOnto (more ++ done) bytes = done.reverse ++ encodeOnto more bytes := by
  fun_induction encodeOnto more bytes with
  | case1 | case2 | case3 => simp [encodeOnto]
  | case4 more a b c rest ih => exact ih

/-- Three bytes are written as four digits. -/
lemma encode_cons (a b c : UInt8) (rest : Bytes) :
    encode (a :: b :: c :: rest)
      = digit (a.toNat / 4) :: digit (a.toNat % 4 * 16 + b.toNat / 16)
        :: digit (b.toNat % 16 * 4 + c.toNat / 64) :: digit (c.toNat % 64) :: encode rest :=
  encodeOnto_append [] _ rest

/-- Four digits are read as three bytes. -/
lemma decodeQuad_digits (a b c : UInt8) :
    decodeQuad (digit (a.toNat / 4)) (digit (a.toNat % 4 * 16 + b.toNat / 16))
      (digit (b.toNat % 16 * 4 + c.toNat / 64)) (digit (c.toNat % 64)) = some (a, b, c) := by
  have ha := a.toNat_lt
  have hb := b.toNat_lt
  have hc := c.toNat_lt
  have h₁ : a.toNat / 4 * 4 + (a.toNat % 4 * 16 + b.toNat / 16) / 16 = a.toNat := by omega
  have h₂ : (a.toNat % 4 * 16 + b.toNat / 16) % 16 * 16 + (b.toNat % 16 * 4 + c.toNat / 64) / 4
      = b.toNat := by omega
  have h₃ : (b.toNat % 16 * 4 + c.toNat / 64) % 4 * 64 + c.toNat % 64 = c.toNat := by omega
  rw [decodeQuad, value?_digit (by omega), value?_digit (by omega), value?_digit (by omega),
    value?_digit (by omega)]
  simp only [Option.bind_eq_bind, Option.bind_some, h₁, h₂, h₃, UInt8.ofNat_toNat]

lemma decodePair_digits (a : UInt8) :
    decodePair (digit (a.toNat / 4)) (digit (a.toNat % 4 * 16)) = some [a] := by
  have ha := a.toNat_lt
  have h₁ : a.toNat / 4 * 4 + a.toNat % 4 * 16 / 16 = a.toNat := by omega
  rw [decodePair, value?_digit (by omega), value?_digit (by omega)]
  simp only [Option.bind_eq_bind, Option.bind_some, h₁, UInt8.ofNat_toNat]
  rw [if_pos (by omega)]

lemma decodeTriple_digits (a b : UInt8) :
    decodeTriple (digit (a.toNat / 4)) (digit (a.toNat % 4 * 16 + b.toNat / 16))
      (digit (b.toNat % 16 * 4)) = some [a, b] := by
  have ha := a.toNat_lt
  have hb := b.toNat_lt
  have h₁ : a.toNat / 4 * 4 + (a.toNat % 4 * 16 + b.toNat / 16) / 16 = a.toNat := by omega
  have h₂ : (a.toNat % 4 * 16 + b.toNat / 16) % 16 * 16 + b.toNat % 16 * 4 / 4 = b.toNat := by
    omega
  rw [decodeTriple, value?_digit (by omega), value?_digit (by omega), value?_digit (by omega)]
  simp only [Option.bind_eq_bind, Option.bind_some, h₁, h₂, UInt8.ofNat_toNat]
  rw [if_pos (by omega)]

/-- A text is written for any byte. -/
lemma exists_encode_cons (a : UInt8) (rest : Bytes) : ∃ p more, encode (a :: rest) = p :: more := by
  match rest with
  | [] => exact ⟨_, _, rfl⟩
  | [b] => exact ⟨_, _, rfl⟩
  | b :: c :: rest => exact ⟨_, _, encode_cons a b c rest⟩

/-- The induction goes by three bytes, as the writer does.  The last group has cases of its own,
since the reader looks for padding there. -/
lemma decodeOnto_encode : ∀ bytes done : Bytes,
    decodeOnto done (encode bytes) = some (done.reverse ++ bytes)
  | [], done => rfl
  | [a], done => by
      show (decodePair (digit (a.toNat / 4)) (digit (a.toNat % 4 * 16))).map _ = _
      rw [decodePair_digits, Option.map_some]
  | [a, b], done => by
      have hb := b.toNat_lt
      show (if digit (b.toNat % 16 * 4) = pad then _
        else decodeTriple (digit (a.toNat / 4)) (digit (a.toNat % 4 * 16 + b.toNat / 16))
          (digit (b.toNat % 16 * 4))).map _ = _
      rw [if_neg (digit_ne_pad (by omega)), decodeTriple_digits, Option.map_some]
  | [a, b, c], done => by
      rw [encode_cons]
      show (if digit (c.toNat % 64) = pad then _
        else (decodeQuad (digit (a.toNat / 4)) (digit (a.toNat % 4 * 16 + b.toNat / 16))
          (digit (b.toNat % 16 * 4 + c.toNat / 64)) (digit (c.toNat % 64))).map _).map _ = _
      rw [if_neg (digit_ne_pad (by omega)), decodeQuad_digits, Option.map_some, Option.map_some]
  | a :: b :: c :: d :: rest, done => by
      obtain ⟨p, more, hp⟩ := exists_encode_cons d rest
      have ih := decodeOnto_encode (d :: rest) (c :: b :: a :: done)
      rw [encode_cons, hp, decodeOnto, decodeQuad_digits, ← hp]
      simpa using ih

/-- Base64 text is read back as the bytes that it was written for. -/
theorem decode_encode (bytes : Bytes) : decode (encode bytes) = some bytes :=
  decodeOnto_encode bytes []

end Base64

end Strongbox
