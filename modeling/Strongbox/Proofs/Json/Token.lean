import Mathlib.Data.List.Basic
import Strongbox.Json.Reader
import Strongbox.Proofs.Bytes.RoundTrip

/-!
# JSON tokens written and read back

A token is read back on two levels: the reader finds where it ends, and afterwards it is asked what
it means.

* `IsStringToken` — the tokens of texts whose end is found.
* `isStringToken_escape`, **`unescape_escape`** — the token of any text ends at its quote, and means
  the text.
* `isStringToken_plain`, `unescape_plain` — a token without quotes, backslashes and controls is what
  it means.
* `isDecimal_decimal`, **`natToken?_decimal`** — the digits of a number are digits, and mean the
  number.
-/

namespace Strongbox.Json

/-! ## Strings -/

/-- A token that is read up to its closing quote. -/
def IsStringToken (token : Bytes) : Prop :=
  ∀ read rest, stringOnto read (token ++ 34 :: rest) = some (read.reverse ++ token, rest)

/-- A byte that stands for itself in a string token. -/
def IsPlainByte (b : UInt8) : Prop :=
  b ≠ 34 ∧ b ≠ 92 ∧ ¬ b < 32

instance (b : UInt8) : Decidable (IsPlainByte b) :=
  inferInstanceAs (Decidable (_ ∧ _ ∧ _))

lemma stringOnto_plain {b : UInt8} (hb : IsPlainByte b) (read rest : Bytes) :
    stringOnto read (b :: rest) = stringOnto (b :: read) rest := by
  obtain ⟨hquote, hslash, hcontrol⟩ := hb
  rw [stringOnto]
  · exact if_neg hcontrol
  all_goals simp_all

lemma unescapeOnto_plain {b : UInt8} (hb : b ≠ 92) (done rest : Bytes) :
    unescapeOnto done (b :: rest) = unescapeOnto (b :: done) rest := by
  rw [unescapeOnto]
  all_goals simp_all

/-- A control is written with two hexadecimal digits, and has a short UTF-8 form. -/
lemma control_escape {b : UInt8} (hb : b < 32) :
    areHex 48 48 (hexCode (b >>> 4)) (hexCode (b &&& 15)) = true
      ∧ unit? 48 48 (hexCode (b >>> 4)) (hexCode (b &&& 15)) = some b.toNat
      ∧ utf8 b.toNat = [b] := by
  have hall : ∀ n : Fin 32, areHex 48 48 (hexCode (UInt8.ofNat n >>> 4))
        (hexCode (UInt8.ofNat n &&& 15)) = true
      ∧ unit? 48 48 (hexCode (UInt8.ofNat n >>> 4)) (hexCode (UInt8.ofNat n &&& 15)) = some n.val
      ∧ utf8 n = [UInt8.ofNat n] := by
    simp only [utf8, Bytes.ofText_eq]
    decide
  simpa using hall ⟨b.toNat, hb⟩

/-- The three forms in which a byte of a text is written. -/
lemma escapeByte_cases (b : UInt8) :
    (escapeByte b = [b] ∧ IsPlainByte b)
    ∨ (∃ e, escapeByte b = [92, e] ∧ e ≠ 117 ∧ shortEscape? e = some b)
    ∨ (b < 32 ∧ escapeByte b = [92, 117, 48, 48, hexCode (b >>> 4), hexCode (b &&& 15)]) := by
  unfold escapeByte
  split
  · next h => exact Or.inr (Or.inl ⟨34, rfl, by decide, by rw [h]; rfl⟩)
  next hquote =>
  split
  · next h => exact Or.inr (Or.inl ⟨92, rfl, by decide, by rw [h]; rfl⟩)
  next hslash =>
  split
  · next h => exact Or.inr (Or.inl ⟨98, rfl, by decide, by rw [h]; rfl⟩)
  split
  · next h => exact Or.inr (Or.inl ⟨116, rfl, by decide, by rw [h]; rfl⟩)
  split
  · next h => exact Or.inr (Or.inl ⟨110, rfl, by decide, by rw [h]; rfl⟩)
  split
  · next h => exact Or.inr (Or.inl ⟨102, rfl, by decide, by rw [h]; rfl⟩)
  split
  · next h => exact Or.inr (Or.inl ⟨114, rfl, by decide, by rw [h]; rfl⟩)
  split
  · next h => exact Or.inr (Or.inr ⟨h, rfl⟩)
  · next h => exact Or.inl ⟨rfl, hquote, hslash, h⟩

/-- The reader takes the token of a byte in one step. -/
lemma stringOnto_escapeByte (b : UInt8) (read rest : Bytes) :
    stringOnto read (escapeByte b ++ rest) = stringOnto ((escapeByte b).reverse ++ read) rest := by
  rcases escapeByte_cases b with ⟨he, hb⟩ | ⟨e, he, hu, hs⟩ | ⟨hb, he⟩
  · rw [he]
    exact stringOnto_plain hb read rest
  · rw [he]
    show stringOnto read (92 :: e :: rest) = stringOnto (e :: 92 :: read) rest
    rw [stringOnto]
    · rw [hs]
      rfl
    · intro a b c d rest' h
      exact absurd h hu
  · rw [he]
    exact if_pos (control_escape hb).1

/-- So does whoever asks what the token means. -/
lemma unescapeOnto_escapeByte (b : UInt8) (done rest : Bytes) :
    unescapeOnto done (escapeByte b ++ rest) = unescapeOnto (b :: done) rest := by
  rcases escapeByte_cases b with ⟨he, hb⟩ | ⟨e, he, hu, hs⟩ | ⟨hb, he⟩
  · rw [he]
    exact unescapeOnto_plain hb.2.1 done rest
  · rw [he]
    show unescapeOnto done (92 :: e :: rest) = unescapeOnto (b :: done) rest
    rw [unescapeOnto]
    · rw [hs]
    · intro a b c d rest' h
      exact absurd h hu
  · rw [he]
    obtain ⟨-, hunit, hutf⟩ := control_escape hb
    have hlt : b.toNat < 32 := hb
    show unescapeOnto done (92 :: 117 :: 48 :: 48 :: _ :: _ :: rest) = _
    rw [unescapeOnto]
    simp only [hunit, hutf]
    rw [if_neg, if_neg]
    · rfl
    · simp only [isHighSurrogate, Bool.and_eq_true, decide_eq_true_eq]
      omega
    · simp only [isLowSurrogate, Bool.and_eq_true, decide_eq_true_eq]
      omega

lemma isStringToken_escape (text : Bytes) : IsStringToken (escape text) := by
  intro read rest
  induction text generalizing read with
  | nil => simp [escape, stringOnto]
  | cons b text ih =>
      rw [escape, List.flatMap_cons, List.append_assoc, stringOnto_escapeByte]
      rw [escape] at ih
      rw [ih, List.reverse_append, List.reverse_reverse, List.append_assoc]

lemma unescapeOnto_escape (text done : Bytes) :
    unescapeOnto done (escape text) = some (done.reverse ++ text) := by
  induction text generalizing done with
  | nil => simp [escape, unescapeOnto]
  | cons b text ih =>
      rw [escape, List.flatMap_cons, unescapeOnto_escapeByte]
      rw [escape] at ih
      rw [ih, List.reverse_cons, List.append_assoc]
      rfl

/-- The token of a text means the text. -/
theorem unescape_escape (text : Bytes) : unescape (escape text) = some text :=
  unescapeOnto_escape text []

/-- The token of a text is read back as the text. -/
lemma tokenText?_escape (text : String) : tokenText? (escape (Bytes.ofText text)) = some text := by
  rw [tokenText?, unescape_escape]
  exact Bytes.toText?_ofText text

/-! ### Plain tokens -/

lemma isStringToken_plain {token : Bytes} (h : ∀ b ∈ token, IsPlainByte b) :
    IsStringToken token := by
  intro read rest
  induction token generalizing read with
  | nil => simp [stringOnto]
  | cons b token ih =>
      rw [List.cons_append, stringOnto_plain (h b (by simp)), ih fun c hc => h c (by simp [hc])]
      simp

lemma unescape_plain {token : Bytes} (h : ∀ b ∈ token, IsPlainByte b) :
    unescape token = some token := by
  have hgo : ∀ done, unescapeOnto done token = some (done.reverse ++ token) := by
    induction token with
    | nil => intro done; simp [unescapeOnto]
    | cons b token ih =>
        intro done
        rw [unescapeOnto_plain (h b (by simp)).2.1, ih fun c hc => h c (by simp [hc])]
        simp
  exact hgo []

/-- The characters of a constant text, which need no escapes. -/
def IsPlainText (text : String) : Prop :=
  ∀ c ∈ text.toList, c.toNat < 128 ∧ IsPlainByte (UInt8.ofNat c.toNat)

instance (text : String) : Decidable (IsPlainText text) :=
  text.toList.decidableBAll fun c : Char => c.toNat < 128 ∧ IsPlainByte (UInt8.ofNat c.toNat)

lemma plain_ascii {text : String} (h : IsPlainText text) : ∀ b ∈ ascii text, IsPlainByte b := by
  intro b hb
  obtain ⟨c, hc, rfl⟩ := List.mem_map.1 hb
  exact (h c hc).2

/-- Plain ASCII bytes are those of a constant text. -/
lemma exists_plainText {token : Bytes} (h : ∀ b ∈ token, IsPlainByte b ∧ b < 128) :
    ∃ text, IsPlainText text ∧ token = ascii text := by
  have hcode : ∀ b : UInt8, b < 128 → (Char.ofNat b.toNat).toNat = b.toNat := by
    intro b hb
    have hlt : b.toNat < 128 := hb
    have hvalid : b.toNat.isValidChar := Or.inl (by omega)
    rw [Char.ofNat, dif_pos hvalid]
    rfl
  refine ⟨String.ofList (token.map fun b => Char.ofNat b.toNat), ?_, ?_⟩
  · intro c hc
    rw [String.toList_ofList] at hc
    obtain ⟨b, hb, rfl⟩ := List.mem_map.1 hc
    rw [hcode b (h b hb).2, UInt8.ofNat_toNat]
    exact ⟨(h b hb).2, (h b hb).1⟩
  · rw [ascii, String.toList_ofList, List.map_map]
    symm
    rw [List.map_congr_left (g := id)]
    · simp
    · intro b hb
      simp [hcode b (h b hb).2]

/-- Base64 text is plain. -/
lemma exists_base64_text (bytes : Bytes) :
    ∃ text, IsPlainText text ∧ Base64.encode bytes = ascii text := by
  have hdigit : ∀ n : Nat, IsPlainByte (Base64.digit n) ∧ Base64.digit n < 128 := by
    intro n
    have hall : ∀ n : Fin 64, IsPlainByte (Base64.digit n) ∧ Base64.digit n < 128 := by decide
    by_cases h : n < 64
    · exact hall ⟨n, h⟩
    · rw [Base64.digit, if_neg (by omega), if_neg (by omega), if_neg (by omega), if_neg (by omega)]
      decide
  have hpad : IsPlainByte Base64.pad ∧ Base64.pad < 128 := by decide
  have hgo : ∀ done, (∀ b ∈ done, IsPlainByte b ∧ b < 128) →
      ∀ b ∈ Base64.encodeOnto done bytes, IsPlainByte b ∧ b < 128 := by
    intro done hdone
    fun_induction Base64.encodeOnto done bytes with
    | case1 done => simpa using hdone
    | case2 done a => simpa [or_imp, forall_and, hdigit, hpad] using hdone
    | case3 done a b => simpa [or_imp, forall_and, hdigit, hpad] using hdone
    | case4 done a b c rest ih => exact ih (by simpa [or_imp, forall_and, hdigit] using hdone)
  exact exists_plainText (hgo [] (by simp))

/-- The code points of ASCII characters are their UTF-8 form. -/
lemma ascii_eq_ofText {text : String} (h : ∀ c ∈ text.toList, c.toNat < 128) :
    ascii text = Bytes.ofText text := by
  rw [Bytes.ofText_eq, String.toUTF8, ← String.utf8Encode_toList, List.utf8Encode,
    List.toList_data_toByteArray, ascii, List.map_eq_flatMap]
  refine List.flatMap_congr fun c hc => ?_
  have hsize : c.utf8Size = 1 :=
    Char.utf8Size_eq_one_iff.2 (UInt32.le_iff_toNat_le.2 (Nat.le_of_lt_succ (h c hc)))
  rw [String.utf8EncodeChar_eq_singleton hsize]
  rfl

lemma tokenText?_ascii {text : String} (h : IsPlainText text) :
    tokenText? (ascii text) = some text := by
  rw [tokenText?, unescape_plain (plain_ascii h), ascii_eq_ofText fun c hc => (h c hc).1]
  exact Bytes.toText?_ofText text

/-! ## Numbers -/

/-- The ASCII code of a decimal digit. -/
lemma digitChar_code {d : Nat} (h : d < 10) :
    UInt8.ofNat (Nat.digitChar d).toNat = UInt8.ofNat (48 + d) := by
  have hall : ∀ d : Fin 10, UInt8.ofNat (Nat.digitChar d).toNat = UInt8.ofNat (48 + d) := by decide
  exact hall ⟨d, h⟩

lemma decimal_of_lt {n : Nat} (h : n < 10) : decimal n = [UInt8.ofNat (48 + n)] := by
  rw [decimal, Nat.toDigits_of_lt_base h, List.map_singleton, digitChar_code h]

/-- A longer number ends with its last digit. -/
lemma decimal_of_le {n : Nat} (h : 10 ≤ n) :
    decimal n = decimal (n / 10) ++ [UInt8.ofNat (48 + n % 10)] := by
  rw [decimal, Nat.toDigits_of_base_le (by decide) h, List.map_append, List.map_singleton,
    digitChar_code (Nat.mod_lt n (by decide))]
  rfl

/-- A token that writes a natural number: digits, without a zero in front. -/
structure IsDecimal (token : Bytes) : Prop where
  ne_nil : token ≠ []
  isDigit : ∀ b ∈ token, isDigit b = true
  no_zero : ∀ b c rest, token = b :: c :: rest → b ≠ 48

lemma isDigit_ofNat {d : Nat} (h : d < 10) : isDigit (UInt8.ofNat (48 + d)) = true := by
  have hall : ∀ d : Fin 10, isDigit (UInt8.ofNat (48 + d)) = true := by decide
  exact hall ⟨d, h⟩

lemma toNat_digit {d : Nat} (h : d < 10) : (UInt8.ofNat (48 + d)).toNat = 48 + d := by
  rw [UInt8.toNat_ofNat']
  omega

/-- The induction takes the last digit off.  That a positive number does not start with a zero has
to be carried along, since it is about the other end. -/
lemma decimal_spec (n : Nat) :
    IsDecimal (decimal n) ∧ digitsValue (decimal n) = n
      ∧ (0 < n → (decimal n).head? ≠ some 48) := by
  induction n using Nat.strongRecOn with
  | ind n ih =>
      by_cases h : n < 10
      · rw [decimal_of_lt h]
        refine ⟨⟨by simp, by simpa using isDigit_ofNat h, by simp⟩, ?_, fun hpos => ?_⟩
        · simp only [digitsValue, List.foldl_cons, List.foldl_nil, toNat_digit h]
          omega
        · simp only [List.head?_cons, ne_eq, Option.some.injEq, ← UInt8.toNat_inj, toNat_digit h]
          show 48 + n ≠ 48
          omega
      · have hlast : n % 10 < 10 := Nat.mod_lt n (by decide)
        obtain ⟨hdec, hval, hhead⟩ := ih (n / 10) (by omega)
        have hpos : (decimal (n / 10)).head? ≠ some 48 := hhead (by omega)
        have hhead' : (decimal n).head? ≠ some 48 := by
          rw [decimal_of_le (by omega), List.head?_append_of_ne_nil _ hdec.ne_nil]
          exact hpos
        refine ⟨⟨?_, ?_, ?_⟩, ?_, fun _ => hhead'⟩
        · rw [decimal_of_le (by omega)]
          simp
        · rw [decimal_of_le (by omega)]
          intro b hb
          rcases List.mem_append.1 hb with hb | hb
          · exact hdec.isDigit b hb
          · rw [List.mem_singleton.1 hb]
            exact isDigit_ofNat hlast
        · rintro b c rest he rfl
          rw [he] at hhead'
          exact hhead' rfl
        · rw [decimal_of_le (by omega), digitsValue, List.foldl_append]
          rw [digitsValue] at hval
          rw [hval, List.foldl_cons, List.foldl_nil, toNat_digit hlast]
          omega

lemma isDecimal_decimal (n : Nat) : IsDecimal (decimal n) := (decimal_spec n).1

/-- The digits of a number write the number. -/
theorem natToken?_decimal (n : Nat) : natToken? (decimal n) = some n := by
  obtain ⟨hdec, hval, -⟩ := decimal_spec n
  unfold natToken?
  split
  · next he => exact absurd he hdec.ne_nil
  · next b rest he => exact absurd rfl (hdec.no_zero 48 _ _ he)
  · rw [if_pos (List.all_eq_true.2 hdec.isDigit), hval]

/-- A number below a bound is read back. -/
lemma nat?_ofNat {n bound : Nat} (h : n < bound) : (ofNat n).nat? bound = some n := by
  rw [ofNat, nat?, natToken?_decimal]
  exact Option.filter_some_pos (decide_eq_true h)

end Strongbox.Json
