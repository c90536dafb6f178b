import Strongbox.Proofs.Container.Frame

/-!
# Container files told apart

Every byte string is a container file, or is refused for one of four reasons.  The first bytes tell
whether it could be the beginning of a container file at all, the declared length whether it breaks
off before the header ends, and the header itself whether it is one.

* `Frame.parse_eq` — the order in which the reasons are looked at.
* **`Frame.framed_of_storable`** — a file that was laid out is taken apart into what was put into it,
  and no other file is taken apart.
* **`Frame.classified_and_cut`** — which byte strings are refused for which reason, and what becomes
  of a file that breaks off.
-/

namespace Strongbox

/-! ## Lengths in bytes -/

namespace Bytes

/-- The number whose digits to the base 256 are given, the least significant first. -/
def littleEndian : Bytes → Nat
  | [] => 0
  | b :: rest => b.toNat + 256 * littleEndian rest

lemma littleEndian_ofUInt32 (word : UInt32) : littleEndian (ofUInt32 word) = word.toNat := by
  have hword : word.toNat < 4294967296 := word.toNat_lt
  simp only [ofUInt32, littleEndian, UInt32.toNat_toUInt8, UInt32.toNat_shiftRight,
    Nat.shiftRight_eq_div_pow]
  have h8 : (8 : UInt32).toNat % 32 = 8 := rfl
  have h16 : (16 : UInt32).toNat % 32 = 16 := rfl
  have h24 : (24 : UInt32).toNat % 32 = 24 := rfl
  rw [h8, h16, h24]
  omega

lemma toNat_toUInt32 (b₀ b₁ b₂ b₃ : UInt8) :
    (toUInt32 b₀ b₁ b₂ b₃).toNat = littleEndian [b₀, b₁, b₂, b₃] := by
  rw [← ofUInt32_toUInt32, littleEndian_ofUInt32]

end Bytes

namespace Frame

variable {header : Header} {headerBytes ciphertext content : Bytes} {frame : Frame}

/-! ## What stands where -/

/-- How many bytes stand in front of a header. -/
def headerStart : Nat := magic.length + lengthField

/-- As far as it goes, a byte string starts as container files do. -/
def Begins (content : Bytes) : Prop :=
  content.take (min content.length magic.length) = magic.take (min content.length magic.length)

instance (content : Bytes) : Decidable (Begins content) :=
  inferInstanceAs (Decidable (_ = _))

/-- The length that a container file declares for its header. -/
def declared (content : Bytes) : Nat :=
  Bytes.littleEndian ((content.drop magic.length).take lengthField)

/-- The bytes that a container file declares to be its header. -/
def declaredHeader (content : Bytes) : Bytes :=
  (content.drop headerStart).take (declared content)

/-- A byte string starts as container files do and does not break off before the header ends. -/
def Whole (content : Bytes) : Prop :=
  Begins content ∧ headerStart + declared content ≤ content.length

/-- What a whole file gives: its header has to be one, with a nonce of the right length. -/
def judge (headerBytes ciphertext : Bytes) : Except FrameError Frame :=
  match Header.decode headerBytes with
  | none => .error .invalidHeader
  | some header =>
    if header.nonce.length = nonceLength then .ok ⟨header, headerBytes, ciphertext⟩
    else .error (.invalidNonce header.nonce.length)

/-! ## Taking a file apart -/

lemma nonce_of_length (h : header.nonce.length = nonceLength) :
    nonce header = .ok ⟨header.nonce, h⟩ := by
  rw [nonce, Nonce.ofBytes?, dif_pos h]

lemma nonce_of_ne (h : header.nonce.length ≠ nonceLength) :
    nonce header = .error (.invalidNonce header.nonce.length) := by
  rw [nonce, Nonce.ofBytes?, dif_neg h]

/-- Behind the magic, the first four bytes tell where the header ends. -/
lemma parseBody_append {size rest : Bytes} (hsize : size.length = lengthField) :
    parseBody (size ++ rest)
      = if rest.length < Bytes.littleEndian size then .error .truncated
        else judge (rest.take (Bytes.littleEndian size)) (rest.drop (Bytes.littleEndian size)) := by
  match size, hsize with
  | [b₀, b₁, b₂, b₃], _ =>
      simp only [List.cons_append, List.nil_append, parseBody, Bytes.toNat_toUInt32]
      split
      · rfl
      · rw [judge]
        cases hdecode : Header.decode (rest.take (Bytes.littleEndian [b₀, b₁, b₂, b₃])) with
        | none => rfl
        | some header =>
            by_cases hnonce : header.nonce.length = nonceLength
            · simp only [nonce_of_length hnonce, if_pos hnonce]
              rfl
            · simp only [nonce_of_ne hnonce, if_neg hnonce]
              rfl

lemma begins_of_long (h : magic.length ≤ content.length) :
    Begins content ↔ content.take magic.length = magic := by
  rw [Begins, Nat.min_eq_right h, List.take_length]

/-- What a file has of the magic is all that counts if it breaks off before the header. -/
lemma isPrefixOf_take_iff :
    (magic.take content.length).isPrefixOf content = true ↔ Begins content := by
  have hmin : magic.take content.length = magic.take (min content.length magic.length) :=
    List.take_eq_take_min
  rw [List.isPrefixOf_iff_prefix, List.prefix_iff_eq_take, List.length_take, hmin, Begins, eq_comm]

/-- The order in which a byte string is looked at: the magic, the lengths, and then the header. -/
theorem parse_eq (content : Bytes) :
    parse content = if ¬Begins content then .error .badMagic
      else if content.length < headerStart + declared content then .error .truncated
      else judge (declaredHeader content) (content.drop (headerStart + declared content)) := by
  rw [parse]
  by_cases hshort : content.length < magic.length + lengthField
  · have hbreaks : content.length < headerStart + declared content := Nat.lt_add_right _ hshort
    simp only [if_pos hshort, isPrefixOf_take_iff, if_pos hbreaks, ite_not]
  · have hstart : magic.length + lengthField ≤ content.length := Nat.not_lt.1 hshort
    have hmagic : magic.length ≤ content.length := Nat.le_of_add_right_le hstart
    simp only [if_neg hshort, begins_of_long hmagic, ite_not]
    congr 1
    -- the four bytes behind the magic, and everything behind them
    have hbody : content.drop magic.length
        = (content.drop magic.length).take lengthField ++ content.drop headerStart := by
      rw [headerStart, ← List.drop_drop, List.take_append_drop]
    have hsize : ((content.drop magic.length).take lengthField).length = lengthField := by
      rw [List.length_take, List.length_drop]
      omega
    rw [hbody, parseBody_append hsize, ← declared]
    have hbreaks : (content.drop headerStart).length < declared content
        ↔ content.length < headerStart + declared content := by
      rw [List.length_drop]
      have : headerStart ≤ content.length := hstart
      omega
    simp only [hbreaks, declaredHeader, List.drop_drop]

/-! ## Files that were laid out -/

/-- The magic, the length of a header as a number of four bytes, the header and a ciphertext. -/
def IsFile (headerBytes ciphertext content : Bytes) : Prop :=
  ∃ size : Bytes, size.length = lengthField ∧ Bytes.littleEndian size = headerBytes.length
    ∧ content = magic ++ size ++ headerBytes ++ ciphertext

lemma isFile_layOut (hlength : headerBytes.length < UInt32.size) :
    IsFile headerBytes ciphertext (layOut headerBytes ciphertext) :=
  ⟨_, rfl, by rw [Bytes.littleEndian_ofUInt32, length_word hlength], rfl⟩

/-- A file is whole, and declares the header that it was given. -/
lemma parse_isFile (h : IsFile headerBytes ciphertext content) :
    parse content = judge headerBytes ciphertext := by
  obtain ⟨size, hsize, hlength, rfl⟩ := h
  have hshort : ¬(magic ++ size ++ headerBytes ++ ciphertext).length
      < magic.length + lengthField := by
    simp only [List.length_append, hsize]
    omega
  rw [parse, if_neg hshort, List.append_assoc, List.append_assoc, if_pos List.take_left,
    List.drop_left, parseBody_append hsize, hlength]
  have hrest : ¬(headerBytes ++ ciphertext).length < headerBytes.length := by
    rw [List.length_append]
    omega
  rw [if_neg hrest, List.take_left, List.drop_left]

lemma judge_eq_ok : judge headerBytes ciphertext = .ok frame
    ↔ frame.headerBytes = headerBytes ∧ frame.ciphertext = ciphertext
      ∧ Header.decode headerBytes = some frame.header
      ∧ frame.header.nonce.length = nonceLength := by
  obtain ⟨header, bytes, text⟩ := frame
  rw [judge]
  cases hdecode : Header.decode headerBytes with
  | none => simp
  | some found =>
      by_cases hnonce : found.nonce.length = nonceLength
      · simp only [if_pos hnonce, Except.ok.injEq, Frame.mk.injEq, Option.some.injEq]
        constructor
        · rintro ⟨rfl, rfl, rfl⟩
          exact ⟨rfl, rfl, rfl, hnonce⟩
        · rintro ⟨rfl, rfl, rfl, -⟩
          exact ⟨rfl, rfl, rfl⟩
      · simp only [if_neg hnonce, reduceCtorEq, Option.some.injEq, false_iff]
        rintro ⟨-, -, rfl, hlength⟩
        exact hnonce hlength

lemma judge_eq_invalidHeader :
    judge headerBytes ciphertext = .error .invalidHeader ↔ Header.decode headerBytes = none := by
  rw [judge]
  cases Header.decode headerBytes with
  | none => simp
  | some header => by_cases hnonce : header.nonce.length = nonceLength <;> simp [hnonce]

lemma judge_eq_invalidNonce {length : Nat} :
    judge headerBytes ciphertext = .error (.invalidNonce length)
      ↔ length ≠ nonceLength
        ∧ ∃ header, Header.decode headerBytes = some header ∧ header.nonce.length = length := by
  rw [judge]
  cases Header.decode headerBytes with
  | none => simp
  | some header =>
      by_cases hnonce : header.nonce.length = nonceLength
      · simp only [if_pos hnonce, reduceCtorEq, Option.some.injEq, false_iff]
        rintro ⟨hlength, _, rfl, rfl⟩
        exact hlength hnonce
      · simp only [if_neg hnonce, Except.error.injEq, FrameError.invalidNonce.injEq,
          Option.some.injEq, exists_eq_left']
        exact ⟨fun h => ⟨h ▸ hnonce, h⟩, fun h => h.2⟩

/-- A file that is taken apart is made of the parts that it gives, and of nothing else. -/
theorem parse_eq_ok_iff : parse content = .ok frame
    ↔ IsFile frame.headerBytes frame.ciphertext content
      ∧ Header.decode frame.headerBytes = some frame.header
      ∧ frame.header.nonce.length = nonceLength := by
  constructor
  · intro h
    obtain ⟨rfl, hlength, -⟩ := parse_ok h
    have hfile : IsFile frame.headerBytes frame.ciphertext
        (layOut frame.headerBytes frame.ciphertext) := isFile_layOut hlength
    rw [parse_isFile hfile, judge_eq_ok] at h
    exact ⟨hfile, h.2.2⟩
  · rintro ⟨hfile, hheader⟩
    rw [parse_isFile hfile, judge_eq_ok]
    exact ⟨rfl, rfl, hheader⟩

/-- A file that is written for a header and a ciphertext is taken apart into that header, its bytes
and that ciphertext.  Conversely, a file that is taken apart is the magic, the length of the header
bytes, these bytes and the ciphertext, one behind the other, and the bytes are read as the header. -/
theorem framed_of_storable :
    (∀ {header : Header} (ciphertext : Bytes), header.Storable →
      header.nonce.length = nonceLength → header.encode.length < UInt32.size →
      ∃ content, parse content = .ok ⟨header, header.encode, ciphertext⟩
        ∧ (∀ host path, write host path header.encode ciphertext
          = (host.replaceFile path content).mapError .host)
        ∧ ∀ {host host' path}, HostPath.Cleaned path → path.utf8ByteSize ≤ Host.pathLimit →
          write host path header.encode ciphertext = .ok host' → host'.read path = .ok content)
    ∧ ∀ {content : Bytes} {frame : Frame}, parse content = .ok frame →
      IsFile frame.headerBytes frame.ciphertext content
        ∧ Header.decode frame.headerBytes = some frame.header := by
  refine ⟨fun {header} ciphertext hheader hnonce hlength => ?_, fun h => ?_⟩
  · refine ⟨layOut header.encode ciphertext, ?_, fun host path => ?_, ?_⟩
    · rw [parse_isFile (isFile_layOut hlength), judge_eq_ok]
      exact ⟨rfl, rfl, Header.decode_of_encode hheader, hnonce⟩
    · rw [write, if_neg (Nat.not_le.2 hlength)]
    · intro host host' path hclean hlimit h
      exact Host.read_replaceFile hclean hlimit (write_ok h).2
  · obtain ⟨hfile, hheader, -⟩ := parse_eq_ok_iff.1 h
    exact ⟨hfile, hheader⟩

/-- A header with every field, and numbers as large as they can be. -/
def fullHeader : Header :=
  ⟨.password, some [0, 255, 34], some ⟨255, 4294967295, 0⟩, List.replicate 12 9⟩

lemma storable_fullHeader : fullHeader.Storable := by
  rintro _ ⟨rfl⟩
  decide

theorem framed_fullHeader : fullHeader.Storable ∧ fullHeader.nonce.length = nonceLength
    ∧ fullHeader.encode.length < UInt32.size
    ∧ ∃ content, parse content = .ok ⟨fullHeader, fullHeader.encode, [7, 0]⟩
      ∧ IsFile fullHeader.encode [7, 0] content := by
  have hlength : fullHeader.encode.length < UInt32.size := by decide +kernel
  obtain ⟨content, hparse, -⟩ :=
    framed_of_storable.1 [7, 0] storable_fullHeader rfl hlength
  exact ⟨storable_fullHeader, rfl, hlength, content, hparse, (framed_of_storable.2 hparse).1⟩

/-! ## Why a file is refused -/

/-- For which reason each byte string is refused, and which ones are taken apart. -/
structure Classified (content : Bytes) : Prop where
  badMagic : parse content = .error .badMagic ↔ ¬Begins content
  truncated : parse content = .error .truncated
    ↔ Begins content
      ∧ (content.length < headerStart ∨ content.length < headerStart + declared content)
  invalidHeader : parse content = .error .invalidHeader
    ↔ Whole content ∧ Header.decode (declaredHeader content) = none
  invalidNonce : ∀ length, parse content = .error (.invalidNonce length)
    ↔ Whole content ∧ length ≠ nonceLength
      ∧ ∃ header, Header.decode (declaredHeader content) = some header
        ∧ header.nonce.length = length
  accepted : ∀ frame, parse content = .ok frame
    ↔ Whole content ∧ frame.headerBytes = declaredHeader content
      ∧ frame.ciphertext = content.drop (headerStart + declared content)
      ∧ Header.decode (declaredHeader content) = some frame.header
      ∧ frame.header.nonce.length = nonceLength

lemma judge_ne_badMagic : judge headerBytes ciphertext ≠ .error .badMagic := by
  rw [judge]
  split
  · nofun
  · split <;> nofun

lemma judge_ne_truncated : judge headerBytes ciphertext ≠ .error .truncated := by
  rw [judge]
  split
  · nofun
  · split <;> nofun

theorem classified (content : Bytes) : Classified content := by
  by_cases hbegins : Begins content
  · by_cases hbreaks : content.length < headerStart + declared content
    · have hparse : parse content = .error .truncated := by
        rw [parse_eq, if_neg (not_not.2 hbegins), if_pos hbreaks]
      have hwhole : ¬Whole content := fun h => absurd h.2 (Nat.not_le.2 hbreaks)
      constructor <;> simp [hparse, hbegins, hbreaks, hwhole]
    · have hparse : parse content
          = judge (declaredHeader content) (content.drop (headerStart + declared content)) := by
        rw [parse_eq, if_neg (not_not.2 hbegins), if_neg hbreaks]
      have hwhole : Whole content := ⟨hbegins, Nat.not_lt.1 hbreaks⟩
      have hshort : ¬content.length < headerStart := by omega
      refine ⟨?_, ?_, ?_, fun length => ?_, fun frame => ?_⟩
      · rw [hparse]
        exact iff_of_false judge_ne_badMagic (not_not.2 hbegins)
      · rw [hparse]
        exact iff_of_false judge_ne_truncated fun h => h.2.elim hshort hbreaks
      · rw [hparse, judge_eq_invalidHeader, and_iff_right hwhole]
      · rw [hparse, judge_eq_invalidNonce, and_iff_right hwhole]
      · rw [hparse, judge_eq_ok, and_iff_right hwhole]
  · have hparse : parse content = .error .badMagic := by rw [parse_eq, if_pos hbegins]
    have hwhole : ¬Whole content := fun h => hbegins h.1
    constructor <;> simp [hparse, hbegins, hwhole]

/-! ## Files that break off -/

/-- What is taken from a file that breaks off somewhere: nothing, if it breaks off before the header
ends, and otherwise what is taken from the whole file, with as much of the ciphertext as there is. -/
structure CutShort (headerBytes ciphertext : Bytes) : Prop where
  whole : ∀ {header}, Header.decode headerBytes = some header →
    header.nonce.length = nonceLength →
    parse (layOut headerBytes ciphertext) = .ok ⟨header, headerBytes, ciphertext⟩
  before : ∀ n < headerStart + headerBytes.length,
    parse ((layOut headerBytes ciphertext).take n) = .error .truncated
  behind : ∀ n, headerStart + headerBytes.length ≤ n →
    parse ((layOut headerBytes ciphertext).take n)
      = (parse (layOut headerBytes ciphertext)).map fun frame =>
        { frame with ciphertext := frame.ciphertext.take (n - (headerStart + headerBytes.length)) }

/-- However early a file breaks off, it starts as container files do. -/
lemma begins_take (headerBytes ciphertext : Bytes) (n : Nat) :
    Begins ((layOut headerBytes ciphertext).take n) := by
  have htaken : ((layOut headerBytes ciphertext).take n).length ≤ n := List.length_take_le ..
  rw [Begins, List.take_take, Nat.min_eq_left (Nat.le_trans (Nat.min_le_left ..) htaken)]
  generalize ((layOut headerBytes ciphertext).take n).length = taken
  simp only [layOut, List.append_assoc]
  exact List.take_append_of_le_length (Nat.min_le_right ..)

/-- A file that does not break off before the header starts has everything up to there. -/
lemma take_layOut_of_start {n : Nat} (hn : headerStart ≤ n) :
    (layOut headerBytes ciphertext).take n
      = magic ++ Bytes.ofUInt32 (UInt32.ofNat headerBytes.length)
        ++ (headerBytes ++ ciphertext).take (n - headerStart) := by
  rw [layOut, List.append_assoc, List.take_append, List.take_of_length_le hn]
  rfl

lemma take_layOut {n : Nat} (hn : headerStart + headerBytes.length ≤ n) :
    (layOut headerBytes ciphertext).take n
      = layOut headerBytes (ciphertext.take (n - (headerStart + headerBytes.length))) := by
  have hheader : headerBytes.length ≤ n - headerStart := by omega
  rw [take_layOut_of_start (Nat.le_of_add_right_le hn), List.take_append,
    List.take_of_length_le hheader, Nat.sub_sub, layOut, List.append_assoc _ headerBytes]

lemma declared_append {size rest : Bytes} (hsize : size.length = lengthField) :
    declared (magic ++ size ++ rest) = Bytes.littleEndian size := by
  rw [declared, List.append_assoc, List.drop_left, ← hsize, List.take_left]

/-- A file that breaks off before the header ends declares more than it has. -/
lemma parse_take_before (hlength : headerBytes.length < UInt32.size) {n : Nat}
    (hn : n < headerStart + headerBytes.length) :
    parse ((layOut headerBytes ciphertext).take n) = .error .truncated := by
  have htaken : ((layOut headerBytes ciphertext).take n).length ≤ n := List.length_take_le ..
  rw [(classified _).truncated]
  refine ⟨begins_take .., ?_⟩
  by_cases hstart : n < headerStart
  · exact Or.inl (Nat.lt_of_le_of_lt htaken hstart)
  · have hdeclared : declared ((layOut headerBytes ciphertext).take n) = headerBytes.length := by
      rw [take_layOut_of_start (Nat.not_lt.1 hstart), declared_append rfl,
        Bytes.littleEndian_ofUInt32, length_word hlength]
    exact Or.inr (hdeclared.symm ▸ Nat.lt_of_le_of_lt htaken hn)

theorem cutShort (hlength : headerBytes.length < UInt32.size) (ciphertext : Bytes) :
    CutShort headerBytes ciphertext := by
  have hparse : ∀ ciphertext : Bytes,
      parse (layOut headerBytes ciphertext) = judge headerBytes ciphertext :=
    fun _ => parse_isFile (isFile_layOut hlength)
  refine ⟨fun hheader hnonce => ?_, fun n hn => parse_take_before hlength hn, fun n hn => ?_⟩
  · rw [hparse, judge_eq_ok]
    exact ⟨rfl, rfl, hheader, hnonce⟩
  · rw [take_layOut hn, hparse, hparse, judge, judge]
    cases Header.decode headerBytes with
    | none => rfl
    | some header =>
        by_cases hnonce : header.nonce.length = nonceLength <;> simp [hnonce, Except.map]

/-- Every byte string is refused for one reason or taken apart, and a container file that was written
and breaks off is never taken for a foreign one. -/
theorem classified_and_cut :
    (∀ content, Classified content)
    ∧ ∀ {host host' path headerBytes ciphertext},
      write host path headerBytes ciphertext = .ok host' →
      host.replaceFile path (layOut headerBytes ciphertext) = .ok host'
        ∧ CutShort headerBytes ciphertext := by
  refine ⟨classified, fun h => ?_⟩
  obtain ⟨hlength, hreplace⟩ := write_ok h
  exact ⟨hreplace, cutShort hlength _⟩

theorem classified_and_cut_fullHeader :
    ∃ host host', write host "/box" fullHeader.encode [7, 0] = .ok host'
      ∧ CutShort fullHeader.encode [7, 0]
      ∧ Classified (magic.take 5) ∧ parse (magic.take 5) = .error .truncated
      ∧ Classified [80] ∧ parse [80] = .error .badMagic := by
  obtain ⟨host', hwrite⟩ : ∃ host',
      write (Host.bare ⟨4096, 0, 0, 0, 0, 255⟩ "/") "/box" fullHeader.encode [7, 0] = .ok host' :=
    exists_of_isOk (by decide +kernel)
  exact ⟨_, host', hwrite, (classified_and_cut.2 hwrite).2, classified_and_cut.1 _, rfl,
    classified_and_cut.1 _, rfl⟩

end Frame

end Strongbox
