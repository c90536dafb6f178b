import Strongbox.Container.Frame
import Strongbox.Proofs.Bytes.RoundTrip
import Strongbox.Proofs.Container.Header
import Strongbox.Proofs.Host.Replace

/-!
# Container files written and read back

The parts of a container file are found again where they were put: the length in front of the header
tells where the header ends, and everything behind it is the ciphertext.

* `Frame.parse_layOut` — the header, its bytes and the ciphertext of a file that was laid out.
* `Frame.parse_ok` — no other file has these parts.
* **`Frame.read_write`** — a container file that was written is read back from the host.
-/

namespace Strongbox.Frame

variable {header : Header} {headerBytes ciphertext : Bytes}

lemma length_layOut (headerBytes ciphertext : Bytes) :
    (layOut headerBytes ciphertext).length = 12 + headerBytes.length + ciphertext.length := by
  simp only [layOut, List.length_append]
  rfl

/-- The length in front of a header is the length of the header. -/
lemma length_word (h : headerBytes.length < UInt32.size) :
    (UInt32.ofNat headerBytes.length).toNat = headerBytes.length :=
  Nat.mod_eq_of_lt h

lemma parseBody_eq (hlength : headerBytes.length < UInt32.size)
    (hdecode : Header.decode headerBytes = some header) {n : Nonce}
    (hnonce : nonce header = .ok n) :
    parseBody (Bytes.ofUInt32 (UInt32.ofNat headerBytes.length) ++ headerBytes ++ ciphertext)
      = .ok ⟨header, headerBytes, ciphertext⟩ := by
  simp only [Bytes.ofUInt32, List.cons_append, List.nil_append, parseBody, Bytes.toUInt32_bytes,
    length_word hlength]
  rw [if_neg (by simp), List.take_left, List.drop_left, hdecode]
  simp only [hnonce]
  rfl

/-- A container file that was laid out is taken apart into its parts. -/
theorem parse_layOut (hlength : headerBytes.length < UInt32.size)
    (hdecode : Header.decode headerBytes = some header) {n : Nonce}
    (hnonce : nonce header = .ok n) :
    parse (layOut headerBytes ciphertext) = .ok ⟨header, headerBytes, ciphertext⟩ := by
  have hmagic : layOut headerBytes ciphertext = magic
      ++ (Bytes.ofUInt32 (UInt32.ofNat headerBytes.length) ++ headerBytes ++ ciphertext) := by
    simp only [layOut, List.append_assoc]
  have hlong : ¬(layOut headerBytes ciphertext).length < magic.length + lengthField := by
    rw [length_layOut]
    show ¬12 + headerBytes.length + ciphertext.length < 12
    omega
  rw [parse, if_neg hlong, hmagic, if_pos List.take_left, List.drop_left]
  exact parseBody_eq hlength hdecode hnonce

/-! ## Taking a file apart -/

lemma parseBody_ok {body : Bytes} {frame : Frame} (h : parseBody body = .ok frame) :
    Bytes.ofUInt32 (UInt32.ofNat frame.headerBytes.length) ++ frame.headerBytes ++ frame.ciphertext
        = body
      ∧ frame.headerBytes.length < UInt32.size
      ∧ Header.decode frame.headerBytes = some frame.header
      ∧ ∃ n, nonce frame.header = .ok n := by
  match body with
  | b₀ :: b₁ :: b₂ :: b₃ :: rest =>
      rw [parseBody] at h
      dsimp only at h
      split at h
      · cases h
      · next hlong =>
          split at h
          · next header hheader =>
              obtain ⟨n, hn, h⟩ := bind_eq_ok.1 h
              obtain rfl := Except.ok.inj h
              rw [Nat.not_lt] at hlong
              have hlength := List.length_take_of_le hlong
              refine ⟨?_, lt_of_eq_of_lt hlength (UInt32.toNat_lt _), hheader, n, hn⟩
              rw [hlength, UInt32.ofNat_toNat, Bytes.ofUInt32_toUInt32, List.append_assoc,
                List.take_append_drop]
              rfl
          · cases h
  | [] | [_] | [_, _] | [_, _, _] => cases h

/-- A file that can be taken apart is what its parts are laid out to, byte for byte, so there is no
second file with the same parts. -/
theorem parse_ok {content : Bytes} {frame : Frame} (h : parse content = .ok frame) :
    layOut frame.headerBytes frame.ciphertext = content
      ∧ frame.headerBytes.length < UInt32.size
      ∧ Header.decode frame.headerBytes = some frame.header
      ∧ ∃ n, nonce frame.header = .ok n := by
  unfold parse at h
  split at h
  · split at h <;> cases h
  · split at h
    · next hmagic =>
        obtain ⟨hbody, hrest⟩ := parseBody_ok h
        refine ⟨?_, hrest⟩
        rw [← List.take_append_drop magic.length content, hmagic, ← hbody]
        simp only [layOut, List.append_assoc]
    · cases h

/-! ## Reading and writing -/

/-- There is no container yet where there is no file, or an empty one. -/
lemma read_eq_none {host : Host} {path : String} : read host path = .ok none
    ↔ host.read path = .error (.os .noEntry) ∨ host.read path = .ok [] := by
  unfold read
  cases hread : host.read path with
  | error e =>
      cases e with
      | os code => by_cases hcode : code = .noEntry <;> simp [hcode]
      | nulInPath | emptyPath => simp
  | ok content =>
      cases content with
      | nil => simp
      | cons b rest => cases hparse : parse (b :: rest) <;> simp [hparse, Except.map]

/-- A container file is read by taking it apart. -/
lemma read_eq_some {host : Host} {path : String} {frame : Frame} :
    read host path = .ok (some frame)
      ↔ ∃ content, host.read path = .ok content ∧ parse content = .ok frame := by
  unfold read
  cases hread : host.read path with
  | error e =>
      cases e with
      | os code => by_cases hcode : code = .noEntry <;> simp [hcode]
      | nulInPath | emptyPath => simp
  | ok content =>
      cases content with
      | nil => simp [parse, magic, lengthField]
      | cons b rest => cases hparse : parse (b :: rest) <;> simp [hparse, Except.map]

/-- A container file is written whole, behind a header whose length is a 32-bit number. -/
lemma write_ok {host host' : Host} {path : String}
    (h : write host path headerBytes ciphertext = .ok host') :
    headerBytes.length < UInt32.size
      ∧ host.replaceFile path (layOut headerBytes ciphertext) = .ok host' := by
  unfold write at h
  split at h
  · cases h
  · next hlength => exact ⟨Nat.not_le.1 hlength, mapError_eq_ok.1 h⟩

/-- A container file that was written at a cleaned path is read back from there. -/
theorem read_write {host host' : Host} {path : String} (hclean : HostPath.Cleaned path)
    (hlimit : path.utf8ByteSize ≤ Host.pathLimit)
    (hdecode : Header.decode headerBytes = some header) {n : Nonce} (hnonce : nonce header = .ok n)
    (h : write host path headerBytes ciphertext = .ok host') :
    read host' path = .ok (some ⟨header, headerBytes, ciphertext⟩) := by
  obtain ⟨hlength, hreplace⟩ := write_ok h
  have hparse : parse (layOut headerBytes ciphertext) = .ok ⟨header, headerBytes, ciphertext⟩ :=
    parse_layOut hlength hdecode hnonce
  -- the file is not empty, as it starts with the magic
  obtain ⟨first, rest, hcons⟩ : ∃ first rest, layOut headerBytes ciphertext = first :: rest :=
    ⟨79, _, rfl⟩
  rw [read, Host.read_replaceFile hclean hlimit hreplace, hcons]
  rw [hcons] at hparse
  simp only [hparse]
  rfl

end Strongbox.Frame
