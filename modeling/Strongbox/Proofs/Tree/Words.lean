import Strongbox.Proofs.Tree.Contents

/-!
# File contents in machine words

The store counts bytes in machine words.  A sum that does not fit into a word, a difference below
zero, and an index outside of what it points into would all stop the program.  Here the work on the
data of a file is done in such words, and there is no outcome where one of these happens.

* `Words.add?`, `Words.sub?`, `Words.slice?` and `Words.copy?` — the steps that can go wrong.
* `Words.read?`, `Words.write?` and `Words.truncate?` — what a call does with the data of a file.
* **`Words.read?_eq`**, **`Words.write?_eq`** and **`Words.truncate?_eq`** — none of them goes
  wrong, and each amounts to what the same call does with numbers that have no bound.
-/

namespace Strongbox

/-- Bytes that a program has in memory.  Their number is a machine word. -/
structure Buffer where
  bytes : Bytes
  fits : bytes.length < UInt64.size := by decide

namespace Words

/-! ## Steps that can go wrong -/

/-- The sum of two words, if it is a word. -/
def add? (a b : UInt64) : Option UInt64 :=
  if a.toNat + b.toNat < UInt64.size then some (a + b) else none

/-- The difference of two words, if it is not below zero. -/
def sub? (a b : UInt64) : Option UInt64 :=
  if b ≤ a then some (a - b) else none

/-- The number of some bytes. -/
def size (data : Bytes) : UInt64 :=
  .ofNat data.length

/-- The bytes between two places, if both are places in the data, in this order. -/
def slice? (data : Bytes) (start stop : UInt64) : Option Bytes :=
  if start ≤ stop ∧ stop ≤ size data then some ((data.take stop.toNat).drop start.toNat) else none

/-- The data with other bytes in place of those between two places, if they are as many. -/
def copy? (data : Bytes) (start stop : UInt64) (bytes : Bytes) : Option Bytes := do
  let place ← slice? data start stop
  if place.length = bytes.length then
    some (data.take start.toNat ++ bytes ++ data.drop stop.toNat)
  else none

section Steps

variable {a b : UInt64} {data : Bytes}

lemma toNat_size (h : data.length < UInt64.size) : (size data).toNat = data.length :=
  UInt64.toNat_ofNat_of_lt' h

lemma exists_add? (h : a.toNat + b.toNat < UInt64.size) :
    ∃ c, add? a b = some c ∧ c.toNat = a.toNat + b.toNat :=
  ⟨a + b, if_pos h, (UInt64.toNat_add a b).trans (Nat.mod_eq_of_lt h)⟩

lemma exists_sub? (h : b.toNat ≤ a.toNat) :
    ∃ c, sub? a b = some c ∧ c.toNat = a.toNat - b.toNat :=
  have hle : b ≤ a := UInt64.le_iff_toNat_le.2 h
  ⟨a - b, if_pos hle, UInt64.toNat_sub_of_le a b hle⟩

variable (hdata : data.length < UInt64.size)

include hdata

lemma slice?_eq (start stop : UInt64) (horder : start.toNat ≤ stop.toNat)
    (hstop : stop.toNat ≤ data.length) :
    slice? data start stop = some ((data.drop start.toNat).take (stop.toNat - start.toNat)) := by
  rw [← toNat_size hdata] at hstop
  rw [slice?, if_pos ⟨UInt64.le_iff_toNat_le.2 horder, UInt64.le_iff_toNat_le.2 hstop⟩,
    List.drop_take]

lemma copy?_eq (start stop : UInt64) (bytes : Bytes) (hstop : stop.toNat ≤ data.length)
    (hlength : start.toNat + bytes.length = stop.toNat) :
    copy? data start stop bytes
      = some (data.take start.toNat ++ bytes ++ data.drop stop.toNat) := by
  have hplace : ((data.drop start.toNat).take (stop.toNat - start.toNat)).length
      = bytes.length := by
    rw [List.length_take, List.length_drop]
    omega
  rw [copy?, slice?_eq hdata start stop (by omega) hstop]
  exact if_pos hplace

end Steps

/-! ## The calls -/

/-- The data with zeros behind it up to a length. -/
def grow? (data : Bytes) (length : UInt64) : Option Bytes :=
  if size data < length then do
    some (data ++ List.replicate (← sub? length (size data)).toNat 0)
  else some data

/-- What a buffer gets of a file from an offset on. -/
def read? (data : Bytes) (buffer : Buffer) (offset : UInt64) : Option (Except Errno Bytes) :=
  if buffer.bytes = [] then some (.ok [])
  else if size data ≤ offset then some (.error .ioFailure)
  else do
    let count := min (size buffer.bytes) (← sub? (size data) offset)
    let found ← slice? data offset (← add? offset count)
    let filled ← copy? buffer.bytes 0 count found
    some (.ok (filled.take count.toNat))

/-- The data with a buffer put into it, within the size that the store allows. -/
def write? (data : Bytes) (buffer : Buffer) (offset : UInt64) : Option (Except Errno Bytes) :=
  match (add? offset (size buffer.bytes)).filter (·.toNat ≤ maxFileSize) with
  | none => some (.error .tooBig)
  | some stop => do
    let start ← sub? stop (size buffer.bytes)
    some (.ok (← copy? (← grow? data stop) start stop buffer.bytes))

/-- The data cut to a length, or with zeros behind it up to that. -/
def truncate? (data : Bytes) (length : UInt64) : Option (Except Errno Bytes) :=
  if maxFileSize < length.toNat then some (.error .tooBig)
  else if size data < length then do some (.ok (← grow? data length))
  else some (.ok (data.take length.toNat))

section Calls

variable {data : Bytes} (hdata : data.length < UInt64.size)

include hdata

lemma grow?_eq (length : UInt64) : grow? data length = some (Tree.extend data length.toNat) := by
  by_cases hlt : data.length < length.toNat
  · obtain ⟨gap, hgap, hsize⟩ := exists_sub? (a := length) (b := size data)
      (by rw [toNat_size hdata]; exact hlt.le)
    rw [toNat_size hdata] at hsize
    rw [grow?, if_pos (UInt64.lt_iff_toNat_lt.2 (by rwa [toNat_size hdata])), hgap, Tree.extend,
      ← hsize]
    rfl
  · rw [grow?, if_neg (fun h => hlt (by rwa [UInt64.lt_iff_toNat_lt, toNat_size hdata] at h)),
      Tree.extend, Nat.sub_eq_zero_of_le (not_lt.1 hlt), List.replicate_zero, List.append_nil]

/-- A read ends with the data or with the buffer, whichever is first. -/
theorem read?_eq (buffer : Buffer) (offset : UInt64) :
    read? data buffer offset = some (if buffer.bytes.length = 0 then .ok []
      else if data.length ≤ offset.toNat then .error .ioFailure
      else .ok ((data.drop offset.toNat).take buffer.bytes.length)) := by
  simp only [read?, UInt64.le_iff_toNat_le, toNat_size hdata, List.length_eq_zero_iff]
  split
  · rfl
  split
  · rfl
  next hlt =>
  rw [not_le] at hlt
  obtain ⟨rest, hrest, hrestSize⟩ := exists_sub? (a := size data) (b := offset)
    (by rw [toNat_size hdata]; exact hlt.le)
  rw [toNat_size hdata] at hrestSize
  set count := min (size buffer.bytes) rest with hcount
  have hcountSize : count.toNat = min buffer.bytes.length (data.length - offset.toNat) := by
    rw [hcount, UInt64.toNat_min, toNat_size buffer.fits, hrestSize]
  obtain ⟨stop, hstop, hstopSize⟩ := exists_add? (a := offset) (b := count) (by omega)
  have hfound := slice?_eq hdata offset stop (by omega) (by omega)
  rw [hstopSize, Nat.add_sub_cancel_left] at hfound
  have hlength : ((data.drop offset.toNat).take count.toNat).length = count.toNat := by
    rw [List.length_take, List.length_drop]
    omega
  have hfilled := copy?_eq buffer.fits 0 count ((data.drop offset.toNat).take count.toNat)
    (by omega) (by rw [hlength]; exact Nat.zero_add _)
  have htaken : (buffer.bytes.take (0 : UInt64).toNat ++ (data.drop offset.toNat).take count.toNat
      ++ buffer.bytes.drop count.toNat).take count.toNat
      = (data.drop offset.toNat).take buffer.bytes.length := by
    rw [UInt64.toNat_zero, List.take_zero, List.nil_append, List.take_left' hlength, hcountSize,
      ← List.length_drop, ← List.take_eq_take_min]
  rw [hrest]
  simp only [Option.bind_eq_bind, Option.bind_some, ← hcount, hstop, hfound, hfilled, htaken]

/-- The end of a write is a word, or beyond every size that the store allows. -/
theorem write?_eq (buffer : Buffer) (offset : UInt64) :
    write? data buffer offset = some (if maxFileSize < offset.toNat + buffer.bytes.length
      then .error .tooBig else .ok (Tree.overwritten data buffer.bytes offset.toNat)) := by
  have hsize := toNat_size buffer.fits
  have hlarge : maxFileSize < UInt64.size := by decide
  by_cases hfits : maxFileSize < offset.toNat + buffer.bytes.length
  · have hnone : (add? offset (size buffer.bytes)).filter (·.toNat ≤ maxFileSize) = none := by
      by_cases hword : offset.toNat + (size buffer.bytes).toNat < UInt64.size
      · obtain ⟨stop, hstop, hstopSize⟩ := exists_add? hword
        rw [hstop, Option.filter_some, if_neg]
        rw [decide_eq_true_eq]
        omega
      · rw [add?, if_neg hword, Option.filter_none]
    rw [write?, hnone, if_pos hfits]
  · obtain ⟨stop, hstop, hstopSize⟩ := exists_add? (a := offset) (b := size buffer.bytes) (by omega)
    have hsome : (add? offset (size buffer.bytes)).filter (·.toNat ≤ maxFileSize) = some stop := by
      rw [hstop, Option.filter_some, if_pos]
      rw [decide_eq_true_eq]
      omega
    obtain ⟨start, hstart, hstartSize⟩ := exists_sub? (a := stop) (b := size buffer.bytes)
      (by omega)
    rw [hsize] at hstopSize hstartSize
    have hbegin : start.toNat = offset.toNat := by omega
    have hgrown := Tree.length_extend data stop.toNat
    have hcopied := copy?_eq (show (Tree.extend data stop.toNat).length < UInt64.size by omega)
      start stop buffer.bytes (by omega) (by omega)
    rw [hbegin, hstopSize] at hcopied
    rw [write?, hsome, if_neg hfits, ← Tree.splice_eq, Tree.splice]
    simp only [Option.bind_eq_bind, hstart, Option.bind_some, grow?_eq hdata, hstopSize, hcopied]

theorem truncate?_eq (length : UInt64) :
    truncate? data length = some (if maxFileSize < length.toNat then .error .tooBig
      else .ok (Tree.resized data length.toNat)) := by
  simp only [truncate?, UInt64.lt_iff_toNat_lt, toNat_size hdata, grow?_eq hdata]
  split
  · rfl
  split
  · next hlt =>
      have hwhole : data.take length.toNat = data := List.take_of_length_le hlt.le
      rw [Tree.resized, hwhole]
      rfl
  · next hle =>
      rw [Tree.resized, Nat.sub_eq_zero_of_le (not_lt.1 hle), List.replicate_zero,
        List.append_nil]

end Calls

end Words

end Strongbox
