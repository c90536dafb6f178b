import Mathlib.Data.String.Basic
import Strongbox.Proofs.Bytes.RoundTrip
import Strongbox.Proofs.Key.Descent

/-!
# The order of keys

A store keeps its keys in the order of their bytes, and finds the keys below another one by a scan:
it starts where their common beginning would stand and stops at the first key that begins otherwise.
In between stand keys of all depths, and right before them may stand siblings whose names go on with
a character smaller than the slash.

* **`Bytes.ofText_lt_iff`** — the order of texts is the order of their bytes.
* `Key.startsWith_of_between` — texts with a common beginning stand side by side.
* **`Key.scan_startsWith`** — the scan finds all of them and nothing else.
-/

namespace Strongbox

/-! ## Bytes -/

namespace Bytes

/-- Bytes are in order if the first of them are, or if these agree and the others are in order. -/
lemma cons_lt_cons {m n : Nat} (hn : n < 256) (h : m ≤ n) {rest rest' : Bytes}
    (hrest : m = n → rest < rest') : UInt8.ofNat m :: rest < UInt8.ofNat n :: rest' := by
  refine List.cons_lt_cons_iff.2 ?_
  rcases h.lt_or_eq with hlt | rfl
  · refine Or.inl (UInt8.lt_iff_toNat_lt.2 ?_)
    rw [UInt8.toNat_ofNat', UInt8.toNat_ofNat', Nat.mod_eq_of_lt hn,
      Nat.mod_eq_of_lt (hlt.trans hn)]
    exact hlt
  · exact Or.inr ⟨rfl, hrest rfl⟩

/-- The UTF-8 forms of two characters are in the order of their code points, and neither goes on
from the other. -/
lemma encodeChar_lt {c d : Char} (h : c < d) (rest rest' : Bytes) :
    String.utf8EncodeChar c ++ rest < String.utf8EncodeChar d ++ rest' := by
  have hlt : c.val.toNat < d.val.toNat := UInt32.lt_iff_toNat_lt.1 (Char.lt_def.1 h)
  have hlast : d.val.toNat < 0x110000 := by rcases d.valid with hd | hd <;> omega
  unfold String.utf8EncodeChar
  generalize c.val.toNat = m at *
  generalize d.val.toNat = n at *
  dsimp only
  -- a longer form has a greater first byte, and of two forms of one length some byte decides
  split_ifs <;> repeat' first
    | omega
    | refine cons_lt_cons (by omega) (by omega) fun _ => ?_

lemma nil_lt_encodeChar (c : Char) (rest : Bytes) : [] < String.utf8EncodeChar c ++ rest := by
  unfold String.utf8EncodeChar
  dsimp only
  split_ifs <;> exact List.nil_lt_cons _ _

lemma encode_lt {cs ds : List Char} (h : cs < ds) :
    cs.flatMap String.utf8EncodeChar < ds.flatMap String.utf8EncodeChar := by
  induction cs generalizing ds with
  | nil =>
      cases ds with
      | nil => exact absurd h (List.not_lt_nil _)
      | cons d ds => exact nil_lt_encodeChar d _
  | cons c cs ih =>
      cases ds with
      | nil => exact absurd h (List.not_lt_nil _)
      | cons d ds =>
          rw [List.flatMap_cons, List.flatMap_cons]
          rcases List.cons_lt_cons_iff.1 h with hlt | ⟨rfl, hrest⟩
          · exact encodeChar_lt hlt _ _
          · exact List.append_left_lt (ih hrest)

/-- The UTF-8 form of a text is made of those of its characters. -/
lemma ofText_eq_flatMap (text : String) :
    ofText text = text.toList.flatMap String.utf8EncodeChar := by
  rw [ofText_eq, String.toUTF8, ← String.utf8Encode_toList, List.utf8Encode,
    List.toList_data_toByteArray]

/-- **Texts are in the order of their bytes.** -/
theorem ofText_lt_iff {a b : String} : ofText a < ofText b ↔ a < b := by
  have hlt : ∀ {a b : String}, a < b → ofText a < ofText b := fun h => by
    rw [ofText_eq_flatMap, ofText_eq_flatMap]
    exact encode_lt (String.lt_iff_toList_lt.1 h)
  refine ⟨fun h => ?_, hlt⟩
  rcases lt_trichotomy a b with hab | rfl | hba
  · exact hab
  · exact absurd h (List.lt_irrefl _)
  · exact absurd h (List.lt_asymm (hlt hba))

end Bytes

/-! ## Keys with a common start -/

namespace Key

lemma startsWith_eq_true {text start : String} :
    startsWith text start = true ↔ start.toList <+: text.toList := by
  rw [startsWith, List.isPrefixOf_iff_prefix]

/-- A text comes after its beginnings. -/
lemma not_lt_of_startsWith {text start : String} (h : startsWith text start = true) :
    ¬ text < start := by
  obtain ⟨rest, hrest⟩ := startsWith_eq_true.1 h
  rw [String.lt_iff_toList_lt, ← hrest, List.not_lt]
  exact List.le_append_left

/-- What stands between a list and one that goes on from it goes on from it too. -/
lemma prefix_of_between {start key rest : List Char} (hstart : ¬ key < start)
    (hlast : key < start ++ rest) : start <+: key := by
  induction start generalizing key with
  | nil => exact List.nil_prefix
  | cons c start ih =>
      cases key with
      | nil => exact absurd (List.nil_lt_cons _ _) hstart
      | cons d key =>
          rw [List.cons_lt_cons_iff, not_or] at hstart
          rcases List.cons_lt_cons_iff.1 hlast with hd | ⟨rfl, htail⟩
          · exact absurd hd hstart.1
          · exact List.cons_prefix_cons.2 ⟨rfl, ih (fun hk => hstart.2 ⟨rfl, hk⟩) htail⟩

/-- Texts with a common beginning have no other text between them. -/
lemma startsWith_of_between {start first last : String} (hstart : ¬ first < start)
    (hlast : first < last) (h : startsWith last start = true) : startsWith first start = true := by
  rw [startsWith_eq_true] at h ⊢
  obtain ⟨rest, hrest⟩ := h
  rw [String.lt_iff_toList_lt] at hstart hlast
  exact prefix_of_between hstart (hrest ▸ hlast)

lemma takeWhile_startsWith {start : String} {keys : List String} (hsorted : keys.Pairwise (· < ·))
    (hstart : ∀ key ∈ keys, ¬ key < start) :
    keys.takeWhile (startsWith · start) = keys.filter (startsWith · start) := by
  induction keys with
  | nil => rfl
  | cons key keys ih =>
      rw [List.pairwise_cons] at hsorted
      rw [List.forall_mem_cons] at hstart
      cases hkey : startsWith key start with
      | true =>
          simp only [List.takeWhile_cons, List.filter_cons, hkey, if_true, ih hsorted.2 hstart.2]
      | false =>
          -- whatever comes later starts otherwise too
          have hnone : ∀ later ∈ keys, ¬ startsWith later start = true := fun later hlater h =>
            absurd (startsWith_of_between hstart.1 (hsorted.1 later hlater) h) (by simp [hkey])
          simp only [List.takeWhile_cons, List.filter_cons, hkey, Bool.false_eq_true, if_false,
            List.filter_eq_nil_iff.2 hnone]

/-- Keys in order are found by their beginning in one scan, which starts where the beginning would
stand and stops at the first key without it. -/
theorem scan_startsWith {start : String} {keys : List String} (hsorted : keys.Pairwise (· < ·)) :
    (keys.dropWhile (· < start)).takeWhile (startsWith · start)
      = keys.filter (startsWith · start) := by
  induction keys with
  | nil => rfl
  | cons key keys ih =>
      by_cases hkey : key < start
      · have hother : ¬ startsWith key start = true := fun h => not_lt_of_startsWith h hkey
        simp only [List.dropWhile_cons, hkey, decide_true, if_true, List.filter_cons, hother,
          Bool.false_eq_true, if_false, ih (List.pairwise_cons.1 hsorted).2]
      · rw [List.dropWhile_cons_of_neg (by simpa using hkey)]
        refine takeWhile_startsWith hsorted (List.forall_mem_cons.2 ⟨hkey, ?_⟩)
        intro later hlater h
        exact hkey (((List.pairwise_cons.1 hsorted).1 later hlater).trans h)

/-- Behind a common beginning texts are in the order of what follows it. -/
lemma append_lt_append {start a b : String} : start ++ a < start ++ b ↔ a < b := by
  rw [String.lt_iff_toList_lt, String.lt_iff_toList_lt, String.toList_append, String.toList_append]
  induction start.toList with
  | nil => rfl
  | cons c cs ih => rw [List.cons_append, List.cons_append, List.cons_lt_cons_self, ih]

/-- The keys in a directory are in the order of their names. -/
lemma child_lt_child {directory a b : String} : child directory a < child directory b ↔ a < b :=
  append_lt_append

end Key
end Strongbox
