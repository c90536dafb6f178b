import Strongbox.Proofs.Tree.Epoch

/-!
# Trees that payloads give back

A tree whose numbers are machine words is written and read again as the same tree, whatever its keys,
its targets and its bytes are, unless some time in it lies before the epoch: then there is nothing to
read.  A reader gives no other trees, so these are all the trees that payloads stand for.

* `Tree.Storable.of_decode` — no payload, whoever wrote it, gives a number that is no machine word.
* **`Tree.readBack_of_storable`** — which trees are written, and what is read back.
* **`Tree.exists_decode_iff`** — the trees that payloads stand for, whoever wrote them.
-/

namespace Strongbox

/-! ## Reading a payload -/

/-- A number that is read is below the bound it is read with. -/
lemma Json.lt_of_nat? {bound n : Nat} {json : Json} (h : json.nat? bound = some n) : n < bound := by
  cases json with
  | number token => exact of_decide_eq_true (Option.filter_eq_some_iff.1 h).2
  | _ => cases h

lemma Time.le_lastSecond_of_ofJson? {json : Json} {time : Time} (h : Time.ofJson? json = some time) :
    time.seconds ≤ Time.lastSecond := by
  obtain ⟨fields, -, h⟩ := Option.bind_eq_some_iff.1 h
  split at h
  · obtain ⟨seconds, -, h⟩ := Option.bind_eq_some_iff.1 h
    obtain ⟨nanos, -, h⟩ := Option.bind_eq_some_iff.1 h
    dsimp only at h
    split at h
    · next hlast => exact Option.some.inj h ▸ hlast
    · cases h
  · cases h

lemma Inode.Storable.of_ofJson? {json : Json} {inode : Inode}
    (h : Inode.ofJson? json = some inode) : inode.Storable := by
  obtain ⟨fields, -, h⟩ := Option.bind_eq_some_iff.1 h
  split at h
  · obtain ⟨kind, -, h⟩ := Option.bind_eq_some_iff.1 h
    obtain ⟨perm, hperm, h⟩ := Option.bind_eq_some_iff.1 h
    obtain ⟨uid, huid, h⟩ := Option.bind_eq_some_iff.1 h
    obtain ⟨gid, hgid, h⟩ := Option.bind_eq_some_iff.1 h
    obtain ⟨nlink, hnlink, h⟩ := Option.bind_eq_some_iff.1 h
    obtain ⟨atime, hatime, h⟩ := Option.bind_eq_some_iff.1 h
    obtain ⟨mtime, hmtime, h⟩ := Option.bind_eq_some_iff.1 h
    obtain ⟨ctime, hctime, h⟩ := Option.bind_eq_some_iff.1 h
    obtain rfl := Option.some.inj h
    exact ⟨Json.lt_of_nat? hperm, Json.lt_of_nat? huid, Json.lt_of_nat? hgid,
      Json.lt_of_nat? hnlink, Time.le_lastSecond_of_ofJson? hatime,
      Time.le_lastSecond_of_ofJson? hmtime, Time.le_lastSecond_of_ofJson? hctime⟩
  · cases h

namespace Tree

variable {t : Tree} {payload : Bytes}

lemma lt_of_entriesOfJson? {json : Json} {entries : Std.ExtTreeMap String Nat}
    (h : entriesOfJson? json = some entries) :
    ∀ {key : String} {ino : Nat}, entries[key]? = some ino → ino < UInt64.size := by
  unfold entriesOfJson? at h
  split at h
  · refine foldlM_keeps
      (P := fun map => ∀ {key : String} {ino : Nat}, map[key]? = some ino → ino < UInt64.size)
      ?_ (fun hnone => by simp at hnone) h
    intro done field next hdone hnext key ino hi
    obtain ⟨text, -, hnext⟩ := Option.bind_eq_some_iff.1 hnext
    obtain ⟨number, hnumber, hnext⟩ := Option.bind_eq_some_iff.1 hnext
    obtain rfl := Option.some.inj hnext
    rw [getElem?_insert_eq] at hi
    split at hi
    · exact Option.some.inj hi ▸ Json.lt_of_nat? hnumber
    · exact hdone hi
  · cases h

lemma storable_of_inodesOfJson? {json : Json} {inodes : Std.ExtTreeMap Nat Inode}
    (h : inodesOfJson? json = some inodes) :
    ∀ {ino : Nat} {inode : Inode}, inodes[ino]? = some inode → ino < UInt64.size ∧ inode.Storable := by
  unfold inodesOfJson? at h
  split at h
  · refine foldlM_keeps
      (P := fun map => ∀ {ino : Nat} {inode : Inode}, map[ino]? = some inode →
        ino < UInt64.size ∧ inode.Storable)
      ?_ (fun hnone => by simp at hnone) h
    intro done field next hdone hnext ino inode hi
    obtain ⟨number, hnumber, hnext⟩ := Option.bind_eq_some_iff.1 hnext
    obtain ⟨read, hread, hnext⟩ := Option.bind_eq_some_iff.1 hnext
    obtain rfl := Option.some.inj hnext
    have hlt : number < UInt64.size := of_decide_eq_true (Option.filter_eq_some_iff.1 hnumber).2
    rw [getElem?_insert_eq] at hi
    split at hi
    · next he => exact ⟨he ▸ hlt, Option.some.inj hi ▸ .of_ofJson? hread⟩
    · exact hdone hi
  · cases h

/-- Every number that a payload gives is a machine word, and every time one that a machine can
hold. -/
theorem Storable.of_decode (h : decode payload = some t) : t.Storable := by
  obtain ⟨json, -, h⟩ := Option.bind_eq_some_iff.1 h
  obtain ⟨fields, -, h⟩ := Option.bind_eq_some_iff.1 h
  split at h
  · obtain ⟨entries, hentries, h⟩ := Option.bind_eq_some_iff.1 h
    obtain ⟨inodes, hinodes, h⟩ := Option.bind_eq_some_iff.1 h
    obtain ⟨nextIno, hnext, h⟩ := Option.bind_eq_some_iff.1 h
    obtain rfl := Option.some.inj h
    exact ⟨lt_of_entriesOfJson? hentries, fun hi => (storable_of_inodesOfJson? hinodes hi).1,
      fun hi => (storable_of_inodesOfJson? hinodes hi).2, Json.lt_of_nat? hnext⟩
  · cases h

/-! ## Written and read -/

/-- Some time in a tree lies before the epoch. -/
def HoldsEarlier (t : Tree) : Prop :=
  ∃ (ino : Nat) (inode : Inode), t.inodes[ino]? = some inode
    ∧ (inode.atime.beforeEpoch = true ∨ inode.mtime.beforeEpoch = true
      ∨ inode.ctime.beforeEpoch = true)

lemma holdsEarlier_iff : t.HoldsEarlier ↔ ¬t.SinceEpoch := by
  constructor
  · rintro ⟨ino, inode, hi, hearlier⟩ h
    obtain ⟨hatime, hmtime, hctime⟩ := h.inode hi
    simp [hatime, hmtime, hctime] at hearlier
  · intro h
    by_contra hnone
    refine h ⟨fun {ino inode} hi => ?_⟩
    have hnot : ¬(inode.atime.beforeEpoch = true ∨ inode.mtime.beforeEpoch = true
        ∨ inode.ctime.beforeEpoch = true) := fun hearlier => hnone ⟨ino, inode, hi, hearlier⟩
    simpa [Inode.SinceEpoch] using hnot

lemma encode_eq_none_iff : t.encode = none ↔ t.HoldsEarlier := by
  rw [holdsEarlier_iff, sinceEpoch_iff, encode]
  split
  · next htimes => simp [htimes]
  · next htimes => simp [htimes]

/-- A tree is written and read back as it was, unless some time in it lies before the epoch: then,
and only then, it is not written. -/
theorem readBack_of_storable (h : t.Storable) :
    (¬t.HoldsEarlier → ∃ payload, t.encode = some payload ∧ decode payload = some t)
    ∧ (t.encode = none ↔ t.HoldsEarlier) := by
  refine ⟨fun hnone => ?_, encode_eq_none_iff⟩
  have hsince : t.SinceEpoch := by
    rw [holdsEarlier_iff] at hnone
    exact not_not.1 hnone
  obtain ⟨payload, hp⟩ := exists_encode hsince
  exact ⟨payload, hp, decode_of_encode h hp⟩

/-- Keys and a target of quotes, backslashes, control characters and characters of several bytes, the
largest numbers, bytes of which the text form is padded, and the last moment that a time can be. -/
def awkward : Tree where
  entries := ((((∅ : Std.ExtTreeMap String Nat).insert "/" 1).insert "/\x22\\\x00\n" 2).insert
    "/é\u20ac😀" 18446744073709551615).insert "" 0
  inodes := (((∅ : Std.ExtTreeMap Nat Inode).insert 1
      ⟨.directory, 0o755, 1000, 1000, 1, .epoch, .epoch, .epoch⟩).insert 2
      ⟨.file [0, 255, 34, 92], 4294967295, 4294967295, 4294967295, 4294967295,
        .ofParts 9223372036854775807 999999999, .ofParts 0 999999999, .ofParts 1 0⟩).insert
      18446744073709551615
      ⟨.symlink "\x1f\x22\x7d", 0o777, 0, 0, 0, .epoch, .epoch, .epoch⟩
  nextIno := 18446744073709551615

/-- The same tree with a directory that was changed a nanosecond before the epoch. -/
def earlier : Tree :=
  { awkward with
    inodes := awkward.inodes.insert 3
      ⟨.directory, 0o755, 1000, 1000, 1, .epoch, .ofParts (-1) 999999999, .epoch⟩ }

theorem readBack_awkward :
    (awkward.Storable ∧ ∃ payload, awkward.encode = some payload ∧ decode payload = some awkward)
    ∧ earlier.Storable ∧ earlier.encode = none := by
  have h : awkward.Storable := by decide +kernel
  have hsince : ¬awkward.HoldsEarlier := fun hearlier =>
    holdsEarlier_iff.1 hearlier (by decide +kernel)
  have he : earlier.Storable := by decide +kernel
  have hearlier : earlier.HoldsEarlier := holdsEarlier_iff.2 (by decide +kernel)
  exact ⟨⟨h, (readBack_of_storable h).1 hsince⟩, he, (readBack_of_storable he).2.2 hearlier⟩

/-- The trees that payloads stand for are those of machine words with no time before the epoch. -/
theorem exists_decode_iff : (∃ payload, decode payload = some t) ↔ t.Storable ∧ t.SinceEpoch := by
  constructor
  · rintro ⟨payload, h⟩
    exact ⟨.of_decode h, .of_decode h⟩
  · rintro ⟨h, hsince⟩
    obtain ⟨payload, hp⟩ := exists_encode hsince
    exact ⟨payload, decode_of_encode h hp⟩

end Tree

end Strongbox
