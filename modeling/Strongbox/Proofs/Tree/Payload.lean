import Strongbox.Proofs.Json.Record
import Strongbox.Proofs.Tree.Lookup
import Strongbox.Tree.Payload

/-!
# Payloads written and read back

The payload of a tree gives the tree back, with every key, every inode, every byte and every time of
it.  The reader refuses numbers that no machine word holds, so the numbers of the tree have to be
such; `Tree.Storable` says so.

* `Time.ofJson?_toJson`, `NodeKind.ofJson?_toJson`, `Inode.ofJson?_toJson` — the parts of a tree.
* `foldlM_toList` — a map is put together again from its entries.
* **`Tree.decode_of_encode`** — the whole tree.
-/

namespace Strongbox

open Json

/-! ## Times -/

namespace Time

/-- The names of the fields of a time. -/
def fieldNames : List String :=
  ["secs_since_epoch", "nanos_since_epoch"]

lemma plain_fieldNames : ∀ name ∈ fieldNames, IsPlainText name := by decide

lemma toJson_eq (t : Time) : t.toJson = written
    [("secs_since_epoch", .ofNat t.seconds.toNat), ("nanos_since_epoch", .ofNat t.nanos)] := rfl

lemma proper_toJson (t : Time) : Proper t.toJson := by
  rw [toJson_eq]
  refine proper_written fieldNames rfl plain_fieldNames ?_
  simp [Json.ofNat, Proper, isDecimal_decimal]

/-- A time from the epoch on is read back. -/
lemma ofJson?_toJson {t : Time} (hpast : t.beforeEpoch = false) (hlast : t.seconds ≤ lastSecond) :
    ofJson? t.toJson = some t := by
  have hnonneg : 0 ≤ t.seconds := by
    rw [beforeEpoch, decide_eq_false_iff_not] at hpast
    omega
  have hseconds : t.seconds.toNat < UInt64.size := by
    have : lastSecond < UInt64.size := by decide
    omega
  have hnanos : t.nanos.val < UInt32.size :=
    Nat.lt_trans t.nanos.isLt (by decide)
  have hparts : ofParts t.seconds.toNat t.nanos = t := by
    obtain ⟨seconds, nanos, hn⟩ := t
    have hcarry : nanos / 1000000000 = 0 := Nat.div_eq_of_lt hn
    simp only [ofParts, Time.mk.injEq]
    refine ⟨?_, Fin.ext (Nat.mod_eq_of_lt hn)⟩
    rw [hcarry, Int.toNat_of_nonneg hnonneg]
    simp
  have hrecord : record? .refused fieldNames t.toJson
      = some [some (.ofNat t.seconds.toNat), some (.ofNat t.nanos)] := by
    rw [toJson_eq]
    exact record?_written .refused fieldNames rfl plain_fieldNames (by decide) fun _ h => h
  rw [fieldNames] at hrecord
  simp only [ofJson?, hrecord, Option.bind_eq_bind, Option.bind_some, nat?_ofNat hseconds,
    nat?_ofNat hnanos, hparts, if_pos hlast]

end Time

/-! ## Inodes -/

namespace NodeKind

/-- The fields of a kind: its name, and what it holds. -/
def fields : NodeKind → List (String × Json)
  | .directory => [("type", .string (ascii "directory"))]
  | .file data => [("type", .string (ascii "file")), ("data", .string (Base64.encode data))]
  | .symlink target => [("type", .string (ascii "symlink")), ("target", .ofText target)]

lemma toJson_eq (kind : NodeKind) : kind.toJson = written kind.fields := by
  cases kind <;> rfl

lemma plain_fields (kind : NodeKind) : ∀ name ∈ kind.fields.map (·.1), IsPlainText name := by
  cases kind with
  | directory => exact fun name h => (by decide : ∀ name ∈ ["type"], IsPlainText name) name h
  | file data =>
      exact fun name h => (by decide : ∀ name ∈ ["type", "data"], IsPlainText name) name h
  | symlink target =>
      exact fun name h => (by decide : ∀ name ∈ ["type", "target"], IsPlainText name) name h

lemma proper_toJson (kind : NodeKind) : Proper kind.toJson := by
  rw [toJson_eq]
  refine proper_written _ rfl kind.plain_fields ?_
  cases kind with
  | directory =>
      have hname : Proper (.string (ascii "directory")) := proper_ascii (by decide)
      simpa [fields] using hname
  | file data =>
      obtain ⟨text, hplain, he⟩ := exists_base64_text data
      simpa [fields, he] using And.intro (proper_ascii (by decide)) (proper_ascii hplain)
  | symlink target =>
      simpa [fields] using And.intro (proper_ascii (by decide)) (proper_ofText target)

/-- The name of a kind stands in one field, and the others hold plain values, as the reader of a
kind asks for. -/
lemma ofJson?_toJson (kind : NodeKind) : ofJson? kind.toJson = some kind := by
  rw [toJson_eq, written, ofJson?, namedFields?_written kind.plain_fields]
  cases kind with
  | directory =>
      have hname : (Json.string (ascii "directory")).text? = some "directory" :=
        text?_ascii (by decide)
      simp [fields, named, hname, ofRest?]
  | file data =>
      obtain ⟨text, hplain, he⟩ := exists_base64_text data
      have hname : (Json.string (ascii "file")).text? = some "file" := text?_ascii (by decide)
      have hdata := Base64.decode_encode data
      have htoken := unescape_plain (plain_ascii hplain)
      rw [he] at hdata
      simp [fields, named, hname, ofRest?, he, isPlain, depth, tokenText?_ascii hplain, htoken,
        hdata]
  | symlink target =>
      have hname : (Json.string (ascii "symlink")).text? = some "symlink" := text?_ascii (by decide)
      have hplain : (ofText target).isPlain = true := by
        rw [ofText, isPlain, tokenText?_escape]
        rfl
      have hdepth : (ofText target).depth = 0 := rfl
      simp [fields, named, hname, ofRest?, hplain, hdepth, text?_ofText]

end NodeKind

namespace Inode

/-- The numbers of an inode are machine words, and no time of it is later than a time can be. -/
structure Storable (inode : Inode) : Prop where
  perm : inode.perm < UInt32.size
  uid : inode.uid < UInt32.size
  gid : inode.gid < UInt32.size
  nlink : inode.nlink < UInt32.size
  atime : inode.atime.seconds ≤ Time.lastSecond
  mtime : inode.mtime.seconds ≤ Time.lastSecond
  ctime : inode.ctime.seconds ≤ Time.lastSecond

instance (inode : Inode) : Decidable inode.Storable :=
  decidable_of_iff (inode.perm < UInt32.size ∧ inode.uid < UInt32.size ∧ inode.gid < UInt32.size
      ∧ inode.nlink < UInt32.size ∧ inode.atime.seconds ≤ Time.lastSecond
      ∧ inode.mtime.seconds ≤ Time.lastSecond ∧ inode.ctime.seconds ≤ Time.lastSecond)
    ⟨fun ⟨hperm, huid, hgid, hnlink, hatime, hmtime, hctime⟩ =>
        ⟨hperm, huid, hgid, hnlink, hatime, hmtime, hctime⟩,
      fun h => ⟨h.perm, h.uid, h.gid, h.nlink, h.atime, h.mtime, h.ctime⟩⟩

/-- No time of an inode lies before the epoch. -/
def SinceEpoch (inode : Inode) : Prop :=
  inode.atime.beforeEpoch = false ∧ inode.mtime.beforeEpoch = false
    ∧ inode.ctime.beforeEpoch = false

lemma plain_fieldNames : ∀ name ∈ fieldNames, IsPlainText name := by decide

lemma toJson_eq (inode : Inode) : inode.toJson = written
    [("kind", inode.kind.toJson), ("perm", .ofNat inode.perm), ("uid", .ofNat inode.uid),
      ("gid", .ofNat inode.gid), ("nlink", .ofNat inode.nlink), ("atime", inode.atime.toJson),
      ("mtime", inode.mtime.toJson), ("ctime", inode.ctime.toJson)] := rfl

lemma proper_toJson (inode : Inode) : Proper inode.toJson := by
  rw [toJson_eq]
  refine proper_written fieldNames rfl plain_fieldNames ?_
  simp [proper_ofNat, inode.kind.proper_toJson, Time.proper_toJson]

lemma ofJson?_toJson {inode : Inode} (h : inode.Storable) (htimes : inode.SinceEpoch) :
    ofJson? inode.toJson = some inode := by
  have hrecord : record? .ignored fieldNames inode.toJson
      = some [some inode.kind.toJson, some (.ofNat inode.perm), some (.ofNat inode.uid),
        some (.ofNat inode.gid), some (.ofNat inode.nlink), some inode.atime.toJson,
        some inode.mtime.toJson, some inode.ctime.toJson] := by
    rw [toJson_eq]
    exact record?_written .ignored fieldNames rfl plain_fieldNames (by decide) fun _ h => h
  simp only [ofJson?, hrecord, Option.bind_eq_bind, Option.bind_some,
    inode.kind.ofJson?_toJson, nat?_ofNat h.perm, nat?_ofNat h.uid, nat?_ofNat h.gid,
    nat?_ofNat h.nlink, Time.ofJson?_toJson htimes.1 h.atime,
    Time.ofJson?_toJson htimes.2.1 h.mtime, Time.ofJson?_toJson htimes.2.2 h.ctime]

end Inode

/-! ## Maps -/

/-- Every entry of a map is read back, if each of them is and goes into the map again. -/
lemma foldlM_toList {κ α β : Type} [Ord κ] [Std.TransOrd κ] [Std.LawfulEqOrd κ] [DecidableEq κ]
    (map : Std.ExtTreeMap κ α) (write : κ × α → β)
    (read : Std.ExtTreeMap κ α → β → Option (Std.ExtTreeMap κ α))
    (h : ∀ entry ∈ map.toList, ∀ done,
      read done (write entry) = some (done.insert entry.1 entry.2)) :
    (map.toList.map write).foldlM read ∅ = some map := by
  -- the entries read so far, and whatever was there before under other keys
  have hgo : ∀ (entries : List (κ × α)) (done : Std.ExtTreeMap κ α),
      (entries.map (·.1)).Nodup →
      (∀ entry ∈ entries, ∀ done, read done (write entry) = some (done.insert entry.1 entry.2)) →
      ∃ all : Std.ExtTreeMap κ α, (entries.map write).foldlM read done = some all
        ∧ ∀ key value, all[key]? = some value
          ↔ (key, value) ∈ entries ∨ key ∉ entries.map (·.1) ∧ done[key]? = some value := by
    intro entries
    induction entries with
    | nil => exact fun done _ _ => ⟨done, rfl, by simp⟩
    | cons entry entries ih =>
        intro done hnodup hread
        obtain ⟨first, value⟩ := entry
        rw [List.map_cons, List.nodup_cons] at hnodup
        obtain ⟨all, hall, hentries⟩ := ih (done.insert first value) hnodup.2
          fun e he => hread e (List.mem_cons_of_mem _ he)
        refine ⟨all, ?_, fun key v => ?_⟩
        · rw [List.map_cons, List.foldlM_cons, hread _ (List.mem_cons_self ..)]
          exact hall
        · rw [hentries, Tree.getElem?_insert_eq]
          by_cases hk : first = key
          · subst hk
            have hmem : (first, v) ∉ entries := fun hm => hnodup.1 (List.mem_map.2 ⟨_, hm, rfl⟩)
            simp [hmem, hnodup.1, eq_comm]
          · simp [hk, Ne.symm hk]
  have hnodup : (map.toList.map (·.1)).Nodup := by
    rw [Std.ExtTreeMap.map_fst_toList_eq_keys]
    exact Std.ExtTreeMap.nodup_keys
  obtain ⟨all, hall, hentries⟩ := hgo map.toList ∅ hnodup h
  rw [hall]
  congr 1
  refine Std.ExtTreeMap.ext_getElem? fun key => ?_
  rw [Option.ext_iff]
  intro value
  rw [hentries, Std.ExtTreeMap.mem_toList_iff_getElem?_eq_some]
  simp

/-! ## Trees -/

namespace Tree

variable {t : Tree}

/-- The numbers of a tree are machine words, as they are where the tree is kept. -/
structure Storable (t : Tree) : Prop where
  entry : ∀ {key : String} {ino : Nat}, t.entries[key]? = some ino → ino < UInt64.size
  number : ∀ {ino : Nat} {inode : Inode}, t.inodes[ino]? = some inode → ino < UInt64.size
  inode : ∀ {ino : Nat} {inode : Inode}, t.inodes[ino]? = some inode → inode.Storable
  nextIno : t.nextIno < UInt64.size

/-- Whether the numbers are machine words can be read off the lists of entries and inodes. -/
lemma storable_iff : t.Storable
    ↔ (∀ entry ∈ t.entries.toList, entry.2 < UInt64.size)
      ∧ (∀ entry ∈ t.inodes.toList, entry.1 < UInt64.size ∧ entry.2.Storable)
      ∧ t.nextIno < UInt64.size := by
  simp only [Prod.forall, Std.ExtTreeMap.mem_toList_iff_getElem?_eq_some]
  exact ⟨fun h => ⟨fun _ _ => h.entry, fun _ _ hi => ⟨h.number hi, h.inode hi⟩, h.nextIno⟩,
    fun ⟨hentry, hinode, hnext⟩ =>
      ⟨hentry _ _, fun hi => (hinode _ _ hi).1, fun hi => (hinode _ _ hi).2, hnext⟩⟩

instance (t : Tree) : Decidable t.Storable :=
  decidable_of_iff _ storable_iff.symm

/-- A tree can be written if no time in it lies before the epoch. -/
lemma timesRepresentable_iff : t.timesRepresentable = true
    ↔ ∀ {ino : Nat} {inode : Inode}, t.inodes[ino]? = some inode → inode.SinceEpoch := by
  simp only [timesRepresentable, List.all_eq_true, Prod.forall,
    Std.ExtTreeMap.mem_toList_iff_getElem?_eq_some, Bool.and_eq_true, Bool.not_eq_true',
    Inode.SinceEpoch, and_assoc]

/-- The names of the fields of a tree. -/
def fieldNames : List String :=
  ["entries", "inodes", "next_ino"]

lemma plain_fieldNames : ∀ name ∈ fieldNames, IsPlainText name := by decide

/-- The entries of a tree as they are written. -/
def entriesJson (t : Tree) : Json :=
  .object (t.entries.toList.map fun (key, ino) => (escape (Bytes.ofText key), .ofNat ino))

/-- The inodes of a tree as they are written. -/
def inodesJson (t : Tree) : Json :=
  .object (t.inodes.toList.map fun (ino, inode) => (decimal ino, inode.toJson))

lemma toJson_eq (t : Tree) : t.toJson = written
    [("entries", t.entriesJson), ("inodes", t.inodesJson), ("next_ino", .ofNat t.nextIno)] := rfl

lemma properFields_map {α : Type} (entries : List α) (write : α → Bytes × Json)
    (h : ∀ entry ∈ entries, ProperField (write entry)) : ProperFields (entries.map write) := by
  induction entries with
  | nil => trivial
  | cons entry entries ih =>
      simp only [List.forall_mem_cons] at h
      exact ⟨h.1, ih h.2⟩

/-- The digits of a number need no escapes where they stand for a name. -/
lemma isStringToken_decimal (n : Nat) : IsStringToken (decimal n) := by
  refine isStringToken_plain fun b hb => ?_
  have hdigit := (isDecimal_decimal n).isDigit b hb
  refine ⟨?_, ?_, fun hcontrol => ?_⟩
  · rintro rfl
    exact absurd hdigit (by decide)
  · rintro rfl
    exact absurd hdigit (by decide)
  · simp only [isDigit, Bool.and_eq_true, decide_eq_true_eq, UInt8.le_iff_toNat_le] at hdigit
    have hlt : b.toNat < 32 := hcontrol
    have hle : 48 ≤ b.toNat := hdigit.1
    omega

lemma proper_toJson (t : Tree) : Proper t.toJson := by
  rw [toJson_eq]
  refine proper_written fieldNames rfl plain_fieldNames ?_
  simp only [List.forall_mem_cons, List.not_mem_nil, false_implies, implies_true, and_true]
  refine ⟨?_, ?_, proper_ofNat _⟩
  · exact properFields_map _ _ fun entry _ => ⟨isStringToken_escape _, proper_ofNat _⟩
  · exact properFields_map _ _ fun entry _ => ⟨isStringToken_decimal _, entry.2.proper_toJson⟩

lemma entriesOfJson?_entriesJson (h : t.Storable) :
    entriesOfJson? t.entriesJson = some t.entries := by
  refine foldlM_toList t.entries _ _ fun entry hentry done => ?_
  have hlt := h.entry (Std.ExtTreeMap.mem_toList_iff_getElem?_eq_some.1 hentry)
  simp only [tokenText?_escape, nat?_ofNat hlt, Option.bind_eq_bind, Option.bind_some]

lemma inodesOfJson?_inodesJson (h : t.Storable) (htimes : t.timesRepresentable = true) :
    inodesOfJson? t.inodesJson = some t.inodes := by
  refine foldlM_toList t.inodes _ _ fun entry hentry done => ?_
  have hin := Std.ExtTreeMap.mem_toList_iff_getElem?_eq_some.1 hentry
  have hinode := Inode.ofJson?_toJson (h.inode hin) (timesRepresentable_iff.1 htimes hin)
  have hnumber : (some entry.1).filter (· < UInt64.size) = some entry.1 :=
    Option.filter_some_pos (decide_eq_true (h.number hin))
  simp only [natToken?_decimal, hnumber, hinode, Option.bind_eq_bind, Option.bind_some]

/-- The payload of a tree is read back as the tree. -/
theorem decode_of_encode (h : t.Storable) {payload : Bytes} (hp : t.encode = some payload) :
    decode payload = some t := by
  rw [encode] at hp
  split at hp
  · next htimes =>
      obtain rfl := Option.some.inj hp
      have hrecord : record? .ignored fieldNames t.toJson
          = some [some t.entriesJson, some t.inodesJson, some (.ofNat t.nextIno)] := by
        rw [toJson_eq]
        exact record?_written .ignored fieldNames rfl plain_fieldNames (by decide) fun _ h => h
      rw [fieldNames] at hrecord
      rw [decode, parse_render t.proper_toJson, Option.bind_some, ofJson?, hrecord]
      simp only [Option.bind_eq_bind, Option.bind_some, entriesOfJson?_entriesJson h,
        inodesOfJson?_inodesJson h htimes, nat?_ofNat h.nextIno]
  · cases hp

end Tree

end Strongbox
