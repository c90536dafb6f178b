import Strongbox.Proofs.Tree.Attributes
import Strongbox.Proofs.Tree.Contents
import Strongbox.Proofs.Tree.Storable

/-!
# A file that is made or filled

What a tree has in common with the tree before it, when a file was made under a key, or the content
of the file that the key named was replaced.

* `Tree.Writable` — a key under which there is a file, or one can be made.
* `Tree.Filled` — the file holds something new, and everything else is as before.
* `Tree.filled_of_create`, `Tree.filled_of_openFile` — a file that was made or opened.
* **`Tree.Filled.modify`** — changes of that file.
-/

namespace Strongbox.Tree

variable {t t' t'' : Tree} {stamp : Stamp} {key : String} {ino mode : Nat} {old content : Bytes}

/-- A key that names a regular file, with the number, the permissions and the data of the file, or a
free key in a directory, with what a new file gets. -/
inductive Writable (t : Tree) (key : String) : Nat → Nat → Bytes → Prop
  | file {ino : Nat} {inode : Inode} {data : Bytes} (hkey : t.entries[key]? = some ino)
      (hinode : t.inodes[ino]? = some inode) (hkind : inode.kind = .file data) :
      Writable t key ino inode.perm data
  | absent {parent : String} (hkey : t.entries[key]? = none)
      (hparent : Key.parent? key = some parent) (hdir : t.isDir parent = true)
      (hroom : t.nextIno + 1 < UInt64.size) : Writable t key t.nextIno 0o600 []

/-- The key names a regular file with some content and permissions.  The other keys name what they
named before, and no other inode has lost its content, permissions or owner.  Only where the file is
new can any other inode have changed at all. -/
structure Filled (t : Tree) (key : String) (ino mode : Nat) (content : Bytes) (t' : Tree) :
    Prop where
  data : t'.fileData key = .ok (ino, content)
  perm : ∀ {inode : Inode}, t'.inodes[ino]? = some inode → inode.perm = mode
  entries : ∀ {other : String}, other ≠ key → t'.entries[other]? = t.entries[other]?
  keeps : ∀ {number : Nat} {inode : Inode}, number ≠ ino → t.inodes[number]? = some inode →
    ∃ kept, t'.inodes[number]? = some kept ∧ inode.Keeps kept
  same : t.entries[key]? = some ino → ∀ {number : Nat}, number ≠ ino →
    t'.inodes[number]? = t.inodes[number]?

/-- A change of the file changes nothing else. -/
theorem Filled.modify (h : t.Filled key ino mode content t') {change : Inode → Inode}
    {new : Bytes} (hkind : ∀ inode : Inode, inode.kind = .file content →
      (change inode).kind = .file new)
    (hperm : ∀ inode : Inode, inode.perm = mode → (change inode).perm = mode) :
    t.Filled key ino mode new (t'.modify ino change) := by
  obtain ⟨inode, hkey, hinode, hdata⟩ := fileData_ok h.data
  have hothers : ∀ {number}, number ≠ ino →
      (t'.modify ino change).inodes[number]? = t'.inodes[number]? := fun hne => by
    rw [inodes_modify, if_neg (Ne.symm hne)]
  have hself : (t'.modify ino change).inodes[ino]? = some (change inode) := by
    rw [inodes_modify, if_pos rfl, hinode]
    rfl
  refine ⟨fileData_eq_ok.2 ⟨change inode, hkey, hself, hkind inode hdata⟩, fun hi => ?_,
    h.entries, fun hne hi => ?_, fun hold number hne => ?_⟩
  · obtain rfl := Option.some.inj (hself.symm.trans hi)
    exact hperm inode (h.perm hinode)
  · rw [hothers hne]
    exact h.keeps hne hi
  · rw [hothers hne]
    exact h.same hold hne

/-- Data that is put into the file replaces what it held. -/
lemma Filled.setData (h : t.Filled key ino mode content t') (stamp : Stamp) (new : Bytes) :
    t.Filled key ino mode new (t'.modify ino (.setData stamp new)) :=
  h.modify (fun _ _ => rfl) fun _ hperm => hperm

/-- The permissions that the file has can be set again. -/
lemma Filled.chmod (h : t.Filled key ino mode content t') (hmode : mode ≤ 0o7777)
    (hok : t'.chmod stamp key mode = .ok t'') : t.Filled key ino mode content t'' := by
  obtain ⟨inode, hkey, -, -⟩ := fileData_ok h.data
  obtain ⟨ino', hkey', rfl⟩ := chmod_ok hok
  obtain rfl := Option.some.inj (hkey.symm.trans hkey')
  exact h.modify (fun _ hkind => hkind) fun _ _ => Nat.and_two_pow_sub_one_of_lt_two_pow
    (n := 12) (Nat.lt_succ_of_le hmode)

lemma Writable.mode_le (h : t.Writable key ino mode old) (ht : t.WellFormed) : mode ≤ 0o7777 := by
  cases h with
  | file _ hinode => exact (ht.limits hinode).perm_le
  | absent => decide

/-- A file that is opened keeps its content or loses all of it. -/
lemma filled_of_openFile {data : Bytes} {inode : Inode} (hkey : t.entries[key]? = some ino)
    (hinode : t.inodes[ino]? = some inode) (hkind : inode.kind = .file data) {flags : OpenFlags}
    (hwrites : flags.writes = true) :
    ∃ t', t.openFile stamp key flags = .ok t'
      ∧ t.Filled key ino inode.perm (if flags.contains .truncate then [] else data) t' := by
  have hfilled : t.Filled key ino inode.perm data t :=
    ⟨fileData_eq_ok.2 ⟨inode, hkey, hinode, hkind⟩,
      fun hi => congrArg Inode.perm (Option.some.inj (hi.symm.trans hinode)), fun _ => rfl,
      fun _ hi => ⟨_, hi, .refl _⟩, fun _ _ _ => rfl⟩
  have hopen : t.openFile stamp key flags
      = .ok (if flags.contains .truncate then t.modify ino (.setData stamp []) else t) := by
    rw [openFile_of_fileData (fileData_eq_ok.2 ⟨inode, hkey, hinode, hkind⟩), hwrites,
      Bool.true_and]
  refine ⟨_, hopen, ?_⟩
  split
  · exact hfilled.setData stamp []
  · exact hfilled

/-- A file that is made is empty, and its directory is marked as changed. -/
lemma filled_of_create (ht : t.WellFormed) {parent : String} (hkey : t.entries[key]? = none)
    (hparent : Key.parent? key = some parent) (hdir : t.isDir parent = true) {mode : Nat}
    (hmode : mode ≤ 0o7777) :
    ∃ t', t.create stamp key mode = .ok t' ∧ t.Filled key t.nextIno mode [] t' := by
  obtain ⟨pino, pnode, hp, hpnode, -⟩ := isDir_eq_true.1 hdir
  have hfresh : ∀ {number inode}, t.inodes[number]? = some inode → number ≠ t.nextIno := by
    rintro number inode hi rfl
    exact absurd (ht.lt_nextIno hi) (Nat.lt_irrefl _)
  have hne : key ≠ parent := by
    rintro rfl
    rw [hkey] at hp
    cases hp
  -- the parent is named by the new tree as by the old one
  let inode := Inode.fresh stamp (.file []) mode
  let inserted : Tree :=
    { entries := t.entries.insert key t.nextIno
      inodes := t.inodes.insert t.nextIno inode
      nextIno := t.nextIno + 1 }
  have hinserted : inserted.entries[parent]? = some pino := by
    rw [getElem?_insert_eq, if_neg hne, hp]
  have htouch : inserted.touchParent stamp key = inserted.modify pino (.touchModified stamp) := by
    rw [touchParent_eq, hparent, Option.bind_some, hinserted]
  have hok : t.create stamp key mode = .ok (inserted.touchParent stamp key) := by
    rw [create, insertNode, contains_eq_false.2 hkey, if_neg Bool.false_ne_true]
    exact bind_eq_ok.2 ⟨(), requireParent_eq_ok.2 ⟨parent, hparent, hdir⟩, rfl⟩
  have hinode : (inserted.modify pino (.touchModified stamp)).inodes[t.nextIno]? = some inode := by
    rw [inodes_modify, if_neg (hfresh hpnode), getElem?_insert_eq, if_pos rfl]
  refine ⟨_, hok, htouch ▸ ⟨fileData_eq_ok.2 ⟨inode, ?_, hinode, rfl⟩, fun hi => ?_,
    fun {other} hother => ?_, fun {number old} hnumber hi => ?_, fun hold => ?_⟩⟩
  · rw [entries_modify, getElem?_insert_eq, if_pos rfl]
  · obtain rfl := Option.some.inj (hinode.symm.trans hi)
    exact Nat.and_two_pow_sub_one_of_lt_two_pow (n := 12) (Nat.lt_succ_of_le hmode)
  · rw [entries_modify, getElem?_insert_eq, if_neg (Ne.symm hother)]
  · have hsame : inserted.inodes[number]? = some old := by
      rw [getElem?_insert_eq, if_neg (Ne.symm hnumber), hi]
    rw [inodes_modify, hsame]
    split
    · exact ⟨_, rfl, Inode.keeps_touchModified stamp old⟩
    · exact ⟨old, rfl, .refl old⟩
  · rw [hkey] at hold
    cases hold

end Strongbox.Tree
