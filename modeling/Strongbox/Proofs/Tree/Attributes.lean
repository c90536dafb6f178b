import Strongbox.Proofs.Tree.WellFormed

/-!
# What attributes tell

A mode holds the kind of a node above its permission bits.  Where the permission bits are twelve, as
they are in a tree in order, both can be read from the mode.

* `FileKind.mode_and_kindBits`, `FileKind.mode_and_permissionMask` — reading a mode.
* **`Tree.WellFormed.isDir_of_getattr`**, **`Tree.WellFormed.permissions_of_getattr`** — what the
  attributes of a node tell about it.
-/

namespace Strongbox

namespace FileKind

/-- Twelve permission bits do not reach the bits of the kind. -/
lemma perm_and_kindBits {perm : Nat} (h : perm ≤ 0o7777) : perm &&& 0o170000 = 0 := by
  refine Nat.eq_of_testBit_eq fun i => ?_
  rw [Nat.testBit_and, Nat.zero_testBit]
  by_cases hi : i < 12
  · have hlow : ∀ i < 12, Nat.testBit 0o170000 i = false := by decide
    rw [hlow i hi, Bool.and_false]
  · have hperm : perm < 2 ^ i :=
      (Nat.lt_succ_of_le h).trans_le (Nat.pow_le_pow_right Nat.two_pos (Nat.not_lt.1 hi))
    rw [Nat.testBit_lt_two_pow hperm, Bool.false_and]

/-- The kind in a mode. -/
lemma mode_and_kindBits (kind : FileKind) {perm : Nat} (h : perm ≤ 0o7777) :
    (kind.modeBits ||| perm) &&& 0o170000 = kind.modeBits := by
  rw [Nat.and_or_distrib_right, perm_and_kindBits h, Nat.or_zero]
  cases kind <;> rfl

/-- The permissions in a mode. -/
lemma mode_and_permissionMask (kind : FileKind) {perm : Nat} (h : perm ≤ 0o7777) :
    (kind.modeBits ||| perm) &&& permissionMask = perm := by
  have hkind : kind.modeBits &&& permissionMask = 0 := by cases kind <;> rfl
  rw [Nat.and_or_distrib_right, hkind, Nat.zero_or]
  exact Nat.and_two_pow_sub_one_of_lt_two_pow (n := 12) (Nat.lt_succ_of_le h)

end FileKind

namespace FileStat

lemma kind?_of_mode {stat : FileStat} {kind : FileKind} {perm : Nat} (h : perm ≤ 0o7777)
    (hmode : stat.mode = kind.modeBits ||| perm) : stat.kind? = some kind := by
  rw [kind?, hmode, FileKind.mode_and_kindBits kind h]
  cases kind <;> rfl

end FileStat

namespace Tree

variable {t : Tree} {key : String} {stat : FileStat}

lemma getattr_ok (h : t.getattr key = .ok stat) :
    ∃ ino inode, t.entries[key]? = some ino ∧ t.inodes[ino]? = some inode
      ∧ stat.mode = inode.kind.fileKind.modeBits ||| inode.perm := by
  obtain ⟨ino, hino, h⟩ := bind_eq_ok.1 h
  obtain ⟨inode, hinode, h⟩ := bind_eq_ok.1 h
  obtain rfl := Except.ok.inj h
  exact ⟨ino, inode, lookup_eq_ok.1 hino, inode_eq_ok.1 hinode, rfl⟩

/-- Whatever a key names has attributes. -/
lemma exists_getattr {ino : Nat} {inode : Inode} (hkey : t.entries[key]? = some ino)
    (hinode : t.inodes[ino]? = some inode) : ∃ stat, t.getattr key = .ok stat :=
  ⟨_, bind_eq_ok.2 ⟨ino, lookup_eq_ok.2 hkey, bind_eq_ok.2 ⟨inode, inode_eq_ok.2 hinode, rfl⟩⟩⟩

/-- Attributes tell a directory from everything else. -/
theorem WellFormed.isDir_of_getattr (h : t.WellFormed) (hstat : t.getattr key = .ok stat) :
    stat.isDir = t.isDir key := by
  obtain ⟨ino, inode, hkey, hinode, hmode⟩ := getattr_ok hstat
  rw [FileStat.isDir, FileStat.kind?_of_mode (h.limits hinode).perm_le hmode,
    isDir_of_inode hkey hinode, Inode.isDir]
  cases inode.kind <;> simp [NodeKind.fileKind]

/-- Attributes tell all permissions. -/
theorem WellFormed.permissions_of_getattr (h : t.WellFormed) (hstat : t.getattr key = .ok stat)
    {ino : Nat} {inode : Inode} (hkey : t.entries[key]? = some ino)
    (hinode : t.inodes[ino]? = some inode) : stat.permissions = inode.perm := by
  obtain ⟨ino', inode', hkey', hinode', hmode⟩ := getattr_ok hstat
  obtain rfl : ino = ino' := Option.some.inj (hkey.symm.trans hkey')
  obtain rfl : inode = inode' := Option.some.inj (hinode.symm.trans hinode')
  rw [FileStat.permissions, hmode, FileKind.mode_and_permissionMask _ (h.limits hinode).perm_le]

end Tree

end Strongbox
