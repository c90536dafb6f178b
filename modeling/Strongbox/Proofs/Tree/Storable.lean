import Strongbox.Proofs.Tree.Operations
import Strongbox.Proofs.Tree.Payload

/-!
# Numbers that stay machine words

The numbers of a tree are kept in machine words.  The changes that a file goes through while it is
made, opened and written keep them such, as long as the clock and the user are given in machine words
and there is a number left for a new inode.

* `Stamp.Storable` — the clock reading and the user are machine words.
* `Tree.Storable.modify`, `Tree.Storable.insertNode` — the small changes.
* `Tree.Storable.create`, `Tree.Storable.openFile`, `Tree.Storable.chmod` — the operations.
-/

namespace Strongbox

/-- A clock reading and a user that are kept in machine words. -/
structure Stamp.Storable (stamp : Stamp) : Prop where
  now : stamp.now.seconds ≤ Time.lastSecond
  uid : stamp.uid < UInt32.size
  gid : stamp.gid < UInt32.size

instance (stamp : Stamp) : Decidable stamp.Storable :=
  decidable_of_iff (stamp.now.seconds ≤ Time.lastSecond ∧ stamp.uid < UInt32.size
      ∧ stamp.gid < UInt32.size)
    ⟨fun ⟨hnow, huid, hgid⟩ => ⟨hnow, huid, hgid⟩, fun h => ⟨h.now, h.uid, h.gid⟩⟩

namespace Inode

variable {inode : Inode} {stamp : Stamp}

/-- Permission bits are no more than twelve. -/
lemma masked_lt (mode : Nat) : mode &&& permissionMask < UInt32.size :=
  Nat.lt_of_le_of_lt Nat.and_le_right (by decide)

lemma Storable.fresh (hstamp : stamp.Storable) (kind : NodeKind) (mode : Nat) :
    (Inode.fresh stamp kind mode).Storable :=
  ⟨masked_lt mode, hstamp.uid, hstamp.gid, (by decide : 1 < UInt32.size), hstamp.now,
    hstamp.now, hstamp.now⟩

lemma Storable.touchModified (h : inode.Storable) (hstamp : stamp.Storable) :
    (inode.touchModified stamp).Storable :=
  ⟨h.perm, h.uid, h.gid, h.nlink, h.atime, hstamp.now, hstamp.now⟩

lemma Storable.touchChanged (h : inode.Storable) (hstamp : stamp.Storable) :
    (inode.touchChanged stamp).Storable :=
  ⟨h.perm, h.uid, h.gid, h.nlink, h.atime, h.mtime, hstamp.now⟩

lemma Storable.setData (h : inode.Storable) (hstamp : stamp.Storable) (data : Bytes) :
    (inode.setData stamp data).Storable :=
  ⟨h.perm, h.uid, h.gid, h.nlink, h.atime, hstamp.now, hstamp.now⟩

end Inode

namespace Tree.Storable

variable {t t' : Tree} {stamp : Stamp} {key : String} {ino : Nat}

lemma modify (h : t.Storable) {change : Inode → Inode}
    (hchange : ∀ {inode}, inode.Storable → (change inode).Storable) :
    (t.modify ino change).Storable := by
  have hinodes : ∀ {other : Nat} {inode : Inode}, (t.modify ino change).inodes[other]? = some inode →
      ∃ old : Inode, t.inodes[other]? = some old ∧ (inode = old ∨ inode = change old) := by
    intro other inode hi
    rw [inodes_modify] at hi
    split at hi
    · obtain ⟨old, hold, rfl⟩ := Option.map_eq_some_iff.1 hi
      exact ⟨old, hold, Or.inr rfl⟩
    · exact ⟨inode, hi, Or.inl rfl⟩
  refine ⟨h.entry, fun hi => ?_, fun hi => ?_, h.nextIno⟩
  · obtain ⟨old, hold, -⟩ := hinodes hi
    exact h.number hold
  · obtain ⟨old, hold, rfl | rfl⟩ := hinodes hi
    · exact h.inode hold
    · exact hchange (h.inode hold)

lemma touchParent (h : t.Storable) (hstamp : stamp.Storable) (key : String) :
    (t.touchParent stamp key).Storable := by
  rw [touchParent_eq]
  split
  · exact h.modify fun hinode => hinode.touchModified hstamp
  · exact h

/-- A new inode takes the number that was kept ready for it. -/
lemma insertNode (h : t.Storable) (hstamp : stamp.Storable) (hroom : t.nextIno + 1 < UInt64.size)
    {inode : Inode} (hinode : inode.Storable) (hok : t.insertNode stamp key inode = .ok t') :
    t'.Storable := by
  obtain ⟨-, -, rfl⟩ := insertNode_ok hok
  refine touchParent ⟨fun {other number} hi => ?_, fun {number found} hi => ?_,
    fun {number found} hi => ?_, hroom⟩ hstamp key
  · rw [getElem?_insert_eq] at hi
    split at hi
    · exact Option.some.inj hi ▸ h.nextIno
    · exact h.entry hi
  · rw [getElem?_insert_eq] at hi
    split at hi
    · next he => exact he ▸ h.nextIno
    · exact h.number hi
  · rw [getElem?_insert_eq] at hi
    split at hi
    · exact Option.some.inj hi ▸ hinode
    · exact h.inode hi

lemma create (h : t.Storable) (hstamp : stamp.Storable) (hroom : t.nextIno + 1 < UInt64.size)
    {mode : Nat} (hok : t.create stamp key mode = .ok t') : t'.Storable :=
  h.insertNode hstamp hroom (.fresh hstamp _ _) hok

lemma openFile (h : t.Storable) (hstamp : stamp.Storable) {flags : OpenFlags}
    (hok : t.openFile stamp key flags = .ok t') : t'.Storable := by
  rcases openFile_ok hok with rfl | ⟨ino, inode, data, -, -, -, -, rfl⟩
  · exact h
  · exact h.modify fun hinode => hinode.setData hstamp _

lemma chmod (h : t.Storable) (hstamp : stamp.Storable) {mode : Nat}
    (hok : t.chmod stamp key mode = .ok t') : t'.Storable := by
  obtain ⟨ino, -, rfl⟩ := chmod_ok hok
  exact h.modify fun hinode => ⟨Inode.masked_lt mode, hinode.uid, hinode.gid, hinode.nlink,
    hinode.atime, hinode.mtime, hstamp.now⟩

end Tree.Storable

end Strongbox
