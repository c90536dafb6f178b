import Mathlib.Logic.Relation
import Strongbox.Proofs.Tree.Operations
import Strongbox.Tree.Change

/-!
# Writes that are pending

Data that is written to files is saved later than all other changes, so the tree in a container file
may lag behind the tree in memory.  It lags behind by writes and by nothing else, and what a write
changes is little.

* `Tree.Pending` — a tree that becomes another one through successful writes.
* `Tree.LagsBehind` — two trees that differ in the data of files and in the times of its change.
* **`Tree.lagsBehind_of_pending`** — the second follows from the first.
-/

namespace Strongbox

/-- An inode in a file, and the same inode in memory.  Only the data of a regular file and the times
of its last change may be older in the file. -/
structure Inode.LagsBehind (stored memory : Inode) : Prop where
  perm : memory.perm = stored.perm
  uid : memory.uid = stored.uid
  gid : memory.gid = stored.gid
  nlink : memory.nlink = stored.nlink
  atime : memory.atime = stored.atime
  differs : memory = stored
    ∨ (∃ data, stored.kind = .file data) ∧ ∃ data, memory.kind = .file data

namespace Inode.LagsBehind

lemma refl (inode : Inode) : inode.LagsBehind inode :=
  ⟨rfl, rfl, rfl, rfl, rfl, Or.inl rfl⟩

/-- An inode that lags behind lags behind after a further write. -/
lemma setData {stored memory : Inode} (h : stored.LagsBehind memory) {data : Bytes}
    (hkind : memory.kind = .file data) (stamp : Stamp) (new : Bytes) :
    stored.LagsBehind (memory.setData stamp new) := by
  refine ⟨h.perm, h.uid, h.gid, h.nlink, h.atime, Or.inr ⟨?_, new, rfl⟩⟩
  rcases h.differs with rfl | ⟨hstored, -⟩
  · exact ⟨data, hkind⟩
  · exact hstored

end Inode.LagsBehind

namespace Tree

variable {t t' stored : Tree}

/-- A tree in a file, and the same tree in memory: the same keys, and the same numbers of inodes,
each of which lags behind. -/
structure LagsBehind (stored memory : Tree) : Prop where
  entries : memory.entries = stored.entries
  nextIno : memory.nextIno = stored.nextIno
  inodes : ∀ ino : Nat, Option.Rel Inode.LagsBehind stored.inodes[ino]? memory.inodes[ino]?

/-- One successful write. -/
def Written (t t' : Tree) : Prop :=
  ∃ stamp key buffer offset, t.write stamp key buffer offset = .ok t'

/-- Any number of successful writes, one after the other. -/
def Pending : Tree → Tree → Prop :=
  Relation.ReflTransGen Written

lemma LagsBehind.refl (t : Tree) : t.LagsBehind t := by
  refine ⟨rfl, rfl, fun ino => ?_⟩
  cases t.inodes[ino]? with
  | none => exact .none
  | some inode => exact .some (.refl inode)

/-- A write changes one inode, which is that of a regular file. -/
lemma LagsBehind.written (h : stored.LagsBehind t) (hwrite : t.Written t') :
    stored.LagsBehind t' := by
  obtain ⟨stamp, key, buffer, offset, hwrite⟩ := hwrite
  obtain ⟨ino, inode, data, -, hinode, hkind, -, rfl⟩ := write_ok hwrite
  refine ⟨h.entries, h.nextIno, fun other => ?_⟩
  rw [inodes_modify]
  split
  · next hother =>
      subst hother
      have hlag := h.inodes ino
      rw [hinode] at hlag ⊢
      cases hstored : stored.inodes[ino]? with
      | none =>
          rw [hstored] at hlag
          cases hlag
      | some old =>
          rw [hstored] at hlag
          cases hlag with
          | some hlag => exact .some (hlag.setData hkind stamp _)
  · exact h.inodes other

/-- A tree lags behind what became of it by writes. -/
theorem lagsBehind_of_pending (h : stored.Pending t) : stored.LagsBehind t := by
  induction h with
  | refl => exact .refl stored
  | tail _ hwrite ih => exact ih.written hwrite

end Tree

/-! ## Changes by the time of their save -/

namespace Change

variable {change : Change} {stamp : Stamp} {t t' : Tree}

/-- A change that is never saved leaves the tree as it was. -/
lemma eq_of_never (hsaving : change.saving = .never) (h : change.apply stamp t = .ok t') :
    t' = t := by
  cases change with
  | openFile key flags =>
      rcases Tree.openFile_ok h with rfl | ⟨_, _, _, hdrop, -⟩
      · rfl
      · simp only [saving, hdrop, if_true] at hsaving
        cases hsaving
  | create | mkdir | symlink | link | unlink | rmdir | rename | write | truncate | chmod
  | utimens =>
      cases hsaving

/-- A change that is saved later is a write. -/
lemma written_of_later (hsaving : change.saving = .later) (h : change.apply stamp t = .ok t') :
    t.Written t' := by
  cases change with
  | write key buffer offset => exact ⟨stamp, key, buffer, offset, h⟩
  | openFile key flags =>
      rw [saving] at hsaving
      split at hsaving <;> cases hsaving
  | create | mkdir | symlink | link | unlink | rmdir | rename | truncate | chmod | utimens =>
      cases hsaving

end Change

end Strongbox
