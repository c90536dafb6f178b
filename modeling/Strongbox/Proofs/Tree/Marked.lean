import Strongbox.Proofs.Tree.Contents

/-!
# Marking files as changed

To set the permissions that a node has already changes nothing about it but the time of its last
change.

* `Tree.Marked` — some nodes were marked so, at readings of a clock.
* `Tree.chmod_self` — setting the permissions of a node to what they are.
* **`Tree.Marked.mark`** — one more node is marked.
* `Tree.Marked.fileData`, `Tree.Marked.eq_of_none` — what marking leaves alone.
-/

namespace Strongbox.Tree

variable {t t' : Tree} {stamp : Stamp} {key : String} {ino : Nat} {inode : Inode}
  {named : String → Prop} {reading : Time → Prop}

/-- Two trees are the same but for the times of the last change of some nodes.  These nodes have one
of certain names and are no directories, and the times are readings of a clock. -/
structure Marked (named : String → Prop) (reading : Time → Prop) (t t' : Tree) : Prop where
  entries : t'.entries = t.entries
  nextIno : t'.nextIno = t.nextIno
  inode : ∀ ino : Nat, t'.inodes[ino]? = t.inodes[ino]?
    ∨ ∃ key inode now, named key ∧ t.entries[key]? = some ino ∧ t.inodes[ino]? = some inode
      ∧ inode.isDir = false ∧ reading now ∧ t'.inodes[ino]? = some { inode with ctime := now }

lemma Marked.refl (named : String → Prop) (reading : Time → Prop) (t : Tree) :
    Marked named reading t t :=
  ⟨rfl, rfl, fun _ => Or.inl rfl⟩

/-- A node that is marked again is marked no further. -/
theorem Marked.mark (h : Marked named reading t t') (hnamed : named key)
    (hkey : t'.entries[key]? = some ino) (hinode : t'.inodes[ino]? = some inode)
    (hfile : inode.isDir = false) (hreading : reading stamp.now) :
    Marked named reading t (t'.modify ino (.touchChanged stamp)) := by
  refine ⟨h.entries, h.nextIno, fun other => ?_⟩
  rw [inodes_modify]
  split
  · next hsame =>
      subst hsame
      rw [hinode, Option.map_some]
      rw [h.entries] at hkey
      rcases h.inode ino with hi | ⟨_, old, now, -, -, hold, hdir, -, hi⟩
      · rw [hinode] at hi
        exact Or.inr ⟨key, inode, stamp.now, hnamed, hkey, hi.symm, hfile, hreading, rfl⟩
      · obtain rfl := Option.some.inj (hinode.symm.trans hi)
        exact Or.inr ⟨key, old, stamp.now, hnamed, hkey, hold, hdir, hreading, rfl⟩
  · exact h.inode other

/-- Permissions that a node has already can be set, which marks it as changed. -/
lemma chmod_self (hkey : t.entries[key]? = some ino) (hinode : t.inodes[ino]? = some inode)
    (hperm : inode.perm ≤ 0o7777) :
    t.chmod stamp key inode.perm = .ok (t.modify ino (.touchChanged stamp)) := by
  have hmask : inode.perm &&& permissionMask = inode.perm :=
    Nat.and_two_pow_sub_one_of_lt_two_pow (n := 12) (Nat.lt_succ_of_le hperm)
  have hsame : t.modify ino (fun old =>
      { old with perm := inode.perm &&& permissionMask, ctime := stamp.now })
        = t.modify ino (.touchChanged stamp) := by
    refine congrArg (fun inodes => ({ t with inodes := inodes } : Tree)) ?_
    refine Std.ExtTreeMap.ext_getElem? fun other => ?_
    rw [getElem?_modify_eq, getElem?_modify_eq]
    split
    · next he =>
        subst he
        rw [hinode, Option.map_some, Option.map_some, hmask, Inode.touchChanged]
    · rfl
  rw [← hsame]
  exact bind_eq_ok.2 ⟨ino, lookup_eq_ok.2 hkey, bind_eq_ok.2 ⟨inode, inode_eq_ok.2 hinode, rfl⟩⟩

/-- No file has lost or got any data. -/
lemma Marked.fileData (h : Marked named reading t t') {data : Bytes}
    (hdata : t.fileData key = .ok (ino, data)) : t'.fileData key = .ok (ino, data) := by
  obtain ⟨inode, hkey, hinode, hkind⟩ := fileData_eq_ok.1 hdata
  rw [← h.entries] at hkey
  rcases h.inode ino with hi | ⟨_, old, now, -, -, hold, -, -, hi⟩
  · exact fileData_eq_ok.2 ⟨inode, hkey, hi.trans hinode, hkind⟩
  · obtain rfl := Option.some.inj (hinode.symm.trans hold)
    exact fileData_eq_ok.2 ⟨_, hkey, hi, hkind⟩

/-- Where there are no names, nothing is marked. -/
lemma Marked.eq_of_none (h : Marked named reading t t') (hnone : ∀ key, ¬ named key) : t' = t := by
  obtain ⟨entries, inodes, nextIno⟩ := t
  obtain ⟨entries', inodes', nextIno'⟩ := t'
  obtain rfl : entries' = entries := h.entries
  obtain rfl : nextIno' = nextIno := h.nextIno
  obtain rfl : inodes' = inodes := by
    refine Std.ExtTreeMap.ext_getElem? fun ino => ?_
    rcases h.inode ino with hi | ⟨key, _, _, hnamed, -⟩
    · exact hi
    · exact absurd hnamed (hnone key)
  rfl

end Strongbox.Tree
