import Strongbox.Proofs.Tree.Reachable

/-!
# Trees to which directories were added

What a tree has in common with the tree before it, when directories were made under some of its free
keys and nothing else was done.

* `Tree.Grown` — keys and inodes stay, and every new key is that of a directory.
* `Tree.grown_of_mkdir` — one directory, and `Tree.Grown.trans` for more.
* `Tree.Unblocked` — a key at which there is a directory or room for one, and
  **`Tree.Grown.unblocked_iff`**: adding directories blocks no key and clears none.
-/

namespace Strongbox.Tree

variable {t t' t'' : Tree} {stamp : Stamp} {key : String} {ino perm : Nat} {made : String → Prop}

/-- Directories with some permissions were added to a tree, under keys of which something is known.
What had a key has it still.  No inode has lost its content, permissions or owner, and what is no
directory has not changed at all. -/
structure Grown (made : String → Prop) (perm : Nat) (t t' : Tree) : Prop where
  wellFormed : t'.WellFormed
  entries : ∀ {key : String} {ino : Nat}, t.entries[key]? = some ino → t'.entries[key]? = some ino
  inodes : ∀ {ino : Nat} {inode : Inode}, t.inodes[ino]? = some inode →
    ∃ kept, t'.inodes[ino]? = some kept ∧ inode.Keeps kept ∧ (inode.isDir = false → kept = inode)
  added : ∀ {key : String} {ino : Nat}, t'.entries[key]? = some ino → t.entries[key]? = none →
    made key ∧ ∃ inode, t'.inodes[ino]? = some inode ∧ inode.kind = .directory ∧ inode.perm = perm

namespace Grown

lemma refl (h : t.WellFormed) : t.Grown made perm t where
  wellFormed := h
  entries hk := hk
  inodes hi := ⟨_, hi, .refl _, fun _ => rfl⟩
  added hk hfree := by
    rw [hfree] at hk
    cases hk

lemma trans (h : t.Grown made perm t') (h' : t'.Grown made perm t'') :
    t.Grown made perm t'' where
  wellFormed := h'.wellFormed
  entries hk := h'.entries (h.entries hk)
  inodes hi := by
    obtain ⟨kept, hkept, hkeeps, hsame⟩ := h.inodes hi
    obtain ⟨last, hlast, hkeeps', hsame'⟩ := h'.inodes hkept
    refine ⟨last, hlast, hkeeps.trans hkeeps', fun hfile => ?_⟩
    obtain rfl := hsame hfile
    exact hsame' hfile
  added {key ino} hk hfree := by
    cases hk' : t'.entries[key]? with
    | none => exact h'.added hk hk'
    | some old =>
        -- it was added first, and kept afterwards
        obtain rfl := Option.some.inj ((h'.entries hk').symm.trans hk)
        obtain ⟨hmade, inode, hinode, hkind, hperm⟩ := h.added hk' hfree
        obtain ⟨kept, hkept, hkeeps, -⟩ := h'.inodes hinode
        exact ⟨hmade, kept, hkept, hkeeps.kind.trans hkind, hkeeps.perm.trans hperm⟩

/-- Less may be known of the new keys. -/
lemma mono (h : t.Grown made perm t') {made' : String → Prop}
    (hmade : ∀ key, made key → made' key) : t.Grown made' perm t' :=
  { h with added := fun hk hfree => (h.added hk hfree).imp_left (hmade _) }

/-- What had a key is a directory if it was one. -/
lemma isDir_of_entry (h : t.Grown made perm t') (ht : t.WellFormed)
    (hk : t.entries[key]? = some ino) : t'.isDir key = t.isDir key := by
  obtain ⟨inode, hinode⟩ := ht.inode_exists hk
  obtain ⟨kept, hkept, hkeeps, -⟩ := h.inodes hinode
  rw [isDir_of_inode hk hinode, isDir_of_inode (h.entries hk) hkept, Inode.isDir, Inode.isDir,
    hkeeps.kind]

lemma isDir_of_isDir (h : t.Grown made perm t') (ht : t.WellFormed) (hdir : t.isDir key = true) :
    t'.isDir key = true := by
  obtain ⟨ino, -, hk, -⟩ := isDir_eq_true.1 hdir
  rw [h.isDir_of_entry ht hk, hdir]

end Grown

/-- At a key there is a directory, or nothing. -/
def Unblocked (t : Tree) (key : String) : Prop :=
  ∀ ino, t.entries[key]? = some ino → t.isDir key = true

/-- A key is blocked after directories were added if it was before. -/
theorem Grown.unblocked_iff (h : t.Grown made perm t') (ht : t.WellFormed) :
    t'.Unblocked key ↔ t.Unblocked key := by
  constructor
  · intro hclear ino hk
    rw [← h.isDir_of_entry ht hk]
    exact hclear ino (h.entries hk)
  · intro hclear ino hk
    cases hold : t.entries[key]? with
    | none =>
        obtain ⟨-, inode, hinode, hkind, -⟩ := h.added hk hold
        rw [isDir_of_inode hk hinode, Inode.isDir, hkind]
        rfl
    | some old =>
        rw [h.isDir_of_entry ht hold]
        exact hclear old hold

variable (made) in
/-- A directory is made under a free key in a directory. -/
lemma grown_of_mkdir (ht : t.WellFormed) (hkey : Key.Canonical key)
    (hfree : t.entries[key]? = none) {parent : String} (hparent : Key.parent? key = some parent)
    (hdir : t.isDir parent = true) (stamp : Stamp) (mode : Nat) (hmade : made key) :
    ∃ t', t.mkdir stamp key mode = .ok t' ∧ t'.isDir key = true
      ∧ t.Grown made (mode &&& permissionMask) t' := by
  obtain ⟨pino, pnode, hp, hpnode, hpdir⟩ := isDir_eq_true.1 hdir
  have hfresh : ∀ {number inode}, t.inodes[number]? = some inode → t.nextIno ≠ number := by
    rintro number inode hi rfl
    exact absurd (ht.lt_nextIno hi) (Nat.lt_irrefl _)
  have hne : key ≠ parent := by
    rintro rfl
    rw [hfree] at hp
    cases hp
  let inode := Inode.fresh stamp .directory mode
  let inserted : Tree :=
    { entries := t.entries.insert key t.nextIno
      inodes := t.inodes.insert t.nextIno inode
      nextIno := t.nextIno + 1 }
  have hok : t.mkdir stamp key mode = .ok (inserted.touchParent stamp key) := by
    rw [mkdir, insertNode, contains_eq_false.2 hfree, if_neg Bool.false_ne_true]
    exact bind_eq_ok.2 ⟨(), requireParent_eq_ok.2 ⟨parent, hparent, hdir⟩, rfl⟩
  -- the parent is named by the new tree as by the old one, and is the only inode that is marked
  have htouch : inserted.touchParent stamp key = inserted.modify pino (.touchModified stamp) := by
    have hinserted : inserted.entries[parent]? = some pino := by
      rw [getElem?_insert_eq, if_neg hne, hp]
    rw [touchParent_eq, hparent, Option.bind_some, hinserted]
  have hself : (inserted.touchParent stamp key).entries[key]? = some t.nextIno := by
    rw [entries_touchParent, getElem?_insert_eq, if_pos rfl]
  have hinode : (inserted.touchParent stamp key).inodes[t.nextIno]? = some inode := by
    rw [htouch, inodes_modify, if_neg (Ne.symm (hfresh hpnode)), getElem?_insert_eq, if_pos rfl]
  refine ⟨_, hok, isDir_eq_true.2 ⟨_, _, hself, hinode, rfl⟩,
    ht.insertNode hkey rfl (Inode.withinLimits_fresh fun _ hfile => by cases hfile) hok,
    fun {other number} hk => ?_, fun {number old} hi => ?_, fun {other number} hk hnone => ?_⟩
  · have hother : key ≠ other := by
      rintro rfl
      rw [hfree] at hk
      cases hk
    rw [entries_touchParent, getElem?_insert_eq, if_neg hother, hk]
  · have hsame : inserted.inodes[number]? = some old := by
      rw [getElem?_insert_eq, if_neg (hfresh hi), hi]
    rw [htouch, inodes_modify, hsame]
    split
    · next hmarked =>
        subst hmarked
        obtain rfl := Option.some.inj (hpnode.symm.trans hi)
        refine ⟨_, rfl, pnode.keeps_touchModified stamp, fun hfile => ?_⟩
        rw [hpdir] at hfile
        cases hfile
    · exact ⟨old, rfl, .refl old, fun _ => rfl⟩
  · rw [entries_touchParent, getElem?_insert_eq] at hk
    split at hk
    · next hsame =>
        subst hsame
        obtain rfl := Option.some.inj hk
        exact ⟨hmade, inode, hinode, rfl, rfl⟩
    · rw [hnone] at hk
      cases hk

end Strongbox.Tree
