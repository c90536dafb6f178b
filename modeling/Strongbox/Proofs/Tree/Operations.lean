import Strongbox.Proofs.Tree.Lookup

/-!
# What the operations on a tree do

One lemma for each operation that changes a tree: what was checked where it succeeds, and which tree
it gives.  Whatever is to be known about an operation is read off these lemmas, and no later proof
opens the operation itself.

* `insertNode_ok`, `link_ok` — nodes and keys that are made.
* `unlink_ok`, `rmdir_ok` — keys that are removed.
* `displace_ok`, `rename_ok` — moving a node, over another one or to a free key.
* `openFile_ok`, `write_ok`, `truncate_ok` — changes of file data.
* `chmod_ok`, `utimens_ok` — changes of attributes.
-/

namespace Strongbox.Tree

variable {t t' : Tree} {stamp : Stamp} {key source target : String}

lemma contains_eq_false : t.contains key = false ↔ t.entries[key]? = none := by
  rw [contains, Bool.eq_false_iff, Ne, Std.ExtTreeMap.contains_iff_mem,
    Std.ExtTreeMap.mem_iff_isSome_getElem?, Bool.not_eq_true, Option.isSome_eq_false_iff,
    Option.isNone_iff_eq_none]

/-! ## Making nodes -/

/-- A new node has a free key in a directory. -/
lemma insertNode_ok {inode : Inode} (h : t.insertNode stamp key inode = .ok t') :
    t.entries[key]? = none
      ∧ (∃ parent, Key.parent? key = some parent ∧ t.isDir parent = true)
      ∧ t' = touchParent stamp key
          { entries := t.entries.insert key t.nextIno
            inodes := t.inodes.insert t.nextIno inode
            nextIno := t.nextIno + 1 } := by
  unfold insertNode at h
  split at h
  · cases h
  · next hfree =>
      obtain ⟨_, hparent, h⟩ := bind_eq_ok.1 h
      exact ⟨contains_eq_false.1 (Bool.eq_false_iff.2 hfree), requireParent_eq_ok.1 hparent,
        (Except.ok.inj h).symm⟩

/-- Only a node that is no directory gets a further key, which is free and in a directory. -/
lemma link_ok (h : t.link stamp source target = .ok t') :
    ∃ ino inode, t.entries[source]? = some ino ∧ t.inodes[ino]? = some inode
      ∧ inode.isDir = false ∧ t.entries[target]? = none
      ∧ (∃ parent, Key.parent? target = some parent ∧ t.isDir parent = true)
      ∧ t' = touchParent stamp target
          (({ t with entries := t.entries.insert target ino } : Tree).modify ino fun inode =>
            { inode with nlink := inode.nlink + 1, ctime := stamp.now }) := by
  obtain ⟨ino, hino, h⟩ := bind_eq_ok.1 h
  obtain ⟨inode, hinode, h⟩ := bind_eq_ok.1 h
  obtain ⟨hdir, h⟩ := guard_eq_ok.1 h
  obtain ⟨hfree, h⟩ := guard_eq_ok.1 h
  obtain ⟨_, hparent, h⟩ := bind_eq_ok.1 h
  exact ⟨ino, inode, lookup_eq_ok.1 hino, inode_eq_ok.1 hinode, Bool.eq_false_iff.2 hdir,
    contains_eq_false.1 (Bool.eq_false_iff.2 hfree), requireParent_eq_ok.1 hparent,
    (Except.ok.inj h).symm⟩

/-! ## Removing nodes -/

/-- What is removed is no directory. -/
lemma unlink_ok (h : t.unlink stamp key = .ok t') :
    ∃ ino inode, t.entries[key]? = some ino ∧ t.inodes[ino]? = some inode ∧ inode.isDir = false
      ∧ t' = (t.removeKey stamp key ino).touchParent stamp key := by
  obtain ⟨ino, hino, h⟩ := bind_eq_ok.1 h
  obtain ⟨inode, hinode, h⟩ := bind_eq_ok.1 h
  obtain ⟨hdir, h⟩ := guard_eq_ok.1 h
  exact ⟨ino, inode, lookup_eq_ok.1 hino, inode_eq_ok.1 hinode, Bool.eq_false_iff.2 hdir,
    (Except.ok.inj h).symm⟩

/-- Only an empty directory other than the root is removed. -/
lemma rmdir_ok (h : t.rmdir stamp key = .ok t') :
    key ≠ "/" ∧ ∃ ino inode, t.entries[key]? = some ino ∧ t.inodes[ino]? = some inode
      ∧ inode.isDir = true ∧ t.childKeys key = []
      ∧ t' = (t.removeKey stamp key ino).touchParent stamp key := by
  unfold rmdir at h
  split at h
  · cases h
  · next hroot =>
      obtain ⟨ino, hino, h⟩ := bind_eq_ok.1 h
      obtain ⟨inode, hinode, h⟩ := bind_eq_ok.1 h
      obtain ⟨hdir, h⟩ := guard_eq_ok.1 h
      obtain ⟨hempty, h⟩ := guard_eq_ok.1 h
      exact ⟨hroot, ino, inode, lookup_eq_ok.1 hino, inode_eq_ok.1 hinode, by simpa using hdir,
        by simpa using hempty, (Except.ok.inj h).symm⟩

/-! ## Moving nodes -/

/-- What a moved node takes the place of is of its own sort, and empty if it is a directory. -/
lemma displace_ok {movingDir : Bool} {existing : Nat}
    (h : t.displace stamp movingDir target existing = .ok t') :
    movingDir = t.isDir target ∧ (movingDir = true → t.childKeys target = [])
      ∧ t' = t.removeKey stamp target existing := by
  obtain ⟨inode, hinode, h⟩ := bind_eq_ok.1 h
  have hdir : t.isDir target = inode.isDir := by rw [isDir, hinode]
  rw [hdir]
  dsimp only at h
  split at h
  · cases h
  · next hup =>
      split at h
      · cases h
      · next hdown =>
          split at h
          · cases h
          · next hfull =>
              refine ⟨?_, fun hm => ?_, (Except.ok.inj h).symm⟩
              · cases movingDir <;> cases hd : inode.isDir <;> simp_all
              · simpa [hm] using hfull

/-- A rename changes nothing where both keys name one node already, or moves a node to a key that is
free or was made free.  It does not move the root, nor a directory below itself. -/
lemma rename_ok (h : t.rename stamp source target = .ok t') :
    (t' = t ∧ ∃ ino, t.entries[source]? = some ino ∧ t.entries[target]? = some ino)
      ∨ ∃ ino cleared, t.entries[source]? = some ino ∧ source ≠ target ∧ source ≠ "/"
      ∧ target ≠ "/" ∧ Key.isBelow target source = false
      ∧ (∃ parent, Key.parent? target = some parent ∧ t.isDir parent = true)
      ∧ (t.entries[target]? = none ∧ cleared = t
        ∨ ∃ existing, t.entries[target]? = some existing ∧ existing ≠ ino
          ∧ t.displace stamp (t.isDir source) target existing = .ok cleared)
      ∧ t' = cleared.relocate stamp (t.isDir source) ino source target := by
  obtain ⟨ino, hino, h⟩ := bind_eq_ok.1 h
  split at h
  · next hsame =>
      have hkey := lookup_eq_ok.1 hino
      exact Or.inl ⟨(Except.ok.inj h).symm, ino, hkey, hsame ▸ hkey⟩
  · next hne =>
      split at h
      · cases h
      · next hroots =>
          rw [not_or] at hroots
          split at h
          · cases h
          · next hbelow =>
              obtain ⟨_, hparent, h⟩ := bind_eq_ok.1 h
              obtain ⟨inode, hinode, h⟩ := bind_eq_ok.1 h
              have hdir : t.isDir source = inode.isDir := by rw [isDir, hinode]
              rw [← hdir] at h
              have hkey := lookup_eq_ok.1 hino
              have hdirs := requireParent_eq_ok.1 hparent
              rw [Bool.not_eq_true] at hbelow
              split at h
              · next hfree =>
                  exact Or.inr ⟨ino, t, hkey, hne, hroots.1, hroots.2, hbelow, hdirs,
                    Or.inl ⟨hfree, rfl⟩, (Except.ok.inj h).symm⟩
              · next existing hexisting =>
                  split at h
                  · next hlinked =>
                      exact Or.inl ⟨(Except.ok.inj h).symm, ino, hkey, hlinked ▸ hexisting⟩
                  · next hother =>
                      obtain ⟨cleared, hcleared, h⟩ := bind_eq_ok.1 h
                      exact Or.inr ⟨ino, cleared, hkey, hne, hroots.1, hroots.2, hbelow, hdirs,
                        Or.inr ⟨existing, hexisting, hother, hcleared⟩, (Except.ok.inj h).symm⟩

/-! ## File contents -/

lemma fileData_ok {ino : Nat} {data : Bytes} (h : t.fileData key = .ok (ino, data)) :
    ∃ inode, t.entries[key]? = some ino ∧ t.inodes[ino]? = some inode
      ∧ inode.kind = .file data := by
  obtain ⟨i, hi, h⟩ := bind_eq_ok.1 h
  obtain ⟨inode, hinode, h⟩ := bind_eq_ok.1 h
  split at h
  · next bytes hk =>
      obtain ⟨rfl, rfl⟩ := Prod.mk.inj (Except.ok.inj h)
      exact ⟨inode, lookup_eq_ok.1 hi, inode_eq_ok.1 hinode, hk⟩
  · cases h
  · cases h

/-- Opening a node changes nothing, or drops the data of a file, if that is asked for. -/
lemma openFile_ok {flags : OpenFlags} (h : t.openFile stamp key flags = .ok t') :
    t' = t ∨ ∃ ino inode data, flags.contains .truncate = true ∧ t.entries[key]? = some ino
      ∧ t.inodes[ino]? = some inode ∧ inode.kind = .file data
      ∧ t' = t.modify ino (.setData stamp []) := by
  obtain ⟨ino, hino, h⟩ := bind_eq_ok.1 h
  obtain ⟨inode, hinode, h⟩ := bind_eq_ok.1 h
  split at h
  · split at h
    · cases h
    · exact Or.inl (Except.ok.inj h).symm
  · next data hk =>
      split at h
      · next hdrop =>
          exact Or.inr ⟨ino, inode, data, (Bool.and_eq_true_iff.1 hdrop).2, lookup_eq_ok.1 hino,
            inode_eq_ok.1 hinode, hk, (Except.ok.inj h).symm⟩
      · exact Or.inl (Except.ok.inj h).symm
  · exact Or.inl (Except.ok.inj h).symm

/-- A file is written to within the size that the store allows. -/
lemma write_ok {buffer : Bytes} {offset : Nat} (h : t.write stamp key buffer offset = .ok t') :
    ∃ ino inode data, t.entries[key]? = some ino ∧ t.inodes[ino]? = some inode
      ∧ inode.kind = .file data ∧ offset + buffer.length ≤ maxFileSize
      ∧ t' = t.modify ino (.setData stamp (splice data buffer offset)) := by
  obtain ⟨⟨ino, data⟩, hdata, h⟩ := bind_eq_ok.1 h
  obtain ⟨hsize, h⟩ := guard_eq_ok.1 h
  obtain ⟨inode, hkey, hinode, hk⟩ := fileData_ok hdata
  exact ⟨ino, inode, data, hkey, hinode, hk, Nat.not_lt.1 hsize, (Except.ok.inj h).symm⟩

lemma truncate_ok {length : Nat} (h : t.truncate stamp key length = .ok t') :
    ∃ ino inode data, t.entries[key]? = some ino ∧ t.inodes[ino]? = some inode
      ∧ inode.kind = .file data ∧ length ≤ maxFileSize
      ∧ t' = t.modify ino (.setData stamp ((extend data length).take length)) := by
  obtain ⟨⟨ino, data⟩, hdata, h⟩ := bind_eq_ok.1 h
  obtain ⟨hsize, h⟩ := guard_eq_ok.1 h
  obtain ⟨inode, hkey, hinode, hk⟩ := fileData_ok hdata
  exact ⟨ino, inode, data, hkey, hinode, hk, Nat.not_lt.1 hsize, (Except.ok.inj h).symm⟩

/-! ## Attributes -/

lemma chmod_ok {mode : Nat} (h : t.chmod stamp key mode = .ok t') :
    ∃ ino, t.entries[key]? = some ino
      ∧ t' = t.modify ino fun inode =>
          { inode with perm := mode &&& permissionMask, ctime := stamp.now } := by
  obtain ⟨ino, hino, h⟩ := bind_eq_ok.1 h
  obtain ⟨_, _, h⟩ := bind_eq_ok.1 h
  exact ⟨ino, lookup_eq_ok.1 hino, (Except.ok.inj h).symm⟩

lemma utimens_ok {atime mtime : Option Time} (h : t.utimens stamp key atime mtime = .ok t') :
    ∃ ino, t.entries[key]? = some ino
      ∧ t' = t.modify ino fun inode =>
          { inode with
            atime := atime.getD inode.atime
            mtime := mtime.getD inode.mtime
            ctime := stamp.now } := by
  obtain ⟨ino, hino, h⟩ := bind_eq_ok.1 h
  obtain ⟨_, _, h⟩ := bind_eq_ok.1 h
  exact ⟨ino, lookup_eq_ok.1 hino, (Except.ok.inj h).symm⟩

end Strongbox.Tree
