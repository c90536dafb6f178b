import Strongbox.Proofs.Tree.InPlace
import Strongbox.Proofs.Tree.Operations
import Strongbox.Proofs.Tree.Relocate

/-!
# Every reachable namespace is in order

A container starts with an empty tree, and from then on its tree is changed by the changes that
programs ask for, some of which fail.  Whatever they ask for, the tree stays in order.

* `WellFormed.insertNode`, `WellFormed.link`, `WellFormed.unlink`, `WellFormed.rmdir`,
  `WellFormed.rename` and `WellFormed.setData` — one step for each sort of change.
* `WellFormed.apply` — the step of any change whose paths were made keys.
* `Tree.Reachable` — the trees that a run of changes can lead to.
* **`wellFormed_of_reachable`** — all of them are well-formed.
-/

namespace Strongbox

namespace Tree

variable {t t' : Tree} {stamp : Stamp} {key source target : String}

namespace WellFormed

/-! ## Making nodes -/

lemma insertNode (h : t.WellFormed) (hkey : Key.Canonical key) {inode : Inode}
    (hlinks : inode.nlink = 1) (hlimits : inode.WithinLimits)
    (hok : t.insertNode stamp key inode = .ok t') : t'.WellFormed := by
  obtain ⟨hfree, hparent, rfl⟩ := insertNode_ok hok
  exact (h.insert_fresh hkey hfree hparent hlinks hlimits).touchParent key

lemma link (h : t.WellFormed) (htarget : Key.Canonical target)
    (hok : t.link stamp source target = .ok t') : t'.WellFormed := by
  obtain ⟨ino, inode, -, hinode, hfile, hfree, hparent, rfl⟩ := link_ok hok
  exact (h.insert_link htarget hfree hparent hinode hfile).touchParent target

/-! ## Removing nodes -/

/-- An empty directory has no keys in it. -/
lemma no_child_of_childKeys (h : t.WellFormed) (hkey : Key.Canonical key)
    (hempty : t.childKeys key = []) {child : String} {i : Nat} (hc : t.entries[child]? = some i) :
    Key.parent? child ≠ some key := by
  intro hp
  have hname := (Key.childName?_eq_some hkey (h.canonical hc)).2 ⟨hp, rfl⟩
  have hmem : child ∈ t.childKeys key := by
    rw [childKeys, List.mem_filter, Std.ExtTreeMap.mem_keys,
      Std.ExtTreeMap.mem_iff_isSome_getElem?, hc, hname]
    exact ⟨rfl, rfl⟩
  rw [hempty] at hmem
  cases hmem

/-- Nothing lies in a node that is no directory. -/
lemma no_child_of_file (h : t.WellFormed) (hfile : t.isDir key = false) {child : String} {i : Nat}
    (hc : t.entries[child]? = some i) : Key.parent? child ≠ some key := by
  intro hp
  have hroot : child ≠ "/" := by
    rintro rfl
    rw [Key.parent?_root] at hp
    cases hp
  obtain ⟨parent, hparent, hdir⟩ := h.parent hc hroot
  rw [hparent] at hp
  rw [Option.some.inj hp, hfile] at hdir
  cases hdir

lemma unlink (h : t.WellFormed) (hok : t.unlink stamp key = .ok t') : t'.WellFormed := by
  obtain ⟨ino, inode, hk, hi, hfile, rfl⟩ := unlink_ok hok
  have hdir : t.isDir key = false := (isDir_of_inode hk hi).trans hfile
  have hroot : key ≠ "/" := by
    rintro rfl
    rw [h.root_isDir] at hdir
    cases hdir
  exact (h.removeKey hk hroot (h.no_child_of_file hdir)).touchParent key

lemma rmdir (h : t.WellFormed) (hok : t.rmdir stamp key = .ok t') : t'.WellFormed := by
  obtain ⟨hroot, ino, inode, hk, -, -, hempty, rfl⟩ := rmdir_ok hok
  exact (h.removeKey hk hroot (h.no_child_of_childKeys (h.canonical hk) hempty)).touchParent key

/-! ## Moving nodes -/

/-- Removing a key of one inode leaves what another key names. -/
lemma isDir_removeKey {ino other : Nat} {k : String} (hne : k ≠ key)
    (hk : t.entries[k]? = some other) (hother : ino ≠ other) :
    (t.removeKey stamp key ino).isDir k = t.isDir k := by
  have hentry : (t.removeKey stamp key ino).entries[k]? = some other := by
    rw [Tree.removeKey, entries_release]
    exact (getElem?_erase_eq ..).trans ((if_neg (Ne.symm hne)).trans hk)
  have hinode : (t.removeKey stamp key ino).inodes[other]? = t.inodes[other]? :=
    (inodes_release ..).trans (if_neg hother)
  rw [Bool.eq_iff_iff, isDir_eq_true, isDir_eq_true]
  simp only [hentry, hk, Option.some.injEq, exists_and_left, exists_eq_left', hinode]

/-- A node is moved over another one in two steps: its target is made free, and then it is moved
there.  The tree in between is in order, and names what it named but for the target. -/
lemma cleared (h : t.WellFormed) (htarget : Key.Canonical target) {ino : Nat} {cleared : Tree}
    (hsource : t.entries[source]? = some ino) (hne : source ≠ target) (htroot : target ≠ "/")
    (hparent : ∃ parent, Key.parent? target = some parent ∧ t.isDir parent = true)
    (hcleared : t.entries[target]? = none ∧ cleared = t
      ∨ ∃ existing, t.entries[target]? = some existing ∧ existing ≠ ino
        ∧ t.displace stamp (t.isDir source) target existing = .ok cleared) :
    cleared.WellFormed ∧ (∀ key : String, cleared.entries[key]?
        = if target = key then none else t.entries[key]?)
      ∧ cleared.isDir source = t.isDir source
      ∧ ∃ parent, Key.parent? target = some parent ∧ cleared.isDir parent = true := by
  rcases hcleared with ⟨hfree, rfl⟩ | ⟨existing, hexisting, hother, hdisplaced⟩
  · refine ⟨h, fun key => ?_, rfl, hparent⟩
    split
    · next hkey => rw [← hkey, hfree]
    · rfl
  · obtain ⟨hsort, hempty, rfl⟩ := displace_ok hdisplaced
    have hchildren : ∀ {child : String} {i : Nat}, t.entries[child]? = some i →
        Key.parent? child ≠ some target := by
      cases hd : t.isDir source with
      | true => exact h.no_child_of_childKeys htarget (hempty hd)
      | false => exact h.no_child_of_file (hsort.symm.trans hd)
    refine ⟨h.removeKey hexisting htroot hchildren, fun key => ?_, isDir_removeKey hne hsource hother,
      ?_⟩
    · rw [Tree.removeKey, entries_release]
      exact getElem?_erase_eq ..
    · -- the directory of the target is not what was removed
      obtain ⟨parent, hp, hdir⟩ := hparent
      obtain ⟨i, inode, hpk, hpi, hpd⟩ := isDir_eq_true.1 hdir
      have hapart : parent ≠ target := by
        rintro rfl
        have hb := Key.isBelow_parent htarget hp htarget
        rw [Key.isBelow_irrefl] at hb
        cases hb
      have hinode : existing ≠ i := by
        rintro rfl
        exact hapart (h.dir_key_unique hpi hpd hpk hexisting)
      exact ⟨parent, hp, (isDir_removeKey hapart hpk hinode).trans hdir⟩

lemma rename (h : t.WellFormed) (htarget : Key.Canonical target)
    (hok : t.rename stamp source target = .ok t') : t'.WellFormed := by
  rcases rename_ok hok with ⟨rfl, -⟩ | ⟨ino, cleared, hsource, hne, hsroot, htroot, hbelow, hparent,
    hcleared, rfl⟩
  · exact h
  obtain ⟨hwell, hentries, hmoving, hdir⟩ := h.cleared htarget hsource hne htroot hparent hcleared
  rw [← hmoving]
  refine hwell.relocate ?_ hsroot htarget htroot ?_ (Key.not_within hne hbelow) hdir
  · rw [hentries, if_neg (Ne.symm hne), hsource]
  · rw [hentries, if_pos rfl]

/-! ## File contents -/

end WellFormed

lemma length_extend (data : Bytes) (length : Nat) :
    (extend data length).length = max data.length length := by
  rw [extend, List.length_append, List.length_replicate]
  omega

/-- A file that is written to grows up to the end of what is written. -/
lemma length_splice (data buffer : Bytes) (offset : Nat) :
    (splice data buffer offset).length = max data.length (offset + buffer.length) := by
  simp only [splice, List.length_append, List.length_take, List.length_drop, length_extend]
  omega

namespace WellFormed

/-- Other data within the size that the store allows. -/
lemma setData (h : t.WellFormed) {ino : Nat} {inode : Inode} {data new : Bytes}
    (hi : t.inodes[ino]? = some inode) (hk : inode.kind = .file data)
    (hnew : new.length ≤ maxFileSize) : (t.modify ino (.setData stamp new)).WellFormed := by
  refine h.modify fun old ho => ?_
  obtain rfl : inode = old := Option.some.inj (hi.symm.trans ho)
  refine ⟨?_, rfl, fun hl => ⟨?_, hl.perm_le⟩⟩
  · simp [Inode.isDir, Inode.setData, Inode.touchModified, hk]
  · intro data hd
    obtain rfl := NodeKind.file.inj hd
    exact hnew

lemma openFile (h : t.WellFormed) {flags : OpenFlags}
    (hok : t.openFile stamp key flags = .ok t') : t'.WellFormed := by
  rcases openFile_ok hok with rfl | ⟨ino, inode, data, -, -, hi, hk, rfl⟩
  · exact h
  · exact h.setData hi hk (Nat.zero_le _)

lemma write (h : t.WellFormed) {buffer : Bytes} {offset : Nat}
    (hok : t.write stamp key buffer offset = .ok t') : t'.WellFormed := by
  obtain ⟨ino, inode, data, -, hi, hk, hsize, rfl⟩ := write_ok hok
  refine h.setData hi hk ?_
  rw [length_splice]
  exact max_le ((h.limits hi).size_le data hk) hsize

lemma truncate (h : t.WellFormed) {length : Nat}
    (hok : t.truncate stamp key length = .ok t') : t'.WellFormed := by
  obtain ⟨ino, inode, data, -, hi, hk, hsize, rfl⟩ := truncate_ok hok
  exact h.setData hi hk ((List.length_take_le ..).trans hsize)

/-! ## Attributes -/

lemma chmod (h : t.WellFormed) {mode : Nat} (hok : t.chmod stamp key mode = .ok t') :
    t'.WellFormed := by
  obtain ⟨ino, -, rfl⟩ := chmod_ok hok
  exact h.modify fun inode _ => ⟨rfl, rfl, fun hl => ⟨hl.size_le, Nat.and_le_right⟩⟩

lemma utimens (h : t.WellFormed) {atime mtime : Option Time}
    (hok : t.utimens stamp key atime mtime = .ok t') : t'.WellFormed := by
  obtain ⟨ino, -, rfl⟩ := utimens_ok hok
  exact h.modify fun inode _ => ⟨rfl, rfl, fun hl => ⟨hl.size_le, hl.perm_le⟩⟩

end WellFormed

end Tree

/-! ## Any change -/

namespace Change

/-- The paths of a change that are looked up.  The target of a symbolic link is not. -/
def paths : Change → List String
  | .link source target | .rename source target => [source, target]
  | .create path _ | .mkdir path _ | .symlink _ path | .unlink path | .rmdir path
  | .openFile path _ | .write path _ _ | .truncate path _ | .chmod path _
  | .utimens path _ _ => [path]

/-- Resolving a change leaves canonical keys in place of its paths. -/
lemma canonical_of_resolve {change resolved : Change} (h : change.resolve = .ok resolved) :
    ∀ key ∈ resolved.paths, Key.Canonical key := by
  cases change with
  | link source target | rename source target =>
      obtain ⟨a, ha, h⟩ := bind_eq_ok.1 h
      obtain ⟨b, hb, h⟩ := bind_eq_ok.1 h
      obtain rfl := Except.ok.inj h
      intro key hkey
      rcases List.mem_cons.1 hkey with rfl | hkey
      · exact Key.normalize_canonical ha
      · rw [List.mem_singleton.1 hkey]
        exact Key.normalize_canonical hb
  | _ =>
      obtain ⟨a, ha, h⟩ := bind_eq_ok.1 h
      obtain rfl := Except.ok.inj h
      intro key hkey
      rw [List.mem_singleton.1 hkey]
      exact Key.normalize_canonical ha

/-- The tree after a change whose paths are keys.  It is as before where the change fails. -/
def after (stamp : Stamp) (t : Tree) (change : Change) : Tree :=
  (change.apply stamp t).toOption.getD t

lemma perform_snd (stamp : Stamp) (t : Tree) (change : Change) :
    (change.perform stamp t).2 = change.after stamp t := by
  rw [perform_eq_settle, after]
  cases change.apply stamp t <;> rfl

end Change

namespace Tree

variable {t t' : Tree} {stamp : Stamp}

/-- Every change keeps the tree in order. -/
theorem WellFormed.apply (h : t.WellFormed) {change : Change}
    (hkeys : ∀ key ∈ change.paths, Key.Canonical key) (hok : change.apply stamp t = .ok t') :
    t'.WellFormed := by
  cases change with
  | create key mode =>
      exact h.insertNode (hkeys key (by simp [Change.paths])) rfl
        (Inode.withinLimits_fresh fun data hd => by simp [← NodeKind.file.inj hd]) hok
  | mkdir key mode =>
      exact h.insertNode (hkeys key (by simp [Change.paths])) rfl
        (Inode.withinLimits_fresh fun data hd => NodeKind.noConfusion hd) hok
  | symlink target key =>
      exact h.insertNode (hkeys key (by simp [Change.paths])) rfl
        (Inode.withinLimits_fresh fun data hd => NodeKind.noConfusion hd) hok
  | link source target => exact h.link (hkeys target (by simp [Change.paths])) hok
  | unlink key => exact h.unlink hok
  | rmdir key => exact h.rmdir hok
  | rename source target => exact h.rename (hkeys target (by simp [Change.paths])) hok
  | openFile key flags => exact h.openFile hok
  | write key buffer offset => exact h.write hok
  | truncate key length => exact h.truncate hok
  | chmod key mode => exact h.chmod hok
  | utimens key atime mtime => exact h.utimens hok

lemma WellFormed.after (h : t.WellFormed) (stamp : Stamp) {asked change : Change}
    (hresolve : asked.resolve = .ok change) : (change.after stamp t).WellFormed := by
  rw [Change.after]
  cases ha : change.apply stamp t with
  | ok tree => exact h.apply (Change.canonical_of_resolve hresolve) ha
  | error code => exact h

/-! ## Runs -/

/-- The trees that a run of changes leads to.  The paths of every change are made keys first, and
the run goes on with whatever tree a change leaves, also where it fails. -/
inductive Reachable : Tree → Prop
  | start (stamp : Stamp) : Reachable (.empty stamp)
  | step {t : Tree} {resolved : Change} (stamp : Stamp) (change : Change) (run : Reachable t)
      (paths : change.resolve = .ok resolved) : Reachable (resolved.perform stamp t).2

/-- Whatever changes are asked for, and whichever of them fail, the tree of a container is in
order. -/
theorem wellFormed_of_reachable (h : Reachable t) : t.WellFormed := by
  induction h with
  | start stamp => exact wellFormed_empty stamp
  | @step t resolved stamp _ _ paths ih =>
      rw [Change.perform_eq_settle]
      cases ha : resolved.apply stamp t with
      | ok changed => exact ih.apply (Change.canonical_of_resolve paths) ha
      | error code => exact ih

/-- A directory that holds a linked file is moved over an empty one, after a move that fails. -/
theorem wellFormed_after_rename : ∃ t : Tree, Reachable t ∧ t.entries["/b/f"]? = some 4
    ∧ t.entries["/g"]? = some 4 ∧ t.entries["/a"]? = none ∧ t.WellFormed := by
  let stamp : Stamp := ⟨.epoch, 0, 0⟩
  have made : Reachable _ := .step stamp (.create "a/./f" 0o644)
    (.step stamp (.mkdir "/b" 0o755)
      (.step stamp (.mkdir "/a/" 0o755) (.start stamp) rfl) rfl) rfl
  have linked : Reachable _ := .step stamp (.link "/a/f" "/g") made rfl
  have failed : Reachable _ := .step stamp (.rename "/a" "/g") linked rfl
  have moved : Reachable _ := .step stamp (.rename "/a" "//b") failed rfl
  exact ⟨_, moved, by decide +kernel, by decide +kernel, by decide +kernel,
    wellFormed_of_reachable moved⟩

end Tree

end Strongbox
