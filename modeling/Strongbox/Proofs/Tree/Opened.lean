import Strongbox.Proofs.Tree.Contents
import Strongbox.Proofs.Tree.Operations

/-!
# A tree in which a node was opened

An open makes a file or finds a node, and sets permission bits.  Which of the two it is for depends
on the flags and on what the key names.

* `Tree.WantsNew` — an open that is there to make a file.
* `Tree.Reshaped` — one node may hold something new, and all others hold what they held.
* `Tree.reshaped_of_create`, `Tree.reshaped_of_openFile`, `Tree.Reshaped.chmod` — the steps of an
  open.
* **`Tree.opened_of_steps`** — both steps together.
-/

namespace Strongbox

/-- An open with such flags drops what a node holds: only a regular file that is opened for writing
can lose its data. -/
def OpenFlags.clears (flags : OpenFlags) : NodeKind → Bool
  | .file _ => flags.writes && flags.contains .truncate
  | .directory | .symlink _ => false

/-- What an inode holds, and its permission bits. -/
def Inode.held (inode : Inode) : NodeKind × Nat :=
  (inode.kind, inode.perm)

namespace Tree

variable {t t' t'' : Tree} {stamp : Stamp} {key : String} {ino mode : Nat} {kind : NodeKind}
  {flags : OpenFlags}

/-! ## What an open is for -/

/-- A key names nothing, and the key above it names a directory. -/
def Free (t : Tree) (key : String) : Prop :=
  t.entries[key]? = none ∧ ∃ parent, Key.parent? key = some parent ∧ t.isDir parent = true

/-- An open is there to make a file: either nothing else will do, or a file is made where the key is
free. -/
def WantsNew (t : Tree) (key : String) (flags : OpenFlags) : Prop :=
  flags.contains (.union .create .exclusive) = true ∨ flags.contains .create = true ∧ t.Free key

/-- A key names a node that can be opened: a directory is not opened for writing. -/
def Openable (t : Tree) (key : String) (flags : OpenFlags) : Prop :=
  ∃ inode, t.node key = .ok inode ∧ ¬(inode.isDir = true ∧ flags.writes = true)

lemma exists_create_iff (stamp : Stamp) (mode : Nat) :
    (∃ t', t.create stamp key mode = .ok t') ↔ t.Free key := by
  constructor
  · rintro ⟨t', h⟩
    obtain ⟨hkey, hparent, -⟩ := insertNode_ok h
    exact ⟨hkey, hparent⟩
  · rintro ⟨hkey, hparent⟩
    rw [create, insertNode, contains_eq_false.2 hkey, if_neg Bool.false_ne_true]
    exact ⟨_, bind_eq_ok.2 ⟨(), requireParent_eq_ok.2 hparent, rfl⟩⟩

/-- What is done when a node is opened. -/
lemma openFile_of_inode {inode : Inode} (stamp : Stamp) (hkey : t.entries[key]? = some ino)
    (hinode : t.inodes[ino]? = some inode) :
    t.openFile stamp key flags
      = if inode.isDir = true ∧ flags.writes = true then .error .isDirectory
        else .ok (if flags.clears inode.kind then t.modify ino (.setData stamp []) else t) := by
  rw [openFile, lookup_eq_ok.2 hkey, Inode.isDir]
  dsimp only [bind, Except.bind]
  rw [inode_eq_ok.2 hinode]
  dsimp only
  cases inode.kind with
  | directory => by_cases hwrites : flags.writes = true <;> simp [OpenFlags.clears, hwrites]
  | file data =>
      by_cases hclears : (flags.writes && flags.contains .truncate) = true <;>
        simp [OpenFlags.clears, hclears]
  | symlink target => simp [OpenFlags.clears]

lemma exists_openFile_iff (stamp : Stamp) :
    (∃ t', t.openFile stamp key flags = .ok t') ↔ t.Openable key flags := by
  constructor
  · rintro ⟨t', h⟩
    obtain ⟨ino, hkey, h'⟩ := bind_eq_ok.1 h
    obtain ⟨inode, hinode, -⟩ := bind_eq_ok.1 h'
    rw [lookup_eq_ok] at hkey
    rw [inode_eq_ok] at hinode
    rw [openFile_of_inode stamp hkey hinode] at h
    split at h
    · cases h
    · next hopenable => exact ⟨inode, node_eq_ok.2 ⟨ino, hkey, hinode⟩, hopenable⟩
  · rintro ⟨inode, hnode, hopenable⟩
    obtain ⟨ino, hkey, hinode⟩ := node_eq_ok.1 hnode
    exact ⟨_, (openFile_of_inode stamp hkey hinode).trans (if_neg hopenable)⟩

/-! ## The steps of an open -/

/-- A key names a node that may hold something new.  The other keys name what they named, and the
other nodes hold what they held, under the permissions that they had. -/
structure Reshaped (t : Tree) (key : String) (ino : Nat) (kind : NodeKind) (t' : Tree) : Prop where
  entry : t'.entries[key]? = some ino
  content : t'.inodes[ino]?.map Inode.kind = some kind
  entries : ∀ {other : String}, other ≠ key → t'.entries[other]? = t.entries[other]?
  inodes : ∀ {number : Nat}, number ≠ ino →
    t'.inodes[number]?.map Inode.held = t.inodes[number]?.map Inode.held

/-- Marking a directory leaves alone what every node holds. -/
lemma held_touchParent (stamp : Stamp) (key : String) (number : Nat) :
    (t.touchParent stamp key).inodes[number]?.map Inode.held
      = t.inodes[number]?.map Inode.held := by
  rw [touchParent_eq]
  split
  · rw [inodes_modify]
    split
    · rw [Option.map_map]
      rfl
    · rfl
  · rfl

/-- A file that is made is empty. -/
lemma reshaped_of_create (h : t.create stamp key mode = .ok t') :
    t.Reshaped key t.nextIno (.file []) t' := by
  obtain ⟨-, -, rfl⟩ := insertNode_ok h
  refine ⟨?_, ?_, fun {other} hother => ?_, fun {number} hnumber => ?_⟩
  · rw [entries_touchParent, getElem?_insert_eq, if_pos rfl]
  · have hkind : Inode.kind = Prod.fst ∘ Inode.held := rfl
    rw [hkind, ← Option.map_map, held_touchParent, getElem?_insert_eq, if_pos rfl]
    rfl
  · rw [entries_touchParent, getElem?_insert_eq, if_neg (Ne.symm hother)]
  · rw [held_touchParent, getElem?_insert_eq, if_neg (Ne.symm hnumber)]

/-- A node that is opened keeps its number, and what it holds unless the flags drop that. -/
lemma reshaped_of_openFile (h : t.openFile stamp key flags = .ok t') :
    ∃ ino old, t.entries[key]? = some ino ∧ t.inodes[ino]? = some old
      ∧ t.Reshaped key ino (if flags.clears old.kind then .file [] else old.kind) t' := by
  obtain ⟨old, hnode, -⟩ := (exists_openFile_iff stamp).1 ⟨t', h⟩
  obtain ⟨ino, hkey, hinode⟩ := node_eq_ok.1 hnode
  refine ⟨ino, old, hkey, hinode, ?_⟩
  rw [openFile_of_inode stamp hkey hinode] at h
  split at h
  · cases h
  · obtain rfl := Except.ok.inj h
    by_cases hclears : flags.clears old.kind = true
    · simp only [if_pos hclears]
      refine ⟨hkey, ?_, fun _ => rfl, fun {number} hnumber => ?_⟩
      · rw [inodes_modify, if_pos rfl, hinode]
        rfl
      · rw [inodes_modify, if_neg (Ne.symm hnumber)]
    · simp only [if_neg hclears]
      exact ⟨hkey, by rw [hinode]; rfl, fun _ => rfl, fun _ => rfl⟩

/-- Permission bits can be set on whatever the key names, and change nothing else. -/
lemma Reshaped.chmod (h : t.Reshaped key ino kind t') (stamp : Stamp) (mode : Nat) :
    ∃ t'', t'.chmod stamp key mode = .ok t'' ∧ t.Reshaped key ino kind t''
      ∧ t''.inodes[ino]?.map Inode.perm = some (mode &&& permissionMask) := by
  obtain ⟨inode, hinode, hkind⟩ := Option.map_eq_some_iff.1 h.content
  refine ⟨_, bind_eq_ok.2 ⟨ino, lookup_eq_ok.2 h.entry, bind_eq_ok.2 ⟨inode,
    inode_eq_ok.2 hinode, rfl⟩⟩, ⟨h.entry, ?_, h.entries, fun {number} hnumber => ?_⟩, ?_⟩
  · rw [inodes_modify, if_pos rfl, hinode]
    exact congrArg some hkind
  · rw [inodes_modify, if_neg (Ne.symm hnumber)]
    exact h.inodes hnumber
  · rw [inodes_modify, if_pos rfl, hinode]
    rfl

/-! ## Both steps -/

/-- The change that finds the node, or makes it: only where the flags ask for it, and where the key
is not found because it is missing, if anything else will do. -/
def opening (t : Tree) (key : String) (flags : OpenFlags) (mode : Nat) (name : String) : Change :=
  if flags.contains (.union .create .exclusive) = true
      ∨ flags.contains .create = true ∧ t.access key .existence = .error .noEntry
  then .create name mode else .openFile name flags

lemma access_existence (t : Tree) (key : String) :
    t.access key .existence = (t.node key).map fun _ => () := by
  rw [access]
  cases t.node key with
  | ok inode => exact bind_eq_ok.2 ⟨inode, rfl, if_pos (Or.inl rfl)⟩
  | error code => rfl

lemma access_of_free (h : t.Free key) : t.access key .existence = .error .noEntry := by
  obtain ⟨hkey, parent, hparent, hdir⟩ := h
  rw [access_existence, node, lookup_of_parent hkey hparent hdir]
  rfl

lemma not_openable_of_access {code : Errno} (h : t.access key .existence = .error code) :
    ¬t.Openable key flags := by
  rintro ⟨inode, hnode, -⟩
  rw [access_existence, hnode] at h
  cases h

/-- What is opened rather than made was not to be made. -/
lemma not_wantsNew_of_opening
    (h : ¬(flags.contains (.union .create .exclusive) = true
      ∨ flags.contains .create = true ∧ t.access key .existence = .error .noEntry)) :
    ¬t.WantsNew key flags := by
  rintro (hexclusive | ⟨hcreate, hfree⟩)
  · exact h (Or.inl hexclusive)
  · exact h (Or.inr ⟨hcreate, access_of_free hfree⟩)

/-- A file is made where the key is free, and a node is found where it can be opened. -/
lemma exists_opening_iff (t : Tree) (key : String) (flags : OpenFlags) (mode : Nat)
    (stamp : Stamp) :
    (t.WantsNew key flags →
      ((∃ t', (t.opening key flags mode key).apply stamp t = .ok t') ↔ t.Free key))
    ∧ (¬t.WantsNew key flags →
      ((∃ t', (t.opening key flags mode key).apply stamp t = .ok t') ↔ t.Openable key flags)) := by
  rw [opening]
  split
  · next hasked =>
      refine ⟨fun _ => exists_create_iff stamp mode, fun hnew => ?_⟩
      rcases hasked with hexclusive | ⟨hcreate, hmissing⟩
      · exact absurd (Or.inl hexclusive) hnew
      · -- the key is missing, but not in a directory
        refine (exists_create_iff stamp mode).trans (iff_of_false (fun hfree => ?_) ?_)
        · exact hnew (Or.inr ⟨hcreate, hfree⟩)
        · exact not_openable_of_access hmissing
  · next hasked =>
      exact ⟨fun hnew => absurd hnew (not_wantsNew_of_opening hasked),
        fun _ => exists_openFile_iff stamp⟩

/-- A tree in which a node was opened: what the key names, and that nothing else is touched. -/
structure Opened (t : Tree) (key : String) (flags : OpenFlags) (mode : Nat) (t' : Tree) :
    Prop where
  /-- A file that was made is empty, and has the number that was kept ready for it. -/
  made : t.WantsNew key flags → t'.entries[key]? = some t.nextIno
    ∧ (t'.node key).map Inode.kind = .ok (.file [])
  /-- In a tree in order, that number is new. -/
  fresh : t.WellFormed → t.WantsNew key flags → t.inodes[t.nextIno]? = none
  /-- Any other node was there before, and has lost its data only if the flags drop that. -/
  found : ¬t.WantsNew key flags → t'.entries[key]? = t.entries[key]?
    ∧ ∃ old, t.node key = .ok old
      ∧ (t'.node key).map Inode.kind = .ok (if flags.clears old.kind then .file [] else old.kind)
  perm : (t'.node key).map Inode.perm = .ok (mode &&& permissionMask)
  entries : ∀ {other : String}, other ≠ key → t'.entries[other]? = t.entries[other]?
  inodes : ∀ {ino : Nat}, t'.entries[key]? ≠ some ino →
    t'.inodes[ino]?.map Inode.held = t.inodes[ino]?.map Inode.held

lemma node_map_of_entry {α : Type} (f : Inode → α) {value : α} (hkey : t.entries[key]? = some ino)
    (hvalue : t.inodes[ino]?.map f = some value) : (t.node key).map f = .ok value := by
  obtain ⟨inode, hinode, rfl⟩ := Option.map_eq_some_iff.1 hvalue
  rw [node_eq_ok.2 ⟨ino, hkey, hinode⟩]
  rfl

/-- Where the node was found or made, its permission bits can be set, and then it is open. -/
theorem opened_of_steps (happly : (t.opening key flags mode key).apply stamp t = .ok t')
    (later : Stamp) :
    ∃ t'', t'.chmod later key mode = .ok t'' ∧ t.Opened key flags mode t'' := by
  rw [opening] at happly
  split at happly
  · next hasked =>
      have hfree : t.Free key := (exists_create_iff stamp mode).1 ⟨t', happly⟩
      have hnew : t.WantsNew key flags := hasked.imp_right fun h => ⟨h.1, hfree⟩
      obtain ⟨t'', hchmod, h, hperm⟩ := (reshaped_of_create happly).chmod later mode
      refine ⟨t'', hchmod, fun _ => ⟨h.entry, node_map_of_entry _ h.entry h.content⟩,
        fun ht _ => ?_, fun hnot => absurd hnew hnot, node_map_of_entry _ h.entry hperm,
        h.entries, fun {number} hnumber => h.inodes fun hsame => hnumber (hsame ▸ h.entry)⟩
      by_contra hsome
      obtain ⟨inode, hinode⟩ := Option.ne_none_iff_exists'.1 hsome
      exact Nat.lt_irrefl _ (ht.lt_nextIno hinode)
  · next hasked =>
      have hnew : ¬t.WantsNew key flags := not_wantsNew_of_opening hasked
      obtain ⟨ino, old, hkey, hinode, hreshaped⟩ := reshaped_of_openFile happly
      obtain ⟨t'', hchmod, h, hperm⟩ := hreshaped.chmod later mode
      exact ⟨t'', hchmod, fun hmade => absurd hmade hnew, fun _ hmade => absurd hmade hnew,
        fun _ => ⟨h.entry.trans hkey.symm, old, node_eq_ok.2 ⟨ino, hkey, hinode⟩,
          node_map_of_entry _ h.entry h.content⟩,
        node_map_of_entry _ h.entry hperm, h.entries,
        fun {number} hnumber => h.inodes fun hsame => hnumber (hsame ▸ h.entry)⟩

end Tree

end Strongbox
