import Strongbox.Proofs.Engine.Genuine
import Strongbox.Proofs.Session.OpenCall
import Strongbox.Proofs.Tree.Resolution

/-!
# Opening a stream by its options

A stream is opened with six options, which become the flags of an open.  The permission bits that go
with the flags are those that the file has, so that the open sets what is set already.

* `OpenOptions.flags_spec` — what the flags ask for.
* `OpenOptions.Opens` — what comes of an open at a key.
* `OpenOptions.runOn_steps` — the steps of an open, once the permission bits are known.
* **`OpenOptions.opens_of_genuine`** — every choice of options does what it is there for, and an open
  that fails leaves everything as it was.
-/

namespace Strongbox

variable {suite : CipherSuite} {thread : Thread} {line line' : Timeline} {c c' : OpenContainer}
  {host host' : Host} {s : Session} {path key : String} {options : OpenOptions}

/-! ## The flags of the options -/

namespace OpenOptions

/-- What the flags of an open ask for, by the options. -/
lemma flags_spec (options : OpenOptions) :
    options.flags.contains (.union .create .exclusive) = options.createNew
      ∧ options.flags.contains .create = (options.create || options.createNew)
      ∧ options.flags.contains .truncate = options.truncate
      ∧ options.flags.writes = (options.write || options.append) := by
  obtain ⟨read, write, append, truncate, create, createNew⟩ := options
  cases read <;> cases write <;> cases append <;> cases truncate <;> cases create <;>
    cases createNew <;> exact ⟨rfl, rfl, rfl, rfl⟩

lemma contains_exclusive (options : OpenOptions) :
    options.flags.contains (.union .create .exclusive) = options.createNew :=
  (flags_spec options).1

lemma contains_create (options : OpenOptions) :
    options.flags.contains .create = (options.create || options.createNew) :=
  (flags_spec options).2.1

lemma contains_truncate (options : OpenOptions) :
    options.flags.contains .truncate = options.truncate :=
  (flags_spec options).2.2.1

lemma writes_flags (options : OpenOptions) :
    options.flags.writes = (options.write || options.append) :=
  (flags_spec options).2.2.2

/-- An open that may make a file asks whether it is there, unless the file has to be new. -/
lemma probes_flags (h : options.create = true ∨ options.createNew = true) :
    Session.probes options.flags = if options.createNew then 0 else 1 := by
  rw [Session.probes, contains_exclusive, contains_create]
  cases hnew : options.createNew with
  | true => rfl
  | false =>
      rw [hnew] at h
      rw [h.resolve_right Bool.false_ne_true]
      rfl

end OpenOptions

/-! ## Permission bits -/

namespace Tree

variable {t t' : Tree} {stamp : Stamp} {mode : Nat} {flags : OpenFlags} {old inode : Inode}

/-- A file that is made is empty, and has the permission bits that were asked for. -/
lemma held_of_create (h : t.create stamp key mode = .ok t') :
    (t'.node key).map Inode.held = .ok (.file [], mode &&& permissionMask) := by
  have hentry := (reshaped_of_create h).entry
  obtain ⟨-, -, rfl⟩ := insertNode_ok h
  refine node_map_of_entry Inode.held hentry ?_
  rw [held_touchParent, getElem?_insert_eq, if_pos rfl]
  rfl

/-- A node that is opened keeps its permission bits, and what it holds unless the flags drop that. -/
lemma held_of_openFile (hnode : t.node key = .ok old) (h : t.openFile stamp key flags = .ok t') :
    (t'.node key).map Inode.held
      = .ok (if flags.clears old.kind then .file [] else old.kind, old.perm) := by
  obtain ⟨ino, hkey, hinode⟩ := node_eq_ok.1 hnode
  rw [openFile_of_inode stamp hkey hinode] at h
  split at h
  · cases h
  · obtain rfl := Except.ok.inj h
    split
    · refine node_map_of_entry Inode.held hkey ?_
      rw [inodes_modify, if_pos rfl, hinode]
      rfl
    · rw [hnode]
      rfl

/-- Permission bits that are set already may be set again. -/
lemma held_of_chmod (hnode : t.node key = .ok inode) (hperm : mode &&& permissionMask = inode.perm)
    (h : t.chmod stamp key mode = .ok t') : (t'.node key).map Inode.held = .ok inode.held := by
  obtain ⟨ino, hkey, hinode⟩ := node_eq_ok.1 hnode
  obtain ⟨number, hnumber, h⟩ := bind_eq_ok.1 h
  obtain rfl := Option.some.inj (hkey.symm.trans (lookup_eq_ok.1 hnumber))
  obtain ⟨_, -, h⟩ := bind_eq_ok.1 h
  obtain rfl := Except.ok.inj h
  refine node_map_of_entry Inode.held hkey ?_
  rw [inodes_modify, if_pos rfl, hinode, Option.map_some, Option.map_some, Inode.held, Inode.held,
    hperm]

lemma node_of_held {kind : NodeKind} {perm : Nat}
    (h : (t.node key).map Inode.held = .ok (kind, perm)) :
    ∃ inode, t.node key = .ok inode ∧ inode.kind = kind ∧ inode.perm = perm := by
  cases hnode : t.node key with
  | error code =>
      rw [hnode] at h
      cases h
  | ok inode =>
      rw [hnode] at h
      exact ⟨inode, rfl, congrArg Prod.fst (Except.ok.inj h), congrArg Prod.snd (Except.ok.inj h)⟩

end Tree

/-- A permission bit that is set already may be set again, whether the save that follows goes through
or not. -/
lemma OpenContainer.held_of_chmod {moment : Moment} {mode : Nat} {inode : Inode}
    (hnode : c.tree.node key = .ok inode) (hperm : mode &&& permissionMask = inode.perm)
    {outcome : Except Errno Unit}
    (h : c.change suite moment host (.chmod key mode) = (outcome, c', host')) :
    (c'.tree.node key).map Inode.held = .ok inode.held := by
  cases outcome with
  | error code =>
      rw [(change_error h).1, hnode]
      rfl
  | ok done => exact Tree.held_of_chmod hnode hperm (apply_of_change h)

/-! ## The steps of an open -/

/-- A failure of the engine that has an error number of its own arrives with it. -/
lemma Fault.told_eq {code : Errno} (h : Errno.ofCode code.number = code) (operation : String) :
    told operation code = .failed operation code := by
  rw [told, h]

namespace Session

/-- A step with a path that has no key fails. -/
lemma runOn_attempt_unnamed (suite : CipherSuite) (thread : Thread) (h : line.Holds c host)
    (slot : FaultSlot) {change : Change} {code : Errno} (hchange : change.resolve = .error code) :
    ∃ fault line', (attempt slot change).runOn suite thread line = (.error fault, line')
      ∧ line'.Holds c host := by
  obtain ⟨line', hrun, hline'⟩ := Call.runOn_change_unnamed suite thread change h "open" hchange
  refine ⟨(slot.chain (.told "open" code)).1, line', ?_, hline'⟩
  rw [runOn_attempt, hrun]
  rfl

/-- A path without a key is not opened, whatever is asked about it before. -/
lemma runOn_openFile_unnamed (suite : CipherSuite) (thread : Thread) (h : line.Holds c host)
    (hs : s.isMounted = true) {code : Errno} (hpath : Key.normalize path = .error code)
    (flags : OpenFlags) (mode : Nat) :
    ∃ fault line', (s.openFile path flags mode).runOn suite thread line = (.error fault, line')
      ∧ line'.Holds c host := by
  have hcreate : (Change.create path mode).resolve = .error code := by
    rw [Change.resolve, hpath]
    rfl
  have hopen : (Change.openFile path flags).resolve = .error code := by
    rw [Change.resolve, hpath]
    rfl
  obtain ⟨fault, line', hrun, hline'⟩ : ∃ fault line',
      (openOrCreate path flags mode).runOn suite thread line = (.error fault, line')
        ∧ line'.Holds c host := by
    by_cases hexclusive : flags.contains (.union .create .exclusive) = true
    · rw [openOrCreate, if_pos hexclusive]
      exact runOn_attempt_unnamed suite thread h .empty hcreate
    by_cases hask : flags.contains .create = true
    · rw [Bool.not_eq_true] at hexclusive
      obtain ⟨answer, m, haccess, -, hm⟩ := runOn_access suite thread h path .existence
      rw [openOrCreate_creating hexclusive hask, Call.runOn_bind, haccess]
      dsimp only
      split
      · exact runOn_attempt_unnamed suite thread hm .empty hopen
      · split
        · exact runOn_attempt_unnamed suite thread hm .empty hcreate
        · exact runOn_attempt_unnamed suite thread hm _ hopen
    · rw [openOrCreate, if_neg hexclusive, if_neg hask]
      exact runOn_attempt_unnamed suite thread h .empty hopen
  exact ⟨fault, line', runOn_openFile_of_error hs hrun, hline'⟩

end Session

namespace OpenOptions

/-- What an open is refused for before it has begun. -/
lemma runOn_openFile_refused (suite : CipherSuite) (thread : Thread) (h : line.Holds c host)
    (hs : s.isMounted = true) (options : OpenOptions) {fault : Fault}
    (hmode : modeOf (c.tree.atPath path Tree.getattr) = .error fault) :
    ∃ line', (options.openFile s path).runOn suite thread line = (.error fault, line')
      ∧ line'.Holds c host := by
  obtain ⟨line', hrun, hline'⟩ := runOn_modeFor suite thread h hs path
  rw [hmode] at hrun
  exact ⟨line', by rw [openFile, Call.runOn_bind, hrun], hline'⟩

/-- Once the permission bits are known, which takes one call, a stream is opened as its file is. -/
lemma runOn_openFile_allowed (suite : CipherSuite) (thread : Thread) (h : line.Holds c host)
    (hs : s.isMounted = true) (options : OpenOptions) {mode : Nat}
    (hmode : modeOf (c.tree.atPath path Tree.getattr) = .ok mode) :
    ∃ m, (line.goOn m).Holds c host ∧ ∀ {outcome line'},
      (s.openFile path options.flags mode).runOn suite thread (line.goOn m) = (outcome, line') →
        (options.openFile s path).runOn suite thread line
          = (outcome.map fun handle => ⟨handle, 0, options.append, false⟩, line') := by
  obtain ⟨m, hrun, hm⟩ := runOn_modeFor_goOn suite thread h hs path
  rw [hmode] at hrun
  refine ⟨m, hm, fun {outcome line'} hopen => ?_⟩
  rw [openFile, Call.runOn_bind, hrun]
  dsimp only
  rw [Call.runOn_bind, hopen]
  cases outcome <;> rfl

/-- How an open goes once the permission bits are known.  The file is found or made by one change, at
a certain moment, and its permission bits are set.  A failure of the first is the failure of the open,
and one of the second is none. -/
inductive Stepped (suite : CipherSuite) (options : OpenOptions) (path key : String) (mode : Nat)
    (moment : Moment) (host : Host) (c : OpenContainer) :
    Except Fault FileStream → OpenContainer → Host → Prop
  | refused {code : Errno} {fault : Fault}
      (hchange : c.change suite moment host (c.tree.opening key options.flags mode key)
        = (.error code, c, host))
      (htold : c.tree.Probed key → fault = .told "open" code) :
      Stepped suite options path key mode moment host c (.error fault) c host
  | opened {c₁ c' : OpenContainer} {host₁ host' : Host} {later : Moment}
      {outcome : Except Errno Unit}
      (hchange : c.change suite moment host (c.tree.opening key options.flags mode key)
        = (.ok (), c₁, host₁))
      (hchmod : c₁.change suite later host₁ (.chmod key mode) = (outcome, c', host')) :
      Stepped suite options path key mode moment host c
        (.ok ⟨.ofPath path, 0, options.append, false⟩) c' host'

/-- Every open with a key goes like this, once its permission bits are known.  The change is its third
call if it asks whether the file is there, and its second one if not. -/
lemma runOn_steps (suite : CipherSuite) (thread : Thread) (h : line.Holds c host)
    (hs : s.isMounted = true) (hkey : Key.normalize path = .ok key) (options : OpenOptions)
    {mode : Nat} (hmode : modeOf (c.tree.atPath path Tree.getattr) = .ok mode) :
    ∃ outcome line' c' host', (options.openFile s path).runOn suite thread line = (outcome, line')
      ∧ line'.Holds c' host'
      ∧ Stepped suite options path key mode
        (line.moments (line.calls + 1 + Session.probes options.flags)) host c outcome c' host' := by
  obtain ⟨m, hm, hopens⟩ := runOn_openFile_allowed suite thread h hs options hmode
  obtain ⟨tell, found, line₂, c₁, host₁, hfound, hline₂, hchange, htell, -⟩ :=
    Session.runOn_openOrCreate_change suite thread hm hkey options.flags mode
  cases found with
  | error code =>
      obtain ⟨rfl, rfl⟩ := OpenContainer.change_error hchange
      refine ⟨_, line₂, c₁, host₁, hopens (Session.runOn_openFile_of_error hs hfound), hline₂,
        .refused hchange fun hprobed => ?_⟩
      rw [htell hprobed]
  | ok done =>
      rcases hchmod : c₁.change suite line₂.moment host₁ (.chmod key mode)
        with ⟨result, c₂, host₂⟩
      obtain ⟨line₃, hopened, hline₃⟩ := Session.runOn_openFile hs hfound hline₂ hkey hchmod
      exact ⟨_, line₃, c₂, host₂, hopens hopened, hline₃, .opened hchange hchmod⟩

/-! ## What is there -/

section Modes

variable (hkey : Key.normalize path = .ok key)

include hkey

lemma modeOf_of_node (ht : c.tree.WellFormed) {inode : Inode} (hnode : c.tree.node key = .ok inode) :
    modeOf (c.tree.atPath path Tree.getattr)
      = if inode.isDir then .error (.failed "open" .isDirectory) else .ok inode.perm := by
  obtain ⟨ino, hentry, hinode⟩ := Tree.node_eq_ok.1 hnode
  obtain ⟨stat, hstat⟩ := Tree.exists_getattr hentry hinode
  rw [Tree.atPath_of_normalize hkey, hstat, modeOf, ht.isDir_of_getattr hstat,
    Tree.isDir_of_inode hentry hinode, ht.permissions_of_getattr hstat hentry hinode]

lemma modeOf_of_isDir (ht : c.tree.WellFormed) (hdir : c.tree.isDir key = true) :
    modeOf (c.tree.atPath path Tree.getattr) = .error (.failed "open" .isDirectory) := by
  obtain ⟨ino, inode, hentry, hinode, hdir⟩ := Tree.isDir_eq_true.1 hdir
  rw [modeOf_of_node hkey ht (Tree.node_eq_ok.2 ⟨ino, hentry, hinode⟩), if_pos hdir]

lemma modeOf_of_not_isDir (ht : c.tree.WellFormed) {inode : Inode}
    (hnode : c.tree.node key = .ok inode) (hfile : inode.isDir = false) :
    modeOf (c.tree.atPath path Tree.getattr) = .ok inode.perm := by
  rw [modeOf_of_node hkey ht hnode, hfile, if_neg Bool.false_ne_true]

lemma modeOf_of_free (hfree : c.tree.Free key) :
    modeOf (c.tree.atPath path Tree.getattr) = .ok newFileMode := by
  obtain ⟨hnone, parent, hparent, hdir⟩ := hfree
  have hstat : c.tree.getattr key = .error .noEntry := by
    rw [Tree.getattr, Tree.lookup_of_parent hnone hparent hdir]
    rfl
  have hmissing : (Fault.told "stat" .noEntry).isErrno .noEntry = true := by
    rw [Fault.isErrno_told]
    decide +kernel
  rw [Tree.atPath_of_normalize hkey, hstat, modeOf, if_pos hmissing]

end Modes

/-- What comes of an open where there is a node that is no directory.  It is refused if it has to be
new, and opened if not.  In any case it keeps its permission bits, and loses what it holds only if
that is asked for. -/
structure OpensExisting (options : OpenOptions) (key : String) (old : Inode) (c c' : OpenContainer)
    (outcome : Except Fault FileStream) : Prop where
  refused : options.createNew = true → outcome = .error (.failed "open" .alreadyExists)
  /-- What is opened may have to be saved, but only if its data could be dropped. -/
  opened : options.createNew = false → outcome.isOk = true
    ∨ options.truncate = true ∧ c.transaction = none
      ∧ outcome = .error (.failed "open" .ioFailure)
  kept : ∃ new, c'.tree.node key = .ok new ∧ new.perm = old.perm
    ∧ (¬(options.truncate = true ∧ (options.write = true ∨ options.append = true)) →
      new.kind = old.kind)

/-- The options ask for a file that is missing. -/
def WantsFile (options : OpenOptions) : Prop :=
  options.create = true ∨ options.createNew = true

/-- What comes of an open where a directory lacks the file.  It is made exactly if that is asked for
and the tree with the file in it is saved, unless a transaction puts the save off. -/
structure OpensAbsent (suite : CipherSuite) (options : OpenOptions) (key : String)
    (saving : Moment) (host : Host) (c c' : OpenContainer) (outcome : Except Fault FileStream)
    (tree : Tree) : Prop where
  created : c.tree.create saving.stamp key 0o600 = .ok tree
  opened : outcome.isOk = true ↔ options.WantsFile ∧ (c.transaction = none →
    (({ c with tree := tree } : OpenContainer).persist suite saving host).isOk = true)
  made : outcome.isOk = true →
    ∃ new, c'.tree.node key = .ok new ∧ new.kind = .file [] ∧ new.perm = 0o600
  missing : ¬options.WantsFile → outcome = .error (.failed "open" .noEntry)
  unsaved : options.WantsFile → outcome.isOk = false → outcome = .error (.failed "open" .ioFailure)

/-- What comes of an open at a key, for all that the key may name.  A file that is made is saved at a
certain moment. -/
structure Opens (suite : CipherSuite) (options : OpenOptions) (key : String) (saving : Moment)
    (host : Host) (c c' : OpenContainer) (outcome : Except Fault FileStream) : Prop where
  directory : c.tree.isDir key = true → outcome = .error (.failed "open" .isDirectory)
  existing : ∀ {old}, c.tree.node key = .ok old → old.isDir = false →
    OpensExisting options key old c c' outcome
  absent : c.tree.Free key → ∃ tree, OpensAbsent suite options key saving host c c' outcome tree

section Steps

variable {moment saving : Moment} {mode : Nat} {outcome : Except Fault FileStream}

/-- Data is dropped only if that is asked for. -/
lemma clears_eq_false
    (h : ¬(options.truncate = true ∧ (options.write = true ∨ options.append = true)))
    (kind : NodeKind) : options.flags.clears kind = false := by
  cases kind with
  | file data =>
      rw [OpenFlags.clears, writes_flags, contains_truncate, Bool.eq_false_iff]
      intro hboth
      rw [Bool.and_eq_true, Bool.or_eq_true] at hboth
      exact h hboth.symm
  | directory | symlink => rfl

/-- A node that is there is found if it need not be new. -/
lemma opening_of_node {old : Inode} (hnode : c.tree.node key = .ok old)
    (hnew : options.createNew = false) (mode : Nat) :
    c.tree.opening key options.flags mode key = .openFile key options.flags := by
  refine if_neg ?_
  rw [contains_exclusive, hnew, Tree.access_existence, hnode]
  rintro (hexclusive | ⟨-, hmissing⟩)
  · cases hexclusive
  · cases hmissing

/-- A file is made where it is missing and asked for. -/
lemma opening_of_free (hfree : c.tree.Free key) (hwants : options.WantsFile) (mode : Nat) :
    c.tree.opening key options.flags mode key = .create key mode := by
  refine if_pos ?_
  rw [contains_exclusive, contains_create, Bool.or_eq_true]
  exact Or.inr ⟨hwants, Tree.access_of_free hfree⟩

lemma opening_of_unwanted (hwants : ¬options.WantsFile) (t : Tree) (mode : Nat) :
    t.opening key options.flags mode key = .openFile key options.flags := by
  refine if_neg ?_
  rw [contains_exclusive, contains_create, Bool.or_eq_true]
  rintro (hexclusive | ⟨hcreate, -⟩)
  · exact hwants (Or.inr hexclusive)
  · exact hwants hcreate

/-- A node that has to be new is not. -/
lemma Stepped.refused_of_createNew
    (h : Stepped suite options path key mode moment host c outcome c' host') {old : Inode}
    (hnode : c.tree.node key = .ok old) (hnew : options.createNew = true) :
    outcome = .error (.failed "open" .alreadyExists) ∧ c' = c := by
  obtain ⟨ino, hentry, -⟩ := Tree.node_eq_ok.1 hnode
  have hopening : c.tree.opening key options.flags mode key = .create key mode :=
    if_pos (Or.inl ((contains_exclusive options).trans hnew))
  have hchange : c.change suite moment host (.create key mode) = (.error .alreadyExists, c, host) :=
    OpenContainer.change_of_error (Tree.insertNode_existing _ _ hentry)
  cases h with
  | refused hrefused htold =>
      rw [hopening] at hrefused
      cases hchange.symm.trans hrefused
      have hprobed : c.tree.Probed key := Or.inl (by rw [Tree.access_existence, hnode]; rfl)
      rw [htold hprobed, Fault.told_eq (by decide +kernel)]
      exact ⟨rfl, rfl⟩
  | opened hopened =>
      rw [hopening] at hopened
      cases hchange.symm.trans hopened

/-- A node that need not be new is opened, or its data could be dropped and was not. -/
lemma Stepped.opened_of_node
    (h : Stepped suite options path key mode moment host c outcome c' host') {old : Inode}
    (hnode : c.tree.node key = .ok old) (hold : old.isDir = false)
    (hnew : options.createNew = false) :
    outcome.isOk = true ∨ options.truncate = true ∧ c.transaction = none
      ∧ outcome = .error (.failed "open" .ioFailure) := by
  obtain ⟨ino, hentry, hinode⟩ := Tree.node_eq_ok.1 hnode
  have happly : (Change.openFile key options.flags).apply moment.stamp c.tree = .ok _ :=
    (Tree.openFile_of_inode moment.stamp hentry hinode).trans (if_neg (by simp [hold]))
  cases h with
  | opened => exact Or.inl rfl
  | refused hrefused htold =>
      rw [opening_of_node hnode hnew] at hrefused
      obtain rfl := OpenContainer.code_of_change hrefused happly
      obtain ⟨hsaving, hnone, -⟩ := OpenContainer.persist_error_of_change hrefused happly
      have htruncate : options.truncate = true := by
        rw [← contains_truncate]
        by_contra hnot
        rw [Change.saving, if_neg hnot] at hsaving
        cases hsaving
      have hprobed : c.tree.Probed key := Or.inl (by rw [Tree.access_existence, hnode]; rfl)
      rw [htold hprobed, Fault.told_eq (by decide +kernel)]
      exact Or.inr ⟨htruncate, hnone, rfl⟩

lemma Stepped.existing (h : Stepped suite options path key mode moment host c outcome c' host')
    {old : Inode} (hnode : c.tree.node key = .ok old) (hold : old.isDir = false)
    (hlimits : old.perm ≤ permissionMask) (hmode : mode = old.perm) :
    OpensExisting options key old c c' outcome := by
  refine ⟨fun hnew => (h.refused_of_createNew hnode hnew).1, h.opened_of_node hnode hold, ?_⟩
  cases hnew : options.createNew with
  | true =>
      rw [(h.refused_of_createNew hnode hnew).2]
      exact ⟨old, hnode, rfl, fun _ => rfl⟩
  | false =>
      cases h with
      | refused => exact ⟨old, hnode, rfl, fun _ => rfl⟩
      | opened hopened hchmod =>
          rw [opening_of_node hnode hnew] at hopened
          obtain ⟨found, hfound, hkind, hperm⟩ := Tree.node_of_held
            (Tree.held_of_openFile hnode (OpenContainer.apply_of_change hopened))
          have hmask : mode &&& permissionMask = found.perm := by
            rw [hmode, hperm]
            exact Nat.and_two_pow_sub_one_of_lt_two_pow (n := 12) (Nat.lt_succ_of_le hlimits)
          obtain ⟨new, hset, hkind', hperm'⟩ :=
            Tree.node_of_held (OpenContainer.held_of_chmod hfound hmask hchmod)
          refine ⟨new, hset, hperm'.trans hperm, fun hkeeps => ?_⟩
          rw [hkind', hkind, clears_eq_false hkeeps, if_neg Bool.false_ne_true]

/-- A file that is made is saved, unless a transaction is open. -/
lemma Stepped.made (h : Stepped suite options path key newFileMode moment host c outcome c' host')
    (hfree : c.tree.Free key) (hwants : options.WantsFile) {tree : Tree}
    (htree : c.tree.create moment.stamp key 0o600 = .ok tree) :
    OpensAbsent suite options key moment host c c' outcome tree := by
  have happly : (Change.create key newFileMode).apply moment.stamp c.tree = .ok tree := htree
  cases h with
  | refused hrefused htold =>
      rw [opening_of_free hfree hwants] at hrefused
      obtain rfl := OpenContainer.code_of_change hrefused happly
      obtain ⟨-, hnone, e, hsave⟩ := OpenContainer.persist_error_of_change hrefused happly
      refine ⟨htree, iff_of_false Bool.false_ne_true fun hsaved => ?_, nofun,
        fun hnot => absurd hwants hnot, fun _ _ => ?_⟩
      · have hok := hsaved.2 hnone
        rw [hsave] at hok
        cases hok
      · rw [htold (Or.inr (Tree.access_of_free hfree)), Fault.told_eq (by decide +kernel)]
  | opened hopened hchmod =>
      rw [opening_of_free hfree hwants] at hopened
      obtain rfl := Except.ok.inj (happly.symm.trans (OpenContainer.apply_of_change hopened))
      obtain ⟨found, hfound, hkind, hperm⟩ := Tree.node_of_held (Tree.held_of_create htree)
      obtain ⟨new, hset, hkind', hperm'⟩ :=
        Tree.node_of_held (OpenContainer.held_of_chmod hfound hperm.symm hchmod)
      refine ⟨htree, iff_of_true rfl ⟨hwants, fun hnone => ?_⟩,
        fun _ => ⟨new, hset, hkind'.trans hkind, hperm'.trans hperm⟩,
        fun hnot => absurd hwants hnot, nofun⟩
      rw [OpenContainer.persist_of_change hopened rfl hnone]
      rfl

/-- A file that nobody asked for is missing. -/
lemma Stepped.missing (h : Stepped suite options path key mode moment host c outcome c' host')
    (hfree : c.tree.Free key) (hwants : ¬options.WantsFile) :
    outcome = .error (.failed "open" .noEntry) := by
  obtain ⟨hnone, parent, hparent, hdir⟩ := hfree
  have happly : (Change.openFile key options.flags).apply moment.stamp c.tree = .error .noEntry := by
    rw [Change.apply, Tree.openFile, Tree.lookup_of_parent hnone hparent hdir]
    rfl
  have hchange : c.change suite moment host (.openFile key options.flags)
      = (.error .noEntry, c, host) := OpenContainer.change_of_error happly
  cases h with
  | refused hrefused htold =>
      rw [opening_of_unwanted hwants] at hrefused
      cases hchange.symm.trans hrefused
      rw [htold (Or.inr (Tree.access_of_free ⟨hnone, parent, hparent, hdir⟩)),
        Fault.told_eq (by decide +kernel)]
  | opened hopened =>
      rw [opening_of_unwanted hwants] at hopened
      cases hchange.symm.trans hopened

lemma Stepped.absent (h : Stepped suite options path key newFileMode moment host c outcome c' host')
    (hfree : c.tree.Free key) (hsaving : options.WantsFile → moment = saving) :
    ∃ tree, OpensAbsent suite options key saving host c c' outcome tree := by
  obtain ⟨tree, htree⟩ := (Tree.exists_create_iff saving.stamp 0o600).2 hfree
  refine ⟨tree, ?_⟩
  by_cases hwants : options.WantsFile
  · obtain rfl := hsaving hwants
    exact h.made hfree hwants htree
  · obtain rfl := h.missing hfree hwants
    exact ⟨htree, iff_of_false Bool.false_ne_true fun hboth => hwants hboth.1, nofun, fun _ => rfl,
      fun hboth => absurd hboth hwants⟩

/-- Where the permission bits cannot be told, that is what the open fails with. -/
lemma opens_of_refused (ht : c.tree.WellFormed) (hkey : Key.normalize path = .ok key)
    {fault : Fault} (hmode : modeOf (c.tree.atPath path Tree.getattr) = .error fault) :
    Opens suite options key saving host c c (.error fault) where
  directory hdir :=
    congrArg Except.error (Except.error.inj (hmode.symm.trans (modeOf_of_isDir hkey ht hdir)))
  existing hnode hold := nomatch hmode.symm.trans (modeOf_of_not_isDir hkey ht hnode hold)
  absent hfree := nomatch hmode.symm.trans (modeOf_of_free hkey hfree)

lemma Stepped.opens (h : Stepped suite options path key mode moment host c outcome c' host')
    (ht : c.tree.WellFormed) (hkey : Key.normalize path = .ok key)
    (hmode : modeOf (c.tree.atPath path Tree.getattr) = .ok mode)
    (hsaving : options.WantsFile → moment = saving) :
    Opens suite options key saving host c c' outcome := by
  refine ⟨fun hdir => ?_, fun {old} hnode hold => ?_, fun hfree => ?_⟩
  · cases hmode.symm.trans (modeOf_of_isDir hkey ht hdir)
  · obtain ⟨ino, -, hinode⟩ := Tree.node_eq_ok.1 hnode
    exact h.existing hnode hold (ht.limits hinode).perm_le
      (Except.ok.inj (hmode.symm.trans (modeOf_of_not_isDir hkey ht hnode hold)))
  · obtain rfl := Except.ok.inj (hmode.symm.trans (modeOf_of_free hkey hfree))
    exact h.absent hfree hsaving

end Steps

/-- **Every choice of options does what it is there for.**  An open that fails leaves everything as
it was.  A directory is refused, and anything else that is there keeps its permission bits; a file
that is missing in a directory is made with the permission bits for new files if that is asked for.
It is saved by the second call of the open, or by the third one if the open asks first whether it is
there. -/
theorem opens_of_genuine (suite : CipherSuite) (thread : Thread)
    (hgenuine : line.machine.Genuine suite) (h : line.Holds c host) (hs : s.isMounted = true)
    (options : OpenOptions) (path : String) :
    ∃ outcome line' c' host', (options.openFile s path).runOn suite thread line = (outcome, line')
      ∧ line'.Holds c' host'
      ∧ ((∃ fault, outcome = .error fault) → c' = c ∧ host' = host)
      ∧ (∀ f, outcome = .ok f → f = ⟨.ofPath path, 0, options.append, false⟩)
      ∧ ∀ {key}, Key.normalize path = .ok key →
        Opens suite options key (line.moments (line.calls + if options.createNew then 1 else 2))
          host c c' outcome := by
  have ht := (Machine.sound_of_genuine hgenuine h.opened).tree
  cases hmode : modeOf (c.tree.atPath path Tree.getattr) with
  | error fault =>
      obtain ⟨line', hrun, hline'⟩ := runOn_openFile_refused suite thread h hs options hmode
      exact ⟨_, line', c, host, hrun, hline', fun _ => ⟨rfl, rfl⟩, nofun,
        fun hkey => opens_of_refused ht hkey hmode⟩
  | ok mode =>
      cases hkey : Key.normalize path with
      | error code =>
          obtain ⟨m, hm, hopens⟩ := runOn_openFile_allowed suite thread h hs options hmode
          obtain ⟨fault, line', hrun, hline'⟩ :=
            Session.runOn_openFile_unnamed suite thread hm hs hkey options.flags mode
          exact ⟨_, line', c, host, hopens hrun, hline', fun _ => ⟨rfl, rfl⟩, nofun, nofun⟩
      | ok key =>
          obtain ⟨outcome, line', c', host', hrun, hline', hstepped⟩ :=
            runOn_steps suite thread h hs hkey options hmode
          refine ⟨outcome, line', c', host', hrun, hline', ?_, ?_, fun hsame => ?_⟩
          · rintro ⟨fault, rfl⟩
            cases hstepped
            exact ⟨rfl, rfl⟩
          · rintro f rfl
            cases hstepped
            rfl
          · obtain rfl := Except.ok.inj hsame
            refine hstepped.opens ht hkey hmode fun hwants => ?_
            rw [probes_flags hwants, Nat.add_assoc]
            cases options.createNew <;> rfl

/-- A file that is opened to be cut, but only for reading, keeps its data and its permission bits.  A
file that is opened to be appended to is made where it is missing. -/
theorem opens_after_write :
    let cut : OpenOptions := { read := true, truncate := true }
    let extended : OpenOptions := { append := true, create := true }
    ∃ (line opened made : Timeline) (s : Session) (c c₁ c₂ : OpenContainer) (host₁ host₂ : Host)
      (f g : FileStream), line.machine.Genuine .standard ∧ s.isMounted = true
        ∧ line.Holds c line.machine.host
        ∧ (cut.openFile s "/f").runOn .standard mainThread line = (.ok f, opened)
        ∧ opened.Holds c₁ host₁
        ∧ (c₁.tree.node "/f").map Inode.held = .ok (.file [7], 0o640)
        ∧ (extended.openFile s "/g").runOn .standard mainThread line = (.ok g, made)
        ∧ made.Holds c₂ host₂ ∧ (c₂.tree.node "/g").map Inode.held = .ok (.file [], 0o600) := by
  intro cut extended
  let moment : Moment := ⟨⟨.epoch, 0, 0⟩, [], .ofNat 0, none⟩
  suffices h : ∃ m : Machine, m.Genuine .standard ∧ ∃ c ∈ m.engine.opened,
      (c.tree.node "/f").map Inode.held = .ok (.file [7], 0o640)
        ∧ c.transaction ≠ none ∧ c.tree.entries["/g"]? = none ∧ c.tree.isDir "/" = true by
    obtain ⟨m, hm, c, hopen, hheld, hinside, hnone, hroot⟩ := h
    let line : Timeline := ⟨m, fun _ => moment, 0⟩
    let s : Session := ⟨some "/box", some ⟨1⟩⟩
    have hs : s.isMounted = true := rfl
    have hline : line.Holds c line.machine.host := ⟨hopen, rfl⟩
    obtain ⟨cutting, opened, c₁, host₁, hcut, hopened, -, -, hfile⟩ :=
      opens_of_genuine .standard mainThread hm hline hs cut "/f"
    obtain ⟨making, made, c₂, host₂, hextended, hmade, -, -, hmissing⟩ :=
      opens_of_genuine .standard mainThread hm hline hs extended "/g"
    obtain ⟨old, hold, hkind, hperm⟩ := Tree.node_of_held hheld
    have hkeyF : Key.normalize "/f" = .ok "/f" := rfl
    have hkeyG : Key.normalize "/g" = .ok "/g" := rfl
    have hexisting := (hfile hkeyF).existing hold (by rw [Inode.isDir, hkind]; rfl)
    obtain ⟨tree, habsent⟩ := (hmissing hkeyG).absent ⟨hnone, "/", rfl, hroot⟩
    obtain ⟨f, rfl⟩ := exists_of_isOk
      ((hexisting.opened rfl).resolve_right fun hsaved => hinside hsaved.2.1)
    have hmakes := habsent.opened.2 ⟨Or.inl rfl, fun hnot => absurd hnot hinside⟩
    obtain ⟨g, rfl⟩ := exists_of_isOk hmakes
    obtain ⟨cutNode, hcutNode, hcutPerm, hcutKind⟩ := hexisting.kept
    obtain ⟨newNode, hnewNode, hnewKind, hnewPerm⟩ := habsent.made hmakes
    refine ⟨line, opened, made, s, c, c₁, c₂, host₁, host₂, f, g, hm, hs, hline, hcut, hopened, ?_,
      hextended, hmade, ?_⟩
    · rw [hcutNode, Except.map, Inode.held, hcutKind (by decide), hcutPerm, hkind, hperm]
    · rw [hnewNode, Except.map, Inode.held, hnewKind, hnewPerm]
  let key : Credential := .key (List.replicate 32 0)
  have opened : Machine.Genuine .standard _ :=
    .call (.start .standard (.bare ⟨4096, 0, 0, 0, 0, 255⟩ "/")) moment mainThread
      (.openContainer "/box" key) (by decide +kernel)
  have made : Machine.Genuine .standard _ :=
    .call opened moment mainThread (.change (.create "/f" 0o640)) rfl
  have written : Machine.Genuine .standard _ :=
    .call made moment mainThread (.change (.write "/f" [7] 0)) rfl
  have begun : Machine.Genuine .standard _ := .call written moment mainThread .beginTransaction rfl
  exact ⟨_, begun, by decide +kernel⟩

end OpenOptions

end Strongbox
