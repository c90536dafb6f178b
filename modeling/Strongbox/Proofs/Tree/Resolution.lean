import Strongbox.Proofs.Tree.Renamed
import Strongbox.Proofs.Tree.Walk

/-!
# What a walk decides

Every call on a key begins with a lookup, of the key itself or of the directory that a new node is
to lie in.  So a walk along the key decides what can come of the call.

* `Tree.Unfound`, `Tree.Found` — what comes of the calls that look a key up.
* `Tree.Makes` — what comes of a call that makes a node at a key.
* **`Tree.decidedByWalk_of_canonical`** — the walk along the key decides all of it.
-/

namespace Strongbox

/-! ## Calls that look a key up -/

namespace Change

/-- The key that a change looks up before it does anything else. -/
def seeks : Change → Option String
  | .create .. | .mkdir .. | .symlink .. => none
  | .link key _ | .rename key _ | .unlink key | .rmdir key | .openFile key _ | .write key _ _
  | .truncate key _ | .chmod key _ | .utimens key _ _ => some key

/-- The key that a change gives to a new node. -/
def makes : Change → Option String
  | .create key _ | .mkdir key _ | .symlink _ key => some key
  | .link .. | .rename .. | .unlink .. | .rmdir .. | .openFile .. | .write .. | .truncate ..
  | .chmod .. | .utimens .. => none

/-- A change fails with the lookup that it begins with. -/
lemma apply_of_lookup {t : Tree} {change : Change} {key : String} {code : Errno}
    (hseeks : change.seeks = some key) (hlookup : t.lookup key = .error code) (hroot : key ≠ "/")
    (stamp : Stamp) : change.apply stamp t = .error code := by
  cases change with
  | create | mkdir | symlink => cases hseeks
  | rmdir =>
      obtain rfl := Option.some.inj hseeks
      rw [apply, Tree.rmdir, if_neg hroot, hlookup]
      rfl
  | _ =>
      obtain rfl := Option.some.inj hseeks
      simp only [apply, Tree.link, Tree.rename, Tree.unlink, Tree.openFile, Tree.write,
        Tree.truncate, Tree.fileData, Tree.chmod, Tree.utimens, hlookup]
      rfl

/-- A change that makes a node inserts one. -/
lemma apply_of_makes {change : Change} {key : String} (hmakes : change.makes = some key)
    (stamp : Stamp) :
    ∃ inode, ∀ t : Tree, change.apply stamp t = t.insertNode stamp key inode := by
  cases change with
  | create key mode | mkdir key mode | symlink target key =>
      obtain rfl := Option.some.inj hmakes
      exact ⟨_, fun _ => rfl⟩
  | _ => cases hmakes

end Change

namespace Tree

variable {t : Tree} {key : String} {ino : Nat} {inode : Inode} {code : Errno} {stamp : Stamp}
  {change : Change}

/-- What the calls that look a key up come to if it is not found. -/
structure Unfound (t : Tree) (key : String) (code : Errno) : Prop where
  getattr : t.getattr key = .error code
  read : ∀ count offset, t.read key count offset = .error code
  access : ∀ mode, t.access key mode = .error code
  change : ∀ stamp {change : Change}, change.seeks = some key →
    change.perform stamp t = (.error code, t)

/-- What they come to if an inode is found. -/
structure Found (t : Tree) (key : String) (ino : Nat) (inode : Inode) : Prop where
  getattr : ∃ stat, t.getattr key = .ok stat ∧ stat.ino = ino
  /-- Only a file is read, from its own data. -/
  read : ∀ count offset, t.read key count offset = match inode.kind with
    | .file data =>
      if count = 0 then .ok [] else if data.length ≤ offset then .error .ioFailure
      else .ok ((data.drop offset).take count)
    | .directory => .error .isDirectory
    | .symlink _ => .error .invalid
  /-- Access is granted by the owner's bits of the inode. -/
  access : ∀ mode, t.access key mode =
    if mode = .existence ∨ (inode.perm >>> 6) &&& 7 &&& mode.wanted = mode.wanted then .ok ()
    else .error .accessDenied
  chmod : ∀ stamp mode, (Change.chmod key mode).perform stamp t
    = (.ok (), t.modify ino fun inode =>
      { inode with perm := mode &&& permissionMask, ctime := stamp.now })
  /-- A directory is not unlinked, and anything else loses this key. -/
  unlink : ∀ stamp, (Change.unlink key).perform stamp t
    = if inode.isDir then (.error .isDirectory, t)
      else (.ok (), (t.removeKey stamp key ino).touchParent stamp key)
  /-- What is moved or linked is the inode. -/
  rename : ∀ stamp {target t'}, Key.Canonical target →
    (Change.rename key target).perform stamp t = (.ok (), t') → t'.entries[target]? = some ino
  link : ∀ stamp {target t'}, (Change.link key target).perform stamp t = (.ok (), t') →
    t'.entries[target]? = some ino

/-- How a change goes that makes a node. -/
structure Makes (t : Tree) (key : String) (stamp : Stamp) (change : Change) : Prop where
  /-- The key has to be new. -/
  existing : (change.perform stamp t).1 = .error .alreadyExists
    ↔ ∃ place, t.walk (Key.names key) = .ok place
  /-- Its parent has to be found. -/
  orphan : ∀ {parent missing code}, t.walk (Key.names key) = .error missing →
    Key.parent? key = some parent → t.walk (Key.names parent) = .error code →
      change.perform stamp t = (.error code, t)
  /-- And it has to be a directory. -/
  outside : ∀ {parent missing place inode}, t.walk (Key.names key) = .error missing →
    Key.parent? key = some parent → t.walk (Key.names parent) = .ok place →
      t.inodes[place.ino]? = some inode → inode.isDir = false →
        change.perform stamp t = (.error .notDirectory, t)
  /-- Nothing else is asked for. -/
  made : ∀ {parent missing place inode}, t.walk (Key.names key) = .error missing →
    Key.parent? key = some parent → t.walk (Key.names parent) = .ok place →
      t.inodes[place.ino]? = some inode → inode.isDir = true →
        ∃ t', change.perform stamp t = (.ok (), t') ∧ t'.entries[key]? = some t.nextIno

/-- A walk along a key decides what all calls on the key come to. -/
structure DecidedByWalk (t : Tree) (key : String) : Prop where
  lookup : t.lookup key = (t.walk (Key.names key)).map Place.ino
  notDirectory : t.lookup key = .error .notDirectory ↔ t.Blocked (Key.names key)
  noEntry : t.lookup key = .error .noEntry ↔ t.Lacking (Key.names key)
  codes : ∀ {code}, t.lookup key = .error code → code = .noEntry ∨ code = .notDirectory
  unfound : ∀ {code}, t.walk (Key.names key) = .error code → t.Unfound key code
  found : ∀ {place}, t.walk (Key.names key) = .ok place →
    ∃ inode, t.inodes[place.ino]? = some inode ∧ t.Found key place.ino inode
  makes : ∀ stamp {change : Change}, change.makes = some key → t.Makes key stamp change

lemma unfound_of_lookup (hlookup : t.lookup key = .error code) (hroot : key ≠ "/") :
    t.Unfound key code where
  getattr := by rw [Tree.getattr, hlookup]; rfl
  read count offset := by rw [Tree.read, fileData, hlookup]; rfl
  access mode := by rw [Tree.access, node, hlookup]; rfl
  change stamp change hseeks := by
    rw [Change.perform_eq_settle, Change.apply_of_lookup hseeks hlookup hroot, Edit.settle]

/-- A change that succeeds gives the tree that it amounts to. -/
lemma apply_of_perform {t' : Tree} (h : change.perform stamp t = (.ok (), t')) :
    change.apply stamp t = .ok t' := by
  rw [Change.perform_eq_settle] at h
  cases ha : change.apply stamp t with
  | error code => rw [ha] at h; cases h
  | ok tree => rw [ha] at h; cases h; rfl

lemma found_of_entry (h : t.WellFormed) (hkey : t.entries[key]? = some ino)
    (hinode : t.inodes[ino]? = some inode) : t.Found key ino inode where
  getattr := ⟨_, bind_eq_ok.2 ⟨ino, lookup_eq_ok.2 hkey, bind_eq_ok.2
    ⟨inode, inode_eq_ok.2 hinode, rfl⟩⟩, rfl⟩
  read count offset := by
    rw [Tree.read, fileData, lookup_eq_ok.2 hkey]
    simp only [bind, Except.bind, inode_eq_ok.2 hinode]
    cases inode.kind <;> rfl
  access mode := by
    rw [Tree.access, node_eq_ok.2 ⟨ino, hkey, hinode⟩]
    rfl
  chmod stamp mode := by
    rw [Change.perform_eq_settle, Change.apply, Tree.chmod, lookup_eq_ok.2 hkey]
    simp only [bind, Except.bind, inode_eq_ok.2 hinode]
    rfl
  unlink stamp := by
    rw [Change.perform_eq_settle, Change.apply, Tree.unlink, lookup_eq_ok.2 hkey]
    simp only [bind, Except.bind, inode_eq_ok.2 hinode]
    cases inode.isDir <;> rfl
  rename stamp target t' htarget hperform := by
    have hok : t.rename stamp key target = .ok t' := apply_of_perform hperform
    by_cases hsame : t.entries[key]? = t.entries[target]?
    · rw [eq_of_rename_linked hok hsame, ← hsame, hkey]
    · rw [(renamed_of_rename_ok h htarget hok hsame).ends.1, hkey]
  link stamp target t' hperform := by
    have hok : t.link stamp key target = .ok t' := apply_of_perform hperform
    obtain ⟨i, inode, hi, -, -, -, -, rfl⟩ := link_ok hok
    obtain rfl := Option.some.inj (hkey.symm.trans hi)
    rw [entries_touchParent, entries_modify]
    exact (getElem?_insert_eq ..).trans (if_pos rfl)

/-! ## Calls that make a node -/

lemma settle_eq_error {outcome : Except Errno Tree} :
    (Edit.settle t outcome).1 = .error code ↔ outcome = .error code := by
  cases outcome <;> simp [Edit.settle]

section Insert

variable (inode stamp)

lemma insertNode_existing (hkey : t.entries[key]? = some ino) :
    t.insertNode stamp key inode = .error .alreadyExists := by
  have hcontains : t.contains key = true := by
    rw [← Bool.not_eq_false, contains_eq_false, hkey]
    simp
  rw [insertNode, if_pos hcontains]

variable {parent : String} (hkey : t.entries[key]? = none) (hp : Key.parent? key = some parent)

include hkey

/-- A free key is given away if its parent allows it. -/
lemma insertNode_free : t.insertNode stamp key inode = t.requireParent key >>= fun _ =>
    .ok (touchParent stamp key
      { entries := t.entries.insert key t.nextIno
        inodes := t.inodes.insert t.nextIno inode
        nextIno := t.nextIno + 1 }) := by
  rw [insertNode, if_neg (by rw [contains_eq_false.2 hkey]; exact Bool.false_ne_true)]

include hp

lemma insertNode_orphan (hparent : t.lookup parent = .error code) :
    t.insertNode stamp key inode = .error code := by
  rw [insertNode_free inode stamp hkey, requireParent, hp]
  dsimp only
  rw [node, hparent]
  rfl

lemma insertNode_outside {i : Nat} {file : Inode} (hparent : t.entries[parent]? = some i)
    (hi : t.inodes[i]? = some file) (hfile : file.isDir = false) :
    t.insertNode stamp key inode = .error .notDirectory := by
  rw [insertNode_free inode stamp hkey, requireParent, hp]
  dsimp only
  rw [node_eq_ok.2 ⟨i, hparent, hi⟩]
  simp only [bind, Except.bind, hfile]
  rfl

lemma insertNode_made (hparent : t.isDir parent = true) :
    ∃ t', t.insertNode stamp key inode = .ok t' ∧ t'.entries[key]? = some t.nextIno := by
  rw [insertNode_free inode stamp hkey, requireParent_eq_ok.2 ⟨parent, hp, hparent⟩]
  refine ⟨_, rfl, ?_⟩
  rw [entries_touchParent]
  exact (getElem?_insert_eq ..).trans (if_pos rfl)

end Insert

section Makes

variable (h : t.WellFormed) (hk : Key.Canonical key)

include h hk

/-- A walk along a key fails only if the key is free. -/
lemma entries_of_walk_error (hwalk : t.walk (Key.names key) = .error code) :
    t.entries[key]? = none := by
  have hlookup := (walk_names_eq_error h hk).1 hwalk
  refine Option.eq_none_iff_forall_ne_some.2 fun ino hkey => ?_
  rw [lookup_eq_ok.2 hkey] at hlookup
  cases hlookup

/-- A free key is refused for what is above it, not for itself. -/
lemma insertNode_ne_alreadyExists (inode : Inode) (stamp : Stamp) (hkey : t.entries[key]? = none) :
    t.insertNode stamp key inode ≠ .error .alreadyExists := by
  have hroot : key ≠ "/" := by
    rintro rfl
    rw [h.root] at hkey
    cases hkey
  obtain ⟨parent, hp, -⟩ := hk.exists_parent hroot
  intro hexists
  cases hparent : t.lookup parent with
  | error code =>
      rw [insertNode_orphan inode stamp hkey hp hparent] at hexists
      obtain rfl := Except.error.inj hexists
      exact absurd (cases_of_lookup hparent) (by decide)
  | ok i =>
      have hentry := lookup_eq_ok.1 hparent
      obtain ⟨found, hi⟩ := h.inode_exists hentry
      cases hkind : found.isDir with
      | false =>
          rw [insertNode_outside inode stamp hkey hp hentry hi hkind] at hexists
          exact absurd (Except.error.inj hexists) (by decide)
      | true =>
          obtain ⟨t', hok, -⟩ := insertNode_made inode stamp hkey hp
            ((isDir_of_inode hentry hi).trans hkind)
          rw [hok] at hexists
          cases hexists

lemma makes_of_insertNode {inode : Inode}
    (hchange : change.perform stamp t = Edit.settle t (t.insertNode stamp key inode)) :
    t.Makes key stamp change where
  existing := by
    rw [hchange]
    cases hentry : t.entries[key]? with
    | some ino =>
        rw [insertNode_existing inode stamp hentry]
        exact iff_of_true rfl ⟨⟨key, ino⟩, (walk_names_eq_ok h hk).2 ⟨rfl, hentry⟩⟩
    | none =>
        refine iff_of_false (fun hexists => ?_) ?_
        · exact insertNode_ne_alreadyExists h hk inode stamp hentry (settle_eq_error.1 hexists)
        · rintro ⟨place, hplace⟩
          rw [((walk_names_eq_ok h hk).1 hplace).2] at hentry
          cases hentry
  orphan hmissing hp hparent := by
    have hkey := entries_of_walk_error h hk hmissing
    have hlookup := (walk_names_eq_error h (Key.canonical_parent hk hp)).1 hparent
    rw [hchange, insertNode_orphan inode stamp hkey hp hlookup]
    rfl
  outside hmissing hp hparent hi hfile := by
    have hkey := entries_of_walk_error h hk hmissing
    have hentry := ((walk_names_eq_ok h (Key.canonical_parent hk hp)).1 hparent).2
    rw [hchange, insertNode_outside inode stamp hkey hp hentry hi hfile]
    rfl
  made hmissing hp hparent hi hdir := by
    have hkey := entries_of_walk_error h hk hmissing
    have hentry := ((walk_names_eq_ok h (Key.canonical_parent hk hp)).1 hparent).2
    obtain ⟨t', hok, hmade⟩ :=
      insertNode_made inode stamp hkey hp ((isDir_of_inode hentry hi).trans hdir)
    rw [hchange, hok]
    exact ⟨t', rfl, hmade⟩

end Makes

/-- Whatever is asked of a key, a walk from the root along its names tells what comes of it. -/
theorem decidedByWalk_of_canonical (h : t.WellFormed) (hk : Key.Canonical key) :
    t.DecidedByWalk key where
  lookup := by
    rw [walk_names h hk]
    cases t.lookup key <;> rfl
  notDirectory := by rw [← walk_names_eq_error h hk, walk_eq_notDirectory]
  noEntry := by rw [← walk_names_eq_error h hk, walk_eq_noEntry]
  codes := cases_of_lookup
  unfound hwalk := by
    refine unfound_of_lookup ((walk_names_eq_error h hk).1 hwalk) ?_
    rintro rfl
    cases hwalk
  found hwalk := by
    have hentry := ((walk_names_eq_ok h hk).1 hwalk).2
    obtain ⟨inode, hinode⟩ := h.inode_exists hentry
    exact ⟨inode, hinode, found_of_entry h hentry hinode⟩
  makes stamp change hmakes := by
    obtain ⟨inode, hinsert⟩ := Change.apply_of_makes hmakes stamp
    exact makes_of_insertNode h hk (by rw [Change.perform_eq_settle, hinsert])

/-- A key goes on behind a file: a walk along it ends there with two names left. -/
theorem decidedByWalk_behind_file :
    let t : Tree := madeBy ⟨.epoch, 0, 0⟩ [.mkdir "/d" 0o755, .create "/d/f" 0o644]
    t.WellFormed ∧ Key.Canonical "/d/f/x/y" ∧ t.DecidedByWalk "/d/f/x/y"
      ∧ t.walk ["d", "f"] = .ok ⟨"/d/f", 3⟩ ∧ t.Unfound "/d/f/x/y" .notDirectory
      ∧ t.walk (Key.names "/d/g/x") = .error .noEntry := by
  intro t
  have h : t.WellFormed := wellFormed_madeBy (by decide +kernel)
  have hk : Key.Canonical "/d/f/x/y" :=
    Key.normalize_canonical (show Key.normalize "/d/f/x/y" = .ok "/d/f/x/y" from rfl)
  have hdecided := decidedByWalk_of_canonical h hk
  exact ⟨h, hk, hdecided, by decide +kernel, hdecided.unfound (by decide +kernel),
    by decide +kernel⟩

end Tree

end Strongbox
