import Strongbox.Proofs.Tree.Renamed

/-!
# What a change can do

Twelve changes come down to four things that happen to a tree: nothing, one inode is altered, one
key comes or goes, or a node moves.  Afterwards the directories of the keys that came or went are
marked.  Whatever holds of every change is proved for these four.

* `Tree.touchParents` — marking the directories of some keys.
* `Tree.Step` — what can happen, and **`Tree.step_of_apply`**, **`Tree.step_of_perform`**: nothing
  else does, whether the change succeeds or not.
-/

namespace Strongbox

namespace Change

/-- A change alters an inode: its data if it is a file, its permissions or its times. -/
def Alters (stamp : Stamp) (inode new : Inode) : Change → Prop
  | .openFile .. | .write .. | .truncate .. =>
    ∃ old data, inode.kind = .file old ∧ new = inode.setData stamp data
  | .chmod _ mode => new = { inode with perm := mode &&& permissionMask, ctime := stamp.now }
  | .utimens _ atime mtime => new =
    { inode with
      atime := atime.getD inode.atime
      mtime := mtime.getD inode.mtime
      ctime := stamp.now }
  | .create .. | .mkdir .. | .symlink .. | .link .. | .unlink .. | .rmdir .. | .rename .. => False

end Change

namespace Tree

variable {t t' base : Tree} {stamp : Stamp} {key source target : String} {ino : Nat}
  {change : Change}

/-- Mark the directories of some keys. -/
def touchParents (stamp : Stamp) (keys : List String) (t : Tree) : Tree :=
  keys.foldl (fun t key => t.touchParent stamp key) t

@[simp] lemma entries_touchParents (stamp : Stamp) (keys : List String) :
    (t.touchParents stamp keys).entries = t.entries := by
  induction keys generalizing t with
  | nil => rfl
  | cons key keys ih => exact (ih (t := t.touchParent stamp key)).trans (entries_touchParent ..)

lemma inodes_touchParent : (t.touchParent stamp key).inodes[ino]?
    = if (Key.parent? key).bind (t.entries[·]?) = some ino
      then t.inodes[ino]?.map (.touchModified stamp) else t.inodes[ino]? := by
  rw [touchParent_eq]
  split
  · next i hi => simp only [inodes_modify, hi, Option.some.injEq]
  · next hnone => rw [hnone, if_neg (by simp)]

/-- An inode is marked, once or more often, if it is the directory of one of the keys. -/
lemma inodes_touchParents (keys : List String) : (t.touchParents stamp keys).inodes[ino]?
    = if ∃ key ∈ keys, (Key.parent? key).bind (t.entries[·]?) = some ino
      then t.inodes[ino]?.map (.touchModified stamp) else t.inodes[ino]? := by
  induction keys generalizing t with
  | nil => simp [touchParents]
  | cons key keys ih =>
      refine (ih (t := t.touchParent stamp key)).trans ?_
      simp only [entries_touchParent, inodes_touchParent, List.exists_mem_cons_iff]
      -- marking an inode a second time changes nothing
      by_cases hkey : (Key.parent? key).bind (t.entries[·]?) = some ino
      · cases t.inodes[ino]? <;> simp [hkey, Inode.touchModified]
      · simp [hkey]

/-- What has happened to a tree before the directories of some keys are marked. -/
inductive Step (stamp : Stamp) (t : Tree) : Change → Tree → List String → Prop
  | idle {change : Change} : Step stamp t change t []
  /-- One inode is not what it was. -/
  | altered {change : Change} {key : String} {ino : Nat} {inode : Inode} {alter : Inode → Inode}
      (named : change.paths = [key]) (entry : t.entries[key]? = some ino)
      (found : t.inodes[ino]? = some inode) (alters : change.Alters stamp inode (alter inode)) :
      Step stamp t change (t.modify ino alter) []
  /-- One key names something else, or something instead of nothing, or nothing any more. -/
  | keyed {change : Change} {key : String} {base : Tree} (named : key ∈ change.paths)
      (differs : base.entries[key]? ≠ t.entries[key]?)
      (others : ∀ {other : String}, other ≠ key → base.entries[other]? = t.entries[other]?)
      (inodes : ∀ {ino : Nat} {inode kept : Inode}, t.inodes[ino]? = some inode →
        base.inodes[ino]? = some kept → inode.Survives kept) :
      Step stamp t change base [key]
  /-- A node takes the place of another one, or of none, with everything below it. -/
  | moved {source target : String} {base : Tree} {ino : Nat} (source_ne : source ≠ "/")
      (target_ne : target ≠ "/") (entry : t.entries[source]? = some ino)
      (differs : t.entries[source]? ≠ t.entries[target]?)
      (apart : ∀ {key : String}, Key.Canonical key → Key.Within key source →
        ¬ Key.Within key target)
      (renamed : t.Renamed source target (base.touchParents stamp [source, target]))
      (inodes : ∀ {ino : Nat} {inode kept : Inode}, t.inodes[ino]? = some inode →
        base.inodes[ino]? = some kept → inode.Survives kept) :
      Step stamp t (.rename source target) base [source, target]

/-! ## Each change -/

/-- A new node comes under a key that named nothing. -/
lemma step_of_insertNode (h : t.WellFormed) {inode : Inode} (hnamed : key ∈ change.paths)
    (hok : t.insertNode stamp key inode = .ok t') :
    ∃ base keys, t' = base.touchParents stamp keys ∧ Step stamp t change base keys := by
  obtain ⟨hfree, -, rfl⟩ := insertNode_ok hok
  refine ⟨_, [key], rfl, .keyed hnamed ?_ (fun {other} hother => ?_)
    fun {i old kept} hi hkept => ?_⟩
  · rw [hfree, getElem?_insert_eq, if_pos rfl]
    exact Option.some_ne_none _
  · exact (getElem?_insert_eq ..).trans (if_neg (Ne.symm hother))
  · -- the number is new
    rw [getElem?_insert_eq, if_neg (h.lt_nextIno hi).ne', hi] at hkept
    obtain rfl := Option.some.inj hkept
    exact .refl old

lemma step_of_link (hok : t.link stamp source target = .ok t') :
    ∃ base keys, t' = base.touchParents stamp keys
      ∧ Step stamp t (.link source target) base keys := by
  obtain ⟨ino, inode, -, -, -, hfree, -, rfl⟩ := link_ok hok
  refine ⟨_, [target], rfl, .keyed (List.mem_cons_of_mem _ (List.mem_singleton_self _)) ?_
    (fun {other} hother => ?_) fun {i old kept} hi hkept => ?_⟩
  · rw [hfree, entries_modify, getElem?_insert_eq, if_pos rfl]
    exact Option.some_ne_none _
  · exact (getElem?_insert_eq ..).trans (if_neg (Ne.symm hother))
  · have hlinked : ∀ inode : Inode,
        inode.Survives { inode with nlink := inode.nlink + 1, ctime := stamp.now } :=
      fun _ => ⟨⟨rfl, rfl, rfl, rfl, rfl⟩, rfl⟩
    obtain ⟨inode, hinode, hsurvives⟩ := exists_of_modify Inode.Survives.refl hlinked hkept
    obtain rfl := Option.some.inj (hi.symm.trans hinode)
    exact hsurvives

/-- A key goes. -/
lemma step_of_removeKey (hnamed : key ∈ change.paths) (hkey : t.entries[key]? = some ino) :
    Step stamp t change (t.removeKey stamp key ino) [key] := by
  have hentries : ∀ other, (t.removeKey stamp key ino).entries[other]?
      = if key = other then none else t.entries[other]? := by
    intro other
    rw [removeKey, entries_release]
    exact getElem?_erase_eq ..
  refine .keyed hnamed ?_ (fun {other} hother => ?_) fun {i old kept} hi hkept => ?_
  · rw [hentries, if_pos rfl, hkey]
    exact (Option.some_ne_none _).symm
  · rw [hentries, if_neg (Ne.symm hother)]
  · obtain ⟨inode, hinode, hsurvives⟩ := survives_of_removeKey hkept
    obtain rfl := Option.some.inj (hi.symm.trans hinode)
    exact hsurvives

lemma step_of_rename (h : t.WellFormed) (htarget : Key.Canonical target)
    (hok : t.rename stamp source target = .ok t') :
    ∃ base keys, t' = base.touchParents stamp keys
      ∧ Step stamp t (.rename source target) base keys := by
  by_cases hsame : t.entries[source]? = t.entries[target]?
  · exact ⟨t, [], eq_of_rename_linked hok hsame, .idle⟩
  have hrenamed := renamed_of_rename_ok h htarget hok hsame
  rcases rename_ok hok with ⟨-, ino, hs, ht⟩ | ⟨ino, cleared, hsource, hne, hsroot, htroot, hbelow,
    hparent, hcleared, rfl⟩
  · exact absurd (hs.trans ht.symm) hsame
  obtain ⟨hwell, hentries, -, -⟩ := h.cleared htarget hsource hne htroot hparent hcleared
  refine ⟨_, [source, target], rfl, .moved hsroot htroot hsource hsame ?_ hrenamed
    fun {i old kept} hi hkept => ?_⟩
  · exact not_within_of_within h hwell htarget hsource (Key.not_within hne hbelow) hentries
  · obtain ⟨mid, hmid, hmarked⟩ :=
      exists_of_modify Inode.Survives.refl (Inode.survives_touchChanged stamp) hkept
    replace hmid : cleared.inodes[i]? = some mid := hmid
    rcases hcleared with ⟨-, rfl⟩ | ⟨existing, -, -, hdisplaced⟩
    · obtain rfl := Option.some.inj (hi.symm.trans hmid)
      exact hmarked
    · obtain ⟨-, -, rfl⟩ := displace_ok hdisplaced
      obtain ⟨inode, hinode, hsurvives⟩ := survives_of_removeKey hmid
      obtain rfl := Option.some.inj (hi.symm.trans hinode)
      exact hsurvives.trans hmarked

/-- Whatever change succeeds, one of four things has happened. -/
theorem step_of_apply (h : t.WellFormed) (hkeys : ∀ key ∈ change.paths, Key.Canonical key)
    (hok : change.apply stamp t = .ok t') :
    ∃ base keys, t' = base.touchParents stamp keys ∧ Step stamp t change base keys := by
  cases change with
  | create key mode | mkdir key mode | symlink target key =>
      exact step_of_insertNode h (List.mem_singleton_self _) hok
  | link source target => exact step_of_link hok
  | unlink key =>
      obtain ⟨ino, inode, hkey, -, -, rfl⟩ := unlink_ok hok
      exact ⟨_, _, rfl, step_of_removeKey (List.mem_singleton_self _) hkey⟩
  | rmdir key =>
      obtain ⟨-, ino, inode, hkey, -, -, -, rfl⟩ := rmdir_ok hok
      exact ⟨_, _, rfl, step_of_removeKey (List.mem_singleton_self _) hkey⟩
  | rename source target => exact step_of_rename h (hkeys target (by simp [Change.paths])) hok
  | openFile key flags =>
      rcases openFile_ok hok with rfl | ⟨ino, inode, data, -, hkey, hinode, hkind, rfl⟩
      · exact ⟨_, [], rfl, .idle⟩
      · exact ⟨_, [], rfl, .altered rfl hkey hinode ⟨data, _, hkind, rfl⟩⟩
  | write key buffer offset =>
      obtain ⟨ino, inode, data, hkey, hinode, hkind, -, rfl⟩ := write_ok hok
      exact ⟨_, [], rfl, .altered rfl hkey hinode ⟨data, _, hkind, rfl⟩⟩
  | truncate key length =>
      obtain ⟨ino, inode, data, hkey, hinode, hkind, -, rfl⟩ := truncate_ok hok
      exact ⟨_, [], rfl, .altered rfl hkey hinode ⟨data, _, hkind, rfl⟩⟩
  | chmod key mode =>
      obtain ⟨ino, hkey, rfl⟩ := chmod_ok hok
      obtain ⟨inode, hinode⟩ := h.inode_exists hkey
      exact ⟨_, [], rfl, .altered rfl hkey hinode rfl⟩
  | utimens key atime mtime =>
      obtain ⟨ino, hkey, rfl⟩ := utimens_ok hok
      obtain ⟨inode, hinode⟩ := h.inode_exists hkey
      exact ⟨_, [], rfl, .altered rfl hkey hinode rfl⟩

section Perform

variable (h : t.WellFormed) (hkeys : ∀ key ∈ change.paths, Key.Canonical key) (stamp : Stamp)

include h hkeys

/-- A change that fails is one by which nothing has happened. -/
theorem step_of_perform : ∃ base keys, (change.perform stamp t).2 = base.touchParents stamp keys
    ∧ Step stamp t change base keys := by
  rw [Change.perform_snd, Change.after]
  cases ha : change.apply stamp t with
  | ok t' => exact step_of_apply h hkeys ha
  | error code => exact ⟨t, [], rfl, .idle⟩

/-- A tree is in order after a change, successful or not. -/
lemma wellFormed_of_perform : (change.perform stamp t).2.WellFormed := by
  rw [Change.perform_snd, Change.after]
  cases ha : change.apply stamp t with
  | ok t' => exact h.apply hkeys ha
  | error code => exact h

end Perform

end Tree

end Strongbox
