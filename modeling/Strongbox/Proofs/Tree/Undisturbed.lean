import Strongbox.Proofs.Tree.Listing
import Strongbox.Proofs.Tree.Step

/-!
# What a change leaves alone

A change that makes, removes, moves or marks nodes touches nothing that it does not name.  Whoever
knows a node by another name finds it as it was.

* `Change.Reaches` — the keys that a change may touch.
* `Change.Spares` — what it leaves of an inode that has a name before it and after it.
* **`Tree.undisturbed_of_perform`** — all other keys name what they named, and no inode is lost.
-/

namespace Strongbox

namespace Change

/-- A change touches the keys that it names, and a rename those below them. -/
def Reaches (key : String) : Change → Prop
  | .rename source target => Key.Within key source ∨ Key.Within key target
  | change => key ∈ change.paths

/-- A change of names or attributes does nothing to the data of files. -/
def keepsData : Change → Bool
  | .openFile .. | .write .. | .truncate .. => false
  | .create .. | .mkdir .. | .symlink .. | .link .. | .unlink .. | .rmdir .. | .rename ..
  | .chmod .. | .utimens .. => true

/-- What a change leaves of an inode: its content, its owner, and its permissions unless they are
what is changed. -/
structure Spares (change : Change) (t : Tree) (ino : Nat) (inode kept : Inode) : Prop where
  kind : kept.kind = inode.kind
  uid : kept.uid = inode.uid
  gid : kept.gid = inode.gid
  perm : kept.perm = inode.perm ∨ ∃ key mode, change = .chmod key mode
    ∧ t.entries[key]? = some ino ∧ kept.perm = mode &&& permissionMask

lemma reaches_of_mem_paths {change : Change} {key : String} (h : key ∈ change.paths) :
    change.Reaches key := by
  cases change with
  | rename source target =>
      rcases List.mem_cons.1 h with rfl | h
      · exact Or.inl (.refl key)
      · exact Or.inr (List.mem_singleton.1 h ▸ .refl key)
  | _ => exact h

namespace Spares

variable {change : Change} {t : Tree} {ino : Nat} {inode kept last : Inode}

lemma of_keeps (h : inode.Keeps kept) : change.Spares t ino inode kept :=
  ⟨h.kind, h.uid, h.gid, Or.inl h.perm⟩

lemma trans_keeps (h : change.Spares t ino inode kept) (hkeeps : kept.Keeps last) :
    change.Spares t ino inode last where
  kind := hkeeps.kind.trans h.kind
  uid := hkeeps.uid.trans h.uid
  gid := hkeeps.gid.trans h.gid
  perm := by rw [hkeeps.perm]; exact h.perm

end Spares

end Change

namespace Tree

variable {t t' base : Tree} {stamp : Stamp} {key : String} {keys : List String} {ino : Nat}
  {change : Change} {inode kept : Inode}

/-! ## One step -/

/-- What a change does not reach names what it named. -/
lemma Step.entries (hstep : Step stamp t change base keys) (hkey : ¬ change.Reaches key) :
    base.entries[key]? = t.entries[key]? := by
  cases hstep with
  | idle => rfl
  | altered => rw [entries_modify]
  | keyed named _ others =>
      refine others ?_
      rintro rfl
      exact hkey (Change.reaches_of_mem_paths named)
  | @moved source target _ _ source_ne target_ne _ _ _ renamed =>
      rw [← entries_touchParents stamp [source, target]]
      exact renamed.outside source_ne target_ne (fun hw => hkey (Or.inl hw))
        fun hw => hkey (Or.inr hw)

/-- Altering an inode is told by its permissions at most, unless it alters data. -/
lemma spares_of_alters (hdata : change.keepsData = true) (halters : change.Alters stamp inode kept)
    (hentry : t.entries[key]? = some ino) (hnamed : change.paths = [key]) :
    change.Spares t ino inode kept := by
  cases change with
  | chmod path mode =>
      obtain rfl := List.singleton_inj.1 hnamed
      obtain rfl : kept = _ := halters
      exact ⟨rfl, rfl, rfl, Or.inr ⟨path, mode, rfl, hentry, rfl⟩⟩
  | utimens path atime mtime =>
      obtain rfl : kept = _ := halters
      exact ⟨rfl, rfl, rfl, Or.inl rfl⟩
  | openFile | write | truncate => cases hdata
  | _ => cases halters

lemma Step.spares (hstep : Step stamp t change base keys) (hdata : change.keepsData = true)
    (hinode : t.inodes[ino]? = some inode) (hkept : base.inodes[ino]? = some kept) :
    change.Spares t ino inode kept := by
  cases hstep with
  | idle =>
      obtain rfl := Option.some.inj (hinode.symm.trans hkept)
      exact .of_keeps (.refl inode)
  | @altered _ path number found alter named entry hfound alters =>
      rw [inodes_modify, hinode] at hkept
      split at hkept
      · next hsame =>
          subst hsame
          obtain rfl := Option.some.inj (hinode.symm.trans hfound)
          obtain rfl := Option.some.inj hkept
          exact spares_of_alters hdata alters entry named
      · obtain rfl := Option.some.inj hkept
        exact .of_keeps (.refl inode)
  | keyed _ _ _ inodes | moved _ _ _ _ _ _ inodes => exact .of_keeps (inodes hinode hkept).keeps

/-- Marking directories leaves their content, owners and permissions alone. -/
lemma keeps_of_touchParents (hkept : (t.touchParents stamp keys).inodes[ino]? = some kept) :
    ∃ inode, t.inodes[ino]? = some inode ∧ inode.Keeps kept := by
  rw [inodes_touchParents] at hkept
  split at hkept
  · obtain ⟨inode, hinode, rfl⟩ := Option.map_eq_some_iff.1 hkept
    exact ⟨inode, hinode, inode.keeps_touchModified stamp⟩
  · exact ⟨kept, hkept, .refl kept⟩

/-! ## Any change -/

/-- A tree after a change of names or attributes, successful or not. -/
structure Undisturbed (change : Change) (t t' : Tree) : Prop where
  /-- What is not reached names what it named. -/
  entries : ∀ {key : String}, ¬ change.Reaches key → t'.entries[key]? = t.entries[key]?
  /-- An inode that had a name and has one is spared. -/
  inodes : ∀ {ino : Nat} {before after : String}, t.entries[before]? = some ino →
    t'.entries[after]? = some ino → ∃ inode kept, t.inodes[ino]? = some inode
      ∧ t'.inodes[ino]? = some kept ∧ change.Spares t ino inode kept
      -- links are lost and gained with names
      ∧ kept.nlink + (t.keysOf ino \ t'.keysOf ino).card
        = inode.nlink + (t'.keysOf ino \ t.keysOf ino).card

/-- Links are counted by names before and after. -/
lemma nlink_of_wellFormed (h : t.WellFormed) (h' : t'.WellFormed)
    (hinode : t.inodes[ino]? = some inode) (hkept : t'.inodes[ino]? = some kept) :
    kept.nlink + (t.keysOf ino \ t'.keysOf ino).card
      = inode.nlink + (t'.keysOf ino \ t.keysOf ino).card := by
  rw [h.links hinode, h'.links hkept, Nat.add_comm, Finset.card_sdiff_add_card, Nat.add_comm,
    Finset.card_sdiff_add_card, Finset.union_comm]

/-- A change of names or attributes leaves alone what it does not name, whether it succeeds or
not. -/
theorem undisturbed_of_perform (h : t.WellFormed) (hkeys : ∀ key ∈ change.paths, Key.Canonical key)
    (hdata : change.keepsData = true) (stamp : Stamp) :
    t.Undisturbed change (change.perform stamp t).2 := by
  have h' : (change.perform stamp t).2.WellFormed := wellFormed_of_perform h hkeys stamp
  obtain ⟨base, keys, hafter, hstep⟩ := step_of_perform h hkeys stamp
  rw [hafter] at h' ⊢
  refine ⟨fun hkey => ?_, fun {ino before after} hbefore hnow => ?_⟩
  · rw [entries_touchParents, hstep.entries hkey]
  · obtain ⟨inode, hinode⟩ := h.inode_exists hbefore
    obtain ⟨kept, hkept⟩ := h'.inode_exists hnow
    obtain ⟨mid, hmid, hkeeps⟩ := keeps_of_touchParents hkept
    exact ⟨inode, kept, hinode, hkept, (hstep.spares hdata hinode hmid).trans_keeps hkeeps,
      nlink_of_wellFormed h h' hinode hkept⟩

/-- A file takes the place of another one that has a second name. -/
theorem undisturbed_after_rename :
    let stamp : Stamp := ⟨.epoch, 0, 0⟩
    let t : Tree := madeBy stamp [.mkdir "/d" 0o755, .create "/d/f" 0o644, .create "/g" 0o600,
      .link "/g" "/h"]
    let change : Change := .rename "/d/f" "/g"
    t.WellFormed ∧ (∀ key ∈ change.paths, Key.Canonical key) ∧ change.keepsData = true
      ∧ t.Undisturbed change (change.perform stamp t).2
      ∧ (change.perform stamp t).1 = .ok ()
      ∧ ((change.perform stamp t).2.node "/h").map Inode.nlink = .ok 1 := by
  intro stamp t change
  have h : t.WellFormed := wellFormed_madeBy (by decide +kernel)
  have hkeys : ∀ key ∈ change.paths, Key.Canonical key :=
    Change.canonical_of_resolve (show change.resolve = .ok change from rfl)
  exact ⟨h, hkeys, rfl, undisturbed_of_perform h hkeys rfl stamp, by decide +kernel,
    by decide +kernel⟩

end Tree

end Strongbox
