import Strongbox.Proofs.Tree.Listing
import Strongbox.Proofs.Tree.Step

/-!
# Directory times follow directory contents

A change marks the directories of the keys that come or go.  These are exactly the directories in
which a name comes, goes or stands for something else, also where a directory has moved meanwhile.

* `Tree.DirectoryAt` — a directory, by its key, its number and its inode.
* `Tree.Step.listing_ne_iff` — what a directory lists has changed exactly if a key in it came or
  went, and `Tree.marked_of_touchParents`: these directories are the ones that are marked.
* **`Tree.timesFollow_of_perform`** — the times of directories follow what they list.
-/

namespace Strongbox

namespace Key

variable {key above : String}

/-- The root lies neither at nor below any other key. -/
lemma Within.ne_root (hw : Within key above) (ha : Canonical above) (habove : above ≠ "/") :
    key ≠ "/" := by
  rintro rfl
  rcases hw with hsame | hbelow
  · exact habove hsame.symm
  · rw [isBelow_root ha] at hbelow
    cases hbelow

/-- Behind a key, a name follows a slash. -/
lemma IsTail.append {tail : String} (htail : IsTail tail) (name : String) :
    IsTail (tail ++ ("/" ++ name)) := by
  refine isTail_iff.2 (Or.inr ?_)
  rcases isTail_iff.1 htail with rfl | ⟨rest, hrest⟩
  · exact ⟨name.toList, by simp⟩
  · exact ⟨rest ++ '/' :: name.toList, by simp [hrest]⟩

lemma child_of_ne_root (hkey : key ≠ "/") (name : String) :
    child key name = key ++ ("/" ++ name) := by
  rw [child, childPrefix, if_neg hkey, String.append_assoc]

end Key

namespace Tree

variable {t t' base : Tree} {stamp : Stamp} {key key' directory source target : String}
  {keys : List String} {ino : Nat} {change : Change} {inode kept : Inode}

/-- A key names a directory. -/
structure DirectoryAt (t : Tree) (key : String) (ino : Nat) (inode : Inode) : Prop where
  entry : t.entries[key]? = some ino
  found : t.inodes[ino]? = some inode
  isDir : inode.isDir = true

namespace DirectoryAt

lemma canonical (hdir : t.DirectoryAt key ino inode) (h : t.WellFormed) : Key.Canonical key :=
  h.canonical hdir.entry

/-- A directory has one key. -/
lemma key_unique (hdir : t.DirectoryAt key ino inode) (h : t.WellFormed)
    (hother : t.entries[key']? = some ino) : key' = key :=
  h.dir_key_unique hdir.found hdir.isDir hother hdir.entry

end DirectoryAt

/-! ## Listings -/

/-- Listings agree where the keys of all names do. -/
lemma listing_eq (hsame : ∀ name : String, Key.IsName name.toList →
    t'.entries[Key.child key' name]? = t.entries[Key.child key name]?) :
    t'.listing key' = t.listing key := by
  funext name
  rw [listing, listing]
  split
  · next hname => exact hsame name hname
  · rfl

/-- Where some keys name something else and no others do, a listing differs if one of them lies in
the directory. -/
lemma listing_ne_iff (hd : Key.Canonical directory)
    (hkeys : ∀ key ∈ keys, Key.Canonical key ∧ t'.entries[key]? ≠ t.entries[key]?)
    (hothers : ∀ name : String, Key.IsName name.toList → Key.child directory name ∉ keys →
      t'.entries[Key.child directory name]? = t.entries[Key.child directory name]?) :
    t'.listing directory ≠ t.listing directory
      ↔ ∃ key ∈ keys, Key.parent? key = some directory := by
  constructor
  · intro hdiffers
    by_contra hnone
    refine hdiffers (listing_eq fun name hname => hothers name hname fun hmem => ?_)
    exact hnone ⟨_, hmem, Key.parent?_child hd hname⟩
  · rintro ⟨key, hmem, hp⟩ hsame
    have hname := congrFun hsame (Key.fileName key)
    rw [listing_of_parent (hkeys key hmem).1 hp, listing_of_parent (hkeys key hmem).1 hp] at hname
    exact (hkeys key hmem).2 hname

/-! ## Where names have changed -/

section Moved

variable (h : t.WellFormed) (hs : Key.Canonical source) (ht : Key.Canonical target)
  (source_ne : source ≠ "/") (target_ne : target ≠ "/")
  (apart : ∀ {key : String}, Key.Canonical key → Key.Within key source → ¬ Key.Within key target)
  (renamed : t.Renamed source target t') (hold : t.DirectoryAt key ino inode)

include h hs ht source_ne target_ne apart renamed hold

/-- A directory that has moved lists what it listed, and neither of the keys lies in it. -/
lemma listing_of_moved (hentry : t'.entries[key']? = some ino) (hw : Key.Within key' target) :
    t'.listing key' = t.listing key ∧ ¬ ∃ k ∈ [source, target], Key.parent? k = some key' := by
  obtain ⟨tail, htail, rfl⟩ := (Key.within_iff_tail target_ne).1 hw
  have hbefore : t.entries[source ++ tail]? = some ino := renamed.arrives htail ▸ hentry
  obtain rfl := hold.key_unique h hbefore
  constructor
  · refine listing_eq fun name _ => ?_
    have hsource : source ++ tail ≠ "/" :=
      Key.Within.ne_root ((Key.within_iff_tail source_ne).2 ⟨tail, htail, rfl⟩) hs source_ne
    rw [Key.child_of_ne_root (hw.ne_root ht target_ne), Key.child_of_ne_root hsource,
      String.append_assoc, String.append_assoc, renamed.arrives (htail.append name)]
  · rintro ⟨k, hk, hp⟩
    rcases List.mem_pair.1 hk with rfl | rfl
    · exact apart hs (.refl k) (Or.inr ((Key.isBelow_iff_parent hs ht hp).2 hw))
    · have hbelow := (Key.isBelow_iff_parent ht ht hp).2 hw
      rw [Key.isBelow_irrefl] at hbelow
      cases hbelow

omit h apart hold in
/-- A directory that stays where it is lists something else if one of the keys lies in it. -/
lemma listing_of_outside (hk : Key.Canonical key) (hsource : ¬ Key.Within key source)
    (htarget : ¬ Key.Within key target) (present : t.entries[source]? = some ino)
    (differs : t.entries[source]? ≠ t.entries[target]?) :
    t'.listing key ≠ t.listing key ↔ ∃ k ∈ [source, target], Key.parent? k = some key := by
  have houtside : ∀ {name above : String}, Key.IsName name.toList → Key.Canonical above →
      ¬ Key.Within key above → Key.child key name ≠ above →
        ¬ Key.Within (Key.child key name) above := by
    intro name above hname ha hnot hne hw
    exact hnot ((Key.isBelow_iff_parent (Key.canonical_child hk hname) ha
      (Key.parent?_child hk hname)).1 (hw.resolve_left hne))
  refine listing_ne_iff hk ?_ fun name hname hnew => ?_
  · obtain ⟨harrives, hleaves⟩ := renamed.ends
    simp only [List.mem_cons, List.not_mem_nil, or_false, forall_eq_or_imp, forall_eq]
    refine ⟨⟨hs, ?_⟩, ht, harrives ▸ differs⟩
    rw [hleaves, present]
    exact (Option.some_ne_none _).symm
  · simp only [List.mem_cons, List.not_mem_nil, or_false, not_or] at hnew
    exact renamed.outside source_ne target_ne (houtside hname hs hsource hnew.1)
      (houtside hname ht htarget hnew.2)

end Moved

section Listing

variable (h : t.WellFormed) (h' : (base.touchParents stamp keys).WellFormed)
  (hkeys : ∀ key ∈ change.paths, Key.Canonical key) (hold : t.DirectoryAt key ino inode)
  (hnew : (base.touchParents stamp keys).DirectoryAt key' ino kept)

include h h' hkeys hold hnew

/-- What a directory lists has changed exactly if a key in it came or went. -/
lemma Step.listing_ne_iff (hstep : Step stamp t change base keys) :
    (base.touchParents stamp keys).listing key' ≠ t.listing key
      ↔ ∃ k ∈ keys, Key.parent? k = some key' := by
  have hd := hnew.canonical h'
  cases hstep with
  | idle =>
      obtain rfl := hold.key_unique h hnew.entry
      exact Tree.listing_ne_iff hd (by simp) fun _ _ _ => by rw [entries_touchParents]
  | altered =>
      obtain rfl := hold.key_unique h hnew.entry
      exact Tree.listing_ne_iff hd (by simp) fun _ _ _ => by
        rw [entries_touchParents, entries_modify]
  | @keyed _ k _ named differs others _ =>
      have hsame : key' = key := by
        by_cases hk : key = k
        · by_contra hne
          have hother := others (hk ▸ hne)
          rw [← entries_touchParents stamp [k], hnew.entry] at hother
          exact hne (hold.key_unique h hother.symm)
        · have hother := others hk
          rw [← entries_touchParents stamp [k], hold.entry] at hother
          exact (hnew.key_unique h' hother).symm
      subst hsame
      refine Tree.listing_ne_iff hd ?_ fun name _ hname => ?_
      · rw [List.forall_mem_singleton, entries_touchParents]
        exact ⟨hkeys k named, differs⟩
      · rw [entries_touchParents]
        exact others fun he => hname (he ▸ List.mem_singleton_self _)
  | @moved source target _ moving source_ne target_ne entry differs apart renamed _ =>
      have hs : Key.Canonical source := h.canonical entry
      have ht : Key.Canonical target := hkeys target (by simp [Change.paths])
      by_cases htarget : Key.Within key' target
      · obtain ⟨hsame, hnone⟩ := listing_of_moved h hs ht source_ne target_ne apart renamed hold
          hnew.entry htarget
        exact iff_of_false (not_not.2 hsame) hnone
      have hsource : ¬ Key.Within key' source := by
        intro hw
        obtain ⟨tail, htail, rfl⟩ := (Key.within_iff_tail source_ne).1 hw
        have hleaves := renamed.leaves htail
        rw [hnew.entry] at hleaves
        cases hleaves
      have hother : t.entries[key']? = some ino := by
        rw [← renamed.outside source_ne target_ne hsource htarget, hnew.entry]
      obtain rfl := hold.key_unique h hother
      exact listing_of_outside hs ht source_ne target_ne renamed hd hsource htarget entry differs

end Listing

/-! ## Where times have changed -/

/-- A directory is marked exactly if a key in it came or went. -/
lemma marked_of_touchParents (h' : (base.touchParents stamp keys).WellFormed)
    (hnew : (base.touchParents stamp keys).DirectoryAt key ino kept) :
    ∃ mid, base.inodes[ino]? = some mid ∧ kept
      = if ∃ k ∈ keys, Key.parent? k = some key then mid.touchModified stamp else mid := by
  have hmarked : (∃ k ∈ keys, (Key.parent? k).bind (base.entries[·]?) = some ino)
      ↔ ∃ k ∈ keys, Key.parent? k = some key := by
    refine exists_congr fun k => and_congr_right fun _ => ⟨fun hbind => ?_, fun hp => ?_⟩
    · obtain ⟨parent, hp, hentry⟩ := Option.bind_eq_some_iff.1 hbind
      rw [← entries_touchParents stamp keys] at hentry
      rw [hp, hnew.key_unique h' hentry]
    · rw [hp, Option.bind_some, ← hnew.entry, entries_touchParents]
  have hfound := hnew.found
  rw [inodes_touchParents, if_congr hmarked rfl rfl] at hfound
  split at hfound
  · next hmark =>
      obtain ⟨mid, hmid, rfl⟩ := Option.map_eq_some_iff.1 hfound
      exact ⟨mid, hmid, (if_pos hmark).symm⟩
  · next hmark => exact ⟨kept, hfound, (if_neg hmark).symm⟩

/-- Before directories are marked, only a change of its times has changed those of a directory. -/
lemma Step.mtime_eq (h : t.WellFormed) (hstep : Step stamp t change base keys)
    (hold : t.DirectoryAt key ino inode) (hkept : base.inodes[ino]? = some kept) :
    kept.mtime = inode.mtime ∨ ∃ atime mtime, change = .utimens key atime mtime := by
  cases hstep with
  | idle =>
      obtain rfl := Option.some.inj (hold.found.symm.trans hkept)
      exact Or.inl rfl
  | @altered _ path number found alter named entry hfound alters =>
      rw [inodes_modify, hold.found] at hkept
      split at hkept
      · next hsame =>
          subst hsame
          obtain rfl := hold.key_unique h entry
          obtain rfl := Option.some.inj (hold.found.symm.trans hfound)
          obtain rfl := Option.some.inj hkept
          cases change with
          | openFile | write | truncate =>
              -- a directory has no data
              obtain ⟨old, data, hkind, -⟩ := alters
              have hdir := hold.isDir
              rw [Inode.isDir, hkind] at hdir
              exact absurd hdir (by simp)
          | chmod path mode =>
              have halter : alter inode = { inode with perm := _, ctime := _ } := alters
              exact Or.inl (halter ▸ rfl)
          | utimens path atime mtime =>
              obtain rfl := List.singleton_inj.1 named
              exact Or.inr ⟨atime, mtime, rfl⟩
          | _ => cases alters
      · obtain rfl := Option.some.inj hkept
        exact Or.inl rfl
  | keyed _ _ _ inodes | moved _ _ _ _ _ _ inodes => exact Or.inl (inodes hold.found hkept).mtime

/-- The times of directories after a change, successful or not. -/
structure TimesFollow (stamp : Stamp) (change : Change) (t : Tree) : Prop where
  /-- A directory in which a name came, went or stands for something else is marked. -/
  changed : ∀ {key key' : String} {ino : Nat} {inode kept : Inode}, t.DirectoryAt key ino inode →
    (change.perform stamp t).2.DirectoryAt key' ino kept →
      (change.perform stamp t).2.listing key' ≠ t.listing key →
        kept.mtime = stamp.now ∧ kept.ctime = stamp.now
  /-- Any other one is not, unless its times are what is changed. -/
  unchanged : ∀ {key key' : String} {ino : Nat} {inode kept : Inode}, t.DirectoryAt key ino inode →
    (change.perform stamp t).2.DirectoryAt key' ino kept →
      (change.perform stamp t).2.listing key' = t.listing key →
        kept.mtime = inode.mtime ∨ ∃ atime mtime, change = .utimens key atime mtime
  /-- A change that fails changes nothing. -/
  failed : ∀ {code}, (change.perform stamp t).1 = .error code → (change.perform stamp t).2 = t

/-- The times of a directory change with what it lists, whatever is done to the tree. -/
theorem timesFollow_of_perform (h : t.WellFormed) (hkeys : ∀ key ∈ change.paths, Key.Canonical key)
    (stamp : Stamp) : TimesFollow stamp change t := by
  have h' : (change.perform stamp t).2.WellFormed := wellFormed_of_perform h hkeys stamp
  obtain ⟨base, keys, hafter, hstep⟩ := step_of_perform h hkeys stamp
  rw [hafter] at h'
  refine ⟨fun {key key' ino inode kept} hold hnew hdiffers => ?_,
    fun {key key' ino inode kept} hold hnew hsame => ?_, fun {code} hfails => ?_⟩
  · rw [hafter] at hnew hdiffers
    obtain ⟨mid, -, hkept⟩ := marked_of_touchParents h' hnew
    rw [if_pos ((hstep.listing_ne_iff h h' hkeys hold hnew).1 hdiffers)] at hkept
    exact hkept ▸ ⟨rfl, rfl⟩
  · rw [hafter] at hnew hsame
    obtain ⟨mid, hmid, hkept⟩ := marked_of_touchParents h' hnew
    rw [if_neg fun hmark => (hstep.listing_ne_iff h h' hkeys hold hnew).2 hmark hsame] at hkept
    exact hstep.mtime_eq h hold (hkept ▸ hmid)
  · rw [Change.perform_eq_settle] at hfails ⊢
    cases ha : change.apply stamp t with
    | ok t' =>
        rw [ha] at hfails
        cases hfails
    | error code => rfl

/-- A directory moves to another one.  It is not marked itself, although its key has changed. -/
theorem timesFollow_after_rename :
    let t : Tree := madeBy ⟨.epoch, 0, 0⟩ [.mkdir "/a" 0o755, .mkdir "/b" 0o755,
      .mkdir "/a/d" 0o755, .create "/a/d/f" 0o644]
    let stamp : Stamp := ⟨.ofParts 5 0, 0, 0⟩
    let change : Change := .rename "/a/d" "/b/e"
    t.WellFormed ∧ (∀ key ∈ change.paths, Key.Canonical key) ∧ TimesFollow stamp change t
      ∧ ["/a", "/b", "/b/e", "/"].map (fun key =>
          ((change.perform stamp t).2.node key).map Inode.mtime)
        = [.ok stamp.now, .ok stamp.now, .ok .epoch, .ok .epoch] := by
  intro t stamp change
  have h : t.WellFormed := wellFormed_madeBy (by decide +kernel)
  have hkeys : ∀ key ∈ change.paths, Key.Canonical key :=
    Change.canonical_of_resolve (show change.resolve = .ok change from rfl)
  exact ⟨h, hkeys, timesFollow_of_perform h hkeys stamp, by decide +kernel⟩

end Tree

end Strongbox
