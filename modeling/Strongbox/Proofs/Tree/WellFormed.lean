import Mathlib.Data.Finset.Card
import Strongbox.Proofs.Key.Ancestry
import Strongbox.Proofs.Tree.Lookup

/-!
# Well-formed namespaces

A tree is two flat maps, so nothing in its type says that a key lies in a directory or that the
links of an inode are counted right.  `Tree.WellFormed` does, and this module shows that the small
changes which operations are made of keep it.

* `Tree.keysOf` — all keys of an inode, which its link count has to match.
* **`Tree.WellFormed`** — the invariant.  `Tree.Accounted` is what it says about one inode, and
  `WellFormed.of_accounted` builds it from there.
* `WellFormed.modify`, `WellFormed.touchParent` — changes of one inode that keep its shape.
* `WellFormed.insert_fresh`, `WellFormed.insert_link` — a new key, of a new inode or an old one.
* `WellFormed.removeKey` — removing a key with nothing in it.

Moving nodes is in `Strongbox.Proofs.Tree.Relocate`.
-/

namespace Strongbox

namespace Inode

/-- No file is larger than the store allows, and the permission bits are permission bits. -/
structure WithinLimits (inode : Inode) : Prop where
  size_le : ∀ data, inode.kind = .file data → data.length ≤ maxFileSize
  perm_le : inode.perm ≤ 0o7777

/-- The mode of a new inode is cut to permission bits. -/
lemma withinLimits_fresh {stamp : Stamp} {kind : NodeKind} {mode : Nat}
    (h : ∀ data, kind = .file data → data.length ≤ maxFileSize) :
    (fresh stamp kind mode).WithinLimits :=
  ⟨h, Nat.and_le_right⟩

/-- What the rest of the tree relies on in an inode stays: whether it is a directory, how many keys
it has, and that it keeps within the limits of the store. -/
structure SameShape (a b : Inode) : Prop where
  isDir_eq : b.isDir = a.isDir
  nlink_eq : b.nlink = a.nlink
  limits : a.WithinLimits → b.WithinLimits

lemma SameShape.refl (inode : Inode) : inode.SameShape inode := ⟨rfl, rfl, id⟩

/-- Marking times keeps the shape. -/
lemma sameShape_touchModified (stamp : Stamp) (inode : Inode) :
    inode.SameShape (inode.touchModified stamp) :=
  ⟨rfl, rfl, fun h => ⟨h.size_le, h.perm_le⟩⟩

lemma sameShape_touchChanged (stamp : Stamp) (inode : Inode) :
    inode.SameShape (inode.touchChanged stamp) :=
  ⟨rfl, rfl, fun h => ⟨h.size_le, h.perm_le⟩⟩

/-- An inode with the same content, permissions and owner as another.  Its links and the times of
its last change may differ. -/
structure Keeps (inode kept : Inode) : Prop where
  kind : kept.kind = inode.kind
  perm : kept.perm = inode.perm
  uid : kept.uid = inode.uid
  gid : kept.gid = inode.gid
  atime : kept.atime = inode.atime

lemma Keeps.refl (inode : Inode) : inode.Keeps inode := ⟨rfl, rfl, rfl, rfl, rfl⟩

lemma Keeps.trans {inode kept last : Inode} (h : inode.Keeps kept) (h' : kept.Keeps last) :
    inode.Keeps last :=
  ⟨h'.kind.trans h.kind, h'.perm.trans h.perm, h'.uid.trans h.uid, h'.gid.trans h.gid,
    h'.atime.trans h.atime⟩

lemma keeps_touchModified (stamp : Stamp) (inode : Inode) :
    inode.Keeps (inode.touchModified stamp) :=
  ⟨rfl, rfl, rfl, rfl, rfl⟩

end Inode

namespace Tree

variable {t : Tree} {stamp : Stamp} {key : String} {ino : Nat} {inode : Inode}

/-! ## The invariant -/

/-- All keys that name an inode. -/
def keysOf (t : Tree) (ino : Nat) : Finset String :=
  t.entries.keys.toFinset.filter fun key => t.entries[key]? = some ino

@[simp] lemma mem_keysOf : key ∈ t.keysOf ino ↔ t.entries[key]? = some ino := by
  simp only [keysOf, Finset.mem_filter, List.mem_toFinset, Std.ExtTreeMap.mem_keys,
    Std.ExtTreeMap.mem_iff_isSome_getElem?, and_iff_right_iff_imp]
  intro h
  simp [h]

/-- The namespace of a container is in order. -/
structure WellFormed (t : Tree) : Prop where
  /-- The root is the first inode. -/
  root : t.entries["/"]? = some rootIno
  root_isDir : t.isDir "/" = true
  /-- Only canonical keys name anything. -/
  canonical : ∀ {key : String} {ino : Nat}, t.entries[key]? = some ino → Key.Canonical key
  /-- Every key but the root lies in a directory. -/
  parent : ∀ {key : String} {ino : Nat}, t.entries[key]? = some ino → key ≠ "/" →
    ∃ parent, Key.parent? key = some parent ∧ t.isDir parent = true
  /-- Every key names an inode that exists. -/
  inode_exists : ∀ {key : String} {ino : Nat}, t.entries[key]? = some ino →
    ∃ inode, t.inodes[ino]? = some inode
  /-- Every inode has a key. -/
  key_exists : ∀ {ino : Nat} {inode : Inode}, t.inodes[ino]? = some inode →
    ∃ key : String, t.entries[key]? = some ino
  /-- Links are counted exactly. -/
  links : ∀ {ino : Nat} {inode : Inode}, t.inodes[ino]? = some inode →
    inode.nlink = (t.keysOf ino).card
  /-- A directory has one key only. -/
  dir_key : ∀ {ino : Nat} {inode : Inode}, t.inodes[ino]? = some inode → inode.isDir = true →
    ∃! key : String, t.entries[key]? = some ino
  /-- No number is given out twice. -/
  lt_nextIno : ∀ {ino : Nat} {inode : Inode}, t.inodes[ino]? = some inode → ino < t.nextIno
  limits : ∀ {ino : Nat} {inode : Inode}, t.inodes[ino]? = some inode → inode.WithinLimits

/-- What a tree has to know about one of its inodes: its links are counted exactly, it has some, and
only one if it is a directory. -/
structure Accounted (t : Tree) (ino : Nat) (inode : Inode) : Prop where
  links : inode.nlink = (t.keysOf ino).card
  nlink_pos : 0 < inode.nlink
  dir_nlink : inode.isDir = true → inode.nlink = 1
  lt_nextIno : ino < t.nextIno
  limits : inode.WithinLimits

namespace WellFormed

/-- A namespace whose keys are in order is in order if its inodes are accounted for. -/
lemma of_accounted (root : t.entries["/"]? = some rootIno) (root_isDir : t.isDir "/" = true)
    (canonical : ∀ {key : String} {ino : Nat}, t.entries[key]? = some ino → Key.Canonical key)
    (parent : ∀ {key : String} {ino : Nat}, t.entries[key]? = some ino → key ≠ "/" →
      ∃ parent, Key.parent? key = some parent ∧ t.isDir parent = true)
    (inode_exists : ∀ {key : String} {ino : Nat}, t.entries[key]? = some ino →
      ∃ inode, t.inodes[ino]? = some inode)
    (accounted : ∀ {ino : Nat} {inode : Inode}, t.inodes[ino]? = some inode →
      t.Accounted ino inode) : t.WellFormed where
  root := root
  root_isDir := root_isDir
  canonical := canonical
  parent := parent
  inode_exists := inode_exists
  key_exists hi := by
    have hpos := (accounted hi).nlink_pos
    rw [(accounted hi).links, Finset.card_pos] at hpos
    obtain ⟨key, hk⟩ := hpos
    exact ⟨key, mem_keysOf.1 hk⟩
  links hi := (accounted hi).links
  dir_key hi hd := by
    have hone := (accounted hi).dir_nlink hd
    rw [(accounted hi).links, Finset.card_eq_one] at hone
    obtain ⟨key, hk⟩ := hone
    refine ⟨key, mem_keysOf.1 (by simp [hk]), fun other ho => ?_⟩
    simpa [hk] using mem_keysOf.2 ho
  lt_nextIno hi := (accounted hi).lt_nextIno
  limits hi := (accounted hi).limits

lemma accounted (h : t.WellFormed) (hi : t.inodes[ino]? = some inode) : t.Accounted ino inode where
  links := h.links hi
  nlink_pos := by
    obtain ⟨key, hk⟩ := h.key_exists hi
    rw [h.links hi, Finset.card_pos]
    exact ⟨key, mem_keysOf.2 hk⟩
  dir_nlink hd := by
    obtain ⟨key, hk, huniq⟩ := h.dir_key hi hd
    rw [h.links hi, Finset.card_eq_one]
    refine ⟨key, ?_⟩
    ext other
    rw [mem_keysOf, Finset.mem_singleton]
    exact ⟨huniq other, fun ho => ho ▸ hk⟩
  lt_nextIno := h.lt_nextIno hi
  limits := h.limits hi

/-- Two keys of one directory are one key. -/
lemma dir_key_unique (h : t.WellFormed) (hi : t.inodes[ino]? = some inode)
    (hd : inode.isDir = true) {a b : String} (ha : t.entries[a]? = some ino)
    (hb : t.entries[b]? = some ino) : a = b :=
  (h.dir_key hi hd).unique ha hb

/-- What lies in a directory of a well-formed tree, or below one, lies in directories all the way
up. -/
lemma isDir_of_isBelow (h : t.WellFormed) {above : String} (ha : Key.Canonical above)
    (hk : t.entries[key]? = some ino) (hbelow : Key.isBelow key above = true) :
    t.isDir above = true := by
  refine (h.canonical hk).rec_parent
    (motive := fun key => ∀ ino, t.entries[key]? = some ino → Key.isBelow key above = true →
      t.isDir above = true) ?root ?below ino hk hbelow
  case root =>
      intro ino _ hb
      rw [Key.isBelow_root ha] at hb
      cases hb
  case below =>
      intro key parent hkc hp hpc ih ino hk hb
      have hroot : key ≠ "/" := by
        rintro rfl
        rw [Key.parent?_root] at hp
        cases hp
      obtain ⟨parent', hp', hdir⟩ := h.parent hk hroot
      obtain rfl : parent = parent' := Option.some.inj (hp.symm.trans hp')
      rcases (Key.isBelow_iff_parent hkc ha hp).1 hb with rfl | hb
      · exact hdir
      · obtain ⟨j, -, he, -, -⟩ := isDir_eq_true.1 hdir
        exact ih j he hb

/-- Nothing lies below a key that names nothing. -/
lemma not_isBelow_of_absent (h : t.WellFormed) {above : String} (ha : Key.Canonical above)
    (habsent : t.entries[above]? = none) (hk : t.entries[key]? = some ino) :
    Key.isBelow key above = false := by
  rw [Bool.eq_false_iff]
  intro hb
  obtain ⟨j, -, he, -, -⟩ := isDir_eq_true.1 (h.isDir_of_isBelow ha hk hb)
  rw [habsent] at he
  cases he

end WellFormed

/-! ## The empty tree -/

lemma wellFormed_empty (stamp : Stamp) : (empty stamp).WellFormed := by
  have hentries : ∀ {key ino},
      (empty stamp).entries[key]? = some ino ↔ key = "/" ∧ ino = rootIno := by
    intro key ino
    rw [empty, getElem?_insert_eq]
    by_cases h : "/" = key
    · simp [h, eq_comm]
    · simp [h, Ne.symm h]
  have hinodes : ∀ {ino inode}, (empty stamp).inodes[ino]? = some inode
      ↔ ino = rootIno ∧ inode = .fresh stamp .directory 0o755 := by
    intro ino inode
    rw [empty, getElem?_insert_eq]
    by_cases h : rootIno = ino
    · simp [h, eq_comm]
    · simp [h, Ne.symm h]
  have hroot : (empty stamp).entries["/"]? = some rootIno := hentries.2 ⟨rfl, rfl⟩
  refine .of_accounted hroot (isDir_eq_true.2 ⟨rootIno, _, hroot, hinodes.2 ⟨rfl, rfl⟩, rfl⟩)
    ?_ ?_ ?_ ?_
  · intro key ino h
    rw [(hentries.1 h).1]
    exact Key.Canonical.root
  · exact fun h hne => absurd (hentries.1 h).1 hne
  · exact fun h => ⟨_, hinodes.2 ⟨(hentries.1 h).2, rfl⟩⟩
  · intro ino inode h
    obtain ⟨rfl, rfl⟩ := hinodes.1 h
    have hkeys : (empty stamp).keysOf rootIno = {"/"} := by
      ext key
      simp [hentries]
    refine ⟨?_, Nat.one_pos, fun _ => rfl, Nat.lt_succ_self _, ?_⟩
    · rw [hkeys, Finset.card_singleton]
      rfl
    · exact Inode.withinLimits_fresh fun data hd => NodeKind.noConfusion hd

/-! ## Changing one inode -/

/-- Where the shape of an inode stays, all directories stay. -/
lemma isDir_modify {change : Inode → Inode}
    (hc : ∀ inode, t.inodes[ino]? = some inode → inode.SameShape (change inode)) (key : String) :
    (t.modify ino change).isDir key = t.isDir key := by
  rw [Bool.eq_iff_iff, isDir_eq_true, isDir_eq_true]
  simp only [entries_modify, inodes_modify]
  constructor
  · rintro ⟨i, inode, he, hi, hd⟩
    split at hi
    · next h =>
        subst h
        obtain ⟨old, hold, rfl⟩ := Option.map_eq_some_iff.1 hi
        exact ⟨ino, old, he, hold, (hc old hold).isDir_eq ▸ hd⟩
    · exact ⟨i, inode, he, hi, hd⟩
  · rintro ⟨i, inode, he, hi, hd⟩
    by_cases h : ino = i
    · subst h
      exact ⟨ino, change inode, he, by simp [hi], (hc inode hi).isDir_eq.trans hd⟩
    · exact ⟨i, inode, he, by rw [if_neg h]; exact hi, hd⟩

/-- A change that keeps the shape of an inode keeps the tree in order. -/
theorem WellFormed.modify (h : t.WellFormed) {change : Inode → Inode}
    (hc : ∀ inode, t.inodes[ino]? = some inode → inode.SameShape (change inode)) :
    (t.modify ino change).WellFormed := by
  -- every inode afterwards has the shape of an inode before
  have hback : ∀ {i : Nat} {new : Inode}, (t.modify ino change).inodes[i]? = some new →
      ∃ old : Inode, t.inodes[i]? = some old ∧ old.SameShape new := by
    intro i new hi
    rw [inodes_modify] at hi
    split at hi
    · next he =>
        subst he
        obtain ⟨old, hold, rfl⟩ := Option.map_eq_some_iff.1 hi
        exact ⟨old, hold, hc old hold⟩
    · exact ⟨new, hi, .refl new⟩
  refine .of_accounted h.root ((isDir_modify hc _).trans h.root_isDir) h.canonical ?_ ?_ ?_
  · intro key i hk hroot
    obtain ⟨parent, hp, hd⟩ := h.parent hk hroot
    exact ⟨parent, hp, (isDir_modify hc parent).trans hd⟩
  · intro key i hk
    obtain ⟨inode, hi⟩ := h.inode_exists hk
    rw [inodes_modify, hi]
    split <;> simp
  · intro i new hi
    obtain ⟨old, hold, hs⟩ := hback hi
    have ha := h.accounted hold
    exact ⟨hs.nlink_eq.trans ha.links, hs.nlink_eq ▸ ha.nlink_pos,
      fun hd => hs.nlink_eq.trans (ha.dir_nlink (hs.isDir_eq ▸ hd)), ha.lt_nextIno,
      hs.limits ha.limits⟩

theorem WellFormed.touchParent (h : t.WellFormed) (key : String) :
    (t.touchParent stamp key).WellFormed := by
  rw [touchParent_eq]
  split
  · exact h.modify fun inode _ => inode.sameShape_touchModified stamp
  · exact h

/-! ## New keys -/

section Insert

variable (h : t.WellFormed) (hkey : Key.Canonical key) (habsent : t.entries[key]? = none)
  (hparent : ∃ parent, Key.parent? key = some parent ∧ t.isDir parent = true)

include h hkey habsent hparent

/-- A new inode under a new key, in a directory. -/
theorem WellFormed.insert_fresh (hlinks : inode.nlink = 1) (hlimits : inode.WithinLimits) :
    WellFormed { entries := t.entries.insert key t.nextIno
                 inodes := t.inodes.insert t.nextIno inode
                 nextIno := t.nextIno + 1 } := by
  set new : Tree := { entries := t.entries.insert key t.nextIno
                      inodes := t.inodes.insert t.nextIno inode
                      nextIno := t.nextIno + 1 } with hnew
  have hentries : ∀ other, new.entries[other]?
      = if key = other then some t.nextIno else t.entries[other]? :=
    fun other => getElem?_insert_eq ..
  have hinodes : ∀ i, new.inodes[i]? = if t.nextIno = i then some inode else t.inodes[i]? :=
    fun i => getElem?_insert_eq ..
  -- the new number is the number of nothing before, neither of an inode nor of a key
  have hne : ∀ {i : Nat} {old : Inode}, t.inodes[i]? = some old → t.nextIno ≠ i :=
    fun hi => (h.lt_nextIno hi).ne'
  have hkept : ∀ {k : String} {i : Nat}, t.entries[k]? = some i → new.entries[k]? = some i := by
    intro k i hk
    rw [hentries, if_neg, hk]
    rintro rfl
    rw [habsent] at hk
    cases hk
  have hdir : ∀ {k}, t.isDir k = true → new.isDir k = true := by
    intro k hd
    obtain ⟨i, old, he, hi, hd⟩ := isDir_eq_true.1 hd
    exact isDir_eq_true.2 ⟨i, old, hkept he, by rw [hinodes, if_neg (hne hi), hi], hd⟩
  have hself : ∀ k : String, new.entries[k]? = some t.nextIno ↔ k = key := by
    intro k
    rw [hentries]
    split
    · next hk => simp [hk]
    · next hk =>
        refine ⟨fun he => ?_, fun he => absurd he.symm hk⟩
        obtain ⟨old, hi⟩ := h.inode_exists he
        exact absurd rfl (hne hi)
  have hother : ∀ {i : Nat}, t.nextIno ≠ i → ∀ k : String, new.entries[k]? = some i
      ↔ t.entries[k]? = some i := by
    intro i hi k
    rw [hentries]
    split
    · next hk => subst hk; simp [habsent, hi]
    · rfl
  refine .of_accounted (hkept h.root) (hdir h.root_isDir) ?_ ?_ ?_ ?_
  · intro k i hk
    by_cases hi : t.nextIno = i
    · rw [(hself k).1 (hi ▸ hk)]
      exact hkey
    · exact h.canonical ((hother hi k).1 hk)
  · intro k i hk hroot
    by_cases hi : t.nextIno = i
    · obtain ⟨parent, hp, hd⟩ := hparent
      rw [(hself k).1 (hi ▸ hk)]
      exact ⟨parent, hp, hdir hd⟩
    · obtain ⟨parent, hp, hd⟩ := h.parent ((hother hi k).1 hk) hroot
      exact ⟨parent, hp, hdir hd⟩
  · intro k i hk
    rw [hinodes]
    split
    · exact ⟨inode, rfl⟩
    · next hi => exact h.inode_exists ((hother hi k).1 hk)
  · intro i found hi
    rw [hinodes] at hi
    split at hi
    · next he =>
        obtain rfl : inode = found := Option.some.inj hi
        subst he
        have hone : new.keysOf t.nextIno = {key} := by
          ext k
          rw [mem_keysOf, hself, Finset.mem_singleton]
        exact ⟨by rw [hlinks, hone, Finset.card_singleton], by omega, fun _ => hlinks,
          Nat.lt_succ_self _, hlimits⟩
    · next he =>
        have hsame : new.keysOf i = t.keysOf i := by
          ext k
          rw [mem_keysOf, mem_keysOf, hother he]
        have ha := h.accounted hi
        exact ⟨hsame ▸ ha.links, ha.nlink_pos, ha.dir_nlink, Nat.lt_succ_of_lt ha.lt_nextIno,
          ha.limits⟩

/-- A further key, in a directory, of a node that is no directory. -/
theorem WellFormed.insert_link (hino : t.inodes[ino]? = some inode) (hfile : inode.isDir = false) :
    (({ t with entries := t.entries.insert key ino } : Tree).modify ino fun inode =>
      { inode with nlink := inode.nlink + 1, ctime := stamp.now }).WellFormed := by
  set new : Tree := ({ t with entries := t.entries.insert key ino } : Tree).modify ino fun inode =>
    { inode with nlink := inode.nlink + 1, ctime := stamp.now } with hnew
  have hentries : ∀ other,
      new.entries[other]? = if key = other then some ino else t.entries[other]? :=
    fun other => getElem?_insert_eq ..
  have hinodes : ∀ i, new.inodes[i]? = if ino = i
      then t.inodes[i]?.map fun inode =>
        { inode with nlink := inode.nlink + 1, ctime := stamp.now }
      else t.inodes[i]? :=
    fun i => inodes_modify ..
  have hkept : ∀ {k : String} {i : Nat}, t.entries[k]? = some i → new.entries[k]? = some i := by
    intro k i hk
    rw [hentries, if_neg, hk]
    rintro rfl
    rw [habsent] at hk
    cases hk
  have hdir : ∀ {k}, t.isDir k = true → new.isDir k = true := by
    intro k hd
    obtain ⟨i, old, he, hi, hd⟩ := isDir_eq_true.1 hd
    have hne : ino ≠ i := by
      rintro rfl
      rw [Option.some.inj (hino.symm.trans hi), hd] at hfile
      cases hfile
    exact isDir_eq_true.2 ⟨i, old, hkept he, by rw [hinodes, if_neg hne, hi], hd⟩
  refine .of_accounted (hkept h.root) (hdir h.root_isDir) ?_ ?_ ?_ ?_
  · intro k i hk
    rw [hentries] at hk
    split at hk
    · next he => exact he ▸ hkey
    · exact h.canonical hk
  · intro k i hk hroot
    rw [hentries] at hk
    split at hk
    · next he =>
        obtain ⟨parent, hp, hd⟩ := hparent
        exact ⟨parent, he ▸ hp, hdir hd⟩
    · obtain ⟨parent, hp, hd⟩ := h.parent hk hroot
      exact ⟨parent, hp, hdir hd⟩
  · intro k i hk
    have hold : ∃ old : Inode, t.inodes[i]? = some old := by
      rw [hentries] at hk
      split at hk
      · exact ⟨inode, Option.some.inj hk ▸ hino⟩
      · exact h.inode_exists hk
    obtain ⟨old, hi⟩ := hold
    rw [hinodes, hi]
    split <;> simp
  · intro i found hi
    rw [hinodes] at hi
    split at hi
    · next he =>
        subst he
        obtain ⟨old, hold, rfl⟩ := Option.map_eq_some_iff.1 hi
        obtain rfl : inode = old := Option.some.inj (hino.symm.trans hold)
        have hkeys : new.keysOf ino = insert key (t.keysOf ino) := by
          ext k
          rw [mem_keysOf, hentries, Finset.mem_insert, mem_keysOf]
          by_cases hk : key = k
          · simp [hk]
          · simp [hk, Ne.symm hk]
        have hcard : (new.keysOf ino).card = (t.keysOf ino).card + 1 := by
          rw [hkeys, Finset.card_insert_of_notMem]
          simp [habsent]
        have ha := h.accounted hold
        exact ⟨by rw [hcard, ← ha.links], Nat.succ_pos _,
          fun hd => absurd (hfile.symm.trans hd) Bool.false_ne_true, ha.lt_nextIno,
          ha.limits.size_le, ha.limits.perm_le⟩
    · next he =>
        have hsame : new.keysOf i = t.keysOf i := by
          ext k
          rw [mem_keysOf, mem_keysOf, hentries]
          split
          · next hk => subst hk; simp [habsent, he]
          · rfl
        have ha := h.accounted hi
        exact ⟨hsame ▸ ha.links, ha.nlink_pos, ha.dir_nlink, ha.lt_nextIno, ha.limits⟩

end Insert

/-! ## Removing keys -/

/-- Removing a key with nothing in it. -/
theorem WellFormed.removeKey (h : t.WellFormed) (hkey : t.entries[key]? = some ino)
    (hroot : key ≠ "/")
    (hempty : ∀ {child : String} {i : Nat}, t.entries[child]? = some i →
      Key.parent? child ≠ some key) :
    (t.removeKey stamp key ino).WellFormed := by
  set new := t.removeKey stamp key ino with hnew
  have hentries : ∀ other,
      new.entries[other]? = if key = other then none else t.entries[other]? := by
    intro other
    rw [hnew, Tree.removeKey, entries_release]
    exact getElem?_erase_eq ..
  have hinodes : ∀ i, new.inodes[i]? = if ino = i then
        t.inodes[i]?.bind fun inode => if inode.nlink ≤ 1 then none
          else some { inode with nlink := inode.nlink - 1, ctime := stamp.now }
      else t.inodes[i]? :=
    fun i => inodes_release ..
  have hkept : ∀ {k : String} {i : Nat},
      new.entries[k]? = some i ↔ k ≠ key ∧ t.entries[k]? = some i := by
    intro k i
    rw [hentries]
    by_cases hk : key = k
    · simp [hk]
    · simp [hk, Ne.symm hk]
  -- an inode with a second key does not go
  have hshared : ∀ {k : String} {inode : Inode}, k ≠ key → t.entries[k]? = some ino →
      t.inodes[ino]? = some inode → 1 < inode.nlink := by
    intro k inode hk he hi
    rw [h.links hi]
    exact Finset.one_lt_card.2 ⟨k, mem_keysOf.2 he, key, mem_keysOf.2 hkey, hk⟩
  have hdir : ∀ {k}, k ≠ key → t.isDir k = true → new.isDir k = true := by
    intro k hk hd
    obtain ⟨i, inode, he, hi, hd⟩ := isDir_eq_true.1 hd
    have hne : ino ≠ i := by
      rintro rfl
      exact hk (h.dir_key_unique hi hd he hkey)
    exact isDir_eq_true.2 ⟨i, inode, hkept.2 ⟨hk, he⟩, by rw [hinodes, if_neg hne, hi], hd⟩
  refine .of_accounted (hkept.2 ⟨Ne.symm hroot, h.root⟩) (hdir (Ne.symm hroot) h.root_isDir)
    (fun hk => h.canonical (hkept.1 hk).2) ?_ ?_ ?_
  · intro k i hk hkr
    obtain ⟨parent, hp, hd⟩ := h.parent (hkept.1 hk).2 hkr
    refine ⟨parent, hp, hdir ?_ hd⟩
    rintro rfl
    exact hempty (hkept.1 hk).2 hp
  · intro k i hk
    obtain ⟨hne, he⟩ := hkept.1 hk
    obtain ⟨inode, hi⟩ := h.inode_exists he
    rw [hinodes, hi]
    split
    · next hio =>
        subst hio
        exact ⟨_, if_neg (not_le.2 (hshared hne he hi))⟩
    · exact ⟨inode, rfl⟩
  · intro i found hi
    rw [hinodes] at hi
    split at hi
    · next hio =>
        subst hio
        obtain ⟨inode, hold, hrest⟩ := Option.bind_eq_some_iff.1 hi
        split at hrest
        · cases hrest
        · next hlinks =>
            obtain rfl := Option.some.inj hrest
            have hkeys : new.keysOf ino = (t.keysOf ino).erase key := by
              ext k
              rw [mem_keysOf, hkept, Finset.mem_erase, mem_keysOf]
            have ha := h.accounted hold
            refine ⟨?_, Nat.sub_pos_of_lt (not_le.1 hlinks), fun hd => ?_, ?_, ?_⟩
            · rw [hkeys, Finset.card_erase_of_mem (mem_keysOf.2 hkey), ← ha.links]
            · exact absurd (ha.dir_nlink hd).le hlinks
            · rw [hnew, Tree.removeKey, nextIno_release]
              exact ha.lt_nextIno
            · exact ⟨ha.limits.size_le, ha.limits.perm_le⟩
    · next hio =>
        have hsame : new.keysOf i = t.keysOf i := by
          ext k
          rw [mem_keysOf, mem_keysOf, hkept, and_iff_right_iff_imp]
          rintro he rfl
          exact hio (Option.some.inj (hkey.symm.trans he))
        have ha := h.accounted hi
        refine ⟨hsame ▸ ha.links, ha.nlink_pos, ha.dir_nlink, ?_, ha.limits⟩
        rw [hnew, Tree.removeKey, nextIno_release]
        exact ha.lt_nextIno

end Tree

end Strongbox
