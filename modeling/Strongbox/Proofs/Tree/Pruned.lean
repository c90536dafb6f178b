import Strongbox.Proofs.Tree.Reachable

/-!
# Pruned namespaces

A directory is removed together with what lies below it by removing one key after the other, each of
them once nothing lies in it any more.

* `Tree.under` — the keys of a tree at or below some keys.
* **`Tree.Pruned`** — a tree without some of its keys, and otherwise as it was.
* `Tree.pruned_of_unlink`, `Tree.pruned_of_rmdir` — one key goes.
* `Tree.Pruned.trans` — more keys go.
* `Tree.under_directory`, `Tree.Pruned.under_siblings` — what lies below a directory, and what is
  left of it once some of its children are gone.
-/

namespace Strongbox

/-! ## Children -/

namespace Key

/-- Whatever lies below a key lies at or below a child of it. -/
lemma exists_child_of_isBelow {key above : String} (hk : Canonical key) (ha : Canonical above)
    (h : isBelow key above = true) :
    ∃ child, Canonical child ∧ parent? child = some above ∧ Within key child := by
  obtain ⟨names, hn, rfl⟩ := hk
  obtain ⟨above, hab, rfl⟩ := ha
  obtain ⟨rest, hr, rfl⟩ := (isBelow_ofNames hab hn).1 h
  obtain ⟨name, rest, rfl⟩ := List.exists_cons_of_ne_nil hr
  rw [List.append_cons] at hn ⊢
  have hchild : ∀ n ∈ above ++ [name], IsName n := fun n h => hn n (List.mem_append_left _ h)
  exact ⟨ofNames (above ++ [name]), ⟨_, hchild, rfl⟩, parent?_ofNames hchild,
    (within_ofNames hchild hn).2 ⟨rest, rfl⟩⟩

/-- No key lies at or below two children of one key. -/
lemma eq_of_within_siblings {key a b parent : String} (hk : Canonical key) (ha : Canonical a)
    (hb : Canonical b) (hpa : parent? a = some parent) (hpb : parent? b = some parent)
    (hwa : Within key a) (hwb : Within key b) : a = b := by
  obtain ⟨above, x, hx, rfl, rfl⟩ := exists_names_of_parent ha hpa
  obtain ⟨above', y, hy, rfl, hsame⟩ := exists_names_of_parent hb hpb
  obtain rfl : above = above' := ofNames_inj (fun n h => hx n (List.mem_append_left _ h))
    (fun n h => hy n (List.mem_append_left _ h)) hsame
  obtain ⟨names, hn, rfl⟩ := hk
  obtain ⟨r, rfl⟩ := (within_ofNames hx hn).1 hwa
  obtain ⟨s, hs⟩ := (within_ofNames hy hn).1 hwb
  rw [← List.append_cons, ← List.append_cons, List.append_cancel_left_eq, List.cons.injEq] at hs
  rw [hs.1]

/-- A child lies below its parent, and so does whatever lies at or below the child. -/
lemma isBelow_of_within_child {key child parent : String} (hk : Canonical key)
    (hc : Canonical child) (hpc : Canonical parent) (hp : parent? child = some parent)
    (hw : Within key child) : isBelow key parent = true := by
  have hchild := isBelow_parent hc hp hpc
  rcases hw with rfl | hbelow
  · exact hchild
  · exact isBelow_trans hk hc hpc hbelow hchild

end Key

namespace Inode

/-- An inode that has changed in nothing but its links and the time of its last change. -/
structure Survives (inode kept : Inode) : Prop where
  keeps : inode.Keeps kept
  mtime : kept.mtime = inode.mtime

lemma Survives.refl (inode : Inode) : inode.Survives inode := ⟨.refl inode, rfl⟩

lemma Survives.trans {inode kept last : Inode} (h : inode.Survives kept)
    (h' : kept.Survives last) : inode.Survives last :=
  ⟨h.keeps.trans h'.keeps, h'.mtime.trans h.mtime⟩

lemma survives_touchChanged (stamp : Stamp) (inode : Inode) :
    inode.Survives (inode.touchChanged stamp) :=
  ⟨⟨rfl, rfl, rfl, rfl, rfl⟩, rfl⟩

end Inode

namespace Tree

variable {t t' t'' : Tree} {stamp : Stamp} {key other : String} {ino : Nat}
  {gone gone' : Finset String} {tops : List String}

/-! ## Keys at or below others -/

/-- The keys at or below some keys. -/
def under (t : Tree) (tops : List String) : Finset String :=
  t.entries.keys.toFinset.filter fun key => ∃ top ∈ tops, Key.Within key top

lemma mem_under : key ∈ t.under tops
    ↔ (∃ ino, t.entries[key]? = some ino) ∧ ∃ top ∈ tops, Key.Within key top := by
  rw [under, Finset.mem_filter, List.mem_toFinset, Std.ExtTreeMap.mem_keys,
    Std.ExtTreeMap.mem_iff_isSome_getElem?, Option.isSome_iff_exists]

lemma card_under_le (t : Tree) (tops : List String) : (t.under tops).card ≤ t.entries.size := by
  rw [← Std.ExtTreeMap.length_keys]
  exact (Finset.card_filter_le _ _).trans (List.toFinset_card_le _)

/-- The keys directly in a directory have it as their parent. -/
lemma mem_childKeys (h : t.WellFormed) (hkey : Key.Canonical key) : other ∈ t.childKeys key
    ↔ (∃ ino, t.entries[other]? = some ino) ∧ Key.parent? other = some key := by
  rw [childKeys, List.mem_filter, Std.ExtTreeMap.mem_keys, Std.ExtTreeMap.mem_iff_isSome_getElem?,
    Option.isSome_iff_exists, Option.isSome_iff_exists]
  refine and_congr_right fun hentry => ?_
  obtain ⟨ino, hother⟩ := hentry
  simp only [Key.childName?_eq_some hkey (h.canonical hother), exists_and_left, exists_eq',
    and_true]

lemma nodup_childKeys (t : Tree) (key : String) : (t.childKeys key).Nodup :=
  (Std.ExtTreeMap.nodup_keys (t := t.entries)).filter _

/-- What lies at or below a directory is the directory itself and what lies at or below its
children. -/
lemma under_directory (h : t.WellFormed) (hkey : t.entries[key]? = some ino) :
    t.under [key] = insert key (t.under (t.childKeys key)) := by
  have hkc := h.canonical hkey
  ext other
  simp only [Finset.mem_insert, mem_under, List.mem_singleton, exists_eq_left]
  constructor
  · rintro ⟨⟨i, hi⟩, hsame | hbelow⟩
    · exact Or.inl hsame
    · obtain ⟨child, hcc, hp, hw⟩ :=
        Key.exists_child_of_isBelow (h.canonical hi) hkc hbelow
      refine Or.inr ⟨⟨i, hi⟩, child, (mem_childKeys h hkc).2 ⟨?_, hp⟩, hw⟩
      rcases hw with rfl | hbelow'
      · exact ⟨i, hi⟩
      · obtain ⟨j, -, hj, -, -⟩ := isDir_eq_true.1 (h.isDir_of_isBelow hcc hi hbelow')
        exact ⟨j, hj⟩
  · rintro (rfl | ⟨⟨i, hi⟩, child, hchild, hw⟩)
    · exact ⟨⟨ino, hkey⟩, .refl other⟩
    · obtain ⟨⟨j, hj⟩, hp⟩ := (mem_childKeys h hkc).1 hchild
      exact ⟨⟨i, hi⟩, Or.inr
        (Key.isBelow_of_within_child (h.canonical hi) (h.canonical hj) hkc hp hw)⟩

/-- A directory does not lie at or below its own children. -/
lemma not_mem_under_children (h : t.WellFormed) (hkey : Key.Canonical key) :
    key ∉ t.under (t.childKeys key) := by
  intro hmem
  obtain ⟨⟨i, hi⟩, child, hchild, hw⟩ := mem_under.1 hmem
  obtain ⟨⟨j, hj⟩, hp⟩ := (mem_childKeys h hkey).1 hchild
  have hbelow := Key.isBelow_of_within_child hkey (h.canonical hj) hkey hp hw
  rw [Key.isBelow_irrefl] at hbelow
  cases hbelow

/-! ## Fewer keys -/

/-- A tree without some of its keys.  All other keys name what they named before, and nothing but
links and times has changed about that. -/
structure Pruned (gone : Finset String) (t t' : Tree) : Prop where
  present : ∀ key ∈ gone, ∃ ino, t.entries[key]? = some ino
  entries : ∀ key : String, t'.entries[key]? = if key ∈ gone then none else t.entries[key]?
  inode : ∀ {ino : Nat} {kept : Inode}, t'.inodes[ino]? = some kept →
    ∃ inode, t.inodes[ino]? = some inode ∧ inode.Keeps kept
  wellFormed : t'.WellFormed

namespace Pruned

lemma refl (h : t.WellFormed) : Pruned ∅ t t where
  present _ hkey := absurd hkey (Finset.notMem_empty _)
  entries key := (if_neg (Finset.notMem_empty key)).symm
  inode hi := ⟨_, hi, .refl _⟩
  wellFormed := h

/-- What is gone does not go again. -/
lemma disjoint (h : Pruned gone t t') (h' : Pruned gone' t' t'') : Disjoint gone gone' := by
  refine Finset.disjoint_left.2 fun key hkey hkey' => ?_
  obtain ⟨ino, hino⟩ := h'.present key hkey'
  rw [h.entries, if_pos hkey] at hino
  cases hino

lemma trans (h : Pruned gone t t') (h' : Pruned gone' t' t'') : Pruned (gone ∪ gone') t t'' where
  present key hkey := by
    rcases Finset.mem_union.1 hkey with hgone | hgone'
    · exact h.present key hgone
    · obtain ⟨ino, hino⟩ := h'.present key hgone'
      rw [h.entries, if_neg (Finset.disjoint_right.1 (h.disjoint h') hgone')] at hino
      exact ⟨ino, hino⟩
  entries key := by
    rw [h'.entries, h.entries]
    by_cases hgone' : key ∈ gone' <;> by_cases hgone : key ∈ gone <;> simp [hgone, hgone']
  inode hi := by
    obtain ⟨inode', hi', hkeeps'⟩ := h'.inode hi
    obtain ⟨inode, hi, hkeeps⟩ := h.inode hi'
    exact ⟨inode, hi, hkeeps.trans hkeeps'⟩
  wellFormed := h'.wellFormed

/-- A key that stays names a directory if it did. -/
lemma isDir (h : Pruned gone t t') (hkey : key ∉ gone) : t'.isDir key = t.isDir key := by
  have hentry : t'.entries[key]? = t.entries[key]? := (h.entries key).trans (if_neg hkey)
  cases hk : t.entries[key]? with
  | none => rw [isDir_of_absent hk, isDir_of_absent (hentry.trans hk)]
  | some ino =>
      rw [hk] at hentry
      obtain ⟨kept, hkept⟩ := h.wellFormed.inode_exists hentry
      obtain ⟨inode, hinode, hkeeps⟩ := h.inode hkept
      rw [isDir_of_inode hk hinode, isDir_of_inode hentry hkept, Inode.isDir, Inode.isDir,
        hkeeps.kind]

/-- Links are counted down by the names that go. -/
lemma links (h : Pruned gone t t') (ht : t.WellFormed) {inode kept : Inode}
    (hinode : t.inodes[ino]? = some inode) (hkept : t'.inodes[ino]? = some kept) :
    kept.nlink + (gone.filter fun key => t.entries[key]? = some ino).card = inode.nlink := by
  have hkeys : t'.keysOf ino
      = t.keysOf ino \ gone.filter fun key => t.entries[key]? = some ino := by
    ext key
    rw [mem_keysOf, Finset.mem_sdiff, Finset.mem_filter, mem_keysOf, h.entries]
    by_cases hkey : key ∈ gone <;> simp [hkey]
  rw [h.wellFormed.links hkept, ht.links hinode, hkeys]
  refine Finset.card_sdiff_add_card_eq_card fun key hkey => ?_
  exact mem_keysOf.2 (Finset.mem_filter.1 hkey).2

end Pruned

/-! ## One key -/

/-- Whatever was changed about one inode, the others are as they were. -/
lemma exists_of_modify {R : Inode → Inode → Prop} (hrefl : ∀ inode, R inode inode)
    {change : Inode → Inode} (hc : ∀ inode, R inode (change inode)) {number : Nat} {kept : Inode}
    (h : (t.modify number change).inodes[ino]? = some kept) :
    ∃ inode, t.inodes[ino]? = some inode ∧ R inode kept := by
  rw [inodes_modify] at h
  split at h
  · obtain ⟨inode, hinode, rfl⟩ := Option.map_eq_some_iff.1 h
    exact ⟨inode, hinode, hc inode⟩
  · exact ⟨kept, h, hrefl kept⟩

/-- An inode of which a key goes has one link less, if there is anything left of it. -/
lemma survives_of_removeKey {number : Nat} {kept : Inode}
    (h : (t.removeKey stamp key number).inodes[ino]? = some kept) :
    ∃ inode, t.inodes[ino]? = some inode ∧ inode.Survives kept := by
  rw [removeKey, inodes_release] at h
  split at h
  · obtain ⟨inode, hinode, hrest⟩ := Option.bind_eq_some_iff.1 h
    split at hrest
    · cases hrest
    · obtain rfl := Option.some.inj hrest
      exact ⟨inode, hinode, ⟨rfl, rfl, rfl, rfl, rfl⟩, rfl⟩
  · exact ⟨kept, h, .refl kept⟩

lemma pruned_of_removeKey (hkey : t.entries[key]? = some ino)
    (h : ((t.removeKey stamp key ino).touchParent stamp key).WellFormed) :
    Pruned {key} t ((t.removeKey stamp key ino).touchParent stamp key) where
  present other hother := Finset.mem_singleton.1 hother ▸ ⟨ino, hkey⟩
  entries other := by
    rw [entries_touchParent, removeKey, entries_release]
    refine (getElem?_erase_eq ..).trans ?_
    simp only [Finset.mem_singleton, eq_comm]
  inode {number kept} hkept := by
    rw [touchParent_eq] at hkept
    split at hkept
    · obtain ⟨inode, hinode, hkeeps⟩ :=
        exists_of_modify Inode.Keeps.refl (Inode.keeps_touchModified stamp) hkept
      obtain ⟨first, hfirst, hsurvives⟩ := survives_of_removeKey hinode
      exact ⟨first, hfirst, hsurvives.keeps.trans hkeeps⟩
    · obtain ⟨first, hfirst, hsurvives⟩ := survives_of_removeKey hkept
      exact ⟨first, hfirst, hsurvives.keeps⟩
  wellFormed := h

lemma pruned_of_unlink (h : t.WellFormed) (hok : t.unlink stamp key = .ok t') :
    t.isDir key = false ∧ Pruned {key} t t' := by
  have hwell := h.unlink hok
  obtain ⟨ino, inode, hk, hi, hfile, rfl⟩ := unlink_ok hok
  exact ⟨(isDir_of_inode hk hi).trans hfile, pruned_of_removeKey hk hwell⟩

lemma pruned_of_rmdir (h : t.WellFormed) (hok : t.rmdir stamp key = .ok t') :
    key ≠ "/" ∧ t.isDir key = true ∧ Pruned {key} t t' := by
  have hwell := h.rmdir hok
  obtain ⟨hroot, ino, inode, hk, hi, hdir, -, rfl⟩ := rmdir_ok hok
  exact ⟨hroot, (isDir_of_inode hk hi).trans hdir, pruned_of_removeKey hk hwell⟩

/-! ## One child after the other -/

/-- Nothing lies below a node that is no directory. -/
lemma under_file (h : t.WellFormed) (hkey : t.entries[key]? = some ino)
    (hfile : t.isDir key = false) : t.under [key] = {key} := by
  ext other
  simp only [mem_under, List.mem_singleton, exists_eq_left, Finset.mem_singleton]
  constructor
  · rintro ⟨⟨i, hi⟩, hsame | hbelow⟩
    · exact hsame
    · rw [h.isDir_of_isBelow (h.canonical hkey) hi hbelow] at hfile
      cases hfile
  · rintro rfl
    exact ⟨⟨ino, hkey⟩, .refl other⟩

lemma under_cons (t : Tree) (top : String) (tops : List String) :
    t.under (top :: tops) = t.under [top] ∪ t.under tops := by
  ext key
  simp only [mem_under, List.mem_cons, exists_eq_or_imp, Finset.mem_union, List.not_mem_nil,
    or_false, exists_eq_left, and_or_left]

/-- Once a child is gone with what lies below it, its siblings are as they were. -/
lemma Pruned.under_siblings (h : t.WellFormed) {child : String}
    (hpruned : Pruned (t.under [child]) t t') (hchild : other ∈ t.childKeys key)
    (hcanonical : Key.Canonical key) (hfirst : child ∈ t.childKeys key) (hne : other ≠ child) :
    ∀ {below : String}, Key.Within below other → t'.entries[below]? = t.entries[below]? := by
  intro below hw
  rw [hpruned.entries]
  refine if_neg fun hgone => ?_
  obtain ⟨⟨i, hi⟩, top, htop, hw'⟩ := mem_under.1 hgone
  obtain rfl := List.mem_singleton.1 htop
  obtain ⟨⟨j, hj⟩, hp⟩ := (mem_childKeys h hcanonical).1 hchild
  obtain ⟨⟨l, hl⟩, hp'⟩ := (mem_childKeys h hcanonical).1 hfirst
  exact hne (Key.eq_of_within_siblings (h.canonical hi) (h.canonical hj) (h.canonical hl) hp hp'
    hw hw')

end Tree

end Strongbox
