import Strongbox.Proofs.Tree.Pruned

/-!
# What a rename does

A rename moves a node with everything below it and touches nothing else.  Which keys lie below
another is told by their text: they go on with a slash where the other one ends.

* `Key.IsTail` — what keys at or below another have behind its text, and `Key.within_iff_tail`.
* `Tree.Immovable` — the reasons for which a node does not move to a key.
* `Tree.Renamed` — a tree after a node has moved, key by key and inode by inode.
* `Tree.exists_rename`, `Tree.not_immovable_of_rename` — a rename goes through where it can.
* **`Tree.renamed_of_rename`** — it fails for these reasons only, and else the node has moved.
-/

namespace Strongbox

/-! ## Texts behind a key -/

namespace Key

/-- Nothing, or a slash and whatever follows it. -/
def IsTail (tail : String) : Prop :=
  tail = "" ∨ startsWith tail "/" = true

/-- A text with a slash in front. -/
lemma isTail_iff {tail : String} :
    IsTail tail ↔ tail = "" ∨ ∃ rest, tail.toList = '/' :: rest := by
  rw [IsTail, startsWith, List.isPrefixOf_iff_prefix]
  exact or_congr_right (exists_congr fun _ => eq_comm)

/-- The keys at or below another one begin with its text. -/
lemma within_iff_tail {key above : String} (habove : above ≠ "/") :
    Within key above ↔ ∃ tail, IsTail tail ∧ key = above ++ tail := by
  have hprefix : (childPrefix above).toList = above.toList ++ ['/'] := by
    rw [childPrefix, if_neg habove, String.toList_append]
    rfl
  constructor
  · rintro (rfl | hbelow)
    · exact ⟨"", Or.inl rfl, String.append_empty.symm⟩
    · rw [isBelow, Bool.and_eq_true, startsWith, List.isPrefixOf_iff_prefix, hprefix] at hbelow
      obtain ⟨-, rest, hrest⟩ := hbelow
      refine ⟨String.ofList ('/' :: rest), isTail_iff.2 (Or.inr ⟨rest, String.toList_ofList⟩), ?_⟩
      apply String.toList_injective
      rw [← hrest, String.toList_append, String.toList_ofList, List.append_assoc]
      rfl
  · rintro ⟨tail, htail, rfl⟩
    rcases isTail_iff.1 htail with rfl | ⟨rest, hrest⟩
    · exact Or.inl String.append_empty
    · refine Or.inr ?_
      rw [isBelow, Bool.and_eq_true, startsWith, List.isPrefixOf_iff_prefix, hprefix,
        String.toList_append, hrest, bne_iff_ne]
      refine ⟨fun hsame => ?_, rest, by simp⟩
      have hlength := congrArg (List.length ∘ String.toList) hsame
      simp [hrest] at hlength

/-- Of two keys that a third one lies at or below, one lies at or below the other. -/
lemma within_comparable {key a b : String} (hk : Canonical key) (ha : Canonical a)
    (hb : Canonical b) (hka : Within key a) (hkb : Within key b) : Within a b ∨ Within b a := by
  rcases hka with rfl | hka
  · exact Or.inl hkb
  rcases hkb with rfl | hkb
  · exact Or.inr (Or.inr hka)
  rcases isBelow_comparable hk ha hb hka hkb with hsame | hbelow | hbelow
  · exact Or.inl (Or.inl hsame)
  · exact Or.inl (Or.inr hbelow)
  · exact Or.inr (Or.inr hbelow)

end Key

/-! ## Nodes that stay -/

namespace Inode

/-- An inode that has changed in nothing but the times of its last change. -/
structure Stays (inode kept : Inode) : Prop where
  keeps : inode.Keeps kept
  nlink : kept.nlink = inode.nlink

lemma Stays.refl (inode : Inode) : inode.Stays inode := ⟨.refl inode, rfl⟩

lemma stays_touchModified (stamp : Stamp) (inode : Inode) :
    inode.Stays (inode.touchModified stamp) :=
  ⟨keeps_touchModified stamp inode, rfl⟩

lemma stays_touchChanged (stamp : Stamp) (inode : Inode) :
    inode.Stays (inode.touchChanged stamp) :=
  ⟨⟨rfl, rfl, rfl, rfl, rfl⟩, rfl⟩

end Inode

namespace Tree

variable {t t' t'' : Tree} {stamp : Stamp} {source target : String} {ino : Nat}

/-- A number stands for the same inode in two trees, up to the times of its last change, or for none
in both of them. -/
def SameInode (t t' : Tree) (ino : Nat) : Prop :=
  Option.Rel Inode.Stays t.inodes[ino]? t'.inodes[ino]?

lemma SameInode.of_eq (h : t'.inodes[ino]? = t.inodes[ino]?) : SameInode t t' ino := by
  rw [SameInode, h]
  cases t.inodes[ino]? with
  | none => exact .none
  | some inode => exact .some (.refl inode)

lemma SameInode.of_none (h : SameInode t t' ino) (hnone : t.inodes[ino]? = none) :
    t'.inodes[ino]? = none := by
  rw [SameInode, hnone] at h
  generalize t'.inodes[ino]? = found at h ⊢
  cases h
  rfl

lemma SameInode.of_some (h : SameInode t t' ino) {inode : Inode}
    (hinode : t.inodes[ino]? = some inode) :
    ∃ kept, t'.inodes[ino]? = some kept ∧ inode.Stays kept := by
  rw [SameInode, hinode] at h
  generalize t'.inodes[ino]? = found at h ⊢
  cases h with
  | some hstays => exact ⟨_, rfl, hstays⟩

lemma SameInode.trans (h : SameInode t t' ino) (h' : SameInode t' t'' ino) :
    SameInode t t'' ino := by
  cases hinode : t.inodes[ino]? with
  | none =>
      rw [SameInode, hinode, h'.of_none (h.of_none hinode)]
      exact .none
  | some inode =>
      obtain ⟨kept, hkept, hfirst⟩ := h.of_some hinode
      obtain ⟨last, hlast, hsecond⟩ := h'.of_some hkept
      rw [SameInode, hinode, hlast]
      exact .some ⟨hfirst.keeps.trans hsecond.keeps, hsecond.nlink.trans hfirst.nlink⟩

lemma sameInode_modify {change : Inode → Inode}
    (hstays : ∀ inode : Inode, inode.Stays (change inode)) (number : Nat) :
    SameInode t (t.modify number change) ino := by
  rw [SameInode, inodes_modify]
  cases t.inodes[ino]? with
  | none => split <;> exact .none
  | some inode =>
      split
      · exact .some (hstays inode)
      · exact .some (.refl inode)

lemma sameInode_touchParent (key : String) : SameInode t (t.touchParent stamp key) ino := by
  rw [touchParent_eq]
  split
  · exact sameInode_modify (Inode.stays_touchModified stamp) _
  · exact .of_eq rfl

/-- A move marks inodes and does nothing else to them. -/
lemma sameInode_relocate (movingDir : Bool) (number : Nat) :
    SameInode t (t.relocate stamp movingDir number source target) ino := by
  have hentries : ∀ entries, SameInode t { t with entries := entries } ino := fun _ => .of_eq rfl
  exact ((hentries _).trans (sameInode_modify (Inode.stays_touchChanged stamp) number)).trans
    ((sameInode_touchParent source).trans (sameInode_touchParent target))

/-! ## Nodes that move -/

/-- Why a node does not move to a key. -/
inductive Immovable (t : Tree) (source target : String) : Prop
  /-- There is no such node. -/
  | absent (h : t.entries[source]? = none)
  /-- The root stays where it is, and nothing takes its place. -/
  | root (hne : source ≠ target) (h : source = "/" ∨ target = "/")
  /-- Nothing moves below itself. -/
  | inside (h : Key.isBelow target source = true)
  /-- The target does not lie in a directory. -/
  | outside {parent : String} (hparent : Key.parent? target = some parent)
      (hdir : t.isDir parent = false)
  /-- Another node is in the way, of another sort. -/
  | sort {existing : Nat} (hexisting : t.entries[target]? = some existing)
      (hother : t.entries[source]? ≠ some existing) (hsort : t.isDir source ≠ t.isDir target)
  /-- Another directory is in the way, and something lies in it. -/
  | full {existing : Nat} {child : String} (hexisting : t.entries[target]? = some existing)
      (hother : t.entries[source]? ≠ some existing)
      (hchild : ∃ ino, t.entries[child]? = some ino) (hparent : Key.parent? child = some target)

/-- The tree after a node has moved, with everything below it, to a key that named nothing or
another node. -/
structure Renamed (t : Tree) (source target : String) (t' : Tree) : Prop where
  /-- What the source and the keys below it named is named by the target and the keys below it. -/
  arrives : ∀ {tail : String}, Key.IsTail tail →
    t'.entries[target ++ tail]? = t.entries[source ++ tail]?
  /-- Nothing is left behind. -/
  leaves : ∀ {tail : String}, Key.IsTail tail → t'.entries[source ++ tail]? = none
  /-- All other keys name what they named. -/
  others : ∀ {key : String},
    (∀ tail, Key.IsTail tail → key ≠ source ++ tail ∧ key ≠ target ++ tail) →
      t'.entries[key]? = t.entries[key]?
  /-- What the target named has one link less, and goes with its last link only. -/
  replaced : ∀ {existing : Nat} {inode : Inode}, t.entries[target]? = some existing →
    t.inodes[existing]? = some inode →
      if inode.nlink = 1 then t'.inodes[existing]? = none
      else ∃ kept, t'.inodes[existing]? = some kept ∧ inode.Keeps kept
        ∧ kept.nlink + 1 = inode.nlink
  /-- No other inode comes, goes or changes in more than its times. -/
  inodes : ∀ {ino : Nat}, t.entries[target]? ≠ some ino → SameInode t t' ino
  /-- No number is given out. -/
  nextIno : t'.nextIno = t.nextIno

/-- The target names what the source named, and the source names nothing. -/
lemma Renamed.ends (h : t.Renamed source target t') :
    t'.entries[target]? = t.entries[source]? ∧ t'.entries[source]? = none := by
  have hempty : Key.IsTail "" := Or.inl rfl
  have harrives := h.arrives hempty
  have hleaves := h.leaves hempty
  rw [String.append_empty, String.append_empty] at harrives
  rw [String.append_empty] at hleaves
  exact ⟨harrives, hleaves⟩

/-- What lies neither at nor below the keys of a move names what it named. -/
lemma Renamed.outside {key : String} (h : t.Renamed source target t') (hsroot : source ≠ "/")
    (htroot : target ≠ "/") (hsource : ¬ Key.Within key source)
    (htarget : ¬ Key.Within key target) : t'.entries[key]? = t.entries[key]? :=
  h.others fun tail htail =>
    ⟨fun he => hsource ((Key.within_iff_tail hsroot).2 ⟨tail, htail, he⟩),
      fun he => htarget ((Key.within_iff_tail htroot).2 ⟨tail, htail, he⟩)⟩

/-! ## Moving -/

/-- The text of a key that moves changes at its front. -/
lemma movedKey_append (source target tail : String) :
    movedKey source target (source ++ tail) = target ++ tail := by
  rw [movedKey, String.toList_append, ← String.length_toList, List.drop_left, String.ofList_toList]

section Relocate

variable {cleared : Tree} (h : t.WellFormed) (hcleared : cleared.WellFormed)
  (htarget : Key.Canonical target) (hsource : t.entries[source]? = some ino) (hsroot : source ≠ "/")
  (htroot : target ≠ "/") (hnot : ¬ Key.Within target source)
  (hentries : ∀ key : String, cleared.entries[key]?
    = if target = key then none else t.entries[key]?)

include h hcleared htarget hsource hnot hentries

/-- No key lies at or below both the source and the target. -/
lemma not_within_of_within {key : String} (hk : Key.Canonical key) (hw : Key.Within key source) :
    ¬ Key.Within key target := by
  intro hw'
  have hfree : cleared.entries[target]? = none := by rw [hentries, if_pos rfl]
  have hne : target ≠ source := fun he => hnot (Or.inl he)
  rcases Key.within_comparable hk (h.canonical hsource) htarget hw hw' with (hsame | hbelow) | hback
  · exact hne hsame.symm
  · have hmoving : cleared.entries[source]? = some ino := by rw [hentries, if_neg hne, hsource]
    rw [hcleared.not_isBelow_of_absent htarget hfree hmoving] at hbelow
    cases hbelow
  · exact hnot hback

include hsroot htroot

/-- Once its target is free, a node moves with everything below it. -/
lemma entries_of_relocate (stamp : Stamp) :
    let t' := cleared.relocate stamp (cleared.isDir source) ino source target
    (∀ {tail : String}, Key.IsTail tail → t'.entries[target ++ tail]? = t.entries[source ++ tail]?)
      ∧ (∀ {tail : String}, Key.IsTail tail → t'.entries[source ++ tail]? = none)
      ∧ ∀ {key : String},
        (∀ tail, Key.IsTail tail → key ≠ source ++ tail ∧ key ≠ target ++ tail) →
          t'.entries[key]? = t.entries[key]? := by
  intro t'
  have hs := h.canonical hsource
  have hfree : cleared.entries[target]? = none := by rw [hentries, if_pos rfl]
  have hne : target ≠ source := fun he => hnot (Or.inl he)
  have hmoving : cleared.entries[source]? = some ino := by rw [hentries, if_neg hne, hsource]
  have hmoved : ∀ {key : String} {i : Nat}, t'.entries[key]? = some i
      ↔ ∃ old : String, cleared.entries[old]? = some i ∧ moved source target old = key :=
    fun {key i} => entries_relocate hcleared hmoving hsroot htarget htroot hfree stamp key i
  have hwithin : ∀ {tail : String}, Key.IsTail tail → Key.Within (source ++ tail) source :=
    fun htail => (Key.within_iff_tail hsroot).2 ⟨_, htail, rfl⟩
  have hapart : ∀ {key : String}, Key.Canonical key → Key.Within key source →
      ¬ Key.Within key target :=
    fun hk hw => not_within_of_within h hcleared htarget hsource hnot hentries hk hw
  have hkept : ∀ {key : String}, ¬ Key.Within key target →
      cleared.entries[key]? = t.entries[key]? := by
    intro key hk
    rw [hentries, if_neg]
    rintro rfl
    exact hk (.refl _)
  refine ⟨fun {tail} htail => ?arrives, fun {tail} htail => ?leaves, fun {key} hkey => ?others⟩
  case arrives =>
    refine Option.ext fun i => hmoved.trans ⟨?_, fun hi => ?_⟩
    · rintro ⟨old, hold, hm⟩
      rw [moved] at hm
      split at hm
      · next hw =>
          rw [hkept (hapart (hcleared.canonical hold) hw)] at hold
          obtain ⟨rest, -, rfl⟩ := (Key.within_iff_tail hsroot).1 hw
          rw [movedKey_append, String.append_right_inj] at hm
          rw [← hm, hold]
      · -- nothing lay at or below the target when the moving began
        rcases (Key.within_iff_tail htroot).2 ⟨tail, htail, hm⟩ with rfl | hbelow
        · rw [hfree] at hold
          cases hold
        · rw [hcleared.not_isBelow_of_absent htarget hfree hold] at hbelow
          cases hbelow
    · refine ⟨source ++ tail, ?_, by rw [moved, if_pos (hwithin htail), movedKey_append]⟩
      rw [hkept (hapart (h.canonical hi) (hwithin htail)), hi]
  case leaves =>
    refine Option.eq_none_iff_forall_ne_some.2 fun i hi => ?_
    obtain ⟨old, hold, hm⟩ := hmoved.1 hi
    rw [moved] at hm
    split at hm
    · next hw =>
        have hold := hcleared.canonical hold
        have hcanonical := canonical_movedKey hs htarget hsroot htroot hold hw
        refine hapart hcanonical (hm ▸ hwithin htail) ?_
        exact within_movedKey hs htarget hsroot htroot hold hw
    · next hw => exact hw (hm ▸ hwithin htail)
  case others =>
    have hsrc : ¬ Key.Within key source := fun hw => by
      obtain ⟨tail, htail, he⟩ := (Key.within_iff_tail hsroot).1 hw
      exact (hkey tail htail).1 he
    have htgt : ¬ Key.Within key target := fun hw => by
      obtain ⟨tail, htail, he⟩ := (Key.within_iff_tail htroot).1 hw
      exact (hkey tail htail).2 he
    refine Option.ext fun i => hmoved.trans ⟨?_, fun hi => ?_⟩
    · rintro ⟨old, hold, hm⟩
      rw [moved] at hm
      split at hm
      · next hw =>
          obtain ⟨rest, hrest, rfl⟩ := (Key.within_iff_tail hsroot).1 hw
          rw [movedKey_append] at hm
          exact absurd hm.symm (hkey rest hrest).2
      · rw [← hkept htgt, ← hm, hold]
    · exact ⟨key, (hkept htgt).trans hi, if_neg hsrc⟩

end Relocate

/-- Whatever a node takes the place of loses a link. -/
lemma replaced_of_displace (h : t.WellFormed) {cleared : Tree} {existing : Nat} {inode : Inode}
    (hcleared : cleared = t.removeKey stamp target existing)
    (hinode : t.inodes[existing]? = some inode) :
    if inode.nlink = 1 then cleared.inodes[existing]? = none
    else ∃ kept, cleared.inodes[existing]? = some kept ∧ inode.Keeps kept
      ∧ kept.nlink + 1 = inode.nlink := by
  have hlinks := (h.accounted hinode).nlink_pos
  have hreleased : cleared.inodes[existing]? = if inode.nlink ≤ 1 then none
      else some { inode with nlink := inode.nlink - 1, ctime := stamp.now } := by
    rw [hcleared, removeKey, inodes_release, if_pos rfl, hinode, Option.bind_some]
  rw [hreleased]
  split
  · next hlast => rw [if_pos hlast.le]
  · next hmore =>
      have hshared : ¬ inode.nlink ≤ 1 := fun hle => hmore (le_antisymm hle hlinks)
      rw [if_neg hshared]
      exact ⟨_, rfl, ⟨rfl, rfl, rfl, rfl, rfl⟩, Nat.succ_pred_eq_of_pos hlinks⟩

/-- Where both keys name one node already, nothing happens. -/
lemma eq_of_rename_linked (hok : t.rename stamp source target = .ok t')
    (hsame : t.entries[source]? = t.entries[target]?) : t' = t := by
  rcases rename_ok hok with ⟨rfl, -⟩ | ⟨ino, cleared, hsource, -, -, -, -, -, hcleared, -⟩
  · rfl
  · rcases hcleared with ⟨hfree, -⟩ | ⟨existing, hexisting, hother, -⟩
    · rw [hsame, hfree] at hsource
      cases hsource
    · rw [hsame, hexisting] at hsource
      exact absurd (Option.some.inj hsource) hother

/-- A node that moves to a key that names something else. -/
lemma renamed_of_rename_ok (h : t.WellFormed) (htarget : Key.Canonical target)
    (hok : t.rename stamp source target = .ok t')
    (hother : t.entries[source]? ≠ t.entries[target]?) : t.Renamed source target t' := by
  rcases rename_ok hok with ⟨-, ino, hs, ht⟩ | ⟨ino, cleared, hsource, hne, hsroot, htroot, hbelow,
    hparent, hcleared, rfl⟩
  · exact absurd (hs.trans ht.symm) hother
  obtain ⟨hwell, hentries, hmoving, -⟩ :=
    h.cleared htarget hsource hne htroot hparent hcleared
  obtain ⟨harrives, hleaves, hothers⟩ := entries_of_relocate h hwell htarget hsource hsroot
    htroot (Key.not_within hne hbelow) hentries stamp
  rw [← hmoving]
  refine ⟨harrives, hleaves, hothers, fun {existing inode} hexisting hinode => ?_,
    fun {number} hnumber => ?_, ?_⟩
  · rcases hcleared with ⟨hfree, -⟩ | ⟨there, hthere, -, hdisplaced⟩
    · rw [hfree] at hexisting
      cases hexisting
    obtain rfl := Option.some.inj (hthere.symm.trans hexisting)
    obtain ⟨-, -, hremoved⟩ := displace_ok hdisplaced
    have hreplaced := replaced_of_displace h hremoved hinode
    split
    · next hlast =>
        rw [if_pos hlast] at hreplaced
        exact (sameInode_relocate _ ino).of_none hreplaced
    · next hmore =>
        rw [if_neg hmore] at hreplaced
        obtain ⟨kept, hkept, hkeeps, hlinks⟩ := hreplaced
        obtain ⟨last, hlast, hstays⟩ := (sameInode_relocate _ ino).of_some hkept
        exact ⟨last, hlast, hkeeps.trans hstays.keeps, hstays.nlink.symm ▸ hlinks⟩
  · have hsame : SameInode t cleared number := by
      rcases hcleared with ⟨-, rfl⟩ | ⟨there, hthere, -, hdisplaced⟩
      · exact .of_eq rfl
      · obtain ⟨-, -, rfl⟩ := displace_ok hdisplaced
        refine .of_eq ?_
        rw [removeKey, inodes_release, if_neg]
        rintro rfl
        exact hnumber hthere
    exact hsame.trans (sameInode_relocate _ ino)
  · rw [relocate, nextIno_touchParent, nextIno_touchParent, nextIno_modify]
    rcases hcleared with ⟨-, rfl⟩ | ⟨there, -, -, hdisplaced⟩
    · rfl
    · obtain ⟨-, -, rfl⟩ := displace_ok hdisplaced
      exact nextIno_release ..

/-! ## Failing -/

/-- Two keys of one node are two names of something that is no directory, or one key. -/
lemma WellFormed.not_immovable_of_linked (h : t.WellFormed)
    (hsource : t.entries[source]? = some ino) (htarget : t.entries[target]? = some ino) :
    ¬ t.Immovable source target := by
  obtain ⟨inode, hinode⟩ := h.inode_exists hsource
  have honly : t.isDir source = true → source = target := fun hdir =>
    h.dir_key_unique hinode ((isDir_of_inode hsource hinode).symm.trans hdir) hsource htarget
  intro himmovable
  cases himmovable with
  | absent habsent =>
      rw [hsource] at habsent
      cases habsent
  | root hne hroot =>
      have hsort : t.isDir source = t.isDir target :=
        (isDir_of_inode hsource hinode).trans (isDir_of_inode htarget hinode).symm
      rcases hroot with rfl | rfl
      · exact hne (honly h.root_isDir)
      · exact hne (honly (hsort.trans h.root_isDir))
  | inside hbelow =>
      obtain rfl := honly (h.isDir_of_isBelow (h.canonical hsource) htarget hbelow)
      rw [Key.isBelow_irrefl] at hbelow
      cases hbelow
  | outside hparent hdir =>
      have hroot : target ≠ "/" := by
        rintro rfl
        cases hparent
      obtain ⟨parent, hp, hd⟩ := h.parent htarget hroot
      obtain rfl := Option.some.inj (hp.symm.trans hparent)
      rw [hd] at hdir
      cases hdir
  | sort hexisting hother | full hexisting hother =>
      obtain rfl := Option.some.inj (htarget.symm.trans hexisting)
      exact hother hsource

/-- What has moved could be moved. -/
lemma WellFormed.not_immovable_of_rename (h : t.WellFormed) (htarget : Key.Canonical target)
    (hok : t.rename stamp source target = .ok t') : ¬ t.Immovable source target := by
  rcases rename_ok hok with ⟨-, ino, hs, ht⟩ | ⟨ino, cleared, hsource, hne, hsroot, htroot, hbelow,
    ⟨parent, hp, hd⟩, hcleared, -⟩
  · exact h.not_immovable_of_linked hs ht
  -- whatever is at the target was made room for
  have hroom : ∀ {existing}, t.entries[target]? = some existing →
      t.isDir source = t.isDir target ∧ (t.isDir source = true → t.childKeys target = []) := by
    intro existing hexisting
    rcases hcleared with ⟨hfree, -⟩ | ⟨there, -, -, hdisplaced⟩
    · rw [hfree] at hexisting
      cases hexisting
    · obtain ⟨hsort, hempty, -⟩ := displace_ok hdisplaced
      exact ⟨hsort, hempty⟩
  intro himmovable
  cases himmovable with
  | absent habsent =>
      rw [hsource] at habsent
      cases habsent
  | root _ hroot => exact hroot.elim hsroot htroot
  | inside hinside =>
      rw [hinside] at hbelow
      cases hbelow
  | outside hparent hdir =>
      obtain rfl := Option.some.inj (hp.symm.trans hparent)
      rw [hd] at hdir
      cases hdir
  | sort hexisting _ hsort => exact hsort (hroom hexisting).1
  | @full existing child hexisting _ hchild hparent =>
      obtain ⟨i, hi⟩ := hchild
      have hcroot : child ≠ "/" := by
        rintro rfl
        cases hparent
      obtain ⟨parent', hp', hd'⟩ := h.parent hi hcroot
      obtain rfl := Option.some.inj (hp'.symm.trans hparent)
      obtain ⟨hsort, hempty⟩ := hroom hexisting
      have hchildren := hempty (hsort.trans hd')
      exact h.no_child_of_childKeys htarget hchildren hi hparent

/-- What can be displaced is displaced. -/
lemma exists_displace {existing : Nat} {inode : Inode} {movingDir : Bool}
    (hexisting : t.entries[target]? = some existing) (hinode : t.inodes[existing]? = some inode)
    (hsort : movingDir = t.isDir target) (hempty : movingDir = true → t.childKeys target = []) :
    ∃ cleared, t.displace stamp movingDir target existing = .ok cleared := by
  have hdir : t.isDir target = inode.isDir := isDir_of_inode hexisting hinode
  refine ⟨t.removeKey stamp target existing, bind_eq_ok.2 ⟨inode, node_eq_ok.2
    ⟨existing, hexisting, hinode⟩, ?_⟩⟩
  rw [← hdir, ← hsort]
  cases movingDir with
  | true => simp [hempty rfl]
  | false => rfl

/-- A rename goes through where nothing stands in its way. -/
lemma exists_rename (h : t.WellFormed) (htarget : Key.Canonical target) (stamp : Stamp)
    (hmovable : ¬ t.Immovable source target) : ∃ t', t.rename stamp source target = .ok t' := by
  obtain ⟨ino, hsource⟩ := Option.ne_none_iff_exists'.1 fun he => hmovable (.absent he)
  obtain ⟨inode, hinode⟩ := h.inode_exists hsource
  have hnode := node_eq_ok.2 ⟨ino, hsource, hinode⟩
  have hdir : t.isDir source = inode.isDir := isDir_of_inode hsource hinode
  by_cases hne : source = target
  · exact ⟨t, bind_eq_ok.2 ⟨ino, lookup_eq_ok.2 hsource, if_pos hne⟩⟩
  have hroots : ¬ (source = "/" ∨ target = "/") := fun hroot => hmovable (.root hne hroot)
  have hbelow : ¬ Key.isBelow target source = true := fun hb => hmovable (.inside hb)
  obtain ⟨parent, hp, -⟩ := htarget.exists_parent fun hroot => hroots (Or.inr hroot)
  have hparent : t.requireParent target = .ok () := by
    refine requireParent_eq_ok.2 ⟨parent, hp, ?_⟩
    rw [← Bool.not_eq_false]
    exact fun hno => hmovable (.outside hp hno)
  rw [rename, lookup_eq_ok.2 hsource]
  show ∃ t', (if source = target then _ else _) = Except.ok t'
  rw [if_neg hne, if_neg hroots, if_neg hbelow, hparent, hnode]
  cases hexisting : t.entries[target]? with
  | none => exact ⟨_, rfl⟩
  | some existing =>
      by_cases hlinked : existing = ino
      · exact ⟨t, if_pos hlinked⟩
      have hother : t.entries[source]? ≠ some existing := by
        rw [hsource]
        exact fun hsame => hlinked (Option.some.inj hsame).symm
      obtain ⟨replaced, hreplaced⟩ := h.inode_exists hexisting
      have hsort : inode.isDir = t.isDir target := by
        rw [← hdir]
        exact not_not.1 fun hsort => hmovable (.sort hexisting hother hsort)
      have hempty : inode.isDir = true → t.childKeys target = [] := by
        intro _
        refine List.eq_nil_iff_forall_not_mem.2 fun child hchild => ?_
        obtain ⟨hentry, hparent⟩ := (mem_childKeys h htarget).1 hchild
        exact hmovable (.full hexisting hother hentry hparent)
      obtain ⟨cleared, hcleared⟩ := exists_displace hexisting hreplaced hsort hempty
      exact ⟨_, (if_neg hlinked).trans (bind_eq_ok.2 ⟨cleared, hcleared, rfl⟩)⟩

/-- A rename fails exactly where its node does not move to the target.  One that goes through
between keys of different nodes moves the node with everything below it, takes one link from what
the target named, and leaves everything else alone. -/
theorem renamed_of_rename (h : t.WellFormed) (htarget : Key.Canonical target) (stamp : Stamp) :
    ((∃ code, t.rename stamp source target = .error code) ↔ t.Immovable source target)
      ∧ ∀ t', t.rename stamp source target = .ok t' → t.entries[source]? ≠ t.entries[target]? →
        t.Renamed source target t' := by
  refine ⟨⟨?_, ?_⟩, fun t' hok hother => renamed_of_rename_ok h htarget hok hother⟩
  · rintro ⟨code, hfails⟩
    by_contra hmovable
    obtain ⟨t', hok⟩ := exists_rename h htarget stamp hmovable
    rw [hfails] at hok
    cases hok
  · intro himmovable
    cases hrename : t.rename stamp source target with
    | error code => exact ⟨code, rfl⟩
    | ok t' => exact absurd himmovable (h.not_immovable_of_rename htarget hrename)

/-- A directory with a file in it takes the place of an empty one, next to a file whose key begins
like that of the directory. -/
theorem renamed_after_mkdir :
    let stamp : Stamp := ⟨.epoch, 0, 0⟩
    ∃ t t' : Tree, t.WellFormed ∧ Key.Canonical "/b" ∧ t.rename stamp "/a" "/b" = .ok t'
      ∧ t.entries["/a"]? ≠ t.entries["/b"]? ∧ t.Renamed "/a" "/b" t'
      ∧ t'.entries["/b/f"]? = some 3 ∧ t'.entries["/a!"]? = some 4 := by
  intro stamp
  let t₁ : Tree := (Change.mkdir "/a" 0o755).after stamp (.empty stamp)
  let t₂ : Tree := (Change.create "/a/f" 0o644).after stamp t₁
  let t₃ : Tree := (Change.create "/a!" 0o644).after stamp t₂
  let t : Tree := (Change.mkdir "/b" 0o755).after stamp t₃
  have h₁ : t₁.WellFormed :=
    (wellFormed_empty stamp).after stamp (show (Change.mkdir "/a" 0o755).resolve = _ from rfl)
  have h₂ : t₂.WellFormed :=
    h₁.after stamp (show (Change.create "/a/f" 0o644).resolve = _ from rfl)
  have h₃ : t₃.WellFormed :=
    h₂.after stamp (show (Change.create "/a!" 0o644).resolve = _ from rfl)
  have h : t.WellFormed := h₃.after stamp (show (Change.mkdir "/b" 0o755).resolve = _ from rfl)
  have htarget : Key.Canonical "/b" :=
    Key.normalize_canonical (show Key.normalize "/b" = .ok "/b" from rfl)
  have hother : t.entries["/a"]? ≠ t.entries["/b"]? := by decide +kernel
  have hok : t.rename stamp "/a" "/b" = .ok ((Change.rename "/a" "/b").after stamp t) :=
    eq_ok_of_isOk (by decide +kernel) t
  exact ⟨t, _, h, htarget, hok, hother, (renamed_of_rename h htarget stamp).2 _ hok hother,
    by decide +kernel, by decide +kernel⟩

end Tree

end Strongbox
