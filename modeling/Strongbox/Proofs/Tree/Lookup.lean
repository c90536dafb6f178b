import Mathlib.Tactic.Lemma
import Strongbox.Tree.Operations

/-!
# Looking into a changed tree

What a key names and what a number stands for after each of the small changes that the operations on
a tree are made of.  With these, later modules never open a map.

* `Tree.modify`, `Tree.touchParent` and `Tree.release` leave all entries as they are.
* `Tree.inodes_modify`, `Tree.inodes_release` — the inode of a number afterwards.
* `Tree.lookup_eq_ok`, `Tree.node_eq_ok` and `Tree.requireParent_eq_ok` — what it means for a key to
  be found.
-/

namespace Strongbox

/-- Work in steps succeeds if each of its steps does. -/
lemma bind_eq_ok {ε α β : Type} {x : Except ε α} {f : α → Except ε β} {b : β} :
    (x >>= f) = .ok b ↔ ∃ a, x = .ok a ∧ f a = .ok b := by
  cases x <;> simp [bind, Except.bind]

/-- A failure in other words is still a failure. -/
lemma mapError_eq_ok {ε ε' α : Type} {x : Except ε α} {f : ε → ε'} {a : α} :
    x.mapError f = .ok a ↔ x = .ok a := by
  cases x with
  | error e => constructor <;> intro h <;> cases h
  | ok value => constructor <;> intro h <;> exact congrArg Except.ok (Except.ok.inj h)

/-- Where a check may stop the work, success means that it did not. -/
lemma guard_eq_ok {ε α β : Type} {c : Prop} [Decidable c] {code : ε} {f : α → Except ε β}
    {rest : Except ε β} {b : β} :
    (if c then (.error code : Except ε α) >>= f else rest) = .ok b ↔ ¬c ∧ rest = .ok b := by
  by_cases h : c <;> simp [h, bind, Except.bind]

lemma exists_of_isOk {ε α : Type} {x : Except ε α} (h : x.isOk = true) : ∃ a, x = .ok a := by
  cases x with
  | error e => cases h
  | ok a => exact ⟨a, rfl⟩

/-- Where there is a value, it is found. -/
lemma eq_ok_of_isOk {ε α : Type} {x : Except ε α} (h : x.isOk = true) (default : α) :
    x = .ok (x.toOption.getD default) := by
  obtain ⟨a, rfl⟩ := exists_of_isOk h
  rfl

namespace Tree

variable (t : Tree) (stamp : Stamp)

/-! ## Extensional maps -/

section Maps

variable {κ : Type} [Ord κ] [Std.TransOrd κ] [Std.LawfulEqOrd κ] [DecidableEq κ] {α : Type}
  (map : Std.ExtTreeMap κ α)

lemma getElem?_insert_eq (key other : κ) (value : α) :
    (map.insert key value)[other]? = if key = other then some value else map[other]? := by
  simp [Std.ExtTreeMap.getElem?_insert]

lemma getElem?_erase_eq (key other : κ) :
    (map.erase key)[other]? = if key = other then none else map[other]? := by
  simp [Std.ExtTreeMap.getElem?_erase]

lemma getElem?_modify_eq (key other : κ) (change : α → α) :
    (map.modify key change)[other]?
      = if key = other then map[other]?.map change else map[other]? := by
  by_cases h : key = other
  · subst h
    simp
  · simp [Std.ExtTreeMap.getElem?_modify, h]

end Maps

/-! ## Changing inodes -/

@[simp] lemma entries_modify (ino : Nat) (change : Inode → Inode) :
    (t.modify ino change).entries = t.entries := rfl

@[simp] lemma nextIno_modify (ino : Nat) (change : Inode → Inode) :
    (t.modify ino change).nextIno = t.nextIno := rfl

lemma inodes_modify (ino other : Nat) (change : Inode → Inode) :
    (t.modify ino change).inodes[other]?
      = if ino = other then t.inodes[other]?.map change else t.inodes[other]? :=
  getElem?_modify_eq t.inodes ino other change

/-- Two changes of one inode are one change. -/
lemma modify_modify (ino : Nat) (first second : Inode → Inode) :
    (t.modify ino first).modify ino second = t.modify ino (second ∘ first) := by
  have h : (t.inodes.modify ino first).modify ino second
      = t.inodes.modify ino (second ∘ first) := by
    refine Std.ExtTreeMap.ext_getElem? fun other => ?_
    simp only [getElem?_modify_eq]
    split <;> simp
  exact congrArg (fun inodes => ({ t with inodes := inodes } : Tree)) h

/-- Marking a directory changes one inode, or nothing. -/
lemma touchParent_eq (key : String) :
    t.touchParent stamp key = match (Key.parent? key).bind (t.entries[·]?) with
      | some ino => t.modify ino (.touchModified stamp)
      | none => t := rfl

@[simp] lemma entries_touchParent (key : String) :
    (t.touchParent stamp key).entries = t.entries := by
  rw [touchParent_eq]
  split <;> rfl

@[simp] lemma nextIno_touchParent (key : String) :
    (t.touchParent stamp key).nextIno = t.nextIno := by
  rw [touchParent_eq]
  split <;> rfl

@[simp] lemma entries_release (ino : Nat) : (t.release stamp ino).entries = t.entries := by
  rw [release]
  split
  · rfl
  · split <;> rfl

@[simp] lemma nextIno_release (ino : Nat) : (t.release stamp ino).nextIno = t.nextIno := by
  rw [release]
  split
  · rfl
  · split <;> rfl

/-- A released inode loses one link, and goes with its last one. -/
lemma inodes_release (ino other : Nat) :
    (t.release stamp ino).inodes[other]?
      = if ino = other then
          t.inodes[other]?.bind fun inode => if inode.nlink ≤ 1 then none
            else some { inode with nlink := inode.nlink - 1, ctime := stamp.now }
        else t.inodes[other]? := by
  rw [release]
  by_cases h : ino = other
  · subst h
    cases hi : t.inodes[ino]? with
    | none => simp [hi]
    | some inode =>
        by_cases hl : inode.nlink ≤ 1
        · simp [hl]
        · simp [hl, inodes_modify, hi]
  · rw [if_neg h]
    split
    · rfl
    · split
      · rw [getElem?_erase_eq, if_neg h]
      · rw [inodes_modify, if_neg h]

/-! ## Finding nodes -/

variable {t}

lemma lookup_eq_ok {key : String} {ino : Nat} :
    t.lookup key = .ok ino ↔ t.entries[key]? = some ino := by
  unfold lookup
  cases t.entries[key]? <;> simp

lemma inode_eq_ok {ino : Nat} {inode : Inode} :
    t.inode ino = .ok inode ↔ t.inodes[ino]? = some inode := by
  unfold Tree.inode
  cases t.inodes[ino]? <;> simp

lemma node_of_lookup {key : String} {ino : Nat} (h : t.lookup key = .ok ino) :
    t.node key = t.inode ino := by
  rw [node, h]
  rfl

/-- Two keys of one inode name the same node. -/
lemma node_of_shared {key other : String} {ino : Nat} (h : t.entries[key]? = some ino)
    (hother : t.entries[other]? = some ino) : t.node key = t.node other := by
  rw [node_of_lookup (lookup_eq_ok.2 h), node_of_lookup (lookup_eq_ok.2 hother)]

lemma node_eq_ok {key : String} {inode : Inode} : t.node key = .ok inode
    ↔ ∃ ino, t.entries[key]? = some ino ∧ t.inodes[ino]? = some inode := by
  cases he : t.entries[key]? with
  | some ino => simp [node_of_lookup (lookup_eq_ok.2 he), inode_eq_ok]
  | none =>
      have hl : t.lookup key = .error (t.missing key) := by rw [lookup, he]
      rw [node, hl]
      simp [bind, Except.bind]

lemma isDir_eq_true {key : String} : t.isDir key = true
    ↔ ∃ ino inode, t.entries[key]? = some ino ∧ t.inodes[ino]? = some inode ∧ inode.isDir := by
  unfold isDir
  cases h : t.node key with
  | ok inode =>
      obtain ⟨ino, he, hi⟩ := node_eq_ok.1 h
      simp [he, hi]
  | error code =>
      refine ⟨fun hf => absurd hf (by simp), fun ⟨ino, inode, he, hi, _⟩ => ?_⟩
      rw [node_eq_ok.2 ⟨ino, he, hi⟩] at h
      cases h

/-- A key that names an inode names a directory if that is one. -/
lemma isDir_of_inode {key : String} {ino : Nat} {inode : Inode} (hk : t.entries[key]? = some ino)
    (hi : t.inodes[ino]? = some inode) : t.isDir key = inode.isDir := by
  rw [isDir, node_eq_ok.2 ⟨ino, hk, hi⟩]

/-- A key that names nothing names no directory. -/
lemma isDir_of_absent {key : String} (habsent : t.entries[key]? = none) : t.isDir key = false := by
  rw [Bool.eq_false_iff]
  intro hdir
  obtain ⟨ino, -, hkey, -⟩ := isDir_eq_true.1 hdir
  rw [habsent] at hkey
  cases hkey

lemma requireParent_eq_ok {key : String} : t.requireParent key = .ok ()
    ↔ ∃ parent, Key.parent? key = some parent ∧ t.isDir parent = true := by
  unfold requireParent
  cases Key.parent? key with
  | none => simp
  | some parent =>
      simp only [Option.some.injEq, exists_eq_left', isDir]
      cases t.node parent with
      | error code => simp [bind, Except.bind]
      | ok inode => cases h : inode.isDir <;> simp [bind, Except.bind, h]

/-- A key that is free in a directory is missing there and nowhere above. -/
lemma missing_of_parent {key parent : String} (hparent : Key.parent? key = some parent)
    (hdir : t.isDir parent = true) : t.missing key = .noEntry := by
  obtain ⟨ino, inode, hkey, hinode, hkind⟩ := isDir_eq_true.1 hdir
  have hnonempty : key.length ≠ 0 := by
    intro hzero
    rw [String.length_eq_zero_iff.1 hzero] at hparent
    cases hparent
  obtain ⟨fuel, hfuel⟩ := Nat.exists_eq_succ_of_ne_zero hnonempty
  have hfirst : (Key.ancestors key).findSome? (t.entries[·]?) = some ino := by
    rw [Key.ancestors, hfuel, Key.ancestorsWithin, hparent]
    dsimp only
    rw [List.findSome?_cons, hkey]
  rw [missing, hfirst]
  dsimp only
  rw [hinode]
  dsimp only
  rw [if_pos hkind]

lemma lookup_of_parent {key parent : String} (hkey : t.entries[key]? = none)
    (hparent : Key.parent? key = some parent) (hdir : t.isDir parent = true) :
    t.lookup key = .error .noEntry := by
  rw [lookup, hkey, ← missing_of_parent hparent hdir]

end Tree

end Strongbox
