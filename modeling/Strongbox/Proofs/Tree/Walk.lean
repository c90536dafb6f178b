import Strongbox.Proofs.Tree.Listing

/-!
# Walking along a key

A store looks a key up as a whole and never walks along it.  Where it finds nothing, it goes up the
key to tell why.  All of this comes to what a walk down from the root would come to, name by name.

* `Key.names` — the names of a key, and `Key.names_of_parent`, those of its parent.
* `Tree.walk` — the walk from directory to directory, and `Tree.Blocked`, `Tree.Lacking`, the two
  ways in which it ends early.
* **`Tree.walk_names`** — the walk along a key comes to what the key names.

What this means for the calls on a key is in `Strongbox.Proofs.Tree.Resolution`.
-/

namespace Strongbox

/-! ## The names of a key -/

namespace Key

variable {key parent : String}

/-- The names of a key, outermost first. -/
def names (key : String) : List String :=
  (walk key.toList).map String.ofList

lemma names_ofNames {names : List (List Char)} (h : ∀ name ∈ names, IsName name) :
    Key.names (ofNames names) = names.map String.ofList := by
  rw [Key.names, toList_ofNames, walk_render h]

/-- A key has the names of its parent and its own last one. -/
lemma names_of_parent (hk : Canonical key) (hp : parent? key = some parent) :
    names key = names parent ++ [fileName key] := by
  obtain ⟨front, name, hn, rfl, rfl⟩ := exists_names_of_parent hk hp
  rw [names_ofNames hn, names_ofNames fun n h => hn n (List.mem_append_left _ h),
    fileName_ofNames (hn name (by simp)), List.map_append, List.map_singleton]

end Key

/-! ## Walking -/

/-- Where a walk has come to: a key, and the number of the inode there. -/
structure Place where
  key : String
  ino : Nat
  deriving DecidableEq, Repr

namespace Tree

variable {t : Tree} {key parent : String} {ino : Nat} {place : Place} {code : Errno}

/-- One step of a walk, to a name in a directory. -/
def enter (t : Tree) (place : Place) (name : String) : Except Errno Place := do
  if !(← t.inode place.ino).isDir then .error .notDirectory
  match t.listing place.key name with
  | none => .error .noEntry
  | some ino => .ok ⟨Key.child place.key name, ino⟩

/-- Walk from the root, name by name. -/
def walk (t : Tree) (names : List String) : Except Errno Place :=
  names.foldlM t.enter ⟨"/", rootIno⟩

/-- A walk comes to a node that is no directory and has names left. -/
def Blocked (t : Tree) (names : List String) : Prop :=
  ∃ front name rest place inode, names = front ++ name :: rest ∧ t.walk front = .ok place
    ∧ t.inodes[place.ino]? = some inode ∧ inode.isDir = false

/-- A walk comes to a directory that lacks the next name. -/
def Lacking (t : Tree) (names : List String) : Prop :=
  ∃ front name rest place inode, names = front ++ name :: rest ∧ t.walk front = .ok place
    ∧ t.inodes[place.ino]? = some inode ∧ inode.isDir = true ∧ t.listing place.key name = none

/-- A walk goes one step further. -/
lemma walk_append (names : List String) (name : String) :
    t.walk (names ++ [name]) = t.walk names >>= (t.enter · name) := by
  rw [walk, List.foldlM_append]
  exact bind_congr fun place => bind_pure _

/-- A walk ends early where one of its steps fails. -/
lemma walk_eq_error {names : List String} : t.walk names = .error code
    ↔ ∃ front name rest place, names = front ++ name :: rest ∧ t.walk front = .ok place
      ∧ t.enter place name = .error code := by
  induction names using List.reverseRecOn with
  | nil =>
      constructor
      · rintro ⟨⟩
      · rintro ⟨front, name, rest, -, hsplit, -⟩
        exact absurd hsplit (by simp)
  | append_singleton names last ih =>
      rw [walk_append]
      constructor
      · cases hwalk : t.walk names with
        | error e =>
            rintro ⟨⟩
            obtain ⟨front, name, rest, place, rfl, hfails⟩ := ih.1 hwalk
            exact ⟨front, name, rest ++ [last], place, by simp, hfails⟩
        | ok place => exact fun hfails => ⟨names, last, [], place, rfl, hwalk, hfails⟩
      · rintro ⟨front, name, rest, place, hsplit, hfront, hfails⟩
        obtain rfl | ⟨rest, final, rfl⟩ := List.eq_nil_or_concat' rest
        · obtain ⟨rfl, hlast⟩ := List.append_inj' hsplit rfl
          rw [hfront, List.singleton_inj.1 hlast]
          exact hfails
        · rw [← List.cons_append, ← List.append_assoc] at hsplit
          obtain ⟨hnames, -⟩ := List.append_inj' hsplit rfl
          rw [ih.2 ⟨front, name, rest, place, hnames, hfront, hfails⟩]
          rfl

section Enter

variable {inode : Inode} (hinode : t.inodes[place.ino]? = some inode)

include hinode

lemma enter_of_isDir (hdir : inode.isDir = true) (name : String) :
    t.enter place name = match t.listing place.key name with
      | none => .error .noEntry
      | some ino => .ok ⟨Key.child place.key name, ino⟩ := by
  rw [enter, inode_eq_ok.2 hinode]
  simp only [bind, Except.bind, hdir]
  rfl

lemma enter_of_file (hfile : inode.isDir = false) (name : String) :
    t.enter place name = .error .notDirectory := by
  rw [enter, inode_eq_ok.2 hinode]
  simp only [bind, Except.bind, hfile]
  rfl

end Enter

lemma enter_of_none (hinode : t.inodes[place.ino]? = none) (name : String) :
    t.enter place name = .error .ioFailure := by
  rw [enter, Tree.inode, hinode]
  rfl

/-- A step fails where it would lead out of something that is no directory. -/
lemma enter_eq_notDirectory {name : String} : t.enter place name = .error .notDirectory
    ↔ ∃ inode, t.inodes[place.ino]? = some inode ∧ inode.isDir = false := by
  cases hinode : t.inodes[place.ino]? with
  | none => simp [enter_of_none hinode, (by decide : Errno.ioFailure ≠ .notDirectory)]
  | some inode =>
      cases hdir : inode.isDir with
      | false => simp [enter_of_file hinode hdir, hdir]
      | true =>
          rw [enter_of_isDir hinode hdir]
          cases t.listing place.key name <;>
            simp [hdir, (by decide : Errno.noEntry ≠ .notDirectory)]

/-- Or to a name that a directory lacks. -/
lemma enter_eq_noEntry {name : String} : t.enter place name = .error .noEntry
    ↔ ∃ inode, t.inodes[place.ino]? = some inode ∧ inode.isDir = true
      ∧ t.listing place.key name = none := by
  cases hinode : t.inodes[place.ino]? with
  | none => simp [enter_of_none hinode, (by decide : Errno.ioFailure ≠ .noEntry)]
  | some inode =>
      cases hdir : inode.isDir with
      | false =>
          simp [enter_of_file hinode hdir, hdir, (by decide : Errno.notDirectory ≠ .noEntry)]
      | true =>
          rw [enter_of_isDir hinode hdir]
          cases t.listing place.key name <;> simp [hdir]

lemma walk_eq_notDirectory {names : List String} :
    t.walk names = .error .notDirectory ↔ t.Blocked names := by
  simp only [walk_eq_error, enter_eq_notDirectory, Blocked, exists_and_left]

lemma walk_eq_noEntry {names : List String} :
    t.walk names = .error .noEntry ↔ t.Lacking names := by
  simp only [walk_eq_error, enter_eq_noEntry, Lacking, exists_and_left]

/-! ## The walk along a key -/

section Parent

variable (hk : Key.Canonical key) (hp : Key.parent? key = some parent)

include hp

/-- Nothing lies in what is no directory. -/
lemma entries_outside (h : t.WellFormed) (hfile : t.isDir parent = false) :
    t.entries[key]? = none :=
  Option.eq_none_iff_forall_ne_some.2 fun _ hkey => h.no_child_of_file hfile hkey hp

include hk

/-- Why a key names nothing is told by its parent, or for the reason that the parent names
nothing. -/
lemma missing_child : t.missing key = match t.entries[parent]? with
    | none => t.missing parent
    | some ino => match t.inodes[ino]? with
      | none => .noEntry
      | some inode => if inode.isDir then .noEntry else .notDirectory := by
  rw [missing, Key.ancestors_of_parent hk hp, List.findSome?_cons]
  cases t.entries[parent]? <;> rfl

/-- Looking a key up is looking its parent up, and one step from there. -/
lemma lookup_child (h : t.WellFormed) : (t.lookup key).map (Place.mk key)
    = (t.lookup parent).map (Place.mk parent) >>= (t.enter · (Key.fileName key)) := by
  cases hparent : t.entries[parent]? with
  | none =>
      have hkey := entries_outside hp h (isDir_of_absent hparent)
      rw [lookup, lookup, hkey, hparent, missing_child hk hp, hparent]
      rfl
  | some ino =>
      obtain ⟨inode, hinode⟩ := h.inode_exists hparent
      have hmissing : t.missing key = if inode.isDir then .noEntry else .notDirectory := by
        rw [missing_child hk hp, hparent]
        dsimp only
        rw [hinode]
      rw [lookup_eq_ok.2 hparent]
      show _ = t.enter ⟨parent, ino⟩ (Key.fileName key)
      cases hkind : inode.isDir with
      | true =>
          rw [enter_of_isDir hinode hkind, listing_of_parent hk hp, lookup, hmissing, hkind,
            (Key.child_fileName hk hp).2]
          cases t.entries[key]? <;> rfl
      | false =>
          have hkey := entries_outside hp h ((isDir_of_inode hparent hinode).trans hkind)
          rw [enter_of_file hinode hkind, lookup, hkey, hmissing, hkind]
          rfl

end Parent

/-- **A walk along a key comes to what the key names**, and where it names nothing the walk ends for
the reason that is told. -/
theorem walk_names (h : t.WellFormed) (hk : Key.Canonical key) :
    t.walk (Key.names key) = (t.lookup key).map (Place.mk key) := by
  refine hk.rec_parent
    (motive := fun key => t.walk (Key.names key) = (t.lookup key).map (Place.mk key)) ?root ?below
  case root =>
      rw [lookup_eq_ok.2 h.root]
      rfl
  case below =>
      intro key parent hk hp _ ih
      rw [Key.names_of_parent hk hp, walk_append, ih, lookup_child hk hp h]

section Walked

variable (h : t.WellFormed) (hk : Key.Canonical key)

include h hk

lemma walk_names_eq_ok : t.walk (Key.names key) = .ok place
    ↔ place.key = key ∧ t.entries[key]? = some place.ino := by
  rw [walk_names h hk, ← lookup_eq_ok]
  cases t.lookup key with
  | error code => simp [Except.map]
  | ok ino =>
      obtain ⟨k, i⟩ := place
      simp [Except.map, eq_comm]

lemma walk_names_eq_error : t.walk (Key.names key) = .error code ↔ t.lookup key = .error code := by
  rw [walk_names h hk]
  cases t.lookup key <;> simp [Except.map]

end Walked

/-- A key is not found for one of two reasons. -/
lemma cases_of_lookup (hlookup : t.lookup key = .error code) :
    code = .noEntry ∨ code = .notDirectory := by
  have hmissing : t.missing key = .noEntry ∨ t.missing key = .notDirectory := by
    rw [missing]
    split
    · exact Or.inl rfl
    · split
      · exact Or.inl rfl
      · split
        · exact Or.inl rfl
        · exact Or.inr rfl
  rw [lookup] at hlookup
  split at hlookup
  · cases hlookup
  · exact Except.error.inj hlookup ▸ hmissing

end Tree

end Strongbox
