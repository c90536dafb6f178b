import Strongbox.Proofs.Key.Order
import Strongbox.Proofs.Tree.Attributes
import Strongbox.Proofs.Tree.Pruned

/-!
# What lies in a directory

The names in a directory and what they stand for.  A tree has no such map: it is read off the keys.

* `Tree.listing` — what a name in a directory stands for, and `Tree.listing_eq_some`.
* `Tree.scan` — how a store finds the keys below another one.  **`Tree.childKeys_eq_scan`** and
  **`Tree.descendantKeys_eq_scan`** — the keys in a directory and below it are what a scan finds.
* `Tree.Listed` — what the calls on a directory tell of it, and **`Tree.listed_of_isDir`**.
-/

namespace Strongbox

/-! ## Names in a directory -/

namespace Tree

variable {t : Tree} {key directory name : String} {ino : Nat}

/-- What a name in a directory stands for. -/
def listing (t : Tree) (directory name : String) : Option Nat :=
  if Key.IsName name.toList then t.entries[Key.child directory name]? else none

/-- A key in a directory stands there under its last name. -/
lemma listing_of_parent (hk : Key.Canonical key) (hp : Key.parent? key = some directory) :
    t.listing directory (Key.fileName key) = t.entries[key]? := by
  obtain ⟨hname, hchild⟩ := Key.child_fileName hk hp
  rw [listing, if_pos hname, hchild]

/-- The names in a directory are the last names of the keys in it. -/
lemma listing_eq_some (h : t.WellFormed) (hd : Key.Canonical directory) :
    t.listing directory name = some ino ↔ ∃ key : String, t.entries[key]? = some ino
      ∧ Key.parent? key = some directory ∧ Key.fileName key = name := by
  constructor
  · intro hlisted
    rw [listing] at hlisted
    split at hlisted
    · next hname =>
        exact ⟨_, hlisted, Key.parent?_child hd hname, Key.fileName_child hd hname⟩
    · cases hlisted
  · rintro ⟨key, hk, hp, rfl⟩
    rw [listing_of_parent (h.canonical hk) hp, hk]

/-! ## Scans -/

/-- The keys with a common beginning: of all keys in order, those from where the beginning would
stand up to the first one that begins otherwise. -/
def scan (t : Tree) (start : String) : List String :=
  (t.entries.keys.dropWhile (· < start)).takeWhile (Key.startsWith · start)

lemma sorted_keys (t : Tree) : t.entries.keys.Pairwise (· < ·) :=
  Std.ExtTreeMap.ordered_keys.imp compare_lt_iff_lt.1

lemma scan_eq_filter (t : Tree) (start : String) :
    t.scan start = t.entries.keys.filter (Key.startsWith · start) :=
  Key.scan_startsWith t.sorted_keys

/-- The keys in a directory are found by a scan of the keys below it. -/
theorem childKeys_eq_scan (t : Tree) (directory : String) :
    t.childKeys directory = (t.scan (Key.childPrefix directory)).filter fun key =>
      let name := key.toList.drop (Key.childPrefix directory).length
      !name.isEmpty && !name.contains '/' := by
  rw [scan_eq_filter, List.filter_filter, childKeys]
  refine List.filter_congr fun key _ => ?_
  rw [Key.childName?]
  cases Key.startsWith key (Key.childPrefix directory) with
  | false => simp
  | true =>
      rw [if_pos rfl, Bool.and_true]
      dsimp only
      generalize key.toList.drop (Key.childPrefix directory).length = name
      cases name.isEmpty <;> cases name.contains '/' <;> rfl

/-- So are the keys below a directory, whatever lies between. -/
theorem descendantKeys_eq_scan (t : Tree) (directory : String) :
    t.descendantKeys directory = (t.scan (Key.childPrefix directory)).filter fun key =>
      (Key.childPrefix directory).length < key.length := by
  rw [scan_eq_filter, List.filter_filter, descendantKeys]
  exact List.filter_congr fun key _ => Bool.and_comm ..

/-- The names in a directory, in the order of its keys. -/
def names (t : Tree) (directory : String) : List String :=
  (t.childKeys directory).map Key.fileName

section Names

variable (h : t.WellFormed) (hd : Key.Canonical directory)

include h hd

/-- The keys in a directory are the keys of its names. -/
lemma map_child_names : (t.names directory).map (Key.child directory) = t.childKeys directory := by
  rw [names, List.map_map]
  conv_rhs => rw [← List.map_id (t.childKeys directory)]
  refine List.map_congr_left fun key hkey => ?_
  obtain ⟨⟨ino, hk⟩, hp⟩ := (mem_childKeys h hd).1 hkey
  exact (Key.child_fileName (h.canonical hk) hp).2

lemma mem_names : name ∈ t.names directory ↔ ∃ ino, t.listing directory name = some ino := by
  simp only [names, List.mem_map, mem_childKeys h hd, listing_eq_some h hd]
  constructor
  · rintro ⟨key, ⟨⟨ino, hk⟩, hp⟩, hname⟩
    exact ⟨ino, key, hk, hp, hname⟩
  · rintro ⟨ino, key, hk, hp, hname⟩
    exact ⟨key, ⟨⟨ino, hk⟩, hp⟩, hname⟩

/-- Neither of the two dots is the name of a child. -/
lemma ne_dots_of_mem_names (hname : name ∈ t.names directory) : name ≠ "." ∧ name ≠ ".." := by
  obtain ⟨key, hkey, rfl⟩ := List.mem_map.1 hname
  obtain ⟨⟨ino, hk⟩, hp⟩ := (mem_childKeys h hd).1 hkey
  have hname := (Key.child_fileName (h.canonical hk) hp).1
  exact ⟨fun hdot => hname.ne_dot (hdot ▸ rfl), fun hdots => hname.ne_dots (hdots ▸ rfl)⟩

/-- Names come in the order of their keys, which is that of their bytes. -/
lemma increasing_names :
    (t.names directory).Pairwise fun a b => Bytes.ofText a < Bytes.ofText b := by
  have hsorted : ((t.names directory).map (Key.child directory)).Pairwise (· < ·) := by
    rw [map_child_names h hd]
    exact t.sorted_keys.filter _
  exact (List.pairwise_map.1 hsorted).imp fun hlt =>
    Bytes.ofText_lt_iff.2 (Key.child_lt_child.1 hlt)

/-- Nothing lies below a directory in which nothing lies. -/
lemma childKeys_eq_nil : t.childKeys directory = [] ↔ ∀ below : String,
    (∃ ino, t.entries[below]? = some ino) → Key.isBelow below directory = false := by
  rw [List.eq_nil_iff_forall_not_mem]
  constructor
  · rintro hempty below ⟨ino, hk⟩
    by_contra hbelow
    obtain ⟨child, hc, hp, hwithin⟩ := Key.exists_child_of_isBelow (h.canonical hk) hd
      (Bool.not_eq_false _ ▸ hbelow)
    refine hempty child ((mem_childKeys h hd).2 ⟨?_, hp⟩)
    -- the child has a key too, as everything that lies above a key has
    rcases hwithin with rfl | hbelow'
    · exact ⟨ino, hk⟩
    · obtain ⟨i, -, hi, -, -⟩ := isDir_eq_true.1 (h.isDir_of_isBelow hc hk hbelow')
      exact ⟨i, hi⟩
  · intro hnone child hchild
    obtain ⟨⟨ino, hk⟩, hp⟩ := (mem_childKeys h hd).1 hchild
    have hbelow := Key.isBelow_parent (h.canonical hk) hp hd
    rw [hnone child ⟨ino, hk⟩] at hbelow
    cases hbelow

end Names

/-! ## Calls on a directory -/

/-- What is removed was an empty directory, and every empty directory but the root can be. -/
lemma exists_rmdir_iff (hkey : t.isDir key = true) (stamp : Stamp) :
    (∃ t', t.rmdir stamp key = .ok t') ↔ key ≠ "/" ∧ t.childKeys key = [] := by
  constructor
  · rintro ⟨t', hok⟩
    obtain ⟨hroot, -, -, -, -, -, hempty, -⟩ := rmdir_ok hok
    exact ⟨hroot, hempty⟩
  · rintro ⟨hroot, hempty⟩
    obtain ⟨ino, inode, hk, hi, hdir⟩ := isDir_eq_true.1 hkey
    have hok : t.rmdir stamp key = .ok ((t.removeKey stamp key ino).touchParent stamp key) := by
      rw [rmdir, if_neg hroot]
      refine bind_eq_ok.2 ⟨ino, lookup_eq_ok.2 hk, bind_eq_ok.2 ⟨inode, inode_eq_ok.2 hi, ?_⟩⟩
      rw [hdir, hempty]
      rfl
    exact ⟨_, hok⟩

/-- Reading a directory gives the dots and the names in it. -/
lemma readdir_of_isDir (hkey : t.isDir key = true) :
    t.readdir key = .ok ("." :: ".." :: t.names key) := by
  obtain ⟨ino, inode, hk, hi, hdir⟩ := isDir_eq_true.1 hkey
  exact bind_eq_ok.2 ⟨inode, node_eq_ok.2 ⟨ino, hk, hi⟩, guard_eq_ok.2 ⟨by simp [hdir], rfl⟩⟩

/-- Without the dots, the names in a directory are left. -/
lemma names_of_readdir (h : t.WellFormed) (hkey : t.isDir key = true) :
    ((t.readdir key).map fun names => names.filter fun name => name ≠ "." && name ≠ "..")
      = .ok (t.names key) := by
  obtain ⟨_, _, hk, -, -⟩ := isDir_eq_true.1 hkey
  rw [readdir_of_isDir hkey]
  refine congrArg Except.ok ?_
  dsimp only
  rw [List.filter_cons_of_neg (by decide), List.filter_cons_of_neg (by decide),
    List.filter_eq_self]
  intro name hname
  obtain ⟨hdot, hdots⟩ := ne_dots_of_mem_names h (h.canonical hk) hname
  simp only [ne_eq, hdot, hdots, not_false_eq_true, decide_true, Bool.and_self]

/-- The links of a directory are its own two and one for each directory in it. -/
lemma linkCount_of_isDir (h : t.WellFormed) (hd : Key.Canonical key) {inode : Inode}
    (hdir : inode.isDir = true) : t.linkCount key inode
      = 2 + ((t.names key).filter fun name => t.isDir (Key.child key name)).length := by
  rw [linkCount, if_pos hdir, ← map_child_names h hd, List.filter_map, List.length_map]
  rfl

/-- What the calls on a directory tell of it. -/
structure Listed (t : Tree) (key : String) (names : List String) : Prop where
  /-- Reading the directory gives the dots and the names in it, in increasing order. -/
  readdir : t.readdir key = .ok ("." :: ".." :: names)
  mem : ∀ {name : String}, name ∈ names ↔ ∃ ino, t.listing key name = some ino
  increasing : names.Pairwise fun a b => Bytes.ofText a < Bytes.ofText b
  /-- The names come from one scan of the keys. -/
  scanned : names.map (Key.child key) = (t.scan (Key.childPrefix key)).filter fun child =>
    let name := child.toList.drop (Key.childPrefix key).length
    !name.isEmpty && !name.contains '/'
  /-- Every directory in it links to it. -/
  getattr : ∃ stat, t.getattr key = .ok stat
    ∧ stat.nlink = 2 + (names.filter fun name => t.isDir (Key.child key name)).length
  /-- It can be removed if nothing lies below it, unless it is the root. -/
  rmdir : ∀ stamp, (∃ t', t.rmdir stamp key = .ok t')
    ↔ key ≠ "/" ∧ ∀ below : String, (∃ ino, t.entries[below]? = some ino) →
      Key.isBelow below key = false

/-- The calls on a directory tell exactly what lies in it. -/
theorem listed_of_isDir (h : t.WellFormed) (hkey : t.isDir key = true) :
    t.Listed key (t.names key) := by
  obtain ⟨ino, inode, hk, hi, hdir⟩ := isDir_eq_true.1 hkey
  have hd := h.canonical hk
  refine ⟨readdir_of_isDir hkey, mem_names h hd, increasing_names h hd, ?_, ?_, fun stamp => ?_⟩
  · rw [map_child_names h hd, childKeys_eq_scan]
  · exact ⟨_, bind_eq_ok.2 ⟨ino, lookup_eq_ok.2 hk, bind_eq_ok.2 ⟨inode, inode_eq_ok.2 hi, rfl⟩⟩,
      linkCount_of_isDir h hd hdir⟩
  · rw [exists_rmdir_iff hkey, childKeys_eq_nil h hd]

/-! ## Trees made by changes -/

/-- The tree that some changes make of an empty one. -/
def madeBy (stamp : Stamp) (changes : List Change) : Tree :=
  changes.foldl (fun t change => change.after stamp t) (.empty stamp)

lemma wellFormed_madeBy {stamp : Stamp} {changes : List Change}
    (h : ∀ change ∈ changes, change.resolve = .ok change) :
    (madeBy stamp changes).WellFormed := by
  have hfold : ∀ (t : Tree), t.WellFormed →
      (changes.foldl (fun t change => change.after stamp t) t).WellFormed := by
    induction changes with
    | nil => exact fun t ht => ht
    | cons change changes ih =>
        rw [List.forall_mem_cons] at h
        exact fun t ht => ih h.2 _ (ht.after stamp h.1)
  exact hfold _ (wellFormed_empty stamp)

end Tree
end Strongbox
