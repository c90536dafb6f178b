import Mathlib.Logic.Relation
import Strongbox.Proofs.Key.Descent

/-!
# Keys and the keys above them

There are two ways to tell that a key lies below another.  Its text goes on from the other's with
a slash and more names, or going up from it, by cutting off the last name again and again, comes to
the other.  The root is a special case of both, as it is written with a slash where it has no name.

* `Key.child_fileName` — a key is put together again from its parent and its last name.
* `Key.ancestors_of_parent`, `Key.isChain_ancestors` — going up, which ends at the root.
* **`Key.isBelow_iff_transGen`** — a key lies below what going up from it comes to, and below
  nothing else.
* **`Key.parts_and_descent`** — the parts of a key, the keys above it, and the order they stand in.
-/

namespace Strongbox.Key

variable {key parent ancestor : String}

instance (name : List Char) : Decidable (IsName name) :=
  decidable_of_iff (name ≠ [] ∧ name ≠ ['.'] ∧ name ≠ ['.', '.'] ∧ '/' ∉ name ∧ '\x00' ∉ name)
    ⟨fun ⟨h₁, h₂, h₃, h₄, h₅⟩ => ⟨h₁, h₂, h₃, h₄, h₅⟩,
      fun h => ⟨h.ne_nil, h.ne_dot, h.ne_dots, h.no_slash, h.no_nul⟩⟩

/-! ## Parents and children -/

/-- A key with a parent has its parent's names and one more. -/
lemma exists_names_of_parent (hk : Canonical key)
    (hp : parent? key = some parent) : ∃ names name, (∀ n ∈ names ++ [name], IsName n)
      ∧ key = ofNames (names ++ [name]) ∧ parent = ofNames names := by
  obtain ⟨names, hn, rfl⟩ := hk
  obtain rfl | ⟨front, last, rfl⟩ := List.eq_nil_or_concat' names
  · rw [ofNames_nil, parent?_root] at hp
    cases hp
  · rw [parent?_ofNames hn] at hp
    exact ⟨front, last, hn, rfl, (Option.some.inj hp).symm⟩

lemma canonical_parent (hk : Canonical key) (hp : parent? key = some parent) :
    Canonical parent := by
  obtain ⟨names, name, hn, -, rfl⟩ := exists_names_of_parent hk hp
  exact ⟨names, fun n h => hn n (List.mem_append_left _ h), rfl⟩

/-- The key of a name in a directory has the directory's names and this one. -/
lemma child_ofNames {names : List (List Char)} (h : ∀ n ∈ names, IsName n) (name : List Char) :
    child (ofNames names) (String.ofList name) = ofNames (names ++ [name]) := by
  apply String.toList_injective
  rw [child, String.toList_append, childPrefix_ofNames h, String.toList_ofList, toList_ofNames,
    render_concat, List.append_assoc]
  rfl

section Child

variable {directory name : String} (hd : Canonical directory) (hname : IsName name.toList)

include hd hname

lemma exists_names_of_child : ∃ names, (∀ n ∈ names ++ [name.toList], IsName n)
    ∧ directory = ofNames names ∧ child directory name = ofNames (names ++ [name.toList]) := by
  obtain ⟨names, hn, rfl⟩ := hd
  refine ⟨names, fun n hmem => ?_, rfl, ?_⟩
  · rcases List.mem_append.1 hmem with hmem | hmem
    · exact hn n hmem
    · exact List.mem_singleton.1 hmem ▸ hname
  · rw [← child_ofNames hn, String.ofList_toList]

lemma canonical_child : Canonical (child directory name) := by
  obtain ⟨names, hn, -, hchild⟩ := exists_names_of_child hd hname
  exact ⟨_, hn, hchild⟩

lemma parent?_child : parent? (child directory name) = some directory := by
  obtain ⟨names, hn, rfl, hchild⟩ := exists_names_of_child hd hname
  rw [hchild, parent?_ofNames hn]

lemma fileName_child : fileName (child directory name) = name := by
  obtain ⟨names, hn, -, hchild⟩ := exists_names_of_child hd hname
  rw [hchild, fileName_ofNames hname, String.ofList_toList]

end Child

/-- A key in a directory is the key of its last name there. -/
lemma child_fileName {key directory : String} (hk : Canonical key)
    (hp : parent? key = some directory) :
    IsName (fileName key).toList ∧ child directory (fileName key) = key := by
  obtain ⟨names, name, hn, rfl, rfl⟩ := exists_names_of_parent hk hp
  have hname := hn name (by simp)
  rw [fileName_ofNames hname, String.toList_ofList,
    child_ofNames fun n h => hn n (List.mem_append_left _ h)]
  exact ⟨hname, rfl⟩

/-! ## The keys above a key -/

/-- Every name takes room in a key. -/
lemma length_le_ofNames (names : List (List Char)) : names.length ≤ (ofNames names).length := by
  have hflat : names.length ≤ (names.flatMap ('/' :: ·)).length := by
    induction names with
    | nil => exact Nat.le_refl _
    | cons name names ih =>
        rw [List.flatMap_cons, List.length_append, List.length_cons, List.length_cons]
        omega
  rw [← String.length_toList, toList_ofNames]
  cases names with
  | nil => exact Nat.zero_le _
  | cons name names => rwa [render_of_ne_nil (List.cons_ne_nil _ _)]

/-- Going up ends at the root, as long as there is fuel for each name. -/
lemma ancestorsWithin_eq {names : List (List Char)} (h : ∀ name ∈ names, IsName name)
    {fuel fuel' : Nat} (hfuel : names.length ≤ fuel) (hfuel' : names.length ≤ fuel') :
    ancestorsWithin fuel (ofNames names) = ancestorsWithin fuel' (ofNames names) := by
  induction names using List.reverseRecOn generalizing fuel fuel' with
  | nil =>
      rw [ofNames_nil]
      cases fuel <;> cases fuel' <;> rfl
  | append_singleton names name ih =>
      rw [List.length_append, List.length_singleton] at hfuel hfuel'
      obtain ⟨fuel, rfl⟩ := Nat.exists_eq_add_of_le' (Nat.one_le_of_lt hfuel)
      obtain ⟨fuel', rfl⟩ := Nat.exists_eq_add_of_le' (Nat.one_le_of_lt hfuel')
      rw [ancestorsWithin, ancestorsWithin, parent?_ofNames h]
      exact congrArg _ (ih (fun n hn => h n (List.mem_append_left _ hn))
        (Nat.le_of_succ_le_succ hfuel) (Nat.le_of_succ_le_succ hfuel'))

/-- Above a key lie its parent and what lies above that. -/
lemma ancestors_of_parent (hk : Canonical key) (hp : parent? key = some parent) :
    ancestors key = parent :: ancestors parent := by
  obtain ⟨front, name, hn, rfl, rfl⟩ := exists_names_of_parent hk hp
  have hlength := length_le_ofNames (front ++ [name])
  rw [List.length_append, List.length_singleton] at hlength
  obtain ⟨fuel, hfuel⟩ := Nat.exists_eq_add_of_le' (Nat.one_le_of_lt hlength)
  rw [ancestors, hfuel, ancestorsWithin, hp]
  refine congrArg _ (ancestorsWithin_eq (fun n h => hn n (List.mem_append_left _ h)) ?_
    (length_le_ofNames front))
  omega

/-- One step up. -/
def StepsUp (key parent : String) : Prop :=
  parent? key = some parent

lemma ancestors_root : ancestors "/" = [] := by decide

/-- Going up step by step comes to one ancestor after the other. -/
lemma isChain_ancestors (hk : Canonical key) : (key :: ancestors key).IsChain StepsUp := by
  refine hk.rec_parent (ancestors_root ▸ .singleton _) fun key parent hk hp _ ih => ?_
  rw [ancestors_of_parent hk hp]
  exact .cons_cons hp ih

/-- Going up ends at the root. -/
lemma getLast?_ancestors (hk : Canonical key) :
    (key :: ancestors key).getLast? = some "/" := by
  refine hk.rec_parent (ancestors_root ▸ rfl) fun key parent hk hp _ ih => ?_
  rw [ancestors_of_parent hk hp, List.getLast?_cons_cons, ih]

lemma transGen_iff_of_parent (hp : parent? key = some parent) :
    Relation.TransGen StepsUp key ancestor
      ↔ parent = ancestor ∨ Relation.TransGen StepsUp parent ancestor := by
  rw [Relation.TransGen.head'_iff]
  constructor
  · rintro ⟨other, hother, hrest⟩
    obtain rfl := Option.some.inj (hp.symm.trans hother)
    exact (Relation.reflTransGen_iff_eq_or_transGen.1 hrest).imp_left Eq.symm
  · intro h
    exact ⟨parent, hp, Relation.reflTransGen_iff_eq_or_transGen.2 (h.imp_left Eq.symm)⟩

/-- **A key lies below what going up from it comes to**, and below nothing else. -/
theorem isBelow_iff_transGen (hk : Canonical key) (ha : Canonical ancestor) :
    isBelow key ancestor = true ↔ Relation.TransGen StepsUp key ancestor := by
  refine hk.rec_parent ?_ fun key parent hk hp _ ih => ?_
  · rw [isBelow_root ha, Relation.TransGen.head'_iff]
    exact iff_of_false Bool.false_ne_true nofun
  · rw [isBelow_iff_parent hk ha hp, transGen_iff_of_parent hp, ih]

/-- What is met going up is all that a key lies below. -/
lemma mem_ancestors (hk : Canonical key) (ha : Canonical ancestor) :
    ancestor ∈ ancestors key ↔ isBelow key ancestor = true := by
  refine hk.rec_parent ?_ fun key parent hk hp _ ih => ?_
  · rw [isBelow_root ha, ancestors_root]
    exact iff_of_false List.not_mem_nil Bool.false_ne_true
  · rw [ancestors_of_parent hk hp, List.mem_cons, ih, isBelow_iff_parent hk ha hp, eq_comm]

/-! ## The order of keys by descent -/

/-- A key is longer than its parent. -/
lemma length_lt_of_parent (hk : Canonical key) (hp : parent? key = some parent) :
    parent.length < key.length := by
  obtain ⟨hname, hchild⟩ := child_fileName hk hp
  have hpos : 0 < (fileName key).length := by
    rw [← String.length_toList]
    exact List.length_pos_iff.2 hname.ne_nil
  have hprefix : parent.length ≤ (childPrefix parent).length := by
    rw [childPrefix]
    split
    · next hroot => rw [hroot]
    · rw [String.length_append]
      exact Nat.le_add_right _ _
  rw [← hchild, child, String.length_append]
  omega

/-- Every key but the root lies below the root. -/
lemma isBelow_root_of_ne (hk : Canonical key) (hroot : key ≠ "/") : isBelow key "/" = true := by
  obtain ⟨names, hn, rfl⟩ := hk
  have hnone : ∀ name ∈ ([] : List (List Char)), IsName name := nofun
  refine (isBelow_ofNames hnone hn).2 ⟨names, fun he => hroot ?_, rfl⟩
  rw [he, ofNames_nil]

lemma isBelow_asymm (hk : Canonical key) (ha : Canonical ancestor)
    (h : isBelow key ancestor = true) : isBelow ancestor key = false := by
  refine Bool.eq_false_iff.2 fun hback => ?_
  have hself := isBelow_trans hk ha hk h hback
  rw [isBelow_irrefl] at hself
  cases hself

/-- Keys with the same parent lie beside each other, whatever their texts have in common. -/
lemma not_isBelow_sibling {sibling : String} (hk : Canonical key) (hs : Canonical sibling)
    (h : parent? key = parent? sibling) : isBelow key sibling = false := by
  refine Bool.eq_false_iff.2 fun hbelow => ?_
  cases hp : parent? key with
  | none =>
      obtain rfl : key = "/" := by
        by_contra hroot
        obtain ⟨parent, hsome, -⟩ := hk.exists_parent hroot
        rw [hp] at hsome
        cases hsome
      rw [isBelow_root hs] at hbelow
      cases hbelow
  | some parent =>
      have hpc := canonical_parent hk hp
      have habove := isBelow_parent hs (h ▸ hp) hpc
      obtain rfl | hparent := (isBelow_iff_parent hk hs hp).1 hbelow
      · rw [isBelow_irrefl] at habove
        cases habove
      · rw [isBelow_asymm hpc hs hparent] at habove
        cases habove

/-- **The parts of a key and its place among all keys.**  Every key but the root has a parent, which
is a shorter key, and is put together again from that and its last name, which is one name.  Going
up from a key comes to its ancestors, one after the other, and ends at the root, from which no step
goes up.  A key lies below its ancestors and below nothing else; they are what one step up or more
lead to.  This is a strict partial order with the root above every other key, in which keys with the
same parent lie beside each other. -/
theorem parts_and_descent (hk : Canonical key) :
    (key ≠ "/" → ∃ parent, parent? key = some parent ∧ Canonical parent
      ∧ parent.length < key.length ∧ IsName (fileName key).toList
      ∧ childPrefix parent ++ fileName key = key) ∧
    ((key :: ancestors key).IsChain StepsUp ∧ (key :: ancestors key).getLast? = some "/"
      ∧ parent? "/" = none) ∧
    isBelow key key = false ∧ (key ≠ "/" → isBelow key "/" = true) ∧
    ∀ {other}, Canonical other →
      (isBelow key other = true ↔ Relation.TransGen StepsUp key other) ∧
      (isBelow key other = true ↔ other ∈ ancestors key) ∧
      (isBelow key other = true → isBelow other key = false ∧
        ∀ {third}, Canonical third → isBelow other third = true → isBelow key third = true) ∧
      (parent? key = parent? other → isBelow key other = false ∧ isBelow other key = false) := by
  refine ⟨fun hroot => ?_, ⟨isChain_ancestors hk, getLast?_ancestors hk, parent?_root⟩,
    isBelow_irrefl key, isBelow_root_of_ne hk, fun ho => ⟨isBelow_iff_transGen hk ho,
      (mem_ancestors hk ho).symm,
      fun h => ⟨isBelow_asymm hk ho h, fun ht => isBelow_trans hk ho ht h⟩,
      fun h => ⟨not_isBelow_sibling hk ho h, not_isBelow_sibling ho hk h.symm⟩⟩⟩
  obtain ⟨parent, hp, hpc⟩ := hk.exists_parent hroot
  obtain ⟨hname, hchild⟩ := child_fileName hk hp
  exact ⟨parent, hp, hpc, length_lt_of_parent hk hp, hname, hchild⟩

/-- Of two keys in one directory, the text of one begins with that of the other, and neither lies
below the other. -/
theorem parts_and_descent_beside :
    Canonical "/a/bc" ∧ "/a/bc" ≠ "/" ∧ ancestors "/a/bc" = ["/a", "/"]
    ∧ childPrefix "/a" ++ fileName "/a/bc" = "/a/bc" ∧ startsWith "/a/bc" "/a/b" = true
    ∧ isBelow "/a/bc" "/a/b" = false ∧ isBelow "/a/b" "/a/bc" = false
    ∧ Relation.TransGen StepsUp "/a/bc" "/" := by
  have hk : Canonical "/a/bc" := @normalize_canonical "/a/bc" _ (by decide +kernel)
  have hs : Canonical "/a/b" := @normalize_canonical "/a/b" _ (by decide +kernel)
  have hp : parent? "/a/bc" = some "/a" := by decide +kernel
  have hroot : "/a/bc" ≠ "/" := by decide
  obtain ⟨hparts, -, -, hbelow, hdescent⟩ := parts_and_descent hk
  obtain ⟨parent, hparent, -, -, -, hsame⟩ := hparts hroot
  obtain rfl := Option.some.inj (hp.symm.trans hparent)
  obtain ⟨hdown, hup⟩ := (hdescent hs).2.2.2 (by decide +kernel)
  exact ⟨hk, hroot, by decide +kernel, hsame, by decide +kernel, hdown, hup,
    (hdescent .root).1.1 (hbelow hroot)⟩

end Strongbox.Key
