import Strongbox.Proofs.Key.Names

/-!
# Descent between keys

How the parts of a key and the order of keys by descent look on lists of names.  The parent of a key
has all its names but the last one, and a key lies below another if it has further names.

* `Key.parent?_ofNames`, `Key.fileName_ofNames` and `Key.childPrefix_ofNames` — the parts of a key.
* **`Key.isBelow_ofNames`** — the order by descent is the proper-prefix order of names.  From it
  come its laws on canonical keys: `Key.isBelow_trans`, `Key.isBelow_irrefl`,
  `Key.isBelow_comparable` and **`Key.isBelow_iff_parent`**, which climbs one step.
* `Key.Canonical.rec_parent` — induction from the root downwards.
-/

namespace Strongbox.Key

/-! ## The text of a key -/

@[simp] lemma toList_ofNames (names : List (List Char)) : (ofNames names).toList = render names :=
  String.toList_ofList

lemma ofNames_nil : ofNames [] = "/" := rfl

lemma render_of_ne_nil {names : List (List Char)} (h : names ≠ []) :
    render names = names.flatMap ('/' :: ·) := by
  cases names with
  | nil => exact absurd rfl h
  | cons name names => rfl

lemma render_concat (names : List (List Char)) (name : List Char) :
    render (names ++ [name]) = names.flatMap ('/' :: ·) ++ '/' :: name := by
  rw [render_of_ne_nil (by simp)]
  simp

/-- Only the root is written with a slash at its end. -/
lemma ofNames_eq_root {names : List (List Char)} (h : ∀ name ∈ names, IsName name) :
    ofNames names = "/" ↔ names = [] :=
  ⟨fun he => ofNames_inj h (by simp) (he.trans ofNames_nil.symm), fun he => by rw [he, ofNames_nil]⟩

/-! ## The parts of a key -/

lemma splitLast_append_slash (before : List Char) {name : List Char} (h : '/' ∉ name) :
    splitLast (before ++ '/' :: name) = (some before, name) := by
  have hname : ∀ c ∈ name.reverse, (decide (c ≠ '/')) = true := fun c hc =>
    decide_eq_true fun he => h (he ▸ List.mem_reverse.1 hc)
  have hback : (before ++ '/' :: name).reverse = name.reverse ++ '/' :: before.reverse := by simp
  rw [splitLast]
  simp only [hback]
  rw [List.dropWhile_append_of_pos hname, List.takeWhile_append_of_pos hname]
  simp

/-- The parent of a key has all its names but the last one. -/
lemma parent?_ofNames {names : List (List Char)} {name : List Char}
    (hs : ∀ n ∈ names ++ [name], IsName n) :
    parent? (ofNames (names ++ [name])) = some (ofNames names) := by
  have hne : ofNames (names ++ [name]) ≠ "/" := fun h => by
    simpa using (ofNames_eq_root hs).1 h
  have hsplit : splitLast (ofNames (names ++ [name])).toList
      = (some (names.flatMap ('/' :: ·)), name) := by
    rw [toList_ofNames, render_concat, splitLast_append_slash _ (hs name (by simp)).no_slash]
  rw [parent?, if_neg hne, hsplit]
  cases names with
  | nil => rfl
  | cons first rest => rfl

lemma parent?_root : parent? "/" = none := rfl

/-- The last name of a key. -/
lemma fileName_ofNames {names : List (List Char)} {name : List Char} (h : IsName name) :
    fileName (ofNames (names ++ [name])) = String.ofList name := by
  rw [fileName, toList_ofNames, render_concat, splitLast_append_slash _ h.no_slash]

/-- What stands before the names of a key below another. -/
lemma childPrefix_ofNames {names : List (List Char)} (h : ∀ name ∈ names, IsName name) :
    (childPrefix (ofNames names)).toList = names.flatMap ('/' :: ·) ++ ['/'] := by
  by_cases hn : names = []
  · subst hn; rfl
  · rw [childPrefix, if_neg (fun he => hn ((ofNames_eq_root h).1 he)), String.toList_append,
      toList_ofNames, render_of_ne_nil hn]
    rfl

/-! ## The order by descent -/

/-- The segments behind a key are its names and whatever stands behind the key. -/
lemma segments_flatMap_append {names : List (List Char)} (h : ∀ name ∈ names, IsName name)
    (rest : List Char) : segments (names.flatMap ('/' :: ·) ++ '/' :: rest)
      = ([], names ++ (segments rest).1 :: (segments rest).2) := by
  induction names with
  | nil => rfl
  | cons name names ih =>
      have ih := ih fun n hn => h n (List.mem_cons_of_mem _ hn)
      have hslash := (h name (List.mem_cons_self ..)).no_slash
      rw [List.flatMap_cons, List.cons_append, List.cons_append, segments_slash, List.append_assoc]
      cases names with
      | nil => simp [segments_append_slash hslash]
      | cons next names =>
          rw [List.flatMap_cons, List.cons_append, List.cons_append, segments_slash] at ih
          rw [List.flatMap_cons, List.cons_append, List.cons_append, segments_append_slash hslash]
          exact congrArg (fun l => ([], name :: l)) (congrArg Prod.snd ih)

/-- A text that starts like the keys below another goes on from its names. -/
lemma startsWith_childPrefix {above names : List (List Char)} (ha : ∀ n ∈ above, IsName n)
    (hn : ∀ n ∈ names, IsName n) (hne : names ≠ []) :
    startsWith (ofNames names) (childPrefix (ofNames above)) = true
      ↔ ∃ rest, rest ≠ [] ∧ names = above ++ rest := by
  rw [startsWith, List.isPrefixOf_iff_prefix, childPrefix_ofNames ha, toList_ofNames,
    render_of_ne_nil hne]
  constructor
  · rintro ⟨tail, ht⟩
    rw [List.append_assoc] at ht
    have hseg := segments_flatMap_append ha tail
    rw [show above.flatMap ('/' :: ·) ++ '/' :: tail = names.flatMap ('/' :: ·) from ht,
      segments_flatMap_slash fun n h => (hn n h).no_slash] at hseg
    exact ⟨_, List.cons_ne_nil _ _, congrArg Prod.snd hseg⟩
  · rintro ⟨rest, hr, rfl⟩
    obtain ⟨name, rest, rfl⟩ := List.exists_cons_of_ne_nil hr
    exact ⟨name ++ rest.flatMap ('/' :: ·), by simp⟩

/-- The root starts like the keys below no other key. -/
lemma eq_nil_of_startsWith_root {above : List (List Char)} (ha : ∀ n ∈ above, IsName n)
    (h : startsWith (ofNames []) (childPrefix (ofNames above)) = true) : above = [] := by
  rw [startsWith, List.isPrefixOf_iff_prefix, childPrefix_ofNames ha] at h
  obtain ⟨tail, ht⟩ := h
  cases above with
  | nil => rfl
  | cons name above => simpa [render] using congrArg List.length ht

/-- **A key lies below another if it goes on from the other's names.** -/
theorem isBelow_ofNames {above names : List (List Char)} (ha : ∀ n ∈ above, IsName n)
    (hn : ∀ n ∈ names, IsName n) :
    isBelow (ofNames names) (ofNames above) = true ↔ ∃ rest, rest ≠ [] ∧ names = above ++ rest := by
  rw [isBelow, Bool.and_eq_true, bne_iff_ne]
  by_cases hne : names = []
  · subst hne
    constructor
    · rintro ⟨hroot, hstart⟩
      refine absurd ?_ hroot
      rw [eq_nil_of_startsWith_root ha hstart]
    · rintro ⟨rest, hr, he⟩
      exact absurd (List.append_eq_nil_iff.1 he.symm).2 hr
  · rw [startsWith_childPrefix ha hn hne]
    refine ⟨And.right, fun h => ⟨fun he => ?_, h⟩⟩
    obtain ⟨rest, hr, hrest⟩ := h
    rw [ofNames_inj hn ha he] at hrest
    exact hr (List.self_eq_append_right.1 hrest)

lemma Canonical.root : Canonical "/" := ⟨[], by simp, rfl⟩

/-- Every canonical key but the root has a canonical parent. -/
lemma Canonical.exists_parent {key : String} (h : Canonical key) (hroot : key ≠ "/") :
    ∃ parent, parent? key = some parent ∧ Canonical parent := by
  obtain ⟨names, hn, rfl⟩ := h
  have hne : names ≠ [] := fun he => hroot (by rw [he, ofNames_nil])
  rw [← List.dropLast_append_getLast hne] at hn ⊢
  exact ⟨_, parent?_ofNames hn, _, fun n h => hn n (List.mem_append_left _ h), rfl⟩

/-- **One step up**: a key lies below exactly its parent and whatever its parent lies below. -/
theorem isBelow_iff_parent {key ancestor parent : String} (hk : Canonical key)
    (ha : Canonical ancestor) (hp : parent? key = some parent) :
    isBelow key ancestor = true ↔ parent = ancestor ∨ isBelow parent ancestor = true := by
  obtain ⟨names, hn, rfl⟩ := hk
  obtain ⟨above, hab, rfl⟩ := ha
  obtain rfl | ⟨front, last, rfl⟩ := List.eq_nil_or_concat' names
  · rw [ofNames_nil, parent?_root] at hp
    cases hp
  rw [parent?_ofNames hn] at hp
  cases hp
  have hfront : ∀ n ∈ front, IsName n := fun n h => hn n (List.mem_append_left _ h)
  rw [isBelow_ofNames hab hn, isBelow_ofNames hab hfront]
  constructor
  · rintro ⟨rest, hr, he⟩
    obtain rfl | ⟨rest, final, rfl⟩ := List.eq_nil_or_concat' rest
    · exact absurd rfl hr
    rw [← List.append_assoc] at he
    have hf : front = above ++ rest := (List.append_inj' he rfl).1
    by_cases hrest : rest = []
    · exact Or.inl (by rw [hf, hrest, List.append_nil])
    · exact Or.inr ⟨rest, hrest, hf⟩
  · rintro (he | ⟨rest, hr, rfl⟩)
    · rw [ofNames_inj hfront hab he]
      exact ⟨[last], by simp, rfl⟩
    · exact ⟨rest ++ [last], by simp, by simp⟩

/-- A key lies below its parent. -/
lemma isBelow_parent {key parent : String} (hk : Canonical key) (hp : parent? key = some parent)
    (hpc : Canonical parent) : isBelow key parent = true :=
  (isBelow_iff_parent hk hpc hp).2 (Or.inl rfl)

lemma isBelow_irrefl (key : String) : isBelow key key = false := by
  simp [isBelow]

lemma isBelow_trans {a b c : String} (ha : Canonical a) (hb : Canonical b) (hc : Canonical c)
    (hab : isBelow a b = true) (hbc : isBelow b c = true) : isBelow a c = true := by
  obtain ⟨as, has, rfl⟩ := ha
  obtain ⟨bs, hbs, rfl⟩ := hb
  obtain ⟨cs, hcs, rfl⟩ := hc
  obtain ⟨r, hr, rfl⟩ := (isBelow_ofNames hbs has).1 hab
  obtain ⟨s, hs, rfl⟩ := (isBelow_ofNames hcs hbs).1 hbc
  exact (isBelow_ofNames hcs has).2 ⟨s ++ r, by simp [hr], by simp⟩

/-- Of two keys above a third one, one lies above the other. -/
lemma isBelow_comparable {key a b : String} (hk : Canonical key) (ha : Canonical a)
    (hb : Canonical b) (hka : isBelow key a = true) (hkb : isBelow key b = true) :
    a = b ∨ isBelow a b = true ∨ isBelow b a = true := by
  obtain ⟨names, hn, rfl⟩ := hk
  obtain ⟨as, has, rfl⟩ := ha
  obtain ⟨bs, hbs, rfl⟩ := hb
  obtain ⟨r, -, rfl⟩ := (isBelow_ofNames has hn).1 hka
  obtain ⟨s, -, hs⟩ := (isBelow_ofNames hbs hn).1 hkb
  rw [isBelow_ofNames hbs has, isBelow_ofNames has hbs]
  rcases List.append_eq_append_iff.1 hs with ⟨t, rfl, -⟩ | ⟨t, rfl, -⟩
  · by_cases ht : t = []
    · exact Or.inl (by rw [ht, List.append_nil])
    · exact Or.inr (Or.inr ⟨t, ht, rfl⟩)
  · by_cases ht : t = []
    · exact Or.inl (by rw [ht, List.append_nil])
    · exact Or.inr (Or.inl ⟨t, ht, rfl⟩)

/-- The root lies below nothing. -/
lemma isBelow_root {key : String} (hk : Canonical key) : isBelow "/" key = false := by
  obtain ⟨names, hn, rfl⟩ := hk
  rw [← ofNames_nil, Bool.eq_false_iff, Ne, isBelow_ofNames hn (by simp)]
  rintro ⟨rest, hr, he⟩
  exact hr (List.append_eq_nil_iff.1 he.symm).2

/-- Induction from the root downwards. -/
@[elab_as_elim]
theorem Canonical.rec_parent {motive : String → Prop} {key : String} (h : Canonical key)
    (root : motive "/")
    (below : ∀ key parent, Canonical key → parent? key = some parent → Canonical parent →
      motive parent → motive key) : motive key := by
  obtain ⟨names, hn, rfl⟩ := h
  induction names using List.reverseRecOn with
  | nil => exact root
  | append_singleton names name ih =>
      have hfront : ∀ n ∈ names, IsName n := fun n h => hn n (List.mem_append_left _ h)
      exact below _ _ ⟨_, hn, rfl⟩ (parent?_ofNames hn) ⟨_, hfront, rfl⟩ (ih hfront)

/-! ## Keys in a directory -/

/-- What is left of a key behind the start it shares with all keys below another. -/
lemma drop_childPrefix {above : List (List Char)} (ha : ∀ n ∈ above, IsName n)
    (name : List Char) (rest : List (List Char)) :
    (ofNames (above ++ name :: rest)).toList.drop (childPrefix (ofNames above)).length
      = name ++ rest.flatMap ('/' :: ·) := by
  have htext : (ofNames (above ++ name :: rest)).toList
      = (above.flatMap ('/' :: ·) ++ ['/']) ++ (name ++ rest.flatMap ('/' :: ·)) := by
    rw [toList_ofNames, render_of_ne_nil (by simp)]
    simp
  rw [htext, ← String.length_toList, childPrefix_ofNames ha, List.drop_left]

/-- A key that lies deeper than its neighbours has a slash behind their common start. -/
lemma childName?_append {above : List (List Char)} {name : List Char} {rest : List (List Char)}
    (h : ∀ n ∈ above ++ name :: rest, IsName n) :
    childName? (ofNames above) (ofNames (above ++ name :: rest))
      = if rest = [] then some (String.ofList name) else none := by
  have ha : ∀ n ∈ above, IsName n := fun n hn => h n (List.mem_append_left _ hn)
  have hname : IsName name := h name (by simp)
  have hstart := (startsWith_childPrefix ha h (by simp)).2 ⟨name :: rest, by simp, rfl⟩
  rw [childName?, if_pos hstart, drop_childPrefix ha]
  cases rest with
  | nil => simp [hname.ne_nil, hname.no_slash]
  | cons next rest => simp

/-- A key lies directly in a directory under its last name. -/
theorem childName?_eq_some {directory key name : String} (hd : Canonical directory)
    (hk : Canonical key) : childName? directory key = some name
      ↔ parent? key = some directory ∧ fileName key = name := by
  obtain ⟨above, hab, rfl⟩ := hd
  obtain ⟨names, hn, rfl⟩ := hk
  by_cases hstart : ∃ rest, rest ≠ [] ∧ names = above ++ rest
  · obtain ⟨rest, hr, rfl⟩ := hstart
    obtain ⟨first, rest, rfl⟩ := List.exists_cons_of_ne_nil hr
    rw [childName?_append hn]
    by_cases hrest : rest = []
    · subst hrest
      rw [parent?_ofNames hn, fileName_ofNames (hn first (by simp))]
      simp
    · obtain rfl | ⟨rest, last, rfl⟩ := List.eq_nil_or_concat' rest
      · exact absurd rfl hrest
      rw [if_neg hrest]
      refine ⟨fun h => absurd h (by simp), fun ⟨hp, _⟩ => ?_⟩
      rw [show above ++ first :: (rest ++ [last]) = (above ++ first :: rest) ++ [last] by simp]
        at hn hp
      have hfront : ∀ n ∈ above ++ first :: rest, IsName n :=
        fun n h => hn n (List.mem_append_left _ h)
      rw [parent?_ofNames hn, Option.some_inj] at hp
      exact absurd (List.self_eq_append_right.1 (ofNames_inj hab hfront hp.symm)) (by simp)
  · refine ⟨fun h => ?_, fun ⟨hp, _⟩ => ?_⟩
    · rw [childName?] at h
      obtain rfl | hne := eq_or_ne names []
      · split at h
        · next hs =>
            rw [eq_nil_of_startsWith_root hab hs] at h
            cases h
        · cases h
      · rw [if_neg fun hs => hstart ((startsWith_childPrefix hab hn hne).1 hs)] at h
        cases h
    · have hbelow : isBelow (ofNames names) (ofNames above) = true :=
        isBelow_parent ⟨_, hn, rfl⟩ hp ⟨_, hab, rfl⟩
      exact absurd ((isBelow_ofNames hab hn).1 hbelow) hstart

end Strongbox.Key
