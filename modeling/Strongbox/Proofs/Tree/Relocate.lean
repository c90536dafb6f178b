import Mathlib.Data.Finset.Image
import Strongbox.Proofs.Tree.WellFormed

/-!
# Moving nodes

A rename rewrites the keys of a whole range one after the other, in the map that it reads them from.
That this is safe rests on one fact: nothing lies at or below the target when the moving begins, so
no key is written over and none is moved twice.

* `Key.Within` — a key at or below another.
* `movedKey_ofNames` — what a move does to the names of a key.
* **`Tree.entries_relocate`** — afterwards each entry has the key that `Tree.moved` gives it, and
  there are no other entries.
* **`WellFormed.relocate`** — moving a node to a free target keeps the tree in order.
-/

namespace Strongbox

/-! ## Keys at or below another -/

namespace Key

/-- A key that moves along when another does. -/
def Within (key above : String) : Prop :=
  key = above ∨ isBelow key above = true

instance (key above : String) : Decidable (Within key above) :=
  inferInstanceAs (Decidable (_ ∨ _))

lemma within_ofNames {above names : List (List Char)} (ha : ∀ n ∈ above, IsName n)
    (hn : ∀ n ∈ names, IsName n) :
    Within (ofNames names) (ofNames above) ↔ ∃ rest, names = above ++ rest := by
  rw [Within, isBelow_ofNames ha hn]
  constructor
  · rintro (he | ⟨rest, -, he⟩)
    · exact ⟨[], by rw [ofNames_inj hn ha he, List.append_nil]⟩
    · exact ⟨rest, he⟩
  · rintro ⟨rest, rfl⟩
    by_cases hr : rest = []
    · exact Or.inl (by rw [hr, List.append_nil])
    · exact Or.inr ⟨rest, hr, rfl⟩

lemma Within.refl (key : String) : Within key key := Or.inl rfl

/-- What is neither a key nor below it does not move along with the key. -/
lemma not_within {key above : String} (hne : above ≠ key) (hbelow : isBelow key above = false) :
    ¬ Within key above := by
  rintro (he | hb)
  · exact hne he.symm
  · rw [hbelow] at hb
    cases hb

/-- The keys below another are the longer ones that start like its children. -/
lemma startsWith_and_length {key above : String} (hk : Canonical key) (ha : Canonical above) :
    (startsWith key (childPrefix above) && decide ((childPrefix above).length < key.length)) = true
      ↔ isBelow key above = true := by
  obtain ⟨names, hn, rfl⟩ := hk
  obtain ⟨above, hab, rfl⟩ := ha
  rw [isBelow_ofNames hab hn, Bool.and_eq_true, decide_eq_true_eq]
  by_cases hne : names = []
  · subst hne
    refine ⟨fun ⟨hs, hl⟩ => ?_, fun ⟨rest, hr, he⟩ => ?_⟩
    · rw [eq_nil_of_startsWith_root hab hs] at hl
      exact absurd hl (lt_irrefl _)
    · exact absurd (List.append_eq_nil_iff.1 he.symm).2 hr
  · rw [startsWith_childPrefix hab hn hne, and_iff_left_iff_imp]
    rintro ⟨rest, hr, rfl⟩
    obtain ⟨name, rest, rfl⟩ := List.exists_cons_of_ne_nil hr
    have hname := List.length_pos_of_ne_nil (hn name (by simp)).ne_nil
    have hdrop := congrArg List.length (drop_childPrefix hab name rest)
    rw [List.length_drop, List.length_append, String.length_toList] at hdrop
    omega

end Key

namespace Tree

variable {t : Tree} {stamp : Stamp} {source target : String} {ino : Nat}

/-! ## Moved keys -/

section MovedKey

open Key

/-- A move puts other names before the rest of a key. -/
lemma movedKey_ofNames {from_ to_ : List (List Char)} (hf : from_ ≠ []) (ht : to_ ≠ [])
    (rest : List (List Char)) :
    movedKey (ofNames from_) (ofNames to_) (ofNames (from_ ++ rest)) = ofNames (to_ ++ rest) := by
  have hfrom : render (from_ ++ rest) = (from_ ++ rest).flatMap ('/' :: ·) :=
    render_of_ne_nil (by simp [hf])
  have hto : render (to_ ++ rest) = (to_ ++ rest).flatMap ('/' :: ·) :=
    render_of_ne_nil (by simp [ht])
  have hlen : (ofNames from_).length = (from_.flatMap ('/' :: ·)).length := by
    rw [← String.length_toList, toList_ofNames, render_of_ne_nil hf]
  apply String.toList_injective
  rw [movedKey, String.toList_append, String.toList_ofList, toList_ofNames, toList_ofNames,
    toList_ofNames, hlen, hfrom, hto, render_of_ne_nil ht, List.flatMap_append,
    List.flatMap_append, List.drop_left]

variable (hs : Canonical source) (ht : Canonical target) (hsource : source ≠ "/")
  (htarget : target ≠ "/")

include hs ht hsource htarget

/-- The names of a key that moves, before and after. -/
lemma exists_names_of_within {key : String} (hk : Canonical key) (hw : Within key source) :
    ∃ from_ to_ rest : List (List Char), from_ ≠ [] ∧ to_ ≠ [] ∧ (∀ n ∈ from_, IsName n) ∧
      (∀ n ∈ to_, IsName n) ∧ (∀ n ∈ rest, IsName n) ∧ source = ofNames from_ ∧
      target = ofNames to_ ∧ key = ofNames (from_ ++ rest) ∧
      movedKey source target key = ofNames (to_ ++ rest) := by
  obtain ⟨from_, hf, rfl⟩ := hs
  obtain ⟨to_, hto, rfl⟩ := ht
  obtain ⟨names, hn, rfl⟩ := hk
  obtain ⟨rest, rfl⟩ := (within_ofNames hf hn).1 hw
  have hf0 : from_ ≠ [] := fun he => hsource (by rw [he, ofNames_nil])
  have ht0 : to_ ≠ [] := fun he => htarget (by rw [he, ofNames_nil])
  exact ⟨from_, to_, rest, hf0, ht0, hf, hto, fun n h => hn n (List.mem_append_right _ h), rfl, rfl,
    rfl, movedKey_ofNames hf0 ht0 rest⟩

lemma canonical_movedKey {key : String} (hk : Canonical key) (hw : Within key source) :
    Canonical (movedKey source target key) := by
  obtain ⟨from_, to_, rest, -, -, -, hto, hr, -, -, -, hm⟩ :=
    exists_names_of_within hs ht hsource htarget hk hw
  exact ⟨to_ ++ rest, fun n hn => (List.mem_append.1 hn).elim (hto n) (hr n), hm⟩

/-- What moves ends up at or below the target. -/
lemma within_movedKey {key : String} (hk : Canonical key) (hw : Within key source) :
    Within (movedKey source target key) target := by
  obtain ⟨from_, to_, rest, -, -, -, hto, hr, -, rfl, -, hm⟩ :=
    exists_names_of_within hs ht hsource htarget hk hw
  rw [hm, within_ofNames hto fun n hn => (List.mem_append.1 hn).elim (hto n) (hr n)]
  exact ⟨rest, rfl⟩

/-- No two keys move to one. -/
lemma movedKey_inj {a b : String} (ha : Canonical a) (hb : Canonical b) (haw : Within a source)
    (hbw : Within b source) (h : movedKey source target a = movedKey source target b) : a = b := by
  obtain ⟨from_, to_, rest, -, -, hf, hto, hr, hsf, htt, hae, ham⟩ :=
    exists_names_of_within hs ht hsource htarget ha haw
  obtain ⟨from₂, to₂, rest₂, -, -, hf₂, hto₂, hr₂, hsf₂, htt₂, hbe, hbm⟩ :=
    exists_names_of_within hs ht hsource htarget hb hbw
  obtain rfl := ofNames_inj hf hf₂ (hsf.symm.trans hsf₂)
  obtain rfl := ofNames_inj hto hto₂ (htt.symm.trans htt₂)
  have hrest : to_ ++ rest = to_ ++ rest₂ :=
    ofNames_inj (fun n hn => (List.mem_append.1 hn).elim (hto n) (hr n))
      (fun n hn => (List.mem_append.1 hn).elim (hto n) (hr₂ n)) (ham.symm.trans (h.trans hbm))
  rw [hae, hbe, List.append_cancel_left hrest]

lemma movedKey_source : movedKey source target source = target := by
  obtain ⟨from_, to_, rest, -, -, hf, -, hr, hsf, htt, hke, hm⟩ :=
    exists_names_of_within hs ht hsource htarget hs (Within.refl source)
  have hall : ∀ n ∈ from_ ++ rest, IsName n :=
    fun n hn => (List.mem_append.1 hn).elim (hf n) (hr n)
  have hrest : from_ = from_ ++ rest := ofNames_inj hf hall (hsf.symm.trans hke)
  rw [hm, htt, List.self_eq_append_right.1 hrest, List.append_nil]

/-- What lies in a directory that moves lies in it afterwards. -/
lemma parent?_movedKey {key parent : String} (hk : Canonical key)
    (hbelow : isBelow key source = true) (hp : parent? key = some parent) :
    parent? (movedKey source target key) = some (movedKey source target parent) := by
  obtain ⟨from_, to_, rest, hf0, ht0, hf, hto, hr, rfl, rfl, rfl, hm⟩ :=
    exists_names_of_within hs ht hsource htarget hk (Or.inr hbelow)
  have hall : ∀ n ∈ from_ ++ rest, IsName n :=
    fun n hn => (List.mem_append.1 hn).elim (hf n) (hr n)
  obtain ⟨rest₂, hr0, hr₂⟩ := (isBelow_ofNames hf hall).1 hbelow
  obtain rfl := List.append_cancel_left hr₂
  obtain ⟨front, last, rfl⟩ := (List.eq_nil_or_concat' rest).resolve_left hr0
  have hafter : ∀ n ∈ to_ ++ front ++ [last], IsName n := fun n hn =>
    (List.mem_append.1 (List.append_assoc .. ▸ hn)).elim (hto n) (hr n)
  rw [← List.append_assoc] at hp hall
  rw [parent?_ofNames hall] at hp
  rw [hm, ← List.append_assoc, parent?_ofNames hafter, ← Option.some.inj hp,
    movedKey_ofNames hf0 ht0]

end MovedKey

/-- The key of a node after the node at `source`, with everything below it, has moved. -/
def moved (source target key : String) : String :=
  if Key.Within key source then movedKey source target key else key

/-! ## Moving one entry after the other -/

/-- Moving entries to keys that are free moves each of them. -/
lemma getElem?_foldl_moveEntry (keys : List String) (hnodup : keys.Nodup)
    (hinj : ∀ a ∈ keys, ∀ b ∈ keys, movedKey source target a = movedKey source target b → a = b)
    (entries : Std.ExtTreeMap String Nat) (hpresent : ∀ key ∈ keys, entries[key]?.isSome)
    (hfree : ∀ key ∈ keys, entries[movedKey source target key]? = none) (key : String) (i : Nat) :
    (keys.foldl (moveEntry source target) entries)[key]? = some i
      ↔ (key ∉ keys ∧ entries[key]? = some i)
        ∨ ∃ old ∈ keys, entries[old]? = some i ∧ movedKey source target old = key := by
  induction keys generalizing entries with
  | nil => simp
  | cons first keys ih =>
      simp only [List.nodup_cons, List.forall_mem_cons] at hnodup hinj hpresent hfree
      obtain ⟨ino, hino⟩ := Option.isSome_iff_exists.1 hpresent.1
      have hstep : ∀ k : String, (moveEntry source target entries first)[k]?
          = if movedKey source target first = k then some ino
            else if first = k then none else entries[k]? := by
        intro k
        simp only [moveEntry, hino]
        rw [getElem?_insert_eq, getElem?_erase_eq]
      -- the other entries are where they were, and their new keys are still free
      have hkeep : ∀ k ∈ keys, (moveEntry source target entries first)[k]? = entries[k]? := by
        intro k hk
        rw [hstep, if_neg, if_neg]
        · rintro rfl
          exact hnodup.1 hk
        · rintro rfl
          simpa [hfree.1] using hpresent.2 _ hk
      rw [List.foldl_cons, ih hnodup.2 (fun a ha b hb => (hinj.2 a ha).2 b hb)]
      · constructor
        · rintro (⟨hk, he⟩ | ⟨old, ho, he, hm⟩)
          · rw [hstep] at he
            split at he
            · next hf => exact Or.inr ⟨first, List.mem_cons_self .., hino.trans he, hf⟩
            · split at he
              · cases he
              · next hne => exact Or.inl ⟨by simp [hk, Ne.symm hne], he⟩
          · exact Or.inr ⟨old, List.mem_cons_of_mem _ ho, hkeep old ho ▸ he, hm⟩
        · rintro (⟨hk, he⟩ | ⟨old, ho, he, hm⟩)
          · simp only [List.mem_cons, not_or] at hk
            refine Or.inl ⟨hk.2, ?_⟩
            rw [hstep, if_neg, if_neg (Ne.symm hk.1), he]
            rintro rfl
            rw [hfree.1] at he
            cases he
          · rcases List.mem_cons.1 ho with rfl | ho
            · refine Or.inl ⟨fun hk => ?_, ?_⟩
              · simpa [← hm, hfree.1] using hpresent.2 _ hk
              · rw [hstep, if_pos hm, ← hino, he]
            · exact Or.inr ⟨old, ho, (hkeep old ho).trans he, hm⟩
      · exact fun k hk => hkeep k hk ▸ hpresent.2 k hk
      · intro k hk
        rw [hstep, if_neg, if_neg, hfree.2 k hk]
        · intro he
          have := hfree.2 k hk
          rw [← he, hino] at this
          cases this
        · intro he
          exact hnodup.1 (hinj.1.2 k hk he ▸ hk)

/-! ## Moving a node -/

section Relocate

variable (h : t.WellFormed) (hsource : t.entries[source]? = some ino) (hroot : source ≠ "/")
  (ht : Key.Canonical target) (htroot : target ≠ "/") (hfree : t.entries[target]? = none)

/-- The keys that move along with a key. -/
lemma mem_moving (h : t.WellFormed) (hsource : t.entries[source]? = some ino) {key : String} :
    key ∈ source :: (if t.isDir source then t.descendantKeys source else [])
      ↔ (∃ i, t.entries[key]? = some i) ∧ Key.Within key source := by
  have hdesc : key ∈ t.descendantKeys source
      ↔ (∃ i, t.entries[key]? = some i) ∧ Key.isBelow key source = true := by
    rw [descendantKeys, List.mem_filter, Std.ExtTreeMap.mem_keys,
      Std.ExtTreeMap.mem_iff_isSome_getElem?, Option.isSome_iff_exists]
    exact and_congr_right fun ⟨i, hi⟩ =>
      Key.startsWith_and_length (h.canonical hi) (h.canonical hsource)
  rw [List.mem_cons, Key.Within]
  constructor
  · rintro (rfl | hk)
    · exact ⟨⟨ino, hsource⟩, Or.inl rfl⟩
    · split at hk
      · exact (hdesc.1 hk).imp_right Or.inr
      · cases hk
  · rintro ⟨⟨i, hi⟩, rfl | hb⟩
    · exact Or.inl rfl
    · rw [if_pos (h.isDir_of_isBelow (h.canonical hsource) hi hb)]
      exact Or.inr (hdesc.2 ⟨⟨i, hi⟩, hb⟩)

/-- Nothing moves twice. -/
lemma nodup_moving (h : t.WellFormed) (hsource : t.entries[source]? = some ino) :
    (source :: (if t.isDir source then t.descendantKeys source else [])).Nodup := by
  rw [List.nodup_cons]
  constructor
  · split
    · intro hmem
      rw [descendantKeys, List.mem_filter] at hmem
      have hb := (Key.startsWith_and_length (h.canonical hsource) (h.canonical hsource)).1 hmem.2
      rw [Key.isBelow_irrefl] at hb
      cases hb
    · exact List.not_mem_nil
  · split
    · exact Std.ExtTreeMap.nodup_keys.filter _
    · exact List.nodup_nil

include h hsource hroot ht htroot hfree

/-- After a move each entry has the key that `moved` gives it, and there are no others. -/
theorem entries_relocate (stamp : Stamp) (key : String) (i : Nat) :
    (t.relocate stamp (t.isDir source) ino source target).entries[key]? = some i
      ↔ ∃ old : String, t.entries[old]? = some i ∧ moved source target old = key := by
  have hs := h.canonical hsource
  have hmoves : (t.relocate stamp (t.isDir source) ino source target).entries
      = (source :: (if t.isDir source then t.descendantKeys source else [])).foldl
          (moveEntry source target) t.entries := by
    simp only [relocate, entries_touchParent, entries_modify]
  rw [hmoves, getElem?_foldl_moveEntry _ (nodup_moving h hsource)]
  · constructor
    · rintro (⟨hk, he⟩ | ⟨old, ho, he, hm⟩)
      · refine ⟨key, he, if_neg fun hw => hk ?_⟩
        exact (mem_moving h hsource).2 ⟨⟨i, he⟩, hw⟩
      · exact ⟨old, he, (if_pos ((mem_moving h hsource).1 ho).2).trans hm⟩
    · rintro ⟨old, he, hm⟩
      unfold moved at hm
      split at hm
      · next hw => exact Or.inr ⟨old, (mem_moving h hsource).2 ⟨⟨i, he⟩, hw⟩, he, hm⟩
      · next hw =>
          subst hm
          exact Or.inl ⟨fun hmem => hw ((mem_moving h hsource).1 hmem).2, he⟩
  · intro a ha b hb hab
    obtain ⟨⟨_, hea⟩, haw⟩ := (mem_moving h hsource).1 ha
    obtain ⟨⟨_, heb⟩, hbw⟩ := (mem_moving h hsource).1 hb
    exact movedKey_inj hs ht hroot htroot (h.canonical hea) (h.canonical heb) haw hbw hab
  · exact fun k hk => Option.isSome_iff_exists.2 ((mem_moving h hsource).1 hk).1
  · intro k hk
    obtain ⟨⟨_, hek⟩, hkw⟩ := (mem_moving h hsource).1 hk
    rcases within_movedKey hs ht hroot htroot (h.canonical hek) hkw with he | hb
    · rw [he, hfree]
    · rw [Option.eq_none_iff_forall_ne_some]
      intro j hj
      rw [h.not_isBelow_of_absent ht hfree hj] at hb
      cases hb

/-- No two keys get one key. -/
lemma moved_inj {a b : String} {i j : Nat} (ha : t.entries[a]? = some i)
    (hb : t.entries[b]? = some j) (hab : moved source target a = moved source target b) :
    a = b := by
  have hs := h.canonical hsource
  -- a moved key is at or below the target, where nothing was
  have hapart : ∀ {x y : String} {i j : Nat}, t.entries[x]? = some i → t.entries[y]? = some j →
      Key.Within x source → movedKey source target x ≠ y := by
    rintro x y i j hx hy hw rfl
    rcases within_movedKey hs ht hroot htroot (h.canonical hx) hw with he | hb
    · rw [he, hfree] at hy
      cases hy
    · rw [h.not_isBelow_of_absent ht hfree hy] at hb
      cases hb
  unfold moved at hab
  split at hab
  · next haw =>
      split at hab
      · next hbw =>
          exact movedKey_inj hs ht hroot htroot (h.canonical ha) (h.canonical hb) haw hbw hab
      · exact absurd hab (hapart ha hb haw)
  · split at hab
    · next hbw => exact absurd hab.symm (hapart hb ha hbw)
    · exact hab

/-- Moving a node to a free key, in a directory outside of it, keeps the tree in order. -/
theorem WellFormed.relocate (hnot : ¬ Key.Within target source)
    (hparent : ∃ parent, Key.parent? target = some parent ∧ t.isDir parent = true) :
    (t.relocate stamp (t.isDir source) ino source target).WellFormed := by
  have hs := h.canonical hsource
  set base : Tree := { t with
    entries := (source :: (if t.isDir source then t.descendantKeys source else [])).foldl
      (moveEntry source target) t.entries } with hbase
  have hentries : ∀ {k : String} {i : Nat}, base.entries[k]? = some i
      ↔ ∃ old : String, t.entries[old]? = some i ∧ moved source target old = k := by
    intro k i
    rw [← entries_relocate h hsource hroot ht htroot hfree stamp k i]
    simp only [Tree.relocate, entries_touchParent, entries_modify, hbase]
  have hdir : ∀ {k}, t.isDir k = true → base.isDir (moved source target k) = true := by
    intro k hd
    obtain ⟨i, inode, he, hi, hd⟩ := isDir_eq_true.1 hd
    exact isDir_eq_true.2 ⟨i, inode, hentries.2 ⟨k, he, rfl⟩, hi, hd⟩
  have hfixed : ∀ {k}, ¬ Key.Within k source → moved source target k = k := fun hw => if_neg hw
  have hfixedRoot : moved source target "/" = "/" := by
    refine hfixed ?_
    rintro (he | hb)
    · exact hroot he.symm
    · rw [Key.isBelow_root hs] at hb
      cases hb
  have hwellFormed : base.WellFormed := by
    refine .of_accounted (hentries.2 ⟨"/", h.root, hfixedRoot⟩) (hfixedRoot ▸ hdir h.root_isDir)
      ?_ ?_ ?_ ?_
    · intro k i hk
      obtain ⟨old, he, rfl⟩ := hentries.1 hk
      unfold moved
      split
      · next hw => exact canonical_movedKey hs ht hroot htroot (h.canonical he) hw
      · exact h.canonical he
    · intro k i hk hkroot
      obtain ⟨old, he, rfl⟩ := hentries.1 hk
      by_cases hold : old = source
      · subst hold
        obtain ⟨parent, hp, hd⟩ := hparent
        have houtside : ¬ Key.Within parent old := by
          intro hw
          exact hnot (Or.inr ((Key.isBelow_iff_parent ht hs hp).2 hw))
        refine ⟨parent, ?_, hfixed houtside ▸ hdir hd⟩
        rw [moved, if_pos (Key.Within.refl old), movedKey_source hs ht hroot htroot]
        exact hp
      · have holdroot : old ≠ "/" := by
          rintro rfl
          exact hkroot hfixedRoot
        obtain ⟨parent, hp, hd⟩ := h.parent he holdroot
        have hiff : Key.Within parent source ↔ Key.Within old source := by
          rw [Key.Within, Key.Within, Key.isBelow_iff_parent (h.canonical he) hs hp,
            or_iff_right hold]
        refine ⟨moved source target parent, ?_, hdir hd⟩
        by_cases hw : Key.Within old source
        · rw [moved, moved, if_pos hw, if_pos (hiff.2 hw)]
          exact parent?_movedKey hs ht hroot htroot (h.canonical he) (hw.resolve_left hold) hp
        · rw [hfixed hw, hfixed (fun hpw => hw (hiff.1 hpw))]
          exact hp
    · intro k i hk
      obtain ⟨old, he, -⟩ := hentries.1 hk
      exact h.inode_exists he
    · intro i inode hi
      have hkeys : base.keysOf i = (t.keysOf i).image (moved source target) := by
        ext k
        simp only [mem_keysOf, hentries, Finset.mem_image]
      have hcard : (base.keysOf i).card = (t.keysOf i).card := by
        rw [hkeys, Finset.card_image_of_injOn]
        intro a ha b hb hab
        exact moved_inj h hsource hroot ht htroot hfree (mem_keysOf.1 ha) (mem_keysOf.1 hb) hab
      have ha := h.accounted hi
      exact ⟨hcard ▸ ha.links, ha.nlink_pos, ha.dir_nlink, ha.lt_nextIno, ha.limits⟩
  exact ((hwellFormed.modify fun inode _ => inode.sameShape_touchChanged stamp).touchParent
    source).touchParent target

end Relocate

end Tree

end Strongbox
