import Mathlib.Data.List.Infix
import Strongbox.Key

/-!
# Keys as lists of names

A key is text, but everything the store asks about keys is about the names in them: the parent of a
key drops the last name, and a key lies below another if it goes on from the other's names.  This
module makes that exact, so that later ones can reason about lists and never about slashes.

* `Key.IsName` — what can stand between two slashes of a key.
* `Key.ofNames` — the key of a list of names, and **`Key.walk_render`**: a walk along it ends with
  these names, so no two lists of names share a key.
* `Key.Canonical` — the texts that are keys, and **`Key.normalize_canonical`**: every path that has
  a key has a canonical one.
-/

namespace Strongbox.Key

/-! ## Names -/

/-- A name of a node.  Empty segments and dots do not survive a walk, and a NUL stops it before it
begins. -/
structure IsName (name : List Char) : Prop where
  ne_nil : name ≠ []
  ne_dot : name ≠ ['.']
  ne_dots : name ≠ ['.', '.']
  no_slash : '/' ∉ name
  no_nul : '\x00' ∉ name

/-- The key with given names, outermost first. -/
def ofNames (names : List (List Char)) : String :=
  String.ofList (render names)

/-- The texts that are keys. -/
def Canonical (key : String) : Prop :=
  ∃ names, (∀ name ∈ names, IsName name) ∧ key = ofNames names

/-! ## Segments -/

/-- A slash begins a new segment behind an empty one. -/
lemma segments_slash (cs : List Char) :
    segments ('/' :: cs) = ([], (segments cs).1 :: (segments cs).2) := rfl

/-- Any other character belongs to the first segment. -/
lemma segments_cons {c : Char} (hc : c ≠ '/') (cs : List Char) :
    segments (c :: cs) = (c :: (segments cs).1, (segments cs).2) := by
  rw [segments]
  exact if_neg hc

/-- A text without slashes is one segment. -/
lemma segments_of_no_slash {cs : List Char} (h : '/' ∉ cs) : segments cs = (cs, []) := by
  induction cs with
  | nil => rfl
  | cons c cs ih =>
      simp only [List.mem_cons, not_or] at h
      rw [segments_cons (Ne.symm h.1), ih h.2]

/-- A slash ends the first segment. -/
lemma segments_append_slash {cs : List Char} (h : '/' ∉ cs) (rest : List Char) :
    segments (cs ++ '/' :: rest) = (cs, (segments rest).1 :: (segments rest).2) := by
  induction cs with
  | nil => rfl
  | cons c cs ih =>
      simp only [List.mem_cons, not_or] at h
      rw [List.cons_append, segments_cons (Ne.symm h.1), ih h.2]

/-- The segments of names with a slash before each are nothing and the names. -/
lemma segments_flatMap_slash {names : List (List Char)} (h : ∀ name ∈ names, '/' ∉ name) :
    segments (names.flatMap ('/' :: ·)) = ([], names) := by
  induction names with
  | nil => rfl
  | cons name names ih =>
      have hname : '/' ∉ name := h name (List.mem_cons_self ..)
      have ih := ih fun n hn => h n (List.mem_cons_of_mem _ hn)
      have hrest : segments (name ++ names.flatMap ('/' :: ·)) = (name, names) := by
        cases names with
        | nil => simpa using segments_of_no_slash hname
        | cons next names =>
            rw [List.flatMap_cons, List.cons_append, segments_append_slash hname]
            rw [List.flatMap_cons, List.cons_append, segments_slash] at ih
            exact congrArg (name, ·) (congrArg Prod.snd ih)
      rw [List.flatMap_cons, List.cons_append, segments_slash, hrest]

/-- No segment holds a slash, and each of its characters stands in the text. -/
lemma mem_of_mem_segments (cs : List Char) :
    ∀ name ∈ (segments cs).1 :: (segments cs).2, ∀ c ∈ name, c ∈ cs ∧ c ≠ '/' := by
  induction cs with
  | nil => simp [segments]
  | cons c cs ih =>
      intro name hname d hd
      have hstep : ∀ n ∈ (segments cs).1 :: (segments cs).2, d ∈ n → d ∈ c :: cs ∧ d ≠ '/' :=
        fun n hn hd => ⟨List.mem_cons_of_mem _ (ih n hn d hd).1, (ih n hn d hd).2⟩
      by_cases hc : c = '/'
      · subst hc
        rw [segments_slash] at hname
        rcases List.mem_cons.1 hname with rfl | hname
        · cases hd
        · exact hstep name hname hd
      · rw [segments_cons hc] at hname
        rcases List.mem_cons.1 hname with rfl | hname
        · rcases List.mem_cons.1 hd with rfl | hd
          · exact ⟨List.mem_cons_self .., hc⟩
          · exact hstep _ (List.mem_cons_self ..) hd
        · exact hstep name (List.mem_cons_of_mem _ hname) hd

/-! ## Walking -/

/-- A name goes one level down. -/
lemma step_of_isName {name : List Char} (h : IsName name) (stack : List (List Char)) :
    step stack name = name :: stack := by
  unfold step
  split
  · exact absurd rfl h.ne_nil
  · exact absurd rfl h.ne_dot
  · exact absurd rfl h.ne_dots
  · rfl

lemma foldl_step_of_isName {names : List (List Char)} (h : ∀ name ∈ names, IsName name)
    (stack : List (List Char)) : names.foldl step stack = names.reverse ++ stack := by
  induction names generalizing stack with
  | nil => rfl
  | cons name names ih =>
      rw [List.foldl_cons, step_of_isName (h name (by simp)),
        ih fun n hn => h n (List.mem_cons_of_mem _ hn)]
      simp

/-- **A walk along a key ends with the names of the key.** -/
theorem walk_render {names : List (List Char)} (h : ∀ name ∈ names, IsName name) :
    walk (render names) = names := by
  cases names with
  | nil => rfl
  | cons name rest =>
      have hseg := segments_flatMap_slash fun n hn => (h n hn).no_slash
      rw [walk, render]
      · simp only [hseg, List.foldl_cons]
        rw [show step [] [] = [] from rfl, ← List.foldl_cons, foldl_step_of_isName h]
        simp
      · simp

/-- One step keeps a stack of names a stack of names. -/
lemma step_isName {stack : List (List Char)} (hs : ∀ n ∈ stack, IsName n) {name : List Char}
    (hslash : '/' ∉ name) (hnul : '\x00' ∉ name) : ∀ n ∈ step stack name, IsName n := by
  unfold step
  split
  · exact hs
  · exact hs
  · exact fun n hn => hs n (List.mem_of_mem_tail hn)
  · next h₀ h₁ h₂ =>
      intro n hn
      rcases List.mem_cons.1 hn with rfl | hn
      · exact ⟨fun h => h₀ h, fun h => h₁ h, fun h => h₂ h, hslash, hnul⟩
      · exact hs n hn

/-- A walk along a path without NULs ends with names. -/
lemma walk_isName {path : List Char} (h : '\x00' ∉ path) : ∀ name ∈ walk path, IsName name := by
  have hfold : ∀ (segs stack : List (List Char)), (∀ s ∈ segs, '/' ∉ s ∧ '\x00' ∉ s) →
      (∀ n ∈ stack, IsName n) → ∀ n ∈ segs.foldl step stack, IsName n := by
    intro segs
    induction segs with
    | nil => intro stack _ hs; exact hs
    | cons s segs ih =>
        intro stack hseg hs
        refine ih _ (fun x hx => hseg x (List.mem_cons_of_mem _ hx)) ?_
        exact step_isName hs (hseg s (by simp)).1 (hseg s (by simp)).2
  intro name hname
  rw [walk, List.mem_reverse] at hname
  refine hfold _ [] (fun s hs => ⟨fun hc => ?_, fun hc => ?_⟩) (by simp) name hname
  · exact (mem_of_mem_segments path s hs _ hc).2 rfl
  · exact h (mem_of_mem_segments path s hs _ hc).1

/-- Every path that has a key has a canonical one. -/
theorem normalize_canonical {path key : String} (h : normalize path = .ok key) :
    Canonical key := by
  unfold normalize at h
  split at h
  · cases h
  · split at h
    · cases h
    · next hnul =>
        cases h
        refine ⟨walk path.toList, walk_isName ?_, rfl⟩
        simpa using hnul

/-- No two lists of names share a key. -/
theorem ofNames_inj {a b : List (List Char)} (ha : ∀ name ∈ a, IsName name)
    (hb : ∀ name ∈ b, IsName name) (h : ofNames a = ofNames b) : a = b := by
  have hr : render a = render b := String.ofList_injective h
  rw [← walk_render ha, hr, walk_render hb]

end Strongbox.Key
