import Strongbox.Proofs.Key.Descent

/-!
# Normalization of paths

A path is a list of components, what stands between its slashes, and its key spells where a walk
along them ends.  The walk is stated here without the stack of the computation, and everything else
follows from it: where a walk along two paths ends depends on the first one only through the
directory it leads to.

* `Key.Leads` — a walk along components, from one directory to another.
* **`Key.leads_iff`** — the computed walk is the only one.
* **`Key.normalize_walks`** — which paths have a key, what it spells, and why normalizing the first
  part of a path changes nothing.
-/

namespace Strongbox.Key

/-! ## Walks -/

/-- A walk along components leads from one list of names to another.  An empty component and `.`
stay, `..` drops the last name and stays where there is none, and any other component is appended
as a name. -/
inductive Leads : List (List Char) → List (List Char) → List (List Char) → Prop
  | done {names : List (List Char)} : Leads names [] names
  | stay {names rest there : List (List Char)} {component : List Char}
      (hstay : component = [] ∨ component = ['.']) (hrest : Leads names rest there) :
      Leads names (component :: rest) there
  | up {names rest there : List (List Char)} (hrest : Leads names.dropLast rest there) :
      Leads names (['.', '.'] :: rest) there
  | down {names rest there : List (List Char)} {component : List Char} (hne : component ≠ [])
      (hdot : component ≠ ['.']) (hdots : component ≠ ['.', '.'])
      (hrest : Leads (names ++ [component]) rest there) : Leads names (component :: rest) there

/-- A step of the stack is a step of the walk. -/
lemma leads_cons {names rest there : List (List Char)} (component : List Char) :
    Leads names (component :: rest) there
      ↔ Leads (step names.reverse component).reverse rest there := by
  constructor
  · rintro (_ | ⟨rfl | rfl, hrest⟩ | ⟨hrest⟩ | ⟨hne, hdot, hdots, hrest⟩)
    · simpa [step] using hrest
    · simpa [step] using hrest
    · simpa [step] using hrest
    · have hstep : step names.reverse component = component :: names.reverse := by
        unfold step
        split <;> first | rfl | contradiction
      simpa [hstep] using hrest
  · intro h
    unfold step at h
    split at h
    · exact .stay (.inl rfl) (by simpa using h)
    · exact .stay (.inr rfl) (by simpa using h)
    · exact .up (by simpa using h)
    · next hne hdot hdots => exact .down hne hdot hdots (by simpa using h)

/-- **A walk ends where the stack says**, so there is one walk along any components. -/
theorem leads_iff {names components there : List (List Char)} :
    Leads names components there ↔ there = (components.foldl step names.reverse).reverse := by
  induction components generalizing names with
  | nil =>
      rw [List.foldl_nil, List.reverse_reverse]
      refine ⟨fun h => ?_, fun h => h ▸ .done⟩
      cases h
      rfl
  | cons component rest ih =>
      rw [leads_cons, ih, List.reverse_reverse, List.foldl_cons]

/-! ## Components -/

/-- The segments of a text are what stands between its slashes. -/
lemma segments_eq_splitOn (cs : List Char) :
    (segments cs).1 :: (segments cs).2 = cs.splitOn '/' := by
  induction cs with
  | nil => rfl
  | cons c cs ih =>
      rw [List.splitOn_cons_eq_if_modifyHead, ← ih]
      by_cases hc : c = '/'
      · rw [hc, segments_slash]
        simp
      · rw [segments_cons hc]
        simp [hc]

lemma walk_eq_foldl (path : List Char) :
    walk path = ((path.splitOn '/').foldl step []).reverse := by
  rw [← segments_eq_splitOn]
  rfl

/-- A walk along a path leads from the root to the names computed for it, and nowhere else. -/
lemma leads_root_iff (path : List Char) (there : List (List Char)) :
    Leads [] (path.splitOn '/') there ↔ there = walk path := by
  rw [leads_iff, walk_eq_foldl, List.reverse_nil]

/-- A walk along two paths goes on from where the first one ends. -/
lemma walk_append_slash (front rest : List Char) :
    walk (front ++ '/' :: rest)
      = ((rest.splitOn '/').foldl step (walk front).reverse).reverse := by
  rw [walk_eq_foldl, List.splitOn_append_cons_self, List.foldl_append, walk_eq_foldl front,
    List.reverse_reverse]

/-- A name behind a path is walked down to. -/
lemma walk_append_name (front : List Char) {name : List Char} (h : IsName name) :
    walk (front ++ '/' :: name) = walk front ++ [name] := by
  rw [walk_append_slash, ← segments_eq_splitOn, segments_of_no_slash h.no_slash, List.foldl_cons,
    List.foldl_nil, step_of_isName h, List.reverse_cons, List.reverse_reverse]

/-! ## Normalization -/

/-- Only an empty path and one with a NUL have no key. -/
lemma normalize_eq_error {path : String} {code : Errno} :
    normalize path = .error code
      ↔ path = "" ∧ code = .noEntry ∨ '\x00' ∈ path.toList ∧ code = .invalid := by
  rw [normalize]
  split
  · next h =>
      obtain rfl : path = "" := by simpa using h
      simp [eq_comm]
  · next h =>
      have hne : path ≠ "" := by simpa using h
      split
      · next hnul =>
          rw [List.contains_iff_mem] at hnul
          simp [hne, hnul, eq_comm]
      · next hnul =>
          rw [List.contains_iff_mem] at hnul
          simp [hne, hnul]

/-- Every other path has the key of the names it leads to. -/
lemma normalize_eq_ok {path key : String} : normalize path = .ok key
    ↔ path ≠ "" ∧ '\x00' ∉ path.toList ∧ key = ofNames (walk path.toList) := by
  rw [normalize]
  split
  · next hempty => simp_all
  · next hempty =>
      have hne : path ≠ "" := by simpa using hempty
      split
      · next hnul => simp [List.contains_iff_mem.1 hnul]
      · next hnul => simp [hne, mt List.contains_iff_mem.2 hnul, ofNames, eq_comm]

lemma ofNames_ne_empty (names : List (List Char)) : ofNames names ≠ "" := by
  intro h
  have htext := congrArg String.toList h
  rw [toList_ofNames] at htext
  cases names with
  | nil => cases htext
  | cons name names => cases htext

lemma not_nul_mem_ofNames {names : List (List Char)} (h : ∀ name ∈ names, IsName name) :
    '\x00' ∉ (ofNames names).toList := by
  rw [toList_ofNames]
  cases names with
  | nil => decide
  | cons name names =>
      rw [render_of_ne_nil (by simp), List.mem_flatMap]
      rintro ⟨n, hn, hmem⟩
      rcases List.mem_cons.1 hmem with hslash | hmem
      · exact absurd hslash (by decide)
      · exact (h n hn).no_nul hmem

/-- A key is its own. -/
lemma normalize_ofNames {names : List (List Char)} (h : ∀ name ∈ names, IsName name) :
    normalize (ofNames names) = .ok (ofNames names) := by
  refine normalize_eq_ok.2 ⟨ofNames_ne_empty names, not_nul_mem_ofNames h, ?_⟩
  rw [toList_ofNames, walk_render h]

/-- The keys are the texts that normalization leaves as they are. -/
lemma canonical_iff_normalize {key : String} : Canonical key ↔ normalize key = .ok key := by
  refine ⟨?_, normalize_canonical⟩
  rintro ⟨names, hnames, rfl⟩
  exact normalize_ofNames hnames

/-- The names that a path leads to may stand for the path in a longer one. -/
lemma walk_render_append {path : List Char} (hnul : '\x00' ∉ path) (rest : List Char) :
    walk (render (walk path) ++ '/' :: rest) = walk (path ++ '/' :: rest) := by
  rw [walk_append_slash, walk_append_slash, walk_render (walk_isName hnul)]

/-- Two paths with a slash between them are walked along together. -/
lemma normalize_append_slash {front rest : String} (hfront : '\x00' ∉ front.toList)
    (hrest : '\x00' ∉ rest.toList) : normalize (front ++ "/" ++ rest)
      = .ok (ofNames (walk (front.toList ++ '/' :: rest.toList))) := by
  have htext : (front ++ "/" ++ rest).toList = front.toList ++ '/' :: rest.toList := by
    simp
  refine normalize_eq_ok.2 ⟨fun h => ?_, ?_, by rw [htext]⟩
  · rw [h] at htext
    exact absurd htext.symm (List.append_ne_nil_of_right_ne_nil _ (List.cons_ne_nil _ _))
  · rw [htext]
    simp [hfront, hrest]

/-- **The key of a path spells where a walk along it ends.**  An empty path has no key, nor has one
with a NUL.  Any other path leads from the root to one list of names, each of which can stand
between two slashes, and its key is the slash of the root or these names with a slash before each.
A key is its own, nothing else is, and it may stand for the path in front of any other one. -/
theorem normalize_walks (path : String) :
    (∀ code, normalize path = .error code
      ↔ path = "" ∧ code = .noEntry ∨ '\x00' ∈ path.toList ∧ code = .invalid) ∧
    (Canonical path ↔ normalize path = .ok path) ∧
    (path ≠ "" → '\x00' ∉ path.toList → ∃ key names, normalize path = .ok key ∧
      (∀ there, Leads [] (path.toList.splitOn '/') there ↔ there = names) ∧
      (∀ name ∈ names, name ≠ [] ∧ name ≠ ['.'] ∧ name ≠ ['.', '.'] ∧ '/' ∉ name) ∧
      key.toList = (if names = [] then ['/'] else names.flatMap ('/' :: ·)) ∧
      Canonical key ∧ normalize key = .ok key ∧
      ∀ rest, rest ≠ "" → '\x00' ∉ rest.toList → ∃ joined,
        normalize (path ++ "/" ++ rest) = .ok joined ∧
        normalize (key ++ "/" ++ rest) = .ok joined) := by
  refine ⟨fun code => normalize_eq_error, canonical_iff_normalize, fun hpath hnul => ?_⟩
  have hnames : ∀ name ∈ walk path.toList, IsName name := walk_isName hnul
  refine ⟨_, walk path.toList, normalize_eq_ok.2 ⟨hpath, hnul, rfl⟩, leads_root_iff _,
    fun name hname => ?_, ?_, ⟨_, hnames, rfl⟩, normalize_ofNames hnames, fun rest _ hrest => ?_⟩
  · have h := hnames name hname
    exact ⟨h.ne_nil, h.ne_dot, h.ne_dots, h.no_slash⟩
  · rw [toList_ofNames]
    split
    · next h => rw [h, render]
    · next h => exact render_of_ne_nil h
  · refine ⟨_, normalize_append_slash hnul hrest, ?_⟩
    rw [normalize_append_slash (not_nul_mem_ofNames hnames) hrest, toList_ofNames,
      walk_render_append hnul]

/-- Going up stops at the root, and the key stands for the path even where the longer path leaves
the last of its names again. -/
theorem normalize_walks_past_the_root :
    normalize "/a/../../b/./ü//c" = .ok "/b/ü/c" ∧
    ∃ joined, normalize ("/a/../../b/./ü//c" ++ "/" ++ "../d") = .ok joined ∧
      normalize ("/b/ü/c" ++ "/" ++ "../d") = .ok joined := by
  have hkey : normalize "/a/../../b/./ü//c" = .ok "/b/ü/c" := by decide +kernel
  obtain ⟨-, -, h⟩ := normalize_walks "/a/../../b/./ü//c"
  obtain ⟨key, _, hok, -, -, -, -, -, hrest⟩ := h (by decide +kernel) (by decide +kernel)
  obtain rfl := Except.ok.inj (hkey.symm.trans hok)
  exact ⟨hkey, hrest "../d" (by decide +kernel) (by decide +kernel)⟩

end Strongbox.Key
