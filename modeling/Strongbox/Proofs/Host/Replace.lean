import Strongbox.Host
import Strongbox.Proofs.Key.Names
import Strongbox.Proofs.Tree.Lookup

/-!
# A replaced file is read back

A store replaces its container file under a cleaned path and later reads it under the same path.
The two go different ways: replacing looks the directory up and adds the last name, and reading
follows the whole path.  For a cleaned path both end at the same node.

* `HostPath.Cleaned` — the paths that `HostPath.absolute` gives.
* `Host.follow_put` — a path that leads somewhere leads there also after a file was put.
* **`Host.read_replaceFile`** — the file that was put is read back.
* `Host.takes_of_replaceFile` — where a file was put, any other one can be put.
-/

namespace Strongbox

namespace HostPath

/-! ## Cleaned paths -/

/-- A name that a cleaned path keeps. -/
structure IsHostName (name : List Char) : Prop where
  ne_nil : name ≠ []
  ne_dot : name ≠ ['.']
  no_slash : '/' ∉ name

/-- What a cleaned path starts with. -/
def IsLead (lead : String) : Prop := lead = "/" ∨ lead = "//"

/-- A path without redundant slashes and dots, perhaps with a slash at its end. -/
def Cleaned (path : String) : Prop :=
  ∃ lead names, IsLead lead ∧ (∀ name ∈ names, IsHostName name)
    ∧ (path = join lead names ∨ path = join lead names ++ "/")

lemma isLead_lead (path : String) : IsLead (lead path) := by
  unfold lead IsLead
  split <;> simp

lemma isHostName_names (path : String) : ∀ name ∈ names path, IsHostName name := by
  intro name hname
  simp only [names, List.mem_filter, Bool.and_eq_true, decide_eq_true_eq] at hname
  obtain ⟨hmem, hne, hdot⟩ := hname
  exact ⟨hne, hdot, fun hslash => (Key.mem_of_mem_segments _ name hmem '/' hslash).2 rfl⟩

/-- What a store takes a path for is a cleaned path. -/
lemma cleaned_of_absolute {path cleaned : String} (h : absolute path = .ok cleaned) :
    Cleaned cleaned := by
  unfold absolute at h
  split at h
  · cases h
  · obtain rfl := Except.ok.inj h
    refine ⟨lead path, names path, isLead_lead path, isHostName_names path, ?_⟩
    split
    · exact Or.inr rfl
    · exact Or.inl rfl

/-! ## The segments of a cleaned path -/

lemma segments_intercalate {name : List Char} {names : List (List Char)}
    (h : ∀ n ∈ name :: names, '/' ∉ n) :
    Key.segments (['/'].intercalate (name :: names)) = (name, names) := by
  induction names generalizing name with
  | nil => simpa [List.intercalate] using Key.segments_of_no_slash (h name (by simp))
  | cons second names ih =>
      have ih := ih fun n hn => h n (List.mem_cons_of_mem _ hn)
      have hsplit : ['/'].intercalate (name :: second :: names)
          = name ++ '/' :: ['/'].intercalate (second :: names) := by
        simp [List.intercalate]
      rw [hsplit, Key.segments_append_slash (h name (by simp)), ih]

/-- The segments of a cleaned path are its names, behind some empty ones. -/
lemma segments_join {lead : String} (hlead : IsLead lead) {names : List (List Char)}
    (h : ∀ name ∈ names, IsHostName name) :
    ∃ k, (Key.segments (join lead names).toList).1 :: (Key.segments (join lead names).toList).2
      = List.replicate (k + 1) [] ++ names := by
  -- behind the slashes of the lead there are the names, or one more empty segment
  have hnames : ∃ k, (Key.segments (['/'].intercalate names)).1
        :: (Key.segments (['/'].intercalate names)).2 = List.replicate k [] ++ names := by
    cases names with
    | nil => exact ⟨1, rfl⟩
    | cons name names =>
        refine ⟨0, ?_⟩
        rw [segments_intercalate fun n hn => (h n hn).no_slash]
        rfl
  obtain ⟨k, hk⟩ := hnames
  have htext : (join lead names).toList = lead.toList ++ ['/'].intercalate names := by
    rw [join, String.toList_append, String.toList_ofList]
  rcases hlead with rfl | rfl
  · have hslash : (join "/" names).toList = '/' :: ['/'].intercalate names := htext
    refine ⟨k, ?_⟩
    rw [hslash, Key.segments_slash, hk]
    rfl
  · have hslash : (join "//" names).toList = '/' :: '/' :: ['/'].intercalate names := htext
    refine ⟨k + 1, ?_⟩
    rw [hslash, Key.segments_slash, Key.segments_slash, hk]
    rfl

/-- The names of a cleaned path are the ones that it was put together from. -/
lemma names_join {lead : String} (hlead : IsLead lead) {names : List (List Char)}
    (h : ∀ name ∈ names, IsHostName name) : HostPath.names (join lead names) = names := by
  obtain ⟨k, hk⟩ := segments_join hlead h
  show ((Key.segments (join lead names).toList).1
    :: (Key.segments (join lead names).toList).2).filter
      (fun name => name ≠ [] && name ≠ ['.']) = names
  rw [hk, List.filter_append, List.filter_replicate_of_neg (by simp),
    List.nil_append, List.filter_eq_self]
  intro name hname
  simpa using ⟨(h name hname).ne_nil, (h name hname).ne_dot⟩

/-- A cleaned path that does not end with a slash has names. -/
lemma exists_join_of_cleaned {path : String} (h : Cleaned path)
    (hslash : endsWithSlash path = false) :
    ∃ lead front last, IsLead lead ∧ (∀ name ∈ front ++ [last], IsHostName name)
      ∧ path = join lead (front ++ [last]) := by
  obtain ⟨lead, names, hlead, hnames, hpath⟩ := h
  have hends : ∀ text : String, endsWithSlash (text ++ "/") = true := by
    intro text
    rw [endsWithSlash, String.toList_append]
    simp
  rcases hpath with rfl | rfl
  · obtain rfl | ⟨front, last, rfl⟩ := List.eq_nil_or_concat' names
    · rcases hlead with rfl | rfl
      · exact absurd hslash (by decide)
      · exact absurd hslash (by decide)
    · exact ⟨lead, front, last, hlead, hnames, rfl⟩
  · rw [hends] at hslash
    cases hslash

/-- The directory of a cleaned path has the names before the last one. -/
lemma exists_parent_join {lead : String} (hlead : IsLead lead) {front : List (List Char)}
    {last : List Char} (h : ∀ name ∈ front ++ [last], IsHostName name) :
    ∃ lead', IsLead lead'
      ∧ (parent? (join lead (front ++ [last]))).getD "/" = join lead' front := by
  have hnames := names_join hlead h
  rw [parent?, hnames, List.dropLast_concat]
  cases front with
  | nil => exact ⟨"/", Or.inl rfl, rfl⟩
  | cons name front => exact ⟨_, isLead_lead _, rfl⟩

end HostPath

namespace Host

variable {host : Host} {key here there : String}

/-! ## Following a path -/

/-- Where one segment of a path leads. -/
def step (host : Host) (here : String) (segment : List Char) : Except Errno String :=
  match host.nodes[here]? with
  | none => .error .noEntry
  | some (.file _ _) => .error .notDirectory
  | some (.directory _) =>
    if segment = [] then .ok here
    else if !(host.rights here).search then .error .accessDenied
    else if segment = ['.'] then .ok here
    else if segment = ['.', '.'] then .ok ((Key.parent? here).getD "/")
    else if nameLimit < (String.ofList segment).utf8ByteSize then .error .nameTooLong
    else if Key.childPrefix here ++ String.ofList segment ∈ host.nodes then
      .ok (Key.childPrefix here ++ String.ofList segment)
    else .error .noEntry

/-- A path is followed segment by segment. -/
lemma follow_cons (host : Host) (here : String) (segment : List Char) (rest : List (List Char)) :
    host.follow here (segment :: rest) = host.step here segment >>= (host.follow · rest) := by
  rw [follow, step]
  cases host.nodes[here]? with
  | none => rfl
  | some node => cases node with
    | file mode content => rfl
    | directory mode =>
        dsimp only
        split_ifs <;> rfl

lemma step_nil {mode : Nat} (hdir : host.nodes[here]? = some (.directory mode)) :
    host.step here [] = .ok here := by
  rw [step, hdir]
  exact if_pos rfl

/-- Segments only lead out of directories. -/
lemma directory_of_step {segment : List Char} (h : host.step here segment = .ok there) :
    ∃ mode, host.nodes[here]? = some (.directory mode) := by
  rw [step] at h
  split at h
  · cases h
  · cases h
  · next mode hdir => exact ⟨mode, hdir⟩

/-- Empty segments lead nowhere else. -/
lemma follow_replicate {mode : Nat} (hdir : host.nodes[here]? = some (.directory mode)) (k : Nat)
    (names : List (List Char)) :
    host.follow here (List.replicate k [] ++ names) = host.follow here names := by
  induction k with
  | zero => rfl
  | succ k ih =>
      rw [List.replicate_succ, List.cons_append, follow_cons, step_nil hdir]
      exact ih

/-- A path that is followed to its end is followed in two parts. -/
lemma follow_append {first : List (List Char)} (second : List (List Char))
    (h : host.follow here first = .ok there) :
    host.follow here (first ++ second) = host.follow there second := by
  induction first generalizing here with
  | nil =>
      rw [follow] at h
      rw [List.nil_append, Except.ok.inj h]
  | cons segment rest ih =>
      rw [follow_cons] at h
      obtain ⟨next, hnext, h⟩ := bind_eq_ok.1 h
      rw [List.cons_append, follow_cons, hnext]
      exact ih h

section Put

variable {node : HostNode} (hkey : ∀ mode, host.nodes[key]? ≠ some (.directory mode))

include hkey

lemma directory_put {mode : Nat} (h : host.nodes[here]? = some (.directory mode)) :
    (host.put key node).nodes[here]? = some (.directory mode) := by
  rw [put, Tree.getElem?_insert_eq, if_neg, h]
  rintro rfl
  exact hkey mode h

lemma rights_put {mode : Nat} (h : host.nodes[here]? = some (.directory mode)) :
    (host.put key node).rights here = host.rights here := by
  refine if_neg ?_
  rintro rfl
  exact hkey mode h

lemma step_put {segment : List Char} (h : host.step here segment = .ok there) :
    (host.put key node).step here segment = .ok there := by
  obtain ⟨mode, hdir⟩ := directory_of_step h
  have hmem : ∀ {k : String}, k ∈ host.nodes → k ∈ (host.put key node).nodes :=
    fun hk => Std.ExtTreeMap.mem_insert.2 (Or.inr hk)
  rw [step, hdir] at h
  rw [step, directory_put hkey hdir, rights_put hkey hdir]
  dsimp only at h ⊢
  -- the same branch is taken, since a name that was there is still there
  split_ifs at h ⊢
  all_goals first
    | exact h
    | exact absurd (hmem (by assumption)) (by assumption)

/-- A file in a place that was no directory is in nobody's way. -/
lemma follow_put {segments : List (List Char)} (h : host.follow here segments = .ok there) :
    (host.put key node).follow here segments = .ok there := by
  induction segments generalizing here with
  | nil => exact h
  | cons segment rest ih =>
      rw [follow_cons] at h
      obtain ⟨next, hnext, h⟩ := bind_eq_ok.1 h
      rw [follow_cons, step_put hkey hnext]
      exact ih h

end Put

/-! ## Replacing a file -/

/-- A path that leads somewhere is within the host's limits, and followed to its end. -/
lemma resolve_ok {path : String} (h : host.resolve path = .ok key) :
    path.toList.contains '\x00' = false ∧ path.isEmpty = false ∧ path.utf8ByteSize ≤ pathLimit
      ∧ host.follow "/" ((Key.segments path.toList).1 :: (Key.segments path.toList).2)
        = .ok key := by
  unfold resolve at h
  split at h
  · cases h
  · next hnul =>
      split at h
      · cases h
      · next hempty =>
          split at h
          · cases h
          · next hsize =>
              refine ⟨Bool.eq_false_iff.2 hnul, Bool.eq_false_iff.2 hempty, Nat.not_lt.1 hsize, ?_⟩
              exact mapError_eq_ok.1 h

lemma access_of_resolve {path : String} (h : host.resolve path = .ok key)
    (hkey : key ∈ host.nodes) : host.access path = host.rights key := by
  rw [access, h]
  exact if_pos hkey

/-- What was put is the user's own. -/
lemma rights_put_self (host : Host) (key : String) (node : HostNode) :
    (host.put key node).rights key = .full :=
  if_pos rfl

/-- A file can be put where the directory exists and is open to the user, and the last name is one
for a file. -/
lemma target_ok {path : String} (h : host.target path = .ok key) :
    path.toList.contains '\x00' = false
      ∧ ∃ last directory mode, (HostPath.names path).getLast? = some last
        ∧ host.resolve ((HostPath.parent? path).getD "/") = .ok directory
        ∧ host.nodes[directory]? = some (.directory mode)
        ∧ (host.rights directory).search = true ∧ (host.rights directory).write = true
        ∧ last ≠ ['.', '.']
        ∧ (String.ofList last).utf8ByteSize ≤ nameLimit
        ∧ key = Key.childPrefix directory ++ String.ofList last := by
  obtain ⟨hnul, h⟩ := guard_eq_ok.1 h
  split at h
  · next last hlast =>
      obtain ⟨directory, hdirectory, h⟩ := bind_eq_ok.1 h
      split at h
      · next mode hmode =>
          split_ifs at h with hclosed hdots hsize
          rw [Bool.not_eq_true, Bool.not_eq_false', Bool.and_eq_true] at hclosed
          exact ⟨Bool.eq_false_iff.2 hnul, last, directory, mode, hlast, hdirectory, hmode,
            hclosed.1, hclosed.2, hdots, Nat.not_lt.1 hsize, (Except.ok.inj h).symm⟩
      · cases h
  · cases h

lemma replaceFile_ok {path : String} {content : Bytes} {host' : Host}
    (h : host.replaceFile path content = .ok host') :
    path.isEmpty = false ∧ HostPath.endsWithSlash path = false
      ∧ ∃ key mode, host.target path = .ok key
        ∧ (∀ mode, host.nodes[key]? ≠ some (.directory mode))
        ∧ host' = host.put key (.file mode content) := by
  obtain ⟨hempty, h⟩ := guard_eq_ok.1 h
  obtain ⟨key, hkey, h⟩ := bind_eq_ok.1 h
  obtain ⟨hslash, h⟩ := guard_eq_ok.1 h
  refine ⟨Bool.eq_false_iff.2 hempty, Bool.eq_false_iff.2 hslash, key, ?_⟩
  split at h
  · cases h
  · next mode old hold =>
      exact ⟨mode, hkey, fun _ hdir => (by simp [hold] at hdir), (Except.ok.inj h).symm⟩
  · next hfree =>
      exact ⟨privateMode, hkey, fun _ hdir => (by simp [hfree] at hdir), (Except.ok.inj h).symm⟩

/-- A cleaned path that leads somewhere starts at the root, and is followed name by name. -/
lemma follow_of_resolve {lead : String} (hlead : HostPath.IsLead lead) {names : List (List Char)}
    (hnames : ∀ name ∈ names, HostPath.IsHostName name)
    (h : host.resolve (HostPath.join lead names) = .ok key) :
    (∃ mode, host.nodes["/"]? = some (.directory mode)) ∧ host.follow "/" names = .ok key := by
  obtain ⟨-, -, -, hfollow⟩ := resolve_ok h
  obtain ⟨k, hk⟩ := HostPath.segments_join hlead hnames
  rw [hk] at hfollow
  have hfirst := hfollow
  rw [List.replicate_succ, List.cons_append, follow_cons] at hfirst
  obtain ⟨next, hnext, -⟩ := bind_eq_ok.1 hfirst
  obtain ⟨mode, hroot⟩ := directory_of_step hnext
  rw [follow_replicate hroot] at hfollow
  exact ⟨⟨mode, hroot⟩, hfollow⟩

/-- The last name of a path leads to its node. -/
lemma step_last {mode : Nat} {last : List Char} (hdir : host.nodes[here]? = some (.directory mode))
    (hsearch : (host.rights here).search = true) (hlast : HostPath.IsHostName last)
    (hdots : last ≠ ['.', '.']) (hsize : (String.ofList last).utf8ByteSize ≤ nameLimit)
    (hname : key = Key.childPrefix here ++ String.ofList last) (hkey : key ∈ host.nodes) :
    host.step here last = .ok key := by
  subst hname
  rw [step, hdir]
  dsimp only
  rw [if_neg hlast.ne_nil, hsearch, if_neg (by decide), if_neg hlast.ne_dot, if_neg hdots,
    if_neg (Nat.not_lt.2 hsize), if_pos hkey]

/-- A file that was put at a cleaned path is read there. -/
theorem read_replaceFile {path : String} (hclean : HostPath.Cleaned path)
    (hlimit : path.utf8ByteSize ≤ pathLimit) {content : Bytes} {host' : Host}
    (h : host.replaceFile path content = .ok host') : host'.read path = .ok content := by
  obtain ⟨hempty, hslash, key, mode, htarget, hkey, rfl⟩ := replaceFile_ok h
  obtain ⟨hnul, last, directory, dirMode, hlast, hparent, hdir, hsearch, -, hdots, hsize, hname⟩ :=
    target_ok htarget
  obtain ⟨lead, front, last', hlead, hnames, rfl⟩ := HostPath.exists_join_of_cleaned hclean hslash
  obtain rfl : last = last' := by
    rw [HostPath.names_join hlead hnames, List.getLast?_concat] at hlast
    exact (Option.some.inj hlast).symm
  -- the directory of the path is reached from the root by the names before the last one
  obtain ⟨lead', hlead', hfront⟩ := HostPath.exists_parent_join hlead hnames
  rw [hfront] at hparent
  obtain ⟨⟨rootMode, hroot⟩, hfollow⟩ := follow_of_resolve hlead'
    (fun name hmem => hnames name (List.mem_append_left _ hmem)) hparent
  -- and so it is when the file has been put, where the last name leads on to the file
  obtain ⟨k, hk⟩ := HostPath.segments_join hlead hnames
  have hput : (host.put key (.file mode content)).nodes[key]? = some (.file mode content) :=
    Std.ExtTreeMap.getElem?_insert_self
  have hlastStep : (host.put key (.file mode content)).step directory last = .ok key :=
    step_last (directory_put hkey hdir) ((rights_put hkey hdir).symm ▸ hsearch)
      (hnames last (by simp)) hdots hsize hname Std.ExtTreeMap.mem_insert_self
  have hresolve : (host.put key (.file mode content)).resolve
      (HostPath.join lead (front ++ [last])) = .ok key := by
    rw [resolve, hnul, if_neg Bool.false_ne_true, hempty, if_neg Bool.false_ne_true,
      if_neg (Nat.not_lt.2 hlimit)]
    dsimp only
    rw [hk, follow_replicate (directory_put hkey hroot), follow_append _ (follow_put hkey hfollow),
      follow_cons, hlastStep]
    rfl
  have hown : ((host.put key (.file mode content)).access
      (HostPath.join lead (front ++ [last]))).read = true := by
    rw [access_of_resolve hresolve Std.ExtTreeMap.mem_insert_self, rights_put_self]
    rfl
  rw [read, node, hresolve]
  simp only [bind, Except.bind, hput, hown]
  rfl

/-! ## Replacing a file again -/

/-- Whatever is to be put at a path, the host puts it there. -/
def Takes (host : Host) (path : String) : Prop :=
  ∀ content, ∃ host', host.replaceFile path content = .ok host'

section Put

variable {path : String} {node : HostNode}
  (hkey : ∀ mode, host.nodes[key]? ≠ some (.directory mode))

include hkey

lemma resolve_put (h : host.resolve path = .ok there) :
    (host.put key node).resolve path = .ok there := by
  obtain ⟨hnul, hempty, hsize, hfollow⟩ := resolve_ok h
  rw [resolve, hnul, if_neg Bool.false_ne_true, hempty, if_neg Bool.false_ne_true,
    if_neg (Nat.not_lt.2 hsize)]
  exact mapError_eq_ok.2 (follow_put hkey hfollow)

lemma target_put (h : host.target path = .ok there) :
    (host.put key node).target path = .ok there := by
  obtain ⟨hnul, last, directory, mode, hlast, hdirectory, hdir, hsearch, hwrite, hdots, hsize,
    rfl⟩ := target_ok h
  simp only [target, hnul, hlast, resolve_put hkey hdirectory, bind, Except.bind,
    directory_put hkey hdir, rights_put hkey hdir, hsearch, hwrite, Bool.and_self, Bool.not_true,
    if_neg hdots, if_neg (Nat.not_lt.2 hsize), Bool.false_eq_true, if_false]

end Put

/-- A host that has put a file at a path could have put any other one. -/
lemma takes_of_replaceFile_ok {path : String} {content : Bytes} {host' : Host}
    (h : host.replaceFile path content = .ok host') : host.Takes path := by
  obtain ⟨hempty, hslash, key, mode, htarget, hkey, -⟩ := replaceFile_ok h
  intro new
  simp only [replaceFile, hempty, hslash, htarget, bind, Except.bind, Bool.false_eq_true, if_false]
  split
  · next found hfound => exact absurd hfound (hkey found)
  · exact ⟨_, rfl⟩
  · exact ⟨_, rfl⟩

instance (host : Host) (path : String) : Decidable (host.Takes path) :=
  decidable_of_iff ((host.replaceFile path []).isOk = true)
    ⟨fun h => (exists_of_isOk h).elim fun _ hput => takes_of_replaceFile_ok hput,
      fun h => (h []).elim fun _ hput => hput ▸ rfl⟩

/-- A host that has put a file at a path puts any other one there next. -/
theorem takes_of_replaceFile {path : String} {content : Bytes} {host' : Host}
    (h : host.replaceFile path content = .ok host') : host'.Takes path := by
  obtain ⟨hempty, hslash, key, mode, htarget, hkey, rfl⟩ := replaceFile_ok h
  intro new
  have hput : (host.put key (.file mode content)).nodes[key]? = some (.file mode content) :=
    Std.ExtTreeMap.getElem?_insert_self
  refine ⟨(host.put key (.file mode content)).put key (.file mode new), ?_⟩
  simp only [replaceFile, hempty, hslash, target_put hkey htarget, bind, Except.bind, hput,
    Bool.false_eq_true, if_false]

end Host

end Strongbox
