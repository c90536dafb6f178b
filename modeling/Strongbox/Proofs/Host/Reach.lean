import Strongbox.Proofs.Host.Replace
import Strongbox.Proofs.Key.Normalization

/-!
# A file that is read can be replaced

A container is read under a cleaned path before it is ever replaced there.  That it can be read says
enough about the path: it ends with a name, and the directory of the name is there.

* `HostPath.absolute_of_absolute` — cleaning a cleaned path changes nothing.
* `Host.Reaches` — the keys that a path can lead to, each below directories.
* **`Host.takes_of_read`** — where a file is read, any other one can be put, if the user may write.
* `Host.Unreachable` — the few reasons why a path leads nowhere.
-/

namespace Strongbox

/-! ## Cleaning once more -/

namespace HostPath

variable {path cleaned start : String} {names front : List (List Char)} {last : List Char}

lemma intercalate_concat (hfront : front ≠ []) (last : List Char) :
    ['/'].intercalate (front ++ [last]) = ['/'].intercalate front ++ '/' :: last := by
  induction front with
  | nil => exact absurd rfl hfront
  | cons name front ih =>
      by_cases hmore : front = []
      · subst hmore
        simp [List.intercalate_cons_cons, List.intercalate_singleton]
      · rw [List.cons_append, List.intercalate_cons_of_ne_nil (by simp), ih hmore,
          List.intercalate_cons_of_ne_nil hmore]
        simp

lemma exists_intercalate_concat (front : List (List Char)) (hlast : last ≠ []) :
    ∃ more, more ≠ [] ∧ ['/'].intercalate (front ++ [last]) = ['/'].intercalate front ++ more := by
  by_cases hfront : front = []
  · exact ⟨last, hlast, by rw [hfront, List.nil_append, List.intercalate_singleton]; rfl⟩
  · exact ⟨'/' :: last, by simp, intercalate_concat hfront last⟩

lemma toList_join (start : String) (names : List (List Char)) :
    (join start names).toList = start.toList ++ ['/'].intercalate names := by
  rw [join, String.toList_append, String.toList_ofList]

lemma mem_join (hstart : IsLead start) (h : ∀ name ∈ names, IsHostName name) {name : List Char}
    (hname : name ∈ names) {c : Char} (hc : c ∈ name) : c ∈ (join start names).toList := by
  obtain ⟨k, hk⟩ := segments_join hstart h
  refine (Key.mem_of_mem_segments _ name ?_ c hc).1
  rw [hk]
  exact List.mem_append_right _ hname

/-- What a path starts with can be told when names have been added, since none of them starts with a
slash. -/
lemma lead_join_append (hstart : IsLead start) (h : ∀ name ∈ names, IsHostName name)
    (hne : names ≠ []) (behind : String) : lead (join start names ++ behind) = start := by
  cases names with
  | nil => exact absurd rfl hne
  | cons name rest =>
      have hname := h name (List.mem_cons_self ..)
      obtain ⟨more, hmore⟩ : ∃ more, ['/'].intercalate (name :: rest) = name ++ more := by
        cases rest with
        | nil => exact ⟨[], by simp [List.intercalate_singleton]⟩
        | cons next rest => exact ⟨_, by rw [List.intercalate_cons_cons, List.append_assoc]⟩
      cases name with
      | nil => exact absurd rfl hname.ne_nil
      | cons c name =>
          have hc : c ≠ '/' := fun hc => hname.no_slash (hc ▸ List.mem_cons_self ..)
          rw [lead, String.toList_append, toList_join, hmore]
          rcases hstart with rfl | rfl <;> simp [hc]

lemma lead_join (hstart : IsLead start) (h : ∀ name ∈ names, IsHostName name) :
    lead (join start names) = start := by
  by_cases hne : names = []
  · subst hne
    rcases hstart with rfl | rfl <;> rfl
  · simpa using lead_join_append hstart h hne ""

/-- A slash at the end adds no name. -/
lemma names_append_slash (path : String) :
    HostPath.names (path ++ "/") = HostPath.names path := by
  have hnames : ∀ path : String, HostPath.names path
      = (path.toList.splitOn '/').filter fun name => name ≠ [] && name ≠ ['.'] := by
    intro path
    rw [← Key.segments_eq_splitOn]
    rfl
  have htext : (path ++ "/").toList = path.toList ++ '/' :: [] := by simp
  rw [hnames, hnames, htext, List.splitOn_append_cons_self, List.filter_append]
  simp

lemma endsWithSlash_append_slash (path : String) : endsWithSlash (path ++ "/") = true := by
  rw [endsWithSlash, String.toList_append]
  simp

lemma isEmpty_join_append (hstart : IsLead start) (names : List (List Char)) (behind : String) :
    (join start names ++ behind).isEmpty = false := by
  rw [String.isEmpty_eq_false_iff, Ne, ← String.toList_inj, String.toList_append, toList_join]
  rcases hstart with rfl | rfl <;> simp

/-- Cleaning a cleaned path changes nothing. -/
theorem absolute_of_absolute (h : absolute path = .ok cleaned) :
    absolute cleaned = .ok cleaned := by
  unfold absolute at h
  split at h
  · cases h
  · have hstart := isLead_lead path
    have hnames := isHostName_names path
    generalize lead path = start at h hstart
    generalize HostPath.names path = names at h hnames
    obtain rfl := Except.ok.inj h
    split
    · next hslash =>
        -- a slash was put at the end, so there are names before it
        rw [Bool.and_eq_true, Bool.not_eq_true'] at hslash
        have hne : names ≠ [] := by
          rintro rfl
          rcases hstart with rfl | rfl
          · exact absurd hslash.2 (by decide)
          · exact absurd hslash.2 (by decide)
        rw [absolute, isEmpty_join_append hstart, if_neg Bool.false_ne_true,
          lead_join_append hstart hnames hne, names_append_slash, names_join hstart hnames,
          endsWithSlash_append_slash]
        dsimp only
        rw [hslash.2]
        rfl
    · have hempty := isEmpty_join_append hstart names ""
      rw [String.append_empty] at hempty
      rw [absolute, hempty, if_neg Bool.false_ne_true, lead_join hstart hnames,
        names_join hstart hnames]
      dsimp only
      rw [Bool.and_not_self]
      rfl

/-- The container engine takes a cleaned path as it is. -/
lemma absoluteOrSelf_of_absolute (h : absolute path = .ok cleaned) :
    absoluteOrSelf cleaned = cleaned := by
  rw [absoluteOrSelf, absolute_of_absolute h]

end HostPath

namespace Host

variable {host : Host} {here there key path : String} {segments : List (List Char)}
  {content : Bytes} {error : HostError}

/-! ## Following a path to its end -/

lemma follow_append_ok {first second : List (List Char)}
    (h : host.follow here (first ++ second) = .ok there) :
    ∃ middle, host.follow here first = .ok middle ∧ host.follow middle second = .ok there := by
  induction first generalizing here with
  | nil => exact ⟨here, rfl, h⟩
  | cons segment rest ih =>
      rw [List.cons_append, follow_cons] at h
      obtain ⟨next, hnext, h⟩ := bind_eq_ok.1 h
      obtain ⟨middle, hmiddle, h⟩ := ih h
      exact ⟨middle, by rw [follow_cons, hnext]; exact hmiddle, h⟩

/-- The keys that a path from the root can lead to: each is a name in a directory that a path can
lead to. -/
inductive Reaches (host : Host) : String → Prop
  | root {mode : Nat} (hroot : host.nodes["/"]? = some (.directory mode)) : host.Reaches "/"
  | inside {here : String} {mode : Nat} {name : List Char} (hhere : host.Reaches here)
      (hdir : host.nodes[here]? = some (.directory mode)) (hname : Key.IsName name) :
      host.Reaches (Key.childPrefix here ++ String.ofList name)

namespace Reaches

lemma childPrefix_append {names : List (List Char)} (h : ∀ name ∈ names, Key.IsName name)
    (name : List Char) :
    Key.childPrefix (Key.ofNames names) ++ String.ofList name = Key.ofNames (names ++ [name]) := by
  rw [← String.toList_inj, String.toList_append, Key.childPrefix_ofNames h, Key.toList_ofNames,
    Key.render_concat, String.toList_ofList]
  simp

lemma exists_names (h : host.Reaches here) :
    ∃ names, (∀ name ∈ names, Key.IsName name) ∧ here = Key.ofNames names := by
  induction h with
  | root => exact ⟨[], by simp, rfl⟩
  | inside _ _ hname ih =>
      obtain ⟨names, hnames, rfl⟩ := ih
      exact ⟨names ++ [_], List.forall_mem_append.2 ⟨hnames, by simpa using hname⟩,
        childPrefix_append hnames _⟩

/-- What is above a key that a path can lead to is a directory, and a path can lead there. -/
lemma parent (h : host.Reaches here) : ∃ mode,
    host.nodes[(Key.parent? here).getD "/"]? = some (.directory mode)
      ∧ host.Reaches ((Key.parent? here).getD "/") := by
  cases h with
  | @root mode hroot => exact ⟨mode, hroot, .root hroot⟩
  | @inside here mode name hhere hdir hname =>
      obtain ⟨names, hnames, rfl⟩ := hhere.exists_names
      have hparent : Key.parent? (Key.childPrefix (Key.ofNames names) ++ String.ofList name)
          = some (Key.ofNames names) := by
        rw [childPrefix_append hnames, Key.parent?_ofNames]
        exact List.forall_mem_append.2 ⟨hnames, by simpa using hname⟩
      rw [hparent]
      exact ⟨mode, hdir, hhere⟩

lemma step {segment : List Char} (h : host.Reaches here) (hslash : '/' ∉ segment)
    (hnul : '\x00' ∉ segment) (hstep : host.step here segment = .ok there) :
    host.Reaches there := by
  obtain ⟨mode, hdir⟩ := directory_of_step hstep
  rw [Host.step, hdir] at hstep
  dsimp only at hstep
  split_ifs at hstep with hempty hclosed hdot hdots hlong hin
  · cases hstep
    exact h
  · cases hstep
    exact h
  · cases hstep
    obtain ⟨-, -, hparent⟩ := h.parent
    exact hparent
  · cases hstep
    exact h.inside hdir ⟨hempty, hdot, hdots, hslash, hnul⟩

lemma follow (h : host.Reaches here)
    (hsegments : ∀ segment ∈ segments, '/' ∉ segment ∧ '\x00' ∉ segment)
    (hfollow : host.follow here segments = .ok there) : host.Reaches there := by
  induction segments generalizing here with
  | nil =>
      cases hfollow
      exact h
  | cons segment rest ih =>
      rw [follow_cons] at hfollow
      obtain ⟨next, hnext, hfollow⟩ := bind_eq_ok.1 hfollow
      obtain ⟨hsegment, hrest⟩ := List.forall_mem_cons.1 hsegments
      exact ih (h.step hsegment.1 hsegment.2 hnext) hrest hfollow

end Reaches

/-! ## What is found at a path -/

lemma present_of_node {node : HostNode} (h : host.node path = .ok node) :
    host.present path = true := by
  rw [present, h]
  rfl

lemma absent_of_node (h : host.node path = .error error) : host.present path = false := by
  rw [present, h]
  rfl

/-- There are no rights to what is not there. -/
lemma access_of_absent (h : host.present path = false) : host.access path = .none := by
  rw [access]
  split
  · next key hkey =>
      refine if_neg fun hmem => ?_
      rw [present, node, hkey] at h
      simp only [bind, Except.bind, Std.ExtTreeMap.getElem?_eq_some_getElem hmem] at h
      cases h
  · rfl

/-! ## Replacing what is read -/

lemma read_ok (h : host.read path = .ok content) :
    ∃ key mode, host.resolve path = .ok key ∧ host.nodes[key]? = some (.file mode content) := by
  obtain ⟨found, hnode, h⟩ := bind_eq_ok.1 h
  obtain ⟨-, h⟩ := guard_eq_ok.1 h
  obtain ⟨key, hkey, hnode⟩ := bind_eq_ok.1 hnode
  cases found with
  | directory mode => cases h
  | file mode old =>
      obtain rfl := Except.ok.inj h
      cases hfound : host.nodes[key]? with
      | none =>
          rw [hfound] at hnode
          cases hnode
      | some node =>
          rw [hfound] at hnode
          obtain rfl := Except.ok.inj hnode
          exact ⟨key, mode, hkey, hfound⟩

/-- A path with a slash at its end leads to a directory. -/
lemma directory_of_slash (hslash : HostPath.endsWithSlash path = true)
    (h : host.resolve path = .ok key) : ∃ mode, host.nodes[key]? = some (.directory mode) := by
  obtain ⟨-, -, -, hfollow⟩ := resolve_ok h
  obtain ⟨front, hfront⟩ := List.getLast?_eq_some_iff.1 (of_decide_eq_true hslash)
  rw [Key.segments_eq_splitOn, hfront, List.splitOn_append_cons_self] at hfollow
  obtain ⟨middle, -, hlast⟩ := follow_append_ok hfollow
  rw [List.splitOn_nil, follow_cons] at hlast
  obtain ⟨next, hstep, hlast⟩ := bind_eq_ok.1 hlast
  obtain ⟨mode, hdir⟩ := directory_of_step hstep
  rw [step_nil hdir] at hstep
  cases hstep
  cases hlast
  exact ⟨mode, hdir⟩

/-- The directory of a cleaned path within the host's limits is within them too. -/
lemma resolve_front {lead lead' : String} {front : List (List Char)} {last : List Char}
    (hlead : HostPath.IsLead lead) (hlead' : HostPath.IsLead lead')
    (hnames : ∀ name ∈ front ++ [last], HostPath.IsHostName name)
    (hpath : host.resolve (HostPath.join lead (front ++ [last])) = .ok key)
    (hfollow : host.follow "/" front = .ok there) :
    host.resolve (HostPath.join lead' front) = .ok there := by
  obtain ⟨hnul, -, hsize, -⟩ := resolve_ok hpath
  obtain ⟨⟨mode, hroot⟩, -⟩ := follow_of_resolve hlead hnames hpath
  obtain ⟨hfront, hlast⟩ := List.forall_mem_append.1 hnames
  obtain ⟨more, hmore, htext⟩ := HostPath.exists_intercalate_concat front
    (hlast last (List.mem_singleton_self last)).ne_nil
  have hnul' : (HostPath.join lead' front).toList.contains '\x00' = false := by
    rw [HostPath.toList_join, htext] at hnul
    rw [HostPath.toList_join]
    rcases hlead' with rfl | rfl <;> simp_all
  have hsize' : (HostPath.join lead' front).utf8ByteSize ≤ pathLimit := by
    rw [HostPath.join, htext, String.ofList_append, String.utf8ByteSize_append,
      String.utf8ByteSize_append] at hsize
    rw [HostPath.join, String.utf8ByteSize_append]
    have hless : lead'.utf8ByteSize ≤ lead.utf8ByteSize + 1 := by
      rcases hlead with rfl | rfl <;> rcases hlead' with rfl | rfl <;> decide
    have hpos : 0 < (String.ofList more).utf8ByteSize := by
      refine Nat.pos_of_ne_zero fun hzero => hmore ?_
      rw [String.utf8ByteSize_eq_zero_iff] at hzero
      exact String.ofList_eq_empty_iff.1 hzero
    omega
  have hempty := HostPath.isEmpty_join_append hlead' front ""
  rw [String.append_empty] at hempty
  obtain ⟨k, hk⟩ := HostPath.segments_join hlead' hfront
  rw [resolve, hnul', if_neg Bool.false_ne_true, hempty, if_neg Bool.false_ne_true,
    if_neg (Nat.not_lt.2 hsize')]
  dsimp only
  rw [hk, follow_replicate hroot, hfollow]
  rfl

/-- A name that leads to a file is one that a file can be put under, and its directory may be
searched. -/
lemma step_file {mode fileMode : Nat} {last : List Char} (hhere : host.Reaches here)
    (hlast : HostPath.IsHostName last) (hdir : host.nodes[here]? = some (.directory mode))
    (hstep : host.step here last = .ok key)
    (hfile : host.nodes[key]? = some (.file fileMode content)) :
    (host.rights here).search = true ∧ last ≠ ['.', '.']
      ∧ (String.ofList last).utf8ByteSize ≤ nameLimit
      ∧ key = Key.childPrefix here ++ String.ofList last := by
  rw [step, hdir] at hstep
  dsimp only at hstep
  split_ifs at hstep with hempty hclosed hdot hdots hlong hin
  · exact absurd hempty hlast.ne_nil
  · exact absurd hdot hlast.ne_dot
  · -- two dots lead to a directory
    cases hstep
    obtain ⟨mode, hparent, -⟩ := hhere.parent
    rw [hfile] at hparent
    cases hparent
  · cases hstep
    exact ⟨by simpa using hclosed, hdots, Nat.not_lt.1 hlong, rfl⟩

/-- Where a file is read under a cleaned path, any other one can be put if the user may write in the
directory. -/
theorem takes_of_read (hclean : HostPath.Cleaned path) (h : host.read path = .ok content)
    (hwrite : (host.access ((HostPath.parent? path).getD "/")).write = true) :
    host.Takes path := by
  obtain ⟨key, fileMode, hresolve, hfile⟩ := read_ok h
  obtain ⟨hnul, hempty, -, -⟩ := resolve_ok hresolve
  have hslash : HostPath.endsWithSlash path = false := by
    rw [Bool.eq_false_iff]
    intro hslash
    obtain ⟨mode, hdir⟩ := directory_of_slash hslash hresolve
    rw [hfile] at hdir
    cases hdir
  obtain ⟨lead, front, last, hlead, hnames, rfl⟩ := HostPath.exists_join_of_cleaned hclean hslash
  have hlast := hnames last (by simp)
  -- the names before the last one lead to the directory of the file
  obtain ⟨⟨rootMode, hroot⟩, hfollow⟩ := follow_of_resolve hlead hnames hresolve
  obtain ⟨directory, hdirectory, hend⟩ := follow_append_ok hfollow
  rw [follow_cons] at hend
  obtain ⟨next, hstep, hend⟩ := bind_eq_ok.1 hend
  cases hend
  obtain ⟨mode, hdir⟩ := directory_of_step hstep
  have hreaches : host.Reaches directory := by
    refine (Reaches.root hroot).follow (fun name hname => ?_) hdirectory
    have hmem := List.mem_append_left [last] hname
    have hfree : '\x00' ∉ (HostPath.join lead (front ++ [last])).toList := by simpa using hnul
    exact ⟨(hnames name hmem).no_slash,
      fun hc => hfree (HostPath.mem_join hlead hnames hmem hc)⟩
  obtain ⟨hsearch, hdots, hlimit, rfl⟩ := step_file hreaches hlast hdir hstep hfile
  obtain ⟨lead', hlead', hparent⟩ := HostPath.exists_parent_join hlead hnames
  have hresolved := resolve_front hlead hlead' hnames hresolve hdirectory
  have hmem : directory ∈ host.nodes :=
    Std.ExtTreeMap.mem_iff_isSome_getElem?.2 (Option.isSome_iff_exists.2 ⟨_, hdir⟩)
  rw [hparent, access_of_resolve hresolved hmem] at hwrite
  intro new
  refine ⟨host.put (Key.childPrefix directory ++ String.ofList last) (.file fileMode new), ?_⟩
  simp only [replaceFile, hempty, hslash, target, hnul, HostPath.names_join hlead hnames,
    List.getLast?_concat, hparent, hresolved, bind, Except.bind, hdir, hsearch, hwrite,
    Bool.and_self, Bool.not_true, if_neg hdots, if_neg (Nat.not_lt.2 hlimit), hfile,
    Bool.false_eq_true, if_false]

/-! ## Paths that lead nowhere -/

/-- The reasons why a path leads nowhere. -/
def Unreachable : HostError → Prop
  | .os code => code = .noEntry ∨ code = .nameTooLong ∨ code = .notDirectory ∨ code = .accessDenied
  | .nulInPath => True
  | .emptyPath => False

lemma unreachable_of_step {segment : List Char} {code : Errno}
    (h : host.step here segment = .error code) : Unreachable (.os code) := by
  rw [step] at h
  split at h
  · cases h
    exact .inl rfl
  · cases h
    exact .inr (.inr (.inl rfl))
  · split_ifs at h
    · cases h
      exact .inr (.inr (.inr rfl))
    · cases h
      exact .inr (.inl rfl)
    · cases h
      exact .inl rfl

lemma unreachable_of_follow {code : Errno} (h : host.follow here segments = .error code) :
    Unreachable (.os code) := by
  induction segments generalizing here with
  | nil => cases h
  | cons segment rest ih =>
      rw [follow_cons] at h
      cases hstep : host.step here segment with
      | error code' =>
          rw [hstep] at h
          cases h
          exact unreachable_of_step hstep
      | ok next =>
          rw [hstep] at h
          exact ih h

/-- There are only a few reasons why a path leads nowhere. -/
theorem unreachable_of_node (h : host.node path = .error error) : Unreachable error := by
  cases hkey : host.resolve path with
  | ok key =>
      rw [node, hkey] at h
      simp only [bind, Except.bind] at h
      split at h
      · cases h
      · cases h
        exact .inl rfl
  | error reason =>
      rw [node, hkey] at h
      cases h
      rw [resolve] at hkey
      split at hkey
      · cases hkey
        trivial
      split at hkey
      · cases hkey
        exact .inl rfl
      split at hkey
      · cases hkey
        exact .inr (.inl rfl)
      · dsimp only at hkey
        cases hfollow : host.follow "/"
            ((Key.segments path.toList).1 :: (Key.segments path.toList).2) with
        | error code =>
            rw [hfollow] at hkey
            cases hkey
            exact unreachable_of_follow hfollow
        | ok there =>
            rw [hfollow] at hkey
            cases hkey

end Host

end Strongbox
