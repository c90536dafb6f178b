import Strongbox.Proofs.Cli.Spelling
import Strongbox.Proofs.Cli.Visit
import Strongbox.Proofs.Host.Replace
import Strongbox.Proofs.Tree.Grown
import Strongbox.Proofs.Tree.Resolution

/-!
# Directories on the way along a path

A directory can be made together with those that are missing on the way to it.  The way is taken as
it is written: each of its parts is put behind the ones before it, and the dots are left to the
store.  Whatever the parts are, each of these paths has the key of the one before it, of its parent,
or of a name in it, and so it can only fail to become a directory where something else stands.

* `EntryPath.Steps` — paths of which each is one step from the one before it.
* `EntryPath.steps_prefixPaths` — the paths on the way along an argument.
* **`Command.runOn_createDirectories`** — the walk along such paths.
* **`Command.made_along`** — the command.
-/

namespace Strongbox

namespace EntryPath

/-! ## The parts of a path -/

/-- The parts of a path are its segments but the empty ones. -/
lemma components_eq (path : String) : components path
    = (((Key.segments path.toList).1 :: (Key.segments path.toList).2).filter (!·.isEmpty)).map
      String.ofList := by
  -- the parts done so far, behind the one that is being read
  let close := fun read : List Char × List String =>
    if read.1.isEmpty then read.2 else String.ofList read.1 :: read.2
  let take := fun (c : Char) (read : List Char × List String) =>
    if c = '/' then ([], close read) else (c :: read.1, read.2)
  have hfold : ∀ cs : List Char, cs.foldr take ([], [])
      = ((Key.segments cs).1, ((Key.segments cs).2.filter (!·.isEmpty)).map String.ofList) := by
    intro cs
    induction cs with
    | nil => rfl
    | cons c cs ih =>
        rw [List.foldr_cons, ih]
        by_cases hc : c = '/'
        · subst hc
          rw [Key.segments_slash]
          cases (Key.segments cs).1 <;> simp [take, close]
        · rw [Key.segments_cons hc]
          simp [take, hc]
  show close (path.toList.foldr take ([], [])) = _
  rw [hfold]
  cases (Key.segments path.toList).1 <;> simp [close]

/-- A part of a path holds neither a slash nor what the path does not hold, and is not empty. -/
lemma mem_components {path part : String} (h : part ∈ components path) :
    part.toList ≠ [] ∧ '/' ∉ part.toList ∧ ∀ c ∈ part.toList, c ∈ path.toList := by
  rw [components_eq] at h
  obtain ⟨segment, hsegment, rfl⟩ := List.mem_map.1 h
  obtain ⟨hmem, hne⟩ := List.mem_filter.1 hsegment
  have hchars := Key.mem_of_mem_segments path.toList segment hmem
  rw [String.toList_ofList]
  exact ⟨by simpa using hne, fun hslash => (hchars '/' hslash).2 rfl, fun c hc => (hchars c hc).1⟩

/-- The path of some parts. -/
def ofParts (parts : List String) : String :=
  "/" ++ "/".intercalate parts

/-- The key that one comes to along some parts. -/
def keyOf (parts : List String) : String :=
  Key.ofNames ((parts.map String.toList).foldl Key.step []).reverse

/-- What parts a path can have. -/
def IsPart (part : String) : Prop :=
  '/' ∉ part.toList ∧ '\x00' ∉ part.toList

lemma toList_ofParts (parts : List String) :
    (ofParts parts).toList = '/' :: ['/'].intercalate (parts.map String.toList) := by
  rw [ofParts, String.toList_append, String.toList_intercalate]
  rfl

lemma walk_ofParts {parts : List String} (h : ∀ part ∈ parts, IsPart part) :
    Key.walk (ofParts parts).toList = ((parts.map String.toList).foldl Key.step []).reverse := by
  rw [toList_ofParts, Key.walk_slash_cons]
  cases parts with
  | nil => rfl
  | cons part rest =>
      have hslash : ∀ name ∈ (part :: rest).map String.toList, '/' ∉ name := by
        intro name hname
        obtain ⟨part, hpart, rfl⟩ := List.mem_map.1 hname
        exact (h part hpart).1
      rw [List.map_cons, Key.walk, HostPath.segments_intercalate hslash]

lemma not_nul_mem_ofParts {parts : List String} (h : ∀ part ∈ parts, IsPart part) :
    '\x00' ∉ (ofParts parts).toList := by
  rw [toList_ofParts]
  induction parts with
  | nil => decide
  | cons part rest ih =>
      rw [List.forall_mem_cons] at h
      have hrest := ih h.2
      cases rest with
      | nil => simpa [List.intercalate] using h.1.2
      | cons second rest => simpa [List.intercalate, h.1.2] using hrest

lemma normalize_ofParts {parts : List String} (h : ∀ part ∈ parts, IsPart part) :
    Key.normalize (ofParts parts) = .ok (keyOf parts) := by
  refine Key.normalize_eq_ok.2 ⟨fun hempty => ?_, not_nul_mem_ofParts h, ?_⟩
  · have htext := toList_ofParts parts
    rw [hempty] at htext
    cases htext
  · rw [walk_ofParts h, keyOf]

/-- The parts of a path lead where the path leads. -/
lemma normalize_eq_keyOf {path : String} (hne : path ≠ "") (hnul : '\x00' ∉ path.toList) :
    Key.normalize path = .ok (keyOf (components path)) := by
  refine Key.normalize_eq_ok.2 ⟨hne, hnul, ?_⟩
  have hskip : ∀ (segments stack : List (List Char)),
      (segments.filter (!·.isEmpty)).foldl Key.step stack = segments.foldl Key.step stack := by
    intro segments
    induction segments with
    | nil => exact fun _ => rfl
    | cons segment rest ih =>
        intro stack
        cases segment with
        | nil => exact ih stack
        | cons c cs => exact ih _
  rw [keyOf, components_eq, List.map_map, Key.walk]
  simp only [Function.comp_def, String.toList_ofList, List.map_id', hskip]

/-! ## Steps -/

/-- Each path leads to the key of the one before it, to its parent, or to a name in it. -/
inductive Steps : String → List String → Prop
  | done {key : String} : Steps key []
  | step {key next path : String} {paths : List String} (hpath : Key.normalize path = .ok next)
      (hnext : next = key ∨ Key.parent? key = some next ∨ Key.parent? next = some key)
      (hrest : Steps next paths) : Steps key (path :: paths)

/-- One more part leads to the same key, to its parent, or to a name in it. -/
lemma keyOf_concat {parts : List String} {part : String} (h : ∀ p ∈ parts ++ [part], IsPart p) :
    keyOf (parts ++ [part]) = keyOf parts
      ∨ Key.parent? (keyOf parts) = some (keyOf (parts ++ [part]))
      ∨ Key.parent? (keyOf (parts ++ [part])) = some (keyOf parts) := by
  have hparts : ∀ p ∈ parts, IsPart p := fun p hp => h p (List.mem_append_left _ hp)
  have hall : ∀ name ∈ ((parts.map String.toList).foldl Key.step []).reverse, Key.IsName name := by
    rw [← walk_ofParts hparts]
    exact Key.walk_isName (not_nul_mem_ofParts hparts)
  have hlast : keyOf (parts ++ [part]) = Key.ofNames
      (Key.step ((parts.map String.toList).foldl Key.step []) part.toList).reverse := by
    rw [keyOf, List.map_append, List.foldl_append]
    rfl
  have hpart : IsPart part := h part (by simp)
  rw [hlast, keyOf]
  generalize (parts.map String.toList).foldl Key.step [] = stack at hall ⊢
  by_cases hname : Key.IsName part.toList
  · refine .inr (.inr ?_)
    rw [Key.step_of_isName hname, List.reverse_cons]
    refine Key.parent?_ofNames fun name hmem => ?_
    rcases List.mem_append.1 hmem with hmem | hmem
    · exact hall name hmem
    · exact List.mem_singleton.1 hmem ▸ hname
  · unfold Key.step
    split
    · exact .inl rfl
    · exact .inl rfl
    · cases stack with
      | nil => exact .inl rfl
      | cons top stack =>
          rw [List.reverse_cons] at hall ⊢
          exact .inr (.inl (Key.parent?_ofNames hall))
    · next hempty hdot hdots =>
        exact absurd ⟨hempty, hdot, hdots, hpart.1, hpart.2⟩ hname

/-- More and more parts are a way of steps. -/
lemma steps_ofParts {parts rest : List String} (h : ∀ part ∈ parts ++ rest, IsPart part) :
    Steps (keyOf parts)
      ((List.range rest.length).map fun n => ofParts (parts ++ rest.take (n + 1))) := by
  induction rest generalizing parts with
  | nil => exact .done
  | cons part rest ih =>
      have happend : parts ++ part :: rest = (parts ++ [part]) ++ rest := by simp
      rw [happend] at h
      have hfirst : ∀ p ∈ parts ++ [part], IsPart p := fun p hp => h p (List.mem_append_left _ hp)
      rw [List.length_cons, List.range_succ_eq_map, List.map_cons, List.map_map]
      refine .step (normalize_ofParts ?_) (keyOf_concat hfirst) ?_
      · simpa using hfirst
      · simpa [Function.comp_def] using ih h

lemma isPart_of_mem_components {path part : String} (hnul : '\x00' ∉ path.toList)
    (h : part ∈ components path) : IsPart part := by
  obtain ⟨-, hslash, hchars⟩ := mem_components h
  exact ⟨hslash, fun hmem => hnul (hchars _ hmem)⟩

/-- The way along a path leads to where the path leads. -/
lemma exists_mem_prefixPaths {path : String} (hne : path ≠ "") (hnul : '\x00' ∉ path.toList) :
    Key.normalize path = .ok "/"
      ∨ ∃ last ∈ Command.prefixPaths path, Key.normalize path = Key.normalize last := by
  have hparts : ∀ part ∈ components path, IsPart part :=
    fun _ hpart => isPart_of_mem_components hnul hpart
  rw [normalize_eq_keyOf hne hnul]
  cases hcomponents : components path with
  | nil => exact .inl rfl
  | cons part rest =>
      rw [hcomponents] at hparts
      refine .inr ⟨ofParts (part :: rest), List.mem_map.2 ⟨rest.length, ?_, ?_⟩,
        (normalize_ofParts hparts).symm⟩
      · rw [hcomponents, List.mem_range]
        exact Nat.lt_succ_self _
      · rw [hcomponents]
        exact congrArg ofParts (List.take_length (l := part :: rest))

/-- The paths of the directories on the way along a path are a way of steps from the root. -/
lemma steps_prefixPaths {path : String} (hnul : '\x00' ∉ path.toList) :
    Steps "/" (Command.prefixPaths path) :=
  @steps_ofParts [] _ fun _ hpart => isPart_of_mem_components hnul hpart

end EntryPath

namespace Command

/-! ## The walk -/

/-- What has become of a tree in which the directories on the way along some paths were made, and
how that went: it fails only where something else stands in the way, and adds only directories of
these paths. -/
structure MadeAlong (paths : List String) (perm : Nat) (t : Tree) (outcome : Except Failure Unit)
    (t' : Tree) : Prop where
  grown : t.Grown (fun key => ∃ path ∈ paths, Key.normalize path = .ok key) perm t'
  ok_iff : outcome = .ok () ↔ ∀ path ∈ paths, ∃ key, Key.normalize path = .ok key
    ∧ t.Unblocked key
  directories : outcome = .ok () → ∀ path ∈ paths, ∃ key, Key.normalize path = .ok key
    ∧ t'.isDir key = true

namespace MadeAlong

variable {path key : String} {paths : List String} {perm : Nat} {t t' t'' : Tree}
  {outcome : Except Failure Unit}

/-- There is nothing to do on no way. -/
lemma nil (ht : t.WellFormed) : MadeAlong [] perm t (.ok ()) t :=
  ⟨.refl ht, by simp, by simp⟩

/-- Something else stands at the first path. -/
lemma blocked (ht : t.WellFormed) (hpath : Key.normalize path = .ok key)
    (hblocked : ¬t.Unblocked key) (failure : Failure) :
    MadeAlong (path :: paths) perm t (.error failure) t where
  grown := .refl ht
  ok_iff := by
    refine iff_of_false nofun fun hall => ?_
    obtain ⟨other, hother, hclear⟩ := hall path (List.mem_cons_self ..)
    obtain rfl := Except.ok.inj (hpath.symm.trans hother)
    exact hblocked hclear
  directories := nofun

/-- The first path leads to a directory, which was there before or was made. -/
lemma cons (ht : t.WellFormed) (hpath : Key.normalize path = .ok key) (hclear : t.Unblocked key)
    (hgrown : t.Grown (· = key) perm t') (hdir : t'.isDir key = true)
    (h : MadeAlong paths perm t' outcome t'') : MadeAlong (path :: paths) perm t outcome t'' where
  grown := by
    refine (hgrown.mono ?_).trans (h.grown.mono ?_)
    · rintro key rfl
      exact ⟨path, List.mem_cons_self .., hpath⟩
    · rintro key ⟨path, hmem, hkey⟩
      exact ⟨path, List.mem_cons_of_mem _ hmem, hkey⟩
  ok_iff := by
    simp only [h.ok_iff, hgrown.unblocked_iff ht, List.forall_mem_cons, hpath, Except.ok.injEq,
      exists_eq_left', hclear, true_and]
  directories hok := by
    rw [List.forall_mem_cons]
    exact ⟨⟨key, hpath, h.grown.isDir_of_isDir hgrown.wellFormed hdir⟩, h.directories hok⟩

end MadeAlong

/-- A step away from a directory that leads to none leads to a name in it. -/
lemma parent_of_missing {t : Tree} {key next : String} (ht : t.WellFormed)
    (hdir : t.isDir key = true) (hmissing : t.isDir next = false)
    (hnext : next = key ∨ Key.parent? key = some next ∨ Key.parent? next = some key) :
    Key.parent? next = some key := by
  obtain ⟨ino, -, hentry, -⟩ := Tree.isDir_eq_true.1 hdir
  rcases hnext with rfl | hup | hdown
  · rw [hdir] at hmissing
    cases hmissing
  · have hroot : key ≠ "/" := by
      rintro rfl
      rw [Key.parent?_root] at hup
      cases hup
    obtain ⟨parent, hparent, hparentDir⟩ := ht.parent hentry hroot
    obtain rfl := Option.some.inj (hup.symm.trans hparent)
    rw [hparentDir] at hmissing
    cases hmissing
  · exact hdown

section Walk

variable {suite : CipherSuite} {thread : Thread} {printed : Printed} {line : Timeline}
  {c : OpenContainer} {host : Host} {s : Session} {path key : String} {paths : List String}
  {mode : Nat} (hs : s.isMounted = true)

include hs

/-- The save that a new directory asks for is that of its request. -/
lemma saves_of_createDirectory (h : (createDirectory s path mode).Saves suite thread printed line) :
    line.machine.Saves suite line.moment (.change (.mkdir path mode)) := by
  have hcall := h.of_whenTrying.of_call
  rw [Session.mkdir, Call.require_bind hs] at hcall
  exact hcall.1

/-- Where its save goes through, a new directory is made as in the tree. -/
lemma runOn_createDirectory (hline : line.Holds c host) (hpath : Key.normalize path = .ok key)
    (hsaves : (createDirectory s path mode).Saves suite thread printed line) :
    ∃ line' dirty host', (createDirectory s path mode).runOn suite thread printed line
        = ((match c.tree.mkdir line.moment.stamp key mode with
            | .ok _ => .ok ()
            | .error code => .error ((Failure.ofFault (.told "mkdir" code)).whenTrying
              s!"Cannot create directory {path}"), printed), line')
      ∧ line'.Holds { c with
          tree := (c.tree.mkdir line.moment.stamp key mode).toOption.getD c.tree
          dirty := dirty } host' := by
  obtain ⟨line', dirty, host', hcall, hline'⟩ := Call.runOn_change_of_saves suite thread
    (.mkdir path mode) hline "mkdir"
    (show (Change.mkdir path mode).resolve = .ok (.mkdir key mode) by
      rw [Change.resolve, hpath]; rfl) (saves_of_createDirectory hs hsaves)
  refine ⟨line', dirty, host', ?_, hline'⟩
  rw [createDirectory, Task.runOn_whenTrying, Task.runOn_call, Session.mkdir,
    Call.runOn_require_bind hs, Call.runOn_discard, hcall]
  dsimp only [Change.apply]
  cases c.tree.mkdir line.moment.stamp key mode <;> rfl

/-- **The walk along paths of which each is one step from the one before it.**  It begins at a
directory. -/
theorem runOn_createDirectories (hsteps : EntryPath.Steps key paths) (hline : line.Holds c host)
    (ht : c.tree.WellFormed) (hdir : c.tree.isDir key = true)
    (hsaves : (createDirectories s mode paths).Saves suite thread printed line) :
    ∃ outcome line' t' dirty host', (createDirectories s mode paths).runOn suite thread printed line
        = ((outcome, printed), line')
      ∧ line'.Holds { c with tree := t', dirty := dirty } host'
      ∧ MadeAlong paths (mode &&& permissionMask) c.tree outcome t' := by
  induction hsteps generalizing line c host with
  | done => exact ⟨.ok (), line, c.tree, c.dirty, host, rfl, hline, .nil ht⟩
  | @step key next path paths hpath hnext hrest ih =>
      obtain ⟨line₁, hasked, hline₁⟩ := Call.runOn_isDirectory suite thread hline hs path
      rw [Tree.atPath_of_normalize hpath] at hasked
      have hask : (Task.call (s.isDirectory path)).runOn suite thread printed line
          = ((.ok (c.tree.isDir next), printed), line₁) := by
        rw [Task.runOn_call, hasked]
        rfl
      have hsaves₁ := hsaves.right hask
      rw [createDirectories, Task.runOn_bind, hask]
      dsimp only
      cases hthere : c.tree.isDir next with
      | true =>
          rw [hthere] at hsaves₁
          obtain ⟨outcome, line', t', dirty, host', hrun, hline', hmade⟩ :=
            ih hline₁ ht hthere hsaves₁
          exact ⟨outcome, line', t', dirty, host', hrun, hline',
            hmade.cons ht hpath (fun _ _ => hthere) (.refl ht) hthere⟩
      | false =>
          rw [hthere] at hsaves₁
          have hcreate : (createDirectory s path mode).Saves suite thread printed line₁ :=
            hsaves₁.left
          have hparent := parent_of_missing ht hdir hthere hnext
          obtain ⟨line₂, dirty, host', hrun, hline₂⟩ :=
            runOn_createDirectory hs hline₁ hpath hcreate
          cases hentry : c.tree.entries[next]? with
          | some ino =>
              have hmkdir : c.tree.mkdir line₁.moment.stamp next mode = .error .alreadyExists :=
                Tree.insertNode_existing _ _ hentry
              have hblocked : ¬c.tree.Unblocked next := fun hclear => by
                rw [hclear ino hentry] at hthere
                cases hthere
              rw [hmkdir] at hrun hline₂
              rw [if_pos Bool.not_false, Task.runOn_bind, hrun]
              exact ⟨_, line₂, c.tree, dirty, host', rfl, hline₂, .blocked ht hpath hblocked _⟩
          | none =>
              obtain ⟨t₁, hmkdir, hmade, hgrown⟩ := Tree.grown_of_mkdir (· = next) ht
                (Key.normalize_canonical hpath) hentry hparent hdir line₁.moment.stamp mode rfl
              rw [hmkdir] at hrun hline₂
              obtain ⟨outcome, line', t', dirty', host'', hrun', hline', hrest⟩ :=
                ih hline₂ hgrown.wellFormed hmade (hsaves₁.right hrun)
              refine ⟨outcome, line', t', dirty', host'', ?_, hline',
                hrest.cons ht hpath ?_ hgrown hmade⟩
              · rw [if_pos Bool.not_false, Task.runOn_bind, hrun]
                exact hrun'
              · intro ino hino
                rw [hentry] at hino
                cases hino

/-- Where there are directories already, nothing is done. -/
lemma runOn_createDirectories_there (hline : line.Holds c host)
    (hthere : ∀ path ∈ paths, ∃ key, Key.normalize path = .ok key ∧ c.tree.isDir key = true) :
    ∃ line', (createDirectories s mode paths).runOn suite thread printed line
        = ((.ok (), printed), line') ∧ line'.Holds c host := by
  induction paths generalizing line with
  | nil => exact ⟨line, rfl, hline⟩
  | cons path paths ih =>
      rw [List.forall_mem_cons] at hthere
      obtain ⟨⟨key, hpath, hdir⟩, hrest⟩ := hthere
      obtain ⟨line₁, hasked, hline₁⟩ := Call.runOn_isDirectory suite thread hline hs path
      rw [Tree.atPath_of_normalize hpath, hdir] at hasked
      obtain ⟨line', hrun, hline'⟩ := ih hline₁ hrest
      refine ⟨line', ?_, hline'⟩
      rw [createDirectories, Task.runOn_bind, Task.runOn_call, hasked]
      exact hrun

end Walk

/-! ## The command -/

lemma execute_mkdir (s : Session) (input : Bytes) (argument : String) (mode : Nat) :
    execute s input (.mkdir argument true mode)
      = createDirectories s mode (prefixPaths (EntryPath.ofArgument argument)) := by
  rw [execute, makeDirectory, if_pos rfl]

/-- **Making a directory with those on the way to it.**  It succeeds exactly if nothing but
directories stands at the paths on the way, and then there are directories at all of them, so that
the same command again finds nothing to do.  In any case no key is removed or given to another
inode, nothing is done to files, and what is new are directories on the way, with the given
permissions. -/
theorem made_along (suite : CipherSuite) (thread : Thread) {line : Timeline} {c : OpenContainer}
    {host : Host} {s : Session} (hs : s.isMounted = true) (hline : line.Holds c host)
    (ht : c.tree.WellFormed) {argument : String} (hnul : '\x00' ∉ argument.toList) (mode : Nat)
    (input : Bytes) (printed : Printed) :
    (execute s input (.mkdir argument true mode)).Saves suite thread printed line →
    ∃ outcome line' t' dirty host',
      (execute s input (.mkdir argument true mode)).runOn suite thread printed line
        = ((outcome, printed), line')
      ∧ line'.Holds { c with tree := t', dirty := dirty } host'
      ∧ MadeAlong (prefixPaths (EntryPath.ofArgument argument)) (mode &&& permissionMask) c.tree
        outcome t'
      ∧ (mode ≤ 0o7777 → mode &&& permissionMask = mode)
      ∧ (outcome = .ok () →
        (∃ key, Key.normalize (EntryPath.ofArgument argument) = .ok key ∧ t'.isDir key = true)
        ∧ ∀ {again : Timeline} {c' : OpenContainer} {host' : Host}, again.Holds c' host' →
          c'.tree = t' → ∃ last,
            (execute s input (.mkdir argument true mode)).runOn suite thread printed again
              = ((.ok (), printed), last)
            ∧ last.Holds c' host') := by
  rw [execute_mkdir]
  have hpath := EntryPath.not_nul_mem_ofArgument hnul
  have hne := EntryPath.ofArgument_ne_empty argument
  generalize EntryPath.ofArgument argument = path at hpath hne ⊢
  intro hsaves
  obtain ⟨outcome, line', t', dirty, host', hrun, hline', hmade⟩ :=
    runOn_createDirectories hs (EntryPath.steps_prefixPaths hpath) hline ht ht.root_isDir hsaves
  refine ⟨outcome, line', t', dirty, host', hrun, hline', hmade, fun hmode => ?_,
    fun hok => ⟨?_, ?_⟩⟩
  · exact Nat.and_two_pow_sub_one_of_lt_two_pow (n := 12) (Nat.lt_succ_of_le hmode)
  · rcases EntryPath.exists_mem_prefixPaths hne hpath with hroot | ⟨last, hlast, hsame⟩
    · exact ⟨"/", hroot, hmade.grown.wellFormed.root_isDir⟩
    · rw [hsame]
      exact hmade.directories hok last hlast
  · intro again c' host' hagain htree
    subst htree
    exact runOn_createDirectories_there hs hagain (hmade.directories hok)

/-- A way through a new directory and out of it again, beside a file. -/
theorem made_along_through_dots :
    let task := execute Invocation.Sample.session [] (.mkdir " a/../b/./c/ " true 0o700)
    ∃ line' t' dirty host',
      task.runOn .standard mainThread .nothing Invocation.Sample.line
        = ((.ok (), .nothing), line')
      ∧ line'.Holds { Invocation.Sample.container with tree := t', dirty := dirty } host'
      ∧ t'.isDir "/a" = true ∧ t'.isDir "/b" = true ∧ t'.isDir "/b/c" = true
      ∧ t'.entries["/f"]? = some 2
      ∧ ∃ last, task.runOn .standard mainThread .nothing line' = ((.ok (), .nothing), last)
        ∧ last.Holds { Invocation.Sample.container with tree := t', dirty := dirty } host' := by
  intro task
  have hpaths : prefixPaths (EntryPath.ofArgument " a/../b/./c/ ")
      = ["/a", "/a/..", "/a/../b", "/a/../b/.", "/a/../b/./c"] := by decide +kernel
  obtain ⟨outcome, line', t', dirty, host', hrun, hline', hmade, -, hdone⟩ :=
    made_along .standard mainThread (rfl : Invocation.Sample.session.isMounted = true)
      (⟨rfl, rfl⟩ : Invocation.Sample.line.Holds Invocation.Sample.container _)
      Invocation.Sample.wellFormed
      (show '\x00' ∉ " a/../b/./c/ ".toList by decide +kernel) 0o700 [] .nothing
      (by decide +kernel)
  rw [hpaths] at hmade
  have hclear : ∀ {path key : String}, Key.normalize path = .ok key →
      Invocation.Sample.tree.entries[key]? = none ∨ Invocation.Sample.tree.isDir key = true →
      ∃ key, Key.normalize path = .ok key ∧ Invocation.Sample.tree.Unblocked key := by
    rintro path key hpath (hfree | hdir)
    · exact ⟨key, hpath, fun ino hino => by rw [hfree] at hino; cases hino⟩
    · exact ⟨key, hpath, fun _ _ => hdir⟩
  have hok : outcome = .ok () := by
    refine hmade.ok_iff.2 ?_
    simp only [List.forall_mem_cons, List.not_mem_nil, false_implies, implies_true, and_true]
    exact ⟨hclear (by decide +kernel : Key.normalize "/a" = .ok "/a") (by decide +kernel),
      hclear (by decide +kernel : Key.normalize "/a/.." = .ok "/") (by decide +kernel),
      hclear (by decide +kernel : Key.normalize "/a/../b" = .ok "/b") (by decide +kernel),
      hclear (by decide +kernel : Key.normalize "/a/../b/." = .ok "/b") (by decide +kernel),
      hclear (by decide +kernel : Key.normalize "/a/../b/./c" = .ok "/b/c") (by decide +kernel)⟩
  subst hok
  have hdirectory : ∀ path key : String, path ∈ ["/a", "/a/..", "/a/../b", "/a/../b/.",
      "/a/../b/./c"] → Key.normalize path = .ok key → t'.isDir key = true := by
    intro path key hmem hpath
    obtain ⟨other, hother, hdir⟩ := hmade.directories rfl path hmem
    obtain rfl := Except.ok.inj (hpath.symm.trans hother)
    exact hdir
  exact ⟨line', t', dirty, host', hrun, hline', hdirectory "/a" "/a" (by simp) rfl,
    hdirectory "/a/../b" "/b" (by simp) rfl, hdirectory "/a/../b/./c" "/b/c" (by simp) rfl,
    hmade.grown.entries (by decide +kernel), (hdone rfl).2 hline' rfl⟩

end Command

end Strongbox
