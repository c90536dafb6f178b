import Mathlib.Data.List.DropRight
import Strongbox.Proofs.Cli.Remove
import Strongbox.Proofs.Session.Listing

/-!
# Spellings of a path

A user may put blanks around a path, leave its first slash out and put more of them behind it.  None
of this changes where a walk along the path ends.  So the path that a command goes on with has the
key of what was typed, and the names in that directory, joined to it, have the keys of its children.

* `EntryPath.walk_stripSlashes`, **`EntryPath.normalize_ofArgument`** — the key of an argument.
* `EntryPath.normalize_foldl_join` — the keys of the paths that a walk down from it comes to.
* `Command.Visits` — what the commands that go through a directory come to.
* **`EntryPath.spelled_alike`** — all of this, for every argument.
-/

namespace Strongbox

namespace Key

/-- The key of a path depends only on where a walk along it ends and on whether it holds a NUL. -/
lemma normalize_congr {path path' : String} (hne : path ≠ "") (hne' : path' ≠ "")
    (hnul : '\x00' ∈ path.toList ↔ '\x00' ∈ path'.toList)
    (hwalk : walk path.toList = walk path'.toList) : normalize path = normalize path' := by
  have hsame : ∀ {path : String}, path ≠ "" → normalize path
      = if '\x00' ∈ path.toList then .error .invalid else .ok (ofNames (walk path.toList)) := by
    intro path hne
    split
    · next h => exact normalize_eq_error.2 (.inr ⟨h, rfl⟩)
    · next h => exact normalize_eq_ok.2 ⟨hne, h, rfl⟩
  rw [hsame hne, hsame hne', hwalk]
  simp only [hnul]

/-- A walk starts at the root with or without a slash. -/
lemma walk_slash_cons (path : List Char) : walk ('/' :: path) = walk path := rfl

/-- Slashes behind a path lead nowhere. -/
lemma walk_append_slashes (path : List Char) (count : Nat) :
    walk (path ++ List.replicate count '/') = walk path := by
  induction count with
  | zero => rw [List.replicate_zero, List.append_nil]
  | succ count ih =>
      rw [List.replicate_succ', ← List.append_assoc, walk_append_slash, List.splitOn_nil,
        List.foldl_cons, List.foldl_nil, ih]
      exact List.reverse_reverse _

end Key

namespace EntryPath

/-! ## Arguments -/

/-- An argument with a slash before it. -/
def rooted (trimmed : List Char) : List Char :=
  if trimmed.head? = some '/' then trimmed else '/' :: trimmed

lemma toList_ofArgument (argument : String) :
    (ofArgument argument).toList = stripSlashes (rooted (Text.trim argument).toList) :=
  String.toList_ofList

lemma walk_rooted (trimmed : List Char) : Key.walk (rooted trimmed) = Key.walk trimmed := by
  rw [rooted]
  split
  · rfl
  · exact Key.walk_slash_cons trimmed

lemma head?_rooted (trimmed : List Char) : (rooted trimmed).head? = some '/' := by
  rw [rooted]
  split
  · next h => exact h
  · rfl

lemma mem_rooted {c : Char} (hc : c ≠ '/') (trimmed : List Char) :
    c ∈ rooted trimmed ↔ c ∈ trimmed := by
  rw [rooted]
  split
  · rfl
  · rw [List.mem_cons, or_iff_right hc]

/-- Nothing but slashes is taken away, and one is left if there is nothing else. -/
lemma stripSlashes_cases (path : List Char) : ∃ count,
    (path = List.replicate count '/' ∧ stripSlashes path = ['/'])
      ∨ (path = stripSlashes path ++ List.replicate count '/' ∧ stripSlashes path ≠ []
        ∧ (stripSlashes path).getLast? ≠ some '/') := by
  have hpath : path = Text.trimEndChars (· == '/') path ++ path.rtakeWhile (· == '/') :=
    List.rdropWhile_append_rtakeWhile.symm
  have hclass : ∀ c ∈ path.rtakeWhile (· == '/'), (c == '/') = true :=
    fun c hc => @List.mem_rtakeWhile_imp _ (· == '/') path c hc
  have hslashes : path.rtakeWhile (· == '/')
      = List.replicate (path.rtakeWhile (· == '/')).length '/' :=
    List.eq_replicate_length.2 fun c hc => beq_iff_eq.1 (hclass c hc)
  refine ⟨(path.rtakeWhile (· == '/')).length, ?_⟩
  rw [← hslashes, stripSlashes]
  split
  · next hnil => exact .inl ⟨by rwa [hnil] at hpath, rfl⟩
  · next hne =>
      refine .inr ⟨hpath, hne, fun hlast => ?_⟩
      obtain ⟨_, hslash⟩ := List.mem_getLast?_eq_getLast hlast
      exact List.rdropWhile_last_not (· == '/') path hne (beq_iff_eq.2 hslash.symm)

lemma walk_stripSlashes (path : List Char) : Key.walk (stripSlashes path) = Key.walk path := by
  obtain ⟨count, ⟨hpath, hstripped⟩ | ⟨hpath, -, -⟩⟩ := stripSlashes_cases path
  · rw [hstripped, hpath]
    exact (Key.walk_append_slashes [] count).symm
  · conv_rhs => rw [hpath, Key.walk_append_slashes]

lemma mem_stripSlashes {c : Char} (hc : c ≠ '/') (path : List Char) :
    c ∈ stripSlashes path ↔ c ∈ path := by
  obtain ⟨count, ⟨hpath, hstripped⟩ | ⟨hpath, -, -⟩⟩ := stripSlashes_cases path
  · rw [hstripped, hpath, List.mem_replicate, List.mem_singleton]
    simp [hc]
  · conv_rhs => rw [hpath, List.mem_append, List.mem_replicate]
    simp [hc]

lemma ofArgument_ne_empty (argument : String) : ofArgument argument ≠ "" := by
  intro hempty
  have hnil := toList_ofArgument argument
  rw [hempty] at hnil
  obtain ⟨_, ⟨-, hstripped⟩ | ⟨-, hne, -⟩⟩ :=
    stripSlashes_cases (rooted (Text.trim argument).toList)
  · rw [hstripped] at hnil
    cases hnil
  · exact hne hnil.symm

lemma mem_ofArgument {c : Char} (hc : c ≠ '/') (argument : String) :
    c ∈ (ofArgument argument).toList ↔ c ∈ (Text.trim argument).toList := by
  rw [toList_ofArgument, mem_stripSlashes hc, mem_rooted hc]

/-- No NUL comes into a path. -/
lemma not_nul_mem_ofArgument {argument : String} (h : '\x00' ∉ argument.toList) :
    '\x00' ∉ (ofArgument argument).toList := by
  rw [mem_ofArgument (by decide), Text.trim, String.toList_ofList]
  intro hmem
  exact h ((List.dropWhile_suffix _).subset ((List.rdropWhile_prefix _ _).subset hmem))

/-- **The key of an argument** is that of the text without the blanks around it, and a blank one
names the root. -/
theorem normalize_ofArgument (argument : String) :
    Key.normalize (ofArgument argument) = if Text.trim argument = "" then .ok "/"
      else Key.normalize (Text.trim argument) := by
  split
  · next hblank =>
      rw [ofArgument, hblank]
      rfl
  · next hne =>
      refine Key.normalize_congr (ofArgument_ne_empty argument) hne
        (mem_ofArgument (by decide) argument) ?_
      rw [toList_ofArgument, walk_stripSlashes, walk_rooted]

/-- The path of an argument starts at the root and ends with a slash only there. -/
lemma ends_of_ofArgument (argument : String) :
    (ofArgument argument).toList.head? = some '/'
      ∧ ((ofArgument argument).toList.getLast? = some '/' → ofArgument argument = "/") := by
  have hhead := head?_rooted (Text.trim argument).toList
  rw [toList_ofArgument]
  obtain ⟨count, ⟨-, hstripped⟩ | ⟨hpath, hne, hlast⟩⟩ :=
    stripSlashes_cases (rooted (Text.trim argument).toList)
  · rw [hstripped]
    refine ⟨rfl, fun _ => String.toList_injective ?_⟩
    rw [toList_ofArgument, hstripped]
    rfl
  · rw [hpath, List.head?_append_of_ne_nil _ hne] at hhead
    exact ⟨hhead, fun h => absurd h hlast⟩

/-- Going down by names, a path has the key that one comes to. -/
lemma normalize_foldl_join {path key : String} (hpath : Key.normalize path = .ok key)
    {names : List String} (hnames : ∀ name ∈ names, Key.IsName name.toList) :
    Key.normalize (names.foldl join path) = .ok (names.foldl Key.child key) := by
  induction names generalizing path key with
  | nil => exact hpath
  | cons name rest ih =>
      rw [List.forall_mem_cons] at hnames
      exact ih (normalize_join_name hpath hnames.1) hnames.2

/-- The names in a directory lead to its children. -/
lemma map_normalize_join {t : Tree} {path key : String} (ht : t.WellFormed)
    (hpath : Key.normalize path = .ok key) :
    (t.names key).map (fun name => Key.normalize (join path name)) = (t.childKeys key).map .ok := by
  have hkey := Key.normalize_canonical hpath
  rw [Tree.names, List.map_map]
  refine List.map_congr_left fun child hchild => ?_
  obtain ⟨⟨ino, hino⟩, hp⟩ := (Tree.mem_childKeys ht hkey).1 hchild
  exact normalize_join hpath (ht.canonical hino) hp

end EntryPath

/-! ## Commands that go through a directory -/

namespace Command

variable {suite : CipherSuite} {thread : Thread} {printed : Printed} {line : Timeline}
  {c : OpenContainer} {host : Host} {s : Session} {path key : String}

variable (suite thread printed) in
/-- The attributes of names in a directory are those of its children. -/
lemma runOn_entriesOf (hs : s.isMounted = true) (ht : c.tree.WellFormed)
    (hpath : Key.normalize path = .ok key) {names : List String} (hline : line.Holds c host)
    (hnames : ∀ name ∈ names, name ∈ c.tree.names key) :
    ∃ entries line', (entriesOf s path names).runOn suite thread printed line
        = ((.ok entries, printed), line')
      ∧ line'.Holds c host ∧ entries.map Entry.name = names
      ∧ ∀ entry ∈ entries, c.tree.getattr (Key.child key entry.name) = .ok entry.stat := by
  induction names generalizing line with
  | nil => exact ⟨[], line, rfl, hline, rfl, by simp⟩
  | cons name rest ih =>
      rw [List.forall_mem_cons] at hnames
      have hkey := Key.normalize_canonical hpath
      obtain ⟨child, hchild, rfl⟩ := List.mem_map.1 hnames.1
      obtain ⟨⟨ino, hino⟩, hp⟩ := (Tree.mem_childKeys ht hkey).1 hchild
      have hjoin := EntryPath.normalize_join hpath (ht.canonical hino) hp
      obtain ⟨-, hsame⟩ := Key.child_fileName (ht.canonical hino) hp
      obtain ⟨inode, hinode⟩ := ht.inode_exists hino
      obtain ⟨stat, hstat⟩ := Tree.exists_getattr hino hinode
      obtain ⟨line₁, hcall, hline₁⟩ := Call.runOn_attributes suite thread hline hs "stat"
        (EntryPath.join path (Key.fileName child))
      rw [Tree.atPath_of_normalize hjoin, hstat] at hcall
      obtain ⟨entries, line₂, hrest, hline₂, hmap, hentries⟩ := ih hline₁ hnames.2
      refine ⟨⟨Key.fileName child, stat⟩ :: entries, line₂, ?_, hline₂, ?_, ?_⟩
      · rw [entriesOf, Task.runOn_bind, Task.runOn_call, Session.stat, hcall]
        dsimp only [Except.mapError]
        rw [Task.runOn_bind, hrest]
        rfl
      · rw [List.map_cons, hmap]
      · rw [List.forall_mem_cons]
        refine ⟨?_, hentries⟩
        rw [hsame]
        exact hstat

/-- The output of a listing. -/
def showEntries (path : String) (long json : Bool) (entries : List Entry) : Task Unit :=
  if json then
    Task.putJson [("path", .ofText path), ("entries", .array (entries.map Entry.toJson))]
  else if long then
    Task.putLine (Text.Table.render
      ⟨some ["Mode", "Size", "Modified", "Name"], entries.map Entry.row⟩)
  else entries.forM fun entry => Task.putLine entry.display

/-- The names in a directory that a listing shows. -/
def shownNames (t : Tree) (key : String) (all : Bool) : List String :=
  (t.names key).filter fun name => all || !Key.startsWith name "."

lemma list_eq (s : Session) (argument : String) (long all json : Bool) :
    list s argument long all json = (do
      let stat ← Task.whenTrying s!"Cannot access {EntryPath.ofArgument argument}"
        (Task.call (s.stat (EntryPath.ofArgument argument)))
      if !stat.isDir then Task.fail s!"Not a directory: {EntryPath.ofArgument argument}"
      let names ← Task.call (s.list (EntryPath.ofArgument argument))
      let entries ← entriesOf s (EntryPath.ofArgument argument)
        (names.filter fun name => all || !Key.startsWith name ".")
      showEntries (EntryPath.ofArgument argument) long json entries) := rfl

/-- What a command finds of a directory that goes through it.  Its argument leads to a key, and every
name that it is told there leads to the child of that name. -/
structure Visits (t : Tree) (argument key : String) : Prop where
  listed : Session.ListsAs t key (t.names key)
  visited : (t.names key).map (fun name =>
    Key.normalize (EntryPath.join (EntryPath.ofArgument argument) name))
      = (t.childKeys key).map .ok
  /-- A listing shows the names in the directory with the attributes of its children. -/
  shown : ∀ (suite : CipherSuite) (thread : Thread) {s : Session} {line : Timeline}
    {c : OpenContainer} {host : Host} (printed : Printed) (long all json : Bool),
    s.isMounted = true → line.Holds c host → c.tree = t →
    ∃ entries line', (list s argument long all json).runOn suite thread printed line
        = (showEntries (EntryPath.ofArgument argument) long json entries).runOn suite thread printed
          line'
      ∧ line'.Holds c host ∧ entries.map Entry.name = shownNames t key all
      ∧ ∀ entry ∈ entries, t.getattr (Key.child key entry.name) = .ok entry.stat
  /-- A removal takes the directory and what lies below it. -/
  removed : ∀ (suite : CipherSuite) (thread : Thread) {s : Session} {line : Timeline}
    {snapshot : Tree} (printed : Printed) (removed : Removed), s.isMounted = true →
    line.Inside snapshot t → Removes suite thread snapshot printed (t.under [key]).card removed line
      t (t.under [key]) fun fuel => removeTree s fuel (EntryPath.ofArgument argument) removed

theorem visits_of_normalize {t : Tree} {argument : String} (ht : t.WellFormed)
    (hpath : Key.normalize (EntryPath.ofArgument argument) = .ok key)
    (hdir : t.isDir key = true) : Visits t argument key where
  listed := Tree.listsAs_names ht hdir
  visited := EntryPath.map_normalize_join ht hpath
  removed := fun _ _ _ _ _ _ _ hs hline => removes_tree hs _ hline ht hpath hdir le_rfl
  shown := by
    rintro suite thread s line c host printed long all json hs hline rfl
    obtain ⟨ino, inode, hino, hinode, -⟩ := Tree.isDir_eq_true.1 hdir
    obtain ⟨stat, hstat⟩ := Tree.exists_getattr hino hinode
    obtain ⟨line₁, hcall, hline₁⟩ := Call.runOn_attributes suite thread hline hs "stat"
      (EntryPath.ofArgument argument)
    rw [Tree.atPath_of_normalize hpath, hstat] at hcall
    obtain ⟨line₂, hlist, hline₂⟩ := Tree.listsAs_names ht hdir suite thread line₁ c host s _ hline₁
      rfl hs hpath
    have hshown : ∀ name ∈ shownNames c.tree key all, name ∈ c.tree.names key :=
      fun _ hname => List.mem_of_mem_filter hname
    obtain ⟨entries, line₃, hrun, hline₃, hmap, hentries⟩ :=
      runOn_entriesOf suite thread printed hs ht hpath hline₂ hshown
    refine ⟨entries, line₃, ?_, hline₃, hmap, hentries⟩
    rw [list_eq, Task.runOn_bind, Task.runOn_whenTrying, Task.runOn_call, Session.stat, hcall]
    dsimp only [Except.mapError]
    rw [ht.isDir_of_getattr hstat, hdir, if_neg (by decide), Task.runOn_bind, Task.runOn_call,
      hlist]
    dsimp only [Except.mapError]
    rw [Task.runOn_bind, ← shownNames, hrun]

end Command

/-! ## All arguments -/

namespace EntryPath

/-- **However a path is spelled, a command goes on with its key.**  That is the key of the text
without the blanks around it, with the same error if there is none, and the root's for a blank one.
The path starts with a slash and ends with one only if it is the root's.  If it has a key, a name
joined to it has the key of the name in that directory, at any depth, so the commands that go
through the directory find its children. -/
theorem spelled_alike (argument : String) :
    (Key.normalize (ofArgument argument) = if Text.trim argument = "" then .ok "/"
      else Key.normalize (Text.trim argument)) ∧
    (ofArgument argument).toList.head? = some '/' ∧
    ((ofArgument argument).toList.getLast? = some '/' → ofArgument argument = "/") ∧
    ('\x00' ∉ (Text.trim argument).toList →
      ∃ key, Key.normalize (ofArgument argument) = .ok key ∧
        (∀ name : String, Key.IsName name.toList →
          Key.normalize (join (ofArgument argument) name) = .ok (Key.child key name)) ∧
        (∀ names : List String, (∀ name ∈ names, Key.IsName name.toList) →
          Key.normalize (names.foldl join (ofArgument argument))
            = .ok (names.foldl Key.child key)) ∧
        ∀ t : Tree, t.WellFormed → t.isDir key = true → Command.Visits t argument key) := by
  obtain ⟨hhead, hlast⟩ := ends_of_ofArgument argument
  refine ⟨normalize_ofArgument argument, hhead, hlast, fun hnul => ?_⟩
  obtain ⟨key, hkey⟩ : ∃ key, Key.normalize (ofArgument argument) = .ok key := by
    rw [normalize_ofArgument]
    split
    · exact ⟨_, rfl⟩
    · next hne => exact ⟨_, Key.normalize_eq_ok.2 ⟨hne, hnul, rfl⟩⟩
  exact ⟨key, hkey, fun _ hname => normalize_join_name hkey hname,
    fun _ hnames => normalize_foldl_join hkey hnames,
    fun _ ht hdir => Command.visits_of_normalize ht hkey hdir⟩

/-- A path that leaves a directory and comes back, with a name in it that starts with a blank. -/
theorem spelled_alike_through_dots :
    let t : Tree := .madeBy ⟨.epoch, 0, 0⟩ [.mkdir "/d" 0o755, .create "/d/ e" 0o644,
      .mkdir "/d/a" 0o755, .create "/x" 0o644]
    Key.normalize (ofArgument "\t d/a//..//\u00a0") = .ok "/d"
      ∧ Key.normalize (join (ofArgument "\t d/a//..//\u00a0") " e") = .ok "/d/ e"
      ∧ t.WellFormed ∧ t.isDir "/d" = true ∧ t.childKeys "/d" = ["/d/ e", "/d/a"]
      ∧ Command.Visits t "\t d/a//..//\u00a0" "/d" := by
  intro t
  have ht : t.WellFormed := Tree.wellFormed_madeBy (by decide +kernel)
  have hdir : t.isDir "/d" = true := by decide +kernel
  obtain ⟨-, -, -, hkeyed⟩ := spelled_alike "\t d/a//..//\u00a0"
  obtain ⟨key, hkey, hnamed, -, hvisits⟩ := hkeyed (by decide +kernel)
  have hsame : Key.normalize (ofArgument "\t d/a//..//\u00a0") = .ok "/d" := by decide +kernel
  obtain rfl := Except.ok.inj (hsame.symm.trans hkey)
  exact ⟨hsame, hnamed " e" (by decide +kernel), ht, hdir, by decide +kernel, hvisits t ht hdir⟩

end EntryPath

end Strongbox
