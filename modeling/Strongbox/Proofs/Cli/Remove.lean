import Strongbox.Cli.Commands
import Strongbox.Proofs.Cli.EntryPath
import Strongbox.Proofs.Cli.Task
import Strongbox.Proofs.Session.Inside
import Strongbox.Proofs.Tree.Listing

/-!
# Removing directories with everything below them

A directory is removed inside a transaction, by walking through it and removing one node after the
other.  Whatever happens on the way, the tree has lost exactly the directory and what lies below it,
or nothing.

* `Command.Removes` — a part of the walk that removes some keys and counts them, if it succeeds.
* `Command.removes_entry`, `Command.removes_entries`, **`Command.removes_tree`** — the walk.
* **`Command.removed_or_unchanged`** — the command.
-/

namespace Strongbox

namespace Command

/-! ## Counting -/

namespace Removed

variable {t t' t'' : Tree} {gone gone' : Finset String} {key : String} (removed : Removed)

/-- How much was removed once some more keys of a tree are. -/
def plus (removed : Removed) (t : Tree) (gone : Finset String) : Removed :=
  ⟨removed.files + (gone.filter fun key => t.isDir key = false).card,
    removed.directories + (gone.filter fun key => t.isDir key = true).card⟩

lemma plus_file (h : t.isDir key = false) :
    removed.plus t {key} = { removed with files := removed.files + 1 } := by
  simp [plus, Finset.filter_singleton, h]

lemma plus_directory (h : t.isDir key = true) :
    removed.plus t {key} = { removed with directories := removed.directories + 1 } := by
  simp [plus, Finset.filter_singleton, h]

/-- What goes later is counted as what it was at the beginning. -/
lemma plus_plus (h : Tree.Pruned gone t t') (h' : Tree.Pruned gone' t' t'') :
    (removed.plus t gone).plus t' gone' = removed.plus t (gone ∪ gone') := by
  have hdisjoint := h.disjoint h'
  have hsame : ∀ kind : Bool, (gone'.filter fun key => t'.isDir key = kind)
      = gone'.filter fun key => t.isDir key = kind := by
    intro kind
    refine Finset.filter_congr fun key hkey => ?_
    rw [h.isDir (Finset.disjoint_right.1 hdisjoint hkey)]
  have hcard : ∀ kind : Bool, ((gone ∪ gone').filter fun key => t.isDir key = kind).card
      = (gone.filter fun key => t.isDir key = kind).card
        + (gone'.filter fun key => t.isDir key = kind).card := by
    intro kind
    rw [Finset.filter_union,
      Finset.card_union_of_disjoint (Finset.disjoint_filter_filter hdisjoint)]
  simp only [plus, hsame, hcard, Nat.add_assoc]

end Removed

/-! ## The walk -/

/-- The removal of one entry of a directory, where `walk` removes a directory with everything below
it. -/
def removeEntry (s : Session) (walk : String → Removed → Task Removed) (path : String)
    (removed : Removed) (name : String) : Task Removed := do
  let child := EntryPath.join path name
  if ← Task.call (s.isDirectory child) then walk child removed
  else
    Task.whenTrying s!"Cannot remove {child}" (Task.call (s.unlink child))
    return { removed with files := removed.files + 1 }

/-- The removal of a directory in which nothing is left. -/
def removeEmptied (s : Session) (path : String) (removed : Removed) : Task Removed := do
  Task.whenTrying s!"Cannot remove directory {path}" (Task.call (s.rmdir path))
  return { removed with directories := removed.directories + 1 }

/-- A walk removes the entries of a directory before the directory. -/
lemma removeTree_succ (s : Session) (fuel : Nat) (path : String) (removed : Removed) :
    removeTree s (fuel + 1) path removed = (do
      let names ← Task.call (s.list path)
      let removed ← names.foldlM (removeEntry s (removeTree s fuel) path) removed
      removeEmptied s path removed) := rfl

/-- A call that fails is another failure. -/
lemma whenTrying_ne_tooDeep (text : String) (fault : Fault) (path : String) :
    (Failure.ofFault fault).whenTrying text ≠ tooDeep path := by
  simp [Failure.whenTrying, Failure.ofFault, tooDeep, Failure.because]

/-- A part of the walk that removes some keys inside a transaction.  With enough fuel it comes to
the same with any, and never runs out of it.  If it succeeds, these keys are gone, nothing else is,
and they are counted. -/
def Removes (suite : CipherSuite) (thread : Thread) (snapshot : Tree) (printed : Printed)
    (enough : Nat) (removed : Removed) (line : Timeline) (t : Tree) (gone : Finset String)
    (task : Nat → Task Removed) : Prop :=
  ∃ outcome line' t',
    (∀ fuel, enough ≤ fuel →
      (task fuel).runOn suite thread printed line = ((outcome, printed), line'))
    ∧ (∀ path, outcome ≠ .error (tooDeep path)) ∧ line'.Inside snapshot t'
    ∧ ∀ now, outcome = .ok now → Tree.Pruned gone t t' ∧ now = removed.plus t gone

section Walk

variable {suite : CipherSuite} {thread : Thread} {snapshot : Tree} {printed : Printed}
  {enough : Nat} {removed : Removed} {line line' : Timeline} {t : Tree} {gone gone' : Finset String}
  {task task' : Nat → Task Removed} {s : Session} {path key child : String}

namespace Removes

/-- One part of the walk after the other. -/
lemma bind (next : Nat → Removed → Task Removed)
    (h : Removes suite thread snapshot printed enough removed line t gone task)
    (hnext : ∀ {line' t'}, line'.Inside snapshot t' → Tree.Pruned gone t t' →
      Removes suite thread snapshot printed enough (removed.plus t gone) line' t' gone'
        fun fuel => next fuel (removed.plus t gone)) :
    Removes suite thread snapshot printed enough removed line t (gone ∪ gone')
      fun fuel => task fuel >>= next fuel := by
  obtain ⟨outcome, line', t', hrun, hdeep, hline', hok⟩ := h
  cases outcome with
  | error failure =>
      refine ⟨.error failure, line', t', fun fuel hfuel => ?_, hdeep, hline', fun now hnow => ?_⟩
      · rw [Task.runOn_bind, hrun fuel hfuel]
      · cases hnow
  | ok now =>
      obtain ⟨hpruned, rfl⟩ := hok now rfl
      obtain ⟨outcome, line'', t'', hrun', hdeep', hline'', hok'⟩ := hnext hline' hpruned
      refine ⟨outcome, line'', t'', fun fuel hfuel => ?_, hdeep', hline'', fun now hnow => ?_⟩
      · rw [Task.runOn_bind, hrun fuel hfuel]
        exact hrun' fuel hfuel
      · obtain ⟨hpruned', rfl⟩ := hok' now hnow
        exact ⟨hpruned.trans hpruned', removed.plus_plus hpruned hpruned'⟩

/-- Something was looked at before. -/
lemma congr (h : Removes suite thread snapshot printed enough removed line' t gone task')
    (hrun : ∀ fuel, enough ≤ fuel → (task fuel).runOn suite thread printed line
      = (task' fuel).runOn suite thread printed line') :
    Removes suite thread snapshot printed enough removed line t gone task := by
  obtain ⟨outcome, line'', t', hrun', hrest⟩ := h
  exact ⟨outcome, line'', t', fun fuel hfuel => (hrun fuel hfuel).trans (hrun' fuel hfuel), hrest⟩

/-- A call that is told how its change went. -/
lemma of_call {call : Call Unit} {outcome : Except Errno Tree} {fault : Errno → Fault}
    (hcall : call.runOn suite thread line = ((outcome.map fun _ => ()).mapError fault, line'))
    (hline' : line'.Inside snapshot (outcome.toOption.getD t)) (text : String) {now : Removed}
    (hok : ∀ t', outcome = .ok t' → Tree.Pruned gone t t' ∧ now = removed.plus t gone) :
    Removes suite thread snapshot printed enough removed line t gone fun _ => do
      Task.whenTrying text (Task.call call)
      return now := by
  cases outcome with
  | error code =>
      refine ⟨.error ((Failure.ofFault (fault code)).whenTrying text), line', t, fun fuel _ => ?_,
        fun path hdeep => ?_, hline', fun now hnow => ?_⟩
      · rw [Task.runOn_bind, Task.runOn_whenTrying, Task.runOn_call, hcall]
        rfl
      · exact whenTrying_ne_tooDeep text _ path (Except.error.inj hdeep)
      · cases hnow
  | ok t' =>
      refine ⟨.ok now, line', t', fun fuel _ => ?_, fun path => by simp, hline',
        fun other hother => ?_⟩
      · rw [Task.runOn_bind, Task.runOn_whenTrying, Task.runOn_call, hcall]
        rfl
      · obtain rfl := Except.ok.inj hother
        exact hok t' rfl

end Removes

variable (hs : s.isMounted = true)

include hs

lemma removes_unlink (hline : line.Inside snapshot t) (ht : t.WellFormed)
    (hpath : Key.normalize path = .ok key) (text : String) :
    Removes suite thread snapshot printed enough removed line t {key} fun _ => do
      Task.whenTrying text (Task.call (s.unlink path))
      return { removed with files := removed.files + 1 } := by
  obtain ⟨line', hcall, hline'⟩ := Call.runOn_change_inside suite thread hline "unlink"
    (show (Change.unlink path).resolve = .ok (.unlink key) by rw [Change.resolve, hpath]; rfl)
  have hunlink : (s.unlink path).runOn suite thread line = _ :=
    (Call.runOn_require_bind hs "unlink" _).trans hcall
  refine .of_call hunlink hline' text fun t' hok => ?_
  obtain ⟨hfile, hpruned⟩ := Tree.pruned_of_unlink ht hok
  exact ⟨hpruned, (removed.plus_file hfile).symm⟩

lemma removes_emptied (hline : line.Inside snapshot t) (ht : t.WellFormed)
    (hpath : Key.normalize path = .ok key) :
    Removes suite thread snapshot printed enough removed line t {key}
      fun _ => removeEmptied s path removed := by
  obtain ⟨line', hcall, hline'⟩ := Call.runOn_change_inside suite thread hline "rmdir"
    (show (Change.rmdir path).resolve = .ok (.rmdir key) by rw [Change.resolve, hpath]; rfl)
  have hrmdir : (s.rmdir path).runOn suite thread line = _ :=
    (Call.runOn_require_bind hs "rmdir" _).trans hcall
  refine .of_call hrmdir hline' s!"Cannot remove directory {path}" fun t' hok => ?_
  obtain ⟨-, hdir, hpruned⟩ := Tree.pruned_of_rmdir ht hok
  exact ⟨hpruned, (removed.plus_directory hdir).symm⟩

/-- What lies in a directory is removed if all directories in it are. -/
lemma removes_entry {walk : Nat → String → Removed → Task Removed}
    (hline : line.Inside snapshot t) (ht : t.WellFormed) (hpath : Key.normalize path = .ok key)
    (hchild : child ∈ t.childKeys key)
    (hwalk : ∀ {line path}, line.Inside snapshot t → Key.normalize path = .ok child →
      t.isDir child = true → Removes suite thread snapshot printed enough removed line t
        (t.under [child]) fun fuel => walk fuel path removed) :
    Removes suite thread snapshot printed enough removed line t (t.under [child])
      fun fuel => removeEntry s (walk fuel) path removed (Key.fileName child) := by
  obtain ⟨c, host, hholds, htransaction, rfl⟩ := hline
  obtain ⟨⟨ino, hino⟩, hp⟩ := (Tree.mem_childKeys ht (Key.normalize_canonical hpath)).1 hchild
  have hjoin := EntryPath.normalize_join hpath (ht.canonical hino) hp
  obtain ⟨line', hasked, hholds'⟩ := Call.runOn_isDirectory suite thread hholds hs
    (EntryPath.join path (Key.fileName child))
  rw [Tree.atPath_of_normalize hjoin] at hasked
  have hline' : line'.Inside snapshot c.tree := ⟨c, host, hholds', htransaction, rfl⟩
  cases hdir : c.tree.isDir child with
  | true =>
      refine (hwalk hline' hjoin hdir).congr fun fuel _ => ?_
      rw [removeEntry, Task.runOn_bind, Task.runOn_call, hasked, hdir]
      rfl
  | false =>
      rw [Tree.under_file ht hino hdir]
      refine (removes_unlink hs hline' ht hjoin
        s!"Cannot remove {EntryPath.join path (Key.fileName child)}").congr fun fuel _ => ?_
      rw [removeEntry, Task.runOn_bind, Task.runOn_call, hasked, hdir]
      rfl

/-- The entries of a directory are removed one after the other. -/
lemma removes_entries {walk : Nat → String → Removed → Task Removed} {children : List String}
    (hline : line.Inside snapshot t) (ht : t.WellFormed) (hpath : Key.normalize path = .ok key)
    (hchildren : ∀ child ∈ children, child ∈ t.childKeys key) (hnodup : children.Nodup)
    (hwalk : ∀ {line t child path removed}, line.Inside snapshot t → t.WellFormed →
      Key.normalize path = .ok child → t.isDir child = true → (t.under [child]).card ≤ enough →
      Removes suite thread snapshot printed enough removed line t (t.under [child])
        fun fuel => walk fuel path removed)
    (henough : (t.under children).card ≤ enough) :
    Removes suite thread snapshot printed enough removed line t (t.under children)
      fun fuel => (children.map Key.fileName).foldlM (removeEntry s (walk fuel) path) removed := by
  induction children generalizing t line removed with
  | nil =>
      have hnone : t.under [] = ∅ := by
        ext key
        simp [Tree.mem_under]
      rw [hnone]
      exact ⟨.ok removed, line, t, fun _ _ => rfl, fun path => by simp, hline, fun now hnow =>
        ⟨.refl ht, (Except.ok.inj hnow).symm⟩⟩
  | cons child rest ih =>
      obtain ⟨hfirst, hrest⟩ := List.forall_mem_cons.1 hchildren
      obtain ⟨hnotin, hnodup'⟩ := List.nodup_cons.1 hnodup
      rw [Tree.under_cons] at henough ⊢
      have hcanonical := Key.normalize_canonical hpath
      refine (removes_entry hs hline ht hpath hfirst fun hline hpath hdir =>
        hwalk hline ht hpath hdir ((Finset.card_le_card Finset.subset_union_left).trans henough)
        ).bind (fun fuel removed => (rest.map Key.fileName).foldlM
          (removeEntry s (walk fuel) path) removed) fun {line' t'} hline' hpruned => ?_
      -- what is left of the siblings is all of them
      have hsame : ∀ other ∈ rest, ∀ {below}, Key.Within below other →
          t'.entries[below]? = t.entries[below]? := fun other hother =>
        hpruned.under_siblings ht (hrest other hother) hcanonical hfirst
          fun he => hnotin (he ▸ hother)
      have hunder : t'.under rest = t.under rest := by
        ext below
        rw [Tree.mem_under, Tree.mem_under]
        refine and_congr_left fun ⟨other, hother, hw⟩ => ?_
        rw [hsame other hother hw]
      rw [← hunder]
      refine ih hline' hpruned.wellFormed (fun other hother => ?_) hnodup' ?_
      · obtain ⟨⟨i, hi⟩, hp⟩ := (Tree.mem_childKeys ht hcanonical).1 (hrest other hother)
        rw [← hsame other hother (.refl other)] at hi
        exact (Tree.mem_childKeys hpruned.wellFormed hcanonical).2 ⟨⟨i, hi⟩, hp⟩
      · rw [hunder]
        exact (Finset.card_le_card Finset.subset_union_right).trans henough

/-- **A walk through a directory**: with as much fuel as there are keys to remove it does not run out
of it, and where it succeeds these keys are gone and counted. -/
theorem removes_tree (enough : Nat) : ∀ {line t key path removed}, line.Inside snapshot t →
    t.WellFormed → Key.normalize path = .ok key → t.isDir key = true →
    (t.under [key]).card ≤ enough →
    Removes suite thread snapshot printed enough removed line t (t.under [key])
      fun fuel => removeTree s fuel path removed := by
  induction enough with
  | zero =>
      intro line t key path removed _ _ _ hdir henough
      obtain ⟨ino, -, hkey, -⟩ := Tree.isDir_eq_true.1 hdir
      have hself : key ∈ t.under [key] :=
        Tree.mem_under.2 ⟨⟨ino, hkey⟩, key, List.mem_singleton_self key, .refl key⟩
      rw [Finset.card_eq_zero.1 (Nat.le_zero.1 henough)] at hself
      cases hself
  | succ enough ih =>
      intro line t key path removed hline ht hpath hdir henough
      obtain ⟨ino, -, hkey, -⟩ := Tree.isDir_eq_true.1 hdir
      have hcanonical := ht.canonical hkey
      have hunder : t.under [key] = t.under (t.childKeys key) ∪ {key} := by
        rw [Tree.under_directory ht hkey, Finset.insert_eq, Finset.union_comm]
      have hchildren : (t.under (t.childKeys key)).card ≤ enough := by
        rw [Tree.under_directory ht hkey,
          Finset.card_insert_of_notMem (Tree.not_mem_under_children ht hcanonical)] at henough
        exact Nat.le_of_succ_le_succ henough
      obtain ⟨c, host, hholds, htransaction, rfl⟩ := hline
      obtain ⟨line', hlist, hholds'⟩ := Call.runOn_list suite thread hholds hs path
      rw [Tree.atPath_of_normalize hpath, Tree.names_of_readdir ht hdir, Tree.names] at hlist
      have hentries : Removes suite thread snapshot printed enough removed line' c.tree
          (c.tree.under (c.tree.childKeys key)) fun fuel =>
            ((c.tree.childKeys key).map Key.fileName).foldlM
              (removeEntry s (removeTree s fuel) path) removed :=
        removes_entries hs ⟨c, host, hholds', htransaction, rfl⟩ ht hpath
          (fun _ hchild => hchild) (c.tree.nodup_childKeys key) ih hchildren
      rw [hunder]
      obtain ⟨outcome, line'', t', hrun, hrest⟩ :=
        hentries.bind (fun _ => removeEmptied s path) fun hline hpruned =>
          removes_emptied hs hline hpruned.wellFormed hpath
      refine ⟨outcome, line'', t', fun fuel hfuel => ?_, hrest⟩
      obtain ⟨fuel, rfl⟩ := Nat.exists_eq_add_of_le' (Nat.one_le_of_lt hfuel)
      dsimp only
      rw [removeTree_succ, Task.runOn_bind, Task.runOn_call, hlist]
      exact hrun fuel (Nat.le_of_succ_le_succ hfuel)

end Walk

/-! ## The command -/

/-- The end of a removal, by how the walk went. -/
def settle (s : Session) : Except Failure Removed → Task Unit
  | .ok removed => do
    Task.call s.completeTransaction
    Task.tell s!"Deleted {removed.files} files and {removed.directories} directories"
  | .error failure => do
    let _ ← Task.attempt s.rollbackTransaction
    throw failure

lemma removeAll_eq (s : Session) (path : String) : removeAll s path = (do
    Task.call s.beginTransaction
    let view ← Task.script Script.view
    let outcome ← ExceptT.lift (removeTree s (view.extent + 1) path ⟨0, 0⟩).run
    settle s outcome) := rfl

/-- What is done with a path other than the root's own, by what it names. -/
def removeFound (s : Session) (path : String) (force : Bool) : Except Fault FileStat → Task Unit
  | .error fault =>
    if force && fault.isErrno .noEntry then return ()
    else Task.whenTrying s!"Cannot remove {path}" (throw (.ofFault fault))
  | .ok found =>
    if !found.isDir then Task.whenTrying s!"Cannot remove {path}" (Task.call (s.unlink path))
    else removeAll s path

lemma remove_eq (s : Session) (argument : String) (force : Bool) :
    remove s argument true force = if EntryPath.ofArgument argument = "/"
      then Task.fail "Refusing to remove the container root"
      else (do
        let found ← Task.attempt (s.stat (EntryPath.ofArgument argument))
        removeFound s (EntryPath.ofArgument argument) force found) := by
  rw [remove]
  split
  · rfl
  · rfl

section Command

variable (suite : CipherSuite) (thread : Thread) {line : Timeline} {c : OpenContainer} {host : Host}
  {s : Session} {path key : String} (hs : s.isMounted = true)

/-- A machine holds no more names than its extent. -/
lemma card_under_le_extent (hline : line.Holds c host) (tops : List String) :
    (c.tree.under tops).card ≤ line.machine.extent := by
  rw [Machine.extent, hline.opened]
  exact (c.tree.card_under_le tops).trans (Nat.le_add_right _ _)

/-- What has attributes tells by them whether it is a directory. -/
lemma stat_isDir (ht : c.tree.WellFormed) (hpath : Key.normalize path = .ok key) :
    (∃ stat, c.tree.atPath path Tree.getattr = .ok stat ∧ stat.isDir = c.tree.isDir key)
      ∨ (∃ code, c.tree.atPath path Tree.getattr = .error code) ∧ c.tree.isDir key = false := by
  rw [Tree.atPath_of_normalize hpath]
  cases hstat : c.tree.getattr key with
  | ok stat => exact Or.inl ⟨stat, rfl, ht.isDir_of_getattr hstat⟩
  | error code =>
      refine Or.inr ⟨⟨code, rfl⟩, Bool.eq_false_iff.2 fun hdir => ?_⟩
      obtain ⟨ino, inode, hkey, hinode, -⟩ := Tree.isDir_eq_true.1 hdir
      obtain ⟨stat, hfound⟩ := Tree.exists_getattr hkey hinode
      rw [hstat] at hfound
      cases hfound

include hs

/-- All of a directory goes, or nothing. -/
lemma runOn_removeAll (printed : Printed) (hline : line.Holds c host) (ht : c.tree.WellFormed)
    (hnone : c.transaction = none) (hpath : Key.normalize path = .ok key)
    (hdir : c.tree.isDir key = true) :
    ∃ outcome printed' line' c' host',
      (removeAll s path).runOn suite thread printed line = ((outcome, printed'), line')
      ∧ line'.Holds c' host' ∧ c'.transaction = none
      ∧ (outcome.isOk = false ∧ c'.tree = c.tree
        ∨ outcome = .ok () ∧ Tree.Pruned (c.tree.under [key]) c.tree c'.tree
          ∧ ∃ removed, removed = Removed.plus ⟨0, 0⟩ c.tree (c.tree.under [key])
            ∧ printed' = { printed with stderr := printed.stderr
              ++ s!"Deleted {removed.files} files and {removed.directories} directories"
              ++ "\n" }) := by
  obtain ⟨line₁, hbegin, hline₁⟩ := Call.runOn_beginTransaction suite thread hs hline hnone
  have htransaction : c.begin.transaction = some ⟨1, c.tree⟩ := by
    rw [OpenContainer.begin, hnone]
  have htree : c.begin.tree = c.tree := by
    rw [OpenContainer.begin, hnone]
  have hcard : (c.tree.under [key]).card ≤ line₁.machine.extent + 1 := by
    rw [← htree]
    exact (card_under_le_extent hline₁ [key]).trans (Nat.le_succ _)
  have hwalk : Removes suite thread c.tree printed (line₁.machine.extent + 1) ⟨0, 0⟩ line₁ c.tree
      (c.tree.under [key]) fun fuel => removeTree s fuel path ⟨0, 0⟩ :=
    removes_tree hs _ ⟨_, _, hline₁, htransaction, htree⟩ ht hpath hdir hcard
  obtain ⟨outcome, line₂, t', hrun, -, hline₂, hok⟩ := hwalk
  have hhead : (removeAll s path).runOn suite thread printed line
      = (settle s outcome).runOn suite thread printed line₂ := by
    rw [removeAll_eq, Task.runOn_bind, Task.runOn_call, hbegin]
    dsimp only [Except.mapError]
    rw [Task.runOn_view_bind, Task.runOn_bind, Task.runOn_lift, hrun _ le_rfl]
  cases outcome with
  | error failure =>
      obtain ⟨outcome, line', c', host', hback, hline', hnone', htree'⟩ :=
        Call.runOn_rollbackTransaction suite thread hs hline₂
      refine ⟨.error failure, printed, line', c', host', hhead.trans ?_, hline', hnone',
        Or.inl ⟨rfl, htree'⟩⟩
      rw [settle, Task.runOn_bind, Task.runOn_attempt, hback]
      rfl
  | ok removed =>
      obtain ⟨hpruned, rfl⟩ := hok removed rfl
      obtain ⟨outcome, line', c', host', hend, hline', hnone', hkept | hlost⟩ :=
        Call.runOn_completeTransaction suite thread hs hline₂
      · obtain ⟨rfl, htree'⟩ := hkept
        refine ⟨.ok (), _, line', c', host', hhead.trans ?_, hline', hnone',
          Or.inr ⟨rfl, htree' ▸ hpruned, _, rfl, rfl⟩⟩
        rw [settle, Task.runOn_bind, Task.runOn_call, hend]
        rfl
      · obtain ⟨hfailed, htree'⟩ := hlost
        cases outcome with
        | ok done => cases hfailed
        | error fault =>
            refine ⟨.error (.ofFault fault), printed, line', c', host', hhead.trans ?_, hline',
              hnone', Or.inl ⟨rfl, htree'⟩⟩
            rw [settle, Task.runOn_bind, Task.runOn_call, hend]
            rfl

/-- A node that is no directory is removed on its own. -/
lemma runOn_removeFile (printed : Printed) (hline : line.Holds c host)
    (hnone : c.transaction = none) (path text : String) :
    ∃ outcome line' c' host',
      (Task.whenTrying text (Task.call (s.unlink path))).runOn suite thread printed line
        = ((outcome, printed), line')
      ∧ line'.Holds c' host' ∧ c'.transaction = none
      ∧ (outcome.isOk = false → c'.tree = c.tree) := by
  obtain ⟨outcome, line', c', host', hcall, hline', hnone', hfailed⟩ :=
    Call.runOn_change_outside suite thread hline hnone "unlink" (.unlink path)
  have hunlink : (s.unlink path).runOn suite thread line = _ :=
    (Call.runOn_require_bind hs "unlink" _).trans hcall
  refine ⟨(outcome.mapError .ofFault).mapError (Failure.whenTrying text), line', c', host', ?_,
    hline', hnone', fun h => hfailed ?_⟩
  · rw [Task.runOn_whenTrying, Task.runOn_call, hunlink]
  · cases outcome with
    | ok done => cases h
    | error fault => rfl

end Command

/-- A removal that has gone through: some keys are gone and nothing else is, links are counted down
by the names that are gone, and it is told how many files and directories that were. -/
structure Cleared (gone : Finset String) (t t' : Tree) (printed printed' : Printed) : Prop where
  pruned : Tree.Pruned gone t t'
  links : ∀ {ino : Nat} {inode kept : Inode}, t.inodes[ino]? = some inode →
    t'.inodes[ino]? = some kept →
    kept.nlink + (gone.filter fun key => t.entries[key]? = some ino).card = inode.nlink
  told : ∃ files directories, files = (gone.filter fun key => t.isDir key = false).card
    ∧ directories = (gone.filter fun key => t.isDir key = true).card
    ∧ printed' = { printed with stderr := printed.stderr
      ++ s!"Deleted {files} files and {directories} directories" ++ "\n" }

section Command

variable (suite : CipherSuite) (thread : Thread) {line : Timeline} {c : OpenContainer} {host : Host}
  {s : Session}

/-- The command, apart from what it says about the root and about its end. -/
lemma runOn_remove (hs : s.isMounted = true) (hline : line.Holds c host) (ht : c.tree.WellFormed)
    (hnone : c.transaction = none) (argument : String) (force : Bool) (printed : Printed) :
    ∃ outcome printed' line' c' host',
      (remove s argument true force).runOn suite thread printed line = ((outcome, printed'), line')
      ∧ line'.Holds c' host' ∧ c'.transaction = none
      ∧ (outcome.isOk = false → c'.tree = c.tree)
      ∧ ∀ {key}, Key.normalize (EntryPath.ofArgument argument) = .ok key →
        c.tree.isDir key = true → outcome = .ok () →
        Cleared (c.tree.under [key]) c.tree c'.tree printed printed' := by
  rw [remove_eq]
  split
  · exact ⟨_, printed, line, c, host, Task.runOn_fail .., hline, hnone, fun _ => rfl,
      fun _ _ hok => by cases hok⟩
  generalize EntryPath.ofArgument argument = path
  obtain ⟨line₁, hstat, hline₁⟩ :=
    Call.runOn_attributes suite thread hline hs "stat" path
  have hhead : (do
      let found ← Task.attempt (s.stat path)
      removeFound s path force found : Task Unit).runOn suite thread printed line
      = (removeFound s path force ((c.tree.atPath path Tree.getattr).mapError (.told "stat"))).runOn
        suite thread printed line₁ := by
    rw [Task.runOn_bind, Task.runOn_attempt, Session.stat, hstat]
  rw [hhead]
  cases hfound : c.tree.atPath path Tree.getattr with
  | error code =>
      -- what cannot be looked at is no directory
      have hnowhere : ∀ {key}, Key.normalize path = .ok key → c.tree.isDir key ≠ true := by
        intro key hpath hdir
        rcases stat_isDir ht hpath with ⟨stat, hstat, -⟩ | ⟨-, hno⟩
        · rw [hfound] at hstat
          cases hstat
        · rw [hdir] at hno
          cases hno
      have hend : ∃ outcome, (removeFound s path force
          (.error (.told "stat" code))).runOn suite thread printed line₁
          = ((outcome, printed), line₁) := by
        rw [removeFound]
        split
        · exact ⟨.ok (), rfl⟩
        · exact ⟨_, Task.runOn_whenTrying ..⟩
      obtain ⟨outcome, hend⟩ := hend
      exact ⟨outcome, printed, line₁, c, host, hend, hline₁, hnone, fun _ => rfl,
        fun hpath hdir => absurd hdir (hnowhere hpath)⟩
  | ok stat =>
      have hkey : ∃ key, Key.normalize path = .ok key := by
        obtain ⟨key, hpath, -⟩ := bind_eq_ok.1 hfound
        exact ⟨key, hpath⟩
      obtain ⟨key, hpath⟩ := hkey
      have hsame : ∀ {other}, Key.normalize path = .ok other → other = key := fun hother =>
        Except.ok.inj (hother.symm.trans hpath)
      have hdir : stat.isDir = c.tree.isDir key := by
        rcases stat_isDir ht hpath with ⟨stat', hstat', hdir⟩ | ⟨⟨code, hstat'⟩, -⟩
        · obtain rfl := Except.ok.inj (hfound.symm.trans hstat')
          exact hdir
        · rw [hfound] at hstat'
          cases hstat'
      show ∃ outcome printed' line' c' host', (if !stat.isDir then
        Task.whenTrying s!"Cannot remove {path}" (Task.call (s.unlink path))
        else removeAll s path).runOn suite thread printed line₁ = _ ∧ _
      rw [hdir]
      cases hisDir : c.tree.isDir key with
      | false =>
          obtain ⟨outcome, line', c', host', hrun, hline', hnone', hfailed⟩ :=
            runOn_removeFile suite thread hs printed hline₁ hnone path s!"Cannot remove {path}"
          refine ⟨outcome, printed, line', c', host', hrun, hline', hnone', hfailed,
            fun hother hdir => ?_⟩
          rw [hsame hother, hisDir] at hdir
          cases hdir
      | true =>
          obtain ⟨outcome, printed', line', c', host', hrun, hline', hnone', hways⟩ :=
            runOn_removeAll suite thread hs printed hline₁ ht hnone hpath hisDir
          refine ⟨outcome, printed', line', c', host', hrun, hline', hnone', fun hfailed => ?_,
            fun hother _ hok => ?_⟩
          · rcases hways with ⟨-, htree⟩ | ⟨hok, -⟩
            · exact htree
            · rw [hok] at hfailed
              cases hfailed
          · rcases hways with ⟨hfailed, -⟩ | ⟨-, hpruned, removed, rfl, hprinted⟩
            · rw [hok] at hfailed
              cases hfailed
            · rw [hsame hother]
              exact ⟨hpruned, hpruned.links ht, _, _, rfl, rfl, by
                rw [hprinted]
                simp only [Removed.plus, Nat.zero_add]⟩

/-- Removing recursively takes a directory with everything below it, or nothing.  It never takes the
root, and it comes to an end: as much fuel as there are keys to remove is as good as any, and lasts
until the end. -/
theorem removed_or_unchanged (hs : s.isMounted = true) (hline : line.Holds c host)
    (ht : c.tree.WellFormed) (hnone : c.transaction = none) (argument : String) (force : Bool)
    (printed : Printed) :
    ∃ outcome printed' line' c' host',
      (remove s argument true force).runOn suite thread printed line = ((outcome, printed'), line')
      ∧ line'.Holds c' host' ∧ c'.transaction = none
      ∧ (outcome.isOk = false → c'.tree = c.tree)
      ∧ (Key.normalize (EntryPath.ofArgument argument) = .ok "/" → outcome.isOk = false)
      ∧ ∀ {key}, Key.normalize (EntryPath.ofArgument argument) = .ok key →
        c.tree.isDir key = true →
        (outcome = .ok () → Cleared (c.tree.under [key]) c.tree c'.tree printed printed')
        ∧ ∀ {begun : Timeline}, begun.Holds c.begin host → ∀ printed removed, ∃ result,
          (∀ path, result.1.1 ≠ .error (tooDeep path))
          ∧ ∀ fuel, (c.tree.under [key]).card ≤ fuel →
            (removeTree s fuel (EntryPath.ofArgument argument) removed).runOn suite thread printed
              begun = result := by
  obtain ⟨outcome, printed', line', c', host', hrun, hline', hnone', hfailed, hdone⟩ :=
    runOn_remove suite thread hs hline ht hnone argument force printed
  refine ⟨outcome, printed', line', c', host', hrun, hline', hnone', hfailed, fun hroot => ?_,
    fun hpath hdir => ⟨hdone hpath hdir, fun hbegun printed removed => ?_⟩⟩
  · -- a tree in order has its root
    cases outcome with
    | error failure => rfl
    | ok done =>
        have hpruned := (hdone hroot ht.root_isDir rfl).pruned
        have hgone : "/" ∈ c.tree.under ["/"] :=
          Tree.mem_under.2 ⟨⟨_, ht.root⟩, "/", List.mem_singleton_self _, .refl _⟩
        have hstill := hpruned.wellFormed.root
        rw [hpruned.entries, if_pos hgone] at hstill
        cases hstill
  · have htransaction : c.begin.transaction = some ⟨1, c.tree⟩ := by
      rw [OpenContainer.begin, hnone]
    have htree : c.begin.tree = c.tree := by
      rw [OpenContainer.begin, hnone]
    obtain ⟨outcome, line'', _, hwalk, hdeep, -⟩ :
        Removes suite thread c.tree printed _ removed _ _ _ _ :=
      removes_tree hs _ ⟨_, _, hbegun, htransaction, htree⟩ ht hpath hdir le_rfl
    exact ⟨_, hdeep, hwalk⟩

/-- A directory with a subdirectory and with a file that is linked from elsewhere, by a path that is
not its key. -/
theorem cleared_after_remove :
    let s : Session := ⟨some "/box", some ⟨1⟩⟩
    ∃ (line : Timeline) (c : OpenContainer) (host : Host), s.isMounted = true
      ∧ line.Holds c host ∧ c.tree.WellFormed ∧ c.transaction = none
      ∧ ∃ printed' line' c' host', (remove s " d/.// " true false).runOn .standard mainThread
          .nothing line = ((.ok (), printed'), line')
        ∧ line'.Holds c' host' ∧ Cleared (c.tree.under ["/d"]) c.tree c'.tree .nothing printed' := by
  intro s
  let moment : Moment := ⟨⟨.epoch, 0, 0⟩, [], .ofNat 0, none⟩
  let host : Host := .bare ⟨4096, 0, 0, 0, 0, 255⟩ "/"
  let holding (tree : Tree) : OpenContainer :=
    ⟨"/box", .key, none, none, ⟨List.replicate 32 0, rfl⟩, tree, none, false⟩
  let lineOf (tree : Tree) : Timeline :=
    ⟨⟨⟨.standard, .empty, some (holding tree)⟩, host⟩, fun _ => moment, 0⟩
  -- a tree of which these things can be computed will do
  suffices h : ∀ tree : Tree, tree.WellFormed → tree.isDir "/d" = true →
      ((remove s " d/.// " true false).runOn .standard mainThread .nothing (lineOf tree)).1.1.isOk
        = true → _ from
    have houter := (Tree.wellFormed_empty moment.stamp).after moment.stamp
      (show (Change.mkdir "/d" 0o755).resolve = _ from rfl)
    have hinner := houter.after moment.stamp (show (Change.mkdir "/d/e" 0o755).resolve = _ from rfl)
    have hmade := hinner.after moment.stamp
      (show (Change.create "/d/e/f" 0o644).resolve = _ from rfl)
    h _ (hmade.after moment.stamp (show (Change.link "/d/e/f" "/g").resolve = _ from rfl))
      (by decide +kernel) (by decide +kernel)
  intro tree htree hdir hok
  have hpath : Key.normalize (EntryPath.ofArgument " d/.// ") = .ok "/d" := by decide +kernel
  have hline : (lineOf tree).Holds (holding tree) host := ⟨rfl, rfl⟩
  obtain ⟨outcome, printed', line', c', host', hrun, hline', -, -, -, hdone⟩ :=
    removed_or_unchanged .standard mainThread (rfl : s.isMounted = true) hline htree rfl " d/.// "
      false .nothing
  rw [hrun] at hok
  obtain ⟨done, rfl⟩ := exists_of_isOk hok
  exact ⟨lineOf tree, holding tree, host, rfl, hline, htree, rfl, printed', line', c', host', hrun,
    hline', (hdone hpath hdir).1 rfl⟩

end Command

end Command

end Strongbox
