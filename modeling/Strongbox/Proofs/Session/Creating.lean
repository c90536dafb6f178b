import Strongbox.Proofs.Session.Filling
import Strongbox.Proofs.Session.Pool

/-!
# Creating side by side

Several opens of one path run at the same time, each of which may create the file.  An open asks
whether there is a file, and then it creates one or opens the one that is there.  Other opens may go
on in between.

* `Tree.Place` — a key under which there is a regular file, or one can be made.
* `Session.run_openFile`, `Session.run_findBy` — the requests of an open.
* `Pool.Raced` — a file was made between the question of an open and its attempt to create one.
* **`Pool.opened_of_run`** — the opens that were raced fail, and no other one does unless a save
  fails.
-/

namespace Strongbox

/-! ## A place for a file -/

namespace Tree

variable {t t' : Tree} {stamp : Stamp} {key : String} {ino mode : Nat} {there : Bool}

/-- A key in a directory that names a regular file, or as yet nothing. -/
structure Place (t : Tree) (key : String) (there : Bool) : Prop where
  wellFormed : t.WellFormed
  parent : ∃ parent, Key.parent? key = some parent ∧ t.isDir parent = true
  file : there = true → ∃ ino data, t.fileData key = .ok (ino, data)
  free : there = false → t.entries[key]? = none

namespace Place

lemma access (h : t.Place key there) :
    t.access key .existence = if there then .ok () else .error .noEntry := by
  cases there with
  | true =>
      obtain ⟨ino, data, hdata⟩ := h.file rfl
      obtain ⟨inode, hentry, hinode, -⟩ := fileData_ok hdata
      refine bind_eq_ok.2 ⟨inode, node_eq_ok.2 ⟨ino, hentry, hinode⟩, ?_⟩
      exact if_pos (Or.inl rfl)
  | false =>
      obtain ⟨parent, hparent, hdir⟩ := h.parent
      rw [Tree.access, node, lookup_of_parent (h.free rfl) hparent hdir]
      rfl

/-- A change of one inode that leaves files and directories what they are. -/
lemma modify (h : t.Place key there) {change : Inode → Inode}
    (hshape : ∀ inode, t.inodes[ino]? = some inode → inode.SameShape (change inode))
    (hkind : ∀ (inode : Inode) data, inode.kind = .file data →
      ∃ data', (change inode).kind = .file data') : (t.modify ino change).Place key there := by
  refine ⟨h.wellFormed.modify hshape, ?_, fun hthere => ?_, fun hthere => h.free hthere⟩
  · obtain ⟨parent, hparent, hdir⟩ := h.parent
    exact ⟨parent, hparent, (isDir_modify hshape parent).trans hdir⟩
  · obtain ⟨number, data, hdata⟩ := h.file hthere
    obtain ⟨inode, hentry, hinode, hfile⟩ := fileData_ok hdata
    by_cases hnumber : ino = number
    · subst hnumber
      obtain ⟨data', hfile'⟩ := hkind inode data hfile
      refine ⟨ino, data', fileData_eq_ok.2 ⟨change inode, hentry, ?_, hfile'⟩⟩
      rw [inodes_modify, if_pos rfl, hinode]
      rfl
    · refine ⟨number, data, fileData_eq_ok.2 ⟨inode, hentry, ?_, hfile⟩⟩
      rw [inodes_modify, if_neg hnumber, hinode]

lemma chmod (h : t.Place key there) (hok : t.chmod stamp key mode = .ok t') :
    t'.Place key there := by
  obtain ⟨ino, -, rfl⟩ := chmod_ok hok
  exact h.modify (fun _ _ => ⟨rfl, rfl, fun hlimits => ⟨hlimits.size_le, Nat.and_le_right⟩⟩)
    fun _ data hkind => ⟨data, hkind⟩

/-- A file that is there can be opened. -/
lemma openFile (h : t.Place key true) (stamp : Stamp) (flags : OpenFlags) :
    ∃ t', t.openFile stamp key flags = .ok t' ∧ t'.Place key true := by
  obtain ⟨ino, data, hdata⟩ := h.file rfl
  refine ⟨_, openFile_of_fileData hdata flags, ?_⟩
  split
  · obtain ⟨file, -, hfile, hkind⟩ := fileData_ok hdata
    refine h.modify (fun inode hinode => ?_) fun _ _ _ => ⟨[], rfl⟩
    obtain rfl := Option.some.inj (hfile.symm.trans hinode)
    refine ⟨?_, rfl, fun hlimits => ⟨fun new hnew => ?_, hlimits.perm_le⟩⟩
    · rw [Inode.isDir, Inode.isDir, hkind]
      rfl
    · obtain rfl := NodeKind.file.inj hnew
      exact Nat.zero_le _
  · exact h

/-- No file is made where there is one. -/
lemma create_there (h : t.Place key true) (stamp : Stamp) (mode : Nat) :
    t.create stamp key mode = .error .alreadyExists := by
  obtain ⟨ino, data, hdata⟩ := h.file rfl
  obtain ⟨inode, hentry, -⟩ := fileData_ok hdata
  have hcontains : t.contains key ≠ false := by rw [Ne, contains_eq_false, hentry]; nofun
  rw [create, insertNode, if_pos (Bool.ne_false_iff.1 hcontains)]

/-- A file is made where there is none. -/
lemma create_free (h : t.Place key false) (hkey : Key.Canonical key) (stamp : Stamp) (mode : Nat) :
    ∃ t', t.create stamp key mode = .ok t' ∧ t'.Place key true := by
  obtain ⟨parent, hparent, hdir⟩ := h.parent
  have hmask : t.create stamp key mode = t.create stamp key (mode &&& permissionMask) := by
    rw [create, create, Inode.fresh, Inode.fresh, Nat.and_assoc, Nat.and_self]
  obtain ⟨t', hmade, hfilled⟩ : ∃ t', t.create stamp key (mode &&& permissionMask) = .ok t'
      ∧ t.Filled key t.nextIno (mode &&& permissionMask) [] t' :=
    filled_of_create h.wellFormed (h.free rfl) hparent hdir Nat.and_le_right
  have happly : (Change.create key mode).apply stamp t = .ok t' := hmask.trans hmade
  have hpaths : ∀ other ∈ (Change.create key mode).paths, Key.Canonical other :=
    fun other hother => List.mem_singleton.1 hother ▸ hkey
  have hwellFormed : t'.WellFormed := h.wellFormed.apply hpaths happly
  refine ⟨t', happly, hwellFormed, ⟨parent, hparent, ?_⟩, fun _ => ⟨_, _, hfilled.data⟩,
    fun hno => Bool.noConfusion hno⟩
  obtain ⟨pino, pnode, hp, hpnode, hpdir⟩ := isDir_eq_true.1 hdir
  have hne : parent ≠ key := by
    rintro rfl
    rw [h.free rfl] at hp
    cases hp
  have hfresh : pino ≠ t.nextIno := (h.wellFormed.lt_nextIno hpnode).ne
  obtain ⟨kept, hkept, hkeeps⟩ := hfilled.keeps hfresh hpnode
  refine isDir_eq_true.2 ⟨pino, kept, (hfilled.entries hne).trans hp, hkept, ?_⟩
  rwa [Inode.isDir, hkeeps.kind]

end Place

end Tree

/-! ## The requests of an open -/

namespace Session

variable {s : Session} {path : String} {flags : OpenFlags} {mode : Nat}

/-- The rest of an open, when it is known which change finds the file. -/
def findBy (path : String) (mode : Nat) (change : Change) : Call PathHandle := do
  attempt .empty change
  let _ ← Call.request (.change (.chmod path mode))
  return .ofPath path

/-- An open that may create the file asks whether there is one first. -/
lemma run_openFile (hs : s.isMounted = true)
    (hexclusive : flags.contains (.union .create .exclusive) = false)
    (hcreate : flags.contains .create = true) (path : String) (mode : Nat) :
    ∃ next : Int → Script (Except Fault PathHandle),
      (s.openFile path flags mode).run = .ask (.access path .existence) next
        ∧ next 0 = (findBy path mode (.openFile path flags)).run
        ∧ next (-Errno.noEntry.number) = (findBy path mode (.create path mode)).run := by
  rw [openFile, Call.require_bind hs, openOrCreate_creating hexclusive hcreate]
  exact ⟨_, rfl, rfl, rfl⟩

/-- A step of an open is one request, and the open goes on by its code. -/
lemma run_attempt_bind {β : Type} (change : Change) (next : Unit → Call β) :
    (attempt .empty change >>= next).run
      = .ask (.change change) fun code : Int => match check "open" code with
        | .ok _ => (next ()).run
        | .error fault => .done (.error fault) := by
  refine congrArg (Script.ask (.change change)) (funext fun code : Int => ?_)
  show Script.bind
    (discard (ExceptT.mk (.done (FaultSlot.empty.check "open" code).1) : Call Nat)).run
    (ExceptT.bindCont next) = _
  rw [check_slot]
  cases check "open" code <;> rfl

/-- The permission bits are set once the file was found, whatever comes of that. -/
lemma run_findBy (path : String) (mode : Nat) (change : Change) :
    ∃ next : Int → Script (Except Fault PathHandle),
      (findBy path mode change).run = .ask (.change change) next
        ∧ next 0 = .ask (.change (.chmod path mode)) (fun _ => .done (.ok (.ofPath path)))
        ∧ ∀ code : Errno, 0 < code.number →
          next (-code.number) = .done (.error (.told "open" code)) := by
  rw [findBy, run_attempt_bind]
  refine ⟨_, rfl, rfl, fun code hcode => ?_⟩
  rw [check_failure "open" hcode]

end Session

/-! ## A place that is held open -/

namespace Timeline

variable {line line' : Timeline} {key path : String} {there : Bool} {flags : OpenFlags} {mode : Nat}

/-- A container is open in which there is a file under a key, or can be. -/
def HasPlace (key : String) (there : Bool) (line : Timeline) : Prop :=
  ∃ c, line.machine.engine.opened = some c ∧ c.tree.Place key there

/-- Something has happened that neither made the file nor removed it, and left its directory. -/
def Leaves (key : String) (line line' : Timeline) : Prop :=
  ∀ there, line.HasPlace key there → line'.HasPlace key there

namespace HasPlace

variable (suite : CipherSuite) (thread : Thread)

lemma answer_access (h : line.HasPlace key there) (hkey : Key.normalize path = .ok key) :
    ∃ (code : Int) (m : Machine), line.machine.answer suite line.moment thread
        (.access path .existence) = (code, m)
      ∧ (there = true ∧ code = 0 ∨ there = false ∧ code = -Errno.noEntry.number)
      ∧ (line.goOn m).HasPlace key there := by
  obtain ⟨c, hopened, hplace⟩ := h
  have hholds : line.Holds c line.machine.host := ⟨hopened, rfl⟩
  obtain ⟨m, hanswer, hm⟩ := hholds.answer_access suite thread path .existence
  refine ⟨_, m, hanswer, ?_, c, hm.opened, hplace⟩
  rw [Tree.atPath_of_normalize hkey, hplace.access]
  cases there with
  | true => exact .inl ⟨rfl, rfl⟩
  | false => exact .inr ⟨rfl, rfl⟩

/-- A change is carried out, or the place stays as it is. -/
lemma answer_change (h : line.HasPlace key there) {asked resolved : Change}
    (hresolve : asked.resolve = .ok resolved) (htaken : asked.taken = 0) :
    ∃ (t : Tree) (code : Int) (m : Machine), t.Place key there
      ∧ line.machine.answer suite line.moment thread (.change asked) = (code, m)
      ∧ ((∃ t', resolved.apply line.moment.stamp t = .ok t'
          ∧ (code = 0 ∧ (∀ now, t'.Place key now → (line.goOn m).HasPlace key now)
            ∨ code = -Errno.ioFailure.number ∧ (line.goOn m).HasPlace key there))
        ∨ ∃ failure, resolved.apply line.moment.stamp t = .error failure
          ∧ code = -failure.number ∧ (line.goOn m).HasPlace key there) := by
  obtain ⟨c, hopened, hplace⟩ := h
  have hholds : line.Holds c line.machine.host := ⟨hopened, rfl⟩
  obtain ⟨code, m, c', host', hanswer, hm, hcases⟩ :=
    hholds.answer_change_cases suite thread hresolve htaken
  refine ⟨c.tree, code, m, hplace, hanswer, ?_⟩
  rcases hcases with ⟨t', ht', ⟨hcode, hc'⟩ | ⟨hcode, hc'⟩⟩ | ⟨failure, hfailure, hcode, hc'⟩
  · exact .inl ⟨t', ht', .inl ⟨hcode, fun now hnow => ⟨c', hm.opened, hc' ▸ hnow⟩⟩⟩
  · exact .inl ⟨t', ht', .inr ⟨hcode, c', hm.opened, hc' ▸ hplace⟩⟩
  · exact .inr ⟨failure, hfailure, hcode, c', hm.opened, hc' ▸ hplace⟩

/-- A file is made where there is none, unless the save fails. -/
lemma answer_create (h : line.HasPlace key there) (hkey : Key.normalize path = .ok key)
    (mode : Nat) :
    ∃ (code : Int) (m : Machine), line.machine.answer suite line.moment thread
        (.change (.create path mode)) = (code, m)
      ∧ (there = true ∧ code = -Errno.alreadyExists.number ∧ (line.goOn m).HasPlace key true
        ∨ there = false ∧ code = 0 ∧ (line.goOn m).HasPlace key true
        ∨ there = false ∧ code = -Errno.ioFailure.number ∧ (line.goOn m).HasPlace key false) := by
  have hresolve : (Change.create path mode).resolve = .ok (.create key mode) := by
    rw [Change.resolve, hkey]
    rfl
  obtain ⟨t, code, m, hplace, hanswer, hcases⟩ := h.answer_change suite thread hresolve rfl
  refine ⟨code, m, hanswer, ?_⟩
  cases there with
  | true =>
      have hexists : (Change.create key mode).apply line.moment.stamp t
          = .error .alreadyExists := hplace.create_there _ mode
      rcases hcases with ⟨t', ht', -⟩ | ⟨failure, hfailure, hcode, hm⟩
      · cases hexists.symm.trans ht'
      · obtain rfl := Except.error.inj (hexists.symm.trans hfailure)
        exact .inl ⟨rfl, hcode, hm⟩
  | false =>
      obtain ⟨made, hmade, hnow⟩ : ∃ made,
          (Change.create key mode).apply line.moment.stamp t = .ok made ∧ made.Place key true :=
        hplace.create_free (Key.normalize_canonical hkey) line.moment.stamp mode
      rcases hcases with ⟨t', ht', ⟨hcode, hm⟩ | ⟨hcode, hm⟩⟩ | ⟨failure, hfailure, -⟩
      · obtain rfl := Except.ok.inj (hmade.symm.trans ht')
        exact .inr (.inl ⟨rfl, hcode, hm true hnow⟩)
      · exact .inr (.inr ⟨rfl, hcode, hm⟩)
      · cases hmade.symm.trans hfailure

/-- A file that is there is opened, unless the save of a cut file fails. -/
lemma answer_openFile (h : line.HasPlace key true) (hkey : Key.normalize path = .ok key)
    (flags : OpenFlags) :
    ∃ (code : Int) (m : Machine), line.machine.answer suite line.moment thread
        (.change (.openFile path flags)) = (code, m)
      ∧ (code = 0 ∨ code = -Errno.ioFailure.number) ∧ (line.goOn m).HasPlace key true := by
  have hresolve : (Change.openFile path flags).resolve = .ok (.openFile key flags) := by
    rw [Change.resolve, hkey]
    rfl
  obtain ⟨t, code, m, hplace, hanswer, hcases⟩ := h.answer_change suite thread hresolve rfl
  obtain ⟨found, hfound, hnow⟩ : ∃ found,
      (Change.openFile key flags).apply line.moment.stamp t = .ok found ∧ found.Place key true :=
    hplace.openFile line.moment.stamp flags
  refine ⟨code, m, hanswer, ?_⟩
  rcases hcases with ⟨t', ht', ⟨hcode, hm⟩ | ⟨hcode, hm⟩⟩ | ⟨failure, hfailure, -⟩
  · obtain rfl := Except.ok.inj (hfound.symm.trans ht')
    exact ⟨.inl hcode, hm true hnow⟩
  · exact ⟨.inr hcode, hm⟩
  · cases hfound.symm.trans hfailure

/-- New permission bits change nothing about the place. -/
lemma answer_chmod (h : line.HasPlace key there) (hkey : Key.normalize path = .ok key)
    (mode : Nat) :
    ∃ (code : Int) (m : Machine), line.machine.answer suite line.moment thread
        (.change (.chmod path mode)) = (code, m) ∧ (line.goOn m).HasPlace key there := by
  have hresolve := Change.resolve_chmod hkey mode
  obtain ⟨t, code, m, hplace, hanswer, hcases⟩ := h.answer_change suite thread hresolve rfl
  refine ⟨code, m, hanswer, ?_⟩
  rcases hcases with ⟨t', ht', ⟨-, hm⟩ | ⟨-, hm⟩⟩ | ⟨failure, -, -, hm⟩
  · exact hm there (hplace.chmod ht')
  · exact hm
  · exact hm

end HasPlace

end Timeline

/-! ## Races -/

namespace Exchange

/-- Whether somebody asked if there is a file. -/
def asksExistence : Exchange → Bool
  | ⟨.access _ .existence, _⟩ => true
  | _ => false

/-- Whether a file was to be created. -/
def creates : Exchange → Bool
  | ⟨.change (.create _ _), _⟩ => true
  | _ => false

/-- The code that a step of an open was answered with, if it was to find the file. -/
def finding? : Exchange → Option Int
  | ⟨.change (.create _ _), code⟩ => some code
  | ⟨.change (.openFile _ _), code⟩ => some code
  | _ => none

/-- Whether a file was made. -/
def made (e : Exchange) : Bool :=
  e.creates && e.finding?.any (0 ≤ ·)

/-- Whether a file could not be found because a save has failed. -/
def unsaved (e : Exchange) : Bool :=
  e.finding? = some (-(Errno.ioFailure.number : Int))

end Exchange

namespace Pool

variable {ι : Type} {i j : ι} {e : Exchange} {log between : List (ι × Exchange)}

/-- Somebody has made a file after an open had asked whether there is one, and before it tried to
create one. -/
def Raced (i : ι) (log : List (ι × Exchange)) : Prop :=
  ∃ between, Gap Exchange.asksExistence Exchange.creates i between log
    ∧ ∃ entry ∈ between, entry.2.made = true

/-- A save has failed with which an open would have found its file. -/
def Unsaved (i : ι) (log : List (ι × Exchange)) : Prop :=
  ∃ e, (i, e) ∈ log ∧ e.unsaved = true

/-- The number of requests that a script has made. -/
def requests [DecidableEq ι] (i : ι) (log : List (ι × Exchange)) : Nat :=
  log.countP fun entry => entry.1 = i

lemma raced_snoc : Raced i (log ++ [(j, e)]) ↔ Raced i log
    ∨ j = i ∧ e.creates = true ∧ ∃ between, AskedSince Exchange.asksExistence i between log
      ∧ ∃ entry ∈ between, entry.2.made = true := by
  constructor
  · rintro ⟨between, hgap, hmade⟩
    rcases gap_snoc.1 hgap with hbefore | ⟨hj, hcreates, hasked⟩
    · exact .inl ⟨between, hbefore, hmade⟩
    · exact .inr ⟨hj, hcreates, between, hasked, hmade⟩
  · rintro (⟨between, hgap, hmade⟩ | ⟨hj, hcreates, between, hasked, hmade⟩)
    · exact ⟨between, gap_snoc.2 (.inl hgap), hmade⟩
    · exact ⟨between, gap_snoc.2 (.inr ⟨hj, hcreates, hasked⟩), hmade⟩

lemma unsaved_snoc : Unsaved i (log ++ [(j, e)]) ↔ Unsaved i log ∨ j = i ∧ e.unsaved = true := by
  constructor
  · rintro ⟨e', hmem, hunsaved⟩
    rcases List.mem_append.1 hmem with hmem | hmem
    · exact .inl ⟨e', hmem, hunsaved⟩
    · obtain ⟨rfl, rfl⟩ := Prod.mk.inj (List.mem_singleton.1 hmem)
      exact .inr ⟨rfl, hunsaved⟩
  · rintro (⟨e', hmem, hunsaved⟩ | ⟨rfl, hunsaved⟩)
    · exact ⟨e', List.mem_append_left _ hmem, hunsaved⟩
    · exact ⟨e, List.mem_append_right _ (List.mem_singleton_self _), hunsaved⟩

lemma requests_snoc [DecidableEq ι] (i j : ι) (e : Exchange) (log : List (ι × Exchange)) :
    requests i (log ++ [(j, e)]) = requests i log + if j = i then 1 else 0 := by
  rw [requests, List.countP_append, requests]
  simp

lemma not_raced_nil : ¬ Raced i ([] : List (ι × Exchange)) :=
  fun ⟨_, hgap, _⟩ => not_gap_nil hgap

lemma not_unsaved_nil : ¬ Unsaved i ([] : List (ι × Exchange)) :=
  fun ⟨_, hmem, _⟩ => nomatch hmem

/-- What has happened in a gap stands in the log. -/
lemma Gap.subset {asks acts : Exchange → Bool} (h : Gap asks acts i between log) :
    between ⊆ log := by
  obtain ⟨before, act, hfirst, -, ⟨question, -, hlast⟩, -⟩ := h
  intro entry hmem
  exact hfirst.subset (List.mem_append_left _ (hlast.subset (List.mem_cons_of_mem _ hmem)))

/-! ## Opens side by side -/

/-- What an open is asked for. -/
structure Opening where
  path : String
  flags : OpenFlags
  mode : Nat

/-- An open that may create the file and need not. -/
structure Opening.Creates (a : Opening) (key : String) : Prop where
  key : Key.normalize a.path = .ok key
  create : a.flags.contains .create = true
  shared : a.flags.contains (.union .create .exclusive) = false

variable [DecidableEq ι] {s : Session} {openings : ι → Opening} {key : String}
  {first there : Bool} {p q : Pool ι (Except Fault PathHandle)} {suite : CipherSuite}
  {threads : ι → Thread} {script : Script (Except Fault PathHandle)}

omit [DecidableEq ι] in
/-- Opens of one path that may create the file. -/
structure Opens (s : Session) (openings : ι → Opening) (key : String) (there : Bool)
    (p : Pool ι (Except Fault PathHandle)) : Prop where
  mounted : s.isMounted = true
  opening : ∀ i, (openings i).Creates key
  script : ∀ i, p.scripts i
    = (s.openFile (openings i).path (openings i).flags (openings i).mode).run
  place : p.line.HasPlace key there

/-- How far an open has come. -/
inductive Stage (s : Session) (a : Opening) (there : Bool) (i : ι) (log : List (ι × Exchange)) :
    Script (Except Fault PathHandle) → Prop
  | fresh (hraced : ¬ Raced i log) (hsaved : ¬ Unsaved i log) (hcount : requests i log = 0) :
      Stage s a there i log (s.openFile a.path a.flags a.mode).run
  /-- It has learnt that there is a file. -/
  | opening (hraced : ¬ Raced i log) (hsaved : ¬ Unsaved i log) (hcount : requests i log = 1)
      (hthere : there = true) :
      Stage s a there i log (Session.findBy a.path a.mode (.openFile a.path a.flags)).run
  /-- It has learnt that there was none. -/
  | creating {between : List (ι × Exchange)} (hraced : ¬ Raced i log) (hsaved : ¬ Unsaved i log)
      (hcount : requests i log = 1) (hasked : AskedSince Exchange.asksExistence i between log)
      (hthere : there = true ↔ ∃ entry ∈ between, entry.2.made = true) :
      Stage s a there i log (Session.findBy a.path a.mode (.create a.path a.mode)).run
  /-- Only the permission bits are left to be set. -/
  | found (hraced : ¬ Raced i log) (hsaved : ¬ Unsaved i log) (hcount : requests i log = 2) :
      Stage s a there i log
        (.ask (.change (.chmod a.path a.mode)) fun _ => .done (.ok (.ofPath a.path)))
  | opened (hraced : ¬ Raced i log) (hsaved : ¬ Unsaved i log) :
      Stage s a there i log (.done (.ok (.ofPath a.path)))
  | raced (hraced : Raced i log) :
      Stage s a there i log (.done (.error (.told "open" .alreadyExists)))
  | unsaved (hraced : ¬ Raced i log) (hunsaved : Unsaved i log) :
      Stage s a there i log (.done (.error (.told "open" .ioFailure)))

/-- A request of another open may make the file. -/
lemma Stage.other {a : Opening} (h : Stage s a there i log script) (hj : j ≠ i) (e : Exchange) :
    Stage s a (there || e.made) i (log ++ [(j, e)]) script := by
  have hraced : Raced i (log ++ [(j, e)]) ↔ Raced i log :=
    raced_snoc.trans (or_iff_left fun h => hj h.1)
  have hunsaved : Unsaved i (log ++ [(j, e)]) ↔ Unsaved i log :=
    unsaved_snoc.trans (or_iff_left fun h => hj h.1)
  have hcount : requests i (log ++ [(j, e)]) = requests i log := by
    rw [requests_snoc, if_neg hj, Nat.add_zero]
  cases h with
  | fresh hr hs hc => exact .fresh (mt hraced.1 hr) (mt hunsaved.1 hs) (hcount.trans hc)
  | opening hr hs hc hthere =>
      refine .opening (mt hraced.1 hr) (mt hunsaved.1 hs) (hcount.trans hc) ?_
      rw [hthere, Bool.true_or]
  | @creating between hr hs hc hasked hthere =>
      refine .creating (mt hraced.1 hr) (mt hunsaved.1 hs) (hcount.trans hc) (hasked.snoc hj e) ?_
      rw [Bool.or_eq_true, hthere]
      simp [or_and_right, exists_or]
  | found hr hs hc => exact .found (mt hraced.1 hr) (mt hunsaved.1 hs) (hcount.trans hc)
  | opened hr hs => exact .opened (mt hraced.1 hr) (mt hunsaved.1 hs)
  | raced hr => exact .raced (hraced.2 hr)
  | unsaved hr hu => exact .unsaved (mt hraced.1 hr) (hunsaved.2 hu)

/-- Every open has come somewhere.  If there was a file from the beginning, none was made. -/
def Opened (s : Session) (openings : ι → Opening) (key : String) (first : Bool)
    (log : List (ι × Exchange)) (q : Pool ι (Except Fault PathHandle)) : Prop :=
  ∃ there, q.line.HasPlace key there
    ∧ (first = true → there = true ∧ ∀ entry ∈ log, entry.2.made = false)
    ∧ ∀ i, Stage s (openings i) there i log (q.scripts i)

lemma Opens.opened (h : p.Opens s openings key there) :
    Opened s openings key there [] p := by
  refine ⟨there, h.place, fun hthere => ⟨hthere, fun _ hmem => nomatch hmem⟩, fun i => ?_⟩
  rw [h.script i]
  exact .fresh not_raced_nil not_unsaved_nil rfl

/-- The opens go on after one of them has made a request. -/
lemma Opened.answer {asked : Request} {next : asked.Reply → Script (Except Fault PathHandle)}
    {thread : Thread} {reply : asked.Reply} {m : Machine} {now : Bool}
    (hanswer : q.line.machine.answer suite q.line.moment thread asked = (reply, m))
    (hfirst : first = true → there = true ∧ ∀ entry ∈ log, entry.2.made = false)
    (hstages : ∀ j, Stage s (openings j) there j log (q.scripts j))
    (hnow : (there || (Exchange.mk asked reply).made) = now)
    (hmade : there = true → (Exchange.mk asked reply).made = false)
    (hplace : (q.line.goOn m).HasPlace key now)
    (hself : Stage s (openings i) now i (log ++ [(i, ⟨asked, reply⟩)]) (next reply)) :
    Opened s openings key first (log ++ [(i, q.exchange suite thread asked)])
      (q.answered suite thread i asked next) := by
  rw [exchange_of_answer hanswer, answered_of_answer hanswer]
  subst hnow
  refine ⟨_, hplace, fun hthere => ?_, fun j => ?_⟩
  · obtain ⟨htrue, hnone⟩ := hfirst hthere
    refine ⟨by rw [htrue, Bool.true_or], fun entry hmem => ?_⟩
    rcases List.mem_append.1 hmem with hmem | hmem
    · exact hnone entry hmem
    · rw [List.mem_singleton.1 hmem]
      exact hmade htrue
  · show Stage s (openings j) _ j _ (Function.update q.scripts i (next reply) j)
    by_cases hj : i = j
    · subst hj
      rwa [Function.update_self]
    · rw [Function.update_of_ne (Ne.symm hj)]
      exact (hstages j).other hj _

omit [DecidableEq ι] in
/-- A request that creates nothing is not raced. -/
lemma not_raced_snoc (hraced : ¬ Raced i log) (hcreates : e.creates = false) :
    ¬ Raced i (log ++ [(j, e)]) := by
  rw [raced_snoc, not_or]
  exact ⟨hraced, fun h => Bool.false_ne_true (hcreates.symm.trans h.2.1)⟩

omit [DecidableEq ι] in
/-- A file that nobody has made since the question can be created. -/
lemma not_raced_of_asked (hraced : ¬ Raced i log)
    (hasked : AskedSince Exchange.asksExistence i between log)
    (hnone : ¬ ∃ entry ∈ between, entry.2.made = true) (e : Exchange) :
    ¬ Raced i (log ++ [(i, e)]) := by
  rw [raced_snoc, not_or]
  refine ⟨hraced, fun ⟨_, _, since, hsince, hmade⟩ => hnone ?_⟩
  rwa [hasked.unique hsince]

omit [DecidableEq ι] in
lemma not_unsaved_snoc (hsaved : ¬ Unsaved i log) (hunsaved : e.unsaved = false) :
    ¬ Unsaved i (log ++ [(j, e)]) := by
  rw [unsaved_snoc, not_or]
  exact ⟨hsaved, fun h => Bool.false_ne_true (hunsaved.symm.trans h.2)⟩

lemma requests_snoc_self (i : ι) (e : Exchange) (log : List (ι × Exchange)) :
    requests i (log ++ [(i, e)]) = requests i log + 1 := by
  rw [requests_snoc, if_pos rfl]

/-- Whichever open makes the next request, every open has come somewhere. -/
lemma Opened.ask {asked : Request} {next : asked.Reply → Script (Except Fault PathHandle)}
    (h : p.Opens s openings key first) (suite : CipherSuite) (thread : Thread)
    (hq : Opened s openings key first log q) (hscript : q.scripts i = .ask asked next) :
    Opened s openings key first (log ++ [(i, q.exchange suite thread asked)])
      (q.answered suite thread i asked next) := by
  obtain ⟨there, hplace, hfirst, hstages⟩ := hq
  have hkey := (h.opening i).key
  have hi := hstages i
  generalize hold : q.scripts i = script at hi
  cases hi with
  | fresh hraced hsaved hcount =>
      obtain ⟨next', hrun, hopen, hcreate⟩ := Session.run_openFile h.mounted (h.opening i).shared
        (h.opening i).create (openings i).path (openings i).mode
      cases hscript.symm.trans (hold.trans hrun)
      obtain ⟨code, m, hanswer, hcode, hm⟩ := hplace.answer_access suite thread hkey
      refine Opened.answer hanswer hfirst hstages (Bool.or_false _) (fun _ => rfl) hm ?_
      have hcount' : ∀ e, requests i (log ++ [(i, e)]) = 1 := fun e => by
        rw [requests_snoc_self, hcount]
      rcases hcode with ⟨hthere, rfl⟩ | ⟨rfl, rfl⟩
      · rw [hopen]
        exact .opening (not_raced_snoc hraced rfl) (not_unsaved_snoc hsaved rfl) (hcount' _) hthere
      · rw [hcreate]
        refine .creating (not_raced_snoc hraced rfl) (not_unsaved_snoc hsaved rfl) (hcount' _)
          (askedSince_nil rfl log i) ?_
        simp
  | opening hraced hsaved hcount hthere =>
      subst hthere
      obtain ⟨next', hrun, hfound, hfailed⟩ := Session.run_findBy (openings i).path
        (openings i).mode (.openFile (openings i).path (openings i).flags)
      cases hscript.symm.trans (hold.trans hrun)
      obtain ⟨code, m, hanswer, hcode, hm⟩ :=
        hplace.answer_openFile suite thread hkey (openings i).flags
      refine Opened.answer hanswer hfirst hstages (Bool.true_or _) (fun _ => rfl) hm ?_
      rcases hcode with rfl | rfl
      · rw [hfound]
        exact .found (not_raced_snoc hraced rfl) (not_unsaved_snoc hsaved rfl)
          ((requests_snoc_self ..).trans (congrArg (· + 1) hcount))
      · rw [hfailed .ioFailure (by decide)]
        exact .unsaved (not_raced_snoc hraced rfl) (unsaved_snoc.2 (.inr ⟨rfl, rfl⟩))
  | @creating between hraced hsaved hcount hasked hthere =>
      obtain ⟨next', hrun, hfound, hfailed⟩ := Session.run_findBy (openings i).path
        (openings i).mode (.create (openings i).path (openings i).mode)
      cases hscript.symm.trans (hold.trans hrun)
      obtain ⟨code, m, hanswer, hcases⟩ :=
        hplace.answer_create suite thread hkey (openings i).mode
      rcases hcases with ⟨rfl, rfl, hm⟩ | ⟨rfl, rfl, hm⟩ | ⟨rfl, rfl, hm⟩
      · refine Opened.answer hanswer hfirst hstages (Bool.true_or _) (fun _ => rfl) hm ?_
        rw [hfailed .alreadyExists (by decide)]
        exact .raced (raced_snoc.2 (.inr ⟨rfl, rfl, between, hasked, hthere.1 rfl⟩))
      · refine Opened.answer hanswer hfirst hstages rfl nofun hm ?_
        rw [hfound]
        exact .found (not_raced_of_asked hraced hasked (mt hthere.2 Bool.false_ne_true) _)
          (not_unsaved_snoc hsaved rfl) ((requests_snoc_self ..).trans (congrArg (· + 1) hcount))
      · refine Opened.answer hanswer hfirst hstages rfl nofun hm ?_
        rw [hfailed .ioFailure (by decide)]
        exact .unsaved (not_raced_of_asked hraced hasked (mt hthere.2 Bool.false_ne_true) _)
          (unsaved_snoc.2 (.inr ⟨rfl, rfl⟩))
  | found hraced hsaved hcount =>
      cases hscript.symm.trans hold
      obtain ⟨code, m, hanswer, hm⟩ := hplace.answer_chmod suite thread hkey (openings i).mode
      refine Opened.answer hanswer hfirst hstages (Bool.or_false _) (fun _ => rfl) hm ?_
      exact .opened (not_raced_snoc hraced rfl) (not_unsaved_snoc hsaved rfl)
  | opened hraced hsaved => cases hscript.symm.trans hold
  | raced hraced => cases hscript.symm.trans hold
  | unsaved hraced hunsaved => cases hscript.symm.trans hold

/-- An open waits for a request, or it has failed because it was raced or because a save failed, or
it has found the file. -/
lemma Opens.waits_or_ended (h : p.Opens s openings key first)
    (hi : Stage s (openings i) there i log script) :
    (∃ asked next, script = .ask asked next) ∧ requests i log < 3
      ∨ Raced i log ∧ script = .done (.error (.told "open" .alreadyExists))
      ∨ ¬ Raced i log ∧ Unsaved i log ∧ script = .done (.error (.told "open" .ioFailure))
      ∨ ¬ Raced i log ∧ ¬ Unsaved i log ∧ script = .done (.ok (.ofPath (openings i).path)) := by
  cases hi with
  | fresh hraced hsaved hcount =>
      obtain ⟨next, hask, -⟩ := Session.run_openFile h.mounted (h.opening i).shared
        (h.opening i).create (openings i).path (openings i).mode
      exact .inl ⟨⟨.access _ .existence, next, hask⟩, by omega⟩
  | opening hraced hsaved hcount | creating hraced hsaved hcount =>
      obtain ⟨next, hask, -⟩ := Session.run_findBy (openings i).path (openings i).mode _
      exact .inl ⟨⟨.change _, next, hask⟩, by omega⟩
  | found hraced hsaved hcount => exact .inl ⟨⟨_, _, rfl⟩, by omega⟩
  | opened hraced hsaved => exact .inr (.inr (.inr ⟨hraced, hsaved, rfl⟩))
  | raced hraced => exact .inr (.inl ⟨hraced, rfl⟩)
  | unsaved hraced hunsaved => exact .inr (.inr (.inl ⟨hraced, hunsaved, rfl⟩))

lemma Opened.of_run (h : p.Opens s openings key first)
    (hrun : p.Run suite threads (Timeline.Leaves key) log q) :
    Opened s openings key first log q := by
  induction hrun with
  | start => exact h.opened
  | ask run hscript ih => exact ih.ask h suite _ hscript
  | @look log q i next run hscript ih =>
      obtain ⟨there, -, -, hstages⟩ := ih
      rcases h.waits_or_ended (hstages i) with ⟨⟨asked, next', hask⟩, -⟩ | ⟨-, hended⟩
        | ⟨-, -, hended⟩ | ⟨-, -, hended⟩
      · cases hscript.symm.trans hask
      · cases hscript.symm.trans hended
      · cases hscript.symm.trans hended
      · cases hscript.symm.trans hended
  | other run hother ih =>
      obtain ⟨there, hplace, hfirst, hstages⟩ := ih
      exact ⟨there, hother there hplace, hfirst, hstages⟩

/-- Opens of one path that may create the file run side by side, and their requests come in any
order.  Each makes at most three requests.  It fails because the file exists if and only if another
one has made the file between its question for the file and its attempt to create one, and that
never happens where there was a file from the beginning.  Otherwise it succeeds, unless the save of
its file fails. -/
theorem opened_of_run (h : p.Opens s openings key first)
    (hrun : p.Run suite threads (Timeline.Leaves key) log q) :
    (first = true → ∀ i, ¬ Raced i log)
      ∧ ∀ i, (∃ asked next, q.scripts i = .ask asked next) ∧ requests i log < 3
        ∨ Raced i log ∧ q.scripts i = .done (.error (.told "open" .alreadyExists))
        ∨ ¬ Raced i log ∧ Unsaved i log ∧ q.scripts i = .done (.error (.told "open" .ioFailure))
        ∨ ¬ Raced i log ∧ ¬ Unsaved i log
          ∧ q.scripts i = .done (.ok (.ofPath (openings i).path)) := by
  obtain ⟨there, -, hfirst, hstages⟩ := Opened.of_run h hrun
  refine ⟨fun hthere i => ?_, fun i => h.waits_or_ended (hstages i)⟩
  rintro ⟨between, hgap, entry, hmem, hmade⟩
  exact Bool.false_ne_true (((hfirst hthere).2 entry (hgap.subset hmem)).symm.trans hmade)

/-! ## Two opens -/

/-- Two opens for writing of one file. -/
def twoOpenings (i : Bool) : Opening :=
  ⟨if i then "/f" else "//f", OpenFlags.writeOnly.union .create, 0o600⟩

/-- The two opens, on an empty container. -/
def twoOpens : Pool Bool (Except Fault PathHandle) :=
  ⟨fun i => (Session.small.openFile (twoOpenings i).path (twoOpenings i).flags
    (twoOpenings i).mode).run, .small .empty⟩

lemma twoOpens_opens : twoOpens.Opens .small twoOpenings "/f" false := by
  have hshared : (OpenFlags.writeOnly.union .create).contains (.union .create .exclusive)
      = false := by decide
  have hcreate : (OpenFlags.writeOnly.union .create).contains .create = true := by decide
  refine ⟨rfl, fun i => ⟨?_, hcreate, hshared⟩, fun _ => rfl, _, rfl,
    Tree.wellFormed_empty _, ⟨"/", rfl, by decide +kernel⟩, nofun, fun _ => by decide +kernel⟩
  cases i <;> decide +kernel

/-- Two opens that take turns both find the file. -/
theorem opened_after_turns :
    twoOpens.Opens .small twoOpenings "/f" false
      ∧ ∃ (log : List (Bool × Exchange)) (q : Pool Bool (Except Fault PathHandle)),
        twoOpens.Run .standard (fun i => if i then mainThread else 7) (Timeline.Leaves "/f") log q
          ∧ ∀ i, ¬ Raced i log ∧ ¬ Unsaved i log
            ∧ q.scripts i = .done (.ok (.ofPath (twoOpenings i).path)) := by
  refine ⟨twoOpens_opens, ?_⟩
  have hstart : twoOpens.Run .standard (fun i => if i then mainThread else 7)
      (Timeline.Leaves "/f") [] twoOpens := .start
  obtain ⟨log, run⟩ := hstart.play [true, true, true, false, false, false]
  refine ⟨log, _, run, fun i => ?_⟩
  have hended : (twoOpens.play .standard (fun i => if i then mainThread else 7)
      [true, true, true, false, false, false]).scripts i
      = .done (.ok (.ofPath (twoOpenings i).path)) :=
    Script.eq_done (by cases i <;> decide +kernel)
  rcases (opened_of_run twoOpens_opens run).2 i with ⟨⟨asked, next, hask⟩, -⟩ | ⟨-, hraced⟩
    | ⟨-, -, hunsaved⟩ | hopened
  · cases hended.symm.trans hask
  · cases hended.symm.trans hraced
  · cases hended.symm.trans hunsaved
  · exact hopened

/-- Two opens that both ask for the file before either of them creates it: one fails because the
file exists. -/
theorem exists_after_questions :
    twoOpens.Opens .small twoOpenings "/f" false
      ∧ ∃ (log : List (Bool × Exchange)) (q : Pool Bool (Except Fault PathHandle)),
        twoOpens.Run .standard (fun i => if i then mainThread else 7) (fun _ _ => False) log q
          ∧ q.scripts true = .done (.ok (.ofPath "/f"))
          ∧ q.scripts false = .done (.error (.told "open" .alreadyExists)) := by
  refine ⟨twoOpens_opens, ?_⟩
  have hstart : twoOpens.Run .standard (fun i => if i then mainThread else 7) (fun _ _ => False) []
      twoOpens := .start
  obtain ⟨log, run⟩ := hstart.play [true, false, true, false, true]
  exact ⟨log, _, run, Script.eq_done (by decide +kernel), Script.eq_done (by decide +kernel)⟩

end Pool

end Strongbox
