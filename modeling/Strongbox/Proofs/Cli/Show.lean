import Strongbox.Proofs.Cli.Visit
import Strongbox.Proofs.Session.Opening
import Strongbox.Proofs.Session.Reading
import Strongbox.Proofs.Tree.Marked
import Strongbox.Proofs.Tree.Storable

/-!
# Showing what is in a container

Some commands only show something.  All but one of them only look.  To print a file it is opened,
which sets the permission bits of the file to what they are, and so marks the file as changed.

* `Command.Shows` — the commands that show something, and the files that they open.
* `Timeline.Reading` — the container is as it was found, but for files that were marked.
* `Command.reading_of_shows` — it stays so, whether the command succeeds or not.
* **`Command.runOn_printFiles`** — what is printed are the contents of the files.
* **`Invocation.marked_of_shows`** — the tree that is sealed in the container after a visit.
* `Invocation.changed_after_cat` — it need not be the tree that was sealed before.
-/

namespace Strongbox

variable {suite : CipherSuite} {thread : Thread} {line line' : Timeline} {c c' : OpenContainer}
  {host host' : Host} {s : Session} {path : String} {named : String → Prop}
  {moments : Nat → Moment} {printed : Printed}

/-! ## A container that is read -/

/-- One of the moments has this time. -/
def Timeline.ReadBy (moments : Nat → Moment) (now : Time) : Prop :=
  ∃ n, now = (moments n).stamp.now

/-- The container is open as it was found, in memory as well as in its file, but for nodes that were
marked as changed. -/
structure Timeline.Reading (suite : CipherSuite) (c : OpenContainer) (named : String → Prop)
    (moments : Nat → Moment) (line : Timeline) : Prop where
  held : ∃ t host, line.Holds { c with tree := t } host
    ∧ ({ c with tree := t } : OpenContainer).Backed suite host ∧ t.WellFormed ∧ t.Storable
    ∧ Tree.Marked named (Timeline.ReadBy moments) c.tree t
  moments : line.moments = moments

section Reading

variable (hsuite : suite.Lawful) (hfits : c.Fits) (hnone : c.transaction = none)
  (hclean : c.dirty = false) (hclock : ∀ n, (moments n).stamp.Storable)

include hsuite hfits hnone hclean hclock

/-- Permission bits that are set to what they are leave a mark, or none where the save fails. -/
lemma OpenContainer.Reset.marks {t : Tree}
    (h : Reset suite moments path host host' { c with tree := t } c')
    (hbacked : ({ c with tree := t } : OpenContainer).Backed suite host) (ht : t.WellFormed)
    (hstorable : t.Storable) (hmarked : Tree.Marked named (Timeline.ReadBy moments) c.tree t)
    (hnamed : ∀ key, Key.normalize path = .ok key → named key) :
    ∃ t', c' = { c with tree := t' }
      ∧ ({ c with tree := t' } : OpenContainer).Backed suite host' ∧ t'.WellFormed ∧ t'.Storable
      ∧ Tree.Marked named (Timeline.ReadBy moments) c.tree t' := by
  obtain ⟨key, ino, inode, n, outcome, hkey, hentry, hinode, hfile, hchange⟩ := h
  have hchmod : (Change.chmod key inode.perm).apply (moments n).stamp t
      = .ok (t.modify ino (.touchChanged (moments n).stamp)) :=
    Tree.chmod_self hentry hinode (ht.limits hinode).perm_le
  cases outcome with
  | error code =>
      -- a change whose save fails is undone
      obtain ⟨rfl, rfl⟩ := OpenContainer.change_error hchange
      exact ⟨t, rfl, hbacked, ht, hstorable, hmarked⟩
  | ok done =>
      obtain ⟨t', happly, ⟨hsaving, -⟩ | ⟨hsaving, -⟩ | ⟨-, hsome, -⟩ | ⟨-, -, hsave, rfl⟩⟩ :=
        OpenContainer.change_ok hchange
      · cases hsaving
      · cases hsaving
      · rw [hnone] at hsome
        cases hsome
      obtain rfl := Except.ok.inj (hchmod.symm.trans happly)
      have hstored : (t.modify ino (.touchChanged (moments n).stamp)).Storable :=
        hstorable.modify fun hold => hold.touchChanged (hclock n)
      have hunmarked : ({ c with tree := t.modify ino (.touchChanged (moments n).stamp) } :
          OpenContainer) = { c with
            tree := t.modify ino (.touchChanged (moments n).stamp), dirty := false } := by
        rw [← hclean]
      refine ⟨_, hunmarked.symm, ?_, ht.modify fun inode _ => inode.sameShape_touchChanged _,
        hstored, hmarked.mark (hnamed key hkey) hentry hinode hfile ⟨n, rfl⟩⟩
      have hafter : ({ c with tree := t.modify ino (.touchChanged (moments n).stamp) } :
          OpenContainer).Fits :=
        ⟨hstored, (nomatch hnone.symm.trans ·), (nomatch hnone.symm.trans ·), hfits.cost⟩
      exact .of_persist hsuite hafter ⟨hbacked.placed.cleaned, hbacked.placed.short⟩ hnone
        ⟨rfl, rfl, rfl, rfl, rfl⟩ rfl hsave

/-- An open for reading, whether it goes through or not.  It goes through for every regular file. -/
lemma Timeline.Reading.openFile (h : line.Reading suite c named moments) (hs : s.isMounted = true)
    (thread : Thread) (hnamed : ∀ key, Key.normalize path = .ok key → named key) :
    ∃ outcome line', (OpenOptions.reading.openFile s path).runOn suite thread line
        = (outcome, line')
      ∧ line'.Reading suite c named moments
      ∧ ∀ found, c.tree.atPath path Tree.fileData = .ok found →
        outcome = .ok ⟨.ofPath path, 0, false, false⟩ := by
  obtain ⟨⟨t, host, hline, hbacked, ht, hstorable, hmarked⟩, rfl⟩ := h
  obtain ⟨outcome, line', hrun, hways⟩ :=
    OpenOptions.runOn_reading suite thread hline hs ht path
  refine ⟨outcome, line', hrun, ?_⟩
  rcases hways with ⟨-, hline', hnone⟩ | ⟨rfl, c', host', hline', hreset⟩
  · refine ⟨⟨⟨t, host, hline', hbacked, ht, hstorable, hmarked⟩, Call.moments_of_runOn hrun⟩, ?_⟩
    rintro ⟨ino, data⟩ hfound
    obtain ⟨key, hkey, hdata⟩ := bind_eq_ok.1 hfound
    exact absurd (bind_eq_ok.2 ⟨key, hkey, hmarked.fileData hdata⟩) (hnone (ino, data))
  · obtain ⟨t', rfl, hbacked', ht', hstorable', hmarked'⟩ := hreset.marks hsuite hfits hnone hclean
      hclock hbacked ht hstorable hmarked hnamed
    exact ⟨⟨⟨t', host', hline', hbacked', ht', hstorable', hmarked'⟩, Call.moments_of_runOn hrun⟩,
      fun _ _ => rfl⟩

end Reading

/-- Looking changes nothing at all. -/
lemma Timeline.Reading.of_looks {α : Type} (h : line.Reading suite c named moments)
    {task : Task α} (hlooks : task.Looks) {result : Except Failure α × Printed}
    (hrun : task.runOn suite thread printed line = (result, line')) :
    line'.Reading suite c named moments := by
  obtain ⟨⟨t, host, hline, hrest⟩, hmoments⟩ := h
  have hafter := hline.run suite thread (hlooks.script printed)
  have hsame := Script.moments_run suite thread (task.run.run printed) line
  rw [Task.runOn] at hrun
  rw [hrun] at hafter hsame
  exact ⟨⟨t, host, hafter, hrest⟩, hsame.trans hmoments⟩

/-! ## Printing files -/

namespace Command

/-- What is done with a file that was opened to be printed. -/
def printOpened (s : Session) (chunk : Nat) (path : String) (file : FileStream) : Task Unit := do
  let (content, file) ←
    Task.whenTrying s!"Cannot read {path}" (Task.stream file (FileStream.readAll s chunk))
  Task.put content
  let _ ← Task.stream file (FileStream.close s)

lemma printFile_eq (s : Session) (chunk : Nat) (argument : String) :
    printFile s chunk argument = (do
      let file ← Task.whenTrying s!"Cannot open {EntryPath.ofArgument argument}"
        (Task.call (OpenOptions.reading.openFile s (EntryPath.ofArgument argument)))
      printOpened s chunk (EntryPath.ofArgument argument) file) := rfl

lemma looks_printOpened (s : Session) (chunk : Nat) (path : String) (file : FileStream) :
    Task.Looks (printOpened s chunk path file) :=
  ((Task.only_stream (FileStream.looks_readAll s chunk) _).whenTrying _).bind fun _ =>
    (Task.only_put _).bind fun _ =>
      (Task.only_stream (FileStream.looks_close s) _).bind fun _ => Task.only_pure _

/-- A regular file is printed whole. -/
lemma runOn_printOpened (thread : Thread) (printed : Printed) (hs : s.isMounted = true)
    (h : line.Holds c host) {key : String}
    {ino chunk : Nat} {data : Bytes} (hkey : Key.normalize path = .ok key)
    (hdata : c.tree.fileData key = .ok (ino, data)) (hchunk : 0 < chunk) :
    ∃ line', (printOpened s chunk path ⟨.ofPath path, 0, false, false⟩).runOn suite thread printed
        line = ((.ok (), { printed with stdout := printed.stdout ++ data }), line') := by
  obtain ⟨position, line', hread, -⟩ := FileStream.runOn_readAll suite thread
    (f := ⟨.ofPath path, 0, false, false⟩) h hs hkey hdata rfl hchunk
  have hclose := FileStream.runOn_close suite thread hs
    (f := ⟨.ofPath path, position, false, false⟩) rfl line'
  refine ⟨line', ?_⟩
  rw [printOpened, Task.runOn_bind, Task.runOn_whenTrying, Task.runOn_stream, hread]
  dsimp only [Except.mapError]
  rw [Task.runOn_bind, Task.runOn_put]
  dsimp only
  rw [Task.runOn_bind, Task.runOn_stream, hclose]
  rfl

/-- The commands that show something, with the files that they open. -/
inductive Shows : Command → List String → Prop
  | ls (path : String) (long all json : Bool) : Shows (.ls path long all json) []
  | stat (path : String) (json : Bool) : Shows (.stat path json) []
  | df (json : Bool) : Shows (.df json) []
  | cat (files : List String) : Shows (.cat files) files

/-- A key that one of some arguments stands for. -/
def NamedBy (arguments : List String) (key : String) : Prop :=
  ∃ argument ∈ arguments, Key.normalize (EntryPath.ofArgument argument) = .ok key

section Printing

variable (hsuite : suite.Lawful) (hfits : c.Fits) (hnone : c.transaction = none)
  (hclean : c.dirty = false) (hclock : ∀ n, (moments n).stamp.Storable) (hs : s.isMounted = true)

include hsuite hfits hnone hclean hclock hs

/-- A file is printed whole, if it is one. -/
lemma runOn_printFile (h : line.Reading suite c named moments) (thread : Thread)
    (printed : Printed) (chunk : Nat) {argument : String}
    (hnamed : ∀ key, Key.normalize (EntryPath.ofArgument argument) = .ok key → named key) :
    ∃ outcome printed' line', (printFile s chunk argument).runOn suite thread printed line
        = ((outcome, printed'), line')
      ∧ line'.Reading suite c named moments
      ∧ (0 < chunk → ∀ {ino data},
        c.tree.atPath (EntryPath.ofArgument argument) Tree.fileData = .ok (ino, data) →
        outcome = .ok () ∧ printed' = { printed with stdout := printed.stdout ++ data }) := by
  obtain ⟨opened, line₁, hopen, hline₁, hfile⟩ :=
    h.openFile hsuite hfits hnone hclean hclock hs thread hnamed
  rw [printFile_eq, Task.runOn_bind, Task.runOn_whenTrying, Task.runOn_call, hopen]
  cases opened with
  | error fault =>
      refine ⟨_, _, line₁, rfl, hline₁, fun _ {ino data} hfound => ?_⟩
      cases hfile (ino, data) hfound
  | ok file =>
      rcases hrun : (printOpened s chunk (EntryPath.ofArgument argument) file).runOn suite thread
        printed line₁ with ⟨⟨outcome, printed'⟩, line₂⟩
      refine ⟨outcome, printed', line₂, hrun,
        hline₁.of_looks (looks_printOpened s chunk _ file) hrun,
        fun hchunk {ino data} hfound => ?_⟩
      obtain rfl := Except.ok.inj (hfile (ino, data) hfound)
      obtain ⟨key, hkey, hdata⟩ := bind_eq_ok.1 hfound
      obtain ⟨⟨t, host, hheld, -, -, -, hmarked⟩, -⟩ := hline₁
      obtain ⟨line₃, hprinted⟩ := runOn_printOpened thread printed hs hheld hkey
        (hmarked.fileData hdata) hchunk
      obtain ⟨hresult, -⟩ := Prod.mk.inj (hrun.symm.trans hprinted)
      exact Prod.mk.inj hresult

/-- Files are printed one behind the other, as far as they are files. -/
theorem runOn_printFiles (h : line.Reading suite c named moments) (thread : Thread)
    (printed : Printed) (chunk : Nat) {files : List String}
    (hnamed : ∀ file ∈ files, ∀ key, Key.normalize (EntryPath.ofArgument file) = .ok key →
      named key) :
    ∃ outcome printed' line', (files.forM (printFile s chunk)).runOn suite thread printed line
        = ((outcome, printed'), line')
      ∧ line'.Reading suite c named moments
      ∧ (0 < chunk → ∀ {contents}, List.Forall₂ (fun file content =>
          ∃ ino, c.tree.atPath (EntryPath.ofArgument file) Tree.fileData = .ok (ino, content))
          files contents →
        outcome = .ok () ∧ printed' = { printed with
          stdout := printed.stdout ++ contents.flatten }) := by
  induction files generalizing line printed with
  | nil =>
      refine ⟨.ok (), printed, line, rfl, h, fun _ {contents} hcontents => ⟨rfl, ?_⟩⟩
      cases hcontents with
      | nil => rw [List.flatten_nil, List.append_nil]
  | cons file files ih =>
      obtain ⟨hfirst, hrest⟩ := List.forall_mem_cons.1 hnamed
      obtain ⟨outcome, printed₁, line₁, hrun, hline₁, hprinted⟩ :=
        runOn_printFile hsuite hfits hnone hclean hclock hs h thread printed chunk hfirst
      have hcons : (file :: files).forM (printFile s chunk)
          = (printFile s chunk file >>= fun _ => files.forM (printFile s chunk)) := rfl
      rw [hcons, Task.runOn_bind, hrun]
      cases outcome with
      | error failure =>
          refine ⟨_, _, line₁, rfl, hline₁, fun hchunk {contents} hcontents => ?_⟩
          cases hcontents with
          | cons hfile _ =>
              obtain ⟨ino, hfound⟩ := hfile
              cases (hprinted hchunk hfound).1
      | ok done =>
          obtain ⟨outcome, printed₂, line₂, hrun', hline₂, hprinted'⟩ := ih hline₁ printed₁ hrest
          refine ⟨outcome, printed₂, line₂, hrun', hline₂, fun hchunk {contents} hcontents => ?_⟩
          cases hcontents with
          | cons hfile hfiles =>
              obtain ⟨ino, hfound⟩ := hfile
              obtain ⟨hok, rfl⟩ := hprinted' hchunk hfiles
              obtain ⟨-, rfl⟩ := hprinted hchunk hfound
              exact ⟨hok, by rw [List.flatten_cons, List.append_assoc]⟩

/-- A command that shows something leaves the container as it was found, but for marks, whether it
succeeds or not. -/
theorem reading_of_shows {command : Command} {files : List String} (hshows : command.Shows files)
    (h : line.Reading suite c (NamedBy files) moments) (thread : Thread) (input : Bytes)
    (printed : Printed) :
    ∃ outcome printed' line', (command.execute s input).runOn suite thread printed line
        = ((outcome, printed'), line')
      ∧ line'.Reading suite c (NamedBy files) moments := by
  have hlooking : Task.Looks (command.execute s input) →
      ∃ outcome printed' line', (command.execute s input).runOn suite thread printed line
          = ((outcome, printed'), line')
        ∧ line'.Reading suite c (NamedBy files) moments := fun hlooks =>
    ⟨_, _, _, rfl, h.of_looks hlooks rfl⟩
  cases hshows with
  | ls path long all json => exact hlooking (looks_list s path long all json)
  | stat path json => exact hlooking (looks_showStat s path json)
  | df json => exact hlooking (looks_showSpace s json)
  | cat =>
      obtain ⟨outcome, printed', line', hrun, hline', -⟩ :=
        runOn_printFiles hsuite hfits hnone hclean hclock hs h thread printed
          FileStream.chunkSize fun file hmem key hkey => ⟨file, hmem, hkey⟩
      exact ⟨outcome, printed', line', hrun, hline'⟩

end Printing

end Command

/-! ## Visits -/

namespace Invocation

variable {start : Timeline} {input rest : Bytes} {printed' : Printed}

/-- A container that was just entered is as it was found. -/
lemma Entered.reading {credential : Credential}
    (h : Entered suite thread start line credential s c) (hsuite : suite.Lawful) (hfits : c.Fits)
    (ht : c.tree.WellFormed) (named : String → Prop) :
    line.Reading suite c named start.moments :=
  ⟨⟨c.tree, line.machine.host, h.holds, h.backed hsuite hfits, ht, hfits.tree, .refl _ _ _⟩,
    h.moments⟩

/-- After a visit by a command that shows something, the container has the tree sealed that it had
before.  Only the nodes that a `cat` names are marked as changed, if they are no directories. -/
theorem marked_of_shows (hsuite : suite.Lawful) (invocation : Invocation) {files : List String}
    (hshows : invocation.command.Shows files) (hvacant : start.machine.engine.Vacant)
    (hclock : ∀ n, (start.moments n).stamp.Storable)
    (henter : (invocation.enter input).runOn suite thread printed start
      = ((.ok (s, rest), printed'), line))
    (hopen : line.machine.engine.opened = some c) (hfits : c.Fits) (ht : c.tree.WellFormed)
    {before : Tree} (hbefore : c.sealedTree suite start.machine.host = some before) :
    ∃ outcome told last after,
      (invocation.mountedTask input).runOn suite thread printed start = ((outcome, told), last)
      ∧ last.machine.engine.Vacant
      ∧ c.sealedTree suite last.machine.host = some after
      ∧ Tree.Marked (Command.NamedBy files) (Timeline.ReadBy start.moments) before after
      ∧ (files = [] → after = before) := by
  obtain ⟨rfl, credential, -, hentered⟩ := invocation.entered_of_enter hvacant henter hopen
  obtain ⟨hnone, hclean⟩ := hentered.fresh
  have hreading := hentered.reading hsuite hfits ht (Command.NamedBy files)
  have hsealed : c.tree = before := by
    obtain ⟨path, hunlock⟩ := hentered.unlocked
    exact ContainerEngine.eq_of_sealedTree hunlock hbefore
  obtain ⟨outcome, told, worked, hrun, hread⟩ := Command.reading_of_shows hsuite hfits hnone hclean
    hclock hentered.held.isMounted hshows hreading thread rest printed'
  obtain ⟨⟨after, host, hworked, hbacked, -, hstorable, hmarked⟩, -⟩ := hread
  obtain ⟨last, hstay, hlast, hsave⟩ := runOn_stay hentered.held
    (Command.works_execute s rest invocation.command) hrun hworked
  refine ⟨outcome, told, last, after, (runOn_visit invocation _ henter).trans hstay, hlast, ?_,
    hsealed ▸ hmarked, fun hfiles => ?_⟩
  · -- without a transaction nothing is rolled back, and a save that fails leaves the file alone
    have hrollback : ({ c with tree := after } : OpenContainer).rollback
        = { c with tree := after } := OpenContainer.rollback_of_none hnone
    rw [hrollback] at hsave
    have hsame : ({ c with tree := after } : OpenContainer).sealedTree suite last.machine.host
        = c.sealedTree suite last.machine.host := rfl
    rw [← hsame]
    rcases hsave with hsave | ⟨hhost, -⟩
    · exact OpenContainer.sealedTree_of_persist hsuite hbacked.placed hstorable hfits.cost hsave
    · rw [hhost]
      exact hbacked.sealedTree_of_clean hnone hclean
  · subst hfiles
    rw [← hsealed]
    refine hmarked.eq_of_none fun key hnamed => ?_
    obtain ⟨argument, hmem, -⟩ := hnamed
    cases hmem

/-- A file that one run has made is printed by the next one. -/
theorem marked_after_cat :
    ∃ outcome told last after,
      ((Sample.invocation (.cat ["/f"])).mountedTask []).runOn .standard mainThread .nothing
        Sample.start = ((outcome, told), last)
      ∧ Sample.container.sealedTree .standard last.machine.host = some after
      ∧ Tree.Marked (Command.NamedBy ["/f"]) (Timeline.ReadBy Sample.start.moments)
        Sample.container.tree after := by
  obtain ⟨outcome, told, last, after, hrun, -, hsealed, hmarked, -⟩ :=
    marked_of_shows CipherSuite.lawful_standard (Sample.invocation (.cat ["/f"])) (.cat ["/f"])
      Sample.vacant Sample.clock (Sample.runOn_enter _ []) rfl Sample.fits Sample.wellFormed
      Sample.sealedTree_eq
  exact ⟨outcome, told, last, after, hrun, hsealed, hmarked⟩

/-- Printing a file does change what is sealed. -/
theorem changed_after_cat :
    ∃ told last after,
      ((Sample.invocation (.cat ["/f"])).mountedTask []).runOn .standard mainThread .nothing
        Sample.start = ((.ok (), told), last)
      ∧ Sample.container.sealedTree .standard Sample.start.machine.host
        = some Sample.container.tree
      ∧ Sample.container.sealedTree .standard last.machine.host = some after
      ∧ after ≠ Sample.container.tree := by
  let work : Task Unit := Command.execute Sample.session [] (.cat ["/f"])
  let ended := work.runOn .standard mainThread .nothing Sample.line
  let after : Tree := (Change.chmod "/f" 0o644).after Sample.later.stamp Sample.tree
  let changed : OpenContainer := { Sample.container with tree := after }
  have hok : ended.1.1.isOk = true := by decide +kernel
  have hopened : ended.2.machine.engine.opened = some changed := by decide +kernel
  have hafter : after.Storable ∧ after ≠ Sample.tree := by decide +kernel
  have hsave : (changed.persist .standard (ended.2.goOn ended.2.machine).moment
      ended.2.machine.host).isOk = true := by decide +kernel
  obtain ⟨done, hdone⟩ := exists_of_isOk hok
  have hrun : work.runOn .standard mainThread .nothing Sample.line
      = ((.ok (), ended.1.2), ended.2) := Prod.ext (Prod.ext hdone rfl) rfl
  obtain ⟨-, credential, -, hentered⟩ := (Sample.invocation (.cat ["/f"])).entered_of_enter
    Sample.vacant (Sample.runOn_enter _ []) rfl
  obtain ⟨last, hstay, -, hlast⟩ := runOn_stay hentered.held
    (Command.works_execute Sample.session [] (.cat ["/f"])) hrun ⟨hopened, rfl⟩
  have hrollback : changed.rollback = changed := OpenContainer.rollback_of_none rfl
  rw [hrollback] at hlast
  obtain hlast | ⟨-, e, hfailed⟩ := hlast
  · have hsealed : Sample.container.sealedTree .standard last.machine.host = some after :=
      OpenContainer.sealedTree_of_persist CipherSuite.lawful_standard (c := changed)
        ⟨Sample.placed.cleaned, Sample.placed.short⟩ hafter.1 Sample.fits.cost hlast
    exact ⟨_, last, after, (runOn_visit _ _ (Sample.runOn_enter _ [])).trans hstay,
      Sample.sealedTree_eq, hsealed, hafter.2⟩
  · rw [hfailed] at hsave
    cases hsave

end Invocation

end Strongbox
