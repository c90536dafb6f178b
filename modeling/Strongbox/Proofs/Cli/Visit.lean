import Strongbox.Cli.Program
import Strongbox.Proofs.Cli.Task
import Strongbox.Proofs.Cli.Works
import Strongbox.Proofs.Engine.Reopen
import Strongbox.Proofs.Session.Service
import Strongbox.Proofs.Tree.Storable

/-!
# Visiting a container

A command does its work between a mount and an unmount.  What it comes to as a whole, on an engine
that nobody else uses, is told here once, whatever the work is.

* `Timeline.HeldFor` — a session alone holds what is open.
* `Invocation.Entered` — a session alone holds a container that was taken from its file.
* `Invocation.entered_of_enter` — after a mount that goes through.
* `Invocation.runOn_leave` — the unmount, which saves the container, if that is possible.
* **`Invocation.runOn_stay`** — what is done in between ends as the work does.
* `Invocation.Sample` — a container that one run has saved and the next one enters.
-/

namespace Strongbox

/-! ## Sessions that nobody is in the way of -/

/-- A session of a thread alone holds what is open. -/
structure Timeline.HeldFor (line : Timeline) (thread : Thread) (s : Session) : Prop where
  handle : ∃ marker, s.marker = some marker ∧ line.machine.engine.HeldBy marker thread
  alone : line.machine.engine.registry.implicit = ∅

namespace Timeline.HeldFor

variable {suite : CipherSuite} {thread : Thread} {line : Timeline} {s : Session} {α : Type}

lemma isMounted (h : line.HeldFor thread s) : s.isMounted = true := by
  obtain ⟨marker, hmarker, -⟩ := h.handle
  exact Session.isMounted_of_some hmarker

lemma count (h : line.HeldFor thread s) : line.machine.engine.registry.count = 1 := by
  obtain ⟨marker, -, hheld⟩ := h.handle
  rw [hheld.count, h.alone]
  rfl

/-- Work of the thread that holds the container brings nobody else in. -/
lemma run (suite : CipherSuite) (h : line.HeldFor thread s) {script : Script α}
    (hwork : script.Only fun asked => asked.isWork = true) :
    (script.run (Timeline.engine suite) thread line).2.HeldFor thread s := by
  obtain ⟨marker, hmarker, hheld⟩ := h.handle
  obtain ⟨hheld', hcounted⟩ := Service.heldBy_of_answers hheld
    (fun exchange hmem => hwork.of_mem_exchanges hmem)
    (Script.answers_of_run (Timeline.engine suite) thread script line)
  refine ⟨⟨marker, hmarker, hheld'⟩, ?_⟩
  -- a thread is counted besides the handle only if it asks without holding it
  refine Std.ExtTreeSet.eq_empty_iff_forall_not_mem.2 fun other hother => ?_
  rcases (hcounted other).1 hother with hbefore | ⟨-, hne, -⟩
  · rw [h.alone] at hbefore
    exact Std.ExtTreeSet.not_mem_empty hbefore
  · exact hne rfl

lemma of_runOn (h : line.HeldFor thread s) {task : Task α} (hwork : task.Works)
    {printed : Printed} {result : Except Failure α × Printed} {line' : Timeline}
    (hrun : task.runOn suite thread printed line = (result, line')) : line'.HeldFor thread s := by
  have hafter := h.run suite (hwork.script printed)
  rw [Task.runOn] at hrun
  rwa [hrun] at hafter

end Timeline.HeldFor

namespace Invocation

variable {suite : CipherSuite} {thread : Thread} {printed printed' : Printed}
  {start line : Timeline} {s : Session} {input rest : Bytes} {credential : Credential}
  {c : OpenContainer} {host : Host}

/-! ## Mounting -/

lemma located_ok {s s' : Session} {path : String} {line' : Timeline}
    (h : ((Session.setPath path).run.run s).run (Timeline.engine suite) thread line
      = ((.ok (), s'), line')) :
    s.marker = none ∧ s'.marker = none ∧ line' = line := by
  have houtcome := (Session.Lifecycle.ends s (.setPath path)).of_run (Timeline.engine suite) thread
    line
  have hanswers := Script.answers_of_run (Timeline.engine suite) thread
    ((Session.setPath path).run.run s) line
  rw [Session.Lifecycle.perform, h] at houtcome
  rw [h] at hanswers
  generalize Script.exchanges _ _ _ _ = exchanges at houtcome hanswers
  cases houtcome with
  | located resolved hmarker => exact ⟨hmarker, hmarker, hanswers⟩

lemma mounted_ok {s s' : Session} {line' : Timeline}
    (h : ((Session.mount credential).run.run s).run (Timeline.engine suite) thread line
      = ((.ok (), s'), line')) :
    ∃ (path : String) (handle : Handle), s'.marker = some handle
      ∧ line.machine.answer suite line.moment thread (.openContainer path credential)
        = (some handle, line'.machine)
      ∧ line' = line.goOn line'.machine := by
  have houtcome := (Session.Lifecycle.ends s (.mount credential)).of_run (Timeline.engine suite)
    thread line
  have hanswers := Script.answers_of_run (Timeline.engine suite) thread
    ((Session.mount credential).run.run s) line
  rw [Session.Lifecycle.perform, h] at houtcome
  rw [h] at hanswers
  generalize Script.exchanges _ _ _ _ = exchanges at houtcome hanswers
  cases houtcome with
  | @mounted path _ handle =>
      obtain ⟨hreply, hline⟩ := hanswers
      subst hline
      exact ⟨path, handle, rfl, Prod.ext hreply.symm rfl, rfl⟩

/-- A session alone holds a container, which was taken from its file with a credential. -/
structure Entered (suite : CipherSuite) (thread : Thread) (start line : Timeline)
    (credential : Credential) (s : Session) (c : OpenContainer) : Prop where
  held : line.HeldFor thread s
  opened : line.machine.engine.opened = some c
  unlocked : ∃ path, ContainerEngine.unlock suite start.machine.engine.config start.moment
    start.machine.host (HostPath.absoluteOrSelf path) credential = .ok (c, line.machine.host)
  moments : line.moments = start.moments

namespace Entered

lemma holds (h : Entered suite thread start line credential s c) :
    line.Holds c line.machine.host :=
  ⟨h.opened, rfl⟩

lemma placed (h : Entered suite thread start line credential s c) : c.Placed := by
  obtain ⟨path, hunlock⟩ := h.unlocked
  exact ContainerEngine.placed_of_unlock rfl hunlock

/-- Nothing has happened to the container yet. -/
lemma fresh (h : Entered suite thread start line credential s c) :
    c.transaction = none ∧ c.dirty = false := by
  obtain ⟨path, hunlock⟩ := h.unlocked
  obtain ⟨-, hnone, hclean, -⟩ := ContainerEngine.unlock_ok hunlock
  exact ⟨hnone, hclean⟩

lemma accepts (h : Entered suite thread start line credential s c) :
    c.Accepts suite credential := by
  obtain ⟨path, hunlock⟩ := h.unlocked
  exact ContainerEngine.accepts_of_unlock hunlock

lemma backed (h : Entered suite thread start line credential s c) (hsuite : suite.Lawful)
    (hfits : c.Fits) : c.Backed suite line.machine.host := by
  obtain ⟨path, hunlock⟩ := h.unlocked
  exact .of_unlock hsuite hfits rfl hunlock

end Entered

lemma lifecycle_ok {s s' : Session} {call : SessionCall Unit} {line' : Timeline}
    (h : (Task.lifecycle s call).runOn suite thread printed line = ((.ok s', printed'), line')) :
    printed' = printed
      ∧ (call.run.run s).run (Timeline.engine suite) thread line = ((.ok (), s'), line') := by
  rw [Task.runOn_lifecycle] at h
  rcases hcall : (call.run.run s).run (Timeline.engine suite) thread line
    with ⟨⟨fault | ⟨⟩, found⟩, middle⟩
  · rw [hcall] at h
    cases h
  · rw [hcall] at h
    cases h
    exact ⟨rfl, rfl⟩

lemma whenTrying_ok {α : Type} {text : String} {task : Task α} {value : α} {line' : Timeline}
    (h : (Task.whenTrying text task).runOn suite thread printed line
      = ((.ok value, printed'), line')) :
    task.runOn suite thread printed line = ((.ok value, printed'), line') := by
  rw [Task.runOn_whenTrying] at h
  rcases htask : task.runOn suite thread printed line with ⟨⟨failure | found, between⟩, middle⟩
  · rw [htask] at h
    cases h
  · rw [htask] at h
    exact h

/-- A mount that goes through leaves its session alone with a container.  Nothing is printed. -/
theorem entered_of_enter (invocation : Invocation) (hvacant : start.machine.engine.Vacant)
    (h : (invocation.enter input).runOn suite thread printed start
      = ((.ok (s, rest), printed'), line)) (hopen : line.machine.engine.opened = some c) :
    printed' = printed ∧ ∃ credential, invocation.secrets.resolve input = .ok (credential, rest)
      ∧ Entered suite thread start line credential s c := by
  obtain ⟨located, p₁, line₁, hlocate, h₁⟩ := Task.runOn_bind_ok suite thread printed start h
  obtain ⟨⟨credential, left⟩, p₂, line₂, hresolve, h₂⟩ :=
    Task.runOn_bind_ok suite thread p₁ line₁ h₁
  obtain ⟨mounted, p₃, line₃, hmount, h₃⟩ := Task.runOn_bind_ok suite thread p₂ line₂ h₂
  obtain ⟨rfl, hlocated⟩ := lifecycle_ok (whenTrying_ok hlocate)
  obtain ⟨rfl, hmounted⟩ := lifecycle_ok (whenTrying_ok hmount)
  obtain ⟨-, -, rfl⟩ := located_ok hlocated
  rw [Task.runOn_ofExcept] at hresolve
  obtain ⟨hresolved, rfl⟩ := Prod.mk.inj hresolve
  obtain ⟨hcredential, rfl⟩ := Prod.mk.inj hresolved
  obtain ⟨hended, rfl⟩ := Prod.mk.inj h₃
  obtain ⟨hsession, rfl⟩ := Prod.mk.inj hended
  obtain ⟨rfl, rfl⟩ := Prod.mk.inj (Except.ok.inj hsession)
  obtain ⟨path, handle, hmarker, hanswer, hline⟩ := mounted_ok hmounted
  obtain ⟨hheld, halone⟩ := Machine.heldBy_of_open hvacant hanswer
  obtain ⟨-, ⟨_, hbusy, -⟩ | ⟨-, found, hfound, hunlock⟩⟩ :=
    Machine.openContainer_ok (Machine.openContainer_of_answer hanswer)
  · rw [hvacant.closed] at hbusy
    cases hbusy
  · obtain rfl := Option.some.inj (hopen.symm.trans hfound)
    refine ⟨rfl, credential, hcredential, ⟨⟨handle, hmarker, hheld⟩, halone⟩, hopen,
      ⟨path, hunlock⟩, ?_⟩
    rw [hline]
    rfl

lemma run_get_bind (next : Session → SessionCall Unit) :
    (get >>= next).run.run s = (next s).run.run s := rfl

lemma run_ensure_bind {α : Type} {outcome : Except Fault α} {value : α} (h : outcome = .ok value)
    (next : α → SessionCall Unit) :
    (Session.ensure outcome >>= next).run.run s = (next value).run.run s := by
  rw [h]
  rfl

lemma run_host_bind (next : Host → SessionCall Unit) :
    ((Session.within Call.host >>= next).run.run s).run (Timeline.engine suite) thread line
      = ((next line.machine.host).run.run s).run (Timeline.engine suite) thread line := rfl

lemma run_request_bind {asked : Request} {reply : asked.Reply} {m : Machine}
    (h : line.machine.answer suite line.moment thread asked = (reply, m))
    (next : asked.Reply → SessionCall Unit) :
    ((Session.within (Call.request asked) >>= next).run.run s).run (Timeline.engine suite) thread
        line
      = ((next reply).run.run s).run (Timeline.engine suite) thread (line.goOn m) := by
  show ((next (line.machine.answer suite line.moment thread asked).1).run.run s).run
    (Timeline.engine suite) thread
    (line.goOn (line.machine.answer suite line.moment thread asked).2) = _
  rw [h]

/-- A container is chosen where its directory is there. -/
lemma run_setPath (suite : CipherSuite) (thread : Thread) {given path : String}
    (hlocation : Location.validate line.machine.host given = .ok ())
    (hpath : Location.absolute given = .ok path) :
    ((Session.setPath given).run.run .blank).run (Timeline.engine suite) thread line
      = ((.ok (), ⟨some path, none⟩), line) := by
  have hunmounted : Session.blank.requireUnmounted .pathWhileMounted = .ok () := rfl
  rw [Session.setPath, run_get_bind, run_ensure_bind hunmounted, run_host_bind,
    run_ensure_bind hlocation, run_ensure_bind hpath]
  rfl

/-- A container is mounted where the engine opens it. -/
lemma run_mount {path : String} (hvalid : credential.validate = .ok ())
    (hfile : Location.validateReadWrite line.machine.host path = .ok ()) {handle : Handle}
    {m : Machine}
    (hanswer : line.machine.answer suite line.moment thread (.openContainer path credential)
      = (some handle, m)) :
    ((Session.mount credential).run.run ⟨some path, none⟩).run (Timeline.engine suite) thread line
      = ((.ok (), ⟨some path, some handle⟩), line.goOn m) := by
  have hunmounted : (⟨some path, none⟩ : Session).requireUnmounted .alreadyMounted = .ok () := rfl
  have hconfigured : (⟨some path, none⟩ : Session).configuredPath = .ok path := rfl
  rw [Session.mount, run_get_bind, run_ensure_bind hunmounted, run_ensure_bind hconfigured,
    run_ensure_bind hvalid, run_host_bind, run_ensure_bind hfile, run_request_bind hanswer]
  rfl

/-- A container that can be unlocked is entered by whoever names it and has the credential. -/
theorem runOn_enter (invocation : Invocation) (suite : CipherSuite) (thread : Thread)
    (printed : Printed) (hclosed : start.machine.engine.opened = none) {path : String}
    (hlocation : Location.validate start.machine.host invocation.container = .ok ())
    (hpath : Location.absolute invocation.container = .ok path)
    (hsecret : invocation.secrets.resolve input = .ok (credential, rest))
    (hvalid : credential.validate = .ok ())
    (hfile : Location.validateReadWrite start.machine.host path = .ok ())
    (hunlock : ContainerEngine.unlock suite start.machine.engine.config start.moment
      start.machine.host (HostPath.absoluteOrSelf path) credential = .ok (c, host)) :
    (invocation.enter input).runOn suite thread printed start
      = ((.ok (⟨some path, some (start.machine.engine.registry.issue thread).1⟩, rest), printed),
        start.goOn ⟨{ start.machine.engine with
          registry := (start.machine.engine.registry.issue thread).2
          opened := some c }, host⟩) := by
  have hmount : ((Session.mount credential).run.run ⟨some path, none⟩).run
      (Timeline.engine suite) thread start = _ :=
    run_mount hvalid hfile (Machine.answer_of_unlock hclosed hunlock)
  rw [enter, openSession, Task.runOn_bind, Task.runOn_whenTrying, Task.runOn_lifecycle,
    run_setPath suite thread hlocation hpath]
  dsimp only [Except.mapError]
  rw [Task.runOn_bind, Task.runOn_ofExcept, hsecret]
  dsimp only
  rw [Task.runOn_bind, Task.runOn_whenTrying, Task.runOn_lifecycle, hmount]
  rfl

/-! ## Unmounting -/

/-- Nobody is in the way of an unmount by the session that holds the container alone. -/
lemma run_unmount (suite : CipherSuite) (thread : Thread) {marker : Handle}
    (hmarker : s.marker = some marker) (hcount : line.machine.engine.registry.count = 1) :
    (Session.unmount.run.run s).run (Timeline.engine suite) thread line
      = ((.ok (), { s with marker := none }), (line.goOn line.machine).goOn
        (line.machine.closeHandle suite (line.goOn line.machine).moment marker)) := by
  have houtcome := (Session.Lifecycle.ends s .unmount).of_run (Timeline.engine suite) thread line
  have hanswers := Script.answers_of_run (Timeline.engine suite) thread
    (Session.unmount.run.run s) line
  rw [Session.Lifecycle.perform] at houtcome
  generalize Script.exchanges _ _ _ _ = exchanges at houtcome hanswers
  rcases hrun : (Session.unmount.run.run s).run (Timeline.engine suite) thread line
    with ⟨⟨outcome, s'⟩, line'⟩
  rw [hrun] at houtcome hanswers
  -- there is a handle to give back, and nobody else that works with the container
  cases houtcome with
  | refused hcall | rejected hcall => exact absurd rfl hcall
  | absent hnone =>
      rw [hmarker] at hnone
      cases hnone
  | @busy _ count _ hbusy =>
      have hreply : count = line.machine.engine.registry.count := hanswers.1
      rw [hreply, hcount] at hbusy
      exact absurd hbusy (Nat.lt_irrefl 1)
  | unmounted hmarked =>
      obtain rfl := Option.some.inj (hmarker.symm.trans hmarked)
      obtain ⟨-, -, rfl⟩ := hanswers
      rfl

/-- The unmount saves the container, if that is possible.  A session that is unmounted has nothing
left to give back. -/
theorem runOn_leave (suite : CipherSuite) (printed : Printed) (hheld : line.HeldFor thread s)
    (hline : line.Holds c host) (outcome : Except Failure Unit) :
    ∃ last : Timeline,
      (leave s outcome).runOn suite thread printed line = ((outcome, printed), last)
      ∧ last.machine.engine.Vacant
      ∧ (c.rollback.persist suite (line.goOn line.machine).moment host = .ok last.machine.host
        ∨ last.machine.host = host
          ∧ ∃ e, c.rollback.persist suite (line.goOn line.machine).moment host = .error e) := by
  obtain ⟨marker, hmarker, hby⟩ := hheld.handle
  have hlast : (line.machine.engine.registry.close marker).1 = some 0 := by
    rw [hby.close]
  have hrun := run_unmount suite thread hmarker hheld.count
  obtain ⟨-, hhost⟩ := Machine.closeHandle_last suite (line.goOn line.machine).moment
    hline.opened hlast
  rw [hline.host] at hhost
  refine ⟨(line.goOn line.machine).goOn
    (line.machine.closeHandle suite (line.goOn line.machine).moment marker), ?_,
    Machine.vacant_of_close hby, hhost⟩
  rw [leave, Task.runOn_bind, Task.runOn_script, hrun]
  cases outcome <;> rfl

/-- Where all saves go through, that of the unmount does. -/
lemma exists_persist_of_leave (hheld : line.HeldFor thread s) (hline : line.Holds c host)
    {outcome : Except Failure Unit}
    (hsaves : (leave s outcome).Saves suite thread printed line) :
    ∃ host', c.rollback.persist suite (line.goOn line.machine).moment host = .ok host' := by
  obtain ⟨marker, hmarker, hby⟩ := hheld.handle
  have hcount := hheld.count
  obtain ⟨path, _⟩ := s
  obtain rfl := hmarker
  have hnext : ((do
      if 1 < line.machine.engine.registry.count then
        throw (.illegalState (.threadsActive (line.machine.engine.registry.count - 1)))
      Session.within (Call.request (.closeHandle marker))
      set (⟨path, none⟩ : Session) : SessionCall Unit).run.run ⟨path, some marker⟩).Saves suite
        thread (line.goOn line.machine) :=
    hsaves.left.of_script.2
  rw [hcount] at hnext
  have hdue : c.rollback ∈ line.machine.due (line.goOn line.machine).moment
      (.closeHandle marker) := by
    simp only [Machine.due, hline.opened, hby.close, if_pos]
    rfl
  obtain ⟨host', hsave⟩ := exists_of_isOk (hnext.1 c.rollback hdue)
  refine ⟨host', ?_⟩
  rw [← hline.host]
  exact hsave

/-! ## A whole visit -/

section Stay

variable {work : Task Unit} {worked : Timeline} {outcome : Except Failure Unit} {told : Printed}
  (hheld : line.HeldFor thread s) (hwork : work.Works)
  (hrun : work.runOn suite thread printed line = ((outcome, told), worked))
  (hworked : worked.Holds c host)

include hheld hwork hrun hworked

/-- What is done between a mount and an unmount ends as the work does, with what the work has
printed.  At its end the container is saved, if that is possible, and nothing is open any more. -/
theorem runOn_stay :
    ∃ last : Timeline, (stay s work).runOn suite thread printed line = ((outcome, told), last)
      ∧ last.machine.engine.Vacant
      ∧ (c.rollback.persist suite (worked.goOn worked.machine).moment host
          = .ok last.machine.host
        ∨ last.machine.host = host
          ∧ ∃ e, c.rollback.persist suite (worked.goOn worked.machine).moment host = .error e) := by
  obtain ⟨last, hleave, hrest⟩ := runOn_leave suite told (hheld.of_runOn hwork hrun) hworked outcome
  refine ⟨last, ?_, hrest⟩
  rw [stay, Task.runOn_bind, Task.runOn_lift, hrun]
  exact hleave

/-- Where all saves go through, the container is saved at the end. -/
theorem runOn_stay_of_saves (hsaves : (stay s work).Saves suite thread printed line) :
    ∃ last : Timeline, (stay s work).runOn suite thread printed line = ((outcome, told), last)
      ∧ last.machine.engine.Vacant
      ∧ c.rollback.persist suite (worked.goOn worked.machine).moment host
        = .ok last.machine.host := by
  obtain ⟨last, hstay, hvacant, hsave | ⟨-, e, hfailed⟩⟩ := runOn_stay hheld hwork hrun hworked
  · exact ⟨last, hstay, hvacant, hsave⟩
  have hlift : Task.runOn suite thread (ExceptT.lift work.run) printed line
      = ((.ok outcome, told), worked) := by
    rw [Task.runOn_lift, hrun]
  obtain ⟨host', hsave⟩ := exists_persist_of_leave (hheld.of_runOn hwork hrun) hworked
    (hsaves.right hlift)
  rw [hsave] at hfailed
  cases hfailed

end Stay

/-- A visit is an enter and a stay. -/
lemma runOn_visit (invocation : Invocation) (work : Session → Bytes → Task Unit)
    (henter : (invocation.enter input).runOn suite thread printed start
      = ((.ok (s, rest), printed'), line)) :
    (invocation.visit work input).runOn suite thread printed start
      = (stay s (work s rest)).runOn suite thread printed' line := by
  rw [visit, Task.runOn_bind, henter]

end Invocation

/-! ## A run after another one

A container with one file in it, which one run has saved and the next one enters. -/

namespace Invocation.Sample

def earlier : Moment := ⟨⟨.epoch, 0, 0⟩, [], .ofNat 0, none⟩

def later : Moment := ⟨⟨.ofParts 0 1, 0, 0⟩, [], .ofNat 1, none⟩

def tree : Tree :=
  (Change.write "/f" [1, 2] 0).after earlier.stamp
    ((Change.create "/f" 0o644).after earlier.stamp (.empty earlier.stamp))

def container : OpenContainer :=
  ⟨"/box", .key, none, none, ⟨List.replicate 32 0, rfl⟩, tree, none, false⟩

/-- The host before the container was saved. -/
def blank : Host := .bare ⟨4096, 0, 0, 0, 0, 255⟩ "/"

/-- The host of the next run. -/
def host : Host := (container.persist .standard earlier blank).toOption.getD blank

def start : Timeline := ⟨⟨.ofConfig .standard, host⟩, fun _ => later, 0⟩

def session : Session := ⟨some "/box", some (start.machine.engine.registry.issue mainThread).1⟩

/-- The next run, once it has entered. -/
def line : Timeline := start.goOn ⟨{ start.machine.engine with
  registry := (start.machine.engine.registry.issue mainThread).2, opened := some container }, host⟩

def secrets : SecretOptions := ⟨none, false, some (String.ofList (List.replicate 64 '0'))⟩

def invocation (command : Command) : Invocation := ⟨"/box", command, secrets, none⟩

lemma placed : container.Placed :=
  ⟨HostPath.cleaned_of_absolute (by decide +kernel : HostPath.absolute "/box" = .ok "/box"),
    by decide +kernel⟩

lemma fits : container.Fits := by decide +kernel

lemma wellFormed : container.tree.WellFormed :=
  ((Tree.wellFormed_empty earlier.stamp).after earlier.stamp
    (show (Change.create "/f" 0o644).resolve = _ from rfl)).after earlier.stamp
    (show (Change.write "/f" [1, 2] 0).resolve = _ from rfl)

lemma persist_eq : container.persist .standard earlier blank = .ok host :=
  eq_ok_of_isOk (by decide +kernel) blank

lemma sealedTree_eq : container.sealedTree .standard start.machine.host = some container.tree :=
  OpenContainer.sealedTree_of_persist CipherSuite.lawful_standard placed fits.tree fits.cost
    persist_eq

lemma vacant : start.machine.engine.Vacant := ContainerEngine.vacant_ofConfig _

lemma clock (n : Nat) : (start.moments n).stamp.Storable :=
  (by decide : later.stamp.Storable)

lemma resolve_eq (input : Bytes) :
    secrets.resolve input = .ok (.key (List.replicate 32 0), input) := by
  have hkey : Bytes.ofHex (Text.trim (String.ofList (List.replicate 64 '0')))
      = .ok (List.replicate 32 0) := by decide +kernel
  rw [SecretOptions.resolve, secrets]
  dsimp only
  rw [hkey]

lemma runOn_enter (command : Command) (input : Bytes) :
    ((invocation command).enter input).runOn .standard mainThread .nothing start
      = ((.ok (session, input), .nothing), line) := by
  have haccepts : container.Accepts .standard (.key (List.replicate 32 0)) :=
    ⟨rfl, by decide +kernel⟩
  have hplace : HostPath.absoluteOrSelf "/box" = container.path := by decide +kernel
  have hunlock : ContainerEngine.unlock .standard .standard later host
      (HostPath.absoluteOrSelf "/box") (.key (List.replicate 32 0)) = .ok (container, host) :=
    hplace ▸ ContainerEngine.unlock_of_persist CipherSuite.lawful_standard placed fits.tree
      fits.cost persist_eq haccepts rfl .standard later
  have hlocation : Location.validate start.machine.host "/box" = .ok () := by decide +kernel
  have habsolute : Location.absolute "/box" = .ok "/box" := by decide +kernel
  exact (invocation command).runOn_enter .standard mainThread .nothing rfl hlocation habsolute
    (resolve_eq input) (by decide +kernel) (by decide +kernel) hunlock

end Invocation.Sample

end Strongbox
