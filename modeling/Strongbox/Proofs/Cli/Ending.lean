import Strongbox.Proofs.Cli.Situation
import Strongbox.Proofs.Cli.Visit

/-!
# How a run ends

A run looks at the path of its container, takes a credential, opens or makes the container, and only
then does its work.  It ends where the first of these fails, and what it fails with is told here for
each of them.

* `Invocation.ending` — how the task of an invocation ends.
* `Program.finished_of_ending` — the exit code of a run.
* `Invocation.Placed` — the path of the container names a place.
* `Invocation.ending_misplaced` and `Invocation.ending_noSecret` — failures of all commands.
* `Invocation.ending_present`, `Invocation.ending_uncreated`, `Invocation.ending_made` and
  `Invocation.ending_unmade` — a new container.
* `Invocation.ending_unsound`, `Invocation.ending_forbidden` and `Invocation.ending_refused` — a
  container that cannot be mounted.
* **`Invocation.ending_mounted`** — a container that can, and the work on it.
-/

namespace Strongbox

/-! ## Exit codes of runs -/

namespace Invocation

/-- The start of a run, with nothing open. -/
def outset (moments : Nat → Moment) (config : EngineConfig) (host : Host) : Timeline :=
  ⟨⟨.ofConfig config, host⟩, moments, 0⟩

/-- How the task of an invocation ends. -/
def ending (suite : CipherSuite) (moments : Nat → Moment) (config : EngineConfig) (host : Host)
    (invocation : Invocation) (input : Bytes) : Except Failure Unit :=
  ((invocation.task input).runOn suite mainThread .nothing (outset moments config host)).1.1

end Invocation

namespace Program

/-- The exit code of a task that ends this way. -/
def codeOf (outcome : Except Failure Unit) : Nat :=
  match outcome with
  | .ok () => ExitCode.success
  | .error failure => failure.exitCode

variable {suite : CipherSuite} {moments : Nat → Moment} {host : Host} {environment : Environment}
  {invocation : Invocation}

/-- A run without a configuration ends before its task begins. -/
lemma finished_of_error {failure : Failure}
    (hparse : Invocation.parse environment.password environment.arguments = .ok invocation)
    (hconfig : Config.load host invocation.config environment.configPath = .error failure) :
    ∃ result, Program.run suite moments host environment = .finished result
      ∧ result.code = failure.exitCode := by
  refine ⟨finish environment host .nothing (.error failure), ?_, rfl⟩
  rw [Program.run, hparse]
  dsimp only
  rw [hconfig]

/-- A run ends with the exit code of its task. -/
lemma finished_of_ending {config : EngineConfig}
    (hparse : Invocation.parse environment.password environment.arguments = .ok invocation)
    (hconfig : Config.load host invocation.config environment.configPath = .ok config) :
    ∃ result, Program.run suite moments host environment = .finished result
      ∧ result.code
        = codeOf (invocation.ending suite moments config host environment.input) := by
  rcases hrun : (invocation.task environment.input).runOn suite mainThread .nothing
    (Invocation.outset moments config host) with ⟨⟨outcome, printed⟩, last⟩
  refine ⟨finish environment last.machine.host printed outcome, ?_, ?_⟩
  · rw [Program.run, hparse]
    dsimp only
    rw [hconfig]
    dsimp only
    rw [← Invocation.outset, ← Task.runOn, hrun]
  · rw [Invocation.ending, hrun]
    cases outcome <;> rfl

end Program

/-! ## Failures on the way -/

namespace Task

variable {α β : Type} {suite : CipherSuite} {thread : Thread} {printed : Printed} {line : Timeline}
  {task : Task α} {failure : Failure}

/-- A task ends where a part of it fails. -/
lemma failure_bind (next : α → Task β)
    (h : (task.runOn suite thread printed line).1.1 = .error failure) :
    ((task >>= next).runOn suite thread printed line).1.1 = .error failure := by
  rw [runOn_bind]
  rcases hrun : task.runOn suite thread printed line with ⟨⟨outcome, printed'⟩, line'⟩
  rw [hrun] at h
  obtain rfl : outcome = .error failure := h
  rfl

lemma failure_whenTrying (text : String)
    (h : (task.runOn suite thread printed line).1.1 = .error failure) :
    ((whenTrying text task).runOn suite thread printed line).1.1
      = .error (failure.whenTrying text) := by
  rw [runOn_whenTrying, h]
  rfl

end Task

namespace Invocation

variable {suite : CipherSuite} {thread : Thread} {printed : Printed} {line : Timeline}
  {s : Session} {input rest : Bytes} {credential : Credential} {path : String} {fault : Fault}
  {failure : Failure} {invocation : Invocation}

/-- The path of the container names a place on the host. -/
structure Placed (invocation : Invocation) (host : Host) (path : String) : Prop where
  valid : Location.validate host invocation.container = .ok ()
  absolute : Location.absolute invocation.container = .ok path

lemma Placed.cleaned {host : Host} (h : invocation.Placed host path) :
    HostPath.absolute invocation.container = .ok path :=
  mapError_eq_ok.1 h.absolute

/-- The user may write in the directory of the path. -/
lemma Placed.writable {host : Host} (h : invocation.Placed host path) :
    (host.access ((HostPath.parent? path).getD "/")).write = true :=
  Location.writable_of_validate h.valid h.absolute

/-- The container engine takes the path as it is. -/
lemma Placed.absoluteOrSelf {host : Host} (h : invocation.Placed host path) :
    HostPath.absoluteOrSelf path = path :=
  HostPath.absoluteOrSelf_of_absolute h.cleaned

lemma run_ensure_error {α : Type} {outcome : Except Fault α} (h : outcome = .error fault)
    (next : α → SessionCall Unit) :
    (Session.ensure outcome >>= next).run.run s = .done (.error fault, s) := by
  rw [h]
  rfl

/-- Where a container cannot be opened, nothing has happened. -/
lemma answer_refused {m : Machine} {moment : Moment} {error : EngineError}
    (hclosed : m.engine.opened = none) (hself : HostPath.absoluteOrSelf path = path)
    (hunlock : ContainerEngine.unlock suite m.engine.config moment m.host path credential
      = .error error) :
    m.answer suite moment thread (.openContainer path credential) = (none, m) := by
  rw [← hself] at hunlock
  simp only [Machine.answer, Machine.openContainer, hclosed, hunlock, bind, Except.bind]
  rfl

/-! ## Naming the container -/

/-- What the user is told about a path that names no place for a container. -/
def misplaced (invocation : Invocation) (fault : Fault) : Failure :=
  (Failure.ofFault fault).whenTrying s!"Invalid container path: {invocation.container}"

lemma openSession_misplaced
    (h : Location.validate line.machine.host invocation.container = .error fault) :
    (invocation.openSession.runOn suite thread printed line).1.1
      = .error (invocation.misplaced fault) := by
  have hunmounted : Session.blank.requireUnmounted .pathWhileMounted = .ok () := rfl
  have hrun : ((Session.setPath invocation.container).run.run .blank).run (Timeline.engine suite)
      thread line = ((.error fault, .blank), line) := by
    rw [Session.setPath, run_get_bind, run_ensure_bind hunmounted, run_host_bind,
      run_ensure_error h]
    rfl
  refine Task.failure_whenTrying _ ?_
  rw [Task.runOn_lifecycle, hrun]

lemma openSession_placed (h : invocation.Placed line.machine.host path) :
    invocation.openSession.runOn suite thread printed line
      = ((.ok ⟨some path, none⟩, printed), line) := by
  refine Task.runOn_whenTrying_ok suite thread printed line _ ?_
  rw [Task.runOn_lifecycle, run_setPath suite thread h.valid h.absolute]

/-! ## Entering the container -/

section Enter

variable (hplaced : invocation.Placed line.machine.host path)

include hplaced

lemma enter_noSecret (hsecret : invocation.secrets.resolve input = .error failure) :
    ((invocation.enter input).runOn suite thread printed line).1.1 = .error failure := by
  rw [enter, Task.runOn_bind, openSession_placed hplaced]
  refine Task.failure_bind _ ?_
  rw [Task.runOn_ofExcept, hsecret]

/-- What the user is told about a container that could not be mounted. -/
def unmountable (invocation : Invocation) (fault : Fault) : Failure :=
  (Failure.ofFault fault).whenTrying s!"Failed to mount {invocation.container}"

variable (hsecret : invocation.secrets.resolve input = .ok (credential, rest))

include hsecret

lemma enter_unmounted
    (hmount : (((Session.mount credential).run.run ⟨some path, none⟩).run (Timeline.engine suite)
      thread line).1.1 = .error fault) :
    ((invocation.enter input).runOn suite thread printed line).1.1
      = .error (invocation.unmountable fault) := by
  rw [enter, Task.runOn_bind, openSession_placed hplaced]
  dsimp only
  rw [Task.runOn_bind, Task.runOn_ofExcept, hsecret]
  refine Task.failure_bind _ (Task.failure_whenTrying _ ?_)
  rw [Task.runOn_lifecycle]
  rcases hrun : ((Session.mount credential).run.run ⟨some path, none⟩).run (Timeline.engine suite)
    thread line with ⟨⟨outcome, s'⟩, line'⟩
  rw [hrun] at hmount
  obtain rfl : outcome = .error fault := hmount
  rfl

lemma enter_badSecret (hvalid : credential.validate = .error fault) :
    ((invocation.enter input).runOn suite thread printed line).1.1
      = .error (invocation.unmountable fault) := by
  have hunmounted : (⟨some path, none⟩ : Session).requireUnmounted .alreadyMounted = .ok () := rfl
  have hconfigured : (⟨some path, none⟩ : Session).configuredPath = .ok path := rfl
  refine enter_unmounted hplaced hsecret ?_
  rw [Session.mount, run_get_bind, run_ensure_bind hunmounted, run_ensure_bind hconfigured,
    run_ensure_error hvalid]
  rfl

variable (hvalid : credential.validate = .ok ())

include hvalid

lemma enter_forbidden (hfile : Location.validateReadWrite line.machine.host path = .error fault) :
    ((invocation.enter input).runOn suite thread printed line).1.1
      = .error (invocation.unmountable fault) := by
  have hunmounted : (⟨some path, none⟩ : Session).requireUnmounted .alreadyMounted = .ok () := rfl
  have hconfigured : (⟨some path, none⟩ : Session).configuredPath = .ok path := rfl
  refine enter_unmounted hplaced hsecret ?_
  rw [Session.mount, run_get_bind, run_ensure_bind hunmounted, run_ensure_bind hconfigured,
    run_ensure_bind hvalid, run_host_bind, run_ensure_error hfile]
  rfl

lemma enter_refused (hclosed : line.machine.engine.opened = none)
    (hfile : Location.validateReadWrite line.machine.host path = .ok ()) {error : EngineError}
    (hunlock : ContainerEngine.unlock suite line.machine.engine.config line.moment
      line.machine.host path credential = .error error) :
    ((invocation.enter input).runOn suite thread printed line).1.1
      = .error (invocation.unmountable (.invalidArgument (.badCredential path))) := by
  have hunmounted : (⟨some path, none⟩ : Session).requireUnmounted .alreadyMounted = .ok () := rfl
  have hconfigured : (⟨some path, none⟩ : Session).configuredPath = .ok path := rfl
  have hanswer : line.machine.answer suite line.moment thread (.openContainer path credential)
      = (none, line.machine) := answer_refused hclosed hplaced.absoluteOrSelf hunlock
  refine enter_unmounted hplaced hsecret ?_
  rw [Session.mount, run_get_bind, run_ensure_bind hunmounted, run_ensure_bind hconfigured,
    run_ensure_bind hvalid, run_host_bind, run_ensure_bind hfile, run_request_bind hanswer]
  rfl

end Enter

/-! ## Working on the container -/

/-- What is done between a mount and an unmount ends as the work does. -/
lemma stay_outcome {work : Task Unit} (hheld : line.HeldFor thread s) (hwork : work.Works) :
    ((stay s work).runOn suite thread printed line).1.1
      = (work.runOn suite thread printed line).1.1 := by
  rcases hrun : work.runOn suite thread printed line with ⟨⟨outcome, told⟩, worked⟩
  obtain ⟨marker, -, hby⟩ := (hheld.of_runOn hwork hrun).handle
  obtain ⟨c, hopen⟩ := Option.ne_none_iff_exists'.1 hby.opened
  obtain ⟨last, hstay, -⟩ := runOn_stay hheld hwork hrun ⟨hopen, rfl⟩
  rw [hstay]

/-- The point of time at which a container has just been mounted. -/
def mountedAt (line : Timeline) (thread : Thread) (c : OpenContainer) (host : Host) : Timeline :=
  line.goOn ⟨{ line.machine.engine with
    registry := (line.machine.engine.registry.issue thread).2, opened := some c }, host⟩

/-- A visit to a container that can be opened ends as the work on it does. -/
theorem visit_outcome {work : Session → Bytes → Task Unit} {c : OpenContainer} {host : Host}
    (hplaced : invocation.Placed line.machine.host path)
    (hsecret : invocation.secrets.resolve input = .ok (credential, rest))
    (hvalid : credential.validate = .ok ())
    (hfile : Location.validateReadWrite line.machine.host path = .ok ())
    (hvacant : line.machine.engine.Vacant)
    (hunlock : ContainerEngine.unlock suite line.machine.engine.config line.moment
      line.machine.host path credential = .ok (c, host))
    (hwork : ∀ s rest, (work s rest).Works) :
    ((invocation.visit work input).runOn suite thread printed line).1.1
      = ((work ⟨some path, some (line.machine.engine.registry.issue thread).1⟩ rest).runOn suite
          thread printed (mountedAt line thread c host)).1.1 := by
  rw [← hplaced.absoluteOrSelf] at hunlock
  have henter := invocation.runOn_enter suite thread printed hvacant.closed hplaced.valid
    hplaced.absolute hsecret hvalid hfile hunlock
  rw [runOn_visit invocation work henter]
  obtain ⟨-, credential, -, hentered⟩ := entered_of_enter invocation hvacant henter rfl
  exact stay_outcome hentered.held (hwork _ _)

/-! ## Creating the container -/

section Create

/-- What the user is told about a container that could not be created. -/
def uncreatable (path : String) (fault : Fault) : Failure :=
  (Failure.ofFault fault).whenTrying s!"Failed to create container {path}"

lemma createContainer_eq (path : String) (credential : Credential) :
    Command.createContainer ⟨some path, none⟩ credential = (do
      let view ← Task.script Script.view
      if view.host.present path then Task.fail s!"Container already exists: {path}"
      let _ ← Task.whenTrying s!"Failed to create container {path}"
        (Task.lifecycle ⟨some path, none⟩ (Session.createContainer credential))
      Task.putLine s!"Created new container at {path}") := rfl

lemma create_present (credential : Credential) (h : line.machine.host.present path = true) :
    ((Command.createContainer ⟨some path, none⟩ credential).runOn suite thread printed line).1.1
      = .error (.because s!"Container already exists: {path}") := by
  rw [createContainer_eq, Task.runOn_view_bind]
  dsimp only
  rw [h]
  rfl

variable (habsent : line.machine.host.present path = false)

include habsent

lemma create_absent (credential : Credential) :
    ((Command.createContainer ⟨some path, none⟩ credential).runOn suite thread printed line).1.1
      = (((Session.createContainer credential).run.run ⟨some path, none⟩).run
          (Timeline.engine suite) thread line).1.1.mapError (uncreatable path) := by
  rw [createContainer_eq, Task.runOn_view_bind]
  dsimp only
  rw [habsent, if_neg Bool.false_ne_true, Task.runOn_bind, Task.runOn_whenTrying,
    Task.runOn_lifecycle]
  rcases ((Session.createContainer credential).run.run ⟨some path, none⟩).run
    (Timeline.engine suite) thread line with ⟨⟨fault | ⟨⟩, s'⟩, line'⟩ <;> rfl

lemma create_badSecret (hvalid : credential.validate = .error fault) :
    ((Command.createContainer ⟨some path, none⟩ credential).runOn suite thread printed line).1.1
      = .error (uncreatable path fault) := by
  have hunmounted : (⟨some path, none⟩ : Session).requireUnmounted .createWhileMounted = .ok () :=
    rfl
  have hconfigured : (⟨some path, none⟩ : Session).configuredPath = .ok path := rfl
  rw [create_absent habsent, Session.createContainer, run_get_bind, run_ensure_bind hunmounted,
    run_ensure_bind hconfigured, run_ensure_error hvalid]
  rfl

variable (hvalid : credential.validate = .ok ()) (hself : HostPath.absoluteOrSelf path = path)
  (hclosed : line.machine.engine.opened = none)

include hvalid hself hclosed

lemma create_made {c : OpenContainer} {host : Host}
    (hunlock : ContainerEngine.unlock suite line.machine.engine.config line.moment
      line.machine.host path credential = .ok (c, host)) :
    ((Command.createContainer ⟨some path, none⟩ credential).runOn suite thread printed line).1.1
      = .ok () := by
  have hunmounted : (⟨some path, none⟩ : Session).requireUnmounted .createWhileMounted = .ok () :=
    rfl
  have hconfigured : (⟨some path, none⟩ : Session).configuredPath = .ok path := rfl
  rw [← hself] at hunlock
  rw [create_absent habsent, Session.createContainer, run_get_bind, run_ensure_bind hunmounted,
    run_ensure_bind hconfigured, run_ensure_bind hvalid,
    run_request_bind (Machine.answer_of_unlock hclosed hunlock)]
  rfl

lemma create_unmade {error : EngineError}
    (hunlock : ContainerEngine.unlock suite line.machine.engine.config line.moment
      line.machine.host path credential = .error error) :
    ((Command.createContainer ⟨some path, none⟩ credential).runOn suite thread printed line).1.1
      = .error (uncreatable path (.invalidArgument (.containerUnreadable path))) := by
  have hunmounted : (⟨some path, none⟩ : Session).requireUnmounted .createWhileMounted = .ok () :=
    rfl
  have hconfigured : (⟨some path, none⟩ : Session).configuredPath = .ok path := rfl
  have hfile : Location.validateReadWrite (line.goOn line.machine).machine.host path
      = .error (.invalidArgument (.containerUnreadable path)) :=
    Location.validateReadWrite_of_absent habsent
  rw [create_absent habsent, Session.createContainer, run_get_bind, run_ensure_bind hunmounted,
    run_ensure_bind hconfigured, run_ensure_bind hvalid,
    run_request_bind (answer_refused hclosed hself hunlock)]
  dsimp only
  rw [run_host_bind, run_ensure_error hfile]
  rfl

end Create

/-! ## The whole task -/

section Whole

variable {moments : Nat → Moment} {config : EngineConfig} {host : Host}

/-- Any command but the creation of a container is carried out on a mounted one. -/
lemma ending_visit (hcommand : invocation.command ≠ .init) :
    invocation.ending suite moments config host input
      = ((invocation.visit (fun s rest => invocation.command.execute s rest) input).runOn suite
          mainThread .nothing (outset moments config host)).1.1 := by
  rw [ending, task]
  split
  · next hinit => exact absurd hinit hcommand
  · rfl

lemma ending_init (hcommand : invocation.command = .init) :
    invocation.ending suite moments config host input
      = ((invocation.initTask input).runOn suite mainThread .nothing
          (outset moments config host)).1.1 := by
  rw [ending, task, hcommand]

/-- A command ends where its container cannot be entered. -/
lemma ending_unentered (hcommand : invocation.command ≠ .init)
    (h : ((invocation.enter input).runOn suite mainThread .nothing
      (outset moments config host)).1.1 = .error failure) :
    invocation.ending suite moments config host input = .error failure := by
  rw [ending_visit hcommand]
  exact Task.failure_bind _ h

lemma ending_misplaced (h : Location.validate host invocation.container = .error fault) :
    invocation.ending suite moments config host input = .error (invocation.misplaced fault) := by
  have hsession : (invocation.openSession.runOn suite mainThread .nothing
      (outset moments config host)).1.1 = .error (invocation.misplaced fault) :=
    openSession_misplaced h
  by_cases hcommand : invocation.command = .init
  · rw [ending_init hcommand]
    exact Task.failure_bind _ hsession
  · exact ending_unentered hcommand (Task.failure_bind _ hsession)

section Placed

variable (hplaced : invocation.Placed host path)

include hplaced

lemma ending_noSecret (hsecret : invocation.secrets.resolve input = .error failure) :
    invocation.ending suite moments config host input = .error failure := by
  by_cases hcommand : invocation.command = .init
  · rw [ending_init hcommand, initTask, Task.runOn_bind, openSession_placed hplaced]
    refine Task.failure_bind _ ?_
    rw [Task.runOn_ofExcept, hsecret]
  · exact ending_unentered hcommand (enter_noSecret hplaced hsecret)

variable (hsecret : invocation.secrets.resolve input = .ok (credential, rest))

include hsecret

section Init

variable (hcommand : invocation.command = .init)

include hcommand

lemma ending_create :
    invocation.ending suite moments config host input
      = ((Command.createContainer ⟨some path, none⟩ credential).runOn suite mainThread .nothing
          (outset moments config host)).1.1 := by
  rw [ending_init hcommand, initTask, Task.runOn_bind, openSession_placed hplaced]
  dsimp only
  rw [Task.runOn_bind, Task.runOn_ofExcept, hsecret]

lemma ending_present (hpresent : host.present path = true) :
    invocation.ending suite moments config host input
      = .error (.because s!"Container already exists: {path}") :=
  (ending_create hplaced hsecret hcommand).trans (create_present credential hpresent)

variable (habsent : host.present path = false)

include habsent

lemma ending_uncreated (hvalid : credential.validate = .error fault) :
    invocation.ending suite moments config host input = .error (uncreatable path fault) :=
  (ending_create hplaced hsecret hcommand).trans (create_badSecret habsent hvalid)

variable (hvalid : credential.validate = .ok ())

include hvalid

lemma ending_made {c : OpenContainer} {saved : Host}
    (hunlock : ContainerEngine.unlock suite config (moments 0) host path credential
      = .ok (c, saved)) :
    invocation.ending suite moments config host input = .ok () :=
  (ending_create hplaced hsecret hcommand).trans
    (create_made habsent hvalid hplaced.absoluteOrSelf rfl hunlock)

lemma ending_unmade {error : EngineError}
    (hunlock : ContainerEngine.unlock suite config (moments 0) host path credential
      = .error error) :
    invocation.ending suite moments config host input
      = .error (uncreatable path (.invalidArgument (.containerUnreadable path))) :=
  (ending_create hplaced hsecret hcommand).trans
    (create_unmade habsent hvalid hplaced.absoluteOrSelf rfl hunlock)

end Init

variable (hcommand : invocation.command ≠ .init)

include hcommand

lemma ending_unsound (hvalid : credential.validate = .error fault) :
    invocation.ending suite moments config host input = .error (invocation.unmountable fault) :=
  ending_unentered hcommand (enter_badSecret hplaced hsecret hvalid)

variable (hvalid : credential.validate = .ok ())

include hvalid

lemma ending_forbidden (hfile : Location.validateReadWrite host path = .error fault) :
    invocation.ending suite moments config host input = .error (invocation.unmountable fault) :=
  ending_unentered hcommand (enter_forbidden hplaced hsecret hvalid hfile)

variable (hfile : Location.validateReadWrite host path = .ok ())

include hfile

lemma ending_refused {error : EngineError}
    (hunlock : ContainerEngine.unlock suite config (moments 0) host path credential
      = .error error) :
    invocation.ending suite moments config host input
      = .error (invocation.unmountable (.invalidArgument (.badCredential path))) :=
  ending_unentered hcommand (enter_refused hplaced hsecret hvalid rfl hfile hunlock)

/-- A command whose container can be opened ends as its work does. -/
lemma ending_mounted {c : OpenContainer} {saved : Host}
    (hunlock : ContainerEngine.unlock suite config (moments 0) host path credential
      = .ok (c, saved)) :
    invocation.ending suite moments config host input
      = ((invocation.command.execute ⟨some path,
            some ((ContainerEngine.ofConfig config).registry.issue mainThread).1⟩ rest).runOn suite
          mainThread .nothing (mountedAt (outset moments config host) mainThread c saved)).1.1 := by
  rw [ending_visit hcommand]
  exact visit_outcome hplaced hsecret hvalid hfile (ContainerEngine.vacant_ofConfig config)
    hunlock fun s rest => Command.works_execute s rest invocation.command

end Placed

end Whole

end Invocation

end Strongbox
