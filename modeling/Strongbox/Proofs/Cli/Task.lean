import Strongbox.Cli.Task
import Strongbox.Proofs.Session.StreamRun

/-!
# Tasks on the container engine

What the parts of a command come to when they are carried out on the container engine.

* `Task.runOn` — a task, carried out on the container engine.
* `Task.runOn_bind` — one task after another.
* `Task.runOn_call`, `Task.runOn_stream` — a call in a task, by what it comes to on its own.
* `Task.runOn_whenTrying` — a failure that is told about.
* `Task.Saves` — all saves that a task asks for go through.
-/

namespace Strongbox.Task

variable {α β : Type} (suite : CipherSuite) (thread : Thread) (printed : Printed) (line : Timeline)

/-- Carry a task out on the container engine. -/
def runOn (task : Task α) (printed : Printed) (line : Timeline) :
    (Except Failure α × Printed) × Timeline :=
  (task.run.run printed).run (Timeline.engine suite) thread line

@[simp] lemma runOn_pure (value : α) : (pure value : Task α).runOn suite thread printed line
    = ((.ok value, printed), line) := rfl

@[simp] lemma runOn_throw (failure : Failure) :
    (throw failure : Task α).runOn suite thread printed line = ((.error failure, printed), line) :=
  rfl

@[simp] lemma runOn_fail (text : String) : (fail text : Task α).runOn suite thread printed line
    = ((.error (.because text), printed), line) := rfl

@[simp] lemma runOn_put (bytes : Bytes) : (put bytes).runOn suite thread printed line
    = ((.ok (), { printed with stdout := printed.stdout ++ bytes }), line) := rfl

/-- A task goes on where the one before it has ended, unless that has failed. -/
lemma runOn_bind (task : Task α) (next : α → Task β) :
    (task >>= next).runOn suite thread printed line
      = match task.runOn suite thread printed line with
        | ((.ok value, printed), line) => (next value).runOn suite thread printed line
        | ((.error failure, printed), line) => ((.error failure, printed), line) := by
  refine (Script.run_bind _ _ (task.run.run printed) _ line).trans ?_
  rw [runOn]
  rcases (task.run.run printed).run (Timeline.engine suite) thread line
    with ⟨⟨failure | value, printed'⟩, line'⟩ <;> rfl

@[simp] lemma runOn_ofExcept (outcome : Except Failure α) :
    (ofExcept outcome).runOn suite thread printed line = ((outcome, printed), line) := rfl

/-- Where two tasks have gone through one after the other, each of them has. -/
lemma runOn_bind_ok {task : Task α} {next : α → Task β} {value : β} {printed' : Printed}
    {line' : Timeline} (h : (task >>= next).runOn suite thread printed line
      = ((.ok value, printed'), line')) :
    ∃ first between middle, task.runOn suite thread printed line = ((.ok first, between), middle)
      ∧ (next first).runOn suite thread between middle = ((.ok value, printed'), line') := by
  rw [runOn_bind] at h
  rcases htask : task.runOn suite thread printed line with ⟨⟨failure | first, between⟩, middle⟩
  · rw [htask] at h
    cases h
  · rw [htask] at h
    exact ⟨first, between, middle, rfl, h⟩

/-- What is told about a failure changes nothing else. -/
lemma runOn_whenTrying (text : String) (task : Task α) :
    (whenTrying text task).runOn suite thread printed line
      = (((task.runOn suite thread printed line).1.1.mapError (Failure.whenTrying text),
            (task.runOn suite thread printed line).1.2),
          (task.runOn suite thread printed line).2) := by
  refine (Script.run_bind _ _ (task.run.run printed) _ line).trans ?_
  rw [runOn]
  rcases (task.run.run printed).run (Timeline.engine suite) thread line
    with ⟨⟨failure | value, printed'⟩, line'⟩ <;> rfl

/-- There is nothing to tell about a success. -/
lemma runOn_whenTrying_ok {task : Task α} {value : α} {printed' : Printed} {line' : Timeline}
    (text : String) (h : task.runOn suite thread printed line = ((.ok value, printed'), line')) :
    (whenTrying text task).runOn suite thread printed line = ((.ok value, printed'), line') := by
  rw [runOn_whenTrying, h]
  rfl

/-- A task whose failure is caught. -/
lemma runOn_lift (task : Task α) :
    Task.runOn suite thread (ExceptT.lift task.run) printed line
      = ((.ok (task.runOn suite thread printed line).1.1,
            (task.runOn suite thread printed line).1.2),
          (task.runOn suite thread printed line).2) := by
  refine (Script.run_bind _ _ (task.run.run printed) _ line).trans ?_
  rw [runOn]
  rcases (task.run.run printed).run (Timeline.engine suite) thread line
    with ⟨⟨failure | value, printed'⟩, line'⟩ <;> rfl

/-- A script prints nothing and does not fail. -/
lemma runOn_script (script : Script α) : (Task.script script).runOn suite thread printed line
    = ((.ok (script.run (Timeline.engine suite) thread line).1, printed),
      (script.run (Timeline.engine suite) thread line).2) := by
  refine (Script.run_bind _ _ ((StateT.lift script).run printed) _ line).trans ?_
  rw [StateT.run_lift, Script.run_bind]
  rfl

/-- A look at the engine from outside. -/
lemma runOn_view_bind (next : View → Task β) :
    (Task.script Script.view >>= next).runOn suite thread printed line
      = (next ⟨line.machine.host, line.machine.extent⟩).runOn suite thread printed line := by
  rw [runOn_bind, runOn_script]
  rfl

lemma runOn_attempt (call : Call α) : (attempt call).runOn suite thread printed line
    = ((.ok (call.runOn suite thread line).1, printed), (call.runOn suite thread line).2) :=
  runOn_script suite thread printed line call.run

/-- A call that fails takes its task down. -/
lemma runOn_call (call : Call α) : (Task.call call).runOn suite thread printed line
    = (((call.runOn suite thread line).1.mapError .ofFault, printed),
      (call.runOn suite thread line).2) := by
  rw [Task.call, runOn_bind, runOn_attempt]
  rcases call.runOn suite thread line with ⟨fault | value, line'⟩ <;> rfl

lemma runOn_stream (f : FileStream) (call : StreamCall α) :
    (Task.stream f call).runOn suite thread printed line
      = match call.runOn suite thread f line with
        | ((.ok value, f), line) => ((.ok (value, f), printed), line)
        | ((.error error, _), line) => ((.error (.ofStream error), printed), line) := by
  rw [Task.stream, runOn_bind, runOn_script, StreamCall.runOn]
  rcases (call.run.run f).run (Timeline.engine suite) thread line
    with ⟨⟨error | value, f'⟩, line'⟩ <;> rfl

lemma runOn_lifecycle (s : Session) (call : SessionCall Unit) :
    (Task.lifecycle s call).runOn suite thread printed line
      = match (call.run.run s).run (Timeline.engine suite) thread line with
        | ((.ok (), s), line) => ((.ok s, printed), line)
        | ((.error fault, _), line) => ((.error (.ofFault fault), printed), line) := by
  rw [Task.lifecycle, runOn_bind, runOn_script]
  rcases (call.run.run s).run (Timeline.engine suite) thread line
    with ⟨⟨fault | ⟨⟩, s'⟩, line'⟩ <;> rfl

/-! ## Saves -/

/-- All saves that a task asks for go through. -/
def Saves (task : Task α) (printed : Printed) (line : Timeline) : Prop :=
  (task.run.run printed).Saves suite thread line

instance (task : Task α) : Decidable (task.Saves suite thread printed line) :=
  Script.decidableSaves _ _

variable {suite thread printed line}

lemma Saves.left {task : Task α} {next : α → Task β}
    (h : (task >>= next).Saves suite thread printed line) :
    task.Saves suite thread printed line :=
  (Script.saves_bind.1 h).1

lemma Saves.right {task : Task α} {next : α → Task β}
    (h : (task >>= next).Saves suite thread printed line) {value : α} {printed' : Printed}
    {line' : Timeline} (hrun : task.runOn suite thread printed line
      = ((.ok value, printed'), line')) : (next value).Saves suite thread printed' line' := by
  have hnext := (Script.saves_bind.1 h).2
  have hended : (task.run.run printed).run (Timeline.engine suite) thread line
      = ((.ok value, printed'), line') := hrun
  replace hnext := hended ▸ hnext
  exact hnext

lemma Saves.of_whenTrying {text : String} {task : Task α}
    (h : (whenTrying text task).Saves suite thread printed line) :
    task.Saves suite thread printed line :=
  (Script.saves_bind.1 h).1

lemma Saves.of_lift {task : Task α}
    (h : Task.Saves suite thread (ExceptT.lift task.run) printed line) :
    task.Saves suite thread printed line :=
  (Script.saves_bind.1 h).1

lemma Saves.of_script {script : Script α}
    (h : (Task.script script).Saves suite thread printed line) : script.Saves suite thread line :=
  (Script.saves_bind.1 (Script.saves_bind.1 h).1).1

lemma Saves.of_call {call : Call α} (h : (Task.call call).Saves suite thread printed line) :
    call.run.Saves suite thread line :=
  h.left.of_script

lemma Saves.of_stream {f : FileStream} {call : StreamCall α}
    (h : (Task.stream f call).Saves suite thread printed line) :
    (call.run.run f).Saves suite thread line :=
  h.left.of_script

end Strongbox.Task
