import Strongbox.Cli.Commands
import Strongbox.Proofs.Session.Stream

/-!
# What commands ask for

Whatever a command does with a mounted container, it neither opens nor closes one.  Some commands
only look.

* `Task.Only` — the requests that a task makes, whatever they are answered.
* **`Command.works_execute`** — every command works on the container and does nothing else.
* `Command.looks_list`, `Command.looks_showStat`, `Command.looks_showSpace` — commands that look.
-/

namespace Strongbox

/-! ## Tasks -/

namespace Task

variable {α β : Type} {P : Request → Prop}

/-- All requests of a task are of one sort, whatever they are answered. -/
structure Only (P : Request → Prop) (task : Task α) : Prop where
  script : ∀ printed, Script.Only P (task.run.run printed)

/-- A task works on the container and does nothing else. -/
abbrev Works (task : Task α) : Prop :=
  task.Only fun asked => asked.isWork = true

/-- A task looks at the container and does nothing else. -/
abbrev Looks (task : Task α) : Prop :=
  task.Only fun asked => asked.looks = true

lemma Looks.works {task : Task α} (h : task.Looks) : task.Works :=
  ⟨fun printed => Script.Only.mono (h.script printed) fun _ => Request.isWork_of_looks⟩

lemma only_pure (value : α) : Only P (pure value : Task α) :=
  ⟨fun _ => trivial⟩

lemma only_throw (failure : Failure) : Only P (throw failure : Task α) :=
  ⟨fun _ => trivial⟩

lemma only_fail (text : String) : Only P (fail text : Task α) :=
  ⟨fun _ => trivial⟩

/-- Nothing comes after a failure. -/
lemma only_fail_bind (text : String) (next : α → Task β) : Only P (fail text >>= next) :=
  ⟨fun _ => trivial⟩

lemma only_put (bytes : Bytes) : Only P (put bytes) :=
  ⟨fun _ => trivial⟩

lemma only_tell (line : String) : Only P (tell line) :=
  ⟨fun _ => trivial⟩

lemma Only.bind {task : Task α} {next : α → Task β} (h : task.Only P)
    (hnext : ∀ value, (next value).Only P) : Only P (task >>= next) := by
  refine ⟨fun printed => Script.Only.bind (h.script printed) fun outcome => ?_⟩
  obtain ⟨failure | value, printed'⟩ := outcome
  · trivial
  · exact (hnext value).script printed'

lemma Only.whenTrying {task : Task α} (h : task.Only P) (text : String) :
    Only P (whenTrying text task) := by
  refine ⟨fun printed => Script.Only.bind (h.script printed) fun outcome => ?_⟩
  obtain ⟨failure | value, printed'⟩ := outcome <;> trivial

lemma Only.lift {task : Task α} (h : task.Only P) :
    Only P (ExceptT.lift task.run : Task (Except Failure α)) :=
  ⟨fun printed => Script.Only.bind (h.script printed) fun _ => trivial⟩

lemma only_script {script : Script α} (h : script.Only P) : Only P (Task.script script) :=
  ⟨fun _ => Script.Only.bind (Script.Only.bind h fun _ => trivial) fun _ => trivial⟩

lemma only_attempt {call : Call α} (h : call.Only P) : Only P (attempt call) :=
  only_script h

lemma only_call {call : Call α} (h : call.Only P) : Only P (Task.call call) := by
  refine (only_attempt h).bind fun outcome => ?_
  cases outcome with
  | ok value => exact only_pure value
  | error fault => exact only_throw _

lemma only_stream {call : StreamCall α} (h : call.Only P) (f : FileStream) :
    Only P (Task.stream f call) := by
  refine (only_script (h f)).bind fun outcome => ?_
  obtain ⟨error | value, f'⟩ := outcome
  · exact only_throw _
  · exact only_pure _

lemma only_forM {item : α → Task PUnit} (h : ∀ value, (item value).Only P) (items : List α) :
    Only P (items.forM item) := by
  induction items with
  | nil => exact only_pure _
  | cons value items ih => exact (h value).bind fun _ => ih

lemma only_foldlM {step : β → α → Task β} (h : ∀ done value, (step done value).Only P)
    (items : List α) (done : β) : Only P (items.foldlM step done) := by
  induction items generalizing done with
  | nil => exact only_pure _
  | cons value items ih => exact (h done value).bind fun _ => ih _

end Task

/-! ## Commands -/

namespace Command

open Strongbox.Task Session

variable (s : Session)

lemma looks_stat (path : String) : (s.stat path).Looks :=
  s.looks_attributes "stat" path

lemma looks_entriesOf (directory : String) (names : List String) :
    Looks (entriesOf s directory names) := by
  induction names with
  | nil => exact only_pure _
  | cons name rest ih =>
      exact (only_call (looks_stat s _)).bind fun _ => ih.bind fun _ => only_pure _

lemma looks_list (argument : String) (long all json : Bool) :
    Looks (list s argument long all json) := by
  refine ((only_call (looks_stat s _)).whenTrying _).bind fun stat => ?_
  show Looks (if _ then _ else _)
  split
  · exact only_fail_bind _ _
  · refine (only_call (s.looks_list _)).bind fun names => ?_
    refine (looks_entriesOf s _ _).bind fun entries => ?_
    split
    · exact only_put _
    · split
      · exact only_put _
      · exact only_forM (fun _ => only_put _) entries

lemma looks_showStat (argument : String) (json : Bool) : Looks (showStat s argument json) := by
  refine ((only_call (looks_stat s _)).whenTrying _).bind fun stat => ?_
  split <;> exact only_put _

lemma looks_showSpace (json : Bool) : Looks (showSpace s json) := by
  refine (only_call s.looks_statfs).bind fun stat => ?_
  split <;> exact only_put _

lemma works_printFile (chunk : Nat) (argument : String) : Works (printFile s chunk argument) :=
  ((only_call (OpenOptions.reading.works_openFile s _)).whenTrying _).bind fun _ =>
    ((only_stream (FileStream.looks_readAll s chunk).works _).whenTrying _).bind fun _ =>
      (only_put _).bind fun _ =>
        (only_stream (FileStream.Use.works s .close) _).bind fun _ => only_pure _

lemma works_writeChunks (file : FileStream) (pieces : List Bytes) :
    Works (writeChunks s file pieces) := by
  induction pieces generalizing file with
  | nil => exact only_pure _
  | cons piece rest ih =>
      exact (only_stream (FileStream.Use.works s (.write piece)) _).bind fun _ => ih _

lemma works_writeFile (argument : String) (append : Bool) (input : List Bytes) :
    Works (writeFile s argument append input) :=
  ((only_call (OpenOptions.works_openFile s (writeOptions append) _)).whenTrying _).bind fun _ =>
    ((works_writeChunks s _ input).whenTrying _).bind fun _ =>
      (only_stream (FileStream.Use.works s .sync) _).bind fun _ =>
        (only_stream (FileStream.Use.works s .close) _).bind fun _ => only_pure _

lemma works_createDirectories (mode : Nat) (paths : List String) :
    Works (createDirectories s mode paths) := by
  induction paths with
  | nil => exact only_pure _
  | cons path rest ih =>
      refine (only_call (s.looks_isDirectory path).works).bind fun there => ?_
      show Works (if _ then _ else _)
      split
      · exact ((only_call (Operation.works s (.mkdir path mode))).whenTrying _).bind fun _ => ih
      · exact ih

lemma works_makeDirectory (argument : String) (parents : Bool) (mode : Nat) :
    Works (makeDirectory s argument parents mode) := by
  unfold makeDirectory
  dsimp only
  split
  · exact works_createDirectories s mode _
  · exact (only_call (Operation.works s (.mkdir _ mode))).whenTrying _

lemma works_removeTree (fuel : Nat) (path : String) (removed : Removed) :
    Works (removeTree s fuel path removed) := by
  induction fuel generalizing path removed with
  | zero => exact only_fail _
  | succ fuel ih =>
      refine (only_call (s.looks_list path).works).bind fun names => ?_
      refine (only_foldlM (fun removed name => ?_) names removed).bind fun removed => ?_
      · refine (only_call (s.looks_isDirectory _).works).bind fun directory => ?_
        show Works (if _ then _ else _)
        split
        · exact ih _ _
        · exact ((only_call (Operation.works s (.unlink _))).whenTrying _).bind fun _ => only_pure _
      · exact ((only_call (Operation.works s (.rmdir path))).whenTrying _).bind fun _ => only_pure _

lemma works_removeAll (path : String) : Works (removeAll s path) := by
  have hview : Works (Task.script Script.view) := only_script fun _ => trivial
  refine (only_call (Operation.works s .beginTransaction)).bind fun _ => hview.bind fun view => ?_
  refine (works_removeTree s _ path _).lift.bind fun outcome => ?_
  cases outcome with
  | ok removed =>
      exact (only_call (Operation.works s .completeTransaction)).bind fun _ => only_tell _
  | error failure =>
      exact (only_attempt (Operation.works s .rollbackTransaction)).bind fun _ => only_throw _

lemma works_remove (argument : String) (recursive force : Bool) :
    Works (remove s argument recursive force) := by
  unfold remove
  generalize EntryPath.ofArgument argument = path
  dsimp only
  split
  · exact only_fail_bind _ _
  · refine (only_attempt (looks_stat s _).works).bind fun outcome => ?_
    cases outcome with
    | error fault =>
        show Works (if _ then _ else _)
        split
        · exact only_pure _
        · exact (only_throw _).whenTrying _
    | ok found =>
        show Works (if _ then _ else _)
        split
        · exact (only_call (Operation.works s (.unlink _))).whenTrying _
        · split
          · exact works_removeAll s _
          · exact (only_call (Operation.works s (.rmdir _))).whenTrying _

/-- Every command works on the container and does nothing else. -/
theorem works_execute (input : Bytes) (command : Command) : Works (command.execute s input) := by
  cases command with
  | init => exact only_pure _
  | ls path long all json => exact (looks_list s path long all json).works
  | cat files => exact only_forM (works_printFile s FileStream.chunkSize) files
  | write path append => exact works_writeFile s path append (chunks input)
  | mkdir path parents mode => exact works_makeDirectory s path parents mode
  | rm path recursive force => exact works_remove s path recursive force
  | mv source target => exact (only_call (Operation.works s (.rename _ _))).whenTrying _
  | stat path json => exact (looks_showStat s path json).works
  | df json => exact (looks_showSpace s json).works
  | chmod mode path => exact (only_call (Operation.works s (.chmod _ mode))).whenTrying _

end Command

end Strongbox
