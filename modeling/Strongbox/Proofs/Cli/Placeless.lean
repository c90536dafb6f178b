import Strongbox.Cli.Commands
import Strongbox.Proofs.Cli.Task
import Strongbox.Proofs.Cli.Works
import Strongbox.Proofs.Session.Placeless

/-!
# Commands that do not depend on the place of the container

Whatever a command does with a mounted container, it does the same with one at another path, and
fails for the same reasons.  Only `df` looks at the file of the container itself.

* `Failure.Blameless` — a failure for reasons none of which is about an argument.
* `Task.Mirrors` — two tasks that make the same requests and end alike.
* **`Task.Mirrors.runOn`** — what such tasks come to on containers at two paths.
* **`Command.mirrors_execute`** — a command does the same with two sessions.
-/

namespace Strongbox

/-- A failure for reasons none of which blames an argument. -/
def Failure.Blameless (failure : Failure) : Prop :=
  ∀ reason ∈ failure.reasons, ∀ complaint, reason ≠ .fault (.invalidArgument complaint)

namespace Failure

lemma blameless_because (text : String) : (because text).Blameless := by
  simp [Blameless, because]

lemma blameless_ofFault {fault : Fault} (h : fault.Blameless) : (ofFault fault).Blameless := by
  intro reason hreason complaint
  rcases List.mem_cons.1 hreason with rfl | hreason
  · exact fun heq => h complaint (Reason.fault.inj heq)
  · obtain ⟨cause, -, rfl⟩ := List.mem_map.1 hreason
    exact fun heq => by cases heq

lemma blameless_ofStream (error : StreamError) : (ofStream error).Blameless := by
  simp [Blameless, ofStream]

lemma Blameless.whenTrying {failure : Failure} (h : failure.Blameless) (text : String) :
    (failure.whenTrying text).Blameless := by
  intro reason hreason complaint
  rcases List.mem_cons.1 hreason with rfl | hreason
  · exact fun heq => by cases heq
  · exact h reason hreason complaint

end Failure

/-! ## Tasks -/

namespace Task

variable {α β : Type} {R : α → Prop} {S : β → Prop} {task task' : Task α}

/-- Two tasks make the same requests, print the same, and end with the same value or fail for the
same reasons, which blame no argument. -/
def Mirrors (R : α → Prop) (task task' : Task α) : Prop :=
  ∀ printed : Printed, (task.run.run printed).Mirrors
    (fun ended => Outcome Failure.Blameless R ended.1) (task'.run.run printed)

lemma mirrors_pure {value : α} (h : R value) : Mirrors R (pure value) (pure value) :=
  fun _ => .done (.ok h)

lemma mirrors_throw {failure : Failure} (h : failure.Blameless) :
    Mirrors R (throw failure) (throw failure) :=
  fun _ => .done (.error h)

lemma mirrors_fail (text : String) : Mirrors R (fail text) (fail text) :=
  mirrors_throw (Failure.blameless_because text)

lemma mirrors_put (bytes : Bytes) : (put bytes).Mirrors (fun _ => True) (put bytes) :=
  fun _ => .done (.ok trivial)

lemma mirrors_tell (line : String) : (tell line).Mirrors (fun _ => True) (tell line) :=
  fun _ => .done (.ok trivial)

lemma Mirrors.bind {next next' : α → Task β} (h : task.Mirrors R task')
    (hnext : ∀ value, R value → (next value).Mirrors S (next' value)) :
    (task >>= next).Mirrors S (task' >>= next') := by
  intro printed
  refine Script.Mirrors.bind (h printed) fun ended hended => ?_
  obtain ⟨outcome, printed'⟩ := ended
  cases hended with
  | ok hvalue => exact hnext _ hvalue printed'
  | error hfailure => exact .done (.error hfailure)

/-- Nothing comes after a failure. -/
lemma mirrors_fail_bind (text : String) (next next' : α → Task β) :
    (fail text >>= next).Mirrors S (fail text >>= next') :=
  fun _ => .done (.error (Failure.blameless_because text))

lemma Mirrors.whenTrying (h : task.Mirrors R task') (text : String) :
    (whenTrying text task).Mirrors R (whenTrying text task') := by
  intro printed
  refine Script.Mirrors.bind (h printed) fun ended hended => ?_
  obtain ⟨outcome, printed'⟩ := ended
  cases hended with
  | ok hvalue => exact .done (.ok hvalue)
  | error hfailure => exact .done (.error (hfailure.whenTrying text))

/-- A task whose failure is caught. -/
lemma Mirrors.lift (h : task.Mirrors R task') :
    Task.Mirrors (Outcome Failure.Blameless R) (ExceptT.lift task.run) (ExceptT.lift task'.run) :=
  fun printed => Script.Mirrors.bind (h printed) fun _ hended => .done (.ok hended)

lemma mirrors_script {script script' : Script α} (h : script.Mirrors R script') :
    (Task.script script).Mirrors R (Task.script script') :=
  fun _ => Script.Mirrors.bind (R := fun ended => R ended.1)
    (Script.Mirrors.bind h fun _ hvalue => .done hvalue) fun _ hvalue => .done (.ok hvalue)

/-- A look from outside tells no more than the extent. -/
lemma mirrors_view {next next' : View → Task α}
    (h : ∀ view view', view'.extent = view.extent → (next view).Mirrors R (next' view')) :
    (Task.script Script.view >>= next).Mirrors R (Task.script Script.view >>= next') :=
  fun printed => .look fun view view' hextent => h view view' hextent printed

lemma mirrors_attempt {call call' : Call α} (h : call.Mirrors R call') :
    (attempt call).Mirrors (Outcome Fault.Blameless R) (attempt call') :=
  mirrors_script h

lemma mirrors_call {call call' : Call α} (h : call.Mirrors R call') :
    (Task.call call).Mirrors R (Task.call call') := by
  refine (mirrors_attempt h).bind fun outcome houtcome => ?_
  cases houtcome with
  | ok hvalue => exact mirrors_pure hvalue
  | error hfault => exact mirrors_throw (Failure.blameless_ofFault hfault)

lemma mirrors_stream {call call' : StreamCall α} (h : call.Mirrors call') (f : FileStream) :
    (Task.stream f call).Mirrors (fun _ => True) (Task.stream f call') := by
  refine (mirrors_script (h f)).bind fun ended _ => ?_
  obtain ⟨error | value, f'⟩ := ended
  · exact mirrors_throw (Failure.blameless_ofStream error)
  · exact mirrors_pure trivial

lemma mirrors_forM {item item' : α → Task PUnit}
    (h : ∀ value, (item value).Mirrors (fun _ => True) (item' value)) (items : List α) :
    (items.forM item).Mirrors (fun _ => True) (items.forM item') := by
  induction items with
  | nil => exact mirrors_pure trivial
  | cons value items ih => exact (h value).bind fun _ _ => ih

lemma mirrors_foldlM {step step' : β → α → Task β}
    (h : ∀ done value, (step done value).Mirrors (fun _ => True) (step' done value))
    (items : List α) (done : β) :
    (items.foldlM step done).Mirrors (fun _ => True) (items.foldlM step' done) := by
  induction items generalizing done with
  | nil => exact mirrors_pure trivial
  | cons value items ih => exact (h done value).bind fun _ _ => ih _

/-- Tasks that mirror each other come to the same where the containers lie at two paths. -/
theorem Mirrors.runOn (h : task.Mirrors R task') (hwork : task.Works) {path path' : String}
    {line line' : Timeline} (hline : line.Moved path path' line') (suite : CipherSuite)
    (thread : Thread) (printed : Printed) :
    Outcome Failure.Blameless R (task.runOn suite thread printed line).1.1
      ∧ (task'.runOn suite thread printed line').1 = (task.runOn suite thread printed line).1
      ∧ (task.runOn suite thread printed line).2.Moved path path'
        (task'.runOn suite thread printed line').2 :=
  (h printed).run (hwork.script printed) hline suite thread

end Task

/-! ## Commands -/

namespace Command

open Strongbox.Task Session

variable {s s' : Session} (hs : s'.isMounted = s.isMounted)

include hs

lemma mirrors_stat (path : String) :
    (Task.call (s.stat path)).Mirrors (fun _ => True) (Task.call (s'.stat path)) :=
  mirrors_call (mirrors_attributes hs "stat" path)

lemma mirrors_operation (operation : Operation) (hplace : operation ≠ .statfs) :
    (Task.call (operation.perform s)).Mirrors (fun _ => True) (Task.call (operation.perform s')) :=
  mirrors_call (mirrors_perform hs operation hplace)

lemma mirrors_isDirectory (path : String) :
    (Task.call (s.isDirectory path)).Mirrors (fun _ => True) (Task.call (s'.isDirectory path)) :=
  mirrors_operation hs (.isDirectory path) (by simp)

lemma mirrors_entriesOf (directory : String) (names : List String) :
    (entriesOf s directory names).Mirrors (fun _ => True) (entriesOf s' directory names) := by
  induction names with
  | nil => exact mirrors_pure trivial
  | cons name rest ih =>
      exact (mirrors_stat hs _).bind fun _ _ => ih.bind fun _ _ => mirrors_pure trivial

lemma mirrors_list (argument : String) (long all json : Bool) :
    (list s argument long all json).Mirrors (fun _ => True) (list s' argument long all json) := by
  refine ((mirrors_stat hs _).whenTrying _).bind fun stat _ => ?_
  show Task.Mirrors _ (if _ then _ else _) (if _ then _ else _)
  split
  · exact mirrors_fail_bind _ _ _
  · refine (mirrors_operation hs (.list _) (by simp)).bind fun names _ => ?_
    refine (mirrors_entriesOf hs _ _).bind fun entries _ => ?_
    split
    · exact mirrors_put _
    · split
      · exact mirrors_put _
      · exact mirrors_forM (fun _ => mirrors_put _) entries

lemma mirrors_showStat (argument : String) (json : Bool) :
    (showStat s argument json).Mirrors (fun _ => True) (showStat s' argument json) := by
  refine ((mirrors_stat hs _).whenTrying _).bind fun stat _ => ?_
  split <;> exact mirrors_put _

lemma mirrors_printFile (chunk : Nat) (argument : String) :
    (printFile s chunk argument).Mirrors (fun _ => True) (printFile s' chunk argument) :=
  ((mirrors_call (OpenOptions.mirrors_openFile hs .reading _)).whenTrying _).bind fun _ _ =>
    ((mirrors_stream (FileStream.mirrors_readAll hs chunk) _).whenTrying _).bind fun _ _ =>
      (mirrors_put _).bind fun _ _ =>
        (mirrors_stream (FileStream.mirrors_close hs) _).bind fun _ _ => mirrors_pure trivial

lemma mirrors_writeChunks (file : FileStream) (pieces : List Bytes) :
    (writeChunks s file pieces).Mirrors (fun _ => True) (writeChunks s' file pieces) := by
  induction pieces generalizing file with
  | nil => exact mirrors_pure trivial
  | cons piece rest ih =>
      exact (mirrors_stream (FileStream.mirrors_write hs piece) _).bind fun _ _ => ih _

lemma mirrors_writeFile (argument : String) (append : Bool) (input : List Bytes) :
    (writeFile s argument append input).Mirrors (fun _ => True)
      (writeFile s' argument append input) :=
  ((mirrors_call (OpenOptions.mirrors_openFile hs (writeOptions append) _)).whenTrying _).bind
    fun _ _ => ((mirrors_writeChunks hs _ input).whenTrying _).bind fun _ _ =>
      (mirrors_stream (FileStream.mirrors_sync hs) _).bind fun _ _ =>
        (mirrors_stream (FileStream.mirrors_close hs) _).bind fun _ _ => mirrors_pure trivial

lemma mirrors_createDirectory (path : String) (mode : Nat) :
    (createDirectory s path mode).Mirrors (fun _ => True) (createDirectory s' path mode) :=
  (mirrors_operation hs (.mkdir path mode) (by simp)).whenTrying _

lemma mirrors_createDirectories (mode : Nat) (paths : List String) :
    (createDirectories s mode paths).Mirrors (fun _ => True)
      (createDirectories s' mode paths) := by
  induction paths with
  | nil => exact mirrors_pure trivial
  | cons path rest ih =>
      refine (mirrors_isDirectory hs path).bind fun there _ => ?_
      show Task.Mirrors _ (if _ then _ else _) (if _ then _ else _)
      split
      · exact (mirrors_createDirectory hs path mode).bind fun _ _ => ih
      · exact ih

lemma mirrors_makeDirectory (argument : String) (parents : Bool) (mode : Nat) :
    (makeDirectory s argument parents mode).Mirrors (fun _ => True)
      (makeDirectory s' argument parents mode) := by
  unfold makeDirectory
  dsimp only
  split
  · exact mirrors_createDirectories hs mode _
  · exact mirrors_createDirectory hs _ mode

lemma mirrors_removeTree (fuel : Nat) (path : String) (removed : Removed) :
    (removeTree s fuel path removed).Mirrors (fun _ => True)
      (removeTree s' fuel path removed) := by
  induction fuel generalizing path removed with
  | zero => exact mirrors_fail _
  | succ fuel ih =>
      refine (mirrors_operation hs (.list path) (by simp)).bind fun names _ => ?_
      refine (mirrors_foldlM (fun removed name => ?_) names removed).bind fun removed _ => ?_
      · refine (mirrors_isDirectory hs _).bind fun directory _ => ?_
        show Task.Mirrors _ (if _ then _ else _) (if _ then _ else _)
        split
        · exact ih _ _
        · exact ((mirrors_operation hs (.unlink _) (by simp)).whenTrying _).bind fun _ _ =>
            mirrors_pure trivial
      · exact ((mirrors_operation hs (.rmdir path) (by simp)).whenTrying _).bind fun _ _ =>
          mirrors_pure trivial

lemma mirrors_removeAll (path : String) :
    (removeAll s path).Mirrors (fun _ => True) (removeAll s' path) := by
  refine (mirrors_operation hs .beginTransaction (by simp)).bind fun _ _ =>
    mirrors_view fun view view' hextent => ?_
  rw [hextent]
  refine (mirrors_removeTree hs _ path _).lift.bind fun outcome houtcome => ?_
  cases houtcome with
  | ok _ =>
      exact (mirrors_operation hs .completeTransaction (by simp)).bind fun _ _ => mirrors_tell _
  | error hfailure =>
      exact (mirrors_attempt (mirrors_perform hs .rollbackTransaction (by simp))).bind fun _ _ =>
        mirrors_throw hfailure

lemma mirrors_remove (argument : String) (recursive force : Bool) :
    (remove s argument recursive force).Mirrors (fun _ => True)
      (remove s' argument recursive force) := by
  unfold remove
  generalize EntryPath.ofArgument argument = path
  dsimp only
  split
  · exact mirrors_fail_bind _ _ _
  · refine (mirrors_attempt (mirrors_attributes hs "stat" path)).bind fun outcome houtcome => ?_
    cases houtcome with
    | error hfault =>
        show Task.Mirrors _ (if _ then _ else _) (if _ then _ else _)
        split
        · exact mirrors_pure trivial
        · exact (mirrors_throw (Failure.blameless_ofFault hfault)).whenTrying _
    | ok _ =>
        show Task.Mirrors _ (if _ then _ else _) (if _ then _ else _)
        split
        · exact (mirrors_operation hs (.unlink _) (by simp)).whenTrying _
        · split
          · exact mirrors_removeAll hs _
          · exact (mirrors_operation hs (.rmdir _) (by simp)).whenTrying _

/-- A command does the same with the containers of two sessions.  Only `df` looks at the files of
the containers themselves. -/
theorem mirrors_execute (input : Bytes) (command : Command) (hplace : ∀ json, command ≠ .df json) :
    (command.execute s input).Mirrors (fun _ => True) (command.execute s' input) := by
  cases command with
  | init => exact mirrors_pure trivial
  | ls path long all json => exact mirrors_list hs path long all json
  | cat files => exact mirrors_forM (mirrors_printFile hs FileStream.chunkSize) files
  | write path append => exact mirrors_writeFile hs path append (chunks input)
  | mkdir path parents mode => exact mirrors_makeDirectory hs path parents mode
  | rm path recursive force => exact mirrors_remove hs path recursive force
  | mv source target => exact (mirrors_operation hs (.rename _ _) (by simp)).whenTrying _
  | stat path json => exact mirrors_showStat hs path json
  | df json => exact absurd rfl (hplace json)
  | chmod mode path => exact (mirrors_operation hs (.chmod _ mode) (by simp)).whenTrying _

end Command

end Strongbox
