import Strongbox.Proofs.Session.Operation
import Strongbox.Session.Stream

/-!
# The use of streams

The uses of a stream, as data.  Reading up to the end is not one of them, since it is no more than
one read after another.

* `StreamCall.Only` — the requests that a call on a stream makes, whatever they are answered.
* `StreamCall.Works`, `StreamCall.Looks` — these are work on the container, or nothing but a look.
* `StreamCall.Idle` — a call makes no request and at most moves the cursor.
* **`FileStream.Use.works`** — every use of a stream is work.
* **`FileStream.Use.idle`** — while nothing is mounted, every use of a stream is idle.
-/

namespace Strongbox

/-! ## Calls on streams -/

namespace StreamCall

variable {α β : Type} {call : StreamCall α} {next : α → StreamCall β}

/-- All requests of a call on a stream are of one sort, whatever they are answered. -/
def Only (P : Request → Prop) (call : StreamCall α) : Prop :=
  ∀ f : FileStream, Script.Only P (call.run.run f)

/-- A call on a stream works on the container and does nothing else. -/
abbrev Works (call : StreamCall α) : Prop :=
  call.Only fun asked => asked.isWork = true

/-- A call on a stream looks at the container and does nothing else. -/
abbrev Looks (call : StreamCall α) : Prop :=
  call.Only fun asked => asked.looks = true

lemma Looks.works (h : call.Looks) : call.Works :=
  fun f => Script.Only.mono (h f) fun _ => Request.isWork_of_looks

variable {P : Request → Prop}

lemma only_pure (value : α) : Only P (pure value : StreamCall α) :=
  fun _ => trivial

lemma only_throw (error : StreamError) : Only P (throw error : StreamCall α) :=
  fun _ => trivial

lemma only_get : Only P (get : StreamCall FileStream) :=
  fun _ => trivial

lemma only_set (f : FileStream) : Only P (set f : StreamCall PUnit) :=
  fun _ => trivial

lemma Only.bind (h : call.Only P) (hnext : ∀ value, (next value).Only P) :
    Only P (call >>= next) := by
  intro f
  refine Script.Only.bind (h f) fun outcome => ?_
  obtain ⟨error | value, f'⟩ := outcome
  · trivial
  · exact hnext value f'

lemma only_within {call : Call α} (h : call.Only P) : Only P (FileStream.within call) := by
  intro f
  refine Script.Only.bind (Script.Only.bind h fun outcome => ?_) fun _ => trivial
  cases outcome with
  | ok value => trivial
  | error fault => trivial

/-- A call on a stream asks for nothing and leaves the stream as it is, but for the cursor. -/
def Idle (call : StreamCall α) : Prop :=
  ∀ f : FileStream, ∃ outcome position,
    call.run.run f = .done (outcome, { f with position := position })

lemma idle_pure (value : α) : Idle (pure value) :=
  fun f => ⟨.ok value, f.position, rfl⟩

lemma idle_throw (error : StreamError) : Idle (throw error : StreamCall α) :=
  fun f => ⟨.error error, f.position, rfl⟩

lemma idle_get : Idle get :=
  fun f => ⟨.ok f, f.position, rfl⟩

lemma Idle.bind (h : call.Idle) (hnext : ∀ value, (next value).Idle) : Idle (call >>= next) := by
  intro f
  obtain ⟨error | value, position, hcall⟩ := h f
  · exact ⟨.error error, position, congrArg (· >>= _) hcall⟩
  · obtain ⟨outcome, position', hnext⟩ := hnext value { f with position := position }
    refine ⟨outcome, position', ?_⟩
    rw [← hnext]
    exact congrArg (· >>= _) hcall

/-- While nothing is mounted, a call on a stream ends with its first operation. -/
lemma idle_within {s : Session} (h : s.isMounted = false) (operation : Session.Operation)
    (next : operation.Result → StreamCall α) :
    Idle (FileStream.within (operation.perform s) >>= next) := by
  rw [operation.refused h]
  exact idle_throw _

end StreamCall

/-! ## Opening a stream -/

namespace OpenOptions

variable (s : Session)

lemma works_modeFor (path : String) : (modeFor s path).Works := by
  have hstat : Call.Works (ExceptT.lift (s.stat path).run) :=
    Script.Only.bind (Session.Operation.works s (.stat path)) fun _ => trivial
  refine hstat.bind fun outcome => ?_
  cases outcome with
  | ok stat =>
      show Call.Works (if _ then _ else _)
      split
      · exact Call.only_throw _
      · exact Call.only_pure _
  | error fault =>
      show Call.Works (if _ then _ else _)
      split
      · exact Call.only_pure _
      · exact Call.only_throw _

lemma works_openFile (options : OpenOptions) (path : String) : (options.openFile s path).Works :=
  (works_modeFor s path).bind fun mode =>
    (Session.Operation.works s (.openFile path options.flags mode)).bind fun _ => Call.only_pure _

/-- While nothing is mounted, no stream is opened. -/
lemma openFile_refused {s : Session} (h : s.isMounted = false) (options : OpenOptions)
    (path : String) :
    options.openFile s path = throw (.illegalState (.notMounted "stat")) := by
  have hstat : s.stat path = throw (.illegalState (.notMounted "stat")) :=
    Session.Operation.refused h (.stat path)
  rw [openFile, modeFor, hstat]
  rfl

end OpenOptions

/-! ## Using a stream -/

namespace FileStream

open StreamCall Session

/-- The uses of a stream. -/
inductive Use where
  | metadata
  | setLength (length : Nat)
  | sync
  | flush
  | close
  | read (count : Nat)
  | write (buffer : Bytes)
  | seek (target : SeekFrom)

/-- What a use gives back. -/
def Use.Result : Use → Type
  | .metadata => FileStat
  | .read _ => Nat × Bytes
  | .write _ | .seek _ => Nat
  | _ => Unit

def Use.perform (s : Session) : (use : Use) → StreamCall use.Result
  | .metadata => FileStream.metadata s
  | .setLength length => FileStream.setLength s length
  | .sync => FileStream.sync s
  | .flush => FileStream.flush
  | .close => FileStream.close s
  | .read count => FileStream.read s count
  | .write buffer => FileStream.write s buffer
  | .seek target => FileStream.seek s target

lemma only_requireOpen {P : Request → Prop} : Only P requireOpen := by
  refine only_get.bind fun f => ?_
  split
  · exact only_throw _
  · exact only_pure _

lemma looks_read (s : Session) (count : Nat) : Looks (FileStream.read s count) :=
  only_requireOpen.bind fun _ => only_get.bind fun f =>
    (only_within (s.looks_pread f.handle count f.position)).bind fun _ =>
      (only_set _).bind fun _ => only_pure _

lemma looks_readRest (s : Session) (chunk fuel : Nat) (done : List Bytes) :
    Looks (readRest s chunk fuel done) := by
  induction fuel generalizing done with
  | zero => exact only_pure _
  | succ fuel ih =>
      refine (looks_read s chunk).bind fun reply => ?_
      obtain ⟨n, bytes⟩ := reply
      dsimp only
      split
      · exact only_pure _
      · exact ih _

lemma looks_readAll (s : Session) (chunk : Nat) : Looks (readAll s chunk) := by
  have hview : Call.Looks (ExceptT.lift Script.view) := fun _ => trivial
  exact (only_within hview).bind fun _ => looks_readRest s chunk _ _

lemma looks_close (s : Session) : Looks (FileStream.close s) := by
  refine only_get.bind fun f => ?_
  split
  · exact only_pure _
  · exact (only_within (s.looks_close f.handle)).bind fun _ => only_set _

lemma works_moveTo (position : Nat) : Works (moveTo position) :=
  Only.bind (fun _ => trivial) fun _ => only_pure _

lemma works_writeRest (s : Session) (written : Nat) (buffer : Bytes) :
    Works (writeRest s written buffer) := by
  fun_induction writeRest s written buffer with
  | case1 written => exact only_pure _
  | case2 written b rest ih =>
      refine only_get.bind fun f => ?_
      refine (only_within (Operation.works s (.pwrite f.handle (b :: rest) f.position))).bind
        fun n => ?_
      split
      · exact only_throw _
      · exact (only_set _).bind fun _ => ih n

/-- Whatever is done with a stream, it is done by work on the container. -/
theorem Use.works (s : Session) (use : Use) : Works (use.perform s) := by
  cases use with
  | metadata =>
      exact only_requireOpen.bind fun _ => only_get.bind fun f =>
        only_within (Operation.works s (.fstat f.handle))
  | setLength length =>
      exact only_requireOpen.bind fun _ => only_get.bind fun f =>
        only_within (Operation.works s (.ftruncate f.handle length))
  | sync =>
      exact only_requireOpen.bind fun _ => only_get.bind fun f =>
        only_within (Operation.works s (.fsync f.handle))
  | flush => exact only_requireOpen
  | close => exact (looks_close s).works
  | read count => exact (looks_read s count).works
  | write buffer =>
      refine only_requireOpen.bind fun _ => only_get.bind fun f => ?_
      split
      · exact (only_within (Operation.works s (.fstat f.handle))).bind fun _ =>
          (only_set _).bind fun _ => works_writeRest s 0 buffer
      · exact works_writeRest s 0 buffer
  | seek target =>
      refine only_requireOpen.bind fun _ => only_get.bind fun f => ?_
      cases target with
      | start offset => exact works_moveTo _
      | current delta => exact Only.bind (fun _ => trivial) works_moveTo
      | fromEnd delta =>
          exact (only_within (Operation.works s (.fstat f.handle))).bind fun _ =>
            Only.bind (fun _ => trivial) works_moveTo

lemma idle_requireOpen : Idle requireOpen := by
  refine idle_get.bind fun f => ?_
  split
  · exact idle_throw _
  · exact idle_pure _

lemma idle_moveTo (position : Nat) : Idle (moveTo position) :=
  fun _ => ⟨.ok position, position, rfl⟩

lemma idle_writeRest {s : Session} (h : s.isMounted = false) (written : Nat) (buffer : Bytes) :
    Idle (writeRest s written buffer) := by
  rw [writeRest.eq_def]
  cases buffer with
  | nil => exact idle_pure _
  | cons b rest =>
      exact idle_get.bind fun f => idle_within h (.pwrite f.handle (b :: rest) f.position) _

/-- While nothing is mounted, whatever is done with a stream asks for nothing, and the stream stays
open or closed as it was. -/
theorem Use.idle {s : Session} (h : s.isMounted = false) (use : Use) : Idle (use.perform s) := by
  have hlast : ∀ operation : Operation, Idle (within (operation.perform s)) := by
    intro operation
    rw [operation.refused h]
    exact idle_throw _
  cases use with
  | metadata =>
      exact idle_requireOpen.bind fun _ => idle_get.bind fun f => hlast (.fstat f.handle)
  | setLength length =>
      exact idle_requireOpen.bind fun _ => idle_get.bind fun f => hlast (.ftruncate f.handle length)
  | sync => exact idle_requireOpen.bind fun _ => idle_get.bind fun f => hlast (.fsync f.handle)
  | flush => exact idle_requireOpen
  | close =>
      refine idle_get.bind fun f => ?_
      split
      · exact idle_pure _
      · exact idle_within h (.close f.handle) _
  | read count =>
      exact idle_requireOpen.bind fun _ => idle_get.bind fun f =>
        idle_within h (.pread f.handle count f.position) _
  | write buffer =>
      refine idle_requireOpen.bind fun _ => idle_get.bind fun f => ?_
      split
      · exact idle_within h (.fstat f.handle) _
      · exact idle_writeRest h 0 buffer
  | seek target =>
      refine idle_requireOpen.bind fun _ => idle_get.bind fun f => ?_
      cases target with
      | start offset => exact idle_moveTo _
      | current delta => exact Idle.bind (fun f => ⟨_, f.position, rfl⟩) idle_moveTo
      | fromEnd delta => exact idle_within h (.fstat f.handle) _

end FileStream

end Strongbox
