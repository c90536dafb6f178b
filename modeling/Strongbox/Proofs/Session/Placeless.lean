import Strongbox.Proofs.Engine.Moved
import Strongbox.Proofs.Session.Stream

/-!
# Calls that do not depend on the place of the container

A mounted session knows the path of its container, but only the figures of the volume are looked up
there.  Any other call makes the same requests in two sessions with containers at two paths, and
what it is answered never makes it blame an argument.

* `Fault.Blameless` — a fault that is not about an argument.
* `Call.Mirrors`, `StreamCall.Mirrors` — two calls that make the same requests and end alike.
* **`Session.mirrors_perform`** — the operations of two sessions, but for the one about the volume.
* `FileStream.mirrors_readAll`, `FileStream.mirrors_write` — the uses of a stream.
-/

namespace Strongbox

/-- A fault that does not blame an argument. -/
def Fault.Blameless (fault : Fault) : Prop :=
  ∀ complaint, fault ≠ .invalidArgument complaint

/-- An outcome of which something is known in either case. -/
inductive Outcome {ε α : Type} (E : ε → Prop) (R : α → Prop) : Except ε α → Prop
  | ok {value : α} (hvalue : R value) : Outcome E R (.ok value)
  | error {error : ε} (herror : E error) : Outcome E R (.error error)

/-! ## Calls -/

namespace Call

variable {α β : Type} {R : α → Prop} {S : β → Prop} {call call' : Call α}

/-- Two calls make the same requests, and end with the same value or with the same fault, which
blames no argument. -/
def Mirrors (R : α → Prop) (call call' : Call α) : Prop :=
  call.run.Mirrors (Outcome Fault.Blameless R) call'.run

lemma mirrors_pure {value : α} (h : R value) : Mirrors R (pure value) (pure value) :=
  .done (.ok h)

lemma mirrors_throw {fault : Fault} (h : fault.Blameless) :
    Mirrors R (throw fault) (throw fault) :=
  .done (.error h)

lemma Mirrors.bind {f f' : α → Call β} (h : call.Mirrors R call')
    (hf : ∀ value, R value → (f value).Mirrors S (f' value)) :
    (call >>= f).Mirrors S (call' >>= f') := by
  refine Script.Mirrors.bind h fun outcome houtcome => ?_
  cases houtcome with
  | ok hvalue => exact hf _ hvalue
  | error hfault => exact .done (.error hfault)

lemma Mirrors.discard (h : call.Mirrors R call') :
    (discard call).Mirrors (fun _ => True) (discard call') := by
  refine Script.Mirrors.bind h fun outcome houtcome => ?_
  cases houtcome with
  | ok hvalue => exact .done (.ok trivial)
  | error hfault => exact .done (.error hfault)

/-- A call whose fault is caught. -/
lemma Mirrors.lift (h : call.Mirrors R call') :
    Mirrors (Outcome Fault.Blameless R) (ExceptT.lift call.run) (ExceptT.lift call'.run) :=
  Script.Mirrors.bind h fun _ houtcome => .done (.ok houtcome)

lemma mirrors_request (asked : Request) :
    (request asked).Mirrors (fun _ => True) (request asked) :=
  .ask fun _ => .done (.ok trivial)

/-- The fault of a result code is about the code. -/
lemma failed_of_check {operation : String} {code : Int} {fault : Fault}
    (h : Strongbox.check operation code = .error fault) :
    ∃ code, fault = .failed operation code := by
  rw [Strongbox.check] at h
  split at h
  · cases h
  · cases h
    exact ⟨_, rfl⟩

lemma blameless_of_check {operation : String} {code : Int} {fault : Fault}
    (h : Strongbox.check operation code = .error fault) : fault.Blameless := by
  obtain ⟨code, rfl⟩ := failed_of_check h
  exact fun _ h => by cases h

/-- Whatever was held back, it is told as a cause only. -/
lemma blameless_chain (slot : FaultSlot) (operation : String) (code : Errno) :
    (slot.chain (.failed operation code)).1.Blameless := by
  rw [FaultSlot.chain]
  cases slot.pending with
  | none => exact fun _ h => by cases h
  | some cause => exact fun _ h => by cases h

lemma mirrors_check (operation : String) (code : Int) :
    (check operation code).Mirrors (fun _ => True) (check operation code) := by
  refine .done ?_
  cases hcheck : Strongbox.check operation code with
  | ok value => exact .ok trivial
  | error fault => exact .error (blameless_of_check hcheck)

lemma mirrors_change (operation : String) (asked : Change) :
    (change operation asked).Mirrors (fun _ => True) (change operation asked) :=
  (mirrors_request _).bind fun code _ => mirrors_check operation code

end Call

/-! ## Operations -/

namespace Session

open Call

variable {s s' : Session}

lemma mirrors_require (hs : s'.isMounted = s.isMounted) (operation : String) :
    (s.require operation).Mirrors (fun _ => True) (s'.require operation) := by
  rw [require, require, hs]
  split
  · exact mirrors_pure trivial
  · exact mirrors_throw fun _ h => by cases h

/-- One step of an open fails with a fault of its own, whatever was held back. -/
lemma mirrors_attempt (slot : FaultSlot) (asked : Change) :
    (attempt slot asked).Mirrors (fun _ => True) (attempt slot asked) := by
  refine (mirrors_request _).bind fun code _ => Mirrors.discard (R := fun _ => True) (.done ?_)
  unfold FaultSlot.check
  cases hcheck : Strongbox.check "open" code with
  | ok value => exact .ok trivial
  | error fault =>
      obtain ⟨code, rfl⟩ := failed_of_check hcheck
      exact .error (blameless_chain slot "open" code)

lemma mirrors_openOrCreate (path : String) (flags : OpenFlags) (mode : Nat) :
    (openOrCreate path flags mode).Mirrors (fun _ => True) (openOrCreate path flags mode) := by
  unfold openOrCreate
  split
  · exact mirrors_attempt _ _
  split
  · refine (mirrors_request _).bind fun code _ => ?_
    split
    · exact mirrors_attempt _ _
    · split
      · exact mirrors_attempt _ _
      · exact mirrors_attempt _ _
  · exact mirrors_attempt _ _

lemma mirrors_attributes (hs : s'.isMounted = s.isMounted) (operation path : String) :
    (s.attributes operation path).Mirrors (fun _ => True) (s'.attributes operation path) :=
  (mirrors_require hs _).bind fun _ _ => (mirrors_request _).bind fun _ _ =>
    (mirrors_check _ _).bind fun _ _ => mirrors_pure trivial

/-- The operations of two sessions are alike, but for the one about the volume, which is that of the
container. -/
theorem mirrors_perform (hs : s'.isMounted = s.isMounted) (operation : Operation)
    (hplace : operation ≠ .statfs) :
    (operation.perform s).Mirrors (fun _ => True) (operation.perform s') := by
  cases operation with
  | statfs => exact absurd rfl hplace
  | beginTransaction | completeTransaction | rollbackTransaction | fsync =>
      exact (mirrors_require hs _).bind fun _ _ => Mirrors.discard <|
        (mirrors_request _).bind fun _ _ => mirrors_check _ _
  | openFile path flags mode =>
      exact (mirrors_require hs _).bind fun _ _ => (mirrors_openOrCreate path flags mode).bind
        fun _ _ => (mirrors_request _).bind fun _ _ => mirrors_pure trivial
  | close handle => exact (mirrors_require hs _).bind fun _ _ => mirrors_pure trivial
  | pread handle count offset =>
      refine (mirrors_require hs _).bind fun _ _ => (mirrors_request _).bind fun reply _ => ?_
      obtain ⟨code, bytes⟩ := reply
      dsimp only
      cases hcheck : Strongbox.check "pread" code with
      | ok n => exact mirrors_pure trivial
      | error fault =>
          dsimp only
          split
          · exact mirrors_pure trivial
          · exact mirrors_throw (blameless_of_check hcheck)
  | pwrite => exact (mirrors_require hs _).bind fun _ _ => mirrors_change _ _
  | ftruncate | truncate | mkdir | rmdir | unlink | rename | link | symlink | chmod | utimens
  | setLastModified => exact (mirrors_require hs _).bind fun _ _ => (mirrors_change _ _).discard
  | remove path =>
      refine (mirrors_require hs _).bind fun _ _ =>
        (mirrors_request (.isDir path)).bind fun directory _ => ?_
      split
      · exact (mirrors_change _ _).discard
      · exact (mirrors_change _ _).discard
  | list path =>
      exact (mirrors_require hs _).bind fun _ _ => (mirrors_request _).bind fun _ _ =>
        (mirrors_check _ _).bind fun _ _ => mirrors_pure trivial
  | isDirectory path =>
      exact (mirrors_require hs _).bind fun _ _ => mirrors_request (.isDir path)
  | stat path => exact mirrors_attributes hs _ _
  | fstat handle => exact mirrors_attributes hs _ _
  | lstat path =>
      exact (mirrors_require hs _).bind fun _ _ => mirrors_throw fun _ h => by cases h
  | access path mode =>
      refine (mirrors_require hs _).bind fun _ _ => (mirrors_request _).bind fun code _ => ?_
      cases hcheck : Strongbox.check "access" code with
      | ok n => exact mirrors_pure trivial
      | error fault =>
          dsimp only
          split
          · exact mirrors_pure trivial
          · exact mirrors_throw (blameless_of_check hcheck)
  | lastModified path =>
      exact (mirrors_attributes hs _ _).bind fun _ _ => mirrors_pure trivial

end Session

/-! ## Streams -/

namespace StreamCall

variable {α β : Type} {call call' : StreamCall α}

/-- Two calls on a stream make the same requests and end alike. -/
def Mirrors (call call' : StreamCall α) : Prop :=
  ∀ f : FileStream, (call.run.run f).Mirrors (fun _ => True) (call'.run.run f)

lemma mirrors_pure (value : α) : Mirrors (pure value) (pure value) :=
  fun _ => .done trivial

lemma mirrors_throw (error : StreamError) : Mirrors (throw error : StreamCall α) (throw error) :=
  fun _ => .done trivial

lemma mirrors_get : Mirrors get get :=
  fun _ => .done trivial

lemma mirrors_set (f : FileStream) : Mirrors (set f) (set f) :=
  fun _ => .done trivial

lemma Mirrors.bind {f f' : α → StreamCall β} (h : call.Mirrors call')
    (hf : ∀ value, (f value).Mirrors (f' value)) : (call >>= f).Mirrors (call' >>= f') := by
  intro stream
  refine Script.Mirrors.bind (h stream) fun outcome _ => ?_
  obtain ⟨error | value, stream'⟩ := outcome
  · exact .done trivial
  · exact hf value stream'

lemma mirrors_within {R : α → Prop} {inner inner' : Call α} (h : inner.Mirrors R inner') :
    Mirrors (FileStream.within inner) (FileStream.within inner') := by
  intro stream
  refine Script.Mirrors.bind (S := fun _ => True) (Script.Mirrors.bind (S := fun _ => True) h
    fun outcome _ => ?_) fun _ _ => .done trivial
  cases outcome with
  | ok value => exact .done trivial
  | error fault => exact .done trivial

end StreamCall

namespace OpenOptions

variable {s s' : Session}

lemma mirrors_modeFor (hs : s'.isMounted = s.isMounted) (path : String) :
    (modeFor s path).Mirrors (fun _ => True) (modeFor s' path) := by
  refine (Session.mirrors_attributes hs "stat" path).lift.bind fun outcome houtcome => ?_
  cases houtcome with
  | ok _ =>
      dsimp only
      split
      · exact Call.mirrors_throw fun _ h => by cases h
      · exact Call.mirrors_pure trivial
  | error hfault =>
      dsimp only
      split
      · exact Call.mirrors_pure trivial
      · exact Call.mirrors_throw hfault

/-- A stream is opened alike in two sessions. -/
theorem mirrors_openFile (hs : s'.isMounted = s.isMounted) (options : OpenOptions) (path : String) :
    (options.openFile s path).Mirrors (fun _ => True) (options.openFile s' path) :=
  (mirrors_modeFor hs path).bind fun mode _ =>
    (Session.mirrors_perform hs (.openFile path options.flags mode) (by simp)).bind fun _ _ =>
      Call.mirrors_pure trivial

end OpenOptions

namespace FileStream

open StreamCall Session

variable {s s' : Session}

lemma mirrors_requireOpen : Mirrors requireOpen requireOpen := by
  refine mirrors_get.bind fun f => ?_
  split
  · exact mirrors_throw _
  · exact mirrors_pure _

lemma mirrors_sync (hs : s'.isMounted = s.isMounted) :
    Mirrors (FileStream.sync s) (FileStream.sync s') :=
  mirrors_requireOpen.bind fun _ => mirrors_get.bind fun f =>
    mirrors_within (mirrors_perform hs (.fsync f.handle) (by simp))

lemma mirrors_close (hs : s'.isMounted = s.isMounted) :
    Mirrors (FileStream.close s) (FileStream.close s') := by
  refine mirrors_get.bind fun f => ?_
  split
  · exact mirrors_pure _
  · exact (mirrors_within (mirrors_perform hs (.close f.handle) (by simp))).bind fun _ =>
      mirrors_set _

lemma mirrors_readRest (hs : s'.isMounted = s.isMounted) (chunk fuel : Nat) (done : List Bytes) :
    Mirrors (readRest s chunk fuel done) (readRest s' chunk fuel done) := by
  induction fuel generalizing done with
  | zero => exact mirrors_pure _
  | succ fuel ih =>
      have hread : Mirrors (FileStream.read s chunk) (FileStream.read s' chunk) :=
        mirrors_requireOpen.bind fun _ => mirrors_get.bind fun f =>
          (mirrors_within (mirrors_perform hs (.pread f.handle chunk f.position) (by simp))).bind
            fun _ => (mirrors_set _).bind fun _ => mirrors_pure _
      refine hread.bind fun reply => ?_
      obtain ⟨n, bytes⟩ := reply
      dsimp only
      split
      · exact mirrors_pure _
      · exact ih _

/-- A file is read to its end alike in two sessions, since only the extent of the container bounds
the reads. -/
theorem mirrors_readAll (hs : s'.isMounted = s.isMounted) (chunk : Nat) :
    Mirrors (readAll s chunk) (readAll s' chunk) := by
  intro f
  have hview : ∀ s : Session, (readAll s chunk).run.run f
      = .look fun view => (readRest s chunk (view.extent + 1) []).run.run f := fun _ => rfl
  rw [hview, hview]
  refine .look fun view view' hextent => ?_
  rw [hextent]
  exact mirrors_readRest hs chunk _ [] f

lemma mirrors_writeRest (hs : s'.isMounted = s.isMounted) (written : Nat) (buffer : Bytes) :
    Mirrors (writeRest s written buffer) (writeRest s' written buffer) := by
  fun_induction writeRest s written buffer with
  | case1 written =>
      rw [writeRest]
      exact mirrors_pure _
  | case2 written b rest ih =>
      rw [writeRest]
      refine mirrors_get.bind fun f => ?_
      refine (mirrors_within (mirrors_perform hs (.pwrite f.handle (b :: rest) f.position)
        (by simp))).bind fun n => ?_
      split
      · exact mirrors_throw _
      · exact (mirrors_set _).bind fun _ => ih n

/-- A buffer is written alike in two sessions. -/
theorem mirrors_write (hs : s'.isMounted = s.isMounted) (buffer : Bytes) :
    Mirrors (FileStream.write s buffer) (FileStream.write s' buffer) := by
  refine mirrors_requireOpen.bind fun _ => mirrors_get.bind fun f => ?_
  split
  · exact (mirrors_within (mirrors_perform hs (.fstat f.handle) (by simp))).bind fun _ =>
      (mirrors_set _).bind fun _ => mirrors_writeRest hs 0 buffer
  · exact mirrors_writeRest hs 0 buffer

end FileStream

end Strongbox
