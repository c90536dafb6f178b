import Strongbox.Proofs.Engine.Script
import Strongbox.Session.Operations

/-!
# Operations and their gate

The operations on a mounted container, as data.

* `Call.Only` — the requests that a call makes, whatever they are answered.
* `Call.Works`, `Call.Looks` — these are work with an open container, or nothing but a look at it.
* `Session.Operation` — the operations, each with the name under which it is refused.
* **`Session.Operation.gated`** — each operation asks for a mounted container before anything else,
  and after that it does nothing but work.

So a new operation has to be shown gated, and nothing else about it is used later on.
-/

namespace Strongbox

/-! ## Calls -/

namespace Call

variable {α β : Type}

/-- All requests of a call are of one sort, whatever they are answered. -/
def Only (P : Request → Prop) (call : Call α) : Prop :=
  Script.Only P call.run

/-- A call works on the container and does nothing else. -/
abbrev Works (call : Call α) : Prop :=
  call.Only fun asked => asked.isWork = true

/-- A call looks at the container and does nothing else. -/
abbrev Looks (call : Call α) : Prop :=
  call.Only fun asked => asked.looks = true

variable {P : Request → Prop}

lemma only_pure (value : α) : Only P (pure value : Call α) :=
  trivial

lemma only_throw (fault : Fault) : Only P (throw fault : Call α) :=
  trivial

lemma only_check (operation : String) (code : Int) : Only P (check operation code) :=
  trivial

lemma only_host : Only P host :=
  fun _ => trivial

lemma only_request {asked : Request} (h : P asked) : Only P (request asked) :=
  ⟨h, fun _ => trivial⟩

lemma works_request {asked : Request} (h : asked.isWork = true) : Works (request asked) :=
  only_request h

lemma looks_request {asked : Request} (h : asked.looks = true) : Looks (request asked) :=
  only_request h

lemma Looks.works {call : Call α} (h : call.Looks) : call.Works :=
  Script.Only.mono h fun _ => Request.isWork_of_looks

lemma Only.bind {call : Call α} {f : α → Call β} (h : call.Only P) (hf : ∀ value, (f value).Only P) :
    Only P (call >>= f) := by
  refine Script.Only.bind h fun outcome => ?_
  cases outcome with
  | ok value => exact hf value
  | error fault => trivial

lemma Only.discard {call : Call α} (h : call.Only P) : Only P (discard call) := by
  refine Script.Only.bind h fun outcome => ?_
  cases outcome with
  | ok value => trivial
  | error fault => trivial

lemma works_change (operation : String) (asked : Change) : Works (change operation asked) :=
  (works_request rfl).bind fun code => only_check operation code

end Call

namespace Session

/-! ## Looking -/

section Looking

variable (s : Session)

lemma only_require {P : Request → Prop} (operation : String) :
    Call.Only P (s.require operation) := by
  unfold require
  split
  · exact Call.only_pure _
  · exact Call.only_throw _

lemma looks_attributes (operation path : String) : (s.attributes operation path).Looks :=
  (s.only_require operation).bind fun _ => (Call.looks_request rfl).bind fun _ =>
    (Call.only_check _ _).bind fun _ => Call.only_pure _

lemma looks_list (path : String) : (s.list path).Looks :=
  (s.only_require "list").bind fun _ => (Call.looks_request rfl).bind fun _ =>
    (Call.only_check _ _).bind fun _ => Call.only_pure _

lemma looks_isDirectory (path : String) : (s.isDirectory path).Looks :=
  (s.only_require "is_directory").bind fun _ => Call.looks_request rfl

lemma looks_pread (handle : PathHandle) (count offset : Nat) :
    (s.pread handle count offset).Looks := by
  refine (s.only_require "pread").bind fun _ => (Call.looks_request rfl).bind fun reply => ?_
  obtain ⟨code, bytes⟩ := reply
  dsimp only
  split
  · exact Call.only_pure _
  · split
    · exact Call.only_pure _
    · exact Call.only_throw _

lemma looks_close (handle : PathHandle) : (s.close handle).Looks :=
  (s.only_require "close").bind fun _ => Call.only_pure _

lemma looks_statfs : s.statfs.Looks := by
  refine (s.only_require "statfs").bind fun _ => ?_
  split
  · exact Call.only_throw _
  · refine Call.only_host.bind fun host => ?_
    split
    · exact Call.only_throw _
    · exact Call.only_pure _

end Looking

/-! ## Operations -/

/-- The calls that need a mounted container. -/
inductive Operation where
  | beginTransaction
  | completeTransaction
  | rollbackTransaction
  | openFile (path : String) (flags : OpenFlags) (mode : Nat)
  | close (handle : PathHandle)
  | pread (handle : PathHandle) (count offset : Nat)
  | pwrite (handle : PathHandle) (buffer : Bytes) (offset : Nat)
  | fsync (handle : PathHandle)
  | ftruncate (handle : PathHandle) (length : Nat)
  | truncate (path : String) (length : Nat)
  | mkdir (path : String) (mode : Nat)
  | rmdir (path : String)
  | unlink (path : String)
  | remove (path : String)
  | rename (source target : String)
  | link (source target : String)
  | symlink (target path : String)
  | list (path : String)
  | isDirectory (path : String)
  | stat (path : String)
  | fstat (handle : PathHandle)
  | lstat (path : String)
  | access (path : String) (mode : AccessMode)
  | chmod (path : String) (mode : Nat)
  | utimens (path : String) (atime mtime : Option Time)
  | lastModified (path : String)
  | setLastModified (path : String) (mtime : Time)
  | statfs

namespace Operation

/-- The name under which an operation is refused. -/
def name : Operation → String
  | beginTransaction => "begin_transaction"
  | completeTransaction => "complete_transaction"
  | rollbackTransaction => "rollback_transaction"
  | openFile .. => "open"
  | close _ => "close"
  | pread .. => "pread"
  | pwrite .. => "pwrite"
  | fsync _ => "fsync"
  | ftruncate .. => "ftruncate"
  | truncate .. => "truncate"
  | mkdir .. => "mkdir"
  | rmdir _ => "rmdir"
  | unlink _ => "unlink"
  | remove _ => "remove"
  | rename .. => "rename"
  | link .. => "link"
  | symlink .. => "symlink"
  | list _ => "list"
  | isDirectory _ => "is_directory"
  | stat _ => "stat"
  | fstat _ => "fstat"
  | lstat _ => "lstat"
  | access .. => "access"
  | chmod .. => "chmod"
  | utimens .. => "utimens"
  | lastModified _ => "last_modified"
  | setLastModified .. => "set_last_modified"
  | statfs => "statfs"

/-- What an operation gives back. -/
def Result : Operation → Type
  | openFile .. | close _ => PathHandle
  | pread .. => Nat × Bytes
  | pwrite .. => Nat
  | list _ => List String
  | isDirectory _ | access .. => Bool
  | stat _ | fstat _ | lstat _ => FileStat
  | lastModified _ => Time
  | statfs => VolumeStat
  | _ => Unit

def perform (s : Session) : (operation : Operation) → Call operation.Result
  | beginTransaction => s.beginTransaction
  | completeTransaction => s.completeTransaction
  | rollbackTransaction => s.rollbackTransaction
  | openFile path flags mode => s.openFile path flags mode
  | close handle => s.close handle
  | pread handle count offset => s.pread handle count offset
  | pwrite handle buffer offset => s.pwrite handle buffer offset
  | fsync handle => s.fsync handle
  | ftruncate handle length => s.ftruncate handle length
  | truncate path length => s.truncate path length
  | mkdir path mode => s.mkdir path mode
  | rmdir path => s.rmdir path
  | unlink path => s.unlink path
  | remove path => s.remove path
  | rename source target => s.rename source target
  | link source target => s.link source target
  | symlink target path => s.symlink target path
  | list path => s.list path
  | isDirectory path => s.isDirectory path
  | stat path => s.stat path
  | fstat handle => s.fstat handle
  | lstat path => s.lstat path
  | access path mode => s.access path mode
  | chmod path mode => s.chmod path mode
  | utimens path atime mtime => s.utimens path atime mtime
  | lastModified path => s.lastModified path
  | setLastModified path mtime => s.setLastModified path mtime
  | statfs => s.statfs


variable {s : Session}

/-- Carrying out one step of an open is work. -/
lemma works_attempt (slot : FaultSlot) (asked : Change) : (attempt slot asked).Works := by
  refine (Call.works_request rfl).bind fun code => Call.Only.discard ?_
  cases (slot.check "open" code).1 with
  | ok value => exact Call.only_pure value
  | error fault => exact Call.only_throw fault

lemma works_openOrCreate (path : String) (flags : OpenFlags) (mode : Nat) :
    (openOrCreate path flags mode).Works := by
  unfold openOrCreate
  split
  · exact works_attempt _ _
  split
  · refine (Call.works_request rfl).bind fun code => ?_
    split
    · exact works_attempt _ _
    · split
      · exact works_attempt _ _
      · exact works_attempt _ _
  · exact works_attempt _ _

/-- Each operation is the gate under its name, and after that nothing but work. -/
theorem gated (s : Session) (operation : Operation) :
    ∃ body : Call operation.Result,
      operation.perform s = (s.require operation.name >>= fun _ => body) ∧ body.Works := by
  cases operation with
  | beginTransaction | completeTransaction | rollbackTransaction | fsync =>
      exact ⟨_, rfl, (Call.works_request rfl).bind fun _ => (Call.only_check _ _).discard⟩
  | openFile path flags mode =>
      exact ⟨_, rfl, (works_openOrCreate path flags mode).bind fun _ =>
        (Call.works_request rfl).bind fun _ => Call.only_pure _⟩
  | close handle => exact ⟨_, rfl, Call.only_pure _⟩
  | pread handle count offset =>
      refine ⟨_, rfl, (Call.works_request rfl).bind fun reply => ?_⟩
      obtain ⟨code, bytes⟩ := reply
      dsimp only
      split
      · exact Call.only_pure _
      · split
        · exact Call.only_pure _
        · exact Call.only_throw _
  | pwrite => exact ⟨_, rfl, Call.works_change _ _⟩
  | ftruncate | truncate | mkdir | rmdir | unlink | rename | link | symlink | chmod | utimens
  | setLastModified => exact ⟨_, rfl, (Call.works_change _ _).discard⟩
  | remove path =>
      refine ⟨_, rfl, (Call.works_request rfl).bind fun directory => ?_⟩
      split
      · exact (Call.works_change _ _).discard
      · exact (Call.works_change _ _).discard
  | list path =>
      exact ⟨_, rfl, (Call.works_request rfl).bind fun _ =>
        (Call.only_check _ _).bind fun _ => Call.only_pure _⟩
  | isDirectory path => exact ⟨_, rfl, Call.works_request rfl⟩
  | stat | fstat =>
      exact ⟨_, rfl, (Call.works_request rfl).bind fun _ =>
        (Call.only_check _ _).bind fun _ => Call.only_pure _⟩
  | lstat path => exact ⟨_, rfl, Call.only_throw _⟩
  | access path mode =>
      refine ⟨_, rfl, (Call.works_request rfl).bind fun code => ?_⟩
      split
      · exact Call.only_pure _
      · split
        · exact Call.only_pure _
        · exact Call.only_throw _
  | lastModified path =>
      -- The gate stands inside the attributes that are asked for.
      refine ⟨_, bind_assoc _ _ _, Call.Only.bind ?_ fun _ => Call.only_pure _⟩
      exact (Call.works_request rfl).bind fun _ =>
        (Call.only_check _ _).bind fun _ => Call.only_pure _
  | statfs =>
      refine ⟨_, rfl, ?_⟩
      split
      · exact Call.only_throw _
      · refine Call.only_host.bind fun host => ?_
        split
        · exact Call.only_throw _
        · exact Call.only_pure _

/-- Whether or not a container is mounted, an operation does nothing but work. -/
lemma works (s : Session) (operation : Operation) : (operation.perform s).Works := by
  obtain ⟨body, hgate, hbody⟩ := operation.gated s
  rw [hgate]
  exact (s.only_require operation.name).bind fun _ => hbody

/-- While nothing is mounted, an operation fails without a request. -/
lemma refused (h : s.isMounted = false) (operation : Operation) :
    operation.perform s = throw (.illegalState (.notMounted operation.name)) := by
  obtain ⟨body, hgate, -⟩ := operation.gated s
  rw [hgate, require, h]
  rfl

end Operation

end Session

end Strongbox
