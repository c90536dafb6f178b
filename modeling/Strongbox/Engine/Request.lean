import Strongbox.Credential
import Strongbox.Engine.Registry
import Strongbox.Host
import Strongbox.Tree.Change

/-!
# Requests

A storage engine is known by the requests that it answers.  Every request names its file by path,
because an engine keeps no state per open file.

* `Request` are the requests, and `Request.Reply` what each of them is answered with.
* `resultCode` is how most outcomes are told: as a number that is not negative, or as a negated
  error number.
* `StorageEngine` is anything that answers requests.
* `Script` is a program that makes requests.  Since it is a value, its requests can be carried out
  by any engine, and those of several scripts in any order.
-/

namespace Strongbox

/-! ## Result codes -/

/-- The result code of an outcome: the value, or the negated error number. -/
def resultCode : Except Errno Nat → Int
  | .ok value => value
  | .error code => -code.number

/-! ## Requests and replies -/

/-- A request to a storage engine. -/
inductive Request where
  /-- Open the container at a path, or create it. -/
  | openContainer (path : String) (credential : Credential)
  /-- Give an explicit handle back.  The last one closes the container. -/
  | closeHandle (handle : Handle)
  /-- How many handles there are. -/
  | instanceCount
  | change (change : Change)
  /-- Save what was written to files. -/
  | fsync (path : String)
  | read (path : String) (count offset : Nat)
  | getattr (path : String)
  | access (path : String) (mode : AccessMode)
  | isDir (path : String)
  | readdir (path : String)
  | beginTransaction
  | completeTransaction (commit : Bool)
  deriving DecidableEq, Repr

/-- What a request is answered with.  Bytes, attributes and names come with a result code and mean
something only if that is not negative. -/
def Request.Reply : Request → Type
  | .openContainer _ _ => Option Handle
  | .closeHandle _ => Unit
  | .instanceCount => Nat
  | .read _ _ _ => Int × Bytes
  | .getattr _ => Int × FileStat
  | .isDir _ => Bool
  | .readdir _ => Int × List String
  | .change _ | .fsync _ | .access _ _ | .beginTransaction | .completeTransaction _ => Int

/-! ## Engines -/

/-- What can be learnt about an engine without a request. -/
structure View where
  /-- The host that the engine works on. -/
  host : Host
  /-- A bound on the number of names and of bytes that the engine holds. -/
  extent : Nat

/-- Anything that answers requests and changes its state with them. -/
structure StorageEngine (σ : Type) where
  respond : Thread → (request : Request) → σ → request.Reply × σ
  view : σ → View

/-! ## Scripts -/

/-- A program that makes requests to a storage engine. -/
inductive Script (α : Type) where
  | done (value : α)
  | ask (request : Request) (next : request.Reply → Script α)
  | look (next : View → Script α)

namespace Script

def bind : Script α → (α → Script β) → Script β
  | .done value, f => f value
  | .ask request next, f => .ask request fun reply => (next reply).bind f
  | .look next, f => .look fun view => (next view).bind f

instance : Monad Script where
  pure := .done
  bind := .bind

/-- Make one request. -/
def request (request : Request) : Script request.Reply :=
  .ask request .done

/-- Look at the engine from outside. -/
def view : Script View :=
  .look .done

/-- Carry a script out without a break. -/
def run (engine : StorageEngine σ) (thread : Thread) : Script α → σ → α × σ
  | .done value, state => (value, state)
  | .ask request next, state =>
    let (reply, state) := engine.respond thread request state
    run engine thread (next reply) state
  | .look next, state => run engine thread (next (engine.view state)) state

end Script

end Strongbox
