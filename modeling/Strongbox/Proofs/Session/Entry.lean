import Strongbox.Proofs.Session.Lifecycle
import Strongbox.Proofs.Session.Stream

/-!
# The calls of a session

Everything that can be asked of a session, as data.  A call becomes a script that ends with the
session after the call.

* `Session.Entry` — the calls.
* `Session.Passage` — the two ways of a call: by work on a mounted container, which leaves the session
  as it is, or by the end of a lifecycle call.
* **`Session.Entry.passage`** — every call goes one of these ways.
-/

namespace Strongbox

namespace Session

/-- A call on a session.  The streams that are used may be any; looking at a session asks nothing of
the engine and is left out. -/
inductive Entry where
  | lifecycle (call : Lifecycle)
  | operation (asked : Operation)
  | liveHandles
  | openStream (options : OpenOptions) (path : String)
  | useStream (f : FileStream) (use : FileStream.Use)

/-- The session after a call. -/
def Entry.script (s : Session) : Entry → Script Session
  | .lifecycle call => Prod.snd <$> call.perform.run.run s
  | .operation asked => (fun _ => s) <$> (asked.perform s).run
  | .liveHandles => (fun _ => s) <$> s.liveHandles
  | .openStream options path => (fun _ => s) <$> (options.openFile s path).run
  | .useStream f use => (fun _ => s) <$> (use.perform s).run.run f

/-- What can come of a call, by its requests. -/
inductive Passage (s : Session) : List Exchange → Session → Prop
  | worked {exchanges : List Exchange}
      (h : ∀ exchange ∈ exchanges, s.isMounted = true ∧ exchange.request.isWork = true) :
      Passage s exchanges s
  | lifecycle {exchanges : List Exchange} {call : Lifecycle} {result : Except Fault Unit}
      {s' : Session} (h : call.Outcome s exchanges result s') : Passage s exchanges s'

variable {σ : Type} (engine : StorageEngine σ) (thread : Thread) (s : Session) (state : σ)

/-- A script that works on the container if there is one, and else asks nothing. -/
lemma passage_of_work {α : Type} {script : Script α}
    (hworks : script.Only fun asked => asked.isWork = true)
    (hidle : s.isMounted = false → ∃ value, script = .done value) :
    Passage s (((fun _ => s) <$> script).exchanges engine thread state)
      (((fun _ => s) <$> script).run engine thread state).1 := by
  rw [Script.exchanges_map, Script.run_map]
  refine .worked fun exchange hmem => ⟨?_, hworks.of_mem_exchanges hmem⟩
  cases hmounted : s.isMounted with
  | true => rfl
  | false =>
      obtain ⟨value, rfl⟩ := hidle hmounted
      cases hmem

/-- Every call goes one of these ways. -/
theorem Entry.passage (entry : Entry) :
    Passage s ((entry.script s).exchanges engine thread state)
      ((entry.script s).run engine thread state).1 := by
  cases entry with
  | lifecycle call =>
      rw [script, Script.exchanges_map, Script.run_map]
      exact .lifecycle ((call.ends s).of_run engine thread state)
  | operation asked =>
      refine passage_of_work engine thread s state (asked.works s) fun h => ?_
      exact ⟨_, congrArg ExceptT.run (asked.refused h)⟩
  | liveHandles =>
      refine passage_of_work engine thread s state ?_ fun h => ⟨0, ?_⟩
      · rw [Session.liveHandles]
        cases s.isMounted with
        | true => exact ⟨rfl, fun _ => trivial⟩
        | false => trivial
      · rw [Session.liveHandles, h]
        rfl
  | openStream options path =>
      refine passage_of_work engine thread s state (options.works_openFile s path) fun h => ?_
      exact ⟨_, congrArg ExceptT.run (options.openFile_refused h path)⟩
  | useStream f use =>
      refine passage_of_work engine thread s state (use.works s f) fun h => ?_
      obtain ⟨outcome, position, huse⟩ := use.idle h f
      exact ⟨_, huse⟩

end Session

end Strongbox
