import Mathlib.Tactic.Lemma
import Strongbox.Engine.Request

/-!
# Laws of scripts

A script is a tree of requests, one branch for each reply.  What it does with an engine is known from
the requests that it makes on the way and from what they are answered.

* `Request.isWork`, `Request.looks` — a request works with a container that is open already, or only
  looks at it.
* `Script.exchanges` — the requests of a run, with the replies to them.
* `Script.run_bind`, `Script.exchanges_bind` — one script after another.
* `StorageEngine.Answers` — what the exchanges of a run make of the engine.
* `Script.Only` — the requests that a script makes, whatever they are answered.
* `Script.Ends` — the exchanges and the values that it ends with.
* **`Script.Only.of_mem_exchanges`**, **`Script.Ends.of_run`** — what holds of a script holds of its
  runs, for every engine.
-/

namespace Strongbox

/-- Whether a request works with a container, rather than opening or closing one. -/
def Request.isWork : Request → Bool
  | .openContainer .. | .closeHandle _ => false
  | _ => true

/-- Whether a request only looks at the engine and its container. -/
def Request.looks : Request → Bool
  | .instanceCount | .read .. | .getattr _ | .access .. | .isDir _ | .readdir _ => true
  | _ => false

lemma Request.isWork_of_looks {asked : Request} (h : asked.looks = true) : asked.isWork = true := by
  cases asked with
  | openContainer | closeHandle => cases h
  | _ => rfl

/-- A request together with the reply to it. -/
structure Exchange where
  request : Request
  reply : request.Reply

namespace Script

variable {α β σ : Type}

/-! ## Scripts as programs -/

lemma bind_done (script : Script α) : script.bind .done = script := by
  induction script with
  | done value => rfl
  | ask request next ih => exact congrArg (Script.ask request) (funext ih)
  | look next ih => exact congrArg Script.look (funext ih)

lemma bind_bind {γ : Type} (script : Script α) (f : α → Script β) (g : β → Script γ) :
    (script.bind f).bind g = script.bind fun value => (f value).bind g := by
  induction script with
  | done value => rfl
  | ask request next ih => exact congrArg (Script.ask request) (funext ih)
  | look next ih => exact congrArg Script.look (funext ih)

instance : LawfulMonad Script :=
  LawfulMonad.mk' Script bind_done (fun _ _ => rfl) bind_bind

/-! ## Runs -/

/-- The requests of a run, first to last, with the replies to them. -/
def exchanges (engine : StorageEngine σ) (thread : Thread) : Script α → σ → List Exchange
  | .done _, _ => []
  | .ask request next, state =>
    let (reply, state) := engine.respond thread request state
    ⟨request, reply⟩ :: exchanges engine thread (next reply) state
  | .look next, state => exchanges engine thread (next (engine.view state)) state

variable (engine : StorageEngine σ) (thread : Thread)

lemma run_bind (script : Script α) (f : α → Script β) (state : σ) :
    (script >>= f).run engine thread state
      = (f (script.run engine thread state).1).run engine thread
        (script.run engine thread state).2 := by
  induction script generalizing state with
  | done value => rfl
  | ask request next ih => exact ih _ _
  | look next ih => exact ih _ _

lemma exchanges_bind (script : Script α) (f : α → Script β) (state : σ) :
    (script >>= f).exchanges engine thread state
      = script.exchanges engine thread state
        ++ (f (script.run engine thread state).1).exchanges engine thread
          (script.run engine thread state).2 := by
  induction script generalizing state with
  | done value => rfl
  | ask request next ih => exact congrArg (List.cons _) (ih _ _)
  | look next ih => exact ih _ _

lemma run_map (f : α → β) (script : Script α) (state : σ) :
    (f <$> script).run engine thread state
      = (f (script.run engine thread state).1, (script.run engine thread state).2) :=
  run_bind engine thread script _ state

lemma exchanges_map (f : α → β) (script : Script α) (state : σ) :
    (f <$> script).exchanges engine thread state = script.exchanges engine thread state :=
  (exchanges_bind engine thread script _ state).trans (List.append_nil _)

/-! ## The requests of a script -/

/-- All requests of a script are of one sort, whatever they are answered. -/
def Only (P : Request → Prop) : Script α → Prop
  | .done _ => True
  | .ask request next => P request ∧ ∀ reply, Only P (next reply)
  | .look next => ∀ view, Only P (next view)

variable {engine thread} {P : Request → Prop}

lemma Only.bind {script : Script α} {f : α → Script β} (h : script.Only P)
    (hf : ∀ value, (f value).Only P) : (script >>= f).Only P := by
  induction script with
  | done value => exact hf value
  | ask request next ih => exact ⟨h.1, fun reply => ih reply (h.2 reply)⟩
  | look next ih => exact fun view => ih view (h view)

lemma Only.mono {Q : Request → Prop} {script : Script α} (h : script.Only P)
    (hPQ : ∀ asked, P asked → Q asked) : script.Only Q := by
  induction script with
  | done value => trivial
  | ask request next ih => exact ⟨hPQ request h.1, fun reply => ih reply (h.2 reply)⟩
  | look next ih => exact fun view => ih view (h view)

/-- A run makes no other requests than its script. -/
theorem Only.of_mem_exchanges {script : Script α} (h : script.Only P) {state : σ}
    {exchange : Exchange} (hmem : exchange ∈ script.exchanges engine thread state) :
    P exchange.request := by
  induction script generalizing state with
  | done value => cases hmem
  | ask request next ih =>
      obtain _ | ⟨_, hmem⟩ := hmem
      · exact h.1
      · exact ih _ (h.2 _) hmem
  | look next ih => exact ih _ (h _) hmem

/-! ## The ends of a script -/

/-- However the requests of a script are answered, the exchanges and the value fit together. -/
def Ends (R : List Exchange → α → Prop) : Script α → Prop
  | .done value => R [] value
  | .ask request next => ∀ reply, Ends (fun rest => R (⟨request, reply⟩ :: rest)) (next reply)
  | .look next => ∀ view, Ends R (next view)

/-- Every run of a script is one of its ends. -/
theorem Ends.of_run {R : List Exchange → α → Prop} {script : Script α} (h : script.Ends R)
    (engine : StorageEngine σ) (thread : Thread) (state : σ) :
    R (script.exchanges engine thread state) (script.run engine thread state).1 := by
  induction script generalizing R state with
  | done value => exact h
  | ask request next ih => exact ih _ (h _) _
  | look next ih => exact ih _ (h _) _

end Script

/-! ## The engine behind a run -/

/-- An engine comes from one state to another by answering requests. -/
def StorageEngine.Answers {σ : Type} (engine : StorageEngine σ) (thread : Thread) :
    σ → List Exchange → σ → Prop
  | state, [], last => last = state
  | state, exchange :: rest, last =>
    exchange.reply = (engine.respond thread exchange.request state).1
      ∧ engine.Answers thread (engine.respond thread exchange.request state).2 rest last

lemma Script.answers_of_run {α σ : Type} (engine : StorageEngine σ) (thread : Thread)
    (script : Script α) (state : σ) :
    engine.Answers thread state (script.exchanges engine thread state)
      (script.run engine thread state).2 := by
  induction script generalizing state with
  | done value => rfl
  | ask request next ih => exact ⟨rfl, ih _ _⟩
  | look next ih => exact ih _ _

end Strongbox
