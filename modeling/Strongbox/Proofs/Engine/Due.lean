import Strongbox.Proofs.Engine.Agreement

/-!
# The saves that a run asks for

Many requests save the container before they are answered, and some do not.  Of a run whose saves go
through, more can be said than of any run.

* `Machine.due` — the container as it has to be saved for a request, if it has to be.
* `Machine.Saves` — the save that a request asks for goes through.
* `Script.Saves` — all saves that a run of a script asks for go through.
* **`OpenContainer.change_of_saves`** — a change then does to the tree what it is there for.
-/

namespace Strongbox

/-! ## One request -/

namespace Machine

variable {suite : CipherSuite} {moment : Moment} {m : Machine} {c : OpenContainer}

/-- The container as it has to be saved before a request is answered, if it has to be saved.  A
transaction puts all saves off but the one at its own end, and what is written waits for an
`fsync`. -/
def due (moment : Moment) (m : Machine) (request : Request) : Option OpenContainer :=
  match m.engine.opened with
  | none => none
  | some c =>
    match request, c.transaction with
    | .change change, none =>
      (Request.saved? moment.stamp c.tree (.change change)).map fun tree => { c with tree := tree }
    | .fsync path, none =>
      if c.dirty then
        (Request.saved? moment.stamp c.tree (.fsync path)).map fun tree => { c with tree := tree }
      else none
    | .completeTransaction true, some ⟨depth, _⟩ =>
      if 1 < depth then none else some { c with transaction := none }
    | .closeHandle handle, _ =>
      if (m.engine.registry.close handle).1 = some 0 then some c.rollback else none
    | _, _ => none

/-- The save that a request asks for, if it asks for one, goes through. -/
def Saves (suite : CipherSuite) (moment : Moment) (m : Machine) (request : Request) : Prop :=
  ∀ c ∈ m.due moment request, (c.persist suite moment m.host).isOk = true

instance (request : Request) : Decidable (m.Saves suite moment request) :=
  inferInstanceAs (Decidable (∀ c ∈ m.due moment request, _))

end Machine

/-! ## One change -/

namespace OpenContainer

variable {suite : CipherSuite} {moment : Moment} {m : Machine} {c : OpenContainer}

/-- Where its save goes through, a change is carried out on the tree, or fails because it cannot
be. -/
theorem change_of_saves (hopen : m.engine.opened = some c) {change resolved : Change}
    (hresolve : change.resolve = .ok resolved) (hsaves : m.Saves suite moment (.change change)) :
    ∃ dirty host, c.change suite moment m.host resolved
      = ((resolved.apply moment.stamp c.tree).map fun _ => (),
        { c with tree := resolved.after moment.stamp c.tree, dirty := dirty }, host) := by
  cases ht : c.transaction with
  | some transaction =>
      obtain ⟨dirty, hchange⟩ : ∃ dirty, c.change suite moment m.host resolved
          = ((resolved.apply moment.stamp c.tree).map fun _ => (),
            { c with tree := resolved.after moment.stamp c.tree, dirty := dirty }, m.host) :=
        change_inside ht resolved
      exact ⟨dirty, m.host, by rw [hchange, ht]⟩
  | none =>
      rw [Change.after, ← ht]
      cases ha : resolved.apply moment.stamp c.tree with
      | error code => exact ⟨c.dirty, m.host, change_of_error ha⟩
      | ok tree =>
          rw [change_of_ok ha]
          cases hsaving : resolved.saving with
          | never => exact ⟨c.dirty, m.host, rfl⟩
          | later => exact ⟨true, m.host, rfl⟩
          | atOnce =>
              have hdue : { c with tree := tree } ∈ m.due moment (.change change) := by
                simp only [Machine.due, hopen, ht, Request.saved?, hresolve, hsaving, ha]
                rfl
              obtain ⟨host, hsave⟩ := exists_of_isOk (hsaves _ hdue)
              rw [ht] at hsave
              refine ⟨false, host, ?_⟩
              simp only [ht, hsave]
              rfl

/-- Where its save goes through, nothing is pending after an `fsync` of a file that there is, or a
transaction puts it off. -/
theorem flush_of_saves (hopen : m.engine.opened = some c) {path key : String}
    (hkey : Key.normalize path = .ok key) (hcontains : c.tree.contains key = true)
    (hsaves : m.Saves suite moment (.fsync path)) :
    ∃ dirty host, c.flush suite moment m.host = (.ok (), { c with dirty := dirty }, host) := by
  by_cases hpending : c.dirty = true ∧ c.transaction = none
  · obtain ⟨hdirty, hnone⟩ := hpending
    have hdue : c ∈ m.due moment (.fsync path) := by
      obtain ⟨_, _, _, _, _, _, transaction, dirty⟩ := c
      obtain rfl : transaction = none := hnone
      obtain rfl : dirty = true := hdirty
      simp only [Machine.due, hopen, Request.saved?, hkey]
      rw [if_pos trivial, if_pos hcontains]
      rfl
    obtain ⟨host, hsave⟩ := exists_of_isOk (hsaves c hdue)
    refine ⟨false, host, ?_⟩
    rw [flush, if_pos ⟨hdirty, hnone⟩, save, hsave]
  · exact ⟨c.dirty, m.host, if_neg hpending⟩

end OpenContainer

/-! ## Runs -/

/-- The moment of the next call. -/
def Timeline.moment (line : Timeline) : Moment :=
  line.moments line.calls

namespace Script

variable {α β : Type} {suite : CipherSuite} {thread : Thread}

/-- All saves that a run of a script asks for go through. -/
def Saves (suite : CipherSuite) (thread : Thread) : Script α → Timeline → Prop
  | .done _, _ => True
  | .ask request next, line =>
    line.machine.Saves suite line.moment request
      ∧ Saves suite thread (next ((Timeline.engine suite).respond thread request line).1)
        ((Timeline.engine suite).respond thread request line).2
  | .look next, line => Saves suite thread (next ((Timeline.engine suite).view line)) line

instance decidableSaves : (script : Script α) → (line : Timeline) →
    Decidable (script.Saves suite thread line)
  | .done _, _ => .isTrue trivial
  | .ask request next, line =>
    have := decidableSaves (next ((Timeline.engine suite).respond thread request line).1)
      ((Timeline.engine suite).respond thread request line).2
    inferInstanceAs (Decidable (_ ∧ _))
  | .look next, line => decidableSaves (next ((Timeline.engine suite).view line)) line

/-- The moments of the calls are laid out ahead. -/
lemma moments_run (suite : CipherSuite) (thread : Thread) (script : Script α) (line : Timeline) :
    (script.run (Timeline.engine suite) thread line).2.moments = line.moments := by
  induction script generalizing line with
  | done value => rfl
  | ask request next ih => exact ih _ _
  | look next ih => exact ih _ _

lemma saves_bind {script : Script α} {f : α → Script β} {line : Timeline} :
    (script >>= f).Saves suite thread line ↔ script.Saves suite thread line
      ∧ (f (script.run (Timeline.engine suite) thread line).1).Saves suite thread
        (script.run (Timeline.engine suite) thread line).2 := by
  induction script generalizing line with
  | done value => exact (true_and _).symm ▸ Iff.rfl
  | ask request next ih => exact (and_congr_right fun _ => ih _).trans and_assoc.symm
  | look next ih => exact ih _

end Script

end Strongbox
