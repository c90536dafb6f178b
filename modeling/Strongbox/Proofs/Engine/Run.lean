import Strongbox.Proofs.Engine.Effect

/-!
# Runs of a machine

A machine goes on by requests, each at any moment and from any thread, by the end of threads, and by
what other programs do on its host.  Other programs may do anything but write to the container file
while the container is open.

* `Machine.Step` — one step, with the requests that are allowed for it.
* `Machine.Run` — any number of steps.
* `Machine.Reachable` — what can become of an engine that starts with nothing open.
* **`Machine.Run.invariant`** — what each step keeps holds after the run.
-/

namespace Strongbox

namespace Machine

/-- The numbers of the open container are kept in machine words. -/
def Fits (m : Machine) : Prop :=
  ∀ {c : OpenContainer}, m.engine.opened = some c → c.Fits

instance (m : Machine) : Decidable m.Fits :=
  decidable_of_iff (∀ c ∈ m.engine.opened, c.Fits) ⟨fun h _ => h _, fun h _ => h⟩

/-- One step of a machine. -/
inductive Step (suite : CipherSuite) (allowed : Machine → Request → Prop) (m : Machine) :
    Machine → Prop
  /-- A request is answered.  The moment says whether the host refuses the save. -/
  | call (moment : Moment) (thread : Thread) (request : Request) (h : allowed m request) :
      Step suite allowed m (m.answer suite moment thread request).2
  /-- A thread ends. -/
  | exit (thread : Thread) : Step suite allowed m { m with engine := m.engine.exit thread }
  /-- Other programs change the host, but not the file of the open container. -/
  | elsewhere (host : Host)
      (h : ∀ {c : OpenContainer}, m.engine.opened = some c →
        host.read c.path = m.host.read c.path) :
      Step suite allowed m { m with host := host }

/-- Any number of steps, none of which makes a number too large for its word. -/
inductive Run (suite : CipherSuite) (allowed : Machine → Request → Prop) (start : Machine) :
    Machine → Prop
  | start : Run suite allowed start start
  | step {m m' : Machine} (h : Run suite allowed start m) (hstep : m.Step suite allowed m')
      (hfits : m'.Fits) : Run suite allowed start m'

/-- What can become of an engine that starts with nothing open, whatever its host holds. -/
def Reachable (suite : CipherSuite) (m : Machine) : Prop :=
  ∃ config host, Run suite (fun _ _ => True) ⟨.ofConfig config, host⟩ m

variable {suite : CipherSuite} {allowed : Machine → Request → Prop} {start m m' : Machine}

/-- What is kept by each effect of an allowed request, and does not depend on anything but the open
container and its file, holds after every run. -/
theorem Run.invariant {P : Machine → Prop} (hstart : P start)
    (hcall : ∀ {m m' : Machine} {moment : Moment} {request : Request}, P m → allowed m request →
      Effect suite moment m m' request → m'.Fits → P m')
    (hframe : ∀ {m m' : Machine}, P m → m'.engine.opened = m.engine.opened →
      (∀ {c : OpenContainer}, m.engine.opened = some c → m'.host.read c.path = m.host.read c.path) →
      P m')
    (h : Run suite allowed start m) : P m := by
  induction h with
  | start => exact hstart
  | step _ hstep hfits ih =>
      cases hstep with
      | call moment thread request hallowed =>
          exact hcall ih hallowed (effect_of_answer suite moment thread _ request) hfits
      | exit thread => exact hframe ih rfl fun _ => rfl
      | elsewhere host hread => exact hframe ih rfl hread

lemma Run.fits (hstart : start.Fits) (h : Run suite allowed start m) : m.Fits := by
  cases h with
  | start => exact hstart
  | step _ _ hfits => exact hfits

lemma Reachable.fits (h : m.Reachable suite) : m.Fits := by
  obtain ⟨config, host, hrun⟩ := h
  refine hrun.fits ?_
  intro c hc
  cases hc

end Machine

end Strongbox
