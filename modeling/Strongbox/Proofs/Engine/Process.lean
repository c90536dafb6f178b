import Mathlib.Logic.Function.Basic
import Strongbox.Proofs.Engine.Registry

/-!
# Engines and threads

A process has any number of engines, and any number of threads that use them.  A request to an
engine is one step.  When a thread ends, it tells the engines that it is entered with; it enters
itself when an engine first counts it, and the entries of all engines share one list.

* `ContainerEngine.Counted` — what the handles of one engine tell about its container.
* `Process.Step` — a request, the end of a thread, the end of an engine, or a change of the host.
* `Process.Kept` — what is kept of each engine that is still there.
* **`Process.accounted_of_reachable`** — whom an engine counts at any time.

That a thread is no longer counted after its end rests on the entries.  They are not cleared when a
container is closed, so a thread that is counted, forgotten and counted again is entered only once.
-/

namespace Strongbox

/-! ## One engine -/

namespace ContainerEngine

/-- Who has reached the container of an engine after one more request, if a container is open.  One
that is about to be opened has been reached by nobody. -/
def reachedBy (engine : ContainerEngine) (reached : Std.ExtTreeSet Nat) (thread : Thread)
    (request : Request) : Std.ExtTreeSet Nat :=
  if engine.opened = none then ∅
  else if request.reaches then reached.insert thread
  else reached

/-- What is kept of an engine whose container `reached` have reached since it was opened. -/
structure Counted (engine : ContainerEngine) (reached : Std.ExtTreeSet Nat) : Prop where
  opened_iff : engine.opened ≠ none ↔ engine.registry.explicit ≠ ∅
  closed : engine.opened = none → ∀ thread, thread ∉ engine.registry.implicit
  apart : ∀ {thread}, thread ∈ engine.registry.implicit → engine.registry.owns thread = false
  reached : ∀ {thread}, thread ∈ engine.registry.implicit → thread ∈ reached
  watches : engine.registry.Watches

variable {engine : ContainerEngine} {reached : Std.ExtTreeSet Nat} {thread other : Thread}
  {request : Request}

lemma counted_ofConfig (config : EngineConfig) : (ofConfig config).Counted ∅ := by
  have hnobody : ∀ thread, thread ∉ (∅ : Std.ExtTreeSet Nat) :=
    fun _ => Std.ExtTreeSet.not_mem_empty
  exact ⟨⟨fun h => absurd rfl h, fun h => absurd rfl h⟩, fun _ => hnobody,
    fun h => absurd h (hnobody _), fun h => absurd h (hnobody _),
    fun thread h => absurd h (hnobody thread)⟩

/-- A thread that reaches the container belongs to those who have reached it. -/
lemma mem_reachedBy_self (hopen : engine.opened ≠ none) (hreaches : request.reaches = true) :
    thread ∈ engine.reachedBy reached thread request := by
  rw [reachedBy, if_neg hopen, if_pos hreaches]
  exact Std.ExtTreeSet.mem_insert_self

/-- As long as the container stays open, whoever has reached it has done so for good. -/
lemma mem_reachedBy (hopen : engine.opened ≠ none) (h : other ∈ reached) :
    other ∈ engine.reachedBy reached thread request := by
  rw [reachedBy, if_neg hopen]
  split
  · exact Thread.mem_insert.2 (Or.inl h)
  · exact h

/-- Each request keeps what is kept of its engine. -/
lemma Counted.tally {m m' : Machine} (h : m.engine.Counted reached)
    (htally : m.Tally m' thread request) :
    m'.engine.Counted (m.engine.reachedBy reached thread request) := by
  have hopen : ∀ {other}, other ∈ m.engine.registry.implicit → m.engine.opened ≠ none :=
    fun hother hclosed => h.closed hclosed _ hother
  cases htally with
  | issued hopen' hregistry =>
      refine ⟨iff_of_true hopen' ?_, fun hclosed => absurd hclosed hopen', ?_, ?_, ?_⟩
      · rw [hregistry]
        exact Registry.issue_explicit_ne_empty _ _
      · intro other hother
        rw [hregistry, Registry.mem_implicit_issue] at hother
        rw [hregistry, Bool.eq_false_iff]
        intro howns
        obtain howns | rfl := Registry.owns_of_owns_issue _ _ _ howns
        · rw [h.apart hother.1] at howns
          cases howns
        · exact hother.2 rfl
      · intro other hother
        rw [hregistry, Registry.mem_implicit_issue] at hother
        exact mem_reachedBy (hopen hother.1) (h.reached hother.1)
      · rw [hregistry]
        exact h.watches.issue
  | returned hclose hopened =>
      obtain ⟨hmem, hleft, hregistry⟩ := Registry.close_eq_some _ hclose
      have hexplicit : m'.engine.registry.explicit ≠ ∅ := by
        rw [hregistry, ne_eq, Std.ExtTreeMap.eq_empty_iff_size_eq_zero, ← hleft]
        exact Nat.succ_ne_zero _
      have hwas : m.engine.opened ≠ none :=
        h.opened_iff.2 (Std.ExtTreeMap.ne_empty_of_mem hmem)
      refine ⟨iff_of_true (hopened ▸ hwas) hexplicit, fun hclosed => ?_, ?_, ?_, ?_⟩
      · exact absurd (hopened ▸ hclosed) hwas
      · intro other hother
        rw [hregistry] at hother ⊢
        rw [Bool.eq_false_iff]
        intro howns
        have hbefore := Registry.owns_of_owns_erase _ _ howns
        rw [h.apart hother] at hbefore
        cases hbefore
      · intro other hother
        rw [hregistry] at hother
        exact mem_reachedBy hwas (h.reached hother)
      · rw [hregistry]
        exact h.watches
  | closed hclose hregistry hclosed =>
      obtain ⟨hmem, hleft, rfl⟩ := Registry.close_eq_some _ hclose
      have hnobody : ∀ other, other ∉ m'.engine.registry.implicit := by
        rw [hregistry]
        exact fun _ => Std.ExtTreeSet.not_mem_empty
      refine ⟨iff_of_false (not_not_intro hclosed) ?_, fun _ => hnobody,
        fun hother => absurd hother (hnobody _), fun hother => absurd hother (hnobody _),
        fun other hother => absurd hother (hnobody other)⟩
      rw [hregistry, not_not]
      exact Std.ExtTreeMap.eq_empty_iff_size_eq_zero.2 hleft.symm
  | touched hreaches hwas hopen' hregistry =>
      refine ⟨iff_of_true hopen' ?_, fun hclosed => absurd hclosed hopen', ?_, ?_, ?_⟩
      · rw [hregistry, Registry.explicit_touch]
        exact h.opened_iff.1 hwas
      · intro other hother
        rw [hregistry, Registry.mem_implicit_touch] at hother
        rw [hregistry, Registry.owns_touch]
        obtain hother | ⟨rfl, howns⟩ := hother
        · exact h.apart hother
        · exact howns
      · intro other hother
        rw [hregistry, Registry.mem_implicit_touch] at hother
        obtain hother | ⟨rfl, -⟩ := hother
        · exact mem_reachedBy hwas (h.reached hother)
        · exact mem_reachedBy_self hwas hreaches
      · rw [hregistry]
        exact h.watches.touch
  | unchanged hsame hreaches =>
      rw [hsame]
      refine ⟨h.opened_iff, h.closed, h.apart, ?_, h.watches⟩
      exact fun hother => mem_reachedBy (hopen hother) (h.reached hother)

lemma Counted.exit (h : engine.Counted reached) : (engine.exit thread).Counted reached := by
  have hbefore : ∀ {other}, other ∈ (engine.exit thread).registry.implicit →
      other ∈ engine.registry.implicit := fun hother => (h.watches.mem_implicit_exit.1 hother).1
  refine ⟨?_, fun hclosed other hother => h.closed hclosed other (hbefore hother),
    fun hother => ?_, fun hother => h.reached (hbefore hother), h.watches.exit⟩
  · show engine.opened ≠ none ↔ (engine.registry.exit thread).explicit ≠ ∅
    rw [Registry.explicit_exit]
    exact h.opened_iff
  · show (engine.registry.exit thread).owns _ = false
    rw [Registry.owns, Registry.explicit_exit]
    exact h.apart (hbefore hother)

end ContainerEngine

/-! ## Many engines -/

/-- A process, with what is remembered about its past. -/
structure Process where
  /-- The engines by number.  No two engines ever have the same number. -/
  engines : Nat → ContainerEngine
  host : Host
  /-- The engines that are gone. -/
  dropped : Std.ExtTreeSet Nat
  /-- The engines that each thread is going to tell of its end. -/
  slots : Thread → List Nat
  /-- The threads that have ended. -/
  ended : Std.ExtTreeSet Nat
  /-- The threads that have reached the container of each engine since it was opened. -/
  reached : Nat → Std.ExtTreeSet Nat

namespace Process

/-- A process at its beginning, with an engine for each configuration. -/
def start (configs : Nat → EngineConfig) (host : Host) : Process :=
  ⟨fun i => .ofConfig (configs i), host, ∅, fun _ => [], ∅, fun _ => ∅⟩

/-- The entries of a thread that enters itself with an engine.  Those of engines that are gone are
cleared away, and no engine is entered twice. -/
def enrol (p : Process) (i : Nat) (thread : Thread) : List Nat :=
  let kept := (p.slots thread).filter (· ∉ p.dropped)
  if i ∈ kept then kept else kept ++ [i]

/-- A thread makes a request to an engine. -/
def call (suite : CipherSuite) (moment : Moment) (thread : Thread) (i : Nat) (request : Request)
    (p : Process) : Process :=
  let before := p.engines i
  let after := (Machine.answer suite moment thread request ⟨before, p.host⟩).2
  let counted := thread ∈ after.engine.registry.implicit ∧ thread ∉ before.registry.implicit
  { p with
    engines := Function.update p.engines i after.engine
    host := after.host
    slots := if counted then Function.update p.slots thread (p.enrol i thread) else p.slots
    reached := Function.update p.reached i (before.reachedBy (p.reached i) thread request) }

/-- A thread ends, and tells the engines that it is entered with. -/
def exit (thread : Thread) (p : Process) : Process :=
  { p with
    engines := fun i => if i ∈ p.slots thread then (p.engines i).exit thread else p.engines i
    slots := Function.update p.slots thread []
    ended := p.ended.insert thread }

/-- One step of a process.  A thread that has ended makes no requests, and an engine that is gone
gets none. -/
inductive Step (suite : CipherSuite) (p : Process) : Process → Prop
  | call (moment : Moment) (thread : Thread) (i : Nat) (request : Request)
      (hlive : thread ∉ p.ended) (hthere : i ∉ p.dropped) :
      Step suite p (p.call suite moment thread i request)
  | exit (thread : Thread) : Step suite p (p.exit thread)
  /-- An engine goes, whatever state it is in. -/
  | drop (i : Nat) : Step suite p { p with dropped := p.dropped.insert i }
  /-- Other programs change the host in any way. -/
  | elsewhere (host : Host) : Step suite p { p with host := host }

/-- What can become of a process. -/
inductive Reachable (suite : CipherSuite) : Process → Prop
  | start (configs : Nat → EngineConfig) (host : Host) : Reachable suite (start configs host)
  | step {p p' : Process} (h : Reachable suite p) (hstep : p.Step suite p') : Reachable suite p'

variable {suite : CipherSuite} {moment : Moment} {thread other : Thread} {i j : Nat}
  {request : Request} {p p' : Process}

/-- What is kept of an engine that is still there.  The threads that it watches are those that are
entered with it. -/
structure Kept (p : Process) (i : Nat) : Prop where
  counted : (p.engines i).Counted (p.reached i)
  alive : ∀ {thread}, thread ∈ (p.engines i).registry.implicit → thread ∉ p.ended
  entered : ∀ {thread}, thread ∈ (p.engines i).registry.watched ↔ i ∈ p.slots thread

/-- Entering a thread with one engine leaves its entries with the others that are there. -/
lemma mem_enrol (hthere : j ∉ p.dropped) : j ∈ p.enrol i thread ↔ j ∈ p.slots thread ∨ j = i := by
  have hkept : j ∈ (p.slots thread).filter (· ∉ p.dropped) ↔ j ∈ p.slots thread := by
    simp [hthere]
  rw [enrol]
  split
  · next hi =>
      rw [hkept]
      refine ⟨Or.inl, ?_⟩
      rintro (hj | rfl)
      · exact hj
      · exact hkept.1 hi
  · rw [List.mem_append, hkept, List.mem_singleton]

/-- What is kept of an engine depends only on the engine and on what is remembered about it. -/
lemma Kept.congr (h : p.Kept j) (hengine : p'.engines j = p.engines j) (hended : p'.ended = p.ended)
    (hreached : p'.reached j = p.reached j)
    (hslots : ∀ {thread}, j ∈ p'.slots thread ↔ j ∈ p.slots thread) : p'.Kept j := by
  obtain ⟨hcounted, halive, hentered⟩ := h
  constructor <;> rw [hengine]
  · exact hreached ▸ hcounted
  · exact hended ▸ halive
  · exact hentered.trans hslots.symm

/-- A request to another engine is none of an engine's business. -/
lemma Kept.call_ne (h : p.Kept j) (hne : j ≠ i) (hthere : j ∉ p.dropped) :
    (p.call suite moment thread i request).Kept j := by
  refine h.congr (Function.update_of_ne hne _ _) rfl (Function.update_of_ne hne _ _) ?_
  intro other
  show j ∈ (if _ then Function.update p.slots thread (p.enrol i thread) else p.slots) other ↔ _
  split
  · rcases eq_or_ne other thread with rfl | hother
    · rw [Function.update_self, mem_enrol hthere, or_iff_left hne]
    · rw [Function.update_of_ne hother]
  · rfl

lemma Kept.call (h : p.Kept i) (hlive : thread ∉ p.ended) (hthere : i ∉ p.dropped) :
    (p.call suite moment thread i request).Kept i := by
  have htally := Machine.tally_of_answer suite moment thread ⟨p.engines i, p.host⟩ request
  have hengine : (p.call suite moment thread i request).engines i
      = (Machine.answer suite moment thread request ⟨p.engines i, p.host⟩).2.engine :=
    Function.update_self ..
  have hreached : (p.call suite moment thread i request).reached i
      = (p.engines i).reachedBy (p.reached i) thread request := Function.update_self ..
  constructor <;> rw [hengine]
  · rw [hreached]
    exact h.counted.tally htally
  · intro other hother
    obtain hother | rfl := htally.mem_implicit hother
    · exact h.alive hother
    · exact hlive
  · intro other
    rw [htally.mem_watched, h.entered]
    show _ ↔ i ∈ (if _ then Function.update p.slots thread (p.enrol i thread) else p.slots) other
    split
    · next hnew =>
        rcases eq_or_ne other thread with rfl | hother
        · rw [Function.update_self, mem_enrol hthere]
          exact ⟨fun _ => Or.inr rfl, fun _ => Or.inr ⟨rfl, hnew⟩⟩
        · rw [Function.update_of_ne hother, or_iff_left fun h => hother h.1]
    · next hnew => rw [or_iff_left fun h => hnew h.2]

/-- A thread that ends finds every engine that counts it among its entries. -/
lemma Kept.exit (h : p.Kept i) : (p.exit thread).Kept i := by
  have hengine : (p.exit thread).engines i = (p.engines i).exit thread := by
    by_cases hentered : i ∈ p.slots thread
    · exact if_pos hentered
    · refine (if_neg hentered).trans ?_
      rw [ContainerEngine.exit, Registry.exit, if_neg fun hw => hentered (h.entered.1 hw)]
  constructor <;> rw [hengine]
  · exact h.counted.exit
  · intro other hother hended
    obtain ⟨hbefore, hne⟩ := h.counted.watches.mem_implicit_exit.1 hother
    obtain hended | hsame := Thread.mem_insert.1 hended
    · exact h.alive hbefore hended
    · exact hne hsame
  · intro other
    show other ∈ ((p.engines i).registry.exit thread).watched
      ↔ i ∈ Function.update p.slots thread [] other
    rw [Registry.mem_watched_exit, h.entered]
    rcases eq_or_ne other thread with rfl | hother
    · rw [Function.update_self]
      exact iff_of_false (fun h => h.2 rfl) List.not_mem_nil
    · rw [Function.update_of_ne hother, and_iff_left hother]

/-- Every step keeps what is kept of the engines that are still there. -/
lemma Kept.step (h : i ∉ p.dropped → p.Kept i) (hstep : p.Step suite p') :
    i ∉ p'.dropped → p'.Kept i := by
  intro hthere
  cases hstep with
  | call moment thread j request hlive hthere' =>
      rcases eq_or_ne i j with rfl | hne
      · exact (h hthere).call hlive hthere
      · exact (h hthere).call_ne hne hthere
  | exit thread => exact (h hthere).exit
  | drop j =>
      have hbefore : i ∉ p.dropped := fun hi => hthere (Std.ExtTreeSet.mem_insert.2 (Or.inr hi))
      exact (h hbefore).congr rfl rfl rfl Iff.rfl
  | elsewhere host => exact (h hthere).congr rfl rfl rfl Iff.rfl

lemma Kept.of_reachable (h : p.Reachable suite) : i ∉ p.dropped → p.Kept i := by
  induction h with
  | start configs host =>
      have hnobody : ∀ thread, thread ∉ (∅ : Std.ExtTreeSet Nat) :=
        fun _ => Std.ExtTreeSet.not_mem_empty
      intro _
      exact ⟨ContainerEngine.counted_ofConfig _, fun h => absurd h (hnobody _),
        iff_of_false (hnobody _) List.not_mem_nil⟩
  | step _ hstep ih => exact Kept.step ih hstep

/-! ## Accounting -/

/-- What the handles that an engine counts tell about its container and about the threads. -/
structure Accounted (p : Process) (i : Nat) : Prop where
  /-- A container is open as long as there is an explicit handle. -/
  opened_iff : (p.engines i).opened ≠ none ↔ (p.engines i).registry.explicit ≠ ∅
  /-- No thread has an implicit handle and owns an explicit one. -/
  apart : ∀ thread, ¬ (thread ∈ (p.engines i).registry.implicit
    ∧ ∃ id : UInt64, (p.engines i).registry.explicit[id]? = some thread)
  /-- Whoever has an implicit handle is alive, and has reached the container that is open. -/
  live : ∀ thread ∈ (p.engines i).registry.implicit, thread ∉ p.ended ∧ thread ∈ p.reached i
  /-- The handles of both sorts are counted. -/
  count : ∀ suite moment thread,
    (Machine.answer suite moment thread .instanceCount ⟨p.engines i, p.host⟩).1
      = ((p.engines i).registry.explicit.size + (p.engines i).registry.implicit.size : Nat)
  /-- While nothing is open there are none. -/
  closed : (p.engines i).opened = none → ∀ suite moment thread,
    (Machine.answer suite moment thread .instanceCount ⟨p.engines i, p.host⟩).1 = (0 : Nat)

/-- Whatever the threads of a process do with its engines, in any order, and whenever threads and
engines go: each engine that is still there counts the right ones. -/
theorem accounted_of_reachable (h : p.Reachable suite) (hthere : i ∉ p.dropped) :
    p.Accounted i := by
  obtain ⟨hcounted, halive, -⟩ := Kept.of_reachable h hthere
  refine ⟨hcounted.opened_iff, ?_, fun thread hthread => ⟨halive hthread, hcounted.reached hthread⟩,
    fun _ _ _ => rfl, ?_⟩
  · rintro thread ⟨hthread, howns⟩
    rw [← Registry.owns_iff, hcounted.apart hthread] at howns
    cases howns
  · intro hclosed suite moment thread
    have hexplicit : (p.engines i).registry.explicit = ∅ := by
      by_contra hne
      exact hcounted.opened_iff.2 hne hclosed
    have himplicit : (p.engines i).registry.implicit = ∅ :=
      Std.ExtTreeSet.eq_empty_iff_forall_not_mem.2 (hcounted.closed hclosed)
    show (p.engines i).registry.count = 0
    rw [Registry.count, hexplicit, himplicit]
    rfl

/-- Two threads reach a container that another one has opened, and one of them ends. -/
theorem accounted_after_exit :
    ∃ p : Process, p.Accounted 0 ∧ (p.engines 0).opened ≠ none
      ∧ (p.engines 0).registry.explicit.toList = [(1, mainThread)]
      ∧ (p.engines 0).registry.implicit.toList = [1] ∧ (p.reached 0).toList = [1, 2] := by
  let moment : Moment := ⟨⟨.epoch, 0, 0⟩, [], .ofNat 0, none⟩
  have start : Reachable .standard _ :=
    .start (fun _ => .standard) (.bare ⟨4096, 0, 0, 0, 0, 255⟩ "/")
  have opened : Reachable .standard _ :=
    start.step (.call moment mainThread 0 (.openContainer "/box" (.key (List.replicate 32 0)))
      (by decide +kernel) (by decide +kernel))
  have first : Reachable .standard _ :=
    opened.step (.call moment 1 0 (.getattr "/") (by decide +kernel) (by decide +kernel))
  have second : Reachable .standard _ :=
    first.step (.call moment 2 0 (.isDir "/") (by decide +kernel) (by decide +kernel))
  have ended : Reachable .standard _ := second.step (.exit 2)
  exact ⟨_, accounted_of_reachable ended (by decide +kernel), by decide +kernel, by decide +kernel,
    by decide +kernel, by decide +kernel⟩

end Process

end Strongbox
