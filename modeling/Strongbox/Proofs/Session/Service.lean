import Strongbox.Engine.Machine
import Strongbox.Proofs.Engine.Holder
import Strongbox.Proofs.Session.Entry

/-!
# Sessions over container engines

A session on a container engine that nobody else uses, called by any number of threads.  Each call is
one step, and threads can end between calls.

* `Service.Step` — a call, the end of a thread, or a change of the host.
* `Service.others` — the threads that are in the way of an unmount.
* `Service.Kept` — what is kept of the session together with the engine.
* **`Service.consistent_of_reachable`** — the session knows what the engine does, and an unmount goes
  through exactly if nobody is in the way.
-/

namespace Strongbox

/-- A session over a container engine, with what is remembered about its past. -/
structure Service where
  session : Session
  line : Timeline
  /-- The threads that have ended. -/
  ended : Std.ExtTreeSet Nat
  /-- The thread of the last call that found nothing mounted.  If a container is mounted, it is the
  one that mounted it. -/
  mounter : Option Thread
  /-- The threads that have reached the container since it was mounted. -/
  reached : Std.ExtTreeSet Nat

namespace Service

/-- A service at its beginning. -/
def start (config : EngineConfig) (host : Host) (moments : Nat → Moment) : Service :=
  ⟨.blank, ⟨⟨.ofConfig config, host⟩, moments, 0⟩, ∅, none, ∅⟩

def machine (v : Service) : Machine :=
  v.line.machine

/-- The threads that have reached the container and live, without the one that mounted it. -/
def others (v : Service) : Std.ExtTreeSet Nat :=
  v.reached.filter fun thread => thread ∉ v.ended ∧ v.mounter ≠ some thread

/-- Whether one of the requests of a call reaches the container. -/
def reachedBy (exchanges : List Exchange) : Bool :=
  exchanges.any fun exchange => exchange.request.reaches

/-- The thread that mounted the container, if the call of a thread leaves one mounted. -/
def mounterAfter (v : Service) (thread : Thread) : Option Thread :=
  match v.session.marker with
  | none => some thread
  | some _ => v.mounter

/-- Who has reached the container after a call of a thread.  One that the call mounts has been
reached by nobody. -/
def reachedAfter (v : Service) (thread : Thread) (exchanges : List Exchange) :
    Std.ExtTreeSet Nat :=
  match v.session.marker with
  | none => ∅
  | some _ => if reachedBy exchanges then v.reached.insert thread else v.reached

/-- The service after a call of a thread, by the requests of the call and by what it left. -/
def after (thread : Thread) (exchanges : List Exchange) (session : Session) (line : Timeline)
    (v : Service) : Service :=
  { v with
    session := session
    line := line
    mounter := v.mounterAfter thread
    reached := v.reachedAfter thread exchanges }

/-- A thread makes a call. -/
def call (suite : CipherSuite) (thread : Thread) (entry : Session.Entry) (v : Service) : Service :=
  let script := entry.script v.session
  let (session, line) := script.run (Timeline.engine suite) thread v.line
  v.after thread (script.exchanges (Timeline.engine suite) thread v.line) session line

/-- A thread ends. -/
def exit (thread : Thread) (v : Service) : Service :=
  { v with
    line.machine.engine := v.machine.engine.exit thread
    ended := v.ended.insert thread }

/-- One step of a service.  A thread that has ended makes no calls. -/
inductive Step (suite : CipherSuite) (v : Service) : Service → Prop
  | call (thread : Thread) (entry : Session.Entry) (hlive : thread ∉ v.ended) :
      Step suite v (v.call suite thread entry)
  | exit (thread : Thread) : Step suite v (v.exit thread)
  /-- Other programs change the host in any way. -/
  | elsewhere (host : Host) : Step suite v { v with line.machine.host := host }

/-- What can become of a service. -/
inductive Reachable (suite : CipherSuite) : Service → Prop
  | start (config : EngineConfig) (host : Host) (moments : Nat → Moment) :
      Reachable suite (start config host moments)
  | step {v v' : Service} (h : Reachable suite v) (hstep : v.Step suite v') : Reachable suite v'

/-- What is kept of the session together with the engine. -/
inductive Kept (v : Service) : Prop
  | unmounted (hmarker : v.session.marker = none) (hvacant : v.machine.engine.Vacant)
  | mounted {marker : Handle} {owner : Thread} (hmarker : v.session.marker = some marker)
      (hmounter : v.mounter = some owner) (hheld : v.machine.engine.HeldBy marker owner)
      (hcounted : ∀ thread, thread ∈ v.machine.engine.registry.implicit ↔ thread ∈ v.others)

variable {suite : CipherSuite} {thread other owner : Thread} {v : Service} {marker : Handle}
  {exchanges : List Exchange} {line line' : Timeline}

lemma mem_others :
    other ∈ v.others ↔ other ∈ v.reached ∧ other ∉ v.ended ∧ v.mounter ≠ some other := by
  simp [others, and_left_comm]

lemma reachedBy_cons (exchange : Exchange) (rest : List Exchange) :
    reachedBy (exchange :: rest) = (exchange.request.reaches || reachedBy rest) := rfl

/-- Work in any amount leaves the handle alone, and counts the thread if it reaches the container
without owning the handle. -/
lemma heldBy_of_answers (hheld : line.machine.engine.HeldBy marker owner)
    (hwork : ∀ exchange ∈ exchanges, exchange.request.isWork = true)
    (hanswers : (Timeline.engine suite).Answers thread line exchanges line') :
    line'.machine.engine.HeldBy marker owner
      ∧ ∀ other, other ∈ line'.machine.engine.registry.implicit
        ↔ other ∈ line.machine.engine.registry.implicit
          ∨ other = thread ∧ thread ≠ owner ∧ reachedBy exchanges = true := by
  induction exchanges generalizing line with
  | nil =>
      obtain rfl := hanswers
      refine ⟨hheld, fun other => (or_iff_left ?_).symm⟩
      rintro ⟨-, -, hreached⟩
      cases hreached
  | cons exchange rest ih =>
      obtain ⟨hwork, hrest⟩ := List.forall_mem_cons.1 hwork
      obtain ⟨hheld', hcounted⟩ :=
        Machine.heldBy_of_work suite (line.moments line.calls) thread hheld hwork
      obtain ⟨hlast, hcounted'⟩ := ih hheld' hrest hanswers.2
      refine ⟨hlast, fun other => ?_⟩
      rw [hcounted', reachedBy_cons, Bool.or_eq_true, and_or_left, and_or_left, ← or_assoc]
      exact or_congr_left (hcounted other)

lemma mounterAfter_of_mounted (hmarker : v.session.marker = some marker) :
    v.mounterAfter thread = v.mounter := by
  rw [mounterAfter, hmarker]

lemma mem_reachedAfter_of_mounted (hmarker : v.session.marker = some marker) :
    other ∈ v.reachedAfter thread exchanges
      ↔ other ∈ v.reached ∨ other = thread ∧ reachedBy exchanges = true := by
  rw [reachedAfter, hmarker]
  dsimp only
  split
  · next hreached =>
      rw [Thread.mem_insert, and_iff_left hreached]
  · next hreached => exact (or_iff_left fun h => hreached h.2).symm

/-- Who is in the way after a call on a mounted container. -/
lemma mem_others_after (hmarker : v.session.marker = some marker) (hmounter : v.mounter = some owner)
    (hlive : thread ∉ v.ended) {session : Session} :
    other ∈ (v.after thread exchanges session line).others
      ↔ other ∈ v.others ∨ other = thread ∧ thread ≠ owner ∧ reachedBy exchanges = true := by
  have hafter : other ∈ (v.after thread exchanges session line).others
      ↔ other ∈ v.reachedAfter thread exchanges ∧ other ∉ v.ended
        ∧ v.mounterAfter thread ≠ some other := mem_others
  rw [hafter, mem_others, mem_reachedAfter_of_mounted hmarker, mounterAfter_of_mounted hmarker,
    hmounter, or_and_right]
  refine or_congr_right ?_
  constructor
  · rintro ⟨⟨rfl, hreached⟩, -, hne⟩
    exact ⟨rfl, fun h => hne (congrArg some h.symm), hreached⟩
  · rintro ⟨rfl, hne, hreached⟩
    exact ⟨⟨rfl, hreached⟩, hlive, fun h => hne (Option.some.inj h).symm⟩

lemma Kept.vacant (h : v.Kept) (hmarker : v.session.marker = none) : v.machine.engine.Vacant := by
  cases h with
  | unmounted _ hvacant => exact hvacant
  | mounted hmarker' =>
      rw [hmarker] at hmarker'
      cases hmarker'

/-- Work keeps what is kept. -/
lemma Kept.worked (h : v.Kept) (hlive : thread ∉ v.ended)
    (hwork : ∀ exchange ∈ exchanges, v.session.isMounted = true ∧ exchange.request.isWork = true)
    (hanswers : (Timeline.engine suite).Answers thread v.line exchanges line) :
    (v.after thread exchanges v.session line).Kept := by
  cases h with
  | unmounted hmarker hvacant =>
      obtain rfl : exchanges = [] := by
        refine List.eq_nil_iff_forall_not_mem.2 fun exchange hmem => ?_
        have hmounted := (hwork exchange hmem).1
        rw [Session.isMounted_of_none hmarker] at hmounted
        cases hmounted
      obtain rfl := hanswers
      exact .unmounted hmarker hvacant
  | @mounted marker owner hmarker hmounter hheld hcounted =>
      obtain ⟨hheld', hcounted'⟩ := heldBy_of_answers hheld (fun e he => (hwork e he).2) hanswers
      refine .mounted hmarker ((mounterAfter_of_mounted hmarker).trans hmounter) hheld'
        fun other => ?_
      rw [mem_others_after hmarker hmounter hlive, ← hcounted other]
      exact hcounted' other

/-- However a call passes, it keeps what is kept. -/
lemma Kept.after (h : v.Kept) (hlive : thread ∉ v.ended) {session : Session}
    (hpassage : v.session.Passage exchanges session)
    (hanswers : (Timeline.engine suite).Answers thread v.line exchanges line) :
    (v.after thread exchanges session line).Kept := by
  cases hpassage with
  | worked hwork => exact h.worked hlive hwork hanswers
  | lifecycle houtcome =>
      cases houtcome with
      | refused | absent => exact h.worked hlive (fun _ hmem => by cases hmem) hanswers
      | located resolved hmarker =>
          obtain rfl := hanswers
          exact .unmounted hmarker (h.vacant hmarker)
      | rejected _ hmarker =>
          obtain ⟨hreply, rfl⟩ := hanswers
          have hvacant := Machine.vacant_of_rejected (h.vacant hmarker) (Prod.ext hreply.symm rfl)
          exact .unmounted hmarker hvacant
      | created hmarker =>
          obtain ⟨hreply, -, rfl⟩ := hanswers
          have hheld := (Machine.heldBy_of_open (h.vacant hmarker) (Prod.ext hreply.symm rfl)).1
          exact .unmounted hmarker (Machine.vacant_of_close hheld)
      | mounted hmarker =>
          obtain ⟨hreply, rfl⟩ := hanswers
          obtain ⟨hheld, himplicit⟩ :=
            Machine.heldBy_of_open (h.vacant hmarker) (Prod.ext hreply.symm rfl)
          have hmounter : v.mounterAfter thread = some thread := by
            rw [mounterAfter, hmarker]
          refine .mounted rfl hmounter hheld fun other => iff_of_false (fun hother => ?_) ?_
          · exact Std.ExtTreeSet.not_mem_empty (himplicit ▸ hother)
          · intro hother
            have hreached : other ∈ v.reachedAfter thread _ := (mem_others.1 hother).1
            rw [reachedAfter, hmarker] at hreached
            exact Std.ExtTreeSet.not_mem_empty hreached
      | busy hmarker =>
          refine h.worked hlive (fun exchange hmem => ⟨Session.isMounted_of_some hmarker, ?_⟩)
            hanswers
          rw [List.mem_singleton.1 hmem]
          rfl
      | unmounted hmarker =>
          obtain ⟨-, -, rfl⟩ := hanswers
          cases h with
          | unmounted hmarker' =>
              rw [hmarker] at hmarker'
              cases hmarker'
          | mounted hmarker' _ hheld =>
              obtain rfl := Option.some.inj (hmarker.symm.trans hmarker')
              exact .unmounted rfl (Machine.vacant_of_close hheld)

/-- A thread that ends is no longer counted, and no longer in the way. -/
lemma Kept.exit (h : v.Kept) : (v.exit thread).Kept := by
  cases h with
  | unmounted hmarker hvacant => exact .unmounted hmarker hvacant.exit
  | mounted hmarker hmounter hheld hcounted =>
      refine .mounted hmarker hmounter hheld.exit fun other => ?_
      have hexit : other ∈ (v.exit thread).others
          ↔ other ∈ v.reached ∧ other ∉ v.ended.insert thread ∧ v.mounter ≠ some other := mem_others
      have hended : other ∉ v.ended.insert thread ↔ other ∉ v.ended ∧ other ≠ thread := by
        rw [Thread.mem_insert, not_or]
      rw [hexit, hended]
      refine hheld.watches.mem_implicit_exit.trans ?_
      rw [hcounted, mem_others]
      constructor
      · rintro ⟨⟨hreached, hlive, hne⟩, hother⟩
        exact ⟨hreached, ⟨hlive, hother⟩, hne⟩
      · rintro ⟨hreached, ⟨hlive, hother⟩, hne⟩
        exact ⟨⟨hreached, hlive, hne⟩, hother⟩

lemma Kept.of_reachable (h : v.Reachable suite) : v.Kept := by
  induction h with
  | start config host moments => exact .unmounted rfl (ContainerEngine.vacant_ofConfig config)
  | @step v v' _ hstep ih =>
      cases hstep with
      | call thread entry hlive =>
          exact ih.after hlive (entry.passage (Timeline.engine suite) thread v.session v.line)
            (Script.answers_of_run (Timeline.engine suite) thread (entry.script v.session) v.line)
      | exit thread => exact ih.exit
      | elsewhere host =>
          cases ih with
          | unmounted hmarker hvacant => exact .unmounted hmarker hvacant
          | mounted hmarker hmounter hheld hcounted =>
              exact .mounted hmarker hmounter hheld hcounted

/-! ## Lifecycle calls -/

/-- What a lifecycle call of a thread gives back. -/
def result (suite : CipherSuite) (thread : Thread) (asked : Session.Lifecycle) (v : Service) :
    Except Fault Unit :=
  ((asked.perform.run.run v.session).run (Timeline.engine suite) thread v.line).1.1

/-- A lifecycle call ends in one of its ways, by exchanges with the engine. -/
lemma result_ends (suite : CipherSuite) (thread : Thread) (asked : Session.Lifecycle) (v : Service) :
    ∃ exchanges session line, asked.Outcome v.session exchanges (v.result suite thread asked) session
      ∧ (Timeline.engine suite).Answers thread v.line exchanges line
      ∧ v.call suite thread (.lifecycle asked) = v.after thread exchanges session line := by
  let script := asked.perform.run.run v.session
  refine ⟨_, _, _, (asked.ends v.session).of_run (Timeline.engine suite) thread v.line,
    Script.answers_of_run (Timeline.engine suite) thread script v.line, ?_⟩
  rw [call, Session.Entry.script, Script.run_map, Script.exchanges_map]

variable {asked : Session.Lifecycle} {fault : Fault}

/-- A lifecycle call that fails changes nothing. -/
lemma unchanged_of_error (h : v.result suite thread asked = .error fault) :
    (v.call suite thread (.lifecycle asked)).session = v.session
      ∧ (v.call suite thread (.lifecycle asked)).machine = v.machine := by
  obtain ⟨exchanges, session, line, houtcome, hanswers, hcall⟩ := v.result_ends suite thread asked
  rw [hcall]
  rw [h] at houtcome
  cases houtcome with
  | refused | absent =>
      obtain rfl := hanswers
      exact ⟨rfl, rfl⟩
  | rejected =>
      obtain ⟨hreply, rfl⟩ := hanswers
      exact ⟨rfl, Machine.eq_of_rejected (Prod.ext hreply.symm rfl)⟩
  | busy =>
      obtain ⟨-, rfl⟩ := hanswers
      exact ⟨rfl, rfl⟩

/-- While nothing is mounted, there is nothing to unmount. -/
lemma result_unmount_of_unmounted (suite : CipherSuite) (thread : Thread)
    (hmarker : v.session.marker = none) :
    v.result suite thread .unmount = .error (.illegalState .nothingMounted) := by
  obtain ⟨exchanges, session, line, houtcome, -⟩ := v.result_ends suite thread .unmount
  generalize v.result suite thread .unmount = result at houtcome
  cases houtcome with
  | refused hother | rejected hother => exact absurd rfl hother
  | absent => rfl
  | busy hmarker' | unmounted hmarker' =>
      rw [hmarker] at hmarker'
      cases hmarker'

/-- The number of handles tells whether others are in the way of an unmount. -/
lemma result_unmount_of_mounted (suite : CipherSuite) (thread : Thread)
    (hmarker : v.session.marker = some marker) (hheld : v.machine.engine.HeldBy marker owner)
    (hcounted : ∀ thread, thread ∈ v.machine.engine.registry.implicit ↔ thread ∈ v.others) :
    v.others ≠ ∅
        ∧ v.result suite thread .unmount = .error (.illegalState (.threadsActive v.others.size))
      ∨ v.others = ∅ ∧ v.result suite thread .unmount = .ok ()
        ∧ (v.call suite thread (.lifecycle .unmount)).session = { v.session with marker := none }
        ∧ (v.call suite thread (.lifecycle .unmount)).machine.engine.Vacant := by
  have hcount : v.machine.engine.registry.count = v.others.size + 1 := by
    rw [hheld.count, Std.ExtTreeSet.ext_mem hcounted]
  obtain ⟨exchanges, session, line, houtcome, hanswers, hcall⟩ := v.result_ends suite thread .unmount
  rw [hcall]
  generalize v.result suite thread .unmount = result at houtcome
  cases houtcome with
  | refused hother | rejected hother => exact absurd rfl hother
  | absent hmarker' =>
      rw [hmarker] at hmarker'
      cases hmarker'
  | @busy _ count _ hbusy =>
      obtain ⟨hreply, -⟩ := hanswers
      obtain rfl : count = v.others.size + 1 := hreply.trans hcount
      refine Or.inl ⟨fun hnobody => ?_, rfl⟩
      rw [hnobody] at hbusy
      exact absurd hbusy (Nat.lt_irrefl 1)
  | @unmounted marker' count hmarker' hidle =>
      obtain ⟨hreply, -, rfl⟩ := hanswers
      obtain rfl : count = v.others.size + 1 := hreply.trans hcount
      obtain rfl := Option.some.inj (hmarker.symm.trans hmarker')
      have hnobody : v.others = ∅ :=
        Std.ExtTreeSet.eq_empty_iff_size_eq_zero.2 (Nat.le_zero.1 (Nat.le_of_succ_le_succ hidle))
      exact Or.inr ⟨hnobody, rfl, rfl, Machine.vacant_of_close hheld⟩

/-- What a session knows of its engine at any time, and what becomes of its lifecycle calls. -/
structure Consistent (suite : CipherSuite) (v : Service) : Prop where
  /-- A container is mounted as long as the engine has one open, -/
  mounted_iff : v.session.isMounted = true ↔ v.machine.engine.opened ≠ none
  /-- under the marker and no other explicit handle. -/
  explicit : ∀ id, id ∈ v.machine.engine.registry.explicit ↔ v.session.marker = some ⟨id⟩
  /-- An unmount goes through exactly if nobody is in the way of it. -/
  unmount_iff : ∀ thread, v.result suite thread .unmount = .ok ()
    ↔ v.session.isMounted = true ∧ v.others = ∅
  /-- Otherwise it tells how many threads are in the way. -/
  busy : v.session.isMounted = true → v.others ≠ ∅ → ∀ thread,
    v.result suite thread .unmount = .error (.illegalState (.threadsActive v.others.size))
  /-- Where it goes through, the engine has nothing open afterwards and counts nobody. -/
  unmounted : ∀ thread, v.result suite thread .unmount = .ok () →
    (v.call suite thread (.lifecycle .unmount)).session.isMounted = false
      ∧ (v.call suite thread (.lifecycle .unmount)).machine.engine.opened = none
      ∧ (v.call suite thread (.lifecycle .unmount)).machine.engine.registry.count = 0
  /-- A lifecycle call that fails leaves the session and the machine as they were. -/
  failed : ∀ thread asked fault, v.result suite thread asked = .error fault →
    (v.call suite thread (.lifecycle asked)).session = v.session
      ∧ (v.call suite thread (.lifecycle asked)).machine = v.machine

/-- Whatever the threads of a service call, and whenever they end, the session and its engine agree,
and unmounting depends on nothing but the threads that are in the way. -/
theorem consistent_of_reachable (h : v.Reachable suite) : v.Consistent suite := by
  cases Kept.of_reachable h with
  | unmounted hmarker hvacant =>
      have hunmounted := Session.isMounted_of_none hmarker
      have hresult : ∀ thread, v.result suite thread .unmount = _ :=
        fun thread => result_unmount_of_unmounted suite thread hmarker
      refine ⟨?_, fun id => ?_, fun thread => ?_, fun hmounted => ?_, fun thread hok => ?_,
        fun thread asked fault => unchanged_of_error⟩
      · rw [hunmounted]
        exact iff_of_false nofun fun hopen => hopen hvacant.closed
      · rw [hmarker, hvacant.explicit]
        exact iff_of_false Std.ExtTreeMap.not_mem_empty nofun
      · rw [hresult, hunmounted]
        exact iff_of_false nofun fun h => by cases h.1
      · rw [hunmounted] at hmounted
        cases hmounted
      · rw [hresult] at hok
        cases hok
  | @mounted marker owner hmarker _ hheld hcounted =>
      have hmounted := Session.isMounted_of_some hmarker
      have hunmount := fun thread =>
        result_unmount_of_mounted suite thread hmarker hheld hcounted
      refine ⟨iff_of_true hmounted hheld.opened, fun id => ?_, fun thread => ?_,
        fun _ hothers thread => ?_, fun thread hok => ?_, fun thread asked fault => unchanged_of_error⟩
      · rw [hmarker, hheld.mem_explicit, Option.some.injEq]
        exact ⟨fun h => by rw [h], fun h => by rw [h]⟩
      · obtain ⟨hothers, hresult⟩ | ⟨hnobody, hresult, -⟩ := hunmount thread
        · rw [hresult]
          exact iff_of_false nofun fun h => hothers h.2
        · exact iff_of_true hresult ⟨hmounted, hnobody⟩
      · obtain ⟨-, hresult⟩ | ⟨hnobody, -⟩ := hunmount thread
        · exact hresult
        · exact absurd hnobody hothers
      · obtain ⟨-, hresult⟩ | ⟨-, -, hsession, hvacant⟩ := hunmount thread
        · rw [hok] at hresult
          cases hresult
        · rw [hsession]
          exact ⟨rfl, hvacant.closed, hvacant.count⟩

/-- A thread mounts a container, and another one makes a directory in it. -/
theorem consistent_after_mkdir :
    ∃ v : Service, v.Consistent .standard ∧ v.session.marker = some ⟨1⟩
      ∧ v.machine.engine.registry.implicit.toList = [1] ∧ v.others.toList = [1]
      ∧ v.result .standard mainThread .unmount = .error (.illegalState (.threadsActive 1))
      ∧ (v.exit 1).others = ∅ := by
  suffices h : ∃ v : Service, v.Reachable .standard ∧ v.session.marker = some ⟨1⟩
      ∧ v.machine.engine.registry.implicit.toList = [1] ∧ v.others.toList = [1]
      ∧ v.others.size = 1 ∧ (v.exit 1).others = ∅ by
    obtain ⟨v, hreachable, hmarker, himplicit, hothers, hsize, hexit⟩ := h
    have hconsistent := consistent_of_reachable hreachable
    have hmounted := Session.isMounted_of_some hmarker
    have hsome : v.others ≠ ∅ := fun h => by
      rw [h] at hsize
      cases hsize
    exact ⟨v, hconsistent, hmarker, himplicit, hothers,
      hsize ▸ hconsistent.busy hmounted hsome mainThread, hexit⟩
  let key : Credential := .key (List.replicate 32 0)
  have start : Reachable .standard _ :=
    .start .standard ((Host.bare ⟨4096, 0, 0, 0, 0, 255⟩ "/").put "/box" (.file 0o600 []))
      fun _ => ⟨⟨.epoch, 0, 0⟩, [], .ofNat 0, none⟩
  have located : Reachable .standard _ :=
    start.step (.call mainThread (.lifecycle (.setPath "/box")) (by decide +kernel))
  have mounted : Reachable .standard _ :=
    located.step (.call mainThread (.lifecycle (.mount key)) (by decide +kernel))
  have made : Reachable .standard _ :=
    mounted.step (.call 1 (.operation (.mkdir "/d" 0o755)) (by decide +kernel))
  exact ⟨_, made, by decide +kernel, by decide +kernel, by decide +kernel, by decide +kernel,
    by decide +kernel⟩

end Service

end Strongbox
