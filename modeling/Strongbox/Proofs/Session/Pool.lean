import Mathlib.Data.List.Infix
import Mathlib.Logic.Function.Basic
import Strongbox.Proofs.Session.Run

/-!
# Calls side by side

Several calls are carried out on one container engine, each on a thread of its own.  A call waits
for one request at a time, and the requests of all calls come in any order.  In between, whatever
else goes on in the engine may happen.

* `Pool` — scripts that are carried out side by side.
* `Pool.Run` — what a pool can come to, with a log of all requests and of the replies to them.
* `Pool.play` — a run in which the scripts make their requests in a given order.
* `Pool.Gap` — what happens between a question of a script and the act that follows it.
* `OpenContainer.change_cases` — the tree that a change leaves behind.
* `Timeline.Holds.answer_getattr`, `Timeline.Holds.answer_access` and
  `Timeline.Holds.answer_change` — what single requests come to.
-/

namespace Strongbox

/-- What a script has come to. -/
def Script.result? {α : Type} : Script α → Option α
  | .done value => some value
  | .ask _ _ | .look _ => none

lemma Script.eq_done {α : Type} {script : Script α} {value : α}
    (h : script.result? = some value) : script = .done value := by
  cases script with
  | done other => exact congrArg Script.done (Option.some.inj h)
  | ask | look => cases h

/-- Scripts that are carried out side by side on one container engine. -/
structure Pool (ι α : Type) where
  scripts : ι → Script α
  line : Timeline

namespace Pool

section Runs

variable {ι α : Type} [DecidableEq ι]

/-- The pool after the next request of a script was answered. -/
def answered (suite : CipherSuite) (thread : Thread) (i : ι) (asked : Request)
    (next : asked.Reply → Script α) (p : Pool ι α) : Pool ι α :=
  let (reply, line) := (Timeline.engine suite).respond thread asked p.line
  ⟨Function.update p.scripts i (next reply), line⟩

/-- A request as it stands in the log, with its reply. -/
def exchange (suite : CipherSuite) (thread : Thread) (asked : Request) (p : Pool ι α) : Exchange :=
  ⟨asked, ((Timeline.engine suite).respond thread asked p.line).1⟩

/-- What a pool can come to, and the log of that.  Any script that waits for a request may be the
next one that goes on, and anything of `others` may happen before it does. -/
inductive Run (suite : CipherSuite) (threads : ι → Thread) (others : Timeline → Timeline → Prop)
    (p : Pool ι α) : List (ι × Exchange) → Pool ι α → Prop
  | start : Run suite threads others p [] p
  | ask {log : List (ι × Exchange)} {q : Pool ι α} {i : ι} {asked : Request}
      {next : asked.Reply → Script α} (run : Run suite threads others p log q)
      (hscript : q.scripts i = .ask asked next) :
      Run suite threads others p (log ++ [(i, q.exchange suite (threads i) asked)])
        (q.answered suite (threads i) i asked next)
  | look {log : List (ι × Exchange)} {q : Pool ι α} {i : ι} {next : View → Script α}
      (run : Run suite threads others p log q) (hscript : q.scripts i = .look next) :
      Run suite threads others p log
        ⟨Function.update q.scripts i (next ((Timeline.engine suite).view q.line)), q.line⟩
  | other {log : List (ι × Exchange)} {q : Pool ι α} {line : Timeline}
      (run : Run suite threads others p log q) (hother : others q.line line) :
      Run suite threads others p log ⟨q.scripts, line⟩

variable {suite : CipherSuite} {threads : ι → Thread} {others : Timeline → Timeline → Prop}
  {p q : Pool ι α} {log : List (ι × Exchange)} {i : ι} {asked : Request}
  {next : asked.Reply → Script α} {reply : asked.Reply} {m : Machine}

omit [DecidableEq ι] in
/-- A request stands in the log with the reply of the engine. -/
lemma exchange_of_answer {thread : Thread}
    (h : q.line.machine.answer suite q.line.moment thread asked = (reply, m)) :
    q.exchange suite thread asked = ⟨asked, reply⟩ :=
  congrArg (Exchange.mk asked) (congrArg Prod.fst h)

/-- The script goes on with the reply, and the engine has moved on. -/
lemma answered_of_answer {thread : Thread}
    (h : q.line.machine.answer suite q.line.moment thread asked = (reply, m)) :
    q.answered suite thread i asked next
      = ⟨Function.update q.scripts i (next reply), q.line.goOn m⟩ :=
  congrArg (fun answer : asked.Reply × Machine =>
    (⟨Function.update q.scripts i (next answer.1), q.line.goOn answer.2⟩ : Pool ι α)) h

/-- Let a script make its next request, if it is not done. -/
def turn (suite : CipherSuite) (threads : ι → Thread) (q : Pool ι α) (i : ι) : Pool ι α :=
  match q.scripts i with
  | .done _ => q
  | .ask asked next => q.answered suite (threads i) i asked next
  | .look next =>
    ⟨Function.update q.scripts i (next ((Timeline.engine suite).view q.line)), q.line⟩

/-- Let scripts make their requests in a given order. -/
def play (suite : CipherSuite) (threads : ι → Thread) (q : Pool ι α) (order : List ι) : Pool ι α :=
  order.foldl (turn suite threads) q

/-- Scripts can make their requests in any order. -/
lemma Run.play (run : p.Run suite threads others log q) (order : List ι) :
    ∃ log', p.Run suite threads others log' (q.play suite threads order) := by
  induction order generalizing log q with
  | nil => exact ⟨log, run⟩
  | cons i rest ih =>
      have hturn : ∃ log', p.Run suite threads others log' (q.turn suite threads i) := by
        rw [turn]
        split
        · exact ⟨log, run⟩
        · next hscript => exact ⟨_, run.ask hscript⟩
        · next hscript => exact ⟨_, run.look hscript⟩
      obtain ⟨log', run'⟩ := hturn
      exact ih run'

end Runs

/-! ## Questions and acts -/

section Gaps

variable {ι : Type} {asks acts : Exchange → Bool} {i j : ι} {e : Exchange}
  {log since between : List (ι × Exchange)}

/-- What has happened since a script asked a question, if it has made no other request after it. -/
def AskedSince (asks : Exchange → Bool) (i : ι) (since log : List (ι × Exchange)) : Prop :=
  (∃ question, asks question = true ∧ (i, question) :: since <:+ log)
    ∧ ∀ entry ∈ since, entry.1 ≠ i

/-- What has happened between a question of a script and the act that was its next request. -/
def Gap (asks acts : Exchange → Bool) (i : ι) (between log : List (ι × Exchange)) : Prop :=
  ∃ before act, before ++ [(i, act)] <+: log ∧ acts act = true ∧ AskedSince asks i between before

/-- The question itself. -/
lemma askedSince_nil (h : asks e = true) (log : List (ι × Exchange)) (i : ι) :
    AskedSince asks i [] (log ++ [(i, e)]) :=
  ⟨⟨e, h, List.suffix_append ..⟩, fun _ hmem => nomatch hmem⟩

/-- A request of another script. -/
lemma AskedSince.snoc (h : AskedSince asks i since log) (hj : j ≠ i) (e : Exchange) :
    AskedSince asks i (since ++ [(j, e)]) (log ++ [(j, e)]) := by
  obtain ⟨⟨q, hq, before, rfl⟩, hsince⟩ := h
  refine ⟨⟨q, hq, before, (List.append_assoc before ((i, q) :: since) _).symm⟩,
    fun entry hmem => ?_⟩
  rcases List.mem_append.1 hmem with hmem | hmem
  · exact hsince entry hmem
  · rw [List.mem_singleton.1 hmem]
    exact hj

/-- There is only one last question. -/
lemma AskedSince.unique {other : List (ι × Exchange)} (h : AskedSince asks i since log)
    (hother : AskedSince asks i other log) : since = other := by
  obtain ⟨⟨q, -, hq⟩, hsince⟩ := h
  obtain ⟨⟨q', -, hq'⟩, hothers⟩ := hother
  rcases List.suffix_or_suffix_of_suffix hq hq' with h | h
  · rcases List.suffix_cons_iff.1 h with heq | hsuffix
    · exact (List.cons.inj heq).2
    · exact absurd rfl (hothers _ (hsuffix.subset (List.mem_cons_self ..)))
  · rcases List.suffix_cons_iff.1 h with heq | hsuffix
    · exact (List.cons.inj heq).2.symm
    · exact absurd rfl (hsince _ (hsuffix.subset (List.mem_cons_self ..)))

lemma not_gap_nil : ¬ Gap asks acts i between ([] : List (ι × Exchange)) := by
  rintro ⟨before, act, hfirst, -⟩
  exact absurd (List.prefix_nil.1 hfirst) (by simp)

/-- The last request closes a gap if it is an act of a script that has asked before. -/
lemma gap_snoc : Gap asks acts i between (log ++ [(j, e)])
    ↔ Gap asks acts i between log
      ∨ j = i ∧ acts e = true ∧ AskedSince asks i between log := by
  constructor
  · rintro ⟨before, act, hfirst, hact, hasked⟩
    rcases List.prefix_concat_iff.1 hfirst with heq | hbefore
    · obtain ⟨rfl, hlast⟩ := List.append_inj' heq rfl
      obtain ⟨rfl, rfl⟩ := Prod.mk.inj (List.singleton_inj.1 hlast)
      exact Or.inr ⟨rfl, hact, hasked⟩
    · exact Or.inl ⟨before, act, hbefore, hact, hasked⟩
  · rintro (⟨before, act, hfirst, hact, hasked⟩ | ⟨rfl, hact, hasked⟩)
    · exact ⟨before, act, hfirst.trans (List.prefix_append ..), hact, hasked⟩
    · exact ⟨log, e, List.prefix_refl _, hact, hasked⟩

end Gaps

end Pool

/-! ## Single requests -/

/-- A change leaves the changed tree where it succeeds.  Where it fails, because it cannot be
carried out or because its save fails, it leaves the tree as it was. -/
lemma OpenContainer.change_cases (c : OpenContainer) (suite : CipherSuite) (moment : Moment)
    (host : Host) (change : Change) :
    ∃ outcome c' host', c.change suite moment host change = (outcome, c', host')
      ∧ ((∃ tree, change.apply moment.stamp c.tree = .ok tree
          ∧ (outcome = .ok () ∧ c'.tree = tree
            ∨ outcome = .error .ioFailure ∧ c'.tree = c.tree))
        ∨ ∃ code, change.apply moment.stamp c.tree = .error code ∧ outcome = .error code
          ∧ c'.tree = c.tree) := by
  cases ha : change.apply moment.stamp c.tree with
  | error code => exact ⟨_, _, _, change_of_error ha, Or.inr ⟨code, rfl, rfl, rfl⟩⟩
  | ok tree =>
      rw [change_of_ok ha]
      split
      · exact ⟨_, _, _, rfl, Or.inl ⟨tree, rfl, Or.inl ⟨rfl, rfl⟩⟩⟩
      · exact ⟨_, _, _, rfl, Or.inl ⟨tree, rfl, Or.inl ⟨rfl, rfl⟩⟩⟩
      · exact ⟨_, _, _, rfl, Or.inl ⟨tree, rfl, Or.inl ⟨rfl, rfl⟩⟩⟩
      · split
        · exact ⟨_, _, _, rfl, Or.inl ⟨tree, rfl, Or.inl ⟨rfl, rfl⟩⟩⟩
        · exact ⟨_, _, _, rfl, Or.inl ⟨tree, rfl, Or.inr ⟨rfl, rfl⟩⟩⟩

namespace Timeline.Holds

variable {line : Timeline} {c c' : OpenContainer} {host host' : Host} {path key : String}

section

variable (suite : CipherSuite) (thread : Thread) (h : line.Holds c host)

include h

/-- The attributes of a file are shown with its size. -/
lemma answer_getattr {ino : Nat} {data : Bytes} (hkey : Key.normalize path = .ok key)
    (hdata : c.tree.fileData key = .ok (ino, data)) :
    ∃ (stat : FileStat) (m : Machine), line.machine.answer suite line.moment thread (.getattr path)
        = (((0 : Int), stat), m)
      ∧ stat.size = data.length ∧ (line.goOn m).Holds c host := by
  obtain ⟨stat, hstat, hsize⟩ := Tree.getattr_of_fileData hdata
  obtain ⟨m, hshown, huntouched⟩ := h.shown thread .blank (fun _ => 0) path Tree.getattr
  rw [Tree.atPath_of_normalize hkey, hstat] at hshown
  exact ⟨stat, m, hshown, hsize, h.of_untouched huntouched⟩

/-- Whether a path can be accessed is what the tree says. -/
lemma answer_access (path : String) (mode : AccessMode) :
    ∃ m : Machine, line.machine.answer suite line.moment thread (.access path mode)
        = (resultCode ((c.tree.atPath path fun t key => t.access key mode).map fun _ => 0), m)
      ∧ (line.goOn m).Holds c host := by
  let look : Tree → String → Except Errno Unit := fun t key => t.access key mode
  refine ⟨(line.machine.inspectPath thread path look).2, ?_,
    h.of_untouched (Machine.inspectPath_untouched path _)⟩
  show Machine.coded 0 (line.machine.inspectPath thread path look) = _
  rw [Machine.coded, Machine.inspectPath_fst h.opened]
  rfl

/-- A change is answered with its outcome. -/
lemma answer_change {asked resolved : Change} (hresolve : asked.resolve = .ok resolved)
    {outcome : Except Errno Unit}
    (hchange : c.change suite line.moment host resolved = (outcome, c', host')) :
    ∃ m : Machine, line.machine.answer suite line.moment thread (.change asked)
        = (resultCode (outcome.map fun _ => asked.taken), m)
      ∧ (line.goOn m).Holds c' host' := by
  rw [← h.host] at hchange
  exact ⟨_, Machine.answer_change hresolve h.opened hchange, rfl, rfl⟩

/-- A change that takes nothing in is answered with zero where it goes through. -/
lemma answer_change_cases {asked resolved : Change} (hresolve : asked.resolve = .ok resolved)
    (htaken : asked.taken = 0) :
    ∃ (code : Int) (m : Machine) (c' : OpenContainer) (host' : Host),
      line.machine.answer suite line.moment thread (.change asked) = (code, m)
      ∧ (line.goOn m).Holds c' host'
      ∧ ((∃ tree, resolved.apply line.moment.stamp c.tree = .ok tree
          ∧ (code = 0 ∧ c'.tree = tree
            ∨ code = -Errno.ioFailure.number ∧ c'.tree = c.tree))
        ∨ ∃ failure, resolved.apply line.moment.stamp c.tree = .error failure
          ∧ code = -failure.number ∧ c'.tree = c.tree) := by
  obtain ⟨outcome, c', host', hchange, hcases⟩ :=
    c.change_cases suite line.moment host resolved
  obtain ⟨m, hanswer, hm⟩ := h.answer_change suite thread hresolve hchange
  refine ⟨_, m, c', host', hanswer, hm, ?_⟩
  rcases hcases with ⟨tree, htree, ⟨rfl, hc'⟩ | ⟨rfl, hc'⟩⟩ | ⟨failure, hfailure, rfl, hc'⟩
  · exact .inl ⟨tree, htree, .inl ⟨congrArg Int.ofNat htaken, hc'⟩⟩
  · exact .inl ⟨tree, htree, .inr ⟨rfl, hc'⟩⟩
  · exact .inr ⟨failure, hfailure, rfl, hc'⟩

end

end Timeline.Holds

/-! ## A small container -/

/-- A session with a mounted container. -/
def Session.small : Session :=
  ⟨some "/box", some ⟨1⟩⟩

/-- An engine that has opened a container, at a time that stands still. -/
def Timeline.small (tree : Stamp → Tree) : Timeline :=
  let moment : Moment := ⟨⟨.epoch, 0, 0⟩, [], .ofNat 0, none⟩
  let c : OpenContainer :=
    ⟨"/box", .key, none, none, ⟨List.replicate 32 1, rfl⟩, tree moment.stamp, none, false⟩
  ⟨⟨⟨.standard, .empty, some c⟩, .bare ⟨4096, 0, 0, 0, 0, 255⟩ "/"⟩, fun _ => moment, 0⟩

end Strongbox
