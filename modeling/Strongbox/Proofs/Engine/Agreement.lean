import Mathlib.Data.List.Forall2
import Strongbox.Proofs.Engine.Deferral
import Strongbox.Proofs.Engine.Script
import Strongbox.Proofs.Engine.Transaction

/-!
# Transactions agree with the plain path

The same operations on paths are carried out twice: inside a transaction that is completed at the
end, and without one.  Where saves go through, every operation is answered alike, and the tree is
the same in memory and in the file.

Outside a transaction a change that sets a time before the epoch fails with its save, and inside one
it succeeds and takes the whole transaction down.  It is the same with a change that makes the
payload too long for the cipher.  So the two agree as long as each tree that is due to be saved can be
sealed.

* `Machine.Call` — a request with the moment and the thread that it comes at.
* `Tree.Savable` — all that has to be saved on the way can be saved.
* `Machine.Twins` — the machine without the transaction and the one inside it.
* `Machine.Twins.answer`, `Machine.Twins.run` — they stay twins, and answer alike.
* **`Machine.agrees_of_savable`** — the two ways agree.
* `Machine.disagrees_after_utimens` — and they do not for a time before the epoch.
-/

namespace Strongbox

/-! ## Requests as functions of the tree -/

namespace Request

/-- The requests that name a file or a directory by its path. -/
def OnPath : Request → Prop
  | .change _ | .fsync _ | .read .. | .getattr _ | .access .. | .isDir _ | .readdir _ => True
  | .openContainer .. | .closeHandle _ | .instanceCount | .beginTransaction
  | .completeTransaction _ => False

instance : (request : Request) → Decidable request.OnPath
  | .change _ | .fsync _ | .read .. | .getattr _ | .access .. | .isDir _ | .readdir _ =>
    .isTrue trivial
  | .openContainer .. | .closeHandle _ | .instanceCount | .beginTransaction
  | .completeTransaction _ => .isFalse not_false

/-- The tree after a request. -/
def after (stamp : Stamp) (t : Tree) : Request → Tree
  | .change asked =>
    match asked.resolve with
    | .ok resolved => resolved.after stamp t
    | .error _ => t
  | _ => t

/-- The tree that is saved before a request is answered, where it succeeds and there is no
transaction that puts the save off. -/
def saved? (stamp : Stamp) (t : Tree) : Request → Option Tree
  | .change asked =>
    match asked.resolve with
    | .ok resolved =>
      if resolved.saving = .atOnce then (resolved.apply stamp t).toOption else none
    | .error _ => none
  | .fsync path =>
    match Key.normalize path with
    | .ok key => if t.contains key then some t else none
    | .error _ => none
  | _ => none

end Request

/-- A request at a moment and from a thread. -/
structure Machine.Call where
  moment : Moment
  thread : Thread
  request : Request

/-- The same request at the same time.  The random bytes and the thread may be others. -/
structure Machine.Call.Alike (call call' : Call) : Prop where
  request : call'.request = call.request
  stamp : call'.moment.stamp = call.moment.stamp

/-- Every tree that calls save on their way, and the tree after them, can be sealed: it has no time
before the epoch, and its payload is not too long. -/
def Tree.Savable (suite : CipherSuite) : Tree → List Machine.Call → Prop
  | t, [] => suite.Takes t
  | t, call :: calls =>
    (∀ tree ∈ call.request.saved? call.moment.stamp t, suite.Takes tree)
      ∧ Tree.Savable suite (call.request.after call.moment.stamp t) calls

instance Tree.decidableSavable (suite : CipherSuite) :
    (t : Tree) → (calls : List Machine.Call) → Decidable (t.Savable suite calls)
  | t, [] => inferInstanceAs (Decidable (suite.Takes t))
  | t, call :: calls =>
    have := Tree.decidableSavable suite (call.request.after call.moment.stamp t) calls
    inferInstanceAs (Decidable ((∀ tree ∈ call.request.saved? call.moment.stamp t, suite.Takes tree)
      ∧ Tree.Savable suite (call.request.after call.moment.stamp t) calls))

/-- A container that is inside a transaction, but is otherwise as it would be without one. -/
def OpenContainer.entered (c : OpenContainer) (snapshot : Tree) (dirty : Bool) : OpenContainer :=
  { c with transaction := some ⟨1, snapshot⟩, dirty := dirty }

namespace Machine

variable {suite : CipherSuite} {moment moment' : Moment} {thread thread' : Thread} {m m' : Machine}
  {c c' : OpenContainer} {snapshot : Tree} {request : Request}

/-! ## Looking -/

lemma inspectPath_fst {α : Type} (hopen : m.engine.opened = some c) (path : String)
    (look : Tree → String → Except Errno α) :
    (m.inspectPath thread path look).1 = (Key.normalize path).bind (look c.tree) := by
  rw [inspectPath]
  cases Key.normalize path with
  | error code => rfl
  | ok key => simp only [inspect, hopen, Except.bind]

lemma shown_fst {α : Type} (blank : α) (value : α → Nat) {first second : Except Errno α × Machine}
    (h : first.1 = second.1) : (shown blank value first).1 = (shown blank value second).1 := by
  obtain ⟨outcome, m⟩ := first
  obtain ⟨outcome', m'⟩ := second
  obtain rfl : outcome = outcome' := h
  cases outcome <;> rfl

lemma coded_fst (value : Nat) {first second : Except Errno Unit × Machine}
    (h : first.1 = second.1) : (coded value first).1 = (coded value second).1 :=
  congrArg (fun outcome : Except Errno Unit => resultCode (outcome.map fun _ => value)) h

/-- Whether there is a directory is answered like all other requests, with a failure as no. -/
lemma answer_isDir (path : String) :
    m.answer suite moment thread (.isDir path)
      = ((m.inspectPath thread path fun tree key => .ok (tree.isDir key)).1.toOption.getD false,
        (m.inspectPath thread path fun tree key => .ok (tree.isDir key)).2) := by
  rw [answer]
  split
  · next h => rw [h]; rfl
  · next h => rw [h]; rfl

/-! ## Working -/

lemma answer_change {asked resolved : Change} (hresolve : asked.resolve = .ok resolved)
    (hopen : m.engine.opened = some c) {outcome : Except Errno Unit} {host : Host}
    (h : c.change suite moment m.host resolved = (outcome, c', host)) :
    m.answer suite moment thread (.change asked)
      = (resultCode (outcome.map fun _ => asked.taken),
        ⟨{ m.engine.touch thread with opened := some c' }, host⟩) := by
  show coded asked.taken (m.change suite moment thread asked) = _
  simp only [Machine.change, hresolve, update_of_opened hopen, h]
  rfl

/-- Where a path is not well formed, nothing is done. -/
lemma answer_change_unnamed {asked : Change} {code : Errno} (h : asked.resolve = .error code) :
    m.answer suite moment thread (.change asked) = ((-code.number : Int), m) := by
  show coded asked.taken (m.change suite moment thread asked) = _
  simp only [Machine.change, h]
  rfl

lemma answer_fsync_unnamed {path : String} {code : Errno} (h : Key.normalize path = .error code) :
    m.answer suite moment thread (.fsync path) = ((-code.number : Int), m) := by
  show coded 0 (m.fsync suite moment thread path) = _
  simp only [fsync, h]
  rfl

lemma answer_fsync {path key : String} (hkey : Key.normalize path = .ok key)
    (hopen : m.engine.opened = some c) {outcome : Except Errno Unit} {host : Host}
    (h : (if c.tree.contains key then c.flush suite moment m.host
      else (.error .noEntry, c, m.host)) = (outcome, c', host)) :
    m.answer suite moment thread (.fsync path)
      = (resultCode (outcome.map fun _ => 0),
        ⟨{ m.engine.touch thread with opened := some c' }, host⟩) := by
  show coded 0 (m.fsync suite moment thread path) = _
  simp only [fsync, hkey, update_of_opened hopen, h]
  rfl

/-! ## Twins -/

/-- Two machines with one container open: the first without a transaction and with a file that is in
step, the second inside a transaction that began with `snapshot`. -/
structure Twins (suite : CipherSuite) (snapshot : Tree) (c : OpenContainer) (m m' : Machine) :
    Prop where
  outside : m.engine.opened = some c
  inside : ∃ dirty, m'.engine.opened = some (c.entered snapshot dirty)
  none : c.transaction = none
  settled : c.Settled suite m.host
  takes : m'.host.Takes c.path

namespace Twins

lemma inspectPath {α : Type} (h : Twins suite snapshot c m m') (path : String)
    (look : Tree → String → Except Errno α) :
    (m'.inspectPath thread' path look).1 = (m.inspectPath thread path look).1 := by
  obtain ⟨dirty, hinside⟩ := h.inside
  rw [inspectPath_fst h.outside, inspectPath_fst hinside]
  rfl

lemma untouched (h : Twins suite snapshot c m m') {after after' : Machine}
    (hm : m.Untouched after) (hm' : m'.Untouched after') : Twins suite snapshot c after after' := by
  obtain ⟨dirty, hinside⟩ := h.inside
  exact ⟨hm.1.trans h.outside, ⟨dirty, hm'.1.trans hinside⟩, h.none, hm.2.symm ▸ h.settled,
    hm'.2.symm ▸ h.takes⟩

/-- Looking at a path leaves both as they are, whatever is shown of it. -/
lemma shown {α : Type} (h : Twins suite snapshot c m m') (path : String)
    {look : Tree → String → Except Errno α} {blank : α} {value : α → Nat} :
    Twins suite snapshot c (shown blank value (m.inspectPath thread path look)).2
      (shown blank value (m'.inspectPath thread' path look)).2 := by
  rw [shown_snd, shown_snd]
  exact h.untouched (inspectPath_untouched path look) (inspectPath_untouched path look)

/-- Both carry a change out on the same tree.  The first one saves it, and the second does not. -/
lemma change (hsuite : suite.Lawful) (h : Twins suite snapshot c m m')
    (hthrough : c.LetThrough moment) (hstamp : moment'.stamp = moment.stamp)
    {asked resolved : Change} (hresolve : asked.resolve = .ok resolved)
    (hsaved : ∀ {tree}, resolved.saving = .atOnce → resolved.apply moment.stamp c.tree = .ok tree →
      suite.Takes tree) :
    (m'.answer suite moment' thread' (.change asked)).1
        = (m.answer suite moment thread (.change asked)).1
      ∧ ∃ c', c.SameFile c' ∧ c'.tree = resolved.after moment.stamp c.tree
        ∧ Twins suite snapshot c' (m.answer suite moment thread (.change asked)).2
          (m'.answer suite moment' thread' (.change asked)).2 := by
  obtain ⟨dirty, hinside⟩ := h.inside
  obtain ⟨marked, host, hchange, hsettled⟩ :=
    OpenContainer.change_outside hsuite h.none h.settled hthrough hsaved
  obtain ⟨marked', hchange'⟩ : ∃ marked', (c.entered snapshot dirty).change suite moment' m'.host
      resolved = ((resolved.apply moment'.stamp c.tree).map fun _ => (),
        ({ c with tree := resolved.after moment'.stamp c.tree } : OpenContainer).entered snapshot
          marked', m'.host) :=
    OpenContainer.change_inside rfl resolved
  rw [answer_change hresolve h.outside hchange, answer_change hresolve hinside hchange', hstamp]
  exact ⟨rfl, { c with tree := resolved.after moment.stamp c.tree, dirty := marked },
    ⟨rfl, rfl, rfl, rfl, rfl⟩, rfl, rfl, ⟨marked', rfl⟩, h.none, hsettled, h.takes⟩

/-- The first one saves what was written, and the second one does not. -/
lemma fsync (hsuite : suite.Lawful) (h : Twins suite snapshot c m m')
    (hthrough : c.LetThrough moment) {path key : String} (hkey : Key.normalize path = .ok key)
    (hsaved : c.tree.contains key = true → suite.Takes c.tree) :
    (m'.answer suite moment' thread' (.fsync path)).1
        = (m.answer suite moment thread (.fsync path)).1
      ∧ ∃ c', c.SameFile c' ∧ c'.tree = c.tree
        ∧ Twins suite snapshot c' (m.answer suite moment thread (.fsync path)).2
          (m'.answer suite moment' thread' (.fsync path)).2 := by
  obtain ⟨dirty, hinside⟩ := h.inside
  by_cases hcontains : c.tree.contains key = true
  · obtain ⟨host, hflush, hsettled⟩ :=
      OpenContainer.flush_outside hsuite h.none h.settled hthrough (hsaved hcontains)
    have hflush' : (c.entered snapshot dirty).flush suite moment' m'.host
        = (.ok (), c.entered snapshot dirty, m'.host) :=
      OpenContainer.flush_inside (Option.some_ne_none _)
    rw [answer_fsync hkey h.outside ((if_pos hcontains).trans hflush),
      answer_fsync hkey hinside ((if_pos hcontains).trans hflush')]
    exact ⟨rfl, { c with dirty := false }, ⟨rfl, rfl, rfl, rfl, rfl⟩, rfl, rfl, ⟨dirty, rfl⟩,
      h.none, hsettled, h.takes⟩
  · rw [answer_fsync hkey h.outside (if_neg hcontains),
      answer_fsync hkey hinside (if_neg hcontains)]
    exact ⟨rfl, c, .refl c, rfl, rfl, ⟨dirty, rfl⟩, h.none, h.settled, h.takes⟩

/-- A path operation is answered alike by both, and leaves both with the same tree. -/
theorem answer (hsuite : suite.Lawful) (h : Twins suite snapshot c m m') (hpath : request.OnPath)
    (hthrough : c.LetThrough moment) (hstamp : moment'.stamp = moment.stamp)
    (hsaved : ∀ tree ∈ request.saved? moment.stamp c.tree, suite.Takes tree)
    (thread thread' : Thread) :
    (m'.answer suite moment' thread' request).1 = (m.answer suite moment thread request).1
      ∧ ∃ c', c.SameFile c' ∧ c'.tree = request.after moment.stamp c.tree
        ∧ Twins suite snapshot c' (m.answer suite moment thread request).2
          (m'.answer suite moment' thread' request).2 := by
  cases request with
  | openContainer | closeHandle | instanceCount | beginTransaction | completeTransaction =>
      cases hpath
  | read path count offset =>
      exact ⟨shown_fst _ _ (h.inspectPath path _), c, .refl c, rfl, h.shown path⟩
  | getattr path =>
      exact ⟨shown_fst _ _ (h.inspectPath path _), c, .refl c, rfl, h.shown path⟩
  | readdir path =>
      exact ⟨shown_fst _ _ (h.inspectPath path _), c, .refl c, rfl, h.shown path⟩
  | access path mode =>
      exact ⟨coded_fst 0 (h.inspectPath path _), c, .refl c, rfl,
        h.untouched (inspectPath_untouched path _) (inspectPath_untouched path _)⟩
  | isDir path =>
      rw [answer_isDir, answer_isDir, h.inspectPath]
      exact ⟨rfl, c, .refl c, rfl,
        h.untouched (inspectPath_untouched path _) (inspectPath_untouched path _)⟩
  | change asked =>
      cases hresolve : asked.resolve with
      | error code =>
          rw [answer_change_unnamed hresolve, answer_change_unnamed hresolve, Request.after,
            hresolve]
          exact ⟨rfl, c, .refl c, rfl, h⟩
      | ok resolved =>
          rw [Request.saved?, hresolve] at hsaved
          rw [Request.after, hresolve]
          refine h.change hsuite hthrough hstamp hresolve fun {tree} hsaving ha => hsaved tree ?_
          dsimp only
          rw [if_pos hsaving, ha]
          rfl
  | fsync path =>
      cases hkey : Key.normalize path with
      | error code =>
          rw [answer_fsync_unnamed hkey, answer_fsync_unnamed hkey]
          exact ⟨rfl, c, .refl c, rfl, h⟩
      | ok key =>
          rw [Request.saved?, hkey] at hsaved
          refine h.fsync hsuite hthrough hkey fun hcontains => hsaved c.tree ?_
          dsimp only
          rw [if_pos hcontains]
          rfl

end Twins

/-! ## Runs -/

/-- The machine after calls, one after the other. -/
def afterAll (suite : CipherSuite) : List Call → Machine → Machine
  | [], m => m
  | call :: calls, m => afterAll suite calls (m.answer suite call.moment call.thread call.request).2

/-- The requests of calls, with the replies to them. -/
def exchanges (suite : CipherSuite) : List Call → Machine → List Exchange
  | [], _ => []
  | call :: calls, m =>
    ⟨call.request, (m.answer suite call.moment call.thread call.request).1⟩
      :: exchanges suite calls (m.answer suite call.moment call.thread call.request).2

namespace Twins

/-- Path operations are answered alike by both, one after the other. -/
theorem run (hsuite : suite.Lawful) {calls calls' : List Call}
    (halike : List.Forall₂ Call.Alike calls calls') (h : Twins suite snapshot c m m')
    (hcalls : ∀ call ∈ calls, call.request.OnPath ∧ c.LetThrough call.moment)
    (hsavable : c.tree.Savable suite calls) :
    m'.exchanges suite calls' = m.exchanges suite calls
      ∧ ∃ c', c.SameFile c' ∧ suite.Takes c'.tree
        ∧ Twins suite snapshot c' (m.afterAll suite calls) (m'.afterAll suite calls') := by
  induction halike generalizing c m m' with
  | nil => exact ⟨rfl, c, .refl c, hsavable, h⟩
  | @cons call call' calls calls' hcall _ ih =>
      obtain ⟨moment, thread, request⟩ := call
      obtain ⟨moment', thread', request'⟩ := call'
      obtain ⟨rfl, hstamp⟩ := hcall
      obtain ⟨hsaved, hrest⟩ := hsavable
      obtain ⟨hpath, hthrough⟩ := hcalls _ List.mem_cons_self
      obtain ⟨hreply, c', hsame, htree, htwins⟩ :=
        h.answer hsuite hpath hthrough hstamp hsaved thread thread'
      rw [← htree] at hrest
      obtain ⟨hreplies, c'', hsame', htakes, htwins'⟩ := ih htwins
        (fun call hmem => (hcalls call (List.mem_cons_of_mem _ hmem)).imp_right hsame.letThrough)
        hrest
      refine ⟨?_, c'', hsame.trans hsame', htakes, htwins'⟩
      simp only [exchanges, hreply, hreplies]

/-- The transaction is completed, which saves what the first one has saved already. -/
lemma commit (hsuite : suite.Lawful) (h : Twins suite snapshot c m m') (htree : suite.Takes c.tree)
    (hthrough : c.LetThrough moment) (thread : Thread) :
    ∃ committed c',
      m'.answer suite moment thread (.completeTransaction true) = ((0 : Int), committed)
      ∧ committed.engine.opened = some c' ∧ c.SameFile c' ∧ c'.tree = c.tree
      ∧ c'.transaction = .none ∧ c'.Settled suite committed.host := by
  obtain ⟨dirty, hinside⟩ := h.inside
  have hsame : c.SameFile { c with transaction := .none, dirty := dirty } :=
    ⟨rfl, rfl, rfl, rfl, rfl⟩
  obtain ⟨host, hsave, hsettled⟩ := OpenContainer.exists_settled hsuite
    (hsame.placed h.settled.placed) h.settled.cost h.takes (hsame.letThrough hthrough) htree
  have hcommit : (c.entered snapshot dirty).commit suite moment m'.host
      = (.ok (), { c with transaction := .none, dirty := false }, host) := by
    simp only [OpenContainer.commit, OpenContainer.entered, OpenContainer.save, hsave, lt_irrefl,
      if_false]
  exact ⟨_, _, answer_complete hinside ((if_pos rfl).trans hcommit), rfl,
    ⟨rfl, rfl, rfl, rfl, rfl⟩, rfl, rfl, hsettled ⟨rfl, rfl, rfl, rfl, rfl⟩ rfl⟩

end Twins

/-- Once the data of its files is saved, the file of a container has the tree in memory. -/
lemma sealedTree_of_fsync (hsuite : suite.Lawful) (hopen : m.engine.opened = some c)
    (hnone : c.transaction = none) (h : c.Settled suite m.host) (hthrough : c.LetThrough moment)
    (htree : suite.Takes c.tree) (hroot : c.tree.contains "/" = true)
    (hstorable : c.tree.Storable) (thread : Thread) :
    ∃ saved, m.answer suite moment thread (.fsync "/") = ((0 : Int), saved)
      ∧ c.sealedTree suite saved.host = some c.tree := by
  have hkey : Key.normalize "/" = .ok "/" := by decide +kernel
  obtain ⟨host, hflush, hsettled⟩ :=
    OpenContainer.flush_outside hsuite hnone h hthrough htree
  exact ⟨_, answer_fsync hkey hopen ((if_pos hroot).trans hflush), hsettled.clean rfl hstorable⟩

/-- A machine and what becomes of it when a transaction begins are twins. -/
lemma twins_of_begin (hsuite : suite.Lawful) (hm : m.Reachable suite)
    (hopen : m.engine.opened = some c) (hnone : c.transaction = none)
    (htakes : m.host.Takes c.path) (moment : Moment) (thread : Thread) :
    ∃ begun, m.answer suite moment thread .beginTransaction = ((0 : Int), begun)
      ∧ Twins suite c.tree c m begun := by
  obtain ⟨hplaced, stored, hsealed, hclean, -⟩ := Backed.of_reachable hsuite hm hopen
  rw [OpenContainer.rollback_of_none hnone] at hclean
  refine ⟨_, answer_begin hopen hnone, hopen, ⟨c.dirty, rfl⟩, hnone, ?_, htakes⟩
  refine ⟨hplaced, (hm.fits hopen).cost, htakes, fun hdirty _ => ?_⟩
  rw [hsealed, hclean hdirty]

/-! ## Agreement -/

/-- A transaction begins, path operations are carried out in it, and it is completed.  As long as
all that is due to be saved can be saved, every operation is answered as it is without the
transaction, and so are the beginning and the end of it.  Afterwards the tree is the same, in memory
and, when the data of files has been saved, in the file. -/
theorem agrees_of_savable (hsuite : suite.Lawful) (hm : m.Reachable suite)
    (hopen : m.engine.opened = some c) (hnone : c.transaction = none)
    (htakes : m.host.Takes c.path) {calls calls' : List Call}
    (halike : List.Forall₂ Call.Alike calls calls')
    (hcalls : ∀ call ∈ calls, call.request.OnPath ∧ c.LetThrough call.moment)
    (hsavable : c.tree.Savable suite calls) (first : Moment) {last : Moment}
    (hlast : c.LetThrough last) (thread thread' : Thread) :
    ∃ begun committed, m.answer suite first thread .beginTransaction = ((0 : Int), begun)
      ∧ begun.exchanges suite calls' = m.exchanges suite calls
      ∧ (begun.afterAll suite calls').answer suite last thread' (.completeTransaction true)
        = ((0 : Int), committed)
      ∧ ∃ p t : OpenContainer, (m.afterAll suite calls).engine.opened = some p
        ∧ committed.engine.opened = some t ∧ t.tree = p.tree
        ∧ ∀ {moment moment' : Moment} (thread thread' : Thread), c.LetThrough moment →
          c.LetThrough moment' → p.tree.contains "/" = true → p.tree.Storable →
          ∃ saved saved',
            (m.afterAll suite calls).answer suite moment thread (.fsync "/") = ((0 : Int), saved)
            ∧ committed.answer suite moment' thread' (.fsync "/") = ((0 : Int), saved')
            ∧ c.sealedTree suite saved.host = some p.tree
            ∧ c.sealedTree suite saved'.host = some p.tree := by
  obtain ⟨begun, hbegin, htwins⟩ := twins_of_begin hsuite hm hopen hnone htakes first thread
  obtain ⟨hreplies, p, hsame, htakes, hended⟩ := htwins.run hsuite halike hcalls hsavable
  obtain ⟨committed, t, hcommit, hafter, hsame', htree, houtside, hsettled⟩ :=
    hended.commit hsuite htakes (hsame.letThrough hlast) thread'
  refine ⟨begun, committed, hbegin, hreplies, hcommit, p, t, hended.outside, hafter, htree, ?_⟩
  intro moment moment' thread thread' hthrough hthrough' hroot hstorable
  obtain ⟨saved, hfsync, hsealed⟩ := sealedTree_of_fsync hsuite hended.outside hended.none
    hended.settled (hsame.letThrough hthrough) htakes hroot hstorable thread
  have hsameT := hsame.trans hsame'
  rw [← htree] at htakes hroot hstorable
  obtain ⟨saved', hfsync', hsealed'⟩ := sealedTree_of_fsync hsuite hafter houtside hsettled
    (hsameT.letThrough hthrough') htakes hroot hstorable thread'
  refine ⟨saved, saved', hfsync, hfsync', ?_, ?_⟩
  · rwa [OpenContainer.sealedTree_congr hsame.path hsame.key rfl] at hsealed
  · rwa [OpenContainer.sealedTree_congr hsameT.path hsameT.key rfl, htree] at hsealed'

/-- Several operations, one of which fails, with other random bytes in the transaction. -/
theorem agrees_after_write :
    let moment : Moment := ⟨⟨.epoch, 0, 0⟩, [], .ofNat 0, none⟩
    let calls : List Call := [⟨moment, mainThread, .change (.write "/f" [1] 0)⟩,
      ⟨moment, mainThread, .change (.unlink "/g")⟩, ⟨moment, mainThread, .fsync "/f"⟩,
      ⟨moment, mainThread, .read "/f" 4 0⟩, ⟨moment, mainThread, .change (.mkdir "/a" 0o755)⟩,
      ⟨moment, mainThread, .change (.write "/f" [2] 1)⟩]
    let calls' : List Call := calls.map fun call =>
      { call with moment := { call.moment with nonce := .ofNat 1 } }
    ∃ (m begun committed saved saved' : Machine) (c p : OpenContainer), m.Reachable .standard
      ∧ m.engine.opened = some c ∧ c.transaction = none
      ∧ m.answer .standard moment mainThread .beginTransaction = ((0 : Int), begun)
      ∧ begun.exchanges .standard calls' = m.exchanges .standard calls
      ∧ (begun.afterAll .standard calls').answer .standard moment mainThread
        (.completeTransaction true) = ((0 : Int), committed)
      ∧ (m.afterAll .standard calls).engine.opened = some p ∧ p.tree ≠ c.tree
      ∧ (m.afterAll .standard calls).answer .standard moment mainThread (.fsync "/")
        = ((0 : Int), saved)
      ∧ committed.answer .standard moment mainThread (.fsync "/") = ((0 : Int), saved')
      ∧ c.sealedTree .standard saved.host = some p.tree
      ∧ c.sealedTree .standard saved'.host = some p.tree := by
  intro moment calls calls'
  suffices h : ∃ m : Machine, m.Reachable .standard ∧ ∃ c ∈ m.engine.opened, c.transaction = none
      ∧ m.host.Takes c.path ∧ (∀ call ∈ calls, call.request.OnPath ∧ c.LetThrough call.moment)
      ∧ c.tree.Savable .standard calls ∧ c.LetThrough moment
      ∧ ∃ p ∈ (m.afterAll .standard calls).engine.opened, p.tree ≠ c.tree
        ∧ p.tree.contains "/" = true ∧ p.tree.Storable by
    obtain ⟨m, hm, c, hopen, hnone, htakes, hcalls, hsavable, hthrough, p, hp, hne, hroot,
      hstorable⟩ := h
    have halike : List.Forall₂ Call.Alike calls calls' := by
      rw [List.forall₂_map_right_iff, List.forall₂_same]
      exact fun call _ => ⟨rfl, rfl⟩
    obtain ⟨begun, committed, hbegin, hreplies, hcommit, p', t, hp', -, -, hfsync⟩ :=
      agrees_of_savable CipherSuite.lawful_standard hm hopen hnone htakes halike hcalls hsavable
        moment hthrough mainThread mainThread
    obtain rfl := Option.some.inj (hp.symm.trans hp')
    obtain ⟨saved, saved', hsaved, hsaved', hsealed, hsealed'⟩ :=
      hfsync mainThread mainThread hthrough hthrough hroot hstorable
    exact ⟨m, begun, committed, saved, saved', c, p, hm, hopen, hnone, hbegin, hreplies, hcommit,
      hp, hne, hsaved, hsaved', hsealed, hsealed'⟩
  have opened : Run .standard (fun _ _ => True)
      ⟨.ofConfig .standard, .bare ⟨4096, 0, 0, 0, 0, 255⟩ "/"⟩ _ :=
    .step .start (.call moment mainThread
      (.openContainer "/box" (.key (List.replicate 32 0))) trivial) (by decide +kernel)
  have made : Run .standard _ _ _ :=
    .step opened (.call moment mainThread (.change (.create "/f" 0o644)) trivial)
      (by decide +kernel)
  exact ⟨_, ⟨_, _, made⟩, by decide +kernel⟩

/-- A time before the epoch is refused with its save, and is accepted inside a transaction, which
then cannot be completed. -/
theorem disagrees_after_utimens :
    let moment : Moment := ⟨⟨.epoch, 0, 0⟩, [], .ofNat 0, none⟩
    let utimens : Request := .change (.utimens "/f" none (some ⟨-1, 0⟩))
    let commit : Request := .completeTransaction true
    ∃ (m begun : Machine) (c : OpenContainer), m.Reachable .standard
      ∧ m.engine.opened = some c ∧ c.transaction = none ∧ m.host.Takes c.path
      ∧ c.LetThrough moment
      ∧ m.answer .standard moment mainThread .beginTransaction = ((0 : Int), begun)
      ∧ utimens.code? (m.answer .standard moment mainThread utimens).1 = some (-5)
      ∧ utimens.code? (begun.answer .standard moment mainThread utimens).1 = some 0
      ∧ commit.code? ((begun.answer .standard moment mainThread utimens).2.answer .standard moment
        mainThread commit).1 = some (-5) := by
  intro moment utimens commit
  suffices h : ∃ m : Machine, m.Reachable .standard ∧ ∃ c ∈ m.engine.opened, c.transaction = none
      ∧ m.host.Takes c.path ∧ c.LetThrough moment
      ∧ utimens.code? (m.answer .standard moment mainThread utimens).1 = some (-5)
      ∧ utimens.code? ((m.answer .standard moment mainThread .beginTransaction).2.answer .standard
        moment mainThread utimens).1 = some 0
      ∧ commit.code? (((m.answer .standard moment mainThread .beginTransaction).2.answer .standard
        moment mainThread utimens).2.answer .standard moment mainThread commit).1 = some (-5) by
    obtain ⟨m, hm, c, hopen, hnone, htakes, hthrough, houtside, hinside, hcommit⟩ := h
    rw [answer_begin hopen hnone] at hinside hcommit
    exact ⟨m, _, c, hm, hopen, hnone, htakes, hthrough, answer_begin hopen hnone, houtside, hinside,
      hcommit⟩
  have opened : Run .standard (fun _ _ => True)
      ⟨.ofConfig .standard, .bare ⟨4096, 0, 0, 0, 0, 255⟩ "/"⟩ _ :=
    .step .start (.call moment mainThread
      (.openContainer "/box" (.key (List.replicate 32 0))) trivial) (by decide +kernel)
  have made : Run .standard _ _ _ :=
    .step opened (.call moment mainThread (.change (.create "/f" 0o644)) trivial)
      (by decide +kernel)
  exact ⟨_, ⟨_, _, made⟩, by decide +kernel⟩

end Machine

end Strongbox
