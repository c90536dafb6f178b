import Strongbox.Proofs.Session.Run

/-!
# Transactions of a session

What the calls of a mounted session come to inside a transaction, and what its beginning and its
end do.

* `Timeline.Inside` — what a transaction began with, and where it has come to.
* `Call.runOn_beginTransaction`, `Call.runOn_completeTransaction`, `Call.runOn_rollbackTransaction`
  — the beginning and the ends.
* **`Call.runOn_change_inside`** — a change in between, which is not saved.
-/

namespace Strongbox

/-- A transaction is open that began with one tree and has come to another one. -/
def Timeline.Inside (line : Timeline) (snapshot t : Tree) : Prop :=
  ∃ c host, line.Holds c host ∧ c.transaction = some ⟨1, snapshot⟩ ∧ c.tree = t

namespace Call

variable (suite : CipherSuite) (thread : Thread) {line : Timeline} {c : OpenContainer}
  {t snapshot : Tree} {host : Host} {s : Session}

/-- Inside a transaction a change is told how it went with the tree. -/
lemma runOn_change_inside (h : line.Inside snapshot t) (operation : String)
    {change resolved : Change} (hresolve : change.resolve = .ok resolved) :
    ∃ line', (discard <| Call.change operation change : Call Unit).runOn suite thread line
        = (((resolved.apply line.moment.stamp t).map fun _ => ()).mapError (.told operation), line')
      ∧ line'.Inside snapshot (resolved.after line.moment.stamp t) := by
  obtain ⟨c, host, hline, ht, rfl⟩ := h
  obtain ⟨dirty, hchange⟩ : ∃ dirty, c.change suite line.moment host resolved
      = ((resolved.apply line.moment.stamp c.tree).map fun _ => (),
        { c with tree := resolved.after line.moment.stamp c.tree, dirty := dirty }, host) :=
    OpenContainer.change_inside ht resolved
  obtain ⟨line', hrun, hline'⟩ := runOn_change suite thread change hline operation hresolve hchange
  refine ⟨line', (runOn_discard ..).trans ?_, _, host, hline', ht, rfl⟩
  rw [hrun]
  cases resolved.apply line.moment.stamp c.tree <;> rfl

/-- Outside a transaction a change leaves none open, and a change that fails leaves the tree. -/
lemma runOn_change_outside (h : line.Holds c host) (hnone : c.transaction = none)
    (operation : String) (change : Change) :
    ∃ outcome line' c' host',
      (discard <| Call.change operation change : Call Unit).runOn suite thread line
        = (outcome, line')
      ∧ line'.Holds c' host' ∧ c'.transaction = none ∧ (outcome.isOk = false → c'.tree = c.tree) := by
  cases hresolve : change.resolve with
  | error code =>
      obtain ⟨line', hrun, hline'⟩ := runOn_change_unnamed suite thread change h operation hresolve
      refine ⟨.error (.told operation code), line', c, host, (runOn_discard ..).trans ?_, hline',
        hnone, fun _ => rfl⟩
      rw [hrun]
      rfl
  | ok resolved =>
      rcases hchange : c.change suite line.moment host resolved with ⟨outcome, c', host'⟩
      obtain ⟨line', hrun, hline'⟩ := runOn_change suite thread change h operation hresolve hchange
      have hwork : c.Work suite line.moment host host' c' (.change change) :=
        OpenContainer.work_of_change hchange
      have hnone' : c'.transaction = none := hwork.outside hnone Request.noConfusion
      refine ⟨(outcome.map fun _ => ()).mapError (.told operation), line', c', host',
        (runOn_discard ..).trans ?_, hline', hnone', fun hfailed => ?_⟩
      · rw [hrun]
        cases outcome <;> rfl
      · cases outcome with
        | ok done => cases hfailed
        | error code => rw [(OpenContainer.change_error hchange).1]

variable (hs : s.isMounted = true)

include hs

/-- A transaction begins with the tree as it is. -/
lemma runOn_beginTransaction (h : line.Holds c host) (hnone : c.transaction = none) :
    ∃ line', s.beginTransaction.runOn suite thread line = (.ok (), line')
      ∧ line'.Holds c.begin host := by
  have hanswer : line.machine.answer suite line.moment thread .beginTransaction = _ :=
    Machine.answer_begin h.opened hnone
  refine ⟨_, runOn_require_request hs "begin_transaction" .beginTransaction hanswer id, ?_, h.host⟩
  rw [OpenContainer.begin, hnone]
  rfl

/-- A transaction is completed with the tree that it has come to, or else with the one that it began
with. -/
lemma runOn_completeTransaction (h : line.Inside snapshot t) :
    ∃ outcome line' c' host', s.completeTransaction.runOn suite thread line = (outcome, line')
      ∧ line'.Holds c' host' ∧ c'.transaction = none
      ∧ (outcome = .ok () ∧ c'.tree = t ∨ outcome.isOk = false ∧ c'.tree = snapshot) := by
  obtain ⟨c, host, hline, ht, rfl⟩ := h
  rcases hcommit : c.commit suite line.moment line.machine.host with ⟨outcome, c', host'⟩
  have hanswer : line.machine.answer suite line.moment thread (.completeTransaction true) = _ :=
    Machine.answer_complete hline.opened hcommit
  refine ⟨_, _, c', host', runOn_require_request hs "complete_transaction"
    (.completeTransaction true) hanswer id, ⟨rfl, rfl⟩, ?_⟩
  cases outcome with
  | ok done =>
      obtain ⟨depth, tree, hd, ⟨hdeep, -⟩ | ⟨-, -, rfl⟩⟩ := OpenContainer.commit_ok hcommit
      · obtain ⟨rfl, rfl⟩ := Transaction.mk.inj (Option.some.inj (ht.symm.trans hd))
        exact absurd hdeep (Nat.lt_irrefl 1)
      · exact ⟨rfl, Or.inl ⟨rfl, rfl⟩⟩
  | error code =>
      obtain ⟨-, ⟨hnone, -⟩ | ⟨depth, tree, hd, -, rfl, rfl, -⟩⟩ :=
        OpenContainer.commit_error hcommit
      · rw [hnone] at ht
        cases ht
      · obtain ⟨rfl, rfl⟩ := Transaction.mk.inj (Option.some.inj (ht.symm.trans hd))
        exact ⟨rfl, Or.inr ⟨rfl, rfl⟩⟩

/-- A transaction that is given up leaves the tree that it began with. -/
lemma runOn_rollbackTransaction (h : line.Inside snapshot t) :
    ∃ outcome line' c' host', s.rollbackTransaction.runOn suite thread line = (outcome, line')
      ∧ line'.Holds c' host' ∧ c'.transaction = none ∧ c'.tree = snapshot := by
  obtain ⟨c, host, hline, ht, rfl⟩ := h
  have hwork : (if false then c.commit suite line.moment line.machine.host
      else if c.transaction.isNone then (.error .invalid, c, line.machine.host)
      else (.ok (), c.rollback, line.machine.host)) = (.ok (), c.rollback, line.machine.host) := by
    rw [ht]
    rfl
  have hanswer : line.machine.answer suite line.moment thread (.completeTransaction false) = _ :=
    Machine.answer_complete hline.opened hwork
  refine ⟨_, _, c.rollback, _, runOn_require_request hs "rollback_transaction"
    (.completeTransaction false) hanswer id, ⟨rfl, rfl⟩, ?_⟩
  rw [OpenContainer.rollback_of_some ht]
  exact ⟨rfl, rfl⟩

end Call

end Strongbox
