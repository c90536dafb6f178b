import Strongbox.Engine.Container
import Strongbox.Proofs.Tree.InPlace

/-!
# What an open container does

One lemma for each way in which work on an open container ends: what it leaves in memory, and what
becomes of the host.  Saving is the only thing that touches the host, so each lemma names the saves
and says that there are no others.

* `save_ok`, `save_error` — a save, and what is left of one that fails.
* `change_of_ok`, `change_of_error` — a change with the save that belongs to it, and `change_ok`,
  `change_error` the other way round.
* `flush_ok`, `flush_error` — a save that is made only if something is pending.
* `persist_error_of_change`, `persist_error_of_flush` — where it is the save that fails.
* `commit_ok`, `commit_error` — the completion of one level of a transaction.
-/

namespace Strongbox.OpenContainer

variable {suite : CipherSuite} {moment : Moment} {host host' : Host} {c c' : OpenContainer}
  {code : Errno}

/-! ## Saving -/

/-- With a save nothing is pending any more. -/
lemma save_ok (h : c.save suite moment host = (.ok (), c', host')) :
    c.persist suite moment host = .ok host' ∧ c' = { c with dirty := false } := by
  unfold save at h
  split at h
  · next saved hp =>
      cases h
      exact ⟨hp, rfl⟩
  · cases h

/-- A save that fails leaves everything as it was. -/
lemma save_error (h : c.save suite moment host = (.error code, c', host')) :
    code = .ioFailure ∧ c' = c ∧ host' = host ∧ ∃ e, c.persist suite moment host = .error e := by
  unfold save at h
  split at h
  · cases h
  · next e hp =>
      cases h
      exact ⟨rfl, rfl, rfl, e, hp⟩

/-! ## Changes -/

/-- A change that cannot be carried out fails for that reason, and nothing is saved. -/
lemma change_of_error {change : Change} (ha : change.apply moment.stamp c.tree = .error code) :
    c.change suite moment host change = (.error code, c, host) := by
  unfold OpenContainer.change
  rw [Change.perform_eq_settle]
  simp only [ha, Edit.settle]

/-- A change that can be carried out waits for its save or is saved, and is undone where the save
fails. -/
lemma change_of_ok {change : Change} {tree : Tree}
    (ha : change.apply moment.stamp c.tree = .ok tree) :
    c.change suite moment host change = match change.saving, c.transaction with
      | .never, _ => (.ok (), { c with tree := tree }, host)
      | .later, _ => (.ok (), { c with tree := tree, dirty := true }, host)
      | .atOnce, some _ => (.ok (), { c with tree := tree }, host)
      | .atOnce, none =>
        match ({ c with tree := tree } : OpenContainer).persist suite moment host with
        | .ok saved => (.ok (), { c with tree := tree, dirty := false }, saved)
        | .error _ => (.error .ioFailure, c, host) := by
  obtain ⟨path, credential, salt, cost, key, old, transaction, dirty⟩ := c
  unfold OpenContainer.change
  rw [Change.perform_eq_settle]
  simp only [ha, Edit.settle, save]
  cases change.saving with
  | never | later => rfl
  | atOnce =>
      cases transaction with
      | some transaction => rfl
      | none =>
          dsimp only
          cases OpenContainer.persist suite moment host
            ⟨path, credential, salt, cost, key, tree, none, dirty⟩ <;> rfl

/-- Where a change succeeds, the tree is the changed one.  It is saved at once unless the change can
wait or a transaction is open. -/
lemma change_ok {change : Change} (h : c.change suite moment host change = (.ok (), c', host')) :
    ∃ tree, change.apply moment.stamp c.tree = .ok tree ∧
      (change.saving = .never ∧ c' = { c with tree := tree } ∧ host' = host
      ∨ change.saving = .later ∧ c' = { c with tree := tree, dirty := true } ∧ host' = host
      ∨ change.saving = .atOnce ∧ c.transaction.isSome ∧ c' = { c with tree := tree }
        ∧ host' = host
      ∨ change.saving = .atOnce ∧ c.transaction = none
        ∧ ({ c with tree := tree } : OpenContainer).persist suite moment host = .ok host'
        ∧ c' = { c with tree := tree, dirty := false }) := by
  cases ha : change.apply moment.stamp c.tree with
  | error code =>
      rw [change_of_error ha] at h
      cases h
  | ok tree =>
      rw [change_of_ok ha] at h
      refine ⟨tree, rfl, ?_⟩
      split at h
      · next hs => cases h; exact Or.inl ⟨hs, rfl, rfl⟩
      · next hs => cases h; exact Or.inr (Or.inl ⟨hs, rfl, rfl⟩)
      · next hs ht => cases h; exact Or.inr (Or.inr (Or.inl ⟨hs, by simp [ht], rfl, rfl⟩))
      · next hs ht =>
          split at h
          · next hp => cases h; exact Or.inr (Or.inr (Or.inr ⟨hs, ht, hp, rfl⟩))
          · cases h

/-- A change that succeeds leaves the tree that it amounts to. -/
lemma apply_of_change {change : Change}
    (h : c.change suite moment host change = (.ok (), c', host')) :
    change.apply moment.stamp c.tree = .ok c'.tree := by
  obtain ⟨tree, happly, hways⟩ := change_ok h
  rw [happly]
  rcases hways with ⟨-, rfl, -⟩ | ⟨-, rfl, -⟩ | ⟨-, -, rfl, -⟩ | ⟨-, -, -, rfl⟩ <;> rfl

/-- Outside a transaction it has been saved, unless it can wait. -/
lemma persist_of_change {change : Change}
    (h : c.change suite moment host change = (.ok (), c', host')) (hsaving : change.saving = .atOnce)
    (hnone : c.transaction = none) :
    ({ c with tree := c'.tree } : OpenContainer).persist suite moment host = .ok host' := by
  obtain ⟨tree, -, ⟨hother, -⟩ | ⟨hother, -⟩ | ⟨-, hsome, -⟩ | ⟨-, -, hsave, rfl⟩⟩ := change_ok h
  · cases hother.symm.trans hsaving
  · cases hother.symm.trans hsaving
  · rw [hnone] at hsome
    cases hsome
  · exact hsave

/-- A change that fails leaves everything as it was, whether it fails before the tree is changed or
with the save behind it. -/
lemma change_error {change : Change}
    (h : c.change suite moment host change = (.error code, c', host')) :
    c' = c ∧ host' = host := by
  cases ha : change.apply moment.stamp c.tree with
  | error code =>
      rw [change_of_error ha] at h
      cases h
      exact ⟨rfl, rfl⟩
  | ok tree =>
      rw [change_of_ok ha] at h
      split at h
      · cases h
      · cases h
      · cases h
      · split at h
        · cases h
        · cases h
          exact ⟨rfl, rfl⟩

/-- A change that can be carried out fails only with the save that follows it at once. -/
lemma persist_error_of_change {change : Change} {tree : Tree}
    (h : c.change suite moment host change = (.error code, c', host'))
    (ha : change.apply moment.stamp c.tree = .ok tree) :
    change.saving = .atOnce ∧ c.transaction = none
      ∧ ∃ e, ({ c with tree := tree } : OpenContainer).persist suite moment host = .error e := by
  rw [change_of_ok ha] at h
  split at h
  · cases h
  · cases h
  · cases h
  · next hsaving hnone =>
      split at h
      · cases h
      · next e hp => exact ⟨hsaving, hnone, e, hp⟩

/-- And then it fails as the save does. -/
lemma code_of_change {change : Change} {tree : Tree}
    (h : c.change suite moment host change = (.error code, c', host'))
    (ha : change.apply moment.stamp c.tree = .ok tree) : code = .ioFailure := by
  rw [change_of_ok ha] at h
  split at h
  · cases h
  · cases h
  · cases h
  · split at h
    · cases h
    · cases h
      rfl

/-! ## Flushing -/

lemma flush_ok (h : c.flush suite moment host = (.ok (), c', host')) :
    c.dirty = true ∧ c.transaction = none ∧ c.persist suite moment host = .ok host'
        ∧ c' = { c with dirty := false }
      ∨ ¬ (c.dirty = true ∧ c.transaction = none) ∧ c' = c ∧ host' = host := by
  unfold flush at h
  split at h
  · next hd => exact Or.inl ⟨hd.1, hd.2, save_ok h⟩
  · next hd => cases h; exact Or.inr ⟨hd, rfl, rfl⟩

lemma flush_error (h : c.flush suite moment host = (.error code, c', host')) :
    c' = c ∧ host' = host := by
  unfold flush at h
  split at h
  · exact ⟨(save_error h).2.1, (save_error h).2.2.1⟩
  · cases h

lemma rollback_of_none (h : c.transaction = none) : c.rollback = c := by
  rw [rollback, h]

lemma rollback_of_some {depth : Nat} {snapshot : Tree}
    (h : c.transaction = some ⟨depth, snapshot⟩) :
    c.rollback = { c with tree := snapshot, transaction := none } := by
  rw [rollback, h]

/-- An inner level is only counted; with the outermost one the tree is saved. -/
lemma commit_ok (h : c.commit suite moment host = (.ok (), c', host')) :
    ∃ depth snapshot, c.transaction = some ⟨depth, snapshot⟩
      ∧ (1 < depth ∧ c' = { c with transaction := some ⟨depth - 1, snapshot⟩ } ∧ host' = host
        ∨ ¬ 1 < depth
          ∧ ({ c with transaction := none } : OpenContainer).persist suite moment host = .ok host'
          ∧ c' = { c with transaction := none, dirty := false }) := by
  unfold commit at h
  split at h
  · cases h
  · next depth snapshot ht =>
      refine ⟨depth, snapshot, ht, ?_⟩
      split at h
      · next hdepth =>
          cases h
          exact Or.inl ⟨hdepth, rfl, rfl⟩
      · next hdepth =>
          split at h
          · next hsave =>
              cases h
              exact Or.inr ⟨hdepth, save_ok hsave⟩
          · cases h

/-- Without a transaction there is nothing to complete.  A save that fails gives the transaction
up. -/
lemma commit_error (h : c.commit suite moment host = (.error code, c', host')) :
    host' = host
      ∧ (c.transaction = none ∧ code = .invalid ∧ c' = c
        ∨ ∃ depth snapshot, c.transaction = some ⟨depth, snapshot⟩ ∧ ¬ 1 < depth
          ∧ code = .ioFailure ∧ c' = { c with tree := snapshot, transaction := none }
          ∧ ∃ e, ({ c with transaction := none } : OpenContainer).persist suite moment host
            = .error e) := by
  unfold commit at h
  split at h
  · next ht =>
      cases h
      exact ⟨rfl, Or.inl ⟨ht, rfl, rfl⟩⟩
  · next depth snapshot ht =>
      split at h
      · cases h
      · next hdepth =>
          split at h
          · cases h
          · next hsave =>
              obtain ⟨rfl, rfl, rfl, he⟩ := save_error hsave
              cases h
              exact ⟨rfl, Or.inr ⟨depth, snapshot, ht, hdepth, rfl, rfl, he⟩⟩

end Strongbox.OpenContainer
