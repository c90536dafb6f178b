import Strongbox.Proofs.Engine.Saving
import Strongbox.Proofs.Tree.Reachable

/-!
# Saving at once and saving later

Inside a transaction a change is carried out and not saved.  Outside it is carried out and saved,
and undone if that fails.  Where saves go through, the two differ in nothing but the state of the file.

* `OpenContainer.Settled` — a container whose saves can go through, with its file in step.
* `OpenContainer.exists_settled` — a save that goes through settles the container.
* `OpenContainer.change_inside`, `OpenContainer.change_outside` — one change, in the two ways.
* `OpenContainer.flush_inside`, `OpenContainer.flush_outside` — the saving of written data.
-/

namespace Strongbox

namespace OpenContainer

variable {suite : CipherSuite} {moment : Moment} {host : Host} {c : OpenContainer}

/-- The saves of a container can go through, as far as its file is concerned, and where nothing is
marked as pending, the file has the tree in memory. -/
structure Settled (suite : CipherSuite) (host : Host) (c : OpenContainer) : Prop where
  placed : c.Placed
  cost : ∀ {cost : Scrypt.Params}, c.cost = some cost → cost.Storable
  takes : host.Takes c.path
  clean : c.dirty = false → c.tree.Storable → c.sealedTree suite host = some c.tree

/-- Marking a container as pending leaves nothing to be said about its file. -/
lemma Settled.pending (h : c.Settled suite host) (tree : Tree) :
    ({ c with tree := tree, dirty := true } : OpenContainer).Settled suite host :=
  ⟨⟨h.placed.cleaned, h.placed.short⟩, h.cost, h.takes, Bool.noConfusion⟩

/-- A save that goes through settles every state of the container with the tree that was saved. -/
lemma exists_settled (hsuite : suite.Lawful) (hplaced : c.Placed)
    (hcost : ∀ {cost : Scrypt.Params}, c.cost = some cost → cost.Storable)
    (htakes : host.Takes c.path) (hthrough : c.LetThrough moment) (htree : suite.Takes c.tree) :
    ∃ host', c.persist suite moment host = .ok host'
      ∧ ∀ {c' : OpenContainer}, c.SameFile c' → c'.tree = c.tree → c'.Settled suite host' := by
  obtain ⟨host', hsave, htakes'⟩ := exists_persist htree hthrough htakes
  refine ⟨host', hsave, fun {c'} hsame htree' => ⟨hsame.placed hplaced, ?_, ?_, ?_⟩⟩
  · rw [hsame.cost]
    exact hcost
  · rw [hsame.path]
    exact htakes'
  · intro _ hstorable
    rw [sealedTree_congr hsame.path hsame.key rfl, htree']
    exact sealedTree_of_persist hsuite hplaced (htree' ▸ hstorable) hcost hsave

/-! ## One change -/

lemma change_inside {transaction : Transaction} (ht : c.transaction = some transaction)
    (change : Change) :
    ∃ dirty, c.change suite moment host change
      = ((change.apply moment.stamp c.tree).map fun _ => (),
        { c with tree := change.after moment.stamp c.tree, dirty := dirty }, host) := by
  rw [Change.after]
  cases ha : change.apply moment.stamp c.tree with
  | error code => exact ⟨c.dirty, change_of_error ha⟩
  | ok tree =>
      rw [change_of_ok ha, ht]
      cases change.saving with
      | never | atOnce => exact ⟨c.dirty, rfl⟩
      | later => exact ⟨true, rfl⟩

/-- Outside a transaction the outcome is the same, if the tree that is to be saved at once can be
sealed. -/
lemma change_outside (hsuite : suite.Lawful) (hnone : c.transaction = none)
    (h : c.Settled suite host) (hthrough : c.LetThrough moment) {change : Change}
    (hsaved : ∀ {tree}, change.saving = .atOnce → change.apply moment.stamp c.tree = .ok tree →
      suite.Takes tree) :
    ∃ dirty host', c.change suite moment host change
        = ((change.apply moment.stamp c.tree).map fun _ => (),
          { c with tree := change.after moment.stamp c.tree, dirty := dirty }, host')
      ∧ ({ c with tree := change.after moment.stamp c.tree, dirty := dirty } :
        OpenContainer).Settled suite host' := by
  obtain ⟨path, credential, salt, cost, key, old, transaction, dirty⟩ := c
  obtain rfl : transaction = none := hnone
  rw [Change.after]
  cases ha : change.apply moment.stamp old with
  | error code => exact ⟨dirty, host, change_of_error ha, h⟩
  | ok tree =>
      rw [change_of_ok ha]
      cases hsaving : change.saving with
      | never =>
          obtain rfl := Change.eq_of_never hsaving ha
          exact ⟨dirty, host, rfl, h⟩
      | later => exact ⟨true, host, rfl, h.pending tree⟩
      | atOnce =>
          obtain ⟨host', hsave, hsettled⟩ := exists_settled
            (c := ⟨path, credential, salt, cost, key, tree, none, dirty⟩) hsuite
            ⟨h.placed.cleaned, h.placed.short⟩ h.cost h.takes
            ⟨hthrough.refusal, hthrough.header⟩ (hsaved hsaving ha)
          refine ⟨false, host', ?_, hsettled ⟨rfl, rfl, rfl, rfl, rfl⟩ rfl⟩
          simp only [hsave]
          rfl

/-! ## Written data -/

lemma flush_inside (ht : c.transaction ≠ none) :
    c.flush suite moment host = (.ok (), c, host) :=
  if_neg fun h => ht h.2

/-- Outside a transaction the outcome is the same, if the tree can be sealed. -/
lemma flush_outside (hsuite : suite.Lawful) (hnone : c.transaction = none)
    (h : c.Settled suite host) (hthrough : c.LetThrough moment) (htree : suite.Takes c.tree) :
    ∃ host', c.flush suite moment host = (.ok (), { c with dirty := false }, host')
      ∧ ({ c with dirty := false } : OpenContainer).Settled suite host' := by
  by_cases hdirty : c.dirty = true
  · obtain ⟨host', hsave, hsettled⟩ :=
      exists_settled hsuite h.placed h.cost h.takes hthrough htree
    refine ⟨host', ?_, hsettled ⟨rfl, rfl, rfl, rfl, rfl⟩ rfl⟩
    rw [flush, if_pos ⟨hdirty, hnone⟩, save, hsave]
  · have hclean : c.dirty = false := Bool.eq_false_iff.2 hdirty
    have hsame : { c with dirty := false } = c := by
      rw [← hclean]
    rw [hsame]
    exact ⟨host, if_neg fun hpending => hdirty hpending.1, h⟩

end OpenContainer

end Strongbox
