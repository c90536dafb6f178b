import Strongbox.Proofs.Engine.Run

/-!
# Memory and file

The tree of an open container is in memory, and a tree is sealed in its file.  The two are kept in
step: they differ by pending writes, and if nothing is marked as pending, not at all.

Within a transaction the tree in memory runs ahead.  What the file is in step with is then the tree
that the transaction goes back to, which is `OpenContainer.rollback` in either case.

* `OpenContainer.Backed` — the invariant.
* `OpenContainer.Backed.work` — it is kept by all work on a container.
* **`Machine.sealedTree_of_reachable`** — what is in the file of a container without a transaction.
-/

namespace Strongbox

namespace OpenContainer

variable {suite : CipherSuite} {moment : Moment} {host host' : Host} {c c' p : OpenContainer}
  {request : Request}

/-- The file of a container is in step with the tree that is kept if its transaction, should there
be one, is given up. -/
structure Backed (suite : CipherSuite) (host : Host) (c : OpenContainer) : Prop where
  placed : c.Placed
  pending : ∃ stored, c.sealedTree suite host = some stored
    ∧ (c.dirty = false → stored = c.rollback.tree) ∧ stored.Pending c.rollback.tree

namespace Backed

/-- A container whose tree was just saved is backed. -/
lemma of_persist (hsuite : suite.Lawful) (hfits : c.Fits) (hplaced : c.Placed)
    (hnone : c.transaction = none) (hsame : p.SameFile c) (htree : p.tree = c.tree)
    (h : p.persist suite moment host = .ok host') : c.Backed suite host' := by
  have hp : p.Placed := ⟨hsame.path ▸ hplaced.cleaned, hsame.path ▸ hplaced.short⟩
  have hsealed : p.sealedTree suite host' = some p.tree :=
    sealedTree_of_persist hsuite hp (htree ▸ hfits.tree) (hsame.cost ▸ hfits.cost) h
  refine ⟨hplaced, c.tree, ?_, ?_, ?_⟩
  · rw [sealedTree_congr hsame.path hsame.key rfl, hsealed, htree]
  · rw [rollback_of_none hnone]
    exact fun _ => rfl
  · rw [rollback_of_none hnone]
    exact .refl

/-- Where nothing is pending and nothing can be given up, the file has the tree in memory. -/
lemma sealedTree_of_clean (h : c.Backed suite host) (hnone : c.transaction = none)
    (hclean : c.dirty = false) : c.sealedTree suite host = some c.tree := by
  obtain ⟨-, stored, hsealed, hsame, -⟩ := h
  rw [rollback_of_none hnone] at hsame
  rw [hsealed, hsame hclean]

/-- As long as the file and the tree to go back to are the same, a container stays backed.  It must
not be unmarked, since what is in the file may be older. -/
lemma frame (h : c.Backed suite host) (hsame : c.SameFile c')
    (hread : host'.read c.path = host.read c.path) (htree : c'.rollback.tree = c.rollback.tree)
    (hdirty : c'.dirty = false → c.dirty = false) : c'.Backed suite host' := by
  obtain ⟨hplaced, stored, hsealed, hclean, hpending⟩ := h
  refine ⟨hsame.placed hplaced, stored, ?_, ?_, ?_⟩
  · rw [sealedTree_congr hsame.path hsame.key hread, hsealed]
  · exact fun hd => (hclean (hdirty hd)).trans htree.symm
  · exact htree.symm ▸ hpending

/-- A write is pending from now on, or is part of a transaction. -/
lemma written (h : c.Backed suite host) {tree : Tree} (hwritten : c.tree.Written tree) :
    ({ c with tree := tree, dirty := true } : OpenContainer).Backed suite host := by
  cases ht : c.transaction with
  | some transaction =>
      refine h.frame ⟨rfl, rfl, rfl, rfl, rfl⟩ rfl ?_ Bool.noConfusion
      simp only [rollback, ht]
  | none =>
      obtain ⟨hplaced, stored, hsealed, -, hpending⟩ := h
      rw [rollback_of_none ht] at hpending
      refine ⟨⟨hplaced.cleaned, hplaced.short⟩, stored, hsealed, Bool.noConfusion, ?_⟩
      exact hpending.tail hwritten

/-- What a transaction goes back to is settled when it begins. -/
lemma begin (h : c.Backed suite host) : c.begin.Backed suite host := by
  refine h.frame c.sameFile_begin rfl ?_ fun hd => ?_
  · unfold OpenContainer.begin rollback
    cases c.transaction <;> rfl
  · unfold OpenContainer.begin at hd
    cases ht : c.transaction <;> simpa only [ht] using hd

lemma rollback (h : c.Backed suite host) : c.rollback.Backed suite host := by
  refine h.frame c.sameFile_rollback rfl ?_ fun hd => ?_
  · unfold OpenContainer.rollback
    cases ht : c.transaction <;> simp only [ht]
  · unfold OpenContainer.rollback at hd
    cases ht : c.transaction <;> simpa only [ht] using hd

/-- All work on a container keeps its file in step: what is saved is in step anew, and what is not
either waits, or does not touch the tree to go back to. -/
lemma work (hsuite : suite.Lawful) (h : c.Backed suite host) (hfits : c'.Fits)
    (hwork : c.Work suite moment host host' c' request) : c'.Backed suite host' := by
  have hplaced := hwork.sameFile.placed h.placed
  cases hwork with
  | idle hc hhost => exact hc ▸ hhost ▸ h
  | written hwritten hc hhost => exact hc ▸ hhost ▸ h.written hwritten
  | changed ht hc hhost =>
      subst hc hhost
      refine h.frame ⟨rfl, rfl, rfl, rfl, rfl⟩ rfl ?_ id
      simp only [OpenContainer.rollback, ht]
  | saved _ hnone hsave hc =>
      subst hc
      exact of_persist hsuite hfits hplaced hnone ⟨rfl, rfl, rfl, rfl, rfl⟩ rfl hsave
  | begun hc hhost => exact hc ▸ hhost ▸ h.begin
  | counted ht _ hc hhost =>
      subst hc hhost
      refine h.frame ⟨rfl, rfl, rfl, rfl, rfl⟩ rfl ?_ id
      simp only [OpenContainer.rollback, ht]
  | committed _ _ hsave hc =>
      subst hc
      exact of_persist hsuite hfits hplaced rfl ⟨rfl, rfl, rfl, rfl, rfl⟩ rfl hsave
  | rolledBack _ _ hc hhost => exact hc ▸ hhost ▸ h.rollback

/-- A container that is opened is in step with its file from the start. -/
lemma of_unlock (hsuite : suite.Lawful) (hfits : c.Fits) {config : EngineConfig}
    {given path : String} {credential : Credential} (hpath : HostPath.absoluteOrSelf given = path)
    (h : ContainerEngine.unlock suite config moment host path credential = .ok (c, host')) :
    c.Backed suite host' := by
  have hplaced := ContainerEngine.placed_of_unlock hpath h
  obtain ⟨-, hnone, -, -, ⟨rfl, hsealed⟩ | hsave⟩ := ContainerEngine.unlock_ok h
  · refine ⟨hplaced, c.tree, hsealed, ?_, ?_⟩
    · rw [rollback_of_none hnone]
      exact fun _ => rfl
    · rw [rollback_of_none hnone]
      exact .refl
  · exact of_persist hsuite hfits hplaced hnone (.refl c) rfl hsave

end Backed

end OpenContainer

namespace Machine

variable {suite : CipherSuite} {m m' : Machine}

/-- The container that is open, if any, is in step with its file. -/
def Backed (suite : CipherSuite) (m : Machine) : Prop :=
  ∀ {c : OpenContainer}, m.engine.opened = some c → c.Backed suite m.host

lemma Backed.effect (hsuite : suite.Lawful) (h : m.Backed suite) {moment : Moment}
    {request : Request} (heffect : Effect suite moment m m' request) (hfits : m'.Fits) :
    m'.Backed suite := by
  intro c hc
  cases heffect with
  | none huntouched =>
      rw [huntouched.1] at hc
      exact huntouched.2 ▸ h hc
  | opened _ hpath hunlock hopen =>
      obtain rfl := Option.some.inj (hopen.symm.trans hc)
      exact .of_unlock hsuite (hfits hc) hpath hunlock
  | worked hopen hwork hopen' =>
      obtain rfl := Option.some.inj (hopen'.symm.trans hc)
      exact (h hopen).work hsuite (hfits hc) hwork
  | closed _ _ _ hclosed =>
      rw [hclosed] at hc
      cases hc

/-- In every state that can be reached, the open container is in step with its file. -/
lemma Backed.of_run (hsuite : suite.Lawful) {allowed : Machine → Request → Prop} {start : Machine}
    (hstart : start.Backed suite) (h : Run suite allowed start m) : m.Backed suite := by
  refine h.invariant (P := Backed suite) hstart ?_ ?_
  · intro m m' moment request hm _ heffect hfits
    exact hm.effect hsuite heffect hfits
  · intro m m' hm hopened hread c hc
    rw [hopened] at hc
    exact (hm hc).frame (.refl c) (hread hc) rfl id

lemma Backed.of_reachable (hsuite : suite.Lawful) (h : m.Reachable suite) : m.Backed suite := by
  obtain ⟨config, host, hrun⟩ := h
  refine Backed.of_run hsuite ?_ hrun
  intro c hc
  cases hc

/-- A container without a transaction has a tree sealed in its file from which the tree in memory
comes by writes alone, so that the two differ in the data of files and in the times of its change.
If nothing is marked as pending, they are the same. -/
theorem sealedTree_of_reachable (hsuite : suite.Lawful) (h : m.Reachable suite) {c : OpenContainer}
    (hc : m.engine.opened = some c) (hnone : c.transaction = none) :
    ∃ stored, c.sealedTree suite m.host = some stored
      ∧ (c.dirty = false → stored = c.tree) ∧ stored.Pending c.tree ∧ stored.LagsBehind c.tree := by
  obtain ⟨-, stored, hsealed, hclean, hpending⟩ := Backed.of_reachable hsuite h hc
  rw [OpenContainer.rollback_of_none hnone] at hclean hpending
  exact ⟨stored, hsealed, hclean, hpending, Tree.lagsBehind_of_pending hpending⟩

/-- Data that is written to a new file, while the save of the next change is refused. -/
theorem sealedTree_after_write : ∃ m : Machine, m.Reachable .standard ∧ ∃ c stored,
    m.engine.opened = some c ∧ c.transaction = none ∧ c.dirty = true
      ∧ c.sealedTree .standard m.host = some stored ∧ stored.Pending c.tree
      ∧ stored.LagsBehind c.tree := by
  suffices h : ∃ m : Machine, m.Reachable .standard
      ∧ ∃ c ∈ m.engine.opened, c.transaction = none ∧ c.dirty = true by
    obtain ⟨m, hm, c, hc, hnone, hdirty⟩ := h
    obtain ⟨stored, hsealed, -, hpending, hlag⟩ :=
      sealedTree_of_reachable CipherSuite.lawful_standard hm hc hnone
    exact ⟨m, hm, c, stored, hc, hnone, hdirty, hsealed, hpending, hlag⟩
  let moment : Moment := ⟨⟨.epoch, 0, 0⟩, [], .ofNat 0, none⟩
  let refused : Moment := { moment with refusal := some (.os .ioFailure) }
  let key : Credential := .key (List.replicate 32 0)
  have opened : Run .standard (fun _ _ => True)
      ⟨.ofConfig .standard, .bare ⟨4096, 0, 0, 0, 0, 255⟩ "/"⟩ _ :=
    .step .start (.call moment mainThread (.openContainer "/box" key) trivial) (by decide +kernel)
  have made : Run .standard _ _ _ :=
    .step opened (.call moment mainThread (.change (.create "/f" 0o644)) trivial)
      (by decide +kernel)
  have wrote : Run .standard _ _ _ :=
    .step made (.call moment mainThread (.change (.write "/f" [1] 0)) trivial) (by decide +kernel)
  have failed : Run .standard _ _ _ :=
    .step wrote (.call refused mainThread (.change (.unlink "/f")) trivial) (by decide +kernel)
  exact ⟨_, ⟨_, _, failed⟩, by decide +kernel⟩

end Machine

end Strongbox
