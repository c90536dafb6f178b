import Strongbox.Proofs.Engine.Registry
import Strongbox.Proofs.Engine.Script

/-!
# An engine with one explicit handle

What becomes of an engine that is opened by one party only, and that works with it until the party
gives its handle back.

* `ContainerEngine.Vacant` — nothing is open, and nobody is counted.
* `ContainerEngine.HeldBy` — a container is open under a single explicit handle.
* `Machine.heldBy_of_open`, `Machine.vacant_of_close` — from one to the other and back.
* **`Machine.heldBy_of_work`** — work leaves the handle alone, and a thread that reaches the container is
  counted from then on unless it owns the handle.
-/

namespace Strongbox

namespace ContainerEngine

/-- Nothing is open, and nobody is counted. -/
structure Vacant (engine : ContainerEngine) : Prop where
  closed : engine.opened = none
  explicit : engine.registry.explicit = ∅
  implicit : engine.registry.implicit = ∅

/-- A container is open, and there is one explicit handle. -/
structure HeldBy (engine : ContainerEngine) (marker : Handle) (owner : Thread) : Prop where
  opened : engine.opened ≠ none
  explicit : engine.registry.explicit = (∅ : Std.ExtTreeMap UInt64 Thread).insert marker.id owner
  watches : engine.registry.Watches

variable {engine : ContainerEngine} {marker : Handle} {owner thread other : Thread}

lemma vacant_ofConfig (config : EngineConfig) : (ofConfig config).Vacant :=
  ⟨rfl, rfl, rfl⟩

lemma Vacant.count (h : engine.Vacant) : engine.registry.count = 0 := by
  rw [Registry.count, h.explicit, h.implicit]
  rfl

lemma Vacant.exit (h : engine.Vacant) : (engine.exit thread).Vacant := by
  refine ⟨h.closed, (Registry.explicit_exit _ _).trans h.explicit, ?_⟩
  have hnobody : ∀ thread, thread ∉ engine.registry.implicit :=
    Std.ExtTreeSet.eq_empty_iff_forall_not_mem.1 h.implicit
  have hwatches : engine.registry.Watches := fun thread hthread => absurd hthread (hnobody thread)
  exact Std.ExtTreeSet.eq_empty_iff_forall_not_mem.2 fun other hother =>
    hnobody other (hwatches.mem_implicit_exit.1 hother).1

namespace HeldBy

lemma mem_explicit (h : engine.HeldBy marker owner) {id : UInt64} :
    id ∈ engine.registry.explicit ↔ id = marker.id := by
  rw [h.explicit, Std.ExtTreeMap.mem_insert, Std.compare_eq_iff_eq]
  exact ⟨fun hid => (hid.resolve_right Std.ExtTreeMap.not_mem_empty).symm, fun hid => Or.inl hid.symm⟩

lemma owns_iff (h : engine.HeldBy marker owner) :
    engine.registry.owns thread = true ↔ thread = owner := by
  rw [Registry.owns_iff]
  simp only [h.explicit, Std.ExtTreeMap.getElem?_insert, Std.compare_eq_iff_eq]
  constructor
  · rintro ⟨id, hid⟩
    split at hid
    · exact (Option.some.inj hid).symm
    · cases hid
  · rintro rfl
    exact ⟨marker.id, if_pos rfl⟩

/-- The explicit handle and the implicit ones are counted. -/
lemma count (h : engine.HeldBy marker owner) :
    engine.registry.count = engine.registry.implicit.size + 1 := by
  have hnew : (∅ : Std.ExtTreeMap UInt64 Thread).contains marker.id ≠ true := by simp
  rw [Registry.count, h.explicit, Std.ExtTreeMap.size_insert, if_neg hnew, Nat.add_comm]
  rfl

/-- The handle is the last one. -/
lemma close (h : engine.HeldBy marker owner) :
    engine.registry.close marker = (some 0, { engine.registry with explicit := ∅ }) := by
  have hempty : engine.registry.explicit.erase marker.id = ∅ := by
    refine Std.ExtTreeMap.ext_getElem? fun id => ?_
    rw [Std.ExtTreeMap.getElem?_erase, h.explicit, Std.ExtTreeMap.getElem?_insert]
    split <;> rfl
  rw [Registry.close, if_pos (h.mem_explicit.2 rfl), hempty]
  rfl

lemma exit (h : engine.HeldBy marker owner) : (engine.exit thread).HeldBy marker owner :=
  ⟨h.opened, (Registry.explicit_exit _ _).trans h.explicit, h.watches.exit⟩

end HeldBy

end ContainerEngine

namespace Machine

variable {suite : CipherSuite} {moment : Moment} {thread owner : Thread} {m m' : Machine}
  {marker handle : Handle} {given : String} {credential : Credential} {request : Request}

/-- An open that fails leaves everything as it was. -/
lemma eq_of_rejected
    (h : m.answer suite moment thread (.openContainer given credential)
      = ((none : Option Handle), m')) :
    m' = m := by
  cases ho : m.openContainer suite moment thread given credential with
  | error e =>
      simp only [answer, ho] at h
      exact (Prod.mk.inj h).2.symm
  | ok result =>
      simp only [answer, ho] at h
      cases h

lemma vacant_of_rejected (hvacant : m.engine.Vacant)
    (h : m.answer suite moment thread (.openContainer given credential)
      = ((none : Option Handle), m')) : m'.engine.Vacant := by
  rw [eq_of_rejected h]
  exact hvacant

/-- Whoever opens a container is the only one to hold it. -/
lemma heldBy_of_open (hvacant : m.engine.Vacant)
    (h : m.answer suite moment thread (.openContainer given credential)
      = ((some handle : Option Handle), m')) :
    m'.engine.HeldBy handle thread ∧ m'.engine.registry.implicit = ∅ := by
  obtain ⟨hissue, hopen⟩ := openContainer_ok (openContainer_of_answer h)
  obtain ⟨rfl, hregistry⟩ := Prod.mk.inj hissue
  have himplicit : m'.engine.registry.implicit = ∅ := by
    refine Std.ExtTreeSet.eq_empty_iff_forall_not_mem.2 fun other hother => ?_
    rw [← hregistry] at hother
    have hbefore := ((Registry.mem_implicit_issue _ _ _).1 hother).1
    rw [hvacant.implicit] at hbefore
    exact Std.ExtTreeSet.not_mem_empty hbefore
  refine ⟨⟨?_, ?_, fun other hother => ?_⟩, himplicit⟩
  · obtain ⟨c, -, hopen, -⟩ | ⟨-, c, hopen, -⟩ := hopen
    · exact hopen ▸ Option.some_ne_none c
    · exact hopen ▸ Option.some_ne_none c
  · rw [← hregistry, ← hvacant.explicit]
  · rw [himplicit] at hother
    exact absurd hother Std.ExtTreeSet.not_mem_empty

/-- With the only handle everything is given up. -/
lemma vacant_of_close (h : m.engine.HeldBy marker owner) :
    (m.closeHandle suite moment marker).engine.Vacant := by
  unfold closeHandle
  rw [h.close]
  dsimp only
  split
  · exact ⟨rfl, rfl, rfl⟩
  · split <;> exact ⟨rfl, rfl, rfl⟩

/-- Work leaves the handle alone.  Nobody is newly counted but a thread that reaches the container
without owning the handle. -/
theorem heldBy_of_work (suite : CipherSuite) (moment : Moment) (thread : Thread)
    (h : m.engine.HeldBy marker owner) (hwork : request.isWork = true) :
    (m.answer suite moment thread request).2.engine.HeldBy marker owner
      ∧ ∀ other, other ∈ (m.answer suite moment thread request).2.engine.registry.implicit
        ↔ other ∈ m.engine.registry.implicit
          ∨ other = thread ∧ thread ≠ owner ∧ request.reaches = true := by
  have htally := tally_of_answer suite moment thread m request
  generalize (m.answer suite moment thread request).2 = m' at htally ⊢
  cases htally with
  | issued | returned | closed => cases hwork
  | touched hreaches _ hopen hregistry =>
      have hcounted : ∀ other, other ∈ m'.engine.registry.implicit
          ↔ other ∈ m.engine.registry.implicit ∨ other = thread ∧ thread ≠ owner := by
        intro other
        rw [hregistry, Registry.mem_implicit_touch, Bool.eq_false_iff, ne_eq, h.owns_iff]
      refine ⟨⟨hopen, ?_, ?_⟩, fun other => ?_⟩
      · rw [hregistry, Registry.explicit_touch, h.explicit]
      · rw [hregistry]
        exact h.watches.touch
      · rw [hcounted, and_iff_left hreaches]
  | unchanged hsame hreaches =>
      have hnot : request.reaches ≠ true := fun hr => h.opened (hreaches hr)
      subst hsame
      exact ⟨h, fun other => (or_iff_left fun hnew => hnot hnew.2.2).symm⟩

end Machine

end Strongbox
