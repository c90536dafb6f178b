import Strongbox.Proofs.Engine.Effect

/-!
# Who is counted

What the requests to an engine do to its handles.  There is one lemma for each change of a registry,
and one that tells which of these changes a request makes.

* `Registry.owns_iff` — a thread owns an explicit handle if it is noted with the number of one.
* `Registry.Watches` — everybody who is counted is watched, which is kept by all changes.
* `Request.reaches` — a request gets as far as the open container.
* `Machine.Tally` — the ways of a request with the registry.
* **`Machine.tally_of_answer`** — there are no other ways.
-/

namespace Strongbox

/-! ## The registry -/

namespace Thread

variable {threads : Std.ExtTreeSet Nat} {thread other : Thread}

lemma mem_insert : other ∈ threads.insert thread ↔ other ∈ threads ∨ other = thread := by
  rw [Std.ExtTreeSet.mem_insert, Std.compare_eq_iff_eq, or_comm, eq_comm]

lemma mem_erase : other ∈ threads.erase thread ↔ other ∈ threads ∧ other ≠ thread := by
  rw [Std.ExtTreeSet.mem_erase, ne_eq, Std.compare_eq_iff_eq, and_comm, eq_comm]

end Thread

namespace Registry

variable (r : Registry) (thread other : Thread)

lemma owns_iff : r.owns thread = true ↔ ∃ id : UInt64, r.explicit[id]? = some thread := by
  simp only [owns, List.any_eq_true, beq_iff_eq, Prod.exists,
    Std.ExtTreeMap.mem_toList_iff_getElem?_eq_some]
  constructor
  · rintro ⟨id, owner, hid, rfl⟩
    exact ⟨id, hid⟩
  · rintro ⟨id, hid⟩
    exact ⟨id, thread, hid, rfl⟩

/-! A thread that works with the container is counted, unless it owns a handle. -/

@[simp] lemma explicit_touch : (r.touch thread).explicit = r.explicit := by
  unfold touch
  split <;> rfl

@[simp] lemma owns_touch : (r.touch thread).owns other = r.owns other := by
  unfold owns
  rw [explicit_touch]

lemma mem_implicit_touch :
    other ∈ (r.touch thread).implicit
      ↔ other ∈ r.implicit ∨ other = thread ∧ r.owns thread = false := by
  unfold touch
  split
  · next h =>
      refine ⟨Or.inl, ?_⟩
      rintro (hother | ⟨rfl, howns⟩)
      · exact hother
      · rcases h with h | h
        · rw [howns] at h
          cases h
        · exact h
  · next h =>
      rw [not_or, Bool.not_eq_true] at h
      rw [and_iff_left h.1]
      exact Thread.mem_insert

/-- Whoever is newly counted is watched from then on. -/
lemma mem_watched_touch :
    other ∈ (r.touch thread).watched
      ↔ other ∈ r.watched
        ∨ other = thread ∧ thread ∈ (r.touch thread).implicit ∧ thread ∉ r.implicit := by
  rw [mem_implicit_touch]
  unfold touch
  split
  · next h =>
      refine ⟨Or.inl, ?_⟩
      rintro (hother | ⟨rfl, hnew, hold⟩)
      · exact hother
      · rcases hnew with hnew | ⟨-, hnew⟩
        · exact absurd hnew hold
        · rcases h with h | h
          · rw [hnew] at h
            cases h
          · exact absurd h hold
  · next h =>
      rw [not_or, Bool.not_eq_true] at h
      refine Thread.mem_insert.trans (or_congr_right ⟨fun hsame => ?_, And.left⟩)
      exact ⟨hsame, Or.inr ⟨rfl, h.1⟩, h.2⟩

/-! An explicit handle takes the place of an implicit one. -/

lemma issue_explicit_ne_empty : (r.issue thread).2.explicit ≠ ∅ :=
  Std.ExtTreeMap.insert_ne_empty

lemma mem_implicit_issue :
    other ∈ (r.issue thread).2.implicit ↔ other ∈ r.implicit ∧ other ≠ thread :=
  Thread.mem_erase

/-- Nobody but the thread itself owns a handle that it did not own before. -/
lemma owns_of_owns_issue (h : (r.issue thread).2.owns other = true) :
    r.owns other = true ∨ other = thread := by
  obtain ⟨id, hid⟩ := (owns_iff _ _).1 h
  change (r.explicit.insert r.freeId thread)[id]? = some other at hid
  rw [Std.ExtTreeMap.getElem?_insert] at hid
  split at hid
  · exact Or.inr (Option.some.inj hid).symm
  · exact Or.inl ((owns_iff _ _).2 ⟨id, hid⟩)

/-! A handle that is given back is no longer there. -/

lemma close_eq_some {r' : Registry} {handle : Handle} {left : Nat}
    (h : r.close handle = (some left, r')) :
    handle.id ∈ r.explicit ∧ left = (r.explicit.erase handle.id).size
      ∧ r' = { r with explicit := r.explicit.erase handle.id } := by
  unfold close at h
  split at h
  · next hmem =>
      cases h
      exact ⟨hmem, rfl, rfl⟩
  · cases h

/-- Closing a handle makes nobody an owner. -/
lemma owns_of_owns_erase {id : UInt64}
    (h : owns { r with explicit := r.explicit.erase id } other = true) : r.owns other = true := by
  obtain ⟨id', hid⟩ := (owns_iff _ _).1 h
  change (r.explicit.erase id)[id']? = some other at hid
  rw [Std.ExtTreeMap.getElem?_erase] at hid
  split at hid
  · cases hid
  · exact (owns_iff _ _).2 ⟨id', hid⟩

/-! The end of a thread. -/

@[simp] lemma explicit_exit : (r.exit thread).explicit = r.explicit := by
  unfold exit
  split <;> rfl

lemma mem_watched_exit :
    other ∈ (r.exit thread).watched ↔ other ∈ r.watched ∧ other ≠ thread := by
  unfold exit
  split
  · exact Thread.mem_erase
  · next h =>
      refine ⟨fun hother => ⟨hother, ?_⟩, And.left⟩
      rintro rfl
      exact h hother

/-! Everybody who is counted stays watched. -/

/-- The registry is going to learn of the end of every thread that it counts. -/
def Watches (r : Registry) : Prop :=
  ∀ thread ∈ r.implicit, thread ∈ r.watched

variable {r thread other}

lemma Watches.touch (h : r.Watches) : (r.touch thread).Watches := by
  intro other hother
  rw [mem_watched_touch]
  by_cases hold : other ∈ r.implicit
  · exact Or.inl (h other hold)
  · obtain hbefore | ⟨rfl, -⟩ := (mem_implicit_touch _ _ _).1 hother
    · exact absurd hbefore hold
    · exact Or.inr ⟨rfl, hother, hold⟩

lemma Watches.issue (h : r.Watches) : (r.issue thread).2.Watches :=
  fun other hother => h other ((mem_implicit_issue _ _ _).1 hother).1

/-- A thread that ends is no longer counted, and everybody else still is. -/
lemma Watches.mem_implicit_exit (h : r.Watches) :
    other ∈ (r.exit thread).implicit ↔ other ∈ r.implicit ∧ other ≠ thread := by
  unfold exit
  split
  · exact Thread.mem_erase
  · next hthread =>
      refine ⟨fun hother => ⟨hother, ?_⟩, And.left⟩
      rintro rfl
      exact hthread (h other hother)

lemma Watches.exit (h : r.Watches) : (r.exit thread).Watches := by
  intro other hother
  obtain ⟨hbefore, hne⟩ := h.mem_implicit_exit.1 hother
  exact (mem_watched_exit _ _ _).2 ⟨h other hbefore, hne⟩

end Registry

/-! ## Requests -/

/-- Whether a request gets as far as the open container: it works with one, and its paths are
good. -/
def Request.reaches : Request → Bool
  | .openContainer .. | .closeHandle _ | .instanceCount => false
  | .change asked => asked.resolve.isOk
  | .fsync path | .read path _ _ | .getattr path | .access path _ | .isDir path | .readdir path =>
    (Key.normalize path).isOk
  | .beginTransaction | .completeTransaction _ => true

namespace Machine

/-- What a request of a thread makes of the registry, and whether a container is open then. -/
inductive Tally (m m' : Machine) (thread : Thread) : Request → Prop
  /-- A handle is given out. -/
  | issued {given : String} {credential : Credential} (hopen : m'.engine.opened ≠ none)
      (hregistry : m'.engine.registry = (m.engine.registry.issue thread).2) :
      Tally m m' thread (.openContainer given credential)
  /-- A handle is given back that is not the last one. -/
  | returned {handle : Handle} {left : Nat}
      (hclose : m.engine.registry.close handle = (some (left + 1), m'.engine.registry))
      (hopen : m'.engine.opened = m.engine.opened) : Tally m m' thread (.closeHandle handle)
  /-- The last handle is given back, and everybody else is forgotten. -/
  | closed {handle : Handle} {registry : Registry}
      (hclose : m.engine.registry.close handle = (some 0, registry))
      (hregistry : m'.engine.registry = registry.clearImplicit)
      (hclosed : m'.engine.opened = none) : Tally m m' thread (.closeHandle handle)
  /-- The open container is reached. -/
  | touched {request : Request} (hreaches : request.reaches = true)
      (hopen : m.engine.opened ≠ none) (hopen' : m'.engine.opened ≠ none)
      (hregistry : m'.engine.registry = m.engine.registry.touch thread) :
      Tally m m' thread request
  /-- There is no container to reach, or the request fails before it gets there. -/
  | unchanged {request : Request} (h : m' = m)
      (hreaches : request.reaches = true → m.engine.opened = none) : Tally m m' thread request

variable {suite : CipherSuite} {moment : Moment} {thread other : Thread} {m m' : Machine}
  {request : Request}

/-- Nobody but the thread that makes a request is newly counted. -/
lemma Tally.mem_implicit (h : m.Tally m' thread request)
    (hother : other ∈ m'.engine.registry.implicit) :
    other ∈ m.engine.registry.implicit ∨ other = thread := by
  cases h with
  | issued _ hregistry =>
      rw [hregistry, Registry.mem_implicit_issue] at hother
      exact Or.inl hother.1
  | returned hclose =>
      rw [(Registry.close_eq_some _ hclose).2.2] at hother
      exact Or.inl hother
  | closed _ hregistry =>
      rw [hregistry] at hother
      exact absurd hother Std.ExtTreeSet.not_mem_empty
  | touched _ _ _ hregistry =>
      rw [hregistry, Registry.mem_implicit_touch] at hother
      exact hother.imp_right And.left
  | unchanged hsame => exact Or.inl (hsame ▸ hother)

/-- The thread is watched from then on if it is newly counted. -/
lemma Tally.mem_watched (h : m.Tally m' thread request) :
    other ∈ m'.engine.registry.watched
      ↔ other ∈ m.engine.registry.watched
        ∨ other = thread ∧ thread ∈ m'.engine.registry.implicit
          ∧ thread ∉ m.engine.registry.implicit := by
  cases h with
  | issued _ hregistry =>
      rw [hregistry, or_iff_left]
      · rfl
      · rintro ⟨-, hnew, -⟩
        exact ((Registry.mem_implicit_issue _ _ _).1 hnew).2 rfl
  | returned hclose =>
      rw [(Registry.close_eq_some _ hclose).2.2, or_iff_left]
      exact fun h => h.2.2 h.2.1
  | closed hclose hregistry =>
      rw [hregistry, (Registry.close_eq_some _ hclose).2.2, or_iff_left]
      · rfl
      · exact fun h => Std.ExtTreeSet.not_mem_empty h.2.1
  | touched _ _ _ hregistry =>
      rw [hregistry]
      exact Registry.mem_watched_touch _ _ _
  | unchanged hsame =>
      rw [hsame, or_iff_left]
      exact fun h => h.2.2 h.2.1

lemma tally_of_update
    {work : OpenContainer → Host → Except Errno Unit × OpenContainer × Host}
    (hreaches : request.reaches = true) : Tally m (m.update thread work).2 thread request := by
  unfold update
  split
  · next hclosed => exact .unchanged rfl fun _ => hclosed
  · next c hc =>
      exact .touched hreaches (hc ▸ Option.some_ne_none c) (Option.some_ne_none _) rfl

lemma tally_of_inspectPath {α : Type} {path : String} (look : Tree → String → Except Errno α)
    (hreaches : request.reaches = (Key.normalize path).isOk) :
    Tally m (m.inspectPath thread path look).2 thread request := by
  unfold inspectPath
  split
  · next code hcode =>
      refine .unchanged rfl fun h => ?_
      rw [hreaches, hcode] at h
      cases h
  · next key hkey =>
      have hreaches : request.reaches = true := by
        rw [hreaches, hkey]
        rfl
      unfold inspect
      split
      · next hclosed => exact .unchanged rfl fun _ => hclosed
      · next c hc =>
          have hopen : m.engine.opened ≠ none := hc ▸ Option.some_ne_none c
          exact .touched hreaches hopen hopen rfl

/-- Whatever a request does to the handles, it does it in one of these ways. -/
theorem tally_of_answer (suite : CipherSuite) (moment : Moment) (thread : Thread) (m : Machine)
    (request : Request) : Tally m (m.answer suite moment thread request).2 thread request := by
  cases request with
  | openContainer given credential =>
      rw [answer]
      cases ho : m.openContainer suite moment thread given credential with
      | error e => exact .unchanged rfl fun h => by cases h
      | ok result =>
          obtain ⟨handle, m'⟩ := result
          obtain ⟨hissue, hopen⟩ := openContainer_ok ho
          refine .issued ?_ (congrArg Prod.snd hissue).symm
          obtain ⟨c, -, hopen, -⟩ | ⟨-, c, hopen, -⟩ := hopen
          · exact hopen ▸ Option.some_ne_none c
          · exact hopen ▸ Option.some_ne_none c
  | closeHandle handle =>
      show Tally m (m.closeHandle suite moment handle) thread (.closeHandle handle)
      unfold closeHandle
      split
      · exact .unchanged rfl fun h => by cases h
      · next left registry hclose => exact .returned hclose rfl
      · next registry hclose =>
          split
          · exact .closed hclose rfl rfl
          · split
            · exact .closed hclose rfl rfl
            · exact .closed hclose rfl rfl
  | instanceCount => exact .unchanged rfl fun h => by cases h
  | change change =>
      show Tally m (m.change suite moment thread change).2 thread (.change change)
      unfold Machine.change
      split
      · next code hcode =>
          refine .unchanged rfl fun h => ?_
          rw [Request.reaches, hcode] at h
          cases h
      · next resolved hresolved =>
          refine tally_of_update ?_
          rw [Request.reaches, hresolved]
          rfl
  | fsync path =>
      show Tally m (m.fsync suite moment thread path).2 thread (.fsync path)
      unfold fsync
      split
      · next code hcode =>
          refine .unchanged rfl fun h => ?_
          rw [Request.reaches, hcode] at h
          cases h
      · next key hkey =>
          refine tally_of_update ?_
          rw [Request.reaches, hkey]
          rfl
  | read path count offset =>
      rw [answer, shown_snd]
      exact tally_of_inspectPath _ rfl
  | getattr path =>
      rw [answer, shown_snd]
      exact tally_of_inspectPath _ rfl
  | readdir path =>
      rw [answer, shown_snd]
      exact tally_of_inspectPath _ rfl
  | access path mode => exact tally_of_inspectPath _ rfl
  | isDir path =>
      have htally : Tally m (m.inspectPath thread path fun tree key => .ok (tree.isDir key)).2
          thread (.isDir path) := tally_of_inspectPath _ rfl
      rw [answer]
      split
      · next h =>
          rw [h] at htally
          exact htally
      · next h =>
          rw [h] at htally
          exact htally
  | beginTransaction => exact tally_of_update rfl
  | completeTransaction keep => exact tally_of_update rfl

end Machine

end Strongbox
