import Strongbox.Proofs.Engine.Failure
import Strongbox.Proofs.Engine.Script
import Strongbox.Proofs.Engine.Sealed
import Strongbox.Proofs.Tree.Pending

/-!
# What a request does

All that a request can do to the open container and to the host, said once.  An invariant of the
engine is shown by a case analysis of these ways, and no proof of one looks into the requests again.

* `OpenContainer.Work` — the ways of working on a container that stays open.
* `Machine.Effect` — the ways of a request: it touches nothing, opens a container, works on the open
  one, or closes it.
* **`Machine.effect_of_answer`** — there are no other ways.
* **`Machine.opened_of_answer`** — what work keeps is kept of the open container by every request.
-/

namespace Strongbox

/-! ## Working on a container -/

namespace OpenContainer

/-- What a request makes of the open container and of the host, if it works on them. -/
inductive Work (suite : CipherSuite) (moment : Moment) (host host' : Host) (c c' : OpenContainer) :
    Request → Prop
  /-- The request fails, or there is nothing to do. -/
  | idle {request : Request} (hc : c' = c) (hhost : host' = host) :
      Work suite moment host host' c c' request
  /-- Data is written to a file, which waits for a save. -/
  | written {change : Change} {tree : Tree} (hwritten : c.tree.Written tree)
      (hc : c' = { c with tree := tree, dirty := true }) (hhost : host' = host) :
      Work suite moment host host' c c' (.change change)
  /-- Anything else is changed, which waits for the end of the transaction. -/
  | changed {change : Change} {transaction : Transaction} {tree : Tree}
      (ht : c.transaction = some transaction) (hc : c' = { c with tree := tree })
      (hhost : host' = host) : Work suite moment host host' c c' (.change change)
  /-- Outside a transaction the tree is saved, either with a change or just as it is. -/
  | saved {request : Request} {tree : Tree} (hrequest : ∀ keep, request ≠ .completeTransaction keep)
      (hnone : c.transaction = none)
      (hsave : ({ c with tree := tree } : OpenContainer).persist suite moment host = .ok host')
      (hc : c' = { c with tree := tree, dirty := false }) :
      Work suite moment host host' c c' request
  /-- A transaction begins, or goes one level deeper. -/
  | begun (hc : c' = c.begin) (hhost : host' = host) :
      Work suite moment host host' c c' .beginTransaction
  /-- An inner level of a transaction is completed. -/
  | counted {depth : Nat} {snapshot : Tree} (ht : c.transaction = some ⟨depth, snapshot⟩)
      (hdepth : 1 < depth) (hc : c' = { c with transaction := some ⟨depth - 1, snapshot⟩ })
      (hhost : host' = host) : Work suite moment host host' c c' (.completeTransaction true)
  /-- The outermost level of a transaction is completed, and all that it changed is saved. -/
  | committed {depth : Nat} {snapshot : Tree} (ht : c.transaction = some ⟨depth, snapshot⟩)
      (hdepth : ¬ 1 < depth)
      (hsave : ({ c with transaction := none } : OpenContainer).persist suite moment host
        = .ok host')
      (hc : c' = { c with transaction := none, dirty := false }) :
      Work suite moment host host' c c' (.completeTransaction true)
  /-- A transaction is given up, as it is asked for or because its save fails. -/
  | rolledBack {keep : Bool} {depth : Nat} {snapshot : Tree}
      (ht : c.transaction = some ⟨depth, snapshot⟩) (hdepth : keep = true → ¬ 1 < depth)
      (hc : c' = c.rollback) (hhost : host' = host) :
      Work suite moment host host' c c' (.completeTransaction keep)

section Work

variable {suite : CipherSuite} {moment : Moment} {host host' : Host} {c c' : OpenContainer}
  {outcome : Except Errno Unit}

lemma work_of_change {asked change : Change}
    (h : c.change suite moment host change = (outcome, c', host')) :
    c.Work suite moment host host' c' (.change asked) := by
  cases outcome with
  | error code => exact .idle (change_error h).1 (change_error h).2
  | ok done =>
      obtain ⟨tree, happly, hways⟩ := change_ok h
      rcases hways with ⟨hsaving, hc, hhost⟩ | ⟨hsaving, hc, hhost⟩ | ⟨-, ht, hc, hhost⟩
        | ⟨-, hnone, hsave, hc⟩
      · obtain rfl := Change.eq_of_never hsaving happly
        exact .idle hc hhost
      · exact .written (Change.written_of_later hsaving happly) hc hhost
      · obtain ⟨transaction, ht⟩ := Option.isSome_iff_exists.1 ht
        exact .changed ht hc hhost
      · exact .saved (fun _ => Request.noConfusion) hnone hsave hc

lemma work_of_flush {path : String} (h : c.flush suite moment host = (outcome, c', host')) :
    c.Work suite moment host host' c' (.fsync path) := by
  cases outcome with
  | error code => exact .idle (flush_error h).1 (flush_error h).2
  | ok done =>
      rcases flush_ok h with ⟨-, hnone, hsave, hc⟩ | ⟨-, hc, hhost⟩
      · exact .saved (fun _ => Request.noConfusion) hnone hsave hc
      · exact .idle hc hhost

lemma work_of_commit (h : c.commit suite moment host = (outcome, c', host')) :
    c.Work suite moment host host' c' (.completeTransaction true) := by
  cases outcome with
  | error code =>
      obtain ⟨hhost, ⟨-, -, hc⟩ | ⟨depth, snapshot, ht, hdepth, -, hc, -⟩⟩ := commit_error h
      · exact .idle hc hhost
      · exact .rolledBack ht (fun _ => hdepth) (hc.trans (rollback_of_some ht).symm) hhost
  | ok done =>
      obtain ⟨depth, snapshot, ht, ⟨hdepth, hc, hhost⟩ | ⟨hdepth, hsave, hc⟩⟩ := commit_ok h
      · exact .counted ht hdepth hc hhost
      · exact .committed ht hdepth hsave hc

end Work

/-- Two states of one container: they share the file, and what the file is encrypted with. -/
structure SameFile (c c' : OpenContainer) : Prop where
  path : c'.path = c.path
  credential : c'.credential = c.credential
  salt : c'.salt = c.salt
  cost : c'.cost = c.cost
  key : c'.key = c.key

lemma SameFile.refl (c : OpenContainer) : c.SameFile c := ⟨rfl, rfl, rfl, rfl, rfl⟩

lemma SameFile.trans {c c' c'' : OpenContainer} (h : c.SameFile c') (h' : c'.SameFile c'') :
    c.SameFile c'' :=
  ⟨h'.path.trans h.path, h'.credential.trans h.credential, h'.salt.trans h.salt,
    h'.cost.trans h.cost, h'.key.trans h.key⟩

lemma SameFile.placed {c c' : OpenContainer} (h : c.SameFile c') (hplaced : c.Placed) :
    c'.Placed :=
  ⟨h.path ▸ hplaced.cleaned, h.path ▸ hplaced.short⟩

variable {suite : CipherSuite} {moment : Moment} {host host' : Host} {c c' : OpenContainer}
  {request : Request}

lemma sameFile_begin (c : OpenContainer) : c.SameFile c.begin := by
  unfold begin
  split <;> exact ⟨rfl, rfl, rfl, rfl, rfl⟩

lemma sameFile_rollback (c : OpenContainer) : c.SameFile c.rollback := by
  unfold rollback
  split <;> exact ⟨rfl, rfl, rfl, rfl, rfl⟩

/-- Work never moves a container, nor changes its key. -/
lemma Work.sameFile (h : Work suite moment host host' c c' request) : c.SameFile c' := by
  cases h with
  | idle hc | written _ hc | changed _ hc | saved _ _ _ hc | counted _ _ hc | committed _ _ _ hc =>
      subst hc
      exact ⟨rfl, rfl, rfl, rfl, rfl⟩
  | begun hc => exact hc ▸ c.sameFile_begin
  | rolledBack _ _ hc => exact hc ▸ c.sameFile_rollback

end OpenContainer

/-! ## Requests -/

namespace Machine

/-- What a request makes of a machine. -/
inductive Effect (suite : CipherSuite) (moment : Moment) (m m' : Machine) : Request → Prop
  /-- The container and the host stay as they were. -/
  | none {request : Request} (h : m.Untouched m') : Effect suite moment m m' request
  /-- A container is opened, or made. -/
  | opened {given path : String} {credential : Credential} {c : OpenContainer}
      (hclosed : m.engine.opened = .none) (hpath : HostPath.absoluteOrSelf given = path)
      (hunlock : ContainerEngine.unlock suite m.engine.config moment m.host path credential
        = .ok (c, m'.host))
      (hopen : m'.engine.opened = some c) :
      Effect suite moment m m' (.openContainer given credential)
  /-- The open container is worked on. -/
  | worked {request : Request} {c c' : OpenContainer} (hopen : m.engine.opened = some c)
      (hwork : c.Work suite moment m.host m'.host c' request)
      (hopen' : m'.engine.opened = some c') : Effect suite moment m m' request
  /-- The last handle is given back, and the container is saved and closed. -/
  | closed {handle : Handle} {c : OpenContainer} (hopen : m.engine.opened = some c)
      (hlast : (m.engine.registry.close handle).1 = some 0)
      (hsave : c.rollback.persist suite moment m.host = .ok m'.host
        ∨ m'.host = m.host ∧ ∃ e, c.rollback.persist suite moment m.host = .error e)
      (hclosed : m'.engine.opened = .none) : Effect suite moment m m' (.closeHandle handle)

variable {suite : CipherSuite} {moment : Moment} {thread : Thread} {m : Machine}

/-- Looking leaves the container and the host as they are. -/
lemma untouched_of_looks (suite : CipherSuite) (moment : Moment) (thread : Thread) (m : Machine)
    {request : Request} (h : request.looks = true) :
    m.Untouched (m.answer suite moment thread request).2 := by
  cases request with
  | instanceCount => exact .refl m
  | read | getattr | readdir =>
      rw [answer, shown_snd]
      exact inspectPath_untouched _ _
  | access => exact inspectPath_untouched _ _
  | isDir path =>
      have huntouched : m.Untouched (m.inspectPath thread path fun tree key =>
          .ok (tree.isDir key)).2 := inspectPath_untouched path _
      rw [answer]
      split
      · next h =>
          rw [h] at huntouched
          exact huntouched
      · next h =>
          rw [h] at huntouched
          exact huntouched
  | _ => cases h

/-- Whatever is worked on the open container, the machine has the outcome. -/
lemma effect_of_update {request : Request}
    {work : OpenContainer → Host → Except Errno Unit × OpenContainer × Host}
    (hwork : ∀ {c : OpenContainer} {outcome : Except Errno Unit} {c' : OpenContainer}
      {host' : Host}, work c m.host = (outcome, c', host') →
        c.Work suite moment m.host host' c' request) :
    Effect suite moment m (m.update thread work).2 request := by
  unfold update
  split
  · exact .none (.refl m)
  · next c hc =>
      rcases hw : work c m.host with ⟨outcome, c', host'⟩
      exact .worked hc (hwork hw) rfl

/-- A handle is given out for the container that is open, if the credential fits, and else for one
that is opened. -/
lemma openContainer_ok {given : String} {credential : Credential} {handle : Handle} {m' : Machine}
    (h : m.openContainer suite moment thread given credential = .ok (handle, m')) :
    m.engine.registry.issue thread = (handle, m'.engine.registry)
      ∧ ((∃ c, m.engine.opened = some c ∧ m'.engine.opened = some c ∧ m'.host = m.host
          ∧ ContainerEngine.join suite c (HostPath.absoluteOrSelf given) credential = .ok ())
        ∨ m.engine.opened = none ∧ ∃ c, m'.engine.opened = some c
          ∧ ContainerEngine.unlock suite m.engine.config moment m.host
            (HostPath.absoluteOrSelf given) credential = .ok (c, m'.host)) := by
  unfold openContainer at h
  dsimp only at h
  split at h
  · next c hc =>
      obtain ⟨_, hjoin, h⟩ := bind_eq_ok.1 h
      obtain ⟨rfl, rfl⟩ := Prod.mk.inj (Except.ok.inj h)
      exact ⟨rfl, Or.inl ⟨c, hc, hc, rfl, hjoin⟩⟩
  · next hclosed =>
      obtain ⟨⟨c, host⟩, hunlock, h⟩ := bind_eq_ok.1 h
      obtain ⟨rfl, rfl⟩ := Prod.mk.inj (Except.ok.inj h)
      exact ⟨rfl, Or.inr ⟨hclosed, c, rfl, hunlock⟩⟩

/-- A handle is the answer if the container could be opened. -/
lemma openContainer_of_answer {given : String} {credential : Credential} {handle : Handle}
    {m' : Machine}
    (h : m.answer suite moment thread (.openContainer given credential)
      = ((some handle : Option Handle), m')) :
    m.openContainer suite moment thread given credential = .ok (handle, m') := by
  cases ho : m.openContainer suite moment thread given credential with
  | error e =>
      simp only [answer, ho] at h
      cases h
  | ok result =>
      simp only [answer, ho] at h
      cases h
      rfl

lemma effect_of_openContainer (given : String) (credential : Credential) :
    Effect suite moment m (m.answer suite moment thread (.openContainer given credential)).2
      (.openContainer given credential) := by
  rw [answer]
  cases ho : m.openContainer suite moment thread given credential with
  | error e => exact .none (.refl m)
  | ok result =>
      obtain ⟨handle, m'⟩ := result
      obtain ⟨-, ⟨c, hopen, hopen', hhost, -⟩ | ⟨hclosed, c, hopen', hunlock⟩⟩ :=
        openContainer_ok ho
      · exact .none ⟨hopen'.trans hopen.symm, hhost⟩
      · exact .opened hclosed rfl hunlock hopen'

/-- With the last handle the container is saved without its transaction, if it can be, and is
closed. -/
lemma closeHandle_last (suite : CipherSuite) (moment : Moment) {handle : Handle}
    {c : OpenContainer} (hopen : m.engine.opened = some c)
    (hlast : (m.engine.registry.close handle).1 = some 0) :
    (m.closeHandle suite moment handle).engine.opened = none
      ∧ (c.rollback.persist suite moment m.host = .ok (m.closeHandle suite moment handle).host
        ∨ (m.closeHandle suite moment handle).host = m.host
          ∧ ∃ e, c.rollback.persist suite moment m.host = .error e) := by
  rcases hclose : m.engine.registry.close handle with ⟨left, registry⟩
  rw [hclose] at hlast
  obtain rfl : left = some 0 := hlast
  cases hp : c.rollback.persist suite moment m.host with
  | ok host =>
      have hm : m.closeHandle suite moment handle = ⟨{ m.engine with
          registry := registry.clearImplicit, opened := none }, host⟩ := by
        simp only [closeHandle, hclose, hopen, hp]
      rw [hm]
      exact ⟨rfl, Or.inl rfl⟩
  | error e =>
      have hm : m.closeHandle suite moment handle = { m with engine := { m.engine with
          registry := registry.clearImplicit, opened := none } } := by
        simp only [closeHandle, hclose, hopen, hp]
      rw [hm]
      exact ⟨rfl, Or.inr ⟨rfl, e, rfl⟩⟩

lemma effect_of_closeHandle (handle : Handle) :
    Effect suite moment m (m.answer suite moment thread (.closeHandle handle)).2
      (.closeHandle handle) := by
  show Effect suite moment m (m.closeHandle suite moment handle) (.closeHandle handle)
  rcases hclose : m.engine.registry.close handle with ⟨_ | _ | left, registry⟩
  · refine .none ?_
    rw [closeHandle, hclose]
    exact .refl m
  · cases hc : m.engine.opened with
    | none =>
        refine .none ?_
        rw [closeHandle, hclose]
        simp only [hc]
        exact ⟨hc.symm, rfl⟩
    | some c =>
        obtain ⟨hclosed, hsave⟩ := closeHandle_last suite moment hc (by rw [hclose])
        exact .closed hc (by rw [hclose]) hsave hclosed
  · refine .none ?_
    rw [closeHandle, hclose]
    exact ⟨rfl, rfl⟩

/-- A request touches nothing, opens a container, works on the open one, or closes it. -/
theorem effect_of_answer (suite : CipherSuite) (moment : Moment) (thread : Thread) (m : Machine)
    (request : Request) :
    Effect suite moment m (m.answer suite moment thread request).2 request := by
  cases request with
  | openContainer path credential => exact effect_of_openContainer path credential
  | closeHandle handle => exact effect_of_closeHandle handle
  | instanceCount | read | getattr | readdir | access | isDir =>
      exact .none (untouched_of_looks suite moment thread m rfl)
  | change change =>
      show Effect suite moment m (m.change suite moment thread change).2 (.change change)
      unfold Machine.change
      split
      · exact .none (.refl m)
      · exact effect_of_update OpenContainer.work_of_change
  | fsync path =>
      show Effect suite moment m (m.fsync suite moment thread path).2 (.fsync path)
      unfold fsync
      split
      · exact .none (.refl m)
      · refine effect_of_update fun {c outcome c' host'} h => ?_
        split at h
        · exact OpenContainer.work_of_flush h
        · cases h
          exact .idle rfl rfl
  | beginTransaction =>
      refine effect_of_update fun h => ?_
      cases h
      exact .begun rfl rfl
  | completeTransaction keep =>
      refine effect_of_update fun {c outcome c' host'} h => ?_
      cases keep with
      | true => exact OpenContainer.work_of_commit h
      | false =>
          simp only [Bool.false_eq_true, if_false] at h
          split at h
          · cases h
            exact .idle rfl rfl
          · next ht =>
              cases h
              obtain ⟨⟨depth, snapshot⟩, ht⟩ :=
                Option.ne_none_iff_exists'.1 fun hnone => ht (Option.isNone_iff_eq_none.2 hnone)
              exact .rolledBack ht (fun hkeep => absurd hkeep Bool.false_ne_true) rfl rfl

/-! ## The open container -/

lemma opened_closeHandle (suite : CipherSuite) (moment : Moment) (m : Machine) (handle : Handle) :
    (m.closeHandle suite moment handle).engine.opened = m.engine.opened
      ∨ (m.closeHandle suite moment handle).engine.opened = none := by
  unfold closeHandle
  split
  · exact Or.inl rfl
  · exact Or.inl rfl
  · split
    · exact Or.inr rfl
    · split <;> exact Or.inr rfl

/-- Whatever is worked on the open container keeps what holds of it. -/
lemma opened_of_update {P : OpenContainer → Prop} {c' : OpenContainer}
    {work : OpenContainer → Host → Except Errno Unit × OpenContainer × Host}
    (hwork : ∀ {c : OpenContainer} {outcome : Except Errno Unit} {c' : OpenContainer}
      {host' : Host}, m.engine.opened = some c → work c m.host = (outcome, c', host') → P c')
    (hopen' : (m.update thread work).2.engine.opened = some c') : P c' := by
  cases hopen : m.engine.opened with
  | none =>
      rw [update, hopen] at hopen'
      rw [hopen] at hopen'
      cases hopen'
  | some c =>
      rw [update_of_opened hopen] at hopen'
      obtain rfl := Option.some.inj hopen'
      exact hwork hopen rfl

/-- What holds of every container that is opened, and what all work on a container keeps, holds of
the open one after any request. -/
theorem opened_of_answer {P : OpenContainer → Prop} {request : Request}
    (hopen : ∀ {c : OpenContainer}, m.engine.opened = some c → P c)
    (hunlock : ∀ {given : String} {credential : Credential} {c : OpenContainer} {host' : Host},
      request = .openContainer given credential → m.engine.opened = none →
        ContainerEngine.unlock suite m.engine.config moment m.host
          (HostPath.absoluteOrSelf given) credential = .ok (c, host') → P c)
    (hchange : ∀ {asked change : Change} {c c' : OpenContainer} {outcome : Except Errno Unit}
      {host' : Host}, P c → asked.resolve = .ok change →
        c.change suite moment m.host change = (outcome, c', host') → P c')
    (hflush : ∀ {c c' : OpenContainer} {outcome : Except Errno Unit} {host' : Host}, P c →
      c.flush suite moment m.host = (outcome, c', host') → P c')
    (hbegin : ∀ {c : OpenContainer}, P c → P c.begin)
    (hcommit : ∀ {c c' : OpenContainer} {outcome : Except Errno Unit} {host' : Host}, P c →
      c.commit suite moment m.host = (outcome, c', host') → P c')
    (hrollback : ∀ {c : OpenContainer}, P c → P c.rollback) {c' : OpenContainer}
    (hopen' : (m.answer suite moment thread request).2.engine.opened = some c') : P c' := by
  by_cases hlooks : request.looks = true
  · exact hopen ((untouched_of_looks suite moment thread m hlooks).1.symm.trans hopen')
  cases request with
  | instanceCount | read | getattr | readdir | access | isDir => exact absurd rfl hlooks
  | openContainer given credential =>
      rw [answer] at hopen'
      cases ho : m.openContainer suite moment thread given credential with
      | error e =>
          rw [ho] at hopen'
          exact hopen hopen'
      | ok result =>
          rw [ho] at hopen'
          obtain ⟨-, ⟨c, hbefore, hafter, -⟩ | ⟨hclosed, c, hafter, hunlocked⟩⟩ :=
            openContainer_ok ho
          · obtain rfl := Option.some.inj (hafter.symm.trans hopen')
            exact hopen hbefore
          · obtain rfl := Option.some.inj (hafter.symm.trans hopen')
            exact hunlock rfl hclosed hunlocked
  | closeHandle handle =>
      obtain hsame | hclosed := opened_closeHandle suite moment m handle
      · exact hopen (hsame.symm.trans hopen')
      · cases hclosed.symm.trans hopen'
  | change asked =>
      replace hopen' : (m.change suite moment thread asked).2.engine.opened = some c' := hopen'
      unfold Machine.change at hopen'
      split at hopen'
      · exact hopen hopen'
      · next change hresolve =>
          exact opened_of_update (fun hc h => hchange (hopen hc) hresolve h) hopen'
  | fsync path =>
      replace hopen' : (m.fsync suite moment thread path).2.engine.opened = some c' := hopen'
      unfold fsync at hopen'
      split at hopen'
      · exact hopen hopen'
      · refine opened_of_update (fun {c outcome c' host'} hc h => ?_) hopen'
        split at h
        · exact hflush (hopen hc) h
        · cases h
          exact hopen hc
  | beginTransaction =>
      refine opened_of_update (fun {c outcome c' host'} hc h => ?_) hopen'
      cases h
      exact hbegin (hopen hc)
  | completeTransaction keep =>
      refine opened_of_update (fun {c outcome c' host'} hc h => ?_) hopen'
      cases keep with
      | true => exact hcommit (hopen hc) h
      | false =>
          simp only [Bool.false_eq_true, if_false] at h
          split at h
          · cases h
            exact hopen hc
          · cases h
            exact hrollback (hopen hc)

end Machine

end Strongbox
