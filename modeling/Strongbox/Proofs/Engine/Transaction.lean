import Strongbox.Proofs.Engine.Backed

/-!
# Transactions are all or nothing

From the beginning of a transaction to its end nothing reaches the container file, whatever is asked
for in between.  The end then brings the file to the tree in memory, or memory back to the tree that
the transaction began with.

* `Machine.StaysInside` — the requests that neither end a transaction nor close its container.
* `Machine.Ends` — the ways in which a transaction ends.
* `Machine.Holds` — what is kept inside a transaction.
* **`Machine.allOrNothing_of_run`** — what any run inside a transaction, and any end of it, lead to.
-/

namespace Strongbox

namespace OpenContainer

variable {suite : CipherSuite} {moment : Moment} {host host' : Host} {c c' : OpenContainer}
  {request : Request}

/-- Inside a transaction work only changes memory, and not the tree to go back to. -/
lemma Work.inside {depth : Nat} {snapshot : Tree} (h : c.Work suite moment host host' c' request)
    (ht : c.transaction = some ⟨depth, snapshot⟩) (hdepth : 0 < depth)
    (hinside : ∀ keep, request = .completeTransaction keep → keep = true ∧ 1 < depth) :
    host' = host ∧ ∃ depth', c'.transaction = some ⟨depth', snapshot⟩ ∧ 0 < depth' := by
  cases h with
  | idle hc hhost | written _ hc hhost | changed _ hc hhost =>
      subst hc
      exact ⟨hhost, depth, ht, hdepth⟩
  | saved _ hnone =>
      rw [ht] at hnone
      cases hnone
  | begun hc hhost =>
      refine ⟨hhost, depth + 1, ?_, Nat.succ_pos depth⟩
      rw [hc, OpenContainer.begin, ht]
  | counted hfound hdeep hc hhost =>
      obtain ⟨rfl, rfl⟩ := Transaction.mk.inj (Option.some.inj (ht.symm.trans hfound))
      exact ⟨hhost, depth - 1, hc ▸ rfl, by omega⟩
  | committed hfound hlast =>
      obtain ⟨rfl, -⟩ := Transaction.mk.inj (Option.some.inj (ht.symm.trans hfound))
      exact absurd (hinside true rfl).2 hlast
  | @rolledBack keep _ _ hfound hlast =>
      obtain ⟨rfl, -⟩ := Transaction.mk.inj (Option.some.inj (ht.symm.trans hfound))
      obtain ⟨hkeep, hdeep⟩ := hinside keep rfl
      exact absurd hdeep (hlast hkeep)

/-- Without a transaction there is none until one begins. -/
lemma Work.outside (h : c.Work suite moment host host' c' request) (hnone : c.transaction = none)
    (hrequest : request ≠ .beginTransaction) : c'.transaction = none := by
  cases h with
  | idle hc | written _ hc | changed _ hc | saved _ _ _ hc =>
      subst hc
      exact hnone
  | begun => exact absurd rfl hrequest
  | counted ht | rolledBack ht =>
      rw [hnone] at ht
      cases ht
  | committed _ _ _ hc => rw [hc]

end OpenContainer

namespace Machine

variable {suite : CipherSuite} {moment : Moment} {thread : Thread} {m m' : Machine}
  {c c' : OpenContainer}

/-! ## Inside a transaction -/

/-- A request that leaves an open transaction open: it does not complete the outermost level, does
not give the transaction up, and does not give back the last handle. -/
def StaysInside (m : Machine) : Request → Prop
  | .completeTransaction keep => keep = true ∧ ∃ c ∈ m.engine.opened,
      ∃ transaction ∈ c.transaction, 1 < transaction.depth
  | .closeHandle handle => (m.engine.registry.close handle).1 ≠ some 0
  | _ => True

instance (m : Machine) : (request : Request) → Decidable (m.StaysInside request)
  | .completeTransaction keep => inferInstanceAs (Decidable (keep = true ∧ _))
  | .closeHandle handle =>
    inferInstanceAs (Decidable ((m.engine.registry.close handle).1 ≠ some 0))
  | .openContainer .. | .instanceCount | .change _ | .fsync _ | .read .. | .getattr _ | .access ..
  | .isDir _ | .readdir _ | .beginTransaction => .isTrue trivial

/-- The machine is inside a transaction that began when `c` was open and its file was `content`. -/
structure Holds (c : OpenContainer) (content : Except HostError Bytes) (m : Machine) : Prop where
  file : m.host.read c.path = content
  opened : ∃ now depth, m.engine.opened = some now ∧ c.SameFile now
    ∧ now.transaction = some ⟨depth, c.tree⟩ ∧ 0 < depth

lemma Holds.effect {content : Except HostError Bytes} {request : Request} (h : Holds c content m)
    (hinside : m.StaysInside request) (heffect : Effect suite moment m m' request) :
    Holds c content m' := by
  obtain ⟨hfile, now, depth, hopen, hsame, ht, hdepth⟩ := h
  cases heffect with
  | none huntouched =>
      refine ⟨huntouched.2 ▸ hfile, now, depth, ?_, hsame, ht, hdepth⟩
      rw [huntouched.1, hopen]
  | opened hclosed =>
      rw [hopen] at hclosed
      cases hclosed
  | worked hopen' hwork hafter =>
      obtain rfl := Option.some.inj (hopen.symm.trans hopen')
      have hdeep : ∀ keep, request = .completeTransaction keep → keep = true ∧ 1 < depth := by
        rintro keep rfl
        obtain ⟨hkeep, found, hfound, transaction, htransaction, hlt⟩ := hinside
        obtain rfl := Option.some.inj (hopen.symm.trans hfound)
        obtain rfl := Option.some.inj (ht.symm.trans htransaction)
        exact ⟨hkeep, hlt⟩
      obtain ⟨hhost, depth', ht', hdepth'⟩ := hwork.inside ht hdepth hdeep
      exact ⟨hhost ▸ hfile, _, depth', hafter, hsame.trans hwork.sameFile, ht', hdepth'⟩
  | closed _ hlast => exact absurd hlast hinside

lemma Holds.of_run {content : Except HostError Bytes} {start : Machine}
    (hstart : Holds c content start) (h : Run suite StaysInside start m) : Holds c content m := by
  refine h.invariant (P := Holds c content) hstart ?_ ?_
  · intro m m' moment request hm hinside heffect _
    exact hm.effect hinside heffect
  · rintro m m' ⟨hfile, now, depth, hopen, hsame, ht, hdepth⟩ hopened hread
    refine ⟨?_, now, depth, hopened.trans hopen, hsame, ht, hdepth⟩
    rw [← hsame.path, hread hopen, hsame.path, hfile]

/-! ## Completing a transaction -/

/-- The completion of a transaction, by the work that it comes down to. -/
lemma answer_complete (hopen : m.engine.opened = some c) {keep : Bool}
    {outcome : Except Errno Unit} {host : Host}
    (h : (if keep then c.commit suite moment m.host
      else if c.transaction.isNone then (.error .invalid, c, m.host)
      else (.ok (), c.rollback, m.host)) = (outcome, c', host)) :
    m.answer suite moment thread (.completeTransaction keep)
      = (resultCode (outcome.map fun _ => 0),
        ⟨{ m.engine.touch thread with opened := some c' }, host⟩) := by
  show coded 0 (m.complete suite moment thread keep) = _
  simp only [complete, update, hopen, h]
  rfl

/-- Without a transaction there is nothing to complete, and nothing is done but to note that the
thread works with the container. -/
lemma answer_complete_none (hopen : m.engine.opened = some c) (hnone : c.transaction = none)
    (keep : Bool) :
    m.answer suite moment thread (.completeTransaction keep)
      = ((-22 : Int), { m with engine := m.engine.touch thread }) := by
  have hsame : { m.engine.touch thread with opened := some c } = m.engine.touch thread := by
    rw [← hopen]
    rfl
  have hwork : (if keep then c.commit suite moment m.host
      else if c.transaction.isNone then (.error .invalid, c, m.host)
      else (.ok (), c.rollback, m.host)) = (.error .invalid, c, m.host) := by
    cases keep
    · simp [hnone]
    · simp [OpenContainer.commit, hnone]
  rw [answer_complete hopen hwork, hsame]
  rfl

/-! ## From the beginning to the end -/

/-- A request that begins no transaction. -/
def BeginsNone (_ : Machine) (request : Request) : Prop :=
  request ≠ .beginTransaction

/-- The ways in which a transaction ends: it is given up at any depth, its outermost level is
completed, or the container is closed. -/
inductive Ends (suite : CipherSuite) (depth : Nat) (m : Machine) : Machine → Prop
  | rollback (moment : Moment) (thread : Thread) :
      Ends suite depth m (m.answer suite moment thread (.completeTransaction false)).2
  | commit (moment : Moment) (thread : Thread) (h : depth = 1) :
      Ends suite depth m (m.answer suite moment thread (.completeTransaction true)).2
  | close (moment : Moment) (thread : Thread) (handle : Handle)
      (h : (m.engine.registry.close handle).1 = some 0) :
      Ends suite depth m (m.answer suite moment thread (.closeHandle handle)).2

/-- What the ends of a transaction lead to, where `c` is the container as it was when the
transaction began, and `now` as it is. -/
structure AllOrNothing (suite : CipherSuite) (c now : OpenContainer) (depth : Nat) (m : Machine) :
    Prop where
  /-- Where it is given up, memory goes back, and the host stays as it is. -/
  rollback : ∀ moment thread, m.answer suite moment thread (.completeTransaction false)
    = ((0 : Int), ⟨{ m.engine.touch thread with
        opened := some { now with tree := c.tree, transaction := none } }, m.host⟩)
  /-- Where its outermost level is completed, the file has the tree in memory.  If the host refuses
  that, memory goes back, and the host stays as it is. -/
  commit : depth = 1 → ∀ moment thread,
    (∃ host, m.answer suite moment thread (.completeTransaction true)
        = ((0 : Int), ⟨{ m.engine.touch thread with
            opened := some { now with transaction := none, dirty := false } }, host⟩)
      ∧ c.sealedTree suite host = some now.tree)
    ∨ m.answer suite moment thread (.completeTransaction true)
        = ((-5 : Int), ⟨{ m.engine.touch thread with
            opened := some { now with tree := c.tree, transaction := none } }, m.host⟩)
      ∧ ∃ e, ({ now with transaction := none } : OpenContainer).persist suite moment m.host
        = .error e
  /-- Where the container is closed, the file has the tree that the transaction began with, unless
  the host refuses that. -/
  close : ∀ moment thread handle, (m.engine.registry.close handle).1 = some 0 →
    (m.answer suite moment thread (.closeHandle handle)).2.engine.opened = none
    ∧ (c.sealedTree suite (m.answer suite moment thread (.closeHandle handle)).2.host = some c.tree
      ∨ (m.answer suite moment thread (.closeHandle handle)).2.host = m.host
        ∧ ∃ e, ({ now with tree := c.tree, transaction := none } : OpenContainer).persist suite
          moment m.host = .error e)
  /-- After it has ended there is nothing to complete until a transaction begins. -/
  after : ∀ {ended later : Machine}, m.Ends suite depth ended → Run suite BeginsNone ended later →
    ∀ {opened : OpenContainer}, later.engine.opened = some opened → ∀ moment thread keep,
      later.answer suite moment thread (.completeTransaction keep)
        = ((-22 : Int), { later with engine := later.engine.touch thread })

/-- No container that is open has a transaction. -/
def Outside (m : Machine) : Prop :=
  ∀ {c : OpenContainer}, m.engine.opened = some c → c.transaction = none

lemma Outside.of_run {start : Machine} (hstart : start.Outside) (h : Run suite BeginsNone start m) :
    m.Outside := by
  refine h.invariant (P := Outside) hstart ?_ ?_
  · intro m m' moment request hm hbegins heffect _ c hc
    cases heffect with
    | none huntouched => exact hm (huntouched.1 ▸ hc)
    | opened _ _ hunlock hopen =>
        obtain rfl := Option.some.inj (hopen.symm.trans hc)
        exact (ContainerEngine.unlock_ok hunlock).2.1
    | worked hopen hwork hopen' =>
        obtain rfl := Option.some.inj (hopen'.symm.trans hc)
        exact hwork.outside (hm hopen) hbegins
    | closed _ _ _ hclosed =>
        rw [hclosed] at hc
        cases hc
  · intro m m' hm hopened _ c hc
    exact hm (hopened ▸ hc)

/-- A save that is made at the end of a transaction can be read with the key that the container had
at its beginning. -/
lemma sealedTree_of_save (hsuite : suite.Lawful) (hplaced : c.Placed) (hsame : c.SameFile c')
    (hcost : ∀ {cost : Scrypt.Params}, c'.cost = some cost → cost.Storable)
    (htree : c'.tree.Storable) {host host' : Host}
    (h : c'.persist suite moment host = .ok host') : c.sealedTree suite host' = some c'.tree := by
  rw [← OpenContainer.sealedTree_congr hsame.path hsame.key rfl]
  exact OpenContainer.sealedTree_of_persist hsuite (hsame.placed hplaced) htree hcost h

section Ends

variable {now : OpenContainer} {depth : Nat} (hopen : m.engine.opened = some now)
  (ht : now.transaction = some ⟨depth, c.tree⟩)

include hopen ht

/-- Giving a transaction up succeeds, and leaves the host alone. -/
lemma answer_rollback (moment : Moment) (thread : Thread) :
    m.answer suite moment thread (.completeTransaction false)
      = ((0 : Int), ⟨{ m.engine.touch thread with
          opened := some { now with tree := c.tree, transaction := none } }, m.host⟩) := by
  rw [← OpenContainer.rollback_of_some ht]
  exact answer_complete hopen (by rw [ht])

variable (hsuite : suite.Lawful) (hplaced : c.Placed) (hsame : c.SameFile now) (hfits : now.Fits)

include hsuite hplaced hsame hfits

lemma answer_commit (hlast : depth = 1) (moment : Moment) (thread : Thread) :
    (∃ host, m.answer suite moment thread (.completeTransaction true)
        = ((0 : Int), ⟨{ m.engine.touch thread with
            opened := some { now with transaction := none, dirty := false } }, host⟩)
      ∧ c.sealedTree suite host = some now.tree)
    ∨ m.answer suite moment thread (.completeTransaction true)
        = ((-5 : Int), ⟨{ m.engine.touch thread with
            opened := some { now with tree := c.tree, transaction := none } }, m.host⟩)
      ∧ ∃ e, ({ now with transaction := none } : OpenContainer).persist suite moment m.host
        = .error e := by
  rcases hcommit : now.commit suite moment m.host with ⟨outcome, after, host⟩
  have hanswer : m.answer suite moment thread (.completeTransaction true) = _ :=
    answer_complete hopen hcommit
  rw [hanswer]
  cases outcome with
  | ok done =>
      obtain ⟨_, _, hd, hways⟩ := OpenContainer.commit_ok hcommit
      obtain ⟨rfl, rfl⟩ := Transaction.mk.inj (Option.some.inj (ht.symm.trans hd))
      obtain ⟨hdeep, -⟩ | ⟨-, hsave, rfl⟩ := hways
      · omega
      · have hsame' : c.SameFile { now with transaction := none } :=
          hsame.trans ⟨rfl, rfl, rfl, rfl, rfl⟩
        exact Or.inl ⟨host, rfl,
          sealedTree_of_save hsuite hplaced hsame' hfits.cost hfits.tree hsave⟩
  | error code =>
      obtain ⟨rfl, ⟨hnone, -⟩ | ⟨_, _, hd, -, rfl, rfl, he⟩⟩ := OpenContainer.commit_error hcommit
      · rw [hnone] at ht
        cases ht
      · obtain ⟨rfl, rfl⟩ := Transaction.mk.inj (Option.some.inj (ht.symm.trans hd))
        exact Or.inr ⟨rfl, he⟩

lemma answer_close {handle : Handle} (hlast : (m.engine.registry.close handle).1 = some 0)
    (moment : Moment) (thread : Thread) :
    (m.answer suite moment thread (.closeHandle handle)).2.engine.opened = none
    ∧ (c.sealedTree suite (m.answer suite moment thread (.closeHandle handle)).2.host = some c.tree
      ∨ (m.answer suite moment thread (.closeHandle handle)).2.host = m.host
        ∧ ∃ e, ({ now with tree := c.tree, transaction := none } : OpenContainer).persist suite
          moment m.host = .error e) := by
  obtain ⟨hclosed, hsave⟩ := closeHandle_last suite moment hopen hlast
  rw [OpenContainer.rollback_of_some ht] at hsave
  refine ⟨hclosed, hsave.imp_left fun hsave => ?_⟩
  have hsame' : c.SameFile { now with tree := c.tree, transaction := none } :=
    hsame.trans ⟨rfl, rfl, rfl, rfl, rfl⟩
  exact sealedTree_of_save hsuite hplaced hsame' hfits.cost (hfits.snapshot ht) hsave

/-- However it ends, no transaction is left. -/
lemma outside_of_ends {ended : Machine} (h : m.Ends suite depth ended) : ended.Outside := by
  intro found hfound
  cases h with
  | rollback moment thread =>
      rw [answer_rollback hopen ht] at hfound
      obtain rfl := Option.some.inj hfound
      rfl
  | commit moment thread hlast =>
      obtain ⟨_, hanswer, -⟩ | ⟨hanswer, -⟩ :=
        answer_commit hopen ht hsuite hplaced hsame hfits hlast moment thread
      · rw [hanswer] at hfound
        obtain rfl := Option.some.inj hfound
        rfl
      · rw [hanswer] at hfound
        obtain rfl := Option.some.inj hfound
        rfl
  | close moment thread handle hlast =>
      rw [(answer_close hopen ht hsuite hplaced hsame hfits hlast moment thread).1] at hfound
      cases hfound

lemma allOrNothing : AllOrNothing suite c now depth m where
  rollback := answer_rollback hopen ht
  commit := answer_commit hopen ht hsuite hplaced hsame hfits
  close _ _ _ hlast := answer_close hopen ht hsuite hplaced hsame hfits hlast _ _
  after hends hrun _ hopened _ _ keep :=
    answer_complete_none hopened
      (Outside.of_run (outside_of_ends hopen ht hsuite hplaced hsame hfits hends) hrun hopened) keep

end Ends

/-- A transaction begins without fail, and leaves the host alone. -/
lemma answer_begin (hopen : m.engine.opened = some c) (hnone : c.transaction = none) :
    m.answer suite moment thread .beginTransaction
      = ((0 : Int), ⟨{ m.engine.touch thread with
          opened := some { c with transaction := some ⟨1, c.tree⟩ } }, m.host⟩) := by
  show coded 0 (m.update thread fun c host => (.ok (), c.begin, host)) = _
  simp only [coded, update_of_opened hopen, OpenContainer.begin, hnone]
  rfl

/-- However long a transaction goes on, and whatever is asked for and fails in it: the file of the
container is as it was before, and each end of the transaction keeps all of it or nothing. -/
theorem allOrNothing_of_run (hsuite : suite.Lawful) (hm : m.Reachable suite)
    (hopen : m.engine.opened = some c) (hnone : c.transaction = none)
    (hrun : Run suite StaysInside (m.answer suite moment thread .beginTransaction).2 m') :
    (∃ content, m.host.read c.path = .ok content ∧ m'.host.read c.path = .ok content)
      ∧ ∃ now depth, m'.engine.opened = some now ∧ now.transaction = some ⟨depth, c.tree⟩
        ∧ 0 < depth ∧ AllOrNothing suite c now depth m' := by
  obtain ⟨hplaced, stored, hsealed, -⟩ := Backed.of_reachable hsuite hm hopen
  obtain ⟨content, hcontent⟩ := OpenContainer.read_of_sealedTree hsealed
  have hfits := hm.fits hopen
  rw [answer_begin hopen hnone] at hrun
  have hholds : Holds c (m.host.read c.path) m' := by
    refine Holds.of_run ?_ hrun
    exact ⟨rfl, _, 1, rfl, ⟨rfl, rfl, rfl, rfl, rfl⟩, rfl, Nat.one_pos⟩
  obtain ⟨hfile, now, depth, hnow, hsame, ht, hdepth⟩ := hholds
  have hfitsNow : now.Fits := by
    refine hrun.fits ?_ hnow
    intro begun hbegun
    obtain rfl := Option.some.inj hbegun
    exact ⟨hfits.tree, fun h => Option.some.inj h ▸ hfits.tree,
      fun h => Option.some.inj h ▸ (by decide : 1 < UInt32.size), hfits.cost⟩
  exact ⟨⟨content, hcontent, hfile.trans hcontent⟩, now, depth, hnow, ht, hdepth,
    allOrNothing hnow ht hsuite hplaced hsame hfitsNow⟩

/-- A file that is made and written to inside a transaction, with a further level that is completed
and a refused save. -/
theorem allOrNothing_after_write : ∃ m m' : Machine, ∃ moment thread c now,
    m.Reachable .standard ∧ m.engine.opened = some c ∧ c.transaction = none
      ∧ Run .standard StaysInside (m.answer .standard moment thread .beginTransaction).2 m'
      ∧ m'.engine.opened = some now ∧ now.tree ≠ c.tree
      ∧ (∃ content, m.host.read c.path = .ok content ∧ m'.host.read c.path = .ok content)
      ∧ AllOrNothing .standard c now 1 m' := by
  let moment : Moment := ⟨⟨.epoch, 0, 0⟩, [], .ofNat 0, none⟩
  let refused : Moment := { moment with refusal := some (.os .ioFailure) }
  suffices h : ∃ m m' : Machine, m.Reachable .standard
      ∧ Run .standard StaysInside (m.answer .standard moment mainThread .beginTransaction).2 m'
      ∧ (∃ c ∈ m.engine.opened, c.transaction = none)
      ∧ ∃ now ∈ m'.engine.opened, ∃ transaction ∈ now.transaction,
        transaction.depth = 1 ∧ now.tree ≠ transaction.snapshot by
    obtain ⟨m, m', hm, hrun, ⟨c, hc, hnone⟩, now, hnow, transaction, ht, hdepth, hne⟩ := h
    obtain ⟨⟨content, hbefore, hafter⟩, now', depth, hnow', ht', -, hall⟩ :=
      allOrNothing_of_run CipherSuite.lawful_standard hm hc hnone hrun
    obtain rfl := Option.some.inj (hnow.symm.trans hnow')
    obtain rfl := Option.some.inj (ht.symm.trans ht')
    obtain rfl : depth = 1 := hdepth
    exact ⟨m, m', moment, mainThread, c, now, hm, hc, hnone, hrun, hnow, hne,
      ⟨content, hbefore, hafter⟩, hall⟩
  let start : Machine := ⟨.ofConfig .standard, .bare ⟨4096, 0, 0, 0, 0, 255⟩ "/"⟩
  let box : Request := .openContainer "/box" (.key (List.replicate 32 0))
  let m : Machine := (start.answer .standard moment mainThread box).2
  have hm : m.Reachable .standard :=
    ⟨_, _, .step .start (.call moment mainThread box trivial) (by decide +kernel)⟩
  have made : Run .standard StaysInside
      (m.answer .standard moment mainThread .beginTransaction).2 _ :=
    .step .start (.call moment mainThread (.change (.create "/f" 0o644)) trivial)
      (by decide +kernel)
  have deeper : Run .standard StaysInside _ _ :=
    .step made (.call moment mainThread .beginTransaction trivial) (by decide +kernel)
  have wrote : Run .standard StaysInside _ _ :=
    .step deeper (.call moment mainThread (.change (.write "/f" [1] 0)) trivial)
      (by decide +kernel)
  have synced : Run .standard StaysInside _ _ :=
    .step wrote (.call refused mainThread (.fsync "/f") trivial) (by decide +kernel)
  have back : Run .standard StaysInside _ _ :=
    .step synced (.call moment mainThread (.completeTransaction true) (by decide +kernel))
      (by decide +kernel)
  exact ⟨m, _, hm, back, by decide +kernel, by decide +kernel⟩

end Machine

end Strongbox
