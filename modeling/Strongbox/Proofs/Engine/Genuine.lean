import Strongbox.Proofs.Engine.Clock
import Strongbox.Proofs.Engine.Due

/-!
# Trees that no run damages

An engine takes the tree of a container from its file, so what it can say of the tree depends on who
wrote the file.  Here it is an engine, though not always the same one: files may be copied, put back
or exchanged for each other in any way, as long as nobody forges one.

* `Machine.Writes` — the tree that a request puts into the container file.
* `Machine.unsealed` — the payload in the container file that a request opens.
* `Machine.Genuine` — what can become of an engine that only opens what an engine wrote.
* `OpenContainer.Sound` — the trees of a container are in order.
* **`Machine.sound_of_genuine`** — so they are at any time, whatever was changed, given up, closed
  and opened again.
* **`Machine.Genuine.reopened`** — closing a container and opening it again is such a run.
-/

namespace Strongbox

/-! ## Containers that are in order -/

namespace OpenContainer

variable {suite : CipherSuite} {moment : Moment} {host host' : Host} {c c' : OpenContainer}

/-- Both trees of a container are in order: the one in memory, and the one that is left if a
transaction is given up. -/
structure Sound (c : OpenContainer) : Prop where
  tree : c.tree.WellFormed
  kept : c.keptTree.WellFormed

lemma sound_of_none (hnone : c.transaction = none) (htree : c.tree.WellFormed) : c.Sound :=
  ⟨htree, (keptTree_of_none hnone).symm ▸ htree⟩

/-- Another tree that is in order may take the place of the one in memory. -/
lemma Sound.replaced (h : c.Sound) {tree : Tree} (htree : tree.WellFormed) (dirty : Bool) :
    ({ c with tree := tree, dirty := dirty } : OpenContainer).Sound := by
  refine ⟨htree, ?_⟩
  by_cases hnone : c.transaction = none
  · rw [keptTree_outside hnone]
    exact htree
  · obtain ⟨transaction, ht⟩ := Option.ne_none_iff_exists'.1 hnone
    rw [keptTree_inside ht]
    exact h.kept

lemma Sound.change (h : c.Sound) {asked change : Change} (hresolve : asked.resolve = .ok change)
    {outcome : Except Errno Unit}
    (hchange : c.change suite moment host change = (outcome, c', host')) : c'.Sound := by
  cases outcome with
  | error code => exact (change_error hchange).1 ▸ h
  | ok done =>
      obtain ⟨tree, happly, hways⟩ := change_ok hchange
      have htree := h.tree.apply (Change.canonical_of_resolve hresolve) happly
      rcases hways with ⟨-, rfl, -⟩ | ⟨-, rfl, -⟩ | ⟨-, -, rfl, -⟩ | ⟨-, -, -, rfl⟩
      all_goals exact h.replaced htree _

lemma Sound.flush (h : c.Sound) {outcome : Except Errno Unit}
    (hflush : c.flush suite moment host = (outcome, c', host')) : c'.Sound := by
  cases outcome with
  | error code => exact (flush_error hflush).1 ▸ h
  | ok done =>
      obtain ⟨-, -, -, rfl⟩ | ⟨-, rfl, -⟩ := flush_ok hflush
      · exact h.replaced h.tree false
      · exact h

/-- A transaction that begins goes back to a tree that is in order. -/
lemma Sound.begin (h : c.Sound) : c.begin.Sound := by
  refine ⟨?_, c.keptTree_begin.symm ▸ h.kept⟩
  unfold OpenContainer.begin
  split <;> exact h.tree

lemma Sound.rollback (h : c.Sound) : c.rollback.Sound := by
  rw [rollback_eq]
  exact ⟨h.kept, h.kept⟩

lemma Sound.commit (h : c.Sound) {outcome : Except Errno Unit}
    (hcommit : c.commit suite moment host = (outcome, c', host')) : c'.Sound := by
  cases outcome with
  | error code =>
      obtain ⟨-, ⟨-, -, rfl⟩ | ⟨depth, snapshot, ht, -, -, rfl, -⟩⟩ := commit_error hcommit
      · exact h
      · exact rollback_of_some ht ▸ h.rollback
  | ok done =>
      obtain ⟨depth, snapshot, ht, ⟨-, rfl, -⟩ | ⟨-, -, rfl⟩⟩ := commit_ok hcommit
      · have hkept := h.kept
        rw [keptTree, ht] at hkept
        exact ⟨h.tree, hkept⟩
      · exact sound_of_none rfl h.tree

end OpenContainer

/-! ## Files -/

namespace Machine

/-- A request puts a tree into a container file: that of the open container, as it has to be saved,
or that of a container that is made. -/
inductive Writes (suite : CipherSuite) (moment : Moment) (m : Machine) : Request → Tree → Prop
  | saved {request : Request} {c : OpenContainer} (hdue : m.due moment request = some c)
      (hsave : (c.persist suite moment m.host).isOk = true) : Writes suite moment m request c.tree
  | created {given : String} {credential : Credential} {c : OpenContainer} {host : Host}
      (hclosed : m.engine.opened = none)
      (hcreate : ContainerEngine.create suite m.engine.config moment m.host
        (HostPath.absoluteOrSelf given) credential = .ok (c, host)) :
      Writes suite moment m (.openContainer given credential) c.tree

/-- The payload in the container file that a request opens, if it opens one and the credential fits
it. -/
def unsealed (suite : CipherSuite) (m : Machine) : Request → Option Bytes
  | .openContainer given credential =>
    match m.engine.opened, Frame.read m.host (HostPath.absoluteOrSelf given) with
    | none, .ok (some frame) => do
      let key ← (ContainerEngine.deriveKey suite credential frame.header.salt
        frame.header.cost).toOption
      let nonce ← Nonce.ofBytes? frame.header.nonce
      suite.decrypt key nonce frame.headerBytes frame.ciphertext
    | _, _ => none
  | _ => none

/-- What can become of an engine that starts with nothing open, on a host that may change in any way
between two calls.  A container file that it opens holds the payload of a tree that some engine
wrote. -/
inductive Genuine (suite : CipherSuite) : Machine → Prop
  | start (config : EngineConfig) (host : Host) : Genuine suite ⟨.ofConfig config, host⟩
  /-- A request is answered without opening a container file. -/
  | call {m : Machine} (h : Genuine suite m) (moment : Moment) (thread : Thread)
      (request : Request) (hfile : m.unsealed suite request = none) :
      Genuine suite (m.answer suite moment thread request).2
  /-- A container file is opened that was written before, here or elsewhere. -/
  | reopen {m writer : Machine} (h : Genuine suite m) (hwriter : Genuine suite writer)
      {written : Moment} {asked : Request} {tree : Tree} {payload : Bytes}
      (hwrites : writer.Writes suite written asked tree) (hstorable : tree.Storable)
      (hpayload : tree.encode = some payload) (moment : Moment) (thread : Thread)
      (request : Request) (hfile : m.unsealed suite request = some payload) :
      Genuine suite (m.answer suite moment thread request).2
  /-- A thread ends. -/
  | exit {m : Machine} (h : Genuine suite m) (thread : Thread) :
      Genuine suite { m with engine := m.engine.exit thread }
  /-- Other programs change the host. -/
  | elsewhere {m : Machine} (h : Genuine suite m) (host : Host) :
      Genuine suite { m with host := host }

variable {suite : CipherSuite} {moment : Moment} {thread : Thread} {m : Machine}
  {request : Request} {given : String} {credential : Credential} {c : OpenContainer}

/-- What is unsealed is the payload that the container is taken from. -/
lemma unsealed_of_unlockFrame (hclosed : m.engine.opened = none) {path : String} {frame : Frame}
    (hpath : HostPath.absoluteOrSelf given = path)
    (hframe : Frame.read m.host path = .ok (some frame))
    (h : ContainerEngine.unlockFrame suite path credential frame = .ok c) :
    c.transaction = none ∧ ∃ payload, m.unsealed suite (.openContainer given credential)
      = some payload ∧ Tree.decode payload = some c.tree := by
  obtain ⟨-, key, nonce, payload, tree, hkey, hnonce, hdecrypt, htree, rfl⟩ :=
    ContainerEngine.unlockFrame_eq_ok.1 h
  refine ⟨rfl, payload, ?_, htree⟩
  simp only [unsealed, hclosed, hpath, hframe, hkey, hnonce, Except.toOption]
  exact hdecrypt

/-- A container that is opened was made, or has its tree from a payload. -/
lemma tree_of_unlock (hclosed : m.engine.opened = none) {host : Host}
    (h : ContainerEngine.unlock suite m.engine.config moment m.host
      (HostPath.absoluteOrSelf given) credential = .ok (c, host)) :
    c.transaction = none ∧ (c.tree = .empty moment.stamp
      ∨ ∃ payload, m.unsealed suite (.openContainer given credential) = some payload
        ∧ Tree.decode payload = some c.tree) := by
  obtain ⟨found, hfound, h⟩ := bind_eq_ok.1 h
  rw [mapError_eq_ok] at hfound
  cases found with
  | some frame =>
      obtain ⟨opened, hopened, h⟩ := bind_eq_ok.1 h
      obtain ⟨rfl, -⟩ := Prod.mk.inj (Except.ok.inj h)
      obtain ⟨hnone, hpayload⟩ := unsealed_of_unlockFrame hclosed rfl hfound hopened
      exact ⟨hnone, Or.inr hpayload⟩
  | none =>
      obtain ⟨key, -, -, rfl⟩ := ContainerEngine.create_eq_ok.1 h
      exact ⟨rfl, Or.inl rfl⟩

/-- The tree that a request leaves to be saved is in order. -/
lemma wellFormed_of_saved {t tree : Tree} (h : t.WellFormed)
    (hsaved : Request.saved? moment.stamp t request = some tree) : tree.WellFormed := by
  unfold Request.saved? at hsaved
  split at hsaved
  · split at hsaved
    · next change hresolve =>
        obtain ⟨-, hsaved⟩ := Option.ite_none_right_eq_some.1 hsaved
        cases happly : change.apply moment.stamp t with
        | error code =>
            rw [happly] at hsaved
            cases hsaved
        | ok changed =>
            rw [happly] at hsaved
            obtain rfl := Option.some.inj hsaved
            exact h.apply (Change.canonical_of_resolve hresolve) happly
    · cases hsaved
  · split at hsaved
    · obtain ⟨-, hsame⟩ := Option.ite_none_right_eq_some.1 hsaved
      exact Option.some.inj hsame ▸ h
    · cases hsaved
  · cases hsaved

/-- The container that has to be saved is in order. -/
lemma sound_of_due (hsound : ∀ {c : OpenContainer}, m.engine.opened = some c → c.Sound)
    (hdue : m.due moment request = some c) : c.Sound := by
  unfold due at hdue
  split at hdue
  · cases hdue
  · next opened hopen =>
      have h := hsound hopen
      split at hdue
      · obtain ⟨tree, hsaved, rfl⟩ := Option.map_eq_some_iff.1 hdue
        exact h.replaced (wellFormed_of_saved h.tree hsaved) _
      · obtain ⟨-, hdue⟩ := Option.ite_none_right_eq_some.1 hdue
        obtain ⟨tree, hsaved, rfl⟩ := Option.map_eq_some_iff.1 hdue
        exact h.replaced (wellFormed_of_saved h.tree hsaved) _
      · obtain ⟨-, hsame⟩ := Option.ite_none_left_eq_some.1 hdue
        obtain rfl := Option.some.inj hsame
        exact OpenContainer.sound_of_none rfl h.tree
      · obtain ⟨-, hsame⟩ := Option.ite_none_right_eq_some.1 hdue
        obtain rfl := Option.some.inj hsame
        exact h.rollback
      · cases hdue

/-- Nothing is written but what is in order. -/
lemma Writes.wellFormed (hsound : ∀ {c : OpenContainer}, m.engine.opened = some c → c.Sound)
    {tree : Tree} (h : m.Writes suite moment request tree) : tree.WellFormed := by
  cases h with
  | saved hdue => exact (sound_of_due hsound hdue).tree
  | created _ hcreate =>
      obtain ⟨key, -, -, rfl⟩ := ContainerEngine.create_eq_ok.1 hcreate
      exact Tree.wellFormed_empty moment.stamp

/-- A request keeps the open container in order, if the tree in a file that it opens is. -/
lemma sound_of_answer (hsound : ∀ {c : OpenContainer}, m.engine.opened = some c → c.Sound)
    (hfile : ∀ {payload : Bytes} {tree : Tree}, m.unsealed suite request = some payload →
      Tree.decode payload = some tree → tree.WellFormed)
    (hopen : (m.answer suite moment thread request).2.engine.opened = some c) : c.Sound := by
  refine opened_of_answer hsound ?_ (fun h hresolve hchange => h.change hresolve hchange)
    (fun h hflush => h.flush hflush) (fun h => h.begin) (fun h hcommit => h.commit hcommit)
    (fun h => h.rollback) hopen
  intro given credential opened host hrequest hclosed hunlock
  subst hrequest
  obtain ⟨hnone, hempty | ⟨payload, hpayload, htree⟩⟩ := tree_of_unlock hclosed hunlock
  · exact OpenContainer.sound_of_none hnone (hempty ▸ Tree.wellFormed_empty moment.stamp)
  · exact OpenContainer.sound_of_none hnone (hfile hpayload htree)

/-- **No run damages a tree.**  Whatever is changed, refused, given up or opened again, both trees
of the open container are in order. -/
theorem sound_of_genuine (h : m.Genuine suite) (hopen : m.engine.opened = some c) : c.Sound := by
  induction h generalizing c with
  | start config host => cases hopen
  | call _ moment thread request hfile ih =>
      exact sound_of_answer ih (fun hpayload => absurd (hfile.symm.trans hpayload) nofun) hopen
  | reopen _ _ hwrites hstorable hpayload moment thread request hfile ih ihwriter =>
      refine sound_of_answer ih (fun hfound hdecode => ?_) hopen
      obtain rfl := Option.some.inj (hfile.symm.trans hfound)
      obtain rfl := Option.some.inj
        (hdecode.symm.trans (Tree.decode_of_encode hstorable hpayload))
      exact hwrites.wellFormed ihwriter
  | exit _ thread ih => exact ih hopen
  | elsewhere _ host ih => exact ih hopen

/-- Whoever a container accepts finds the payload in its file that was saved. -/
lemma unsealed_of_persist (hsuite : suite.Lawful) (hplaced : c.Placed)
    (hcost : ∀ {cost : Scrypt.Params}, c.cost = some cost → cost.Storable) {host host' : Host}
    (hsave : c.persist suite moment host = .ok host') (haccepts : c.Accepts suite credential)
    (hpath : HostPath.absoluteOrSelf given = c.path) (hclosed : m.engine.opened = none)
    (hread : m.host.read c.path = host'.read c.path) :
    ∃ payload, c.tree.encode = some payload
      ∧ m.unsealed suite (.openContainer given credential) = some payload := by
  obtain ⟨payload, ciphertext, hpayload, hencrypt, hframe⟩ :=
    OpenContainer.read_of_persist hplaced hcost hsave
  rw [← OpenContainer.read_congr hread] at hframe
  have hnonce : Nonce.ofBytes? (c.header moment.nonce).nonce = some moment.nonce :=
    moment.nonce.ofBytes?_bytes
  have hkey : ContainerEngine.deriveKey suite credential (c.header moment.nonce).salt
      (c.header moment.nonce).cost = .ok c.key := haccepts.key
  refine ⟨payload, hpayload, ?_⟩
  simp only [unsealed, hclosed, hpath, hframe, hkey, hnonce, Except.toOption]
  exact hsuite.decrypt_encrypt hencrypt

/-- With the last handle, the tree that is left is written. -/
lemma writes_closeHandle (hopen : m.engine.opened = some c) {handle : Handle}
    (hlast : (m.engine.registry.close handle).1 = some 0) {host : Host}
    (hsave : c.rollback.persist suite moment m.host = .ok host) :
    m.Writes suite moment (.closeHandle handle) c.rollback.tree := by
  refine .saved ?_ (by rw [hsave]; rfl)
  simp only [due, hopen, hlast, if_true]

/-- A container that an engine has closed may be opened again from its file, by that engine or
another one, and has the tree that was left of it. -/
theorem Genuine.reopened (hsuite : suite.Lawful) {later : Machine} (hlater : later.Genuine suite)
    (h : m.Genuine suite) (hopen : m.engine.opened = some c) (hfits : c.Fits) (hplaced : c.Placed)
    {handle : Handle} (hlast : (m.engine.registry.close handle).1 = some 0) {host : Host}
    (hsave : c.rollback.persist suite moment m.host = .ok host)
    (haccepts : c.Accepts suite credential) (hpath : HostPath.absoluteOrSelf given = c.path)
    (hclosed : later.engine.opened = none)
    (hread : later.host.read c.path = host.read c.path) (moment' : Moment) (thread' : Thread) :
    (later.answer suite moment' thread' (.openContainer given credential)).2.Genuine suite
      ∧ (later.answer suite moment' thread' (.openContainer given credential)).2.engine.opened
        = some { c with tree := c.keptTree, transaction := none, dirty := false } := by
  have hsame := c.sameFile_rollback
  have hread' : later.host.read c.rollback.path = host.read c.rollback.path := hsame.path ▸ hread
  have hpath' : HostPath.absoluteOrSelf given = c.rollback.path := hpath.trans hsame.path.symm
  obtain ⟨payload, hpayload, hfile⟩ := unsealed_of_persist hsuite (hsame.placed hplaced)
    hfits.rollback.cost hsave (hsame.accepts haccepts) hpath' hclosed hread'
  refine ⟨.reopen hlater h (writes_closeHandle hopen hlast hsave) hfits.rollback.tree hpayload moment'
    thread' _ hfile, ?_⟩
  have hunlock := ContainerEngine.unlock_of_persist hsuite (hsame.placed hplaced)
    hfits.rollback.tree hfits.rollback.cost hsave (hsame.accepts haccepts) hread'
    later.engine.config moment'
  rw [c.rollback_eq] at hunlock
  rw [answer_of_unlock hclosed (hpath ▸ hunlock), hpath]

end Machine

end Strongbox
