import Strongbox.Proofs.Engine.Backed

/-!
# Closing a container and opening it again

Whoever opened a container can open it again after it was closed, and finds what was left in it: the
tree in memory, or the one that an unfinished transaction began with.

* `CipherSuite.Alike` — credentials that are spelled differently and mean the same.
* `OpenContainer.Accepts` — a credential gives the key of a container.
* `Machine.OpenedUnder` — the container was opened at a path with a credential, and not closed since.
* `ContainerEngine.unlock_of_persist` — a container that was saved can be opened from its file.
* **`Machine.reopened_of_reachable`** — so can any container that was closed.
-/

namespace Strongbox

/-! ## Credentials -/

/-- Credentials that give the same key: equal raw keys, and passwords with one normal form. -/
def CipherSuite.Alike (suite : CipherSuite) : Credential → Credential → Prop
  | .password text, .password text' => suite.normalForm text' = suite.normalForm text
  | .key bytes, .key bytes' => bytes' = bytes
  | _, _ => False

namespace OpenContainer

variable {suite : CipherSuite} {c c' : OpenContainer} {credential credential' : Credential}

/-- The credential is of the right kind and gives the key of the container. -/
structure Accepts (suite : CipherSuite) (c : OpenContainer) (credential : Credential) : Prop where
  kind : c.credential = credential.kind
  key : ContainerEngine.deriveKey suite credential c.salt c.cost = .ok c.key

lemma Accepts.alike (h : c.Accepts suite credential) (halike : suite.Alike credential credential') :
    c.Accepts suite credential' := by
  obtain ⟨hkind, hkey⟩ := h
  cases credential with
  | password text =>
      cases credential' with
      | password text' =>
          have hsame : suite.keyOf text' = suite.keyOf text := by
            funext salt cost
            rw [CipherSuite.keyOf, show suite.normalForm text' = suite.normalForm text from halike,
              CipherSuite.keyOf]
          refine ⟨hkind, ?_⟩
          rw [← hkey]
          cases c.salt <;> cases c.cost <;> simp only [ContainerEngine.deriveKey, hsame]
      | key bytes' => cases halike
  | key bytes =>
      cases credential' with
      | password text' => cases halike
      | key bytes' =>
          obtain rfl : bytes' = bytes := halike
          exact ⟨hkind, hkey⟩

/-- The key of a container never changes, so what is accepted stays so. -/
lemma SameFile.accepts (hsame : c.SameFile c') (h : c.Accepts suite credential) :
    c'.Accepts suite credential := by
  refine ⟨hsame.credential.trans h.kind, ?_⟩
  rw [hsame.salt, hsame.cost, hsame.key, h.key]

/-- The tree that is left of a container if its transaction, should there be one, is given up. -/
def keptTree (c : OpenContainer) : Tree :=
  match c.transaction with
  | some transaction => transaction.snapshot
  | none => c.tree

lemma rollback_eq (c : OpenContainer) :
    c.rollback = { c with tree := c.keptTree, transaction := none } := by
  obtain ⟨path, credential, salt, cost, key, tree, transaction, dirty⟩ := c
  cases transaction <;> rfl

lemma Fits.rollback (h : c.Fits) : c.rollback.Fits := by
  cases ht : c.transaction with
  | none =>
      rw [rollback_of_none ht]
      exact h
  | some transaction =>
      rw [rollback_of_some ht]
      exact ⟨h.snapshot ht, nofun, nofun, h.cost⟩

end OpenContainer

/-! ## Opening -/

namespace ContainerEngine

variable {suite : CipherSuite} {config : EngineConfig} {moment : Moment} {host host' : Host}
  {path : String} {credential : Credential} {c : OpenContainer}

/-- A container that was opened with a credential accepts it. -/
lemma accepts_of_unlock (h : unlock suite config moment host path credential = .ok (c, host')) :
    c.Accepts suite credential := by
  obtain ⟨found, -, h⟩ := bind_eq_ok.1 h
  cases found with
  | some frame =>
      obtain ⟨opened, hopened, h⟩ := bind_eq_ok.1 h
      obtain ⟨rfl, -⟩ := Prod.mk.inj (Except.ok.inj h)
      obtain ⟨hkind, key, _, _, _, hkey, -, -, -, rfl⟩ := unlockFrame_eq_ok.1 hopened
      exact ⟨hkind, hkey⟩
  | none =>
      obtain ⟨key, hkey, -, rfl⟩ := create_eq_ok.1 h
      exact ⟨rfl, hkey⟩

/-- A credential with which the open container was shared is accepted by it. -/
lemma accepts_of_join (h : join suite c path credential = .ok ()) : c.Accepts suite credential := by
  obtain ⟨-, h⟩ := guard_eq_ok.1 h
  obtain ⟨_, hkind, h⟩ := bind_eq_ok.1 h
  obtain ⟨key, hkey, h⟩ := bind_eq_ok.1 h
  obtain rfl : key = c.key := by
    by_contra hne
    rw [if_pos hne] at h
    cases h
  exact ⟨requireKind_eq_ok.1 hkind, hkey⟩

/-- A container that was saved can be opened from its file by whoever it accepts. -/
theorem unlock_of_persist (hsuite : suite.Lawful) (hplaced : c.Placed) (htree : c.tree.Storable)
    (hcost : ∀ {cost : Scrypt.Params}, c.cost = some cost → cost.Storable)
    (hsave : c.persist suite moment host = .ok host') (haccepts : c.Accepts suite credential)
    {later : Host} (hread : later.read c.path = host'.read c.path) (config : EngineConfig)
    (moment' : Moment) :
    unlock suite config moment' later c.path credential
      = .ok ({ c with transaction := none, dirty := false }, later) := by
  obtain ⟨payload, ciphertext, hpayload, hencrypt, hframe⟩ :=
    OpenContainer.read_of_persist hplaced hcost hsave
  have hnonce : Frame.nonce (c.header moment.nonce) = .ok moment.nonce :=
    Frame.nonce_eq_ok.2 moment.nonce.ofBytes?_bytes
  -- the header names the credential, the salt and the cost that the container has
  have hkind : requireKind (c.header moment.nonce).credential credential.kind = .ok () :=
    requireKind_eq_ok.2 haccepts.kind
  have hkey : deriveKey suite credential (c.header moment.nonce).salt (c.header moment.nonce).cost
      = .ok c.key := haccepts.key
  have hmessage := CipherSuite.unlock_eq_ok.2 (hsuite.decrypt_encrypt hencrypt)
  rw [unlock, OpenContainer.read_congr hread, hframe]
  simp only [Except.mapError, unlockFrame, hkind, hkey, hnonce, hmessage,
    Tree.decode_of_encode htree hpayload, bind, Except.bind]
  rfl

end ContainerEngine

/-! ## Containers that are open -/

namespace Machine

variable {suite : CipherSuite} {moment : Moment} {thread : Thread} {m m' : Machine}
  {given : String} {credential : Credential} {handle : Handle}

/-- Where none is open, a container that can be unlocked is opened and a handle given out. -/
lemma answer_of_unlock (hclosed : m.engine.opened = none) {c : OpenContainer} {host : Host}
    (hunlock : ContainerEngine.unlock suite m.engine.config moment m.host
      (HostPath.absoluteOrSelf given) credential = .ok (c, host)) :
    m.answer suite moment thread (.openContainer given credential)
      = (some (m.engine.registry.issue thread).1, ⟨{ m.engine with
        registry := (m.engine.registry.issue thread).2, opened := some c }, host⟩) := by
  simp only [answer, openContainer, hclosed, hunlock, bind, Except.bind]
  rfl

/-- The open container was opened at a path with a credential, or was shared with that credential
later, and was not closed since. -/
inductive OpenedUnder (suite : CipherSuite) (given : String) : Credential → Machine → Prop
  | opened {m m' : Machine} {moment : Moment} {thread : Thread} {credential : Credential}
      {handle : Handle} (hm : m.Reachable suite) (hclosed : m.engine.opened = none)
      (hanswer : m.answer suite moment thread (.openContainer given credential)
        = ((some handle : Option Handle), m'))
      (hfits : m'.Fits) : OpenedUnder suite given credential m'
  | shared {m m' : Machine} {moment : Moment} {thread : Thread} {first credential : Credential}
      {other : String} {handle : Handle} (hm : OpenedUnder suite given first m)
      (hanswer : m.answer suite moment thread (.openContainer other credential)
        = ((some handle : Option Handle), m'))
      (hfits : m'.Fits) : OpenedUnder suite given credential m'
  | kept {m m' : Machine} {credential : Credential} (hm : OpenedUnder suite given credential m)
      (hstep : m.Step suite (fun _ _ => True) m') (hopen : m'.engine.opened ≠ none)
      (hfits : m'.Fits) : OpenedUnder suite given credential m'

/-- A step from an open container to an open container leaves it the same one. -/
lemma sameFile_of_step (hstep : m.Step suite (fun _ _ => True) m') {c : OpenContainer}
    (hopen : m.engine.opened = some c) (hopen' : m'.engine.opened ≠ none) :
    ∃ c', m'.engine.opened = some c' ∧ c.SameFile c' := by
  cases hstep with
  | call moment thread request =>
      cases effect_of_answer suite moment thread m request with
      | none huntouched => exact ⟨c, huntouched.1.trans hopen, .refl c⟩
      | opened hclosed =>
          rw [hopen] at hclosed
          cases hclosed
      | worked hfound hwork hafter =>
          obtain rfl := Option.some.inj (hopen.symm.trans hfound)
          exact ⟨_, hafter, hwork.sameFile⟩
      | closed _ _ _ hclosed => exact absurd hclosed hopen'
  | exit thread => exact ⟨c, hopen, .refl c⟩
  | elsewhere host => exact ⟨c, hopen, .refl c⟩

lemma Reachable.step (h : m.Reachable suite) (hstep : m.Step suite (fun _ _ => True) m')
    (hfits : m'.Fits) : m'.Reachable suite := by
  obtain ⟨config, host, hrun⟩ := h
  exact ⟨config, host, .step hrun hstep hfits⟩

/-- An answer is a step. -/
lemma step_of_answer {request : Request} {reply : request.Reply}
    (h : m.answer suite moment thread request = (reply, m')) :
    m.Step suite (fun _ _ => True) m' := by
  have hstep : m.Step suite (fun _ _ => True) (m.answer suite moment thread request).2 :=
    .call moment thread request trivial
  rwa [h] at hstep

namespace OpenedUnder

lemma reachable (h : m.OpenedUnder suite given credential) : m.Reachable suite := by
  induction h with
  | opened hm _ hanswer hfits => exact hm.step (step_of_answer hanswer) hfits
  | shared _ hanswer hfits ih => exact ih.step (step_of_answer hanswer) hfits
  | kept _ hstep _ hfits ih => exact ih.step hstep hfits

/-- The container lies at the path, and accepts the credential. -/
lemma accepts (h : m.OpenedUnder suite given credential) :
    ∃ c, m.engine.opened = some c ∧ c.path = HostPath.absoluteOrSelf given
      ∧ c.Accepts suite credential := by
  induction h with
  | opened _ hclosed hanswer =>
      obtain ⟨-, ⟨c, hopen, -⟩ | ⟨-, c, hopen, hunlock⟩⟩ :=
        openContainer_ok (openContainer_of_answer hanswer)
      · rw [hopen] at hclosed
        cases hclosed
      · exact ⟨c, hopen, (ContainerEngine.unlock_ok hunlock).1,
          ContainerEngine.accepts_of_unlock hunlock⟩
  | shared _ hanswer _ ih =>
      obtain ⟨c, hopen, hpath, -⟩ := ih
      obtain ⟨-, ⟨c', hopen', hafter, -, hjoin⟩ | ⟨hclosed, -⟩⟩ :=
        openContainer_ok (openContainer_of_answer hanswer)
      · obtain rfl := Option.some.inj (hopen.symm.trans hopen')
        exact ⟨c, hafter, hpath, ContainerEngine.accepts_of_join hjoin⟩
      · rw [hopen] at hclosed
        cases hclosed
  | kept _ hstep hopen' _ ih =>
      obtain ⟨c, hopen, hpath, haccepts⟩ := ih
      obtain ⟨c', hafter, hsame⟩ := sameFile_of_step hstep hopen hopen'
      exact ⟨c', hafter, hsame.path.trans hpath, hsame.accepts haccepts⟩

end OpenedUnder

/-- A request that opens a container is answered with a handle. -/
lemma exists_handle (hclosed : m.engine.opened = none)
    (hopen : (m.answer suite moment thread (.openContainer given credential)).2.engine.opened
      ≠ none) :
    ∃ handle : Handle, m.answer suite moment thread (.openContainer given credential)
      = (some handle, (m.answer suite moment thread (.openContainer given credential)).2) := by
  cases ho : m.openContainer suite moment thread given credential with
  | error e =>
      simp only [answer, ho] at hopen
      exact absurd hclosed hopen
  | ok result =>
      simp only [answer, ho]
      exact ⟨result.1, rfl⟩

/-- A container that a step opens is opened by a request that names a path and a credential. -/
lemma opened_of_step (hstep : m.Step suite (fun _ _ => True) m') (hclosed : m.engine.opened = none)
    (hopen : m'.engine.opened ≠ none) :
    ∃ moment thread given credential, ∃ handle : Handle,
      m.answer suite moment thread (.openContainer given credential) = (some handle, m') := by
  cases hstep with
  | exit thread | elsewhere host => exact absurd hclosed hopen
  | call moment thread request =>
      cases effect_of_answer suite moment thread m request with
      | none huntouched => exact absurd (huntouched.1.trans hclosed) hopen
      | @opened given _ credential =>
          exact ⟨moment, thread, given, credential, exists_handle hclosed hopen⟩
      | worked hfound | closed hfound =>
          rw [hfound] at hclosed
          cases hclosed

/-- No container is open that was not opened at some path with some credential. -/
lemma exists_openedUnder (hm : m.Reachable suite) (hopen : m.engine.opened ≠ none) :
    ∃ given credential, m.OpenedUnder suite given credential := by
  obtain ⟨config, host, hrun⟩ := hm
  induction hrun with
  | start => exact absurd rfl hopen
  | @step m m' hbefore hstep hfits ih =>
      by_cases hclosed : m.engine.opened = none
      · obtain ⟨moment, thread, given, credential, handle, hanswer⟩ :=
          opened_of_step hstep hclosed hopen
        exact ⟨given, credential, .opened ⟨config, host, hbefore⟩ hclosed hanswer hfits⟩
      · obtain ⟨given, credential, hunder⟩ := ih hclosed
        exact ⟨given, credential, .kept hunder hstep hopen hfits⟩

/-! ## Closing and opening -/

/-- A container that was opened with a credential has been so in every state in which one is open.
Where its last handle is given back and the save succeeds, everybody who knows the path and a
credential like that one can open it again, as long as nobody else writes the file: with all that was
in the tree, or in the tree that an unfinished transaction began with. -/
theorem reopened_of_reachable (hsuite : suite.Lawful) (hm : m.Reachable suite) {c : OpenContainer}
    (hopen : m.engine.opened = some c) :
    (∃ given credential, m.OpenedUnder suite given credential)
      ∧ ∀ {given credential}, m.OpenedUnder suite given credential →
        ∀ {handle}, (m.engine.registry.close handle).1 = some 0 →
        ∀ {moment host}, c.rollback.persist suite moment m.host = .ok host → ∀ thread,
          (m.answer suite moment thread (.closeHandle handle)).2.engine.opened = none
          ∧ (m.answer suite moment thread (.closeHandle handle)).2.host = host
          ∧ ∀ {later : Machine}, later.engine.opened = none →
            later.host.read c.path = host.read c.path →
            ∀ {credential'}, suite.Alike credential credential' → ∀ moment' thread',
            ∃ handle' : Handle, ∃ after : Machine,
              later.answer suite moment' thread' (.openContainer given credential')
                = (some handle', after)
              ∧ after.engine.opened
                = some { c with tree := c.keptTree, transaction := none, dirty := false }
              ∧ after.host = later.host := by
  refine ⟨exists_openedUnder hm (hopen ▸ Option.some_ne_none c), ?_⟩
  intro given credential hunder handle hlast moment host hsave thread
  obtain ⟨hclosed, hhost⟩ := closeHandle_last suite moment hopen hlast
  refine ⟨hclosed, ?_, ?_⟩
  · obtain hhost | ⟨-, e, he⟩ := hhost
    · exact Except.ok.inj (hhost.symm.trans hsave)
    · rw [hsave] at he
      cases he
  intro later hlater hread credential' halike moment' thread'
  obtain ⟨c', hopen', hpath, haccepts⟩ := hunder.accepts
  obtain rfl := Option.some.inj (hopen.symm.trans hopen')
  have hfits := (hm.fits hopen).rollback
  have hunlock := ContainerEngine.unlock_of_persist hsuite
    (c.sameFile_rollback.placed (Backed.of_reachable hsuite hm hopen).placed) hfits.tree hfits.cost
    hsave (c.sameFile_rollback.accepts (haccepts.alike halike))
    (c.sameFile_rollback.path.symm ▸ hread) later.engine.config moment'
  rw [c.rollback_eq] at hunlock
  exact ⟨_, _, answer_of_unlock hlater (hpath ▸ hunlock), rfl, rfl⟩

/-- A container that is closed, with a raw key, while a transaction has written to a new file. -/
theorem reopened_after_write :
    let moment : Moment := ⟨⟨.epoch, 0, 0⟩, [], .ofNat 0, none⟩
    let key : Credential := .key (List.replicate 32 0)
    ∃ (m : Machine) (c : OpenContainer) (handle : Handle) (later : Machine) (handle' : Handle)
      (after : Machine), m.OpenedUnder .standard "/box" key ∧ m.engine.opened = some c
        ∧ c.tree ≠ c.keptTree
        ∧ later = (m.answer .standard moment mainThread (.closeHandle handle)).2
        ∧ later.engine.opened = none
        ∧ later.answer .standard moment mainThread (.openContainer "/box" key)
          = (some handle', after)
        ∧ after.engine.opened
          = some { c with tree := c.keptTree, transaction := none, dirty := false } := by
  intro moment key
  suffices h : ∃ m : Machine, m.OpenedUnder .standard "/box" key
      ∧ (m.engine.registry.close ⟨1⟩).1 = some 0
      ∧ ∃ c ∈ m.engine.opened, c.tree ≠ c.keptTree
        ∧ (c.rollback.persist .standard moment m.host).isOk = true by
    obtain ⟨m, hunder, hlast, c, hopen, hne, hok⟩ := h
    obtain ⟨host, hsave⟩ : ∃ host, c.rollback.persist .standard moment m.host = .ok host := by
      cases hp : c.rollback.persist .standard moment m.host with
      | ok host => exact ⟨host, rfl⟩
      | error e =>
          rw [hp] at hok
          cases hok
    have halike : CipherSuite.standard.Alike key key := rfl
    obtain ⟨-, hreopen⟩ := reopened_of_reachable CipherSuite.lawful_standard hunder.reachable hopen
    obtain ⟨hclosed, hhost, hlater⟩ := hreopen hunder hlast hsave mainThread
    obtain ⟨handle', after, hanswer, hafter, -⟩ :=
      hlater hclosed (by rw [hhost]) halike moment mainThread
    exact ⟨m, c, _, _, handle', after, hunder, hopen, hne, rfl, hclosed, hanswer, hafter⟩
  let start : Machine := ⟨.ofConfig .standard, .bare ⟨4096, 0, 0, 0, 0, 255⟩ "/"⟩
  have hopen : (start.answer .standard moment mainThread
      (.openContainer "/box" key)).2.engine.opened ≠ none := by decide +kernel
  obtain ⟨handle, hanswer⟩ := exists_handle (m := start) rfl hopen
  have opened : OpenedUnder .standard "/box" key _ :=
    .opened ⟨_, _, .start⟩ rfl hanswer (by decide +kernel)
  have made : OpenedUnder .standard "/box" key _ :=
    .kept opened (.call moment mainThread (.change (.create "/f" 0o644)) trivial)
      (by decide +kernel) (by decide +kernel)
  have begun : OpenedUnder .standard "/box" key _ :=
    .kept made (.call moment mainThread .beginTransaction trivial) (by decide +kernel)
      (by decide +kernel)
  have wrote : OpenedUnder .standard "/box" key _ :=
    .kept begun (.call moment mainThread (.change (.write "/f" [1] 0)) trivial)
      (by decide +kernel) (by decide +kernel)
  exact ⟨_, wrote, by decide +kernel, by decide +kernel⟩

end Machine

end Strongbox
