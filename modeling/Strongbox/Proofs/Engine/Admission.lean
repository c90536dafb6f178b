import Strongbox.Proofs.Engine.Reopen

/-!
# Who is admitted to a container

A handle is given out in three cases: for the container that is open already, for one that is made
because there is none, and for one that is taken from its file.  In each of them the credential has
to give the key, and a container is taken from its file only after its payload has been
authenticated together with the header as it is written there.

* `ContainerEngine.join_eq_ok` — when the open container is shared.
* `Machine.Admits` — the three cases.
* **`Machine.handle_iff_admits`** — a handle is given out in these cases, and where none is, nothing
  has changed.
-/

namespace Strongbox

namespace ContainerEngine

variable {suite : CipherSuite} {config : EngineConfig} {moment : Moment} {host host' : Host}
  {path : String} {credential : Credential} {c : OpenContainer} {frame : Frame}

/-! ## The checks -/

/-- The open container is shared with whoever names its path and has its key. -/
lemma join_eq_ok : join suite c path credential = .ok ()
    ↔ HostPath.same c.path path = true ∧ c.Accepts suite credential := by
  constructor
  · intro h
    refine ⟨?_, accepts_of_join h⟩
    simpa using (guard_eq_ok.1 h).1
  · rintro ⟨hsame, hkind, hkey⟩
    refine guard_eq_ok.2 ⟨by simp [hsame], ?_⟩
    refine bind_eq_ok.2 ⟨(), requireKind_eq_ok.2 hkind, bind_eq_ok.2 ⟨c.key, hkey, ?_⟩⟩
    rw [if_neg (not_not.2 rfl)]
    rfl

end ContainerEngine

namespace Machine

/-! ## The cases -/

/-- A credential is admitted at a path, to a container, with the host as it is then. -/
inductive Admits (suite : CipherSuite) (moment : Moment) (m : Machine) (path : String)
    (credential : Credential) : OpenContainer → Host → Prop
  /-- The container is open already, under the same path, and has been opened with a credential of
  the same kind and with the same key. -/
  | shared {c : OpenContainer} (hopen : m.engine.opened = some c)
      (hpath : HostPath.same c.path path = true) (hkind : c.credential = credential.kind)
      (hkey : ContainerEngine.deriveKey suite credential c.salt c.cost = .ok c.key) :
      Admits suite moment m path credential c m.host
  /-- None is open, and there is no file or an empty one.  A new container is in the file then. -/
  | created {key : ContainerKey} {host : Host} (hclosed : m.engine.opened = none)
      (habsent : m.host.read path = .error (.os .noEntry) ∨ m.host.read path = .ok [])
      (hkey : ContainerEngine.deriveKey suite credential (ContainerEngine.newSalt moment credential)
        (ContainerEngine.newCost m.engine.config credential) = .ok key)
      (hsave : (ContainerEngine.newContainer m.engine.config moment path credential key).persist
        suite moment m.host = .ok host) :
      Admits suite moment m path credential
        (ContainerEngine.newContainer m.engine.config moment path credential key) host
  /-- None is open, and the file consists of a header and a ciphertext.  The header names the kind
  of the credential, the key comes from what the header says, the ciphertext is authentic together
  with the bytes of the header, and its payload is a tree. -/
  | unlocked {headerBytes ciphertext payload : Bytes} {header : Header} {key : ContainerKey}
      {nonce : Nonce} {tree : Tree} (hclosed : m.engine.opened = none)
      (hread : m.host.read path = .ok (Frame.layOut headerBytes ciphertext))
      (hlength : headerBytes.length < UInt32.size)
      (hheader : Header.decode headerBytes = some header)
      (hkind : header.credential = credential.kind)
      (hkey : ContainerEngine.deriveKey suite credential header.salt header.cost = .ok key)
      (hnonce : Nonce.ofBytes? header.nonce = some nonce)
      (hauthentic : suite.decrypt key nonce headerBytes ciphertext = some payload)
      (htree : Tree.decode payload = some tree) :
      Admits suite moment m path credential
        ⟨path, header.credential, header.salt, header.cost, key, tree, none, false⟩ m.host

variable {suite : CipherSuite} {moment : Moment} {thread : Thread} {m m' : Machine} {path : String}
  {credential : Credential} {c : OpenContainer} {host : Host}

/-- Where a container is open, it is shared or nobody is admitted. -/
lemma admits_iff_join {opened : OpenContainer} (hopen : m.engine.opened = some opened) :
    m.Admits suite moment path credential c host
      ↔ ContainerEngine.join suite opened path credential = .ok () ∧ c = opened
        ∧ host = m.host := by
  rw [ContainerEngine.join_eq_ok]
  constructor
  · intro h
    cases h with
    | shared hfound hpath hkind hkey =>
        obtain rfl := Option.some.inj (hopen.symm.trans hfound)
        exact ⟨⟨hpath, hkind, hkey⟩, rfl, rfl⟩
    | created hclosed | unlocked hclosed =>
        rw [hopen] at hclosed
        cases hclosed
  · rintro ⟨⟨hpath, hkind, hkey⟩, rfl, rfl⟩
    exact .shared hopen hpath hkind hkey

/-- Where none is open, one is opened or nobody is admitted. -/
lemma admits_iff_unlock (hclosed : m.engine.opened = none) :
    m.Admits suite moment path credential c host
      ↔ ContainerEngine.unlock suite m.engine.config moment m.host path credential
        = .ok (c, host) := by
  constructor
  · intro h
    cases h with
    | shared hopen =>
        rw [hclosed] at hopen
        cases hopen
    | created _ habsent hkey hsave =>
        refine bind_eq_ok.2 ⟨none, mapError_eq_ok.2 (Frame.read_eq_none.2 habsent), ?_⟩
        exact ContainerEngine.create_eq_ok.2 ⟨_, hkey, hsave, rfl⟩
    | unlocked _ hread hlength hheader hkind hkey hnonce hauthentic htree =>
        have hframe := Frame.read_eq_some.2
          ⟨_, hread, Frame.parse_layOut hlength hheader (Frame.nonce_eq_ok.2 hnonce)⟩
        refine bind_eq_ok.2 ⟨some _, mapError_eq_ok.2 hframe, ?_⟩
        refine bind_eq_ok.2 ⟨_, ContainerEngine.unlockFrame_eq_ok.2 ?_, rfl⟩
        exact ⟨hkind, _, _, _, _, hkey, hnonce, hauthentic, htree, rfl⟩
  · intro h
    obtain ⟨found, hfound, h⟩ := bind_eq_ok.1 h
    rw [mapError_eq_ok] at hfound
    cases found with
    | none =>
        obtain ⟨key, hkey, hsave, rfl⟩ := ContainerEngine.create_eq_ok.1 h
        exact .created hclosed (Frame.read_eq_none.1 hfound) hkey hsave
    | some frame =>
        obtain ⟨opened, hopened, h⟩ := bind_eq_ok.1 h
        obtain ⟨rfl, rfl⟩ := Prod.mk.inj (Except.ok.inj h)
        obtain ⟨content, hread, hparse⟩ := Frame.read_eq_some.1 hfound
        obtain ⟨rfl, hlength, hheader, -⟩ := Frame.parse_ok hparse
        obtain ⟨hkind, key, nonce, payload, tree, hkey, hnonce, hauthentic, htree, rfl⟩ :=
          ContainerEngine.unlockFrame_eq_ok.1 hopened
        exact .unlocked hclosed hread hlength hheader hkind hkey hnonce hauthentic htree

/-- Whoever is admitted gets the next handle, for the container that is open then. -/
lemma openContainer_eq_ok {given : String} {handle : Handle} :
    m.openContainer suite moment thread given credential = .ok (handle, m')
      ↔ ∃ c host, m.Admits suite moment (HostPath.absoluteOrSelf given) credential c host
        ∧ handle = (m.engine.registry.issue thread).1
        ∧ m' = ⟨{ m.engine with
            registry := (m.engine.registry.issue thread).2, opened := some c }, host⟩ := by
  cases hopen : m.engine.opened with
  | some opened =>
      simp only [admits_iff_join hopen, openContainer, hopen]
      constructor
      · intro h
        obtain ⟨_, hjoin, h⟩ := bind_eq_ok.1 h
        obtain ⟨rfl, rfl⟩ := Prod.mk.inj (Except.ok.inj h)
        exact ⟨opened, m.host, ⟨hjoin, rfl, rfl⟩, rfl, rfl⟩
      · rintro ⟨_, _, ⟨hjoin, rfl, rfl⟩, rfl, rfl⟩
        exact bind_eq_ok.2 ⟨(), hjoin, rfl⟩
  | none =>
      simp only [admits_iff_unlock hopen, openContainer, hopen]
      constructor
      · intro h
        obtain ⟨⟨c, host⟩, hunlock, h⟩ := bind_eq_ok.1 h
        obtain ⟨rfl, rfl⟩ := Prod.mk.inj (Except.ok.inj h)
        exact ⟨c, host, hunlock, rfl, rfl⟩
      · rintro ⟨c, host, hunlock, rfl, rfl⟩
        exact bind_eq_ok.2 ⟨(c, host), hunlock, rfl⟩

/-- A handle is given out to those who are admitted, and to nobody else.  Where none is given out,
the machine is as it was: the handles that were given out before, the open container with its tree,
its pending writes and its transaction, and the files of the host. -/
theorem handle_iff_admits (suite : CipherSuite) (moment : Moment) (thread : Thread) (m : Machine)
    (given : String) (credential : Credential) :
    (∀ (handle : Handle) (m' : Machine),
      m.answer suite moment thread (.openContainer given credential) = (some handle, m')
        ↔ ∃ c host, m.Admits suite moment (HostPath.absoluteOrSelf given) credential c host
          ∧ handle = (m.engine.registry.issue thread).1
          ∧ m' = ⟨{ m.engine with
              registry := (m.engine.registry.issue thread).2, opened := some c }, host⟩)
      ∧ ∀ m' : Machine,
        m.answer suite moment thread (.openContainer given credential)
          = ((none : Option Handle), m') → m' = m := by
  constructor
  · intro handle m'
    rw [← openContainer_eq_ok]
    refine ⟨openContainer_of_answer, fun h => ?_⟩
    simp only [answer, h]
    rfl
  · intro m' h
    cases ho : m.openContainer suite moment thread given credential with
    | error e =>
        simp only [answer, ho] at h
        exact (Prod.mk.inj h).2.symm
    | ok result =>
        simp only [answer, ho] at h
        cases h

/-- A new container, which turns another key away and is shared under its own. -/
theorem admits_after_refusal :
    let moment : Moment := ⟨⟨.epoch, 0, 0⟩, [], .ofNat 0, none⟩
    let own : Credential := .key (List.replicate 32 0)
    let other : Credential := .key (List.replicate 32 1)
    ∃ (start m m' : Machine) (first second : Handle) (c : OpenContainer),
      start.answer .standard moment mainThread (.openContainer "/box" own) = (some first, m)
      ∧ start.Admits .standard moment "/box" own c m.host ∧ m.engine.opened = some c
      ∧ m.answer .standard moment mainThread (.openContainer "/box" other)
        = ((none : Option Handle), m)
      ∧ m.answer .standard moment mainThread (.openContainer "/box" own) = (some second, m')
      ∧ m.Admits .standard moment "/box" own c m'.host ∧ m'.engine.opened = some c := by
  intro moment own other
  have hpath : HostPath.absoluteOrSelf "/box" = "/box" := by decide +kernel
  let reply (m : Machine) (credential : Credential) : Option Handle :=
    (m.answer .standard moment mainThread (.openContainer "/box" credential)).1
  suffices h : ∃ start m : Machine,
      m = (start.answer .standard moment mainThread (.openContainer "/box" own)).2
      ∧ (reply start own).isSome = true ∧ (reply m other).isNone = true
      ∧ (reply m own).isSome = true by
    obtain ⟨start, _, rfl, hmade, hrefused, hshared⟩ := h
    obtain ⟨first, hmade⟩ := Option.isSome_iff_exists.1 hmade
    obtain ⟨second, hshared⟩ := Option.isSome_iff_exists.1 hshared
    rw [Option.isNone_iff_eq_none] at hrefused
    obtain ⟨c, host, hcreated, -, hm⟩ :=
      ((handle_iff_admits .standard moment mainThread start "/box" own).1 first _).1
        (Prod.ext hmade rfl)
    have hsame := (handle_iff_admits .standard moment mainThread _ "/box" other).2 _
      (Prod.ext hrefused rfl)
    obtain ⟨c', host', hadmits, -, hafter⟩ :=
      ((handle_iff_admits .standard moment mainThread _ "/box" own).1 second _).1
        (Prod.ext hshared rfl)
    have hopen := congrArg (fun m : Machine => m.engine.opened) hm
    obtain ⟨-, rfl, rfl⟩ := (admits_iff_join hopen).1 hadmits
    rw [hpath] at hcreated hadmits
    refine ⟨start, _, _, first, second, c', Prod.ext hmade rfl, ?_, hopen,
      Prod.ext hrefused hsame, Prod.ext hshared rfl, ?_, ?_⟩
    · exact hm ▸ hcreated
    · exact hafter ▸ hadmits
    · exact congrArg (fun m : Machine => m.engine.opened) hafter
  exact ⟨⟨.ofConfig .standard, .bare ⟨4096, 0, 0, 0, 0, 255⟩ "/"⟩, _, rfl, by decide +kernel,
    by decide +kernel, by decide +kernel⟩

end Machine

end Strongbox
