import Strongbox.Engine.Container
import Strongbox.Proofs.Cipher.Sealing
import Strongbox.Proofs.Container.Frame
import Strongbox.Proofs.Tree.Payload

/-!
# What a container file seals

A container file can be opened by whoever has the key of its container, and then gives a tree.  This
is the tree that is left if the engine ends without another save.

* `OpenContainer.sealedTree` — the tree that the file of an open container gives.
* `OpenContainer.Fits` — the numbers of a container are those of machine words.
* `OpenContainer.Placed` — the container lies at a path under which a file can be found again.
* **`OpenContainer.sealedTree_of_persist`** — after a save the file gives the tree in memory.
* `ContainerEngine.unlockFrame_eq_ok`, `ContainerEngine.create_eq_ok` — when a container is taken
  from its file or made, and which one.
* `ContainerEngine.unlock_ok` — a container that was opened has its tree sealed in its file.
-/

namespace Strongbox

lemma Nonce.ofBytes?_bytes (nonce : Nonce) : Nonce.ofBytes? nonce.bytes = some nonce :=
  dif_pos nonce.length_eq

lemma Frame.nonce_eq_ok {header : Header} {n : Nonce} :
    Frame.nonce header = .ok n ↔ Nonce.ofBytes? header.nonce = some n := by
  rw [Frame.nonce]
  cases Nonce.ofBytes? header.nonce <;> simp

lemma CipherSuite.unlock_eq_ok {suite : CipherSuite} {key : ContainerKey} {nonce : Nonce}
    {aad sealed message : Bytes} :
    suite.unlock key nonce aad sealed = .ok message
      ↔ suite.decrypt key nonce aad sealed = some message := by
  rw [CipherSuite.unlock]
  cases suite.decrypt key nonce aad sealed <;> simp

namespace OpenContainer

variable {suite : CipherSuite} {moment : Moment} {host host' : Host} {c c' : OpenContainer}

/-- The tree that is sealed in the container file, as anyone with the key would read it. -/
def sealedTree (suite : CipherSuite) (host : Host) (c : OpenContainer) : Option Tree :=
  match Frame.read host c.path with
  | .ok (some frame) => do
    let nonce ← Nonce.ofBytes? frame.header.nonce
    let payload ← suite.decrypt c.key nonce frame.headerBytes frame.ciphertext
    Tree.decode payload
  | _ => none

/-- The numbers of a container are kept in machine words: those of its tree, those of the tree that
a transaction would go back to, the depth of the transaction, and its cost parameters. -/
structure Fits (c : OpenContainer) : Prop where
  tree : c.tree.Storable
  snapshot : ∀ {transaction : Transaction}, c.transaction = some transaction →
    transaction.snapshot.Storable
  depth : ∀ {transaction : Transaction}, c.transaction = some transaction →
    transaction.depth < UInt32.size
  cost : ∀ {cost : Scrypt.Params}, c.cost = some cost → cost.Storable

instance (c : OpenContainer) : Decidable c.Fits :=
  decidable_of_iff (c.tree.Storable
      ∧ (∀ transaction ∈ c.transaction,
        transaction.snapshot.Storable ∧ transaction.depth < UInt32.size)
      ∧ ∀ cost ∈ c.cost, cost.Storable)
    ⟨fun ⟨htree, hinside, hcost⟩ =>
        ⟨htree, fun h => (hinside _ h).1, fun h => (hinside _ h).2, hcost _⟩,
      fun h => ⟨h.tree, fun _ ht => ⟨h.snapshot ht, h.depth ht⟩, fun _ => h.cost⟩⟩

/-- The path of a container is one that the host can follow to a file. -/
structure Placed (c : OpenContainer) : Prop where
  cleaned : HostPath.Cleaned c.path
  short : c.path.utf8ByteSize ≤ Host.pathLimit

/-! ## Reading -/

/-- A container file is read at one place. -/
lemma read_congr {path : String} (h : host'.read path = host.read path) :
    Frame.read host' path = Frame.read host path := by
  rw [Frame.read, h, Frame.read]

/-- Which tree is sealed depends on the content of the file, and of the container only on its path
and its key. -/
lemma sealedTree_congr (hpath : c'.path = c.path) (hkey : c'.key = c.key)
    (hread : host'.read c.path = host.read c.path) :
    c'.sealedTree suite host' = c.sealedTree suite host := by
  rw [sealedTree, hpath, hkey, read_congr hread, sealedTree]

/-- A tree is sealed only in a file that can be read. -/
lemma read_of_sealedTree {tree : Tree} (h : c.sealedTree suite host = some tree) :
    ∃ content, host.read c.path = .ok content := by
  cases hread : host.read c.path with
  | ok content => exact ⟨content, rfl⟩
  | error e =>
      rw [sealedTree, Frame.read, hread] at h
      cases e with
      | os code => by_cases hcode : code = .noEntry <;> simp [hcode] at h
      | nulInPath | emptyPath => cases h

/-! ## Writing -/

lemma writeOut_ok {ciphertext : Bytes} (h : c.writeOut moment host ciphertext = .ok host') :
    Frame.write host c.path (c.header moment.nonce).encode ciphertext = .ok host' := by
  rw [writeOut] at h
  split at h
  · cases h
  · exact h

/-- A save writes the tree, encrypted under the header that stands before it. -/
lemma persist_ok (h : c.persist suite moment host = .ok host') :
    ∃ payload ciphertext, c.tree.encode = some payload
      ∧ suite.encrypt c.key moment.nonce (c.header moment.nonce).encode payload = some ciphertext
      ∧ Frame.write host c.path (c.header moment.nonce).encode ciphertext = .ok host' := by
  unfold persist at h
  split at h
  · next payload hpayload =>
      obtain ⟨ciphertext, hlock, hwrite⟩ := bind_eq_ok.1 h
      exact ⟨payload, ciphertext, hpayload, CipherSuite.lock_eq_ok.1 (mapError_eq_ok.1 hlock),
        writeOut_ok (mapError_eq_ok.1 hwrite)⟩
  · cases h

/-- A save is read back from the container file, with the header of the container. -/
lemma read_of_persist (hplaced : c.Placed)
    (hcost : ∀ {cost : Scrypt.Params}, c.cost = some cost → cost.Storable)
    (h : c.persist suite moment host = .ok host') :
    ∃ payload ciphertext, c.tree.encode = some payload
      ∧ suite.encrypt c.key moment.nonce (c.header moment.nonce).encode payload = some ciphertext
      ∧ Frame.read host' c.path = .ok (some ⟨c.header moment.nonce,
        (c.header moment.nonce).encode, ciphertext⟩) := by
  obtain ⟨payload, ciphertext, hpayload, hencrypt, hwrite⟩ := persist_ok h
  have hheader : Header.decode (c.header moment.nonce).encode = some (c.header moment.nonce) :=
    Header.decode_of_encode fun cost => hcost
  exact ⟨payload, ciphertext, hpayload, hencrypt, Frame.read_write hplaced.cleaned hplaced.short
    hheader (Frame.nonce_eq_ok.2 moment.nonce.ofBytes?_bytes) hwrite⟩

/-- After a save the container file gives the tree in memory. -/
theorem sealedTree_of_persist (hsuite : suite.Lawful) (hplaced : c.Placed)
    (htree : c.tree.Storable) (hcost : ∀ {cost : Scrypt.Params}, c.cost = some cost → cost.Storable)
    (h : c.persist suite moment host = .ok host') : c.sealedTree suite host' = some c.tree := by
  obtain ⟨payload, ciphertext, hpayload, hencrypt, hframe⟩ := read_of_persist hplaced hcost h
  have hnonce : Nonce.ofBytes? (c.header moment.nonce).nonce = some moment.nonce :=
    moment.nonce.ofBytes?_bytes
  simp only [sealedTree, hframe, hnonce, hsuite.decrypt_encrypt hencrypt, Option.bind_eq_bind,
    Option.bind_some]
  exact Tree.decode_of_encode htree hpayload

end OpenContainer

/-! ## Opening -/

namespace ContainerEngine

variable {suite : CipherSuite} {config : EngineConfig} {moment : Moment} {host host' : Host}
  {given path : String} {credential : Credential} {c : OpenContainer} {frame : Frame}

lemma requireKind_eq_ok {expected actual : CredentialKind} :
    requireKind expected actual = .ok () ↔ expected = actual := by
  unfold requireKind
  split <;> simp_all

/-- A container is taken from its file after the kind of the credential, the key, the nonce, the
authenticity of the payload and its form have been checked. -/
lemma unlockFrame_eq_ok : unlockFrame suite path credential frame = .ok c
    ↔ frame.header.credential = credential.kind ∧ ∃ key nonce payload tree,
      deriveKey suite credential frame.header.salt frame.header.cost = .ok key
        ∧ Nonce.ofBytes? frame.header.nonce = some nonce
        ∧ suite.decrypt key nonce frame.headerBytes frame.ciphertext = some payload
        ∧ Tree.decode payload = some tree
        ∧ c = ⟨path, frame.header.credential, frame.header.salt, frame.header.cost, key, tree, none,
          false⟩ := by
  constructor
  · intro h
    obtain ⟨_, hkind, h⟩ := bind_eq_ok.1 h
    obtain ⟨key, hkey, h⟩ := bind_eq_ok.1 h
    obtain ⟨nonce, hnonce, h⟩ := bind_eq_ok.1 h
    obtain ⟨payload, hpayload, h⟩ := bind_eq_ok.1 h
    rw [mapError_eq_ok, Frame.nonce_eq_ok] at hnonce
    rw [mapError_eq_ok, CipherSuite.unlock_eq_ok] at hpayload
    split at h
    · next tree htree =>
        obtain rfl := Except.ok.inj h
        exact ⟨requireKind_eq_ok.1 hkind, key, nonce, payload, tree, hkey, hnonce, hpayload, htree,
          rfl⟩
    · cases h
  · rintro ⟨hkind, key, nonce, payload, tree, hkey, hnonce, hpayload, htree, rfl⟩
    refine bind_eq_ok.2 ⟨(), requireKind_eq_ok.2 hkind, bind_eq_ok.2 ⟨key, hkey, ?_⟩⟩
    refine bind_eq_ok.2 ⟨nonce, mapError_eq_ok.2 (Frame.nonce_eq_ok.2 hnonce), ?_⟩
    refine bind_eq_ok.2 ⟨payload, mapError_eq_ok.2 (CipherSuite.unlock_eq_ok.2 hpayload), ?_⟩
    rw [htree]

/-- A container that is taken from its file has the tree that the file gives. -/
lemma unlockFrame_ok (hframe : Frame.read host path = .ok (some frame))
    (h : unlockFrame suite path credential frame = .ok c) :
    c.path = path ∧ c.transaction = none ∧ c.dirty = false
      ∧ c.sealedTree suite host = some c.tree := by
  obtain ⟨-, key, nonce, payload, tree, -, hnonce, hpayload, htree, rfl⟩ := unlockFrame_eq_ok.1 h
  refine ⟨rfl, rfl, rfl, ?_⟩
  simp only [OpenContainer.sealedTree, hframe, hnonce, hpayload, htree, Option.bind_eq_bind,
    Option.bind_some]

/-- The salt of a new container, for which only a password has a use. -/
def newSalt (moment : Moment) : Credential → Option Bytes
  | .password _ => some moment.salt
  | .key _ => none

/-- The cost parameters of a new container. -/
def newCost (config : EngineConfig) : Credential → Option Scrypt.Params
  | .password _ => some config.cost
  | .key _ => none

/-- A new container, with nothing in it. -/
def newContainer (config : EngineConfig) (moment : Moment) (path : String)
    (credential : Credential) (key : ContainerKey) : OpenContainer :=
  ⟨path, credential.kind, newSalt moment credential, newCost config credential, key,
    .empty moment.stamp, none, false⟩

/-- A container is made once it has a key and is in its file. -/
lemma create_eq_ok : create suite config moment host path credential = .ok (c, host')
    ↔ ∃ key, deriveKey suite credential (newSalt moment credential) (newCost config credential)
          = .ok key
        ∧ (newContainer config moment path credential key).persist suite moment host = .ok host'
        ∧ c = newContainer config moment path credential key := by
  have hcreate : create suite config moment host path credential
      = (deriveKey suite credential (newSalt moment credential) (newCost config credential)).bind
        fun key => ((newContainer config moment path credential key).persist suite moment host).bind
          fun saved => .ok (newContainer config moment path credential key, saved) := by
    cases credential <;> rfl
  rw [hcreate]
  constructor
  · intro h
    obtain ⟨key, hkey, h⟩ := bind_eq_ok.1 h
    obtain ⟨saved, hsave, h⟩ := bind_eq_ok.1 h
    obtain ⟨rfl, rfl⟩ := Prod.mk.inj (Except.ok.inj h)
    exact ⟨key, hkey, hsave, rfl⟩
  · rintro ⟨key, hkey, hsave, rfl⟩
    exact bind_eq_ok.2 ⟨key, hkey, bind_eq_ok.2 ⟨host', hsave, rfl⟩⟩

/-- A new container has no transaction, and its tree was saved. -/
lemma create_ok (h : create suite config moment host path credential = .ok (c, host')) :
    c.path = path ∧ c.transaction = none ∧ c.dirty = false
      ∧ c.persist suite moment host = .ok host' := by
  obtain ⟨key, -, hsave, rfl⟩ := create_eq_ok.1 h
  exact ⟨rfl, rfl, rfl, hsave⟩

/-- A path at which a file was looked for is no longer than the host allows. -/
lemma short_of_read {frame : Option Frame} (h : Frame.read host path = .ok frame)
    (hempty : path.isEmpty = false) : path.utf8ByteSize ≤ Host.pathLimit := by
  by_contra hlong
  rw [not_le] at hlong
  have hresolve : host.resolve path = .error .nulInPath
      ∨ host.resolve path = .error (.os .nameTooLong) := by
    rw [Host.resolve, hempty, if_neg Bool.false_ne_true, if_pos hlong]
    split
    · exact Or.inl rfl
    · exact Or.inr rfl
  rcases hresolve with hresolve | hresolve
  · rw [Frame.read, Host.read, Host.node, hresolve] at h
    cases h
  · rw [Frame.read, Host.read, Host.node, hresolve] at h
    cases h

/-- The container that is opened at a path has no transaction and nothing pending, and its tree is
the one that its file gives or was just saved. -/
lemma unlock_ok (h : unlock suite config moment host path credential = .ok (c, host')) :
    c.path = path ∧ c.transaction = none ∧ c.dirty = false
      ∧ (∃ frame, Frame.read host path = .ok frame)
      ∧ (host' = host ∧ c.sealedTree suite host = some c.tree
        ∨ c.persist suite moment host = .ok host') := by
  obtain ⟨found, hfound, h⟩ := bind_eq_ok.1 h
  rw [mapError_eq_ok] at hfound
  cases found with
  | some frame =>
      obtain ⟨opened, hopened, h⟩ := bind_eq_ok.1 h
      obtain ⟨rfl, rfl⟩ := Prod.mk.inj (Except.ok.inj h)
      obtain ⟨hpath, htransaction, hdirty, hsealed⟩ := unlockFrame_ok hfound hopened
      exact ⟨hpath, htransaction, hdirty, ⟨_, hfound⟩, Or.inl ⟨rfl, hsealed⟩⟩
  | none =>
      obtain ⟨hpath, htransaction, hdirty, hsaved⟩ := create_ok h
      exact ⟨hpath, htransaction, hdirty, ⟨_, hfound⟩, Or.inr hsaved⟩

/-- A tree that is sealed in the file already is the one that the container is opened with. -/
lemma eq_of_sealedTree (h : unlock suite config moment host path credential = .ok (c, host'))
    {before : Tree} (hbefore : c.sealedTree suite host = some before) : c.tree = before := by
  have hpath : c.path = path := (unlock_ok h).1
  obtain ⟨found, hfound, h⟩ := bind_eq_ok.1 h
  rw [mapError_eq_ok] at hfound
  cases found with
  | some frame =>
      obtain ⟨opened, hopened, h⟩ := bind_eq_ok.1 h
      obtain ⟨rfl, -⟩ := Prod.mk.inj (Except.ok.inj h)
      obtain ⟨-, -, -, hsealed⟩ := unlockFrame_ok hfound hopened
      exact Option.some.inj (hsealed.symm.trans hbefore)
  | none =>
      rw [OpenContainer.sealedTree, hpath, hfound] at hbefore
      cases hbefore

/-- A container is opened only where the host can find its file. -/
lemma placed_of_unlock (hpath : HostPath.absoluteOrSelf given = path)
    (h : unlock suite config moment host path credential = .ok (c, host')) : c.Placed := by
  obtain ⟨rfl, -, -, ⟨frame, hframe⟩, hsealed⟩ := unlock_ok h
  have hnonempty : c.path.isEmpty = false := by
    rcases hsealed with ⟨-, hsealed⟩ | hsaved
    · obtain ⟨content, hread⟩ := OpenContainer.read_of_sealedTree hsealed
      obtain ⟨node, hnode, -⟩ := bind_eq_ok.1 hread
      obtain ⟨key, hkey, -⟩ := bind_eq_ok.1 hnode
      exact (Host.resolve_ok hkey).2.1
    · obtain ⟨payload, ciphertext, -, -, hwrite⟩ := OpenContainer.persist_ok hsaved
      exact (Host.replaceFile_ok (Frame.write_ok hwrite).2).1
  refine ⟨?_, short_of_read hframe hnonempty⟩
  rw [HostPath.absoluteOrSelf] at hpath
  split at hpath
  · next cleaned habsolute => exact hpath ▸ HostPath.cleaned_of_absolute habsolute
  · next e habsolute =>
      rw [HostPath.absolute, hpath, hnonempty] at habsolute
      cases habsolute

end ContainerEngine

end Strongbox
