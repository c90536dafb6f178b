import Strongbox.Proofs.Engine.Admission
import Strongbox.Proofs.Engine.Saving

/-!
# Container files that were tampered with

Of a container file only the header and the payload are authenticated.  The magic and the length in
front of the header are not, but there is one way only to lay out a header and a ciphertext, so a
file of other bytes has another header or another ciphertext.  A header that is merely spelled
differently, with a space more or its fields in another order, is another header.

* `CipherSuite.Unforgeable` — a file cannot be decrypted under a key unless it was sealed under it.
* `OpenContainer.Seals` — what a save seals.
* **`Machine.refused_of_tampered`** — from a file of other bytes no container is opened.
-/

namespace Strongbox

/-- A message that was sealed, with the nonce and the authenticated data that it was sealed with. -/
structure Sealing where
  nonce : Nonce
  aad : Bytes
  message : Bytes

/-- If the ciphertext of a file can be decrypted under a key, it was sealed under it, with the nonce
and the header that the file gives. -/
def CipherSuite.Unforgeable (suite : CipherSuite) (key : ContainerKey)
    (wasSealed : Sealing → Prop) (frame : Frame) : Prop :=
  ∀ {nonce message}, Frame.nonce frame.header = .ok nonce →
    suite.decrypt key nonce frame.headerBytes frame.ciphertext = some message →
    ∃ plain, wasSealed ⟨nonce, frame.headerBytes, plain⟩
      ∧ suite.encrypt key nonce frame.headerBytes plain = some frame.ciphertext

/-- A file that cannot be decrypted is no forgery. -/
lemma CipherSuite.unforgeable_of_decrypt {suite : CipherSuite} {key : ContainerKey}
    {wasSealed : Sealing → Prop} {frame : Frame} {nonce : Nonce}
    (hnonce : Frame.nonce frame.header = .ok nonce)
    (h : suite.decrypt key nonce frame.headerBytes frame.ciphertext = none) :
    suite.Unforgeable key wasSealed frame := by
  intro nonce' message hnonce' hopens
  obtain rfl : nonce = nonce' := Except.ok.inj (hnonce.symm.trans hnonce')
  cases h.symm.trans hopens

/-- A file is no forgery for the suite in use if it differs from one that can be decrypted in the
last byte only. -/
lemma CipherSuite.unforgeable_of_last {key : ContainerKey} {wasSealed : Sealing → Prop}
    {header : Header} {headerBytes front message : Bytes} {last last' : UInt8} {nonce : Nonce}
    (hnonce : Frame.nonce header = .ok nonce)
    (h : standard.decrypt key nonce headerBytes (front ++ [last]) = some message)
    (hother : last' ≠ last) :
    standard.Unforgeable key wasSealed ⟨header, headerBytes, front ++ [last']⟩ :=
  unforgeable_of_decrypt hnonce
    (Option.eq_none_iff_forall_ne_some.2 fun _ h' => hother (Gcm.last_of_decrypt h' h))

/-- A raw key is the key of every file, whatever stands in the header. -/
lemma ContainerEngine.deriveKey_raw (suite : CipherSuite) (key : ContainerKey)
    (salt : Option Bytes) (cost : Option Scrypt.Params) :
    deriveKey suite (.key key.bytes) salt cost = .ok key := by
  rw [deriveKey, ContainerKey.ofRaw, dif_pos key.length_eq]
  rfl

namespace OpenContainer

variable {suite : CipherSuite} {moment : Moment} {host host' : Host} {c : OpenContainer}
  {payload ciphertext : Bytes}

/-- A save seals one message: the payload of the tree, under the nonce of the moment and with the
header that names this nonce. -/
def Seals (moment : Moment) (c : OpenContainer) (s : Sealing) : Prop :=
  s.nonce = moment.nonce ∧ s.aad = (c.header moment.nonce).encode
    ∧ c.tree.encode = some s.message

/-- A save puts the payload of the tree at the path of the container, sealed behind the header. -/
lemma replaceFile_of_persist (h : c.persist suite moment host = .ok host') :
    ∃ payload ciphertext, c.tree.encode = some payload
      ∧ suite.encrypt c.key moment.nonce (c.header moment.nonce).encode payload = some ciphertext
      ∧ host.replaceFile c.path (Frame.layOut (c.header moment.nonce).encode ciphertext)
        = .ok host' := by
  obtain ⟨payload, ciphertext, hpayload, hencrypt, hwrite⟩ := persist_ok h
  exact ⟨payload, ciphertext, hpayload, hencrypt, (Frame.write_ok hwrite).2⟩

/-- A header and a ciphertext that can be decrypted under the key of a container are those of its
file. -/
lemma layOut_eq_of_decrypt {frame : Frame} {nonce : Nonce} {message : Bytes}
    (hforge : suite.Unforgeable c.key (c.Seals moment) frame)
    (hpayload : c.tree.encode = some payload)
    (hencrypt : suite.encrypt c.key moment.nonce (c.header moment.nonce).encode payload
      = some ciphertext)
    (hnonce : Frame.nonce frame.header = .ok nonce)
    (h : suite.decrypt c.key nonce frame.headerBytes frame.ciphertext = some message) :
    Frame.layOut frame.headerBytes frame.ciphertext
      = Frame.layOut (c.header moment.nonce).encode ciphertext := by
  obtain ⟨plain, ⟨hsame, haad, hplain⟩, hsealed⟩ := hforge hnonce h
  obtain rfl : nonce = moment.nonce := hsame
  obtain rfl := Option.some.inj (hpayload.symm.trans hplain)
  have hheader : frame.headerBytes = (c.header moment.nonce).encode := haad
  rw [hheader] at hsealed ⊢
  rw [Option.some.inj (hsealed.symm.trans hencrypt)]

end OpenContainer

namespace Machine

variable {suite : CipherSuite} {moment : Moment} {host host' : Host} {c : OpenContainer}
  {payload ciphertext : Bytes}

/-- Nobody is admitted to a file that is not empty and was tampered with. -/
lemma not_admits_of_tampered (hpayload : c.tree.encode = some payload)
    (hencrypt : suite.encrypt c.key moment.nonce (c.header moment.nonce).encode payload
      = some ciphertext) {m : Machine} {path : String} {credential : Credential}
    {tampered : Bytes} (hclosed : m.engine.opened = none)
    (hread : m.host.read path = .ok tampered) (hempty : tampered ≠ [])
    (hother : tampered ≠ Frame.layOut (c.header moment.nonce).encode ciphertext)
    (hforge : ∀ {frame}, Frame.parse tampered = .ok frame →
      suite.Unforgeable c.key (c.Seals moment) frame)
    (hkey : ∀ {frame key}, Frame.parse tampered = .ok frame →
      ContainerEngine.deriveKey suite credential frame.header.salt frame.header.cost = .ok key →
      key = c.key) {moment' : Moment} {found : OpenContainer} {after : Host} :
    ¬ m.Admits suite moment' path credential found after := by
  intro h
  cases h with
  | shared hopen =>
      rw [hclosed] at hopen
      cases hopen
  | created _ habsent =>
      rw [hread] at habsent
      rcases habsent with habsent | habsent
      · cases habsent
      · exact hempty (Except.ok.inj habsent)
  | @unlocked headerBytes sealed _ header _ _ _ _ hcontent hlength hheader _ hderive hnonce
      hauthentic =>
      obtain rfl := Except.ok.inj (hread.symm.trans hcontent)
      have hnonce := Frame.nonce_eq_ok.2 hnonce
      have hparse : Frame.parse (Frame.layOut headerBytes sealed)
          = .ok ⟨header, headerBytes, sealed⟩ := Frame.parse_layOut hlength hheader hnonce
      obtain rfl := hkey hparse hderive
      have hsame := OpenContainer.layOut_eq_of_decrypt (hforge hparse) hpayload hencrypt hnonce
        hauthentic
      exact hother hsame

/-- A save writes a file, and nobody who has the key of the container can open any other file with
it, if that file is no forgery.  This is so however the bytes of the other file came about, as long
as there are any: an empty file is no container yet. -/
theorem refused_of_tampered (hsave : c.persist suite moment host = .ok host') :
    ∃ file, host.replaceFile c.path file = .ok host' ∧ (c.Placed → host'.read c.path = .ok file)
      ∧ ∀ {m : Machine} {given credential tampered}, m.engine.opened = none →
        m.host.read (HostPath.absoluteOrSelf given) = .ok tampered → tampered ≠ [] →
        tampered ≠ file →
        (∀ {frame}, Frame.parse tampered = .ok frame →
          suite.Unforgeable c.key (c.Seals moment) frame) →
        (∀ {frame key}, Frame.parse tampered = .ok frame →
          ContainerEngine.deriveKey suite credential frame.header.salt frame.header.cost = .ok key →
          key = c.key) →
        ∀ moment' thread, m.answer suite moment' thread (.openContainer given credential)
          = ((none : Option Handle), m) := by
  obtain ⟨payload, ciphertext, hpayload, hencrypt, hreplace⟩ :=
    OpenContainer.replaceFile_of_persist hsave
  refine ⟨_, hreplace, fun hplaced =>
    Host.read_replaceFile hplaced.cleaned hplaced.short hreplace, ?_⟩
  intro m given credential tampered hclosed hread hempty hother hforge hkey moment' thread
  cases ho : m.openContainer suite moment' thread given credential with
  | error e =>
      simp only [answer, ho]
      rfl
  | ok result =>
      obtain ⟨c', host, hadmits, -⟩ := openContainer_eq_ok.1 ho
      exact absurd hadmits (not_admits_of_tampered hpayload hencrypt hclosed hread hempty hother
        hforge hkey)

/-- The file of an empty container under a raw key, with one bit of its last byte flipped. -/
theorem refused_after_flip :
    let moment : Moment := ⟨⟨.epoch, 0, 0⟩, [], .ofNat 0, none⟩
    let c : OpenContainer :=
      ⟨"/box", .key, none, none, ⟨List.replicate 32 9, rfl⟩, .empty moment.stamp, none, false⟩
    ∃ (host host' : Host) (front : Bytes) (last : UInt8) (frame : Frame) (m : Machine),
      c.persist .standard moment host = .ok host' ∧ host'.read "/box" = .ok (front ++ [last])
        ∧ Frame.parse (front ++ [last ^^^ 1]) = .ok frame
        ∧ CipherSuite.standard.Unforgeable c.key (c.Seals moment) frame
        ∧ m.host.read "/box" = .ok (front ++ [last ^^^ 1])
        ∧ m.answer .standard moment mainThread (.openContainer "/box" (.key c.key.bytes))
          = ((none : Option Handle), m) := by
  intro moment c
  have habsolute : HostPath.absolute "/box" = .ok "/box" := by decide +kernel
  have hpath : HostPath.absoluteOrSelf "/box" = "/box" := by decide +kernel
  have hplaced : c.Placed := ⟨HostPath.cleaned_of_absolute habsolute, by decide +kernel⟩
  -- the host puts files at the path, since it has done so once
  obtain ⟨host, hhost⟩ : ∃ host, (Host.bare ⟨4096, 0, 0, 0, 0, 255⟩ "/").replaceFile "/box" []
      = .ok host := exists_of_isOk (by decide +kernel)
  have htakes : host.Takes c.path := Host.takes_of_replaceFile hhost
  have hthrough : c.LetThrough moment := by decide +kernel
  have htree : CipherSuite.standard.Takes c.tree := by decide +kernel
  obtain ⟨host', hsave, htakes'⟩ := OpenContainer.exists_persist htree hthrough htakes
  obtain ⟨file, hreplace, hfile, hrefused⟩ := refused_of_tampered hsave
  obtain ⟨payload, ciphertext, hpayload, hencrypt, hwritten⟩ :=
    OpenContainer.replaceFile_of_persist hsave
  obtain rfl : Frame.layOut (c.header moment.nonce).encode ciphertext = file := Except.ok.inj
    ((Host.read_replaceFile hplaced.cleaned hplaced.short hwritten).symm.trans (hfile hplaced))
  have hopens := CipherSuite.lawful_standard.decrypt_encrypt hencrypt
  obtain ⟨front, last, rfl⟩ : ∃ front last, ciphertext = front ++ [last] :=
    ⟨_, _, (List.dropLast_append_getLast (Gcm.ne_nil_of_decrypt hopens)).symm⟩
  have hflip : last ^^^ 1 ≠ last := fun hsame =>
    absurd ((UInt8.xor_right_inj last).1 (hsame.trans UInt8.xor_zero.symm)) (by decide)
  have hnonce : Frame.nonce (c.header moment.nonce) = .ok moment.nonce :=
    Frame.nonce_eq_ok.2 moment.nonce.ofBytes?_bytes
  have hheader : Header.decode (c.header moment.nonce).encode = some (c.header moment.nonce) := by
    decide +kernel
  have hparse : Frame.parse (Frame.layOut (c.header moment.nonce).encode (front ++ [last ^^^ 1]))
      = .ok ⟨c.header moment.nonce, (c.header moment.nonce).encode, front ++ [last ^^^ 1]⟩ :=
    Frame.parse_layOut (by decide +kernel) hheader hnonce
  have hforge : CipherSuite.standard.Unforgeable c.key (c.Seals moment)
      ⟨c.header moment.nonce, (c.header moment.nonce).encode, front ++ [last ^^^ 1]⟩ :=
    CipherSuite.unforgeable_of_last hnonce hopens hflip
  have hlayOut (b : UInt8) : Frame.layOut (c.header moment.nonce).encode (front ++ [b])
      = Frame.layOut (c.header moment.nonce).encode front ++ [b] :=
    (List.append_assoc _ _ _).symm
  rw [hlayOut] at hfile hrefused hparse
  obtain ⟨after, hafter⟩ := htakes' (Frame.layOut (c.header moment.nonce).encode front
    ++ [last ^^^ 1])
  have hread := Host.read_replaceFile hplaced.cleaned hplaced.short hafter
  refine ⟨host, host', _, last, _, ⟨.ofConfig .standard, after⟩, hsave, hfile hplaced, hparse,
    hforge, hread, ?_⟩
  have hother : Frame.layOut (c.header moment.nonce).encode front ++ [last ^^^ 1]
      ≠ Frame.layOut (c.header moment.nonce).encode front ++ [last] := fun hsame =>
    hflip (List.singleton_inj.1 (List.append_cancel_left hsame))
  refine hrefused rfl (hpath.symm ▸ hread) (List.cons_ne_nil _ _) hother ?_ ?_ moment mainThread
  · intro found hfound
    obtain rfl := Except.ok.inj (hparse.symm.trans hfound)
    exact hforge
  · intro frame key hframe hkey
    rw [ContainerEngine.deriveKey_raw] at hkey
    exact (Except.ok.inj hkey).symm

end Machine

end Strongbox
