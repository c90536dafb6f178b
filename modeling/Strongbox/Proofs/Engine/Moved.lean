import Strongbox.Proofs.Engine.Agreement
import Strongbox.Proofs.Engine.Due
import Strongbox.Proofs.Host.Reach

/-!
# Containers that differ only in their place

The same requests are made of two machines whose open containers are the same but for the path of
their files, on hosts that may have nothing else in common.  The path is read for one thing only,
which is to replace the file, and where each host replaces its file the machines cannot be told
apart.

* **`ContainerEngine.unlock_movedTo`** — a container is opened at both paths or at neither.
* `Machine.Moved` — a machine, and one with the same container at another path.
* **`Machine.Moved.answer`** — work is answered alike by both, and keeps them so.
* `Script.Mirrors` — two scripts that make the same requests and see nothing of the host.
* **`Script.Mirrors.run`** — they end alike on two such machines.
-/

namespace Strongbox

/-! ## Saving -/

/-- The container at another path. -/
def OpenContainer.movedTo (path : String) (c : OpenContainer) : OpenContainer :=
  { c with path := path }

namespace OpenContainer

variable {suite : CipherSuite} {moment : Moment} {host host' : Host} {c : OpenContainer}
  {path' : String}

/-- What has become of a container and its host, and of the same container at another path. -/
structure Moved (path path' : String) (done done' : Except Errno Unit × OpenContainer × Host) :
    Prop where
  outcome : done'.1 = done.1
  container : done'.2.1 = done.2.1.movedTo path'
  place : done.2.1.path = path
  takes : done.2.2.Takes path
  takes' : done'.2.2.Takes path'

/-- The content that a save puts at the path of the container, unless something else prevents it. -/
def toSave (suite : CipherSuite) (moment : Moment) (c : OpenContainer) :
    Except EngineError Bytes := do
  let some payload := c.tree.encode | .error .corrupt
  let headerBytes := (c.header moment.nonce).encode
  let ciphertext ← (suite.lock c.key moment.nonce headerBytes payload).mapError .crypto
  match moment.refusal with
  | some refusal => .error (.frame (.host refusal))
  | none =>
    if UInt32.size ≤ headerBytes.length then .error (.frame .headerTooLarge)
    else .ok (Frame.layOut headerBytes ciphertext)

/-- The path of a container decides on nothing but where its file is replaced. -/
lemma persist_eq (suite : CipherSuite) (moment : Moment) (host : Host) (c : OpenContainer) :
    c.persist suite moment host = c.toSave suite moment >>= fun content =>
      (host.replaceFile c.path content).mapError fun error => .frame (.host error) := by
  unfold persist toSave
  cases c.tree.encode with
  | none => rfl
  | some payload =>
      dsimp only
      cases suite.lock c.key moment.nonce (c.header moment.nonce).encode payload with
      | error error => rfl
      | ok ciphertext =>
          simp only [Except.mapError, bind, Except.bind, writeOut]
          cases moment.refusal with
          | some refusal => rfl
          | none =>
              by_cases hheader : UInt32.size ≤ (c.header moment.nonce).encode.length
              · simp only [Frame.write, if_pos hheader]
              · simp only [Frame.write, if_neg hheader]
                cases host.replaceFile c.path _ <;> rfl

/-- Whether a container can be saved does not depend on its place, if its file can be replaced. -/
lemma persist_movedTo (suite : CipherSuite) (moment : Moment) (h : host.Takes c.path)
    (h' : host'.Takes path') :
    (∃ saved saved', c.persist suite moment host = .ok saved
        ∧ (c.movedTo path').persist suite moment host' = .ok saved'
        ∧ saved.Takes c.path ∧ saved'.Takes path')
      ∨ ∃ e e', c.persist suite moment host = .error e
        ∧ (c.movedTo path').persist suite moment host' = .error e' := by
  rw [persist_eq, persist_eq, show (c.movedTo path').toSave suite moment = c.toSave suite moment
    from rfl]
  cases c.toSave suite moment with
  | error e => exact .inr ⟨e, e, rfl, rfl⟩
  | ok content =>
      obtain ⟨saved, hsaved⟩ := h content
      obtain ⟨saved', hsaved'⟩ := h' content
      refine .inl ⟨saved, saved', ?_, ?_, Host.takes_of_replaceFile hsaved,
        Host.takes_of_replaceFile hsaved'⟩
      · exact mapError_eq_ok.2 hsaved
      · exact mapError_eq_ok.2 hsaved'

lemma moved_save (suite : CipherSuite) (moment : Moment) (h : host.Takes c.path)
    (h' : host'.Takes path') :
    Moved c.path path' (c.save suite moment host) ((c.movedTo path').save suite moment host') := by
  obtain ⟨saved, saved', hsaved, hsaved', htakes, htakes'⟩ | ⟨e, e', hfails, hfails'⟩ :=
    persist_movedTo suite moment h h'
  · rw [save, save, hsaved, hsaved']
    exact ⟨rfl, rfl, rfl, htakes, htakes'⟩
  · rw [save, save, hfails, hfails']
    exact ⟨rfl, rfl, rfl, h, h'⟩

/-- What is left of a save that is undone where it fails. -/
def undoneTo (old : Tree) :
    Except Errno Unit × OpenContainer × Host → Except Errno Unit × OpenContainer × Host
  | (.ok (), saved, host) => (.ok (), saved, host)
  | (.error code, unsaved, host) => (.error code, { unsaved with tree := old }, host)

lemma Moved.undoneTo {path : String} {done done' : Except Errno Unit × OpenContainer × Host}
    (h : Moved path path' done done') (old : Tree) :
    Moved path path' (OpenContainer.undoneTo old done) (OpenContainer.undoneTo old done') := by
  obtain ⟨outcome, c, host⟩ := done
  obtain ⟨outcome', c', host'⟩ := done'
  obtain ⟨houtcome, hcontainer, hplace, htakes, htakes'⟩ := h
  obtain rfl : outcome' = outcome := houtcome
  obtain rfl : c' = c.movedTo path' := hcontainer
  cases outcome' with
  | ok => exact ⟨rfl, rfl, hplace, htakes, htakes'⟩
  | error code => exact ⟨rfl, rfl, hplace, htakes, htakes'⟩

/-- A change ends alike in both places. -/
lemma moved_change (suite : CipherSuite) (moment : Moment) (h : host.Takes c.path)
    (h' : host'.Takes path') (change : Change) :
    Moved c.path path' (c.change suite moment host change)
      ((c.movedTo path').change suite moment host' change) := by
  obtain ⟨path, credential, salt, cost, key, old, transaction, dirty⟩ := c
  simp only [OpenContainer.change, movedTo]
  rcases change.perform moment.stamp old with ⟨code | ⟨⟩, tree⟩
  · exact ⟨rfl, rfl, rfl, h, h'⟩
  · cases change.saving with
    | never | later => exact ⟨rfl, rfl, rfl, h, h'⟩
    | atOnce =>
        cases transaction with
        | some transaction => exact ⟨rfl, rfl, rfl, h, h'⟩
        | none =>
            exact (moved_save (c := ⟨path, credential, salt, cost, key, tree, none, dirty⟩) suite
              moment h h').undoneTo old

lemma moved_flush (suite : CipherSuite) (moment : Moment) (h : host.Takes c.path)
    (h' : host'.Takes path') :
    Moved c.path path' (c.flush suite moment host)
      ((c.movedTo path').flush suite moment host') := by
  unfold flush
  by_cases hpending : c.dirty = true ∧ c.transaction = none
  · rw [if_pos hpending, if_pos (show (c.movedTo path').dirty = true
      ∧ (c.movedTo path').transaction = none from hpending)]
    exact moved_save suite moment h h'
  · rw [if_neg hpending, if_neg (show ¬((c.movedTo path').dirty = true
      ∧ (c.movedTo path').transaction = none) from hpending)]
    exact ⟨rfl, rfl, rfl, h, h'⟩

lemma moved_commit (suite : CipherSuite) (moment : Moment) (h : host.Takes c.path)
    (h' : host'.Takes path') :
    Moved c.path path' (c.commit suite moment host)
      ((c.movedTo path').commit suite moment host') := by
  obtain ⟨path, credential, salt, cost, key, tree, transaction, dirty⟩ := c
  cases transaction with
  | none => exact ⟨rfl, rfl, rfl, h, h'⟩
  | some transaction =>
      obtain ⟨depth, snapshot⟩ := transaction
      simp only [commit, movedTo]
      split
      · exact ⟨rfl, rfl, rfl, h, h'⟩
      · exact (moved_save (c := ⟨path, credential, salt, cost, key, tree, none, dirty⟩) suite
          moment h h').undoneTo snapshot

lemma movedTo_begin (c : OpenContainer) (path : String) :
    (c.movedTo path).begin = c.begin.movedTo path := by
  obtain ⟨_, credential, salt, cost, key, tree, transaction, dirty⟩ := c
  cases transaction <;> rfl

lemma movedTo_rollback (c : OpenContainer) (path : String) :
    (c.movedTo path).rollback = c.rollback.movedTo path := by
  obtain ⟨_, credential, salt, cost, key, tree, transaction, dirty⟩ := c
  cases transaction <;> rfl

end OpenContainer

/-! ## Opening -/

namespace ContainerEngine

variable {suite : CipherSuite} {config : EngineConfig} {moment : Moment} {host host' : Host}
  {path path' : String} {credential : Credential}

/-- A container that is opened at one path is opened at another one, where the file has the same
content or there is none yet either. -/
lemma exists_unlock_movedTo {c : OpenContainer} {saved : Host}
    (hfile : Frame.read host' path' = Frame.read host path) (h : host.Takes path)
    (h' : host'.Takes path')
    (hunlock : unlock suite config moment host path credential = .ok (c, saved)) :
    c.path = path ∧ saved.Takes path
      ∧ ∃ saved', unlock suite config moment host' path' credential = .ok (c.movedTo path', saved')
        ∧ saved'.Takes path' := by
  obtain ⟨found, hfound, hunlock⟩ := bind_eq_ok.1 hunlock
  unfold unlock
  rw [hfile, hfound]
  cases found with
  | some frame =>
      obtain ⟨opened, hopened, hunlock⟩ := bind_eq_ok.1 hunlock
      cases hunlock
      obtain ⟨hkind, key, nonce, payload, tree, hkey, hnonce, hpayload, htree, rfl⟩ :=
        unlockFrame_eq_ok.1 hopened
      have hopened' : unlockFrame suite path' credential frame = .ok ⟨path',
          frame.header.credential, frame.header.salt, frame.header.cost, key, tree, none, false⟩ :=
        unlockFrame_eq_ok.2 ⟨hkind, key, nonce, payload, tree, hkey, hnonce, hpayload, htree, rfl⟩
      refine ⟨rfl, h, host', ?_, h'⟩
      simp only [bind, Except.bind, hopened']
      rfl
  | none =>
      obtain ⟨key, hkey, hsaved, rfl⟩ := create_eq_ok.1 hunlock
      obtain ⟨saved₁, saved', hsaved₁, hsaved', htakes, htakes'⟩ | ⟨e, e', hfails, -⟩ :=
        OpenContainer.persist_movedTo
          (c := newContainer config moment path credential key) suite moment h h'
      · rw [hsaved] at hsaved₁
        cases hsaved₁
        exact ⟨rfl, htakes, saved', create_eq_ok.2 ⟨key, hkey, hsaved', rfl⟩, htakes'⟩
      · rw [hsaved] at hfails
        cases hfails

/-- Whether a container can be opened does not depend on its path either. -/
theorem unlock_movedTo (suite : CipherSuite) (config : EngineConfig) (moment : Moment)
    (credential : Credential) (hfile : Frame.read host' path' = Frame.read host path)
    (h : host.Takes path) (h' : host'.Takes path') :
    (∃ c saved saved', unlock suite config moment host path credential = .ok (c, saved)
        ∧ unlock suite config moment host' path' credential = .ok (c.movedTo path', saved')
        ∧ c.path = path ∧ saved.Takes path ∧ saved'.Takes path')
      ∨ ∃ e e', unlock suite config moment host path credential = .error e
        ∧ unlock suite config moment host' path' credential = .error e' := by
  cases hunlock : unlock suite config moment host path credential with
  | ok opened =>
      obtain ⟨hpath, htakes, saved', hunlock', htakes'⟩ :=
        exists_unlock_movedTo hfile h h' hunlock
      exact .inl ⟨opened.1, opened.2, saved', rfl, hunlock', hpath, htakes, htakes'⟩
  | error e =>
      cases hunlock' : unlock suite config moment host' path' credential with
      | ok opened =>
          obtain ⟨-, -, saved, hopens, -⟩ := exists_unlock_movedTo hfile.symm h' h hunlock'
          rw [hunlock] at hopens
          cases hopens
      | error e' => exact .inr ⟨e, e', rfl, rfl⟩

end ContainerEngine

/-! ## Machines -/

namespace Machine

variable {suite : CipherSuite} {moment : Moment} {thread : Thread} {m m' : Machine}
  {path path' : String}

/-- Two machines whose open containers are the same, but lie at two paths, with hosts that replace
the files there. -/
structure Moved (path path' : String) (m m' : Machine) : Prop where
  registry : m'.engine.registry = m.engine.registry
  opened : ∃ c, c.path = path ∧ m.engine.opened = some c
    ∧ m'.engine.opened = some (c.movedTo path')
  takes : m.host.Takes path
  takes' : m'.host.Takes path'

namespace Moved

lemma extent (h : Moved path path' m m') : m'.extent = m.extent := by
  obtain ⟨c, -, hopen, hopen'⟩ := h.opened
  rw [Machine.extent, Machine.extent, hopen, hopen']
  rfl

/-- A look at a path shows the same in both. -/
lemma inspectPath {α : Type} (h : Moved path path' m m') (thread : Thread) (entry : String)
    (look : Tree → String → Except Errno α) :
    (m'.inspectPath thread entry look).1 = (m.inspectPath thread entry look).1
      ∧ Moved path path' (m.inspectPath thread entry look).2
        (m'.inspectPath thread entry look).2 := by
  obtain ⟨c, hpath, hopen, hopen'⟩ := h.opened
  rw [Machine.inspectPath, Machine.inspectPath]
  cases Key.normalize entry with
  | error code => exact ⟨rfl, h⟩
  | ok key =>
      simp only [inspect, hopen, hopen']
      refine ⟨rfl, ?_, ⟨c, hpath, hopen, hopen'⟩, h.takes, h.takes'⟩
      exact congrArg (·.touch thread) h.registry

/-- Work on both ends alike. -/
lemma update (h : Moved path path' m m') (thread : Thread)
    {work : OpenContainer → Host → Except Errno Unit × OpenContainer × Host}
    (hwork : ∀ c host host', c.path = path → host.Takes path → host'.Takes path' →
      OpenContainer.Moved path path' (work c host) (work (c.movedTo path') host')) :
    (m'.update thread work).1 = (m.update thread work).1
      ∧ Moved path path' (m.update thread work).2 (m'.update thread work).2 := by
  obtain ⟨c, hpath, hopen, hopen'⟩ := h.opened
  obtain ⟨houtcome, hcontainer, hplace, htakes, htakes'⟩ :=
    hwork c m.host m'.host hpath h.takes h.takes'
  rw [update_of_opened hopen, update_of_opened hopen']
  refine ⟨houtcome, congrArg (·.touch thread) h.registry, ⟨_, hplace, rfl, ?_⟩, htakes, htakes'⟩
  exact congrArg some hcontainer

lemma change (h : Moved path path' m m') (suite : CipherSuite) (moment : Moment)
    (thread : Thread) (asked : Change) :
    (m'.change suite moment thread asked).1 = (m.change suite moment thread asked).1
      ∧ Moved path path' (m.change suite moment thread asked).2
        (m'.change suite moment thread asked).2 := by
  rw [Machine.change, Machine.change]
  cases asked.resolve with
  | error code => exact ⟨rfl, h⟩
  | ok resolved =>
      refine h.update thread fun c host host' hpath htakes htakes' => ?_
      subst hpath
      exact OpenContainer.moved_change suite moment htakes htakes' resolved

lemma fsync (h : Moved path path' m m') (suite : CipherSuite) (moment : Moment)
    (thread : Thread) (entry : String) :
    (m'.fsync suite moment thread entry).1 = (m.fsync suite moment thread entry).1
      ∧ Moved path path' (m.fsync suite moment thread entry).2
        (m'.fsync suite moment thread entry).2 := by
  rw [Machine.fsync, Machine.fsync]
  cases Key.normalize entry with
  | error code => exact ⟨rfl, h⟩
  | ok key =>
      refine h.update thread fun c host host' hpath htakes htakes' => ?_
      subst hpath
      show OpenContainer.Moved _ _ _ (if c.tree.contains key then _ else _)
      split
      · exact OpenContainer.moved_flush suite moment htakes htakes'
      · exact ⟨rfl, rfl, rfl, htakes, htakes'⟩

lemma begin (h : Moved path path' m m') (thread : Thread) :
    (m'.update thread fun c host => (.ok (), c.begin, host)).1
        = (m.update thread fun c host => (.ok (), c.begin, host)).1
      ∧ Moved path path' (m.update thread fun c host => (.ok (), c.begin, host)).2
        (m'.update thread fun c host => (.ok (), c.begin, host)).2 :=
  h.update thread fun c _ _ hpath htakes htakes' =>
    ⟨rfl, c.movedTo_begin path', (OpenContainer.sameFile_begin c).path.trans hpath, htakes, htakes'⟩

lemma complete (h : Moved path path' m m') (suite : CipherSuite) (moment : Moment)
    (thread : Thread) (keep : Bool) :
    (m'.complete suite moment thread keep).1 = (m.complete suite moment thread keep).1
      ∧ Moved path path' (m.complete suite moment thread keep).2
        (m'.complete suite moment thread keep).2 := by
  refine h.update thread fun c host host' hpath htakes htakes' => ?_
  subst hpath
  cases keep with
  | true => exact OpenContainer.moved_commit suite moment htakes htakes'
  | false =>
      show OpenContainer.Moved _ _ _ (if c.transaction.isNone then _ else _)
      rw [OpenContainer.movedTo_rollback, if_neg Bool.false_ne_true]
      split
      · exact ⟨rfl, rfl, rfl, htakes, htakes'⟩
      · exact ⟨rfl, rfl, (OpenContainer.sameFile_rollback c).path, htakes, htakes'⟩

/-- Work is answered alike by both, and leaves them alike. -/
theorem answer (h : Moved path path' m m') {request : Request} (hwork : request.isWork = true)
    (suite : CipherSuite) (moment : Moment) (thread : Thread) :
    (m'.answer suite moment thread request).1 = (m.answer suite moment thread request).1
      ∧ Moved path path' (m.answer suite moment thread request).2
        (m'.answer suite moment thread request).2 := by
  cases request with
  | openContainer | closeHandle => cases hwork
  | instanceCount => exact ⟨congrArg Registry.count h.registry, h⟩
  | read entry count offset =>
      obtain ⟨hsame, hmoved⟩ := h.inspectPath thread entry
        fun tree key => tree.read key count offset
      rw [Machine.answer, Machine.answer, shown_snd, shown_snd]
      exact ⟨shown_fst _ _ hsame, hmoved⟩
  | getattr entry =>
      obtain ⟨hsame, hmoved⟩ := h.inspectPath thread entry Tree.getattr
      rw [Machine.answer, Machine.answer, shown_snd, shown_snd]
      exact ⟨shown_fst _ _ hsame, hmoved⟩
  | readdir entry =>
      obtain ⟨hsame, hmoved⟩ := h.inspectPath thread entry Tree.readdir
      rw [Machine.answer, Machine.answer, shown_snd, shown_snd]
      exact ⟨shown_fst _ _ hsame, hmoved⟩
  | access entry mode =>
      obtain ⟨hsame, hmoved⟩ := h.inspectPath thread entry fun tree key => tree.access key mode
      exact ⟨coded_fst 0 hsame, hmoved⟩
  | isDir entry =>
      obtain ⟨hsame, hmoved⟩ := h.inspectPath thread entry fun tree key => .ok (tree.isDir key)
      rw [answer_isDir, answer_isDir, hsame]
      exact ⟨rfl, hmoved⟩
  | change asked =>
      obtain ⟨hsame, hmoved⟩ := h.change suite moment thread asked
      exact ⟨coded_fst asked.taken hsame, hmoved⟩
  | fsync entry =>
      obtain ⟨hsame, hmoved⟩ := h.fsync suite moment thread entry
      exact ⟨coded_fst 0 hsame, hmoved⟩
  | beginTransaction =>
      obtain ⟨hsame, hmoved⟩ := h.begin thread
      exact ⟨coded_fst 0 hsame, hmoved⟩
  | completeTransaction keep =>
      obtain ⟨hsame, hmoved⟩ := h.complete suite moment thread keep
      exact ⟨coded_fst 0 hsame, hmoved⟩

end Moved

end Machine

/-! ## Scripts -/

/-- Two points of time at which the open containers lie at two paths. -/
structure Timeline.Moved (path path' : String) (line line' : Timeline) : Prop where
  machine : Machine.Moved path path' line.machine line'.machine
  moments : line'.moments = line.moments
  calls : line'.calls = line.calls

namespace Script

variable {α β : Type} {R : α → Prop} {S : β → Prop} {script script' : Script α}

/-- Two scripts make the same requests, whatever they are answered, and end with the same value, of
which something is known.  Of what they see from outside only the extent matters. -/
inductive Mirrors (R : α → Prop) : Script α → Script α → Prop
  | done {value : α} (hvalue : R value) : Mirrors R (.done value) (.done value)
  | ask {request : Request} {next next' : request.Reply → Script α}
      (hnext : ∀ reply, Mirrors R (next reply) (next' reply)) :
      Mirrors R (.ask request next) (.ask request next')
  | look {next next' : View → Script α}
      (hnext : ∀ view view', view'.extent = view.extent → Mirrors R (next view) (next' view')) :
      Mirrors R (.look next) (.look next')

lemma Mirrors.bind {f f' : α → Script β} (h : script.Mirrors R script')
    (hf : ∀ value, R value → (f value).Mirrors S (f' value)) :
    (script >>= f).Mirrors S (script' >>= f') := by
  induction h with
  | done hvalue => exact hf _ hvalue
  | ask _ ih => exact .ask ih
  | look _ ih => exact .look ih

/-- Scripts that mirror each other end alike where the open containers lie at two paths. -/
theorem Mirrors.run (h : script.Mirrors R script')
    (hwork : script.Only fun asked => asked.isWork = true) {path path' : String}
    {line line' : Timeline} (hline : line.Moved path path' line') (suite : CipherSuite)
    (thread : Thread) :
    R (script.run (Timeline.engine suite) thread line).1
      ∧ (script'.run (Timeline.engine suite) thread line').1
        = (script.run (Timeline.engine suite) thread line).1
      ∧ (script.run (Timeline.engine suite) thread line).2.Moved path path'
        (script'.run (Timeline.engine suite) thread line').2 := by
  induction h generalizing line line' with
  | done hvalue => exact ⟨hvalue, rfl, hline⟩
  | @ask request next next' _ ih =>
      obtain ⟨hsame, hmoved⟩ := hline.machine.answer hwork.1 suite (line.moments line.calls) thread
      have hmoment : line'.moments line'.calls = line.moments line.calls := by
        rw [hline.moments, hline.calls]
      simp only [Script.run, Timeline.engine, hmoment, hsame]
      exact ih _ (hwork.2 _) ⟨hmoved, hline.moments, congrArg (· + 1) hline.calls⟩
  | look _ ih => exact ih _ _ hline.machine.extent (hwork _) hline

end Script

end Strongbox
