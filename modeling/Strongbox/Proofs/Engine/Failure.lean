import Strongbox.Engine.Machine
import Strongbox.Proofs.Engine.Container

/-!
# Calls that fail

A caller that gets a negative code back may take it that nothing has happened.

* `Request.code?` — the code in the reply to a request, if it has one.
* **`Machine.opened_of_negative`** — a request that is answered with a negative code leaves the open
  container and the host as they were.  Only the completion of a transaction is another matter.

A call can fail at a path, at any of the checks of an operation, and at a save that comes after the
tree was changed.  The first leaves the machine alone.  For the others the engine has to undo what
it did, which `change_error` and `flush_error` are about.
-/

namespace Strongbox

/-- The code in the reply to a request.  Replies without one cannot tell of a failure. -/
def Request.code? : (request : Request) → request.Reply → Option Int
  | .openContainer _ _, _ | .closeHandle _, _ | .instanceCount, _ | .isDir _, _ => none
  | .read _ _ _, reply => some reply.1
  | .getattr _, reply => some reply.1
  | .readdir _, reply => some reply.1
  | .change _, code | .fsync _, code | .access _ _, code | .beginTransaction, code
  | .completeTransaction _, code => some code

namespace Machine

variable {suite : CipherSuite} {moment : Moment} {thread : Thread} {m m' : Machine}

/-- The container of a machine and the host behind it, which a failed call must not touch. -/
def Untouched (m m' : Machine) : Prop :=
  m'.engine.opened = m.engine.opened ∧ m'.host = m.host

lemma Untouched.refl (m : Machine) : m.Untouched m := ⟨rfl, rfl⟩

/-! ## Looking -/

/-- Looking changes nothing, whatever is seen. -/
lemma inspect_untouched {α : Type} (look : Tree → Except Errno α) :
    m.Untouched (m.inspect thread look).2 := by
  unfold inspect
  split
  · exact .refl m
  · next c hc => exact ⟨hc.symm ▸ rfl, rfl⟩

lemma inspectPath_untouched {α : Type} (path : String) (look : Tree → String → Except Errno α) :
    m.Untouched (m.inspectPath thread path look).2 := by
  unfold inspectPath
  split
  · exact .refl m
  · exact inspect_untouched _

/-! ## Working -/

/-- Work on the open container gives the outcome, the container and the host it is left with. -/
lemma update_of_opened {c : OpenContainer} (hopen : m.engine.opened = some c)
    (work : OpenContainer → Host → Except Errno Unit × OpenContainer × Host) :
    m.update thread work
      = ((work c m.host).1, ⟨{ m.engine.touch thread with opened := some (work c m.host).2.1 },
          (work c m.host).2.2⟩) := by
  simp only [update, hopen]

/-- Work that leaves the container alone where it fails leaves the machine alone there. -/
lemma update_untouched {work : OpenContainer → Host → Except Errno Unit × OpenContainer × Host}
    (hwork : ∀ {c : OpenContainer} {code : Errno} {c' : OpenContainer} {host' : Host},
      work c m.host = (.error code, c', host') → c' = c ∧ host' = m.host)
    {code : Errno} (h : m.update thread work = (.error code, m')) : m.Untouched m' := by
  unfold update at h
  split at h
  · cases h
    exact .refl m
  · next c hc =>
      generalize hw : work c m.host = result at h
      obtain ⟨outcome, c', host'⟩ := result
      cases h
      obtain ⟨rfl, rfl⟩ := hwork hw
      exact ⟨hc.symm, rfl⟩

lemma change_untouched {change : Change} {code : Errno}
    (h : m.change suite moment thread change = (.error code, m')) : m.Untouched m' := by
  unfold Machine.change at h
  split at h
  · cases h
    exact .refl m
  · exact update_untouched (fun hw => OpenContainer.change_error hw) h

lemma fsync_untouched {path : String} {code : Errno}
    (h : m.fsync suite moment thread path = (.error code, m')) : m.Untouched m' := by
  unfold fsync at h
  split at h
  · cases h
    exact .refl m
  · refine update_untouched (fun {c code c' host'} hw => ?_) h
    split at hw
    · exact OpenContainer.flush_error hw
    · cases hw
      exact ⟨rfl, rfl⟩

/-- A transaction begins without fail once a container is open. -/
lemma begin_untouched {code : Errno}
    (h : (m.update thread fun c host => (.ok (), c.begin, host)) = (.error code, m')) :
    m.Untouched m' :=
  update_untouched (fun hw => by cases hw) h

/-! ## Codes -/

/-- A negative code tells of a failure. -/
lemma error_of_coded {value : Nat} {answer : Except Errno Unit × Machine}
    (h : (coded value answer).1 < 0) : ∃ code, answer.1 = .error code := by
  obtain ⟨outcome | outcome, m⟩ := answer
  · exact ⟨_, rfl⟩
  · exact absurd h (Int.not_lt.2 (Int.natCast_nonneg value))

lemma shown_snd {α : Type} (blank : α) (value : α → Nat) (answer : Except Errno α × Machine) :
    (shown blank value answer).2 = answer.2 := by
  unfold shown
  split <;> rfl

/-- A request that fails leaves the open container, with its tree, its pending writes and its
transaction, and the whole host as they were. -/
theorem opened_of_negative (suite : CipherSuite) (moment : Moment) (thread : Thread) (m : Machine)
    (request : Request) (hrequest : ∀ keep, request ≠ .completeTransaction keep) (code : Int)
    (hcode : request.code? (m.answer suite moment thread request).1 = some code) (hneg : code < 0) :
    (m.answer suite moment thread request).2.engine.opened = m.engine.opened
      ∧ (m.answer suite moment thread request).2.host = m.host := by
  cases request with
  | openContainer path credential | closeHandle handle | instanceCount | isDir path => cases hcode
  | completeTransaction keep => exact absurd rfl (hrequest keep)
  | read path count offset =>
      rw [answer, shown_snd]
      exact inspectPath_untouched path _
  | getattr path =>
      rw [answer, shown_snd]
      exact inspectPath_untouched path _
  | readdir path =>
      rw [answer, shown_snd]
      exact inspectPath_untouched path _
  | access path mode => exact inspectPath_untouched path _
  | change change =>
      obtain rfl := Option.some.inj hcode
      obtain ⟨code, h⟩ := error_of_coded hneg
      exact change_untouched (Prod.ext h rfl)
  | fsync path =>
      obtain rfl := Option.some.inj hcode
      obtain ⟨code, h⟩ := error_of_coded hneg
      exact fsync_untouched (Prod.ext h rfl)
  | beginTransaction =>
      obtain rfl := Option.some.inj hcode
      obtain ⟨code, h⟩ := error_of_coded hneg
      exact begin_untouched (Prod.ext h rfl)

/-- A new directory whose save the host refuses. -/
theorem opened_after_refused_mkdir :
    let stamp : Stamp := ⟨.epoch, 0, 0⟩
    let container : OpenContainer :=
      ⟨"/box", .key, none, none, ⟨List.replicate 32 0, rfl⟩, .empty stamp, none, false⟩
    let m : Machine := ⟨⟨.standard, .empty, some container⟩, .bare ⟨4096, 0, 0, 0, 0, 255⟩ "/"⟩
    let refused : Moment := ⟨stamp, [], .ofNat 0, some (.os .ioFailure)⟩
    let request : Request := .change (.mkdir "/a" 0o755)
    request.code? (m.answer .standard refused mainThread request).1 = some (-5)
      ∧ (m.answer .standard refused mainThread request).2.engine.opened = m.engine.opened
      ∧ (m.answer .standard refused mainThread request).2.host = m.host := by
  intro stamp container m refused request
  have hcode : request.code? (m.answer .standard refused mainThread request).1 = some (-5) := by
    decide +kernel
  exact ⟨hcode, opened_of_negative _ _ _ m request (fun _ => Request.noConfusion) (-5) hcode
    (by decide)⟩

end Machine

end Strongbox
