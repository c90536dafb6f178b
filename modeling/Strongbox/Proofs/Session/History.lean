import Strongbox.Engine.Recording
import Strongbox.Proofs.Session.Entry

/-!
# What an engine is asked for

A session is used by any calls, on any engine, and then dropped.  The engine may answer as it likes.
Every request is noted down together with the session that made it.

* `held` — the handle that was given out last, unless it was given back.
* `Note.InPlace` — what may be asked for, by the handle that is held.
* `Orderly` — every request of a log is in place, and handles are given out and back in turn.
* `Orderly.snoc` — one more request keeps a log orderly, if it is in place.
* `Session.Kept.passage` — every call makes requests that are in place, and the marker of the session
  is the handle that is held after it.
* **`Session.orderly_of_history`** — the log of a session is orderly up to its drop, and then nothing
  is held.
-/

namespace Strongbox

/-! ## Logs -/

/-- A credential that may be shown to an engine: a password that is not blank, or a key of the right
length. -/
def Credential.Usable : Credential → Prop
  | .password text => ∃ c ∈ text.toList, Text.isBlank c = false
  | .key bytes => bytes.length = 32

lemma Credential.usable_of_validate {credential : Credential} (h : credential.validate = .ok ()) :
    credential.Usable := by
  cases credential with
  | password text =>
      change validatePassword text = .ok () at h
      unfold validatePassword Text.allBlank at h
      split at h
      · cases h
      · next hblank => simpa [Usable] using hblank
  | key bytes =>
      change validateKeyLength bytes.length = .ok () at h
      unfold validateKeyLength at h
      split at h
      · assumption
      · cases h

/-- What an exchange does with a handle. -/
inductive HandleMove where
  | given (handle : Handle)
  | back (handle : Handle)
  deriving DecidableEq

def Exchange.move? : Exchange → Option HandleMove
  | ⟨.openContainer _ _, reply⟩ => Option.map HandleMove.given reply
  | ⟨.closeHandle handle, _⟩ => some (.back handle)
  | _ => none

/-- An exchange, with the session at the beginning of the call that it belongs to. -/
structure Note where
  session : Session
  exchange : Exchange

/-- What a log says about handles. -/
def handleMoves (log : List Note) : List HandleMove :=
  log.filterMap fun note => note.exchange.move?

/-- The handle that is held after a log, if the last one to be moved was given out. -/
def held (log : List Note) : Option Handle :=
  match (handleMoves log).getLast? with
  | some (.given handle) => some handle
  | _ => none

/-- What may be asked for, by the handle that is held.  A credential is shown only if there is none,
by a session that is not mounted and for the path that was set; the handle is all that can be given
back; and everything else needs it as the marker of the session. -/
def Note.InPlace (holding : Option Handle) (note : Note) : Prop :=
  match note.exchange.request with
  | .openContainer path credential =>
    holding = none ∧ note.session.marker = none ∧ note.session.containerPath = some path
      ∧ credential.Usable
  | .closeHandle handle => holding = some handle
  | _ => ∃ marker, holding = some marker ∧ note.session.marker = some marker

/-- A log whose requests are all in place. -/
structure Orderly (log : List Note) : Prop where
  /-- Every handle is given back before the next one is given out. -/
  paired : ∃ handles : List Handle, handleMoves log
    = (handles.flatMap fun handle => [.given handle, .back handle])
      ++ (held log).toList.map .given
  inPlace : ∀ {before note}, before ++ [note] <+: log → note.InPlace (held before)

variable {log : List Note} {note : Note} {handle : Handle}

lemma handleMoves_snoc :
    handleMoves (log ++ [note]) = handleMoves log ++ note.exchange.move?.toList := by
  unfold handleMoves
  rw [List.filterMap_append]
  cases h : note.exchange.move? <;> simp [h]

lemma held_given (h : note.exchange.move? = some (.given handle)) :
    held (log ++ [note]) = some handle := by
  unfold held
  rw [handleMoves_snoc, h]
  simp

lemma held_back (h : note.exchange.move? = some (.back handle)) : held (log ++ [note]) = none := by
  unfold held
  rw [handleMoves_snoc, h]
  simp

lemma held_still (h : note.exchange.move? = none) : held (log ++ [note]) = held log := by
  unfold held
  rw [handleMoves_snoc, h]
  simp

/-- A handle is given out only if none is held. -/
lemma Note.InPlace.of_given {holding : Option Handle} (h : note.InPlace holding)
    (hmove : note.exchange.move? = some (.given handle)) : holding = none := by
  obtain ⟨s, request, reply⟩ := note
  cases request with
  | openContainer path credential => exact h.1
  | _ => cases hmove

/-- Only the handle that is held is given back. -/
lemma Note.InPlace.of_back {holding : Option Handle} (h : note.InPlace holding)
    (hmove : note.exchange.move? = some (.back handle)) : holding = some handle := by
  obtain ⟨s, request, reply⟩ := note
  cases request with
  | openContainer path credential => cases reply <;> cases hmove
  | closeHandle handle' =>
      cases hmove
      exact h
  | _ => cases hmove

lemma Orderly.nil : Orderly [] := by
  refine ⟨⟨[], rfl⟩, fun {before note} h => ?_⟩
  rw [List.prefix_nil, List.append_eq_nil_iff] at h
  cases h.2

/-- One more request keeps a log orderly, if it is in place. -/
lemma Orderly.snoc (h : Orderly log) (hnote : note.InPlace (held log)) :
    Orderly (log ++ [note]) := by
  obtain ⟨⟨handles, hpaired⟩, hplaced⟩ := h
  refine ⟨?_, fun {before note'} hprefix => ?_⟩
  · rw [handleMoves_snoc, hpaired]
    rcases hmove : note.exchange.move? with _ | ⟨handle | handle⟩
    · refine ⟨handles, ?_⟩
      rw [held_still hmove, Option.toList_none, List.append_nil]
    · refine ⟨handles, ?_⟩
      rw [held_given hmove, hnote.of_given hmove]
      simp
    · refine ⟨handles ++ [handle], ?_⟩
      rw [held_back hmove, hnote.of_back hmove]
      simp
  · obtain hlast | hbefore := List.prefix_concat_iff.1 hprefix
    · obtain ⟨rfl, hsame⟩ := List.append_inj' hlast rfl
      cases hsame
      exact hnote
    · exact hplaced hbefore

/-! Work moves no handle, and it is in place while the marker is held. -/

lemma Exchange.move?_of_isWork {exchange : Exchange} (h : exchange.request.isWork = true) :
    exchange.move? = none := by
  obtain ⟨request, reply⟩ := exchange
  cases request with
  | openContainer path credential => cases h
  | closeHandle handle => cases h
  | _ => rfl

lemma Note.inPlace_of_isWork (h : note.exchange.request.isWork = true)
    (hmarker : note.session.marker = some handle) : note.InPlace (some handle) := by
  obtain ⟨s, request, reply⟩ := note
  cases request with
  | openContainer path credential => cases h
  | closeHandle handle => cases h
  | _ => exact ⟨handle, rfl, hmarker⟩

/-! ## Histories -/

namespace Session

/-- The notes of the requests that one call makes. -/
def notes (s : Session) (exchanges : List Exchange) : List Note :=
  exchanges.map (Note.mk s)

variable {s s' : Session} {exchanges : List Exchange}

/-- What is kept of a log: it is orderly, and a certain handle is held after it. -/
structure Kept (log : List Note) (holding : Option Handle) : Prop where
  orderly : Orderly log
  held_eq : held log = holding

lemma Kept.opened (hkept : Kept log none) {path : String} {credential : Credential}
    (hmarker : s.marker = none) (hpath : s.containerPath = some path)
    (hvalid : credential.validate = .ok ()) (reply : Option Handle) :
    Kept (log ++ [⟨s, .openContainer path credential, reply⟩]) reply := by
  refine ⟨hkept.orderly.snoc ?_, ?_⟩
  · exact ⟨hkept.held_eq, hmarker, hpath, Credential.usable_of_validate hvalid⟩
  · cases reply with
    | none => exact (held_still rfl).trans hkept.held_eq
    | some handle => exact held_given rfl

lemma Kept.closed (hkept : Kept log (some handle)) :
    Kept (log ++ [⟨s, .closeHandle handle, ()⟩]) none :=
  ⟨hkept.orderly.snoc hkept.held_eq, held_back rfl⟩

lemma Kept.worked (hkept : Kept log s.marker)
    (h : ∀ exchange ∈ exchanges, s.isMounted = true ∧ exchange.request.isWork = true) :
    Kept (log ++ s.notes exchanges) s.marker := by
  induction exchanges generalizing log with
  | nil =>
      rw [notes, List.map_nil, List.append_nil]
      exact hkept
  | cons exchange rest ih =>
      obtain ⟨⟨hmounted, hwork⟩, hrest⟩ := List.forall_mem_cons.1 h
      obtain ⟨marker, hmarker⟩ := Option.isSome_iff_exists.1 hmounted
      rw [notes, List.map_cons, List.append_cons]
      refine ih ⟨hkept.orderly.snoc ?_, ?_⟩ hrest
      · rw [hkept.held_eq, hmarker]
        exact Note.inPlace_of_isWork hwork hmarker
      · rw [held_still (Exchange.move?_of_isWork hwork), hkept.held_eq]

lemma Kept.counted (hkept : Kept log s.marker) (hmarker : s.marker = some handle) {count : Nat} :
    Kept (log ++ s.notes [⟨.instanceCount, count⟩]) s.marker := by
  refine hkept.worked fun exchange hmem => ⟨isMounted_of_some hmarker, ?_⟩
  rw [List.mem_singleton.1 hmem]
  rfl

/-- However a call passes, the marker of the session is the handle that is held after it. -/
lemma Kept.passage (hkept : Kept log s.marker) (h : Passage s exchanges s') :
    Kept (log ++ s.notes exchanges) s'.marker := by
  cases h with
  | worked h => exact hkept.worked h
  | lifecycle h =>
      cases h with
      | refused | absent =>
          rw [notes, List.map_nil, List.append_nil]
          exact hkept
      | located resolved hmarker =>
          rw [notes, List.map_nil, List.append_nil]
          exact hkept
      | rejected hcall hmarker hpath hvalid =>
          rw [hmarker] at hkept ⊢
          exact hkept.opened hmarker hpath hvalid none
      | created hmarker hpath hvalid =>
          rw [hmarker] at hkept ⊢
          rw [notes, List.map_cons, List.append_cons]
          exact (hkept.opened hmarker hpath hvalid (some _)).closed
      | mounted hmarker hpath hvalid =>
          rw [hmarker] at hkept
          exact hkept.opened hmarker hpath hvalid (some _)
      | busy hmarker hcount => exact hkept.counted hmarker
      | unmounted hmarker hcount =>
          rw [notes, List.map_cons, List.append_cons]
          exact Kept.closed (hmarker ▸ hkept.counted hmarker)

/-- What can become of a session that starts without a container.  Each call may find the engine in
any state, since others can use it or the host in between. -/
inductive History {σ : Type} (engine : StorageEngine σ) : Session → List Note → Prop
  | start : History engine blank []
  | call {s : Session} {log : List Note} (h : History engine s log) (thread : Thread) (state : σ)
      (entry : Entry) :
      History engine ((entry.script s).run engine thread state).1
        (log ++ s.notes ((entry.script s).exchanges engine thread state))

variable {σ : Type} {engine : StorageEngine σ}

lemma Kept.of_history (h : History engine s log) : Kept log s.marker := by
  induction h with
  | start => exact ⟨.nil, rfl⟩
  | @call s log _ thread state entry ih => exact ih.passage (entry.passage engine thread s state)

/-! ## Without a container -/

/-- The handle that a caller is left with after closing it, be it closed or not. -/
def closing (s : Session) (handle : PathHandle) : Script PathHandle := do
  match ← (s.close handle).run with
  | .ok closed => return closed
  | .error _ => return handle

/-- What a session does while nothing is mounted.  None of it depends on an engine, since nothing is
asked for. -/
structure Refuses (s : Session) : Prop where
  operation : ∀ asked : Operation,
    (asked.perform s).run = .done (.error (.illegalState (.notMounted asked.name)))
  unmount : Session.unmount.run.run s = .done (.error (.illegalState .nothingMounted), s)
  /-- A handle keeps what it says about being valid. -/
  handle : ∀ handle : PathHandle, s.closing handle = .done handle
  /-- So does the handle of a stream. -/
  stream : ∀ (f : FileStream) (use : FileStream.Use), ∃ outcome position,
    (use.perform s).run.run f = .done (outcome, { f with position := position })

lemma refuses (h : s.isMounted = false) : s.Refuses := by
  have hoperation : ∀ asked : Operation,
      (asked.perform s).run = .done (.error (.illegalState (.notMounted asked.name))) :=
    fun asked => congrArg ExceptT.run (asked.refused h)
  refine ⟨hoperation, ?_, fun handle => ?_, fun f use => use.idle h f⟩
  · obtain ⟨path, marker⟩ := s
    obtain rfl := Option.not_isSome_iff_eq_none.1 (Bool.eq_false_iff.1 h)
    rfl
  · have hclose : (s.close handle).run = _ := hoperation (.close handle)
    rw [closing, hclose]
    rfl

/-- Whatever calls are made, and however the engine answers them: by the end of the session every
handle was given back, once and before the next one, and no request was out of place.  While nothing
is mounted, operations are refused. -/
theorem orderly_of_history (h : History engine s log) (thread : Thread) (state : σ) :
    let whole := log ++ s.notes (s.drop.exchanges engine thread state)
    (∃ handles : List Handle,
        handleMoves whole = handles.flatMap fun handle => [.given handle, .back handle])
      ∧ (∀ before note, before ++ [note] <+: whole → note.InPlace (held before))
      ∧ (s.isMounted = false → s.Refuses) := by
  intro whole
  have hkept : Kept whole none := by
    have hlog := Kept.of_history h
    cases hmarker : s.marker with
    | none =>
        have hwhole : whole = log := by
          show log ++ s.notes (s.drop.exchanges engine thread state) = log
          rw [drop, hmarker]
          exact List.append_nil log
        rw [hwhole]
        exact hmarker ▸ hlog
    | some marker =>
        have hwhole : whole = log ++ [⟨s, .closeHandle marker, ()⟩] := by
          show log ++ s.notes (s.drop.exchanges engine thread state) = _
          rw [drop, hmarker]
          rfl
        rw [hwhole]
        exact Kept.closed (hmarker ▸ hlog)
  obtain ⟨⟨⟨handles, hpaired⟩, hplaced⟩, hheld⟩ := hkept
  refine ⟨⟨handles, ?_⟩, fun before note => hplaced, refuses⟩
  rw [hpaired, hheld]
  exact List.append_nil _

/-- A session that creates its container, mounts it, makes a directory and is dropped. -/
theorem orderly_after_drop :
    let recording := Recording.onHost
      ((Host.bare ⟨4096, 0, 0, 0, 0, 255⟩ "/").put "/box" (.file 0o600 []))
    ∃ (s : Session) (log : List Note), History Recording.engine s log ∧ s.marker = some ⟨1⟩
      ∧ (log.map fun note => Recording.name note.exchange.request)
        = ["open_with_key", "close", "open_with_key", "mkdir"]
      ∧ ∃ handles : List Handle,
        handleMoves (log ++ s.notes (s.drop.exchanges Recording.engine mainThread recording))
          = handles.flatMap fun handle => [.given handle, .back handle] := by
  intro recording
  let key : Credential := .key (List.replicate 32 0)
  have located : History Recording.engine _ _ :=
    History.start.call mainThread recording (.lifecycle (.setPath "/box"))
  have created : History Recording.engine _ _ :=
    located.call mainThread recording (.lifecycle (.createContainer key))
  have mounted : History Recording.engine _ _ :=
    created.call mainThread recording (.lifecycle (.mount key))
  have made : History Recording.engine _ _ :=
    mounted.call mainThread recording (.operation (.mkdir "/d" 0o755))
  exact ⟨_, _, made, by decide +kernel, by decide +kernel,
    (orderly_of_history made mainThread recording).1⟩

end Session

end Strongbox
