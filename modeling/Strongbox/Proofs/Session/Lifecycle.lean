import Strongbox.Proofs.Engine.Script
import Strongbox.Session

/-!
# The lifecycle of a session

The calls that may change a session, as data, and how each of them can end.

* `Session.Lifecycle` — the calls.
* `Session.Lifecycle.Outcome` — the requests of a call, its result and the session after it.
* **`Session.Lifecycle.ends`** — no call ends in any other way, whatever the engine answers.

A call is taken apart step by step, by one lemma for each kind of step.
-/

namespace Strongbox

namespace Session

/-! The marker is held exactly as long as a container is mounted. -/

lemma isMounted_of_some {s : Session} {marker : Handle} (h : s.marker = some marker) :
    s.isMounted = true := by
  rw [isMounted, h]
  rfl

lemma isMounted_of_none {s : Session} (h : s.marker = none) : s.isMounted = false := by
  rw [isMounted, h]
  rfl

/-- The calls that may change a session. -/
inductive Lifecycle where
  | setPath (path : String)
  | createContainer (credential : Credential)
  | mount (credential : Credential)
  | unmount

namespace Lifecycle

def perform : Lifecycle → SessionCall Unit
  | setPath path => Session.setPath path
  | createContainer credential => Session.createContainer credential
  | mount credential => Session.mount credential
  | unmount => Session.unmount

/-- How a call on a session can end: by which requests, with what result and in which session. -/
inductive Outcome (s : Session) :
    Lifecycle → List Exchange → Except Fault Unit → Session → Prop
  /-- Something is wrong before the engine is asked for anything. -/
  | refused {call : Lifecycle} {fault : Fault} (hcall : call ≠ unmount) :
      Outcome s call [] (.error fault) s
  | located {path : String} (resolved : String) (hmarker : s.marker = none) :
      Outcome s (setPath path) [] (.ok ()) { s with containerPath := some resolved }
  /-- The engine does not open the container. -/
  | rejected {call : Lifecycle} {fault : Fault} {path : String} {credential : Credential}
      (hcall : call ≠ unmount) (hmarker : s.marker = none) (hpath : s.containerPath = some path)
      (hvalid : credential.validate = .ok ()) :
      Outcome s call [⟨.openContainer path credential, none⟩] (.error fault) s
  | created {path : String} {credential : Credential} {handle : Handle} (hmarker : s.marker = none)
      (hpath : s.containerPath = some path) (hvalid : credential.validate = .ok ()) :
      Outcome s (createContainer credential)
        [⟨.openContainer path credential, some handle⟩, ⟨.closeHandle handle, ()⟩] (.ok ()) s
  | mounted {path : String} {credential : Credential} {handle : Handle} (hmarker : s.marker = none)
      (hpath : s.containerPath = some path) (hvalid : credential.validate = .ok ()) :
      Outcome s (mount credential) [⟨.openContainer path credential, some handle⟩] (.ok ())
        { s with marker := some handle }
  /-- There is nothing to unmount. -/
  | absent (hmarker : s.marker = none) :
      Outcome s unmount [] (.error (.illegalState .nothingMounted)) s
  /-- Others work with the container. -/
  | busy {marker : Handle} {count : Nat} (hmarker : s.marker = some marker) (hcount : 1 < count) :
      Outcome s unmount [⟨.instanceCount, count⟩]
        (.error (.illegalState (.threadsActive (count - 1)))) s
  | unmounted {marker : Handle} {count : Nat} (hmarker : s.marker = some marker)
      (hcount : count ≤ 1) :
      Outcome s unmount [⟨.instanceCount, count⟩, ⟨.closeHandle marker, ()⟩] (.ok ())
        { s with marker := none }

end Lifecycle

/-! ## Steps of a call -/

section

variable {α β : Type} {s : Session} {R : List Exchange → Except Fault β × Session → Prop}

lemma ends_get_bind {next : Session → SessionCall β} (h : ((next s).run.run s).Ends R) :
    ((get >>= next : SessionCall β).run.run s).Ends R :=
  h

/-- A check ends the call, or it lets the call go on. -/
lemma ends_ensure_bind {outcome : Except Fault α} {next : α → SessionCall β}
    (herror : ∀ fault, outcome = .error fault → R [] (.error fault, s))
    (hok : ∀ value, outcome = .ok value → ((next value).run.run s).Ends R) :
    ((ensure outcome >>= next).run.run s).Ends R := by
  cases outcome with
  | ok value => exact hok value rfl
  | error fault => exact herror fault rfl

lemma ends_host_bind {next : Host → SessionCall β}
    (h : ∀ host, ((next host).run.run s).Ends R) :
    ((within Call.host >>= next).run.run s).Ends R :=
  fun view => h view.host

lemma ends_request_bind {asked : Request} {next : asked.Reply → SessionCall β}
    (h : ∀ reply, ((next reply).run.run s).Ends fun rest => R (⟨asked, reply⟩ :: rest)) :
    ((within (Call.request asked) >>= next).run.run s).Ends R :=
  h

lemma marker_of_requireUnmounted {misuse : Misuse} {u : Unit}
    (h : s.requireUnmounted misuse = .ok u) : s.marker = none := by
  unfold requireUnmounted isMounted at h
  split at h
  · cases h
  · next hmarker => exact Option.not_isSome_iff_eq_none.1 hmarker

lemma path_of_configuredPath {path : String} (h : s.configuredPath = .ok path) :
    s.containerPath = some path := by
  unfold configuredPath at h
  split at h
  · next hpath => rw [hpath, Except.ok.inj h]
  · cases h

end

namespace Lifecycle

variable (s : Session)

/-- No call ends in any other way, whatever its requests are answered. -/
theorem ends (call : Lifecycle) :
    (call.perform.run.run s).Ends fun exchanges last => Outcome s call exchanges last.1 last.2 := by
  cases call with
  | setPath path =>
      refine ends_get_bind ?_
      refine ends_ensure_bind (fun _ _ => .refused nofun) fun _ hmarker => ?_
      refine ends_host_bind fun host => ?_
      refine ends_ensure_bind (fun _ _ => .refused nofun) fun _ _ => ?_
      refine ends_ensure_bind (fun _ _ => .refused nofun) fun resolved _ => ?_
      exact .located resolved (marker_of_requireUnmounted hmarker)
  | createContainer credential =>
      refine ends_get_bind ?_
      refine ends_ensure_bind (fun _ _ => .refused nofun) fun _ hmarker => ?_
      refine ends_ensure_bind (fun _ _ => .refused nofun) fun path hpath => ?_
      refine ends_ensure_bind (fun _ _ => .refused nofun) fun _ hvalid => ?_
      refine ends_request_bind fun reply => ?_
      have hmarker := marker_of_requireUnmounted hmarker
      have hpath := path_of_configuredPath hpath
      cases reply with
      | some handle => exact fun _ => .created hmarker hpath hvalid
      | none =>
          refine ends_host_bind fun host => ?_
          refine ends_ensure_bind (fun _ _ => .rejected nofun hmarker hpath hvalid) fun _ _ => ?_
          exact .rejected nofun hmarker hpath hvalid
  | mount credential =>
      refine ends_get_bind ?_
      refine ends_ensure_bind (fun _ _ => .refused nofun) fun _ hmarker => ?_
      refine ends_ensure_bind (fun _ _ => .refused nofun) fun path hpath => ?_
      refine ends_ensure_bind (fun _ _ => .refused nofun) fun _ hvalid => ?_
      refine ends_host_bind fun host => ?_
      refine ends_ensure_bind (fun _ _ => .refused nofun) fun _ _ => ?_
      refine ends_request_bind fun reply => ?_
      have hmarker := marker_of_requireUnmounted hmarker
      have hpath := path_of_configuredPath hpath
      cases reply with
      | some handle => exact .mounted hmarker hpath hvalid
      | none => exact .rejected nofun hmarker hpath hvalid
  | unmount =>
      refine ends_get_bind ?_
      cases hmarker : s.marker with
      | none => exact .absent hmarker
      | some marker =>
          refine ends_request_bind fun count => ?_
          split
          · next hcount => exact .busy hmarker hcount
          · next hcount => exact fun _ => .unmounted hmarker (Nat.le_of_not_lt hcount)

end Lifecycle

end Session

end Strongbox
