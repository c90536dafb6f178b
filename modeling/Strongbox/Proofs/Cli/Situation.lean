import Strongbox.Container.Location
import Strongbox.Proofs.Cli.Wording

/-!
# What a host holds where a container is to lie

Before a run does anything it looks at the path of its container.  What it finds is one of a few
situations, and of the path itself only one thing is left: a complaint about the directory of the
container quotes the path of the directory, and one about a container that may only be read quotes
that of the container.  Each may hold the words by which a missing container is told.

* `Location.Situation` and `Location.situation` — what a host holds at a container path.
* `Location.parentCode?` and `Location.containerCode?` — the codes that the two paths decide on.
* **`Location.located`** — what the checks of a run come to in each situation.
-/

namespace Strongbox

namespace HostPath

lemma head_join {lead : String} (hlead : IsLead lead) (names : List (List Char)) :
    (join lead names).toList.head? = some '/' := by
  rw [join, String.toList_append]
  rcases hlead with rfl | rfl <;> rfl

/-- The parent of a path starts at the root. -/
lemma head_parent {path parent : String} (h : parent? path = some parent) :
    parent.toList.head? = some '/' := by
  unfold parent? at h
  split at h
  · cases h
  · cases h
    rfl
  · cases h
    exact head_join (isLead_lead path) _

/-- A cleaned path without a parent is nothing but slashes. -/
lemma slashes_of_no_parent {path : String} (hclean : Cleaned path) (h : parent? path = none) :
    path = "/" ∨ path = "//" ∨ path = "///" := by
  have hempty : names path = [] := by
    unfold parent? at h
    split at h
    · next hnames => exact List.isEmpty_iff.1 hnames
    · cases h
    · cases h
  obtain ⟨lead, front, hlead, hnames, rfl | rfl⟩ := hclean
  · rw [names_join hlead hnames] at hempty
    subst hempty
    rcases hlead with rfl | rfl
    · exact .inl rfl
    · exact .inr (.inl rfl)
  · rw [names_append_slash, names_join hlead hnames] at hempty
    subst hempty
    rcases hlead with rfl | rfl
    · exact .inr (.inl rfl)
    · exact .inr (.inr rfl)

end HostPath

namespace Complaint

lemma exitCode?_blankPath : blankPath.exitCode? = none := by
  decide +kernel

lemma exitCode?_noParent {path : String} (hclean : HostPath.Cleaned path)
    (h : HostPath.parent? path = none) : (noParent path).exitCode? = none := by
  obtain rfl | rfl | rfl := HostPath.slashes_of_no_parent hclean h <;> decide +kernel

end Complaint

namespace Location

variable {host : Host} {path resolved parent : String}

/-! ## Checks on a container -/

lemma validateReadWrite_of_unreadable (h : (host.access path).read = false) :
    validateReadWrite host path = .error (.invalidArgument (.containerUnreadable path)) := by
  rw [validateReadWrite, h]
  rfl

lemma validateReadWrite_of_unwritable (hread : (host.access path).read = true)
    (hwrite : (host.access path).write = false) :
    validateReadWrite host path = .error (.invalidArgument (.containerUnwritable path)) := by
  rw [validateReadWrite, hread, hwrite]
  rfl

lemma validateReadWrite_of_absent (h : host.present path = false) :
    validateReadWrite host path = .error (.invalidArgument (.containerUnreadable path)) :=
  validateReadWrite_of_unreadable (congrArg Rights.read (Host.access_of_absent h))

/-- A container that can be both read and written is there, and both rights are the user's. -/
lemma rights_of_validateReadWrite (h : validateReadWrite host path = .ok ()) :
    host.present path = true ∧ (host.access path).read = true
      ∧ (host.access path).write = true := by
  cases hpresent : host.present path with
  | false =>
      rw [validateReadWrite_of_absent hpresent] at h
      cases h
  | true =>
      rw [validateReadWrite] at h
      split_ifs at h with hread hwrite
      exact ⟨rfl, by simpa using hread, by simpa using hwrite⟩

/-! ## Situations -/

/-- What can be wrong with the directory of a container. -/
inductive ParentFault where
  | missing
  | file
  | unreadable
  | unwritable
  deriving DecidableEq

/-- What a host holds at a container path. -/
inductive Situation where
  /-- The path is blank, or lies in no directory. -/
  | nowhere
  | parent (fault : ParentFault)
  /-- There is a directory for the container, but nothing in its place. -/
  | missing
  | unreadable
  /-- The user may read what is there, but not write it. -/
  | unwritable
  | directory
  | file (content : Bytes)
  deriving DecidableEq

/-- What is wrong with the directory of a container, if something is. -/
def parentFault (host : Host) (parent : String) : Option ParentFault :=
  match host.node parent with
  | .error _ => some .missing
  | .ok (.file _ _) => some .file
  | .ok (.directory _) =>
    if !(host.access parent).read then some .unreadable
    else if !(host.access parent).write then some .unwritable
    else none

/-- The situation at the cleaned form of a container path. -/
def situationAt (host : Host) (resolved : String) : Situation :=
  match HostPath.parent? resolved with
  | none => .nowhere
  | some parent =>
    match parentFault host parent with
    | some fault => .parent fault
    | none =>
      match host.node resolved with
      | .error _ => .missing
      | .ok found =>
        if !(host.access resolved).read then .unreadable
        else if !(host.access resolved).write then .unwritable
        else match found with
        | .directory _ => .directory
        | .file _ content => .file content

/-- The situation at a container path. -/
def situation (host : Host) (path : String) : Situation :=
  if Text.allBlank path then .nowhere
  else match absolute path with
    | .error _ => .nowhere
    | .ok resolved => situationAt host resolved

/-- Two paths that lead to one node through one directory are in the same situation. -/
lemma situation_of_resolve {path' resolved' parent' : String}
    (hblank : Text.allBlank path = false) (hblank' : Text.allBlank path' = false)
    (hresolved : absolute path = .ok resolved) (hresolved' : absolute path' = .ok resolved')
    (hparent : HostPath.parent? resolved = some parent)
    (hparent' : HostPath.parent? resolved' = some parent')
    (hdirectory : host.resolve parent' = host.resolve parent)
    (hnode : host.resolve resolved' = host.resolve resolved) :
    situation host path' = situation host path := by
  have hsame : ∀ {path path' : String}, host.resolve path' = host.resolve path →
      host.node path' = host.node path ∧ host.access path' = host.access path :=
    fun h => ⟨by rw [Host.node, Host.node, h], by rw [Host.access, Host.access, h]⟩
  rw [situation, situation, hblank, hblank', hresolved, hresolved']
  dsimp only
  rw [situationAt, situationAt, hparent, hparent']
  dsimp only
  rw [parentFault, parentFault, (hsame hdirectory).1, (hsame hdirectory).2, (hsame hnode).1,
    (hsame hnode).2]

/-- The path of the directory that a container is to lie in. -/
def parentText (path : String) : String :=
  ((absolute path).toOption.bind HostPath.parent?).getD ""

/-- The exit code that a complaint about the directory of a container decides on. -/
def parentCode? (path : String) : Option Nat :=
  if holds Complaint.absence (parentText path).toList then some ExitCode.notFound else none

/-- The cleaned form of a container path. -/
def containerText (path : String) : String :=
  (absolute path).toOption.getD ""

/-- The exit code that a complaint about a container that may not be written decides on. -/
def containerCode? (path : String) : Option Nat :=
  if holds Complaint.absence (containerText path).toList then some ExitCode.notFound else none

lemma exitCode?_unwritable (hresolved : absolute path = .ok resolved) :
    (Complaint.containerUnwritable resolved).exitCode? = containerCode? path := by
  rw [Complaint.exitCode?_containerUnwritable, containerCode?, containerText, hresolved]
  rfl

/-- What the checks of a run come to at a container path, in each situation. -/
inductive Located (host : Host) (path : String) : Situation → Prop
  | nowhere {complaint : Complaint}
      (hvalidate : validate host path = .error (.invalidArgument complaint))
      (hcode : complaint.exitCode? = none) : Located host path .nowhere
  | parent {fault : ParentFault} {complaint : Complaint}
      (hvalidate : validate host path = .error (.invalidArgument complaint))
      (hcode : complaint.exitCode? = parentCode? path) : Located host path (.parent fault)
  | missing {resolved : String} {error : HostError} (hvalidate : validate host path = .ok ())
      (hresolved : absolute path = .ok resolved) (hnode : host.node resolved = .error error) :
      Located host path .missing
  | unreadable {resolved : String} (hvalidate : validate host path = .ok ())
      (hresolved : absolute path = .ok resolved) (hpresent : host.present resolved = true)
      (hread : (host.access resolved).read = false) : Located host path .unreadable
  | unwritable {resolved : String} (hvalidate : validate host path = .ok ())
      (hresolved : absolute path = .ok resolved) (hpresent : host.present resolved = true)
      (hread : (host.access resolved).read = true) (hwrite : (host.access resolved).write = false) :
      Located host path .unwritable
  | directory {resolved : String} {mode : Nat} (hvalidate : validate host path = .ok ())
      (hresolved : absolute path = .ok resolved) (hfile : validateReadWrite host resolved = .ok ())
      (hnode : host.node resolved = .ok (.directory mode)) : Located host path .directory
  | file {resolved : String} {mode : Nat} {content : Bytes}
      (hvalidate : validate host path = .ok ()) (hresolved : absolute path = .ok resolved)
      (hfile : validateReadWrite host resolved = .ok ())
      (hnode : host.node resolved = .ok (.file mode content)) : Located host path (.file content)

/-- A path that is not blank has a cleaned form, which decides on the check. -/
lemma exists_absolute (hblank : Text.allBlank path = false) :
    ∃ resolved, absolute path = .ok resolved ∧ HostPath.Cleaned resolved := by
  cases hresolved : HostPath.absolute path with
  | ok resolved =>
      exact ⟨resolved, mapError_eq_ok.2 hresolved, HostPath.cleaned_of_absolute hresolved⟩
  | error error =>
      rw [HostPath.absolute] at hresolved
      split at hresolved
      · next hempty =>
          rw [String.isEmpty_iff.1 hempty] at hblank
          cases hblank
      · cases hresolved

lemma validate_of_no_parent (hblank : Text.allBlank path = false)
    (hresolved : absolute path = .ok resolved) (hparent : HostPath.parent? resolved = none) :
    validate host path = .error (.invalidArgument (.noParent resolved)) := by
  unfold validate
  rw [hblank, hresolved]
  dsimp only [bind, Except.bind, Bool.false_eq_true, if_false]
  rw [hparent]
  rfl

section Parent

variable (hblank : Text.allBlank path = false) (hresolved : absolute path = .ok resolved)
  (hparent : HostPath.parent? resolved = some parent)

include hblank hresolved hparent

lemma validate_of_parent : validate host path = match host.node parent with
    | .error error => .error (.invalidArgument (.unreachable parent error))
    | .ok (.file _ _) => .error (.invalidArgument (.notDirectory parent))
    | .ok (.directory _) =>
      if !(host.access parent).read then .error (.invalidArgument (.unreadable parent))
      else if !(host.access parent).write then .error (.invalidArgument (.unwritable parent))
      else .ok () := by
  unfold validate
  rw [hblank, hresolved]
  dsimp only [bind, Except.bind, Bool.false_eq_true, if_false]
  rw [hparent]
  rfl

/-- Where nothing is wrong with the directory, a container may lie. -/
lemma validate_of_parentFault_none (h : parentFault host parent = none) :
    validate host path = .ok () := by
  rw [validate_of_parent hblank hresolved hparent]
  rw [parentFault] at h
  split at h
  · cases h
  · cases h
  · split_ifs at h with hread hwrite
    rw [if_neg hread, if_neg hwrite]

/-- Where something is, there is a complaint on which the path of the directory decides. -/
lemma validate_of_parentFault {fault : ParentFault} (h : parentFault host parent = some fault) :
    ∃ complaint, validate host path = .error (.invalidArgument complaint)
      ∧ complaint.exitCode? = parentCode? path := by
  have hhead := HostPath.head_parent hparent
  have hcode : parentCode? path
      = if holds Complaint.absence parent.toList then some ExitCode.notFound else none := by
    rw [parentCode?, parentText, hresolved]
    show (if holds _ ((HostPath.parent? resolved).getD "").toList then _ else _) = _
    rw [hparent]
    rfl
  rw [validate_of_parent hblank hresolved hparent, hcode]
  rw [parentFault] at h
  split at h
  · next error hnode =>
      exact ⟨_, rfl, Complaint.exitCode?_unreachable parent (Host.unreachable_of_node hnode)⟩
  · exact ⟨_, rfl, Complaint.exitCode?_notDirectory hhead⟩
  · split_ifs at h with hread hwrite
    · rw [if_pos hread]
      exact ⟨_, rfl, Complaint.exitCode?_unreadable hhead⟩
    · rw [if_neg hread, if_pos hwrite]
      exact ⟨_, rfl, Complaint.exitCode?_unwritable hhead⟩

/-- What is found at the directory of a container, and then at its path. -/
lemma located_of_parent : Located host path (situationAt host resolved) := by
  rw [situationAt, hparent]
  dsimp only
  cases hfault : parentFault host parent with
  | some fault =>
      obtain ⟨complaint, hvalidate, hcode⟩ :=
        validate_of_parentFault hblank hresolved hparent hfault
      exact .parent hvalidate hcode
  | none =>
      have hvalidate := validate_of_parentFault_none hblank hresolved hparent hfault
      dsimp only
      cases hnode : host.node resolved with
      | error error => exact .missing hvalidate hresolved hnode
      | ok found =>
          have hpresent := Host.present_of_node hnode
          dsimp only
          split_ifs with hread hwrite
          · exact .unreadable hvalidate hresolved hpresent (by simpa using hread)
          · exact .unwritable hvalidate hresolved hpresent (by simpa using hread)
              (by simpa using hwrite)
          · have hfile : validateReadWrite host resolved = .ok () := by
              rw [validateReadWrite, if_neg hread, if_neg hwrite]
            cases found with
            | directory mode => exact .directory hvalidate hresolved hfile hnode
            | file mode content => exact .file hvalidate hresolved hfile hnode

end Parent

/-- The user may write in the directory of a path that was accepted. -/
lemma writable_of_validate (h : validate host path = .ok ())
    (hresolved : absolute path = .ok resolved) :
    (host.access ((HostPath.parent? resolved).getD "/")).write = true := by
  cases hblank : Text.allBlank path with
  | true =>
      rw [validate, hblank] at h
      cases h
  | false =>
      cases hparent : HostPath.parent? resolved with
      | none =>
          rw [validate_of_no_parent hblank hresolved hparent] at h
          cases h
      | some parent =>
          rw [validate_of_parent hblank hresolved hparent] at h
          split at h
          · cases h
          · cases h
          · split_ifs at h with hread hwrite
            simpa using hwrite

/-- The situation at a path tells what the checks of a run come to. -/
theorem located (host : Host) (path : String) : Located host path (situation host path) := by
  unfold situation
  split
  · next hblank =>
      have hvalidate : validate host path = .error (.invalidArgument .blankPath) := by
        rw [validate, hblank]
        rfl
      exact .nowhere hvalidate Complaint.exitCode?_blankPath
  · next hblank =>
      rw [Bool.not_eq_true] at hblank
      obtain ⟨resolved, hresolved, hclean⟩ := exists_absolute hblank
      rw [hresolved]
      cases hparent : HostPath.parent? resolved with
      | some parent => exact located_of_parent hblank hresolved hparent
      | none =>
          show Located host path (situationAt host resolved)
          rw [situationAt, hparent]
          exact .nowhere (validate_of_no_parent hblank hresolved hparent)
            (Complaint.exitCode?_noParent hclean hparent)

end Location

end Strongbox
