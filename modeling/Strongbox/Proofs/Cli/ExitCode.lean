import Strongbox.Proofs.Cli.Ending
import Strongbox.Proofs.Cli.Placeless
import Strongbox.Proofs.Cli.Situation

/-!
# Exit codes and the spelling of paths

Two runs of the same command on containers at two paths are in the same situation: a container
cannot lie there, there is none, the user may not read or write it, or both have the same content.
Their exit codes are the same, unless a complaint quotes a path that holds the words by which a
missing container is told: the path of a directory in which no container can lie, or that of a
container that may only be read.

* `ContainerEngine.OpensAlike` — a container is opened at both paths or at neither.
* `Invocation.mounts` — a run gets as far as to mount its container.
* `Invocation.misread` — its complaint is taken for one about a missing container.
* `Invocation.Elsewhere` — the same work on containers at two paths in the same situation.
* **`Invocation.Elsewhere.codeOf_ending`** — it ends with the same code, unless a path is misread.
* `Invocation.Warranted` — what a complaint decides on, and why.
* **`Invocation.warranted_of_ending`** — all complaints that a run fails with are warranted.
* **`Program.exits_alike`** — both for whole runs of the program.
-/

namespace Strongbox

/-! ## Codes of failures -/

namespace Failure

/-- What was tried decides on no code. -/
lemma exitCode_whenTrying (text : String) (failure : Failure) :
    (failure.whenTrying text).exitCode = failure.exitCode := rfl

lemma exitCode_complaint (complaint : Complaint) :
    (ofFault (.invalidArgument complaint)).exitCode
      = complaint.exitCode?.getD ExitCode.generalError := by
  show (List.findSome? Reason.exitCode? [.fault (.invalidArgument complaint)]).getD _ = _
  rw [List.findSome?_singleton]
  rfl

lemma mem_complaint {text : String} {complaint told : Complaint} :
    .fault (.invalidArgument told)
        ∈ ((ofFault (.invalidArgument complaint)).whenTrying text).reasons
      ↔ told = complaint := by
  simp [whenTrying, ofFault, Fault.chain]

end Failure

namespace Program

lemma codeOf_complaint (text : String) (complaint : Complaint) :
    codeOf (.error ((Failure.ofFault (.invalidArgument complaint)).whenTrying text))
      = complaint.exitCode?.getD ExitCode.generalError :=
  (Failure.exitCode_whenTrying text _).trans (Failure.exitCode_complaint complaint)

lemma codeOf_containerUnreadable (text path : String) :
    codeOf (.error ((Failure.ofFault (.invalidArgument (.containerUnreadable path))).whenTrying
      text)) = ExitCode.notFound := by
  rw [codeOf_complaint, Complaint.exitCode?_containerUnreadable]
  rfl

lemma codeOf_badCredential (text path : String) :
    codeOf (.error ((Failure.ofFault (.invalidArgument (.badCredential path))).whenTrying text))
      = ExitCode.authenticationFailed := by
  rw [codeOf_complaint, Complaint.exitCode?_badCredential]
  rfl

/-- Two complaints on which the paths that they quote decide. -/
lemma codeOf_iff_of_quoted {text text' : String} {complaint complaint' : Complaint}
    {words words' : Bool}
    (h : complaint.exitCode? = if words then some ExitCode.notFound else none)
    (h' : complaint'.exitCode? = if words' then some ExitCode.notFound else none) :
    codeOf (.error ((Failure.ofFault (.invalidArgument complaint')).whenTrying text'))
        = codeOf (.error ((Failure.ofFault (.invalidArgument complaint)).whenTrying text))
      ↔ words' = words := by
  rw [codeOf_complaint, codeOf_complaint, h, h']
  cases words <;> cases words' <;> decide

end Program

namespace SecretOptions

/-- A credential that cannot be made out is no fault of an argument. -/
lemma blameless_of_resolve {options : SecretOptions} {input : Bytes} {failure : Failure}
    (h : options.resolve input = .error failure) : failure.Blameless := by
  unfold resolve at h
  split at h
  · split at h
    · cases h
    · cases h
      simp [Failure.Blameless]
  · split at h
    · dsimp only at h
      unfold passwordOfLine at h
      split at h
      · cases h
        simp [Failure.Blameless]
      · split at h
        · cases h
          simp [Failure.Blameless]
        · cases h
    · split at h
      · cases h
      · cases h
        exact Failure.blameless_because _

end SecretOptions

namespace Config

/-- Nor is a configuration that cannot be read. -/
lemma blameless_of_load {host : Host} {named : Option String} {usual : String} {failure : Failure}
    (h : load host named usual = .error failure) : failure.Blameless := by
  have hfile : ∀ {path}, ofFile host path = .error failure → failure.Blameless := by
    intro path h
    unfold ofFile at h
    split at h
    · cases h
      simp [Failure.Blameless, Failure.whenTrying]
    · split at h
      · cases h
        simp [Failure.Blameless, Failure.whenTrying]
      · split at h
        · cases h
          exact Failure.blameless_because _
        · unfold validate at h
          split at h
          · cases h
            exact Failure.blameless_because _
          · cases h
  unfold load at h
  split at h
  · exact hfile h
  · split at h
    · exact hfile h
    · cases h

end Config

/-! ## What is found at a path -/

namespace Host

variable {host : Host} {path : String}

lemma read_of_node {node : HostNode} (hnode : host.node path = .ok node)
    (hread : (host.access path).read = true) :
    host.read path = match node with
      | .file _ content => .ok content
      | .directory _ => .error (.os .isDirectory) := by
  simp only [read, hnode, bind, Except.bind, hread]
  cases node <;> rfl

end Host

namespace Frame

variable {host : Host} {path : String}

lemma read_of_directory {mode : Nat} (hnode : host.node path = .ok (.directory mode))
    (hread : (host.access path).read = true) :
    Frame.read host path = .error (.host (.os .isDirectory)) := by
  rw [Frame.read, Host.read_of_node hnode hread]
  rfl

lemma read_of_absent (h : host.node path = .error (.os .noEntry)) :
    Frame.read host path = .ok none := by
  rw [Frame.read, Host.read, h]
  rfl

end Frame

/-! ## Opening at two paths -/

namespace ContainerEngine

variable {suite : CipherSuite} {config : EngineConfig} {moment : Moment} {host host' : Host}
  {path path' : String} {credential : Credential}

/-- A container is opened at two paths on hosts that take files there, or at neither. -/
def OpensAlike (suite : CipherSuite) (config : EngineConfig) (moment : Moment)
    (host host' : Host) (path path' : String) (credential : Credential) : Prop :=
  (∃ c saved saved', unlock suite config moment host path credential = .ok (c, saved)
      ∧ unlock suite config moment host' path' credential = .ok (c.movedTo path', saved')
      ∧ c.path = path ∧ saved.Takes path ∧ saved'.Takes path')
    ∨ ∃ e e', unlock suite config moment host path credential = .error e
      ∧ unlock suite config moment host' path' credential = .error e'

/-- A container file that cannot be read cannot be opened. -/
lemma unlock_of_unread {error : FrameError} (h : Frame.read host path = .error error) :
    unlock suite config moment host path credential = .error (.frame error) := by
  rw [unlock, h]
  rfl

lemma opensAlike_of_unread {error error' : FrameError} (h : Frame.read host path = .error error)
    (h' : Frame.read host' path' = .error error') :
    OpensAlike suite config moment host host' path path' credential :=
  .inr ⟨_, _, unlock_of_unread h, unlock_of_unread h'⟩

lemma opensAlike_of_content {content : Bytes} (htakes : host.Takes path)
    (htakes' : host'.Takes path') (h : host.read path = .ok content)
    (h' : host'.read path' = .ok content) :
    OpensAlike suite config moment host host' path path' credential := by
  have hfile : Frame.read host' path' = Frame.read host path := by
    rw [Frame.read, Frame.read, h, h']
  exact unlock_movedTo suite config moment credential hfile htakes htakes'

/-- Where nothing is found a container is made, for which the host has to take a file. -/
lemma unlock_error_of_missing {error : HostError} (hnode : host.node path = .error error)
    (h : ¬(error = .os .noEntry ∧ host.Takes path)) :
    ∃ e, unlock suite config moment host path credential = .error e := by
  have hread : host.read path = .error error := by
    rw [Host.read, hnode]
    rfl
  cases hunlock : unlock suite config moment host path credential with
  | error e => exact ⟨e, rfl⟩
  | ok opened =>
      obtain ⟨rfl, -, -, ⟨frame, hframe⟩, ⟨-, hsealed⟩ | hsaved⟩ := unlock_ok hunlock
      · obtain ⟨content, hcontent⟩ := OpenContainer.read_of_sealedTree hsealed
        rw [hread] at hcontent
        cases hcontent
      · refine absurd ⟨?_, ?_⟩ h
        · rw [Frame.read, hread] at hframe
          cases error with
          | os code =>
              dsimp only at hframe
              split at hframe
              · next hcode => rw [hcode]
              · cases hframe
          | nulInPath | emptyPath => cases hframe
        · rw [OpenContainer.persist_eq] at hsaved
          obtain ⟨content, -, hput⟩ := bind_eq_ok.1 hsaved
          exact Host.takes_of_replaceFile_ok (mapError_eq_ok.1 hput)

/-- The host with the file of a container that was opened. -/
lemma exists_node_of_unlock {c : OpenContainer} {saved : Host} (hclean : HostPath.Cleaned path)
    (h : unlock suite config moment host path credential = .ok (c, saved))
    (hpresent : host.present path = true) : ∃ node, saved.node path = .ok node := by
  obtain ⟨rfl, -, -, ⟨frame, hframe⟩, ⟨rfl, -⟩ | hsaved⟩ := unlock_ok h
  · exact exists_of_isOk hpresent
  · rw [OpenContainer.persist_eq] at hsaved
    obtain ⟨content, -, hput⟩ := bind_eq_ok.1 hsaved
    have hput := mapError_eq_ok.1 hput
    obtain ⟨hempty, -⟩ := Host.replaceFile_ok hput
    have hread := Host.read_replaceFile hclean (short_of_read hframe hempty) hput
    obtain ⟨node, hnode, -⟩ := bind_eq_ok.1 hread
    exact ⟨node, hnode⟩

end ContainerEngine

/-! ## The work of a command -/

namespace Command

variable {suite : CipherSuite} {thread : Thread} {printed : Printed} {line line' : Timeline}
  {s s' : Session} {path path' : String} {input : Bytes} {command : Command}

/-- The figures of the volume are told wherever the file of the container is found. -/
lemma runOn_showSpace (hs : s.isMounted = true) (hpath : s.containerPath = some path)
    {node : HostNode} (hnode : line.machine.host.node path = .ok node) (json : Bool) :
    ((showSpace s json).runOn suite thread printed line).1.1 = .ok () := by
  have hstat : ∃ stat, s.statfs.runOn suite thread line = (.ok stat, line) := by
    have hhost : Call.host.runOn suite thread line = (.ok line.machine.host, line) := rfl
    unfold Session.statfs
    rw [Call.require_bind hs, hpath]
    dsimp only
    rw [Call.runOn_bind, hhost]
    dsimp only
    rw [hnode]
    exact ⟨_, rfl⟩
  obtain ⟨stat, hstat⟩ := hstat
  have hcall : (Task.call s.statfs).runOn suite thread printed line
      = ((.ok stat, printed), line) := by
    rw [Task.runOn_call, hstat]
    rfl
  rw [showSpace, Task.runOn_bind, hcall]
  cases json <;> rfl

/-- The work of a command on a mounted container ends alike at two paths, and blames no argument. -/
theorem execute_alike (hs : s.isMounted = true) (hs' : s'.isMounted = true)
    (hpath : s.containerPath = some path) (hpath' : s'.containerPath = some path')
    {node node' : HostNode} (hnode : line.machine.host.node path = .ok node)
    (hnode' : line'.machine.host.node path' = .ok node') (hline : line.Moved path path' line') :
    ((command.execute s' input).runOn suite thread printed line').1.1
        = ((command.execute s input).runOn suite thread printed line).1.1
      ∧ ∀ failure, ((command.execute s input).runOn suite thread printed line).1.1
          = .error failure → failure.Blameless := by
  by_cases hplace : ∃ json, command = .df json
  · obtain ⟨json, rfl⟩ := hplace
    have hspace : ((showSpace s json).runOn suite thread printed line).1.1 = .ok () :=
      runOn_showSpace hs hpath hnode json
    have hspace' : ((showSpace s' json).runOn suite thread printed line').1.1 = .ok () :=
      runOn_showSpace hs' hpath' hnode' json
    refine ⟨hspace'.trans hspace.symm, fun failure h => ?_⟩
    cases hspace.symm.trans h
  · have hmirrors := mirrors_execute (hs'.trans hs.symm) input command
      fun json h => hplace ⟨json, h⟩
    obtain ⟨hblame, hsame, -⟩ := hmirrors.runOn (works_execute s input command) hline suite thread
      printed
    refine ⟨congrArg (·.1) hsame, fun failure h => ?_⟩
    rw [h] at hblame
    cases hblame with
    | error hfailure => exact hfailure

end Command

/-! ## Runs at two paths -/

namespace Location

/-- There is nothing at a container path yet, and the host takes a file there. -/
def Creatable (host : Host) (path : String) : Prop :=
  ∃ resolved, absolute path = .ok resolved ∧ host.node resolved = .error (.os .noEntry)
    ∧ host.Takes resolved

lemma creatable_iff {host : Host} {path resolved : String} {error : HostError}
    (hresolved : absolute path = .ok resolved) (hnode : host.node resolved = .error error) :
    Creatable host path ↔ error = .os .noEntry ∧ host.Takes resolved := by
  constructor
  · rintro ⟨there, hthere, hmissing, htakes⟩
    rw [hresolved] at hthere
    cases hthere
    rw [hnode] at hmissing
    cases hmissing
    exact ⟨rfl, htakes⟩
  · rintro ⟨rfl, htakes⟩
    exact ⟨resolved, hresolved, hnode, htakes⟩

end Location

namespace Invocation

open ContainerEngine

variable {suite : CipherSuite} {moments : Nat → Moment} {config : EngineConfig}
  {host host' : Host} {invocation invocation' : Invocation} {path path' : String}
  {input rest : Bytes} {credential : Credential}

/-- Whether a run gets as far as to mount its container. -/
def mounts (invocation : Invocation) (input : Bytes) : Bool :=
  match invocation.secrets.resolve input with
  | .ok (credential, _) => invocation.command ≠ .init && credential.validate.isOk
  | .error _ => false

/-- Whether a complaint of a run is taken for one about a missing container, because the path that
it quotes holds the words of the latter. -/
def misread (host : Host) (invocation : Invocation) (input : Bytes) : Bool :=
  match Location.situation host invocation.container with
  | .parent _ => holds Complaint.absence (Location.parentText invocation.container).toList
  | .unwritable => invocation.mounts input
      && holds Complaint.absence (Location.containerText invocation.container).toList
  | _ => false

/-- The same work on containers at two paths, which are in the same situation on their hosts.  A
container is only made where the host takes a new file, which a path that ends with a slash or a
long name may prevent. -/
structure Elsewhere (host host' : Host) (invocation invocation' : Invocation) : Prop where
  command : invocation'.command = invocation.command
  secrets : invocation'.secrets = invocation.secrets
  situation : Location.situation host' invocation'.container
    = Location.situation host invocation.container
  creatable : invocation.command = .init →
    (Location.Creatable host' invocation'.container ↔ Location.Creatable host invocation.container)

lemma Elsewhere.mounts_eq (h : invocation.Elsewhere host host' invocation') (input : Bytes) :
    invocation'.mounts input = invocation.mounts input := by
  rw [mounts, mounts, h.command, h.secrets]

/-- A run that mounts its container has another command than to make it, and a sound credential. -/
lemma mounts_iff : invocation.mounts input = true ↔ invocation.command ≠ .init ∧
    ∃ credential rest, invocation.secrets.resolve input = .ok (credential, rest)
      ∧ credential.validate = .ok () := by
  unfold mounts
  split
  · next credential rest hsecret =>
      rw [hsecret, Bool.and_eq_true, decide_eq_true_eq]
      refine and_congr_right fun _ => ⟨fun h => ?_, ?_⟩
      · obtain ⟨⟨⟩, hvalid⟩ := exists_of_isOk h
        exact ⟨credential, rest, rfl, hvalid⟩
      · rintro ⟨given, more, hsame, hvalid⟩
        obtain ⟨rfl, rfl⟩ := Prod.mk.inj (Except.ok.inj hsame)
        rw [hvalid]
        rfl
  · next hsecret =>
      rw [hsecret]
      simp

/-! ### Containers that are opened alike -/

/-- A container that has been opened at two paths, and is mounted there. -/
lemma moved_mountedAt {c : OpenContainer} {saved saved' : Host} (hpath : c.path = path)
    (htakes : saved.Takes path) (htakes' : saved'.Takes path') :
    (mountedAt (outset moments config host) mainThread c saved).Moved path path'
      (mountedAt (outset moments config host') mainThread (c.movedTo path') saved') :=
  ⟨⟨rfl, ⟨c, hpath, rfl, rfl⟩, htakes, htakes'⟩, rfl, rfl⟩

section Alike

variable (hplaced : invocation.Placed host path) (hplaced' : invocation'.Placed host' path')
  (hcommand : invocation'.command = invocation.command)
  (hsecret : invocation.secrets.resolve input = .ok (credential, rest))
  (hsecret' : invocation'.secrets.resolve input = .ok (credential, rest))

include hplaced hplaced' hcommand hsecret hsecret'

/-- A new container is made at both paths or at neither. -/
lemma codeOf_init (hinit : invocation.command = .init)
    (hpresent : host'.present path' = host.present path)
    (hopens : host.present path = false →
      OpensAlike suite config (moments 0) host host' path path' credential) :
    Program.codeOf (invocation'.ending suite moments config host' input)
      = Program.codeOf (invocation.ending suite moments config host input) := by
  have hinit' : invocation'.command = .init := hcommand.trans hinit
  cases hthere : host.present path with
  | true =>
      rw [ending_present hplaced hsecret hinit hthere,
        ending_present hplaced' hsecret' hinit' (hpresent.trans hthere)]
      rfl
  | false =>
      have hthere' : host'.present path' = false := hpresent.trans hthere
      cases hvalid : credential.validate with
      | error fault =>
          rw [ending_uncreated hplaced hsecret hinit hthere hvalid,
            ending_uncreated hplaced' hsecret' hinit' hthere' hvalid]
          rfl
      | ok =>
          obtain ⟨c, saved, saved', hunlock, hunlock', -⟩ | ⟨e, e', hunlock, hunlock'⟩ :=
            hopens hthere
          · rw [ending_made hplaced hsecret hinit hthere hvalid hunlock,
              ending_made hplaced' hsecret' hinit' hthere' hvalid hunlock']
          · rw [ending_unmade hplaced hsecret hinit hthere hvalid hunlock,
              ending_unmade hplaced' hsecret' hinit' hthere' hvalid hunlock']
            exact (Program.codeOf_containerUnreadable _ _).trans
              (Program.codeOf_containerUnreadable _ _).symm

section Work

variable (hinit : invocation.command ≠ .init) (hvalid : credential.validate = .ok ())
  (hfile : Location.validateReadWrite host path = .ok ())
  (hfile' : Location.validateReadWrite host' path' = .ok ())

include hinit hvalid hfile hfile'

/-- The work on a container that has been opened at two paths. -/
lemma ending_alike {c : OpenContainer} {saved saved' : Host}
    (hunlock : unlock suite config (moments 0) host path credential = .ok (c, saved))
    (hunlock' : unlock suite config (moments 0) host' path' credential
      = .ok (c.movedTo path', saved'))
    (hpath : c.path = path) (htakes : saved.Takes path) (htakes' : saved'.Takes path') :
    invocation'.ending suite moments config host' input
        = invocation.ending suite moments config host input
      ∧ ∀ failure, invocation.ending suite moments config host input = .error failure →
        failure.Blameless := by
  obtain ⟨hthere, -⟩ := Location.rights_of_validateReadWrite hfile
  obtain ⟨hthere', -⟩ := Location.rights_of_validateReadWrite hfile'
  obtain ⟨node, hnode⟩ :=
    exists_node_of_unlock (HostPath.cleaned_of_absolute hplaced.cleaned) hunlock hthere
  obtain ⟨node', hnode'⟩ :=
    exists_node_of_unlock (HostPath.cleaned_of_absolute hplaced'.cleaned) hunlock' hthere'
  rw [ending_mounted hplaced hsecret hinit hvalid hfile hunlock,
    ending_mounted hplaced' hsecret' (hcommand ▸ hinit) hvalid hfile' hunlock', hcommand]
  exact Command.execute_alike rfl rfl rfl rfl hnode hnode' (moved_mountedAt hpath htakes htakes')

/-- A container is mounted at both paths or at neither, and worked on alike. -/
lemma codeOf_work (hopens : OpensAlike suite config (moments 0) host host' path path' credential) :
    Program.codeOf (invocation'.ending suite moments config host' input)
      = Program.codeOf (invocation.ending suite moments config host input) := by
  obtain ⟨c, saved, saved', hunlock, hunlock', hpath, htakes, htakes'⟩
      | ⟨e, e', hunlock, hunlock'⟩ := hopens
  · rw [(ending_alike hplaced hplaced' hcommand hsecret hsecret' hinit hvalid hfile hfile' hunlock
      hunlock' hpath htakes htakes').1]
  · rw [ending_refused hplaced hsecret hinit hvalid hfile hunlock,
      ending_refused hplaced' hsecret' (hcommand ▸ hinit) hvalid hfile' hunlock']
    exact (Program.codeOf_badCredential _ _).trans (Program.codeOf_badCredential _ _).symm

end Work

end Alike

/-- A run ends where its container may not be read and written. -/
lemma ending_of_mounts {fault : Fault} (hplaced : invocation.Placed host path)
    (hmounts : invocation.mounts input = true)
    (hfile : Location.validateReadWrite host path = .error fault) :
    invocation.ending suite moments config host input = .error (invocation.unmountable fault) := by
  obtain ⟨hinit, credential, rest, hsecret, hvalid⟩ := mounts_iff.1 hmounts
  exact ending_forbidden hplaced hsecret hinit hvalid hfile

namespace Elsewhere

variable (h : invocation.Elsewhere host host' invocation') (hplaced : invocation.Placed host path)
  (hplaced' : invocation'.Placed host' path')
  (hpresent : host'.present path' = host.present path)
  (hopens : invocation.command = .init → host.present path = false →
    ∀ credential, OpensAlike suite config (moments 0) host host' path path' credential)

include h hplaced hplaced' hpresent hopens

/-- Runs that do not get as far as to mount their containers end with the same code. -/
lemma codeOf_of_not_mounts (hmounts : invocation.mounts input = false) :
    Program.codeOf (invocation'.ending suite moments config host' input)
      = Program.codeOf (invocation.ending suite moments config host input) := by
  cases hsecret : invocation.secrets.resolve input with
  | error failure =>
      rw [ending_noSecret hplaced hsecret, ending_noSecret hplaced' (h.secrets ▸ hsecret)]
  | ok given =>
      obtain ⟨credential, rest⟩ := given
      have hsecret' : invocation'.secrets.resolve input = .ok (credential, rest) :=
        h.secrets ▸ hsecret
      by_cases hinit : invocation.command = .init
      · exact codeOf_init hplaced hplaced' h.command hsecret hsecret' hinit hpresent
          fun hthere => hopens hinit hthere credential
      · cases hvalid : credential.validate with
        | ok =>
            rw [mounts_iff.2 ⟨hinit, credential, rest, hsecret, hvalid⟩] at hmounts
            cases hmounts
        | error fault =>
            rw [ending_unsound hplaced hsecret hinit hvalid,
              ending_unsound hplaced' hsecret' (h.command ▸ hinit) hvalid]
            rfl

/-- Neither do runs whose containers may not be read get any further. -/
lemma codeOf_of_unreadable (hread : (host.access path).read = false)
    (hread' : (host'.access path').read = false) :
    Program.codeOf (invocation'.ending suite moments config host' input)
      = Program.codeOf (invocation.ending suite moments config host input) := by
  cases hmounts : invocation.mounts input with
  | false => exact h.codeOf_of_not_mounts hplaced hplaced' hpresent hopens hmounts
  | true =>
      rw [ending_of_mounts hplaced hmounts (Location.validateReadWrite_of_unreadable hread),
        ending_of_mounts hplaced' ((h.mounts_eq input).trans hmounts)
          (Location.validateReadWrite_of_unreadable hread')]
      exact (Program.codeOf_containerUnreadable _ _).trans
        (Program.codeOf_containerUnreadable _ _).symm

end Elsewhere

/-! ### Situations -/

/-- A missing container is made at both paths or at neither. -/
lemma opensAlike_of_missing
    (hresolved : Location.absolute invocation.container = .ok path)
    (hresolved' : Location.absolute invocation'.container = .ok path')
    {error error' : HostError} (hnode : host.node path = .error error)
    (hnode' : host'.node path' = .error error')
    (hcreatable : Location.Creatable host' invocation'.container
      ↔ Location.Creatable host invocation.container) (credential : Credential) :
    OpensAlike suite config (moments 0) host host' path path' credential := by
  rw [Location.creatable_iff hresolved hnode, Location.creatable_iff hresolved' hnode']
    at hcreatable
  by_cases hnew : error = .os .noEntry ∧ host.Takes path
  · obtain ⟨hmissing', htakes'⟩ := hcreatable.2 hnew
    obtain ⟨rfl, htakes⟩ := hnew
    subst hmissing'
    exact unlock_movedTo suite config (moments 0) credential
      ((Frame.read_of_absent hnode').trans (Frame.read_of_absent hnode).symm) htakes htakes'
  · have hnew' : ¬(error' = .os .noEntry ∧ host'.Takes path') := fun h => hnew (hcreatable.1 h)
    obtain ⟨e, hunlock⟩ : ∃ e, unlock suite config (moments 0) host path credential = .error e :=
      unlock_error_of_missing hnode hnew
    obtain ⟨e', hunlock'⟩ :
        ∃ e, unlock suite config (moments 0) host' path' credential = .error e :=
      unlock_error_of_missing hnode' hnew'
    exact .inr ⟨e, e', hunlock, hunlock'⟩

/-- Runs on containers that may be read and written end with the same code if the containers are
opened at both paths or at neither. -/
lemma Elsewhere.codeOf_of_readWrite (h : invocation.Elsewhere host host' invocation')
    (hplaced : invocation.Placed host path) (hplaced' : invocation'.Placed host' path')
    (hfile : Location.validateReadWrite host path = .ok ())
    (hfile' : Location.validateReadWrite host' path' = .ok ())
    (hopens : ∀ credential,
      OpensAlike suite config (moments 0) host host' path path' credential) :
    Program.codeOf (invocation'.ending suite moments config host' input)
      = Program.codeOf (invocation.ending suite moments config host input) := by
  obtain ⟨hthere, -⟩ := Location.rights_of_validateReadWrite hfile
  obtain ⟨hthere', -⟩ := Location.rights_of_validateReadWrite hfile'
  cases hmounts : invocation.mounts input with
  | false =>
      exact h.codeOf_of_not_mounts hplaced hplaced' (hthere'.trans hthere.symm)
        (fun _ _ => hopens) hmounts
  | true =>
      obtain ⟨hinit, credential, rest, hsecret, hvalid⟩ := mounts_iff.1 hmounts
      exact codeOf_work hplaced hplaced' h.command hsecret (h.secrets ▸ hsecret) hinit hvalid hfile
        hfile' (hopens credential)

/-- A container file that the user may read and write is opened at both paths or at neither. -/
lemma opensAlike_of_file {content : Bytes} {mode mode' : Nat}
    (hplaced : invocation.Placed host path) (hplaced' : invocation'.Placed host' path')
    (hfile : Location.validateReadWrite host path = .ok ())
    (hfile' : Location.validateReadWrite host' path' = .ok ())
    (hnode : host.node path = .ok (.file mode content))
    (hnode' : host'.node path' = .ok (.file mode' content)) (credential : Credential) :
    OpensAlike suite config (moments 0) host host' path path' credential := by
  obtain ⟨-, hrights, -⟩ := Location.rights_of_validateReadWrite hfile
  obtain ⟨-, hrights', -⟩ := Location.rights_of_validateReadWrite hfile'
  have hread : host.read path = .ok content := Host.read_of_node hnode hrights
  have hread' : host'.read path' = .ok content := Host.read_of_node hnode' hrights'
  exact opensAlike_of_content
    (Host.takes_of_read (HostPath.cleaned_of_absolute hplaced.cleaned) hread hplaced.writable)
    (Host.takes_of_read (HostPath.cleaned_of_absolute hplaced'.cleaned) hread' hplaced'.writable)
    hread hread'

/-- A directory is no container, at neither path. -/
lemma opensAlike_of_directory {mode mode' : Nat}
    (hfile : Location.validateReadWrite host path = .ok ())
    (hfile' : Location.validateReadWrite host' path' = .ok ())
    (hnode : host.node path = .ok (.directory mode))
    (hnode' : host'.node path' = .ok (.directory mode')) (credential : Credential) :
    OpensAlike suite config (moments 0) host host' path path' credential := by
  obtain ⟨-, hrights, -⟩ := Location.rights_of_validateReadWrite hfile
  obtain ⟨-, hrights', -⟩ := Location.rights_of_validateReadWrite hfile'
  exact opensAlike_of_unread (Frame.read_of_directory hnode hrights)
    (Frame.read_of_directory hnode' hrights')

/-- The same work at two paths in the same situation ends with the same code, unless one of them is
misread. -/
theorem Elsewhere.codeOf_ending (h : invocation.Elsewhere host host' invocation') (input : Bytes) :
    Program.codeOf (invocation'.ending suite moments config host' input)
        = Program.codeOf (invocation.ending suite moments config host input)
      ↔ invocation'.misread host' input = invocation.misread host input := by
  have hlocated := Location.located host invocation.container
  have hlocated' := Location.located host' invocation'.container
  rw [h.situation] at hlocated'
  rw [misread, misread, h.situation]
  generalize Location.situation host invocation.container = situation at hlocated hlocated' ⊢
  cases hlocated with
  | nowhere hvalidate hcode =>
      cases hlocated' with
      | nowhere hvalidate' hcode' =>
          refine iff_of_true ?_ rfl
          rw [ending_misplaced hvalidate, ending_misplaced hvalidate', misplaced, misplaced,
            Program.codeOf_complaint, Program.codeOf_complaint, hcode, hcode']
  | parent hvalidate hcode =>
      cases hlocated' with
      | parent hvalidate' hcode' =>
          rw [ending_misplaced hvalidate, ending_misplaced hvalidate']
          exact Program.codeOf_iff_of_quoted hcode hcode'
  | missing hvalidate hresolved hnode =>
      cases hlocated' with
      | missing hvalidate' hresolved' hnode' =>
          have habsent := Host.absent_of_node hnode
          have habsent' := Host.absent_of_node hnode'
          refine iff_of_true ?_ rfl
          exact h.codeOf_of_unreadable ⟨hvalidate, hresolved⟩ ⟨hvalidate', hresolved'⟩
            (habsent'.trans habsent.symm)
            (fun hinit _ => opensAlike_of_missing hresolved hresolved' hnode hnode'
              (h.creatable hinit))
            (congrArg Rights.read (Host.access_of_absent habsent))
            (congrArg Rights.read (Host.access_of_absent habsent'))
  | unreadable hvalidate hresolved hpresent hread =>
      cases hlocated' with
      | unreadable hvalidate' hresolved' hpresent' hread' =>
          refine iff_of_true ?_ rfl
          refine h.codeOf_of_unreadable ⟨hvalidate, hresolved⟩ ⟨hvalidate', hresolved'⟩
            (hpresent'.trans hpresent.symm) (fun _ habsent => ?_) hread hread'
          rw [hpresent] at habsent
          cases habsent
  | unwritable hvalidate hresolved hpresent hread hwrite =>
      cases hlocated' with
      | unwritable hvalidate' hresolved' hpresent' hread' hwrite' =>
          dsimp only
          rw [h.mounts_eq]
          cases hmounts : invocation.mounts input with
          | false =>
              refine iff_of_true ?_ rfl
              refine h.codeOf_of_not_mounts ⟨hvalidate, hresolved⟩ ⟨hvalidate', hresolved'⟩
                (hpresent'.trans hpresent.symm) (fun _ habsent => ?_) hmounts
              rw [hpresent] at habsent
              cases habsent
          | true =>
              rw [ending_of_mounts ⟨hvalidate, hresolved⟩ hmounts
                  (Location.validateReadWrite_of_unwritable hread hwrite),
                ending_of_mounts ⟨hvalidate', hresolved'⟩ ((h.mounts_eq input).trans hmounts)
                  (Location.validateReadWrite_of_unwritable hread' hwrite')]
              exact Program.codeOf_iff_of_quoted (Location.exitCode?_unwritable hresolved)
                (Location.exitCode?_unwritable hresolved')
  | directory hvalidate hresolved hfile hnode =>
      cases hlocated' with
      | directory hvalidate' hresolved' hfile' hnode' =>
          refine iff_of_true ?_ rfl
          exact h.codeOf_of_readWrite ⟨hvalidate, hresolved⟩ ⟨hvalidate', hresolved'⟩ hfile hfile'
            (opensAlike_of_directory hfile hfile' hnode hnode')
  | file hvalidate hresolved hfile hnode =>
      cases hlocated' with
      | file hvalidate' hresolved' hfile' hnode' =>
          refine iff_of_true ?_ rfl
          exact h.codeOf_of_readWrite ⟨hvalidate, hresolved⟩ ⟨hvalidate', hresolved'⟩ hfile hfile'
            (opensAlike_of_file ⟨hvalidate, hresolved⟩ ⟨hvalidate', hresolved'⟩ hfile hfile' hnode
              hnode')

/-! ### What complaints decide on -/

/-- A complaint of a run decides on a code for a reason.  The code of a missing container is given
if there is none at the path that may be read, or if the complaint is misread.  The code of a refused
credential is given if a container was to be mounted that does not open with it. -/
structure Warranted (suite : CipherSuite) (moments : Nat → Moment) (config : EngineConfig)
    (host : Host) (invocation : Invocation) (input : Bytes) (complaint : Complaint) : Prop where
  missing : complaint.exitCode? = some ExitCode.notFound →
    invocation.misread host input = true
      ∨ ∃ path, invocation.Placed host path ∧ (host.access path).read = false
        ∧ Location.validateReadWrite host path = .error (.invalidArgument complaint)
  refused : complaint.exitCode? = some ExitCode.authenticationFailed →
    invocation.command ≠ .init ∧ ∃ path credential rest error, invocation.Placed host path
      ∧ invocation.secrets.resolve input = .ok (credential, rest)
      ∧ unlock suite config (moments 0) host path credential = .error error
      ∧ complaint = .badCredential path

section Warranted

variable {complaint : Complaint} {failure : Failure}

lemma warranted_of_undecided (h : complaint.exitCode? = none) :
    Warranted suite moments config host invocation input complaint := by
  constructor <;> intro hcode <;> rw [h] at hcode <;> cases hcode

lemma warranted_of_unreadable (hplaced : invocation.Placed host path)
    (hread : (host.access path).read = false) :
    Warranted suite moments config host invocation input (.containerUnreadable path) := by
  refine ⟨fun _ => .inr ⟨path, hplaced, hread,
    Location.validateReadWrite_of_unreadable hread⟩, fun hcode => ?_⟩
  rw [Complaint.exitCode?_containerUnreadable] at hcode
  cases hcode

lemma warranted_of_refused (hplaced : invocation.Placed host path)
    (hinit : invocation.command ≠ .init)
    (hsecret : invocation.secrets.resolve input = .ok (credential, rest)) {error : EngineError}
    (hunlock : unlock suite config (moments 0) host path credential = .error error) :
    Warranted suite moments config host invocation input (.badCredential path) := by
  refine ⟨fun hcode => ?_,
    fun _ => ⟨hinit, path, credential, rest, error, hplaced, hsecret, hunlock, rfl⟩⟩
  rw [Complaint.exitCode?_badCredential] at hcode
  cases hcode

/-- A complaint on which the path decides that it quotes. -/
lemma warranted_of_quoted {words : Bool}
    (hcode : complaint.exitCode? = if words then some ExitCode.notFound else none)
    (hmisread : invocation.misread host input = words) :
    Warranted suite moments config host invocation input complaint := by
  cases words with
  | false => exact warranted_of_undecided hcode
  | true =>
      refine ⟨fun _ => .inl hmisread, fun hrefused => ?_⟩
      rw [hcode] at hrefused
      cases hrefused

section Failed

variable (hplaced : invocation.Placed host path)
  (hcomplaint : .fault (.invalidArgument complaint) ∈ failure.reasons)
  (h : invocation.ending suite moments config host input = .error failure)

include hplaced hcomplaint h

lemma warranted_of_init (hinit : invocation.command = .init)
    (hsecret : invocation.secrets.resolve input = .ok (credential, rest)) :
    Warranted suite moments config host invocation input complaint := by
  cases hthere : host.present path with
  | true =>
      rw [ending_present hplaced hsecret hinit hthere] at h
      cases h
      exact absurd rfl (Failure.blameless_because _ _ hcomplaint complaint)
  | false =>
      cases hvalid : credential.validate with
      | error fault =>
          obtain ⟨told, rfl, hcode⟩ := Complaint.exitCode?_of_validate hvalid
          rw [ending_uncreated hplaced hsecret hinit hthere hvalid] at h
          cases h
          rw [Failure.mem_complaint.1 hcomplaint]
          exact warranted_of_undecided hcode
      | ok =>
          cases hunlock : unlock suite config (moments 0) host path credential with
          | ok opened =>
              rw [ending_made hplaced hsecret hinit hthere hvalid hunlock] at h
              cases h
          | error e =>
              rw [ending_unmade hplaced hsecret hinit hthere hvalid hunlock] at h
              cases h
              rw [Failure.mem_complaint.1 hcomplaint]
              exact warranted_of_unreadable hplaced
                (congrArg Rights.read (Host.access_of_absent hthere))

/-- The complaints of a run that does not get as far as to mount its container. -/
lemma warranted_of_not_mounts (hmounts : invocation.mounts input = false) :
    Warranted suite moments config host invocation input complaint := by
  cases hsecret : invocation.secrets.resolve input with
  | error e =>
      rw [ending_noSecret hplaced hsecret] at h
      cases h
      exact absurd rfl (SecretOptions.blameless_of_resolve hsecret _ hcomplaint complaint)
  | ok given =>
      obtain ⟨credential, rest⟩ := given
      by_cases hinit : invocation.command = .init
      · exact warranted_of_init hplaced hcomplaint h hinit hsecret
      · cases hvalid : credential.validate with
        | ok =>
            rw [mounts_iff.2 ⟨hinit, credential, rest, hsecret, hvalid⟩] at hmounts
            cases hmounts
        | error fault =>
            obtain ⟨told, rfl, hcode⟩ := Complaint.exitCode?_of_validate hvalid
            rw [ending_unsound hplaced hsecret hinit hvalid] at h
            cases h
            rw [Failure.mem_complaint.1 hcomplaint]
            exact warranted_of_undecided hcode

/-- The complaint of a run whose container may not be read. -/
lemma warranted_of_hidden (hread : (host.access path).read = false) :
    Warranted suite moments config host invocation input complaint := by
  cases hmounts : invocation.mounts input with
  | false => exact warranted_of_not_mounts hplaced hcomplaint h hmounts
  | true =>
      rw [ending_of_mounts hplaced hmounts (Location.validateReadWrite_of_unreadable hread)] at h
      cases h
      rw [Failure.mem_complaint.1 hcomplaint]
      exact warranted_of_unreadable hplaced hread

/-- The complaint of a run whose container may be read and written. -/
lemma warranted_of_readWrite (hfile : Location.validateReadWrite host path = .ok ())
    (hopens : ∀ credential, OpensAlike suite config (moments 0) host host path path credential) :
    Warranted suite moments config host invocation input complaint := by
  cases hmounts : invocation.mounts input with
  | false => exact warranted_of_not_mounts hplaced hcomplaint h hmounts
  | true =>
      obtain ⟨hinit, credential, rest, hsecret, hvalid⟩ := mounts_iff.1 hmounts
      obtain ⟨c, saved, saved', hunlock, hunlock', hpath, htakes, htakes'⟩
          | ⟨e, -, hunlock, -⟩ := hopens credential
      · have hblame := (ending_alike hplaced hplaced rfl hsecret hsecret hinit hvalid hfile hfile
          hunlock hunlock' hpath htakes htakes').2 failure h
        exact absurd rfl (hblame _ hcomplaint complaint)
      · rw [ending_refused hplaced hsecret hinit hvalid hfile hunlock] at h
        cases h
        rw [Failure.mem_complaint.1 hcomplaint]
        exact warranted_of_refused hplaced hinit hsecret hunlock

end Failed

/-- All complaints that a run fails with are warranted, at any path. -/
theorem warranted_of_ending
    (h : invocation.ending suite moments config host input = .error failure)
    (hcomplaint : .fault (.invalidArgument complaint) ∈ failure.reasons) :
    Warranted suite moments config host invocation input complaint := by
  have hlocated := Location.located host invocation.container
  have hmisread := misread.eq_def host invocation input
  generalize Location.situation host invocation.container = situation at hlocated hmisread
  cases hlocated with
  | nowhere hvalidate hcode =>
      rw [ending_misplaced hvalidate] at h
      cases h
      rw [Failure.mem_complaint.1 hcomplaint]
      exact warranted_of_undecided hcode
  | parent hvalidate hcode =>
      rw [ending_misplaced hvalidate] at h
      cases h
      rw [Failure.mem_complaint.1 hcomplaint]
      exact warranted_of_quoted hcode hmisread
  | missing hvalidate hresolved hnode =>
      have hrights := Host.access_of_absent (Host.absent_of_node hnode)
      exact warranted_of_hidden ⟨hvalidate, hresolved⟩ hcomplaint h (congrArg Rights.read hrights)
  | unreadable hvalidate hresolved hpresent hread =>
      exact warranted_of_hidden ⟨hvalidate, hresolved⟩ hcomplaint h hread
  | unwritable hvalidate hresolved hpresent hread hwrite =>
      have hplaced : invocation.Placed host _ := ⟨hvalidate, hresolved⟩
      cases hmounts : invocation.mounts input with
      | false => exact warranted_of_not_mounts hplaced hcomplaint h hmounts
      | true =>
          rw [ending_of_mounts hplaced hmounts
            (Location.validateReadWrite_of_unwritable hread hwrite)] at h
          cases h
          rw [Failure.mem_complaint.1 hcomplaint]
          rw [hmounts] at hmisread
          exact warranted_of_quoted (Location.exitCode?_unwritable hresolved) hmisread
  | directory hvalidate hresolved hfile hnode =>
      exact warranted_of_readWrite ⟨hvalidate, hresolved⟩ hcomplaint h hfile
        (opensAlike_of_directory hfile hfile hnode hnode)
  | file hvalidate hresolved hfile hnode =>
      have hplaced : invocation.Placed host _ := ⟨hvalidate, hresolved⟩
      exact warranted_of_readWrite hplaced hcomplaint h hfile
        (opensAlike_of_file hplaced hplaced hfile hfile hnode hnode)

end Warranted

end Invocation

/-! ## Whole runs -/

namespace Program

variable {host host' : Host} {environment environment' : Environment}
  {invocation invocation' : Invocation}

/-- The same command is run on containers at two paths, which are in the same situation on their
hosts, with the same input, credential and configuration. -/
structure Elsewhere (host host' : Host) (environment environment' : Environment)
    (invocation invocation' : Invocation) : Prop where
  parsed : Invocation.parse environment.password environment.arguments = .ok invocation
  parsed' : Invocation.parse environment'.password environment'.arguments = .ok invocation'
  input : environment'.input = environment.input
  configured : Config.load host' invocation'.config environment'.configPath
    = Config.load host invocation.config environment.configPath
  elsewhere : invocation.Elsewhere host host' invocation'

/-- The exit code of a run does not depend on how the path of the container is spelled, unless a path
is misread in one of two runs: that of a directory in which no container can lie, or that of a
container that may only be read.  What a complaint decides on is warranted at every path. -/
theorem exits_alike (suite : CipherSuite) (moments : Nat → Moment)
    (h : Elsewhere host host' environment environment' invocation invocation') :
    ∃ result result',
      run suite moments host environment = .finished result
      ∧ run suite moments host' environment' = .finished result'
      ∧ (result'.code = result.code
        ↔ ((Config.load host invocation.config environment.configPath).isOk →
            invocation'.misread host' environment'.input
              = invocation.misread host environment.input))
      ∧ (∀ failure, Config.load host invocation.config environment.configPath = .error failure →
        failure.Blameless)
      ∧ ∀ config failure complaint,
        Config.load host invocation.config environment.configPath = .ok config →
        invocation.ending suite moments config host environment.input = .error failure →
        .fault (.invalidArgument complaint) ∈ failure.reasons →
          result.code = failure.exitCode
          ∧ invocation.Warranted suite moments config host environment.input complaint := by
  cases hconfig : Config.load host invocation.config environment.configPath with
  | error failure =>
      obtain ⟨result, hrun, hcode⟩ : ∃ result, run suite moments host environment
          = .finished result ∧ result.code = failure.exitCode :=
        finished_of_error h.parsed hconfig
      obtain ⟨result', hrun', hcode'⟩ : ∃ result, run suite moments host' environment'
          = .finished result ∧ result.code = failure.exitCode :=
        finished_of_error h.parsed' (h.configured.trans hconfig)
      refine ⟨result, result', hrun, hrun', iff_of_true (hcode'.trans hcode.symm) ?_, ?_, ?_⟩
      · intro hok
        cases hok
      · intro failure hfails
        exact Config.blameless_of_load (hconfig.trans hfails)
      · intro config _ _ hok
        cases hok
  | ok config =>
      obtain ⟨result, hrun, hcode⟩ : ∃ result, run suite moments host environment
          = .finished result ∧ result.code
            = codeOf (invocation.ending suite moments config host environment.input) :=
        finished_of_ending h.parsed hconfig
      obtain ⟨result', hrun', hcode'⟩ : ∃ result, run suite moments host' environment'
          = .finished result ∧ result.code
            = codeOf (invocation'.ending suite moments config host' environment'.input) :=
        finished_of_ending h.parsed' (h.configured.trans hconfig)
      refine ⟨result, result', hrun, hrun', ?_, ?_, ?_⟩
      · rw [hcode, hcode', h.input, h.elsewhere.codeOf_ending]
        exact ⟨fun hsame _ => hsame, fun hsame => hsame rfl⟩
      · intro failure hfails
        cases hfails
      · intro config failure complaint hok hending hcomplaint
        cases hok
        refine ⟨?_, Invocation.warranted_of_ending hending hcomplaint⟩
        rw [hcode, hending]
        rfl

/-! ### Runs that list a container -/

namespace Sample

open Invocation.Sample

/-- What a run is given that lists the container at a path. -/
def listing (path : String) : Environment :=
  ⟨["--key-hex", String.ofList (List.replicate 64 '0'), "ls", path], [], none, "/none"⟩

def asked (path : String) : Invocation := ⟨path, .ls "/" false false false, secrets, none⟩

/-- Two runs that list a container, with no configuration. -/
lemma elsewhere_listing {path path' : String}
    (hparse : Invocation.parse none (listing path).arguments = .ok (asked path))
    (hparse' : Invocation.parse none (listing path').arguments = .ok (asked path')) {host : Host}
    (hsituation : Location.situation host path' = Location.situation host path) :
    Elsewhere host host (listing path) (listing path') (asked path) (asked path') :=
  ⟨hparse, hparse', rfl, rfl, rfl, rfl, hsituation, fun hinit => by cases hinit⟩

end Sample

open Sample Invocation.Sample

/-- A container is listed alike at a path with one slash and with two. -/
theorem exits_alike_at_two_slashes :
    Elsewhere Invocation.Sample.host Invocation.Sample.host (listing "/box") (listing "//box")
        (asked "/box") (asked "//box")
      ∧ ∃ result result',
        run .standard (fun _ => later) Invocation.Sample.host (listing "/box") = .finished result
        ∧ run .standard (fun _ => later) Invocation.Sample.host (listing "//box")
          = .finished result'
        ∧ result'.code = result.code := by
  have hsituation : Location.situation Invocation.Sample.host "//box"
      = Location.situation Invocation.Sample.host "/box" := by
    have hresolved : Location.absolute "/box" = .ok "/box" := by decide +kernel
    have hresolved' : Location.absolute "//box" = .ok "//box" := by decide +kernel
    have hparent : HostPath.parent? "/box" = some "/" := by decide +kernel
    have hparent' : HostPath.parent? "//box" = some "/" := by decide +kernel
    exact Location.situation_of_resolve rfl rfl hresolved hresolved' hparent hparent'
      (by decide +kernel) (by decide +kernel)
  have helse : Elsewhere Invocation.Sample.host Invocation.Sample.host (listing "/box")
      (listing "//box") (asked "/box") (asked "//box") :=
    elsewhere_listing (by decide +kernel) (by decide +kernel) hsituation
  obtain ⟨result, result', hrun, hrun', hcode, -⟩ :=
    exits_alike .standard (fun _ => later) helse
  have hread : (asked "//box").misread Invocation.Sample.host []
      = (asked "/box").misread Invocation.Sample.host [] := by decide +kernel
  exact ⟨helse, result, result', hrun, hrun', hcode.2 fun _ => hread⟩

/-- Two containers in directories that are missing: a run ends with the general code, but with that
of a missing container where the directory is named like one. -/
theorem exits_apart_by_words :
    Elsewhere blank blank (listing "/missing/c.db") (listing "/does not exist/c.db")
        (asked "/missing/c.db") (asked "/does not exist/c.db")
      ∧ Location.situation blank "/missing/c.db" = .parent .missing
      ∧ ∃ result result',
        run .standard (fun _ => later) blank (listing "/missing/c.db") = .finished result
        ∧ run .standard (fun _ => later) blank (listing "/does not exist/c.db")
          = .finished result'
        ∧ result.code = ExitCode.generalError ∧ result'.code = ExitCode.notFound := by
  have helse : Elsewhere blank blank (listing "/missing/c.db") (listing "/does not exist/c.db")
      (asked "/missing/c.db") (asked "/does not exist/c.db") :=
    elsewhere_listing (by decide +kernel) (by decide +kernel) (by decide +kernel)
  have hconfig : Config.load blank none "/none" = .ok .standard := by decide +kernel
  obtain ⟨result, hrun, hcode⟩ : ∃ result,
      run .standard (fun _ => later) blank (listing "/missing/c.db") = .finished result
        ∧ result.code = codeOf ((asked "/missing/c.db").ending .standard (fun _ => later)
          .standard blank []) := finished_of_ending helse.parsed hconfig
  obtain ⟨result', hrun', hcode'⟩ : ∃ result,
      run .standard (fun _ => later) blank (listing "/does not exist/c.db") = .finished result
        ∧ result.code = codeOf ((asked "/does not exist/c.db").ending .standard (fun _ => later)
          .standard blank []) := finished_of_ending helse.parsed' hconfig
  refine ⟨helse, by decide +kernel, result, result', hrun, hrun', ?_, ?_⟩
  · rw [hcode]
    decide +kernel
  · rw [hcode']
    decide +kernel

end Program

end Strongbox
