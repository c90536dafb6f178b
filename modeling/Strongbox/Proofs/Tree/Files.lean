import Strongbox.Proofs.Tree.Words

/-!
# What files hold after many calls

Programs write to files, cut them and open them anew, in any order and under any of the keys that a
file has.  Each file then holds what the calls that succeeded on it make of what it held before.

* `FileCall` — such a call, with the words that a program gives.
* `FileCall.fill` — what it makes of the bytes of a file.
* `Tree.carryOut`, `Tree.carryOutInWords` — calls one after the other; the second one does all work
  on file data in machine words, and has no outcome where one of its sums or indices goes wrong.
* `Tree.Carried` — what one call, and then a run of them, does to the inodes of a tree.
* **`filesHold_of_carryOut`** — the files and their readers after any calls on a reachable tree.
-/

namespace Strongbox

/-! ## Calls -/

/-- A call that changes what a file holds.  Positions and lengths are any machine words. -/
inductive FileCall where
  | write (key : String) (buffer : Buffer) (offset : UInt64)
  | truncate (key : String) (length : UInt64)
  | openFile (key : String) (flags : OpenFlags)

namespace FileCall

/-- The key that a call goes through. -/
def key : FileCall → String
  | .write key _ _ | .truncate key _ | .openFile key _ => key

/-- The call as a change of the tree. -/
def change : FileCall → Change
  | .write key buffer offset => .write key buffer.bytes offset.toNat
  | .truncate key length => .truncate key length.toNat
  | .openFile key flags => .openFile key flags

/-- The size that a file has to be allowed for a call. -/
def reach : FileCall → Nat
  | .write _ buffer offset => offset.toNat + buffer.bytes.length
  | .truncate _ length => length.toNat
  | .openFile .. => 0

/-- What a call makes of the bytes of a file. -/
def fill (data : Bytes) : FileCall → Bytes
  | .write _ buffer offset => Tree.overwritten data buffer.bytes offset.toNat
  | .truncate _ length => Tree.resized data length.toNat
  | .openFile _ flags => if flags.writes && flags.contains .truncate then [] else data

/-- The tree after a call on a file, which an open that drops no data leaves as it is. -/
def left (stamp : Stamp) (t : Tree) (ino : Nat) (data : Bytes) : FileCall → Tree
  | .openFile _ flags =>
    if flags.writes && flags.contains .truncate then t.modify ino (.setData stamp []) else t
  | call => t.modify ino (.setData stamp (fill data call))

/-- What a call makes of what an inode holds.  Only files are changed. -/
def fillKind (kind : NodeKind) (call : FileCall) : NodeKind :=
  match kind with
  | .file data => .file (fill data call)
  | .directory | .symlink _ => kind

lemma fillKind_other (call : FileCall) {kind : NodeKind} (h : ∀ data, kind ≠ .file data) :
    fillKind kind call = kind := by
  cases kind with
  | file data => exact absurd rfl (h data)
  | directory => rfl
  | symlink target => rfl

end FileCall

namespace Tree

/-- Work in machine words on the data of a file, which gives new data or an error. -/
def refill? (t : Tree) (stamp : Stamp) (key : String)
    (work : Bytes → Option (Except Errno Bytes)) : Option (Except Errno Unit × Tree) :=
  match t.fileData key with
  | .error code => some (.error code, t)
  | .ok (ino, data) => do
    match ← work data with
    | .error code => some (.error code, t)
    | .ok new => some (.ok (), t.modify ino (.setData stamp new))

/-- A read in machine words, into a buffer. -/
def readInWords (t : Tree) (key : String) (buffer : Buffer) (offset : UInt64) :
    Option (Except Errno Bytes) :=
  match t.fileData key with
  | .error code => some (.error code)
  | .ok (_, data) => Words.read? data buffer offset

end Tree

/-- A call in machine words. -/
def FileCall.inWords (stamp : Stamp) (t : Tree) : FileCall → Option (Except Errno Unit × Tree)
  | .write key buffer offset => t.refill? stamp key (Words.write? · buffer offset)
  | .truncate key length => t.refill? stamp key (Words.truncate? · length)
  | .openFile key flags => some ((Change.openFile key flags).perform stamp t)

namespace Tree

variable {t t' t'' : Tree} {stamp : Stamp} {key : String} {ino : Nat} {data : Bytes}
  {call : FileCall} {outcome : Except Errno Unit} {log log' : List (FileCall × Except Errno Unit)}

/-- Calls one after the other, each with its outcome, and the tree that they leave. -/
def carryOut (t : Tree) : List (Stamp × FileCall) → List (FileCall × Except Errno Unit) × Tree
  | [] => ([], t)
  | (stamp, call) :: rest =>
    let (outcome, left) := call.change.perform stamp t
    let (log, last) := left.carryOut rest
    ((call, outcome) :: log, last)

/-- The same in machine words. -/
def carryOutInWords (t : Tree) :
    List (Stamp × FileCall) → Option (List (FileCall × Except Errno Unit) × Tree)
  | [] => some ([], t)
  | (stamp, call) :: rest => do
    let (outcome, left) ← call.inWords stamp t
    let (log, last) ← left.carryOutInWords rest
    some ((call, outcome) :: log, last)

/-- The calls that succeeded through some key of an inode, in their order. -/
def made (t : Tree) (ino : Nat) (log : List (FileCall × Except Errno Unit)) : List FileCall :=
  (log.filter fun entry => entry.2.isOk && t.entries[entry.1.key]? == some ino).map Prod.fst

lemma made_append : t.made ino (log ++ log') = t.made ino log ++ t.made ino log' := by
  rw [made, List.filter_append, List.map_append]
  rfl

lemma made_congr (h : t'.entries = t.entries) : t'.made ino log = t.made ino log := by
  rw [made, h]
  rfl

/-! ## What a run of calls does to the inodes -/

/-- No key is changed, what an inode holds is changed by the calls that succeeded on it, and an
inode without such a call is left alone altogether. -/
structure Carried (t : Tree) (log : List (FileCall × Except Errno Unit)) (t' : Tree) : Prop where
  entries : t'.entries = t.entries
  kinds : ∀ ino, t'.inodes[ino]?.map Inode.kind
    = (t.inodes[ino]?.map Inode.kind).map ((t.made ino log).foldl FileCall.fillKind ·)
  same : ∀ {ino}, t.made ino log = [] → t'.inodes[ino]? = t.inodes[ino]?

namespace Carried

lemma refl (t : Tree) : t.Carried [] t :=
  ⟨rfl, fun _ => Option.map_id'.symm, fun _ => rfl⟩

lemma trans (h : t.Carried log t') (h' : t'.Carried log' t'') : t.Carried (log ++ log') t'' := by
  refine ⟨h'.entries.trans h.entries, fun ino => ?_, fun {ino} hnone => ?_⟩
  · rw [h'.kinds, h.kinds, made_congr h.entries, made_append, Option.map_map]
    simp only [List.foldl_append]
    rfl
  · rw [made_append, List.append_eq_nil_iff] at hnone
    rw [h'.same ((made_congr h.entries).trans hnone.2), h.same hnone.1]

end Carried

lemma fileData_iff_kind : t.fileData key = .ok (ino, data)
    ↔ t.entries[key]? = some ino ∧ t.inodes[ino]?.map Inode.kind = some (.file data) := by
  rw [fileData_eq_ok, Option.map_eq_some_iff]
  tauto

lemma foldl_fillKind_file (calls : List FileCall) (data : Bytes) :
    calls.foldl FileCall.fillKind (.file data) = .file (calls.foldl FileCall.fill data) := by
  induction calls generalizing data with
  | nil => rfl
  | cons call rest ih => exact ih _

/-- What is no file stays as it is. -/
lemma foldl_fillKind_other (calls : List FileCall) {kind : NodeKind}
    (h : ∀ data, kind ≠ .file data) : calls.foldl FileCall.fillKind kind = kind := by
  induction calls with
  | nil => rfl
  | cons call rest ih => rw [List.foldl_cons, FileCall.fillKind_other call h, ih]

/-- Under every key of a file there is what the calls on the file make of it. -/
lemma Carried.fileData_iff (h : t.Carried log t') {new : Bytes} :
    t'.fileData key = .ok (ino, new) ↔ ∃ data, t.fileData key = .ok (ino, data)
      ∧ new = (t.made ino log).foldl FileCall.fill data := by
  simp only [fileData_iff_kind, h.entries, h.kinds, Option.map_eq_some_iff]
  constructor
  · rintro ⟨hkey, kind, hkind, hnew⟩
    cases kind with
    | file data =>
        rw [foldl_fillKind_file] at hnew
        exact ⟨data, ⟨hkey, hkind⟩, (NodeKind.file.inj hnew).symm⟩
    | directory | symlink target =>
        rw [foldl_fillKind_other _ fun data => by simp] at hnew
        cases hnew
  · rintro ⟨data, ⟨hkey, hkind⟩, rfl⟩
    exact ⟨hkey, .file data, hkind, foldl_fillKind_file _ data⟩

/-! ## One call -/

lemma made_singleton : t.made ino [(call, outcome)]
    = if outcome.isOk = true ∧ t.entries[call.key]? = some ino then [call] else [] := by
  by_cases h : outcome.isOk = true ∧ t.entries[call.key]? = some ino
  · simp [made, h.1, h.2]
  · rw [if_neg h, made, List.map_eq_nil_iff, List.filter_eq_nil_iff]
    intro entry hentry
    rw [List.mem_singleton.1 hentry, Bool.and_eq_true, beq_iff_eq]
    exact h

/-- A call that leaves the tree alone has failed, or asks for what the file holds already. -/
lemma carried_self (h : ∀ {ino inode}, outcome.isOk = true → t.entries[call.key]? = some ino →
    t.inodes[ino]? = some inode → FileCall.fillKind inode.kind call = inode.kind) :
    t.Carried [(call, outcome)] t := by
  refine ⟨rfl, fun ino => ?_, fun _ => rfl⟩
  rw [made_singleton]
  split
  · next hmade =>
      cases hinode : t.inodes[ino]? with
      | none => rfl
      | some inode => exact congrArg some (h hmade.1 hmade.2 hinode).symm
  · exact Option.map_id'.symm

/-- A call that puts new data into a file. -/
lemma carried_setData (h : t.fileData call.key = .ok (ino, data)) (stamp : Stamp) :
    t.Carried [(call, .ok ())] (t.modify ino (.setData stamp (call.fill data))) := by
  obtain ⟨inode, hkey, hinode, hkind⟩ := fileData_ok h
  refine ⟨rfl, fun other => ?_, fun {other} hnone => ?_⟩
  · rw [made_singleton, inodes_modify, hkey]
    by_cases hother : ino = other
    · subst hother
      rw [if_pos rfl, if_pos ⟨rfl, rfl⟩, hinode]
      show some (NodeKind.file (call.fill data)) = some (FileCall.fillKind inode.kind call)
      rw [hkind]
      rfl
    · rw [if_neg hother, if_neg fun hsame => hother (Option.some.inj hsame.2)]
      exact Option.map_id'.symm
  · rw [made_singleton, hkey] at hnone
    have hother : ino ≠ other := by
      rintro rfl
      rw [if_pos ⟨rfl, rfl⟩] at hnone
      cases hnone
    rw [inodes_modify, if_neg hother]

section File

variable (h : t.fileData call.key = .ok (ino, data))

include h

/-- A call fails on a file only where the file would become larger than the store allows. -/
lemma perform_of_fileData (stamp : Stamp) : call.change.perform stamp t
    = if maxFileSize < call.reach then (.error .tooBig, t)
      else (.ok (), call.left stamp t ino data) := by
  have happly : call.change.apply stamp t
      = if maxFileSize < call.reach then .error .tooBig else .ok (call.left stamp t ino data) := by
    cases call with
    | write key buffer offset => exact write_of_fileData h buffer.bytes offset.toNat
    | truncate key length => exact truncate_of_fileData h length.toNat
    | openFile key flags => exact openFile_of_fileData h flags
  rw [Change.perform_eq_settle, happly]
  split <;> rfl

lemma carried_left (stamp : Stamp) :
    t.Carried [(call, .ok ())] (call.left stamp t ino data) := by
  have hfill := carried_setData h stamp
  cases call with
  | write key buffer offset => exact hfill
  | truncate key length => exact hfill
  | openFile key flags =>
      cases hdrop : flags.writes && flags.contains .truncate with
      | true =>
          rw [FileCall.fill, if_pos hdrop] at hfill
          rwa [FileCall.left, if_pos hdrop]
      | false =>
          rw [FileCall.left, if_neg (Bool.eq_false_iff.1 hdrop)]
          refine carried_self fun {_ inode} _ _ _ => ?_
          cases inode.kind with
          | file old => rw [FileCall.fillKind, FileCall.fill, if_neg (Bool.eq_false_iff.1 hdrop)]
          | directory | symlink target => rfl

end File

/-- Work on a file ends where there is no file. -/
lemma settle_of_error {code : Errno} (h : t.fileData key = .error code)
    (work : Nat × Bytes → Except Errno Tree) :
    Edit.settle t (t.fileData key >>= work) = (.error code, t) := by
  rw [h]
  rfl

/-- Where there is no file, nothing is changed, whether the call fails or not. -/
lemma perform_of_error {code : Errno} (h : t.fileData call.key = .error code) (stamp : Stamp) :
    (call.change.perform stamp t).2 = t := by
  rw [Change.perform_eq_settle]
  cases call with
  | write key buffer offset => exact congrArg Prod.snd (settle_of_error h _)
  | truncate key length => exact congrArg Prod.snd (settle_of_error h _)
  | openFile key flags =>
      show (Edit.settle t (t.openFile stamp key flags)).2 = t
      cases hopen : t.openFile stamp key flags with
      | error code => rfl
      | ok t' =>
          rcases openFile_ok hopen with rfl | ⟨ino, inode, data, -, hkey, hinode, hkind, -⟩
          · rfl
          · cases h.symm.trans (fileData_eq_ok.2 ⟨inode, hkey, hinode, hkind⟩)

/-- One call does to the inodes what its outcome tells. -/
lemma carried_of_perform (t : Tree) (call : FileCall) (stamp : Stamp) :
    t.Carried [(call, (call.change.perform stamp t).1)] (call.change.perform stamp t).2 := by
  cases hfile : t.fileData call.key with
  | ok found =>
      rw [perform_of_fileData hfile]
      split
      · exact carried_self fun hok => absurd hok Bool.false_ne_true
      · exact carried_left hfile stamp
  | error code =>
      rw [perform_of_error hfile]
      refine carried_self fun {ino inode} _ hkey hinode => ?_
      refine FileCall.fillKind_other call fun data hkind => ?_
      cases hfile.symm.trans (fileData_eq_ok.2 ⟨inode, hkey, hinode, hkind⟩)

lemma WellFormed.perform (h : t.WellFormed) (call : FileCall) (stamp : Stamp) :
    (call.change.perform stamp t).2.WellFormed := by
  rw [Change.perform_eq_settle]
  cases ha : call.change.apply stamp t with
  | error code => exact h
  | ok t' =>
      cases call with
      | write key buffer offset => exact h.write ha
      | truncate key length => exact h.truncate ha
      | openFile key flags => exact h.openFile ha

/-! ## One call in machine words -/

/-- The files of a tree are so small that machine words can count their bytes. -/
lemma WellFormed.length_lt (h : t.WellFormed) (hfile : t.fileData key = .ok (ino, data)) :
    data.length < UInt64.size := by
  obtain ⟨inode, -, hinode, hkind⟩ := fileData_ok hfile
  have hsize := (h.limits hinode).size_le data hkind
  have hlarge : maxFileSize < UInt64.size := by decide
  omega

/-- Work that keeps to the size that the store allows changes the file, or nothing. -/
lemma refill?_of_fileData (h : t.fileData key = .ok (ino, data)) {reach : Nat} {new : Bytes}
    {work : Bytes → Option (Except Errno Bytes)}
    (hwork : work data = some (if maxFileSize < reach then .error .tooBig else .ok new)) :
    t.refill? stamp key work = some (if maxFileSize < reach then (.error .tooBig, t)
      else (.ok (), t.modify ino (.setData stamp new))) := by
  rw [refill?, h]
  simp only [hwork]
  split <;> rfl

lemma refill?_of_error {code : Errno} (h : t.fileData key = .error code)
    (work : Bytes → Option (Except Errno Bytes)) :
    t.refill? stamp key work = some (.error code, t) := by
  rw [refill?, h]

/-- A call does in machine words what it does in numbers without a bound. -/
lemma WellFormed.inWords_eq (h : t.WellFormed) (call : FileCall) (stamp : Stamp) :
    call.inWords stamp t = some (call.change.perform stamp t) := by
  cases hfile : t.fileData call.key with
  | ok found =>
      have hdata := h.length_lt hfile
      rw [perform_of_fileData hfile]
      cases call with
      | write key buffer offset =>
          exact refill?_of_fileData hfile (Words.write?_eq hdata buffer offset)
      | truncate key length => exact refill?_of_fileData hfile (Words.truncate?_eq hdata length)
      | openFile key flags => exact congrArg some (perform_of_fileData hfile stamp)
  | error code =>
      cases call with
      | write key buffer offset =>
          rw [Change.perform_eq_settle]
          exact (refill?_of_error hfile _).trans (congrArg some (settle_of_error hfile _).symm)
      | truncate key length =>
          rw [Change.perform_eq_settle]
          exact (refill?_of_error hfile _).trans (congrArg some (settle_of_error hfile _).symm)
      | openFile key flags => rfl

lemma WellFormed.readInWords_eq (h : t.WellFormed) (key : String) (buffer : Buffer)
    (offset : UInt64) :
    t.readInWords key buffer offset = some (t.read key buffer.bytes.length offset.toNat) := by
  rw [readInWords]
  split
  · next code hfile =>
      rw [read, hfile]
      rfl
  · next ino data hfile => rw [Words.read?_eq (h.length_lt hfile), read_of_fileData hfile]

/-! ## Runs of calls -/

/-- A run of calls does to the inodes what the outcomes of all of them tell. -/
theorem carried_of_carryOut (t : Tree) (calls : List (Stamp × FileCall)) :
    t.Carried (t.carryOut calls).1 (t.carryOut calls).2 := by
  induction calls generalizing t with
  | nil => exact .refl t
  | cons entry rest ih => exact (carried_of_perform t entry.2 entry.1).trans (ih _)

/-- Every call of a run fails on a file only where the file would become too large. -/
lemma outcome_of_carryOut {calls : List (Stamp × FileCall)}
    (hmem : (call, outcome) ∈ (t.carryOut calls).1)
    (hfile : t.fileData call.key = .ok (ino, data)) :
    outcome = if maxFileSize < call.reach then .error .tooBig else .ok () := by
  induction calls generalizing t data with
  | nil => cases hmem
  | cons entry rest ih =>
      rcases List.mem_cons.1 hmem with heq | hmem
      · obtain ⟨rfl, hout⟩ := Prod.mk.inj heq
        rw [hout]
        refine (congrArg Prod.fst (perform_of_fileData hfile entry.1)).trans ?_
        split <;> rfl
      · exact ih hmem ((carried_of_perform t entry.2 entry.1).fileData_iff.2 ⟨data, hfile, rfl⟩)

lemma WellFormed.carryOut (h : t.WellFormed) (calls : List (Stamp × FileCall)) :
    (t.carryOut calls).2.WellFormed := by
  induction calls generalizing t with
  | nil => exact h
  | cons entry rest ih => exact ih (h.perform entry.2 entry.1)

/-- No sum and no index goes wrong in a run of calls. -/
theorem WellFormed.carryOutInWords_eq (h : t.WellFormed) (calls : List (Stamp × FileCall)) :
    t.carryOutInWords calls = some (t.carryOut calls) := by
  induction calls generalizing t with
  | nil => rfl
  | cons entry rest ih =>
      simp only [carryOutInWords, h.inWords_eq, ih (h.perform entry.2 entry.1),
        Option.bind_eq_bind, Option.bind_some]
      rfl

/-! ## Files and their readers -/

/-- What there is to know about the files of a tree after some calls. -/
structure FilesHold (t : Tree) (log : List (FileCall × Except Errno Unit)) (t' : Tree) : Prop where
  /-- A call on a file fails only where the file would become too large. -/
  outcome : ∀ {call : FileCall} {outcome ino data}, (call, outcome) ∈ log →
    t.fileData call.key = .ok (ino, data) →
      outcome = if maxFileSize < call.reach then .error .tooBig else .ok ()
  /-- Under each of its keys, a file holds what the calls that succeeded on it make of its bytes. -/
  data : ∀ {key ino new}, t'.fileData key = .ok (ino, new) ↔ ∃ data,
    t.fileData key = .ok (ino, data) ∧ new = (t.made ino log).foldl FileCall.fill data
  /-- A directory or a symbolic link holds what it held. -/
  kinds : ∀ {ino : Nat} {kind}, t.inodes[ino]?.map Inode.kind = some kind →
    (∀ data, kind ≠ .file data) → t'.inodes[ino]?.map Inode.kind = some kind
  /-- An inode on which no call succeeded is as before. -/
  others : ∀ {ino}, t.made ino log = [] → t'.inodes[ino]? = t.inodes[ino]?
  /-- A read gives what lies between two places of a file, and fails at its end. -/
  read : ∀ {key ino data}, t'.fileData key = .ok (ino, data) → ∀ buffer offset,
    t'.readInWords key buffer offset = some (if buffer.bytes.length = 0 then .ok []
      else if data.length ≤ offset.toNat then .error .ioFailure
      else .ok ((data.drop offset.toNat).take buffer.bytes.length))
  /-- A further call that fails on a file changes nothing. -/
  refused : ∀ {call : FileCall} {ino data}, t'.fileData call.key = .ok (ino, data) →
    maxFileSize < call.reach → ∀ stamp, call.change.perform stamp t' = (.error .tooBig, t')

/-- Whatever calls are made on the files of a reachable tree, no sum and no index goes wrong, each
file holds under all of its keys what the calls on it amount to, and it is read as that. -/
theorem filesHold_of_carryOut (h : Reachable t) (calls : List (Stamp × FileCall)) :
    t.carryOutInWords calls = some (t.carryOut calls)
      ∧ (∀ key buffer offset, (t.carryOut calls).2.readInWords key buffer offset
        = some ((t.carryOut calls).2.read key buffer.bytes.length offset.toNat))
      ∧ t.FilesHold (t.carryOut calls).1 (t.carryOut calls).2 := by
  have hwell : t.WellFormed := by
    induction h with
    | start stamp => exact wellFormed_empty stamp
    | step stamp asked run paths ih =>
        rw [Change.perform_snd]
        exact ih.after stamp paths
  have hlast := hwell.carryOut calls
  have hcarried := t.carried_of_carryOut calls
  refine ⟨hwell.carryOutInWords_eq calls, hlast.readInWords_eq, ?_⟩
  constructor
  · exact outcome_of_carryOut
  · exact hcarried.fileData_iff
  · intro ino kind hkind hother
    rw [hcarried.kinds, hkind, Option.map_some, foldl_fillKind_other _ hother]
  · exact hcarried.same
  · intro key ino data hfile buffer offset
    rw [hlast.readInWords_eq, read_of_fileData hfile]
  · intro call ino data hfile hreach stamp
    rw [perform_of_fileData hfile, if_pos hreach]

/-- A file with two keys: a write behind its end, a cut under the other key, a write that reaches
too far, an open that drops the data, and a last write. -/
theorem filesHold_after_link : ∃ t : Tree, Reachable t ∧ ∃ calls : List (Stamp × FileCall),
    t.FilesHold (t.carryOut calls).1 (t.carryOut calls).2
      ∧ (t.carryOut calls).1.map Prod.snd
        = [.ok (), .ok (), .error .tooBig, .ok (), .ok ()]
      ∧ (t.carryOut (calls.take 3)).2.fileData "/g" = .ok (2, [0, 0, 1, 2])
      ∧ (t.carryOut calls).2.fileData "/f" = .ok (2, [0, 7]) := by
  let stamp : Stamp := ⟨.epoch, 0, 0⟩
  have made : Reachable _ := .step stamp (.create "/f" 0o644) (.start stamp) rfl
  have linked : Reachable _ := .step stamp (.link "/f" "/g") made rfl
  let calls : List FileCall := [.write "/f" ⟨[1, 2, 3], by decide⟩ 2, .truncate "/g" 4,
    .write "/g" ⟨[4], by decide⟩ 0xffffffffffffffff, .openFile "/f" (.union .writeOnly .truncate),
    .write "/g" ⟨[7], by decide⟩ 1]
  exact ⟨_, linked, calls.map (stamp, ·), (filesHold_of_carryOut linked _).2.2, by decide +kernel,
    by decide +kernel, by decide +kernel⟩

end Tree

end Strongbox
