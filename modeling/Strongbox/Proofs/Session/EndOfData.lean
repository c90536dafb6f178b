import Strongbox.Proofs.Engine.Genuine
import Strongbox.Proofs.Engine.Tamper
import Strongbox.Proofs.Key.Normalization
import Strongbox.Proofs.Session.OpenCall
import Strongbox.Proofs.Tree.Resolution

/-!
# The end of a file

An engine has one code for two things: there is nothing left to read, and an entry leads to an inode
that does not exist.  A session takes the code for the first, and tells the caller that no bytes were
read.  It may do so because the second never happens in a tree that an engine made.

* `Tree.HasFile`, `Tree.Unreadable` — a path can be read, or there is a reason why it cannot.
* `Tree.readable_or_not` — one of the two, in a tree that is in order.
* **`Session.told_by_pread`** — a read of no bytes means that there are none, and every failure is
  told for its own reason.
-/

namespace Strongbox

/-! ## What can be read -/

namespace Tree

variable {t : Tree} {path key : String} {data : Bytes} {code : Errno} {count offset : Nat}

/-- A path names a regular file that holds certain bytes. -/
def HasFile (t : Tree) (path : String) (data : Bytes) : Prop :=
  ∃ key inode, Key.normalize path = .ok key ∧ t.node key = .ok inode ∧ inode.kind = .file data

/-- Nothing can be read at a path: it is not valid, it leads past something that is no directory or
to a name that a directory lacks, or it names a directory or a symbolic link. -/
inductive Unreadable (t : Tree) (path : String) : Errno → Prop
  | unnamed {code : Errno} (hpath : Key.normalize path = .error code) : Unreadable t path code
  | blocked {key : String} (hpath : Key.normalize path = .ok key)
      (hkey : t.Blocked (Key.names key)) : Unreadable t path .notDirectory
  | lacking {key : String} (hpath : Key.normalize path = .ok key)
      (hkey : t.Lacking (Key.names key)) : Unreadable t path .noEntry
  | directory {key : String} (hpath : Key.normalize path = .ok key) (hdir : t.isDir key = true) :
      Unreadable t path .isDirectory
  | symlink {key target : String} {inode : Inode} (hpath : Key.normalize path = .ok key)
      (hnode : t.node key = .ok inode) (hkind : inode.kind = .symlink target) :
      Unreadable t path .invalid

lemma HasFile.exists_fileData (h : t.HasFile path data) :
    ∃ key ino, Key.normalize path = .ok key ∧ t.fileData key = .ok (ino, data) := by
  obtain ⟨key, inode, hpath, hnode, hkind⟩ := h
  obtain ⟨ino, hkey, hinode⟩ := node_eq_ok.1 hnode
  exact ⟨key, ino, hpath, fileData_eq_ok.2 ⟨inode, hkey, hinode, hkind⟩⟩

/-- The bytes of a file from an offset on. -/
lemma read_of_hasFile (h : t.HasFile path data) (count offset : Nat) :
    (t.atPath path fun t key => t.read key count offset) = if count = 0 then .ok []
      else if data.length ≤ offset then .error .ioFailure
      else .ok ((data.drop offset).take count) := by
  obtain ⟨key, ino, hpath, hdata⟩ := h.exists_fileData
  rw [atPath_of_normalize hpath]
  exact read_of_fileData hdata count offset

lemma read_of_lookup (hpath : Key.normalize path = .ok key) (hlookup : t.lookup key = .error code)
    (count offset : Nat) : (t.atPath path fun t key => t.read key count offset) = .error code := by
  rw [atPath_of_normalize hpath, read, fileData, hlookup]
  rfl

/-- What cannot be read is refused for its reason. -/
lemma read_of_unreadable (ht : t.WellFormed) (h : t.Unreadable path code) (count offset : Nat) :
    (t.atPath path fun t key => t.read key count offset) = .error code := by
  cases h with
  | unnamed hpath =>
      rw [atPath, hpath]
      rfl
  | blocked hpath hkey =>
      have hwalk := walk_eq_notDirectory.2 hkey
      exact read_of_lookup hpath
        ((walk_names_eq_error ht (Key.normalize_canonical hpath)).1 hwalk) count offset
  | lacking hpath hkey =>
      have hwalk := walk_eq_noEntry.2 hkey
      exact read_of_lookup hpath
        ((walk_names_eq_error ht (Key.normalize_canonical hpath)).1 hwalk) count offset
  | directory hpath hdir =>
      obtain ⟨ino, inode, hkey, hinode, hdir⟩ := isDir_eq_true.1 hdir
      have hkind : inode.kind = .directory := of_decide_eq_true hdir
      rw [atPath_of_normalize hpath, (found_of_entry ht hkey hinode).read, hkind]
  | symlink hpath hnode hkind =>
      obtain ⟨ino, hkey, hinode⟩ := node_eq_ok.1 hnode
      rw [atPath_of_normalize hpath, (found_of_entry ht hkey hinode).read, hkind]

lemma Unreadable.mem_codes (h : t.Unreadable path code) :
    code ∈ [Errno.noEntry, .notDirectory, .isDirectory, .invalid] := by
  cases h with
  | unnamed hpath =>
      obtain ⟨-, rfl⟩ | ⟨-, rfl⟩ := Key.normalize_eq_error.1 hpath <;> decide
  | _ => decide

/-- The reason arrives as itself, and is not taken for the end of a file. -/
lemma Unreadable.ofCode (h : t.Unreadable path code) :
    Errno.ofCode code.number = code ∧ code ≠ .ioFailure := by
  have hcodes : ∀ code ∈ [Errno.noEntry, .notDirectory, .isDirectory, .invalid],
      Errno.ofCode code.number = code ∧ code ≠ .ioFailure := by decide +kernel
  exact hcodes code h.mem_codes

/-- **Every path can be read or there is a reason why it cannot**, since no entry leads nowhere. -/
theorem readable_or_not (ht : t.WellFormed) (path : String) :
    (∃ data, t.HasFile path data) ∨ ∃ code, t.Unreadable path code := by
  cases hpath : Key.normalize path with
  | error code => exact Or.inr ⟨code, .unnamed hpath⟩
  | ok key =>
      have hk := Key.normalize_canonical hpath
      cases hlookup : t.lookup key with
      | error code =>
          have hwalk := (walk_names_eq_error ht hk).2 hlookup
          obtain rfl | rfl := cases_of_lookup hlookup
          · exact Or.inr ⟨_, .lacking hpath (walk_eq_noEntry.1 hwalk)⟩
          · exact Or.inr ⟨_, .blocked hpath (walk_eq_notDirectory.1 hwalk)⟩
      | ok ino =>
          have hkey := lookup_eq_ok.1 hlookup
          obtain ⟨inode, hinode⟩ := ht.inode_exists hkey
          have hnode := node_eq_ok.2 ⟨ino, hkey, hinode⟩
          cases hkind : inode.kind with
          | file data => exact Or.inl ⟨data, key, inode, hpath, hnode, hkind⟩
          | symlink target => exact Or.inr ⟨_, .symlink hpath hnode hkind⟩
          | directory =>
              refine Or.inr ⟨_, .directory hpath ?_⟩
              rw [isDir_of_inode hkey hinode]
              exact decide_eq_true hkind

/-- A file holds only one list of bytes. -/
lemma HasFile.unique {other : Bytes} (h : t.HasFile path data) (h' : t.HasFile path other) :
    other = data := by
  obtain ⟨key, inode, hpath, hnode, hkind⟩ := h
  obtain ⟨key', inode', hpath', hnode', hkind'⟩ := h'
  obtain rfl := Except.ok.inj (hpath.symm.trans hpath')
  obtain rfl := Except.ok.inj (hnode.symm.trans hnode')
  exact NodeKind.file.inj (hkind'.symm.trans hkind)

lemma HasFile.exists_iff (h : t.HasFile path data) {holds : Bytes → Prop} :
    (∃ data, t.HasFile path data ∧ holds data) ↔ holds data :=
  ⟨fun ⟨_, hother, hholds⟩ => h.unique hother ▸ hholds, fun hholds => ⟨data, h, hholds⟩⟩

/-- What can be read has no reason to be refused. -/
lemma HasFile.not_unreadable (ht : t.WellFormed) (h : t.HasFile path data) :
    ¬ t.Unreadable path code := by
  intro hcode
  have hread := read_of_unreadable ht hcode 0 0
  rw [read_of_hasFile h, if_pos rfl] at hread
  cases hread

end Tree

/-! ## Reading -/

namespace Session

variable {suite : CipherSuite} {thread : Thread} {line : Timeline} {c : OpenContainer}
  {host : Host} {s : Session}

/-- Nothing is left behind the end, and nothing is read where nothing is asked for. -/
lemma none_read_iff {data : Bytes} {count offset : Nat} :
    ((data.drop offset).take count).length = 0 ↔ count = 0 ∨ data.length ≤ offset := by
  rw [List.length_take, List.length_drop]
  omega

section Read

variable (suite thread) (h : line.Holds c host) (hs : s.isMounted = true) (handle : PathHandle)
  (count offset : Nat)

include h

/-- The engine tells what the tree says. -/
lemma answer_read :
    (line.machine.answer suite line.moment thread (.read handle.path count offset)).1
      = shownReply [] List.length
        (c.tree.atPath handle.path fun t key => t.read key count offset) := by
  obtain ⟨m, hshown, -⟩ :=
    h.shown thread [] List.length handle.path fun t key => t.read key count offset
  exact congrArg Prod.fst hshown

/-- The code for the end of a file stands for nothing else. -/
lemma answer_eq_ioFailure_iff (ht : c.tree.WellFormed) :
    (line.machine.answer suite line.moment thread (.read handle.path count offset)).1.1
        = -Errno.ioFailure.number
      ↔ ∃ data, c.tree.HasFile handle.path data ∧ count ≠ 0 ∧ data.length ≤ offset := by
  rw [answer_read suite thread h]
  obtain ⟨data, hfile⟩ | ⟨code, hcode⟩ := c.tree.readable_or_not ht handle.path
  · rw [hfile.exists_iff, Tree.read_of_hasFile hfile]
    by_cases hcount : count = 0
    · rw [if_pos hcount]
      exact iff_of_false (by decide) fun hmore => hmore.1 hcount
    · rw [if_neg hcount]
      by_cases hend : data.length ≤ offset
      · rw [if_pos hend]
        exact iff_of_true rfl ⟨hcount, hend⟩
      · rw [if_neg hend]
        refine iff_of_false (fun hcode => ?_) fun hmore => hend hmore.2
        have hnegative : -(Errno.ioFailure.number : Int) < 0 := by decide
        exact absurd (Int.natCast_nonneg _) (not_le.2 (hcode.symm ▸ hnegative))
  · obtain ⟨hsame, hne⟩ := hcode.ofCode
    rw [Tree.read_of_unreadable ht hcode]
    refine iff_of_false (fun hnumber => hne ?_) fun ⟨data, hfile, _⟩ =>
      hfile.not_unreadable ht hcode
    have hsameNumber : (code.number : Int) = Errno.ioFailure.number := Int.neg_inj.1 hnumber
    rw [← hsame, hsameNumber]
    decide +kernel

include hs

/-- A session tells why a read has failed, unless that was for the end of the file. -/
lemma runOn_pread_of_error {code : Errno}
    (hread : (c.tree.atPath handle.path fun t key => t.read key count offset) = .error code) :
    ∃ line', (s.pread handle count offset).runOn suite thread line
        = (if Errno.ofCode code.number = .ioFailure then .ok (0, [])
          else .error (.failed "pread" (.ofCode code.number)), line')
      ∧ line'.Holds c host := by
  obtain ⟨m, hshown, huntouched⟩ :=
    h.shown thread [] List.length handle.path fun t key => t.read key count offset
  have hnumber : 0 < code.number :=
    c.tree.numbered_atPath handle.path (fun key => c.tree.numbered_read key count offset) code hread
  refine ⟨line.goOn m, ?_, h.of_untouched huntouched⟩
  rw [pread, Call.require_bind hs,
    Call.runOn_request_bind (.read handle.path count offset) hshown, hread]
  simp only [shownReply, check_failure "pread" hnumber, Fault.isErrno_told, decide_eq_true_eq]
  split <;> rfl

/-- **A read of no bytes means that there are none.**  It gives none exactly where the path names a
regular file, and nothing is asked for or the offset is at its end or behind it.  Every other file
gives its bytes, and every path that cannot be read fails for the reason that it has. -/
theorem told_by_pread (hgenuine : line.machine.Genuine suite) :
    ∃ outcome line', (s.pread handle count offset).runOn suite thread line = (outcome, line')
      ∧ line'.Holds c host
      ∧ ((∃ bytes, outcome = .ok (0, bytes)) ↔ ∃ data, c.tree.HasFile handle.path data
        ∧ (count = 0 ∨ data.length ≤ offset))
      ∧ (∀ {data}, c.tree.HasFile handle.path data → outcome
        = .ok (((data.drop offset).take count).length, (data.drop offset).take count))
      ∧ (∀ fault, outcome = .error fault
        ↔ ∃ code, c.tree.Unreadable handle.path code ∧ fault = .failed "pread" code)
      ∧ ((line.machine.answer suite line.moment thread (.read handle.path count offset)).1.1
          = -Errno.ioFailure.number
        ↔ ∃ data, c.tree.HasFile handle.path data ∧ count ≠ 0 ∧ data.length ≤ offset) := by
  have ht := (Machine.sound_of_genuine hgenuine h.opened).tree
  rw [answer_eq_ioFailure_iff suite thread h handle count offset ht]
  obtain ⟨data, hfile⟩ | ⟨code, hcode⟩ := c.tree.readable_or_not ht handle.path
  · obtain ⟨key, ino, hpath, hdata⟩ := hfile.exists_fileData
    obtain ⟨line', hrun, hline'⟩ := Call.runOn_pread suite thread h hs hpath hdata count offset
    refine ⟨_, line', hrun, hline', ?_, fun hother => hfile.unique hother ▸ rfl, fun fault => ?_,
      Iff.rfl⟩
    · rw [hfile.exists_iff, ← none_read_iff]
      exact ⟨fun ⟨bytes, hbytes⟩ => congrArg Prod.fst (Except.ok.inj hbytes),
        fun hnone => ⟨_, by rw [hnone]⟩⟩
    · exact iff_of_false nofun fun ⟨code, hcode, _⟩ => hfile.not_unreadable ht hcode
  · have hread := Tree.read_of_unreadable ht hcode count offset
    obtain ⟨line', hrun, hline'⟩ := runOn_pread_of_error suite thread h hs handle count offset hread
    obtain ⟨hsame, hne⟩ := hcode.ofCode
    rw [hsame, if_neg hne] at hrun
    have hnone : ∀ data, ¬ c.tree.HasFile handle.path data :=
      fun data hfile => hfile.not_unreadable ht hcode
    refine ⟨_, line', hrun, hline', ?_, fun hfile => absurd hfile (hnone _), fun fault => ?_,
      Iff.rfl⟩
    · exact iff_of_false nofun fun ⟨data, hfile, _⟩ => hnone data hfile
    · refine ⟨fun hfault => ⟨code, hcode, (Except.error.inj hfault).symm⟩, ?_⟩
      rintro ⟨other, hother, rfl⟩
      have hread' := Tree.read_of_unreadable ht hother count offset
      rw [Except.error.inj (hread.symm.trans hread')]

end Read

/-- A container is closed while a transaction is open, and opened again from its file.  A file that
was made before the transaction is at its end, and one that was made in it is missing. -/
theorem told_after_reopening :
    ∃ (line line' missing : Timeline) (s : Session) (c : OpenContainer) (bytes : Bytes),
      line.machine.Genuine .standard ∧ s.isMounted = true ∧ line.Holds c line.machine.host
        ∧ c.tree.HasFile "/f" []
        ∧ (s.pread (.ofPath "/f") 8 3).runOn .standard mainThread line = (.ok (0, bytes), line')
        ∧ (s.pread (.ofPath "/g") 8 0).runOn .standard mainThread line
          = (.error (.failed "pread" .noEntry), missing) := by
  let moment : Moment := ⟨⟨.epoch, 0, 0⟩, [], .ofNat 0, none⟩
  suffices h : ∃ m : Machine, m.Genuine .standard ∧ m.Fits
      ∧ (m.engine.registry.close ⟨1⟩).1 = some 0
      ∧ ∃ c ∈ m.engine.opened, c.path = "/box" ∧ c.credential = .key
        ∧ c.key.bytes = List.replicate 32 0
        ∧ (c.rollback.persist .standard moment m.host).isOk = true
        ∧ (c.keptTree.node "/f").map Inode.kind = .ok (.file [])
        ∧ c.keptTree.lookup "/g" = .error .noEntry by
    obtain ⟨m, hm, hfits, hlast, c, hopen, hpath, hkind, hkey, hok, hf, hg⟩ := h
    obtain ⟨host, hsave⟩ := exists_of_isOk hok
    have hsaved : (m.closeHandle .standard moment ⟨1⟩).host = host := by
      obtain ⟨-, hhost | ⟨-, e, he⟩⟩ := Machine.closeHandle_last .standard moment hopen hlast
      · exact Except.ok.inj (hhost.symm.trans hsave)
      · cases hsave.symm.trans he
    have hclosed := (Machine.closeHandle_last .standard moment hopen hlast).1
    have habsolute : HostPath.absolute "/box" = .ok "/box" := by decide +kernel
    have hplaced : c.Placed :=
      ⟨hpath ▸ HostPath.cleaned_of_absolute habsolute, hpath ▸ by decide +kernel⟩
    have haccepts : c.Accepts .standard (.key c.key.bytes) :=
      ⟨hkind, ContainerEngine.deriveKey_raw ..⟩
    have hgiven : HostPath.absoluteOrSelf "/box" = c.path := by
      rw [hpath]
      decide +kernel
    have hlater : Machine.Genuine .standard (m.closeHandle .standard moment ⟨1⟩) :=
      .call hm moment mainThread (.closeHandle ⟨1⟩) rfl
    obtain ⟨hgenuine, hagain⟩ := hlater.reopened CipherSuite.lawful_standard hm hopen (hfits hopen)
      hplaced hlast hsave haccepts hgiven hclosed (by rw [hsaved]) moment mainThread
    generalize (Machine.answer _ _ _ _ _).2 = reopened at hgenuine hagain
    let line : Timeline := ⟨reopened, fun _ => moment, 0⟩
    let s : Session := ⟨some "/box", some ⟨2⟩⟩
    have hs : s.isMounted = true := rfl
    have hline : line.Holds _ line.machine.host := ⟨hagain, rfl⟩
    have hfile : c.keptTree.HasFile "/f" [] := by
      cases hnode : c.keptTree.node "/f" with
      | error code =>
          rw [hnode] at hf
          cases hf
      | ok inode =>
          rw [hnode] at hf
          exact ⟨"/f", inode, rfl, hnode, Except.ok.inj hf⟩
    have hmissing : c.keptTree.Unreadable "/g" .noEntry := by
      have hk : Key.Canonical "/g" :=
        Key.normalize_canonical (show Key.normalize "/g" = .ok "/g" from rfl)
      have ht := (Machine.sound_of_genuine hm hopen).kept
      exact .lacking rfl (Tree.walk_eq_noEntry.1 ((Tree.walk_names_eq_error ht hk).2 hg))
    obtain ⟨_, line', hrun, -, -, hbytes, -, -⟩ :=
      told_by_pread .standard mainThread hline hs (.ofPath "/f") 8 3 hgenuine
    obtain ⟨_, missing, hrun', -, -, -, hfails, -⟩ :=
      told_by_pread .standard mainThread hline hs (.ofPath "/g") 8 0 hgenuine
    rw [hbytes hfile] at hrun
    rw [(hfails _).2 ⟨_, hmissing, rfl⟩] at hrun'
    exact ⟨line, line', missing, s, _, [], hgenuine, hs, hline, hfile, hrun, hrun'⟩
  let key : Credential := .key (List.replicate 32 0)
  have opened : Machine.Genuine .standard _ :=
    .call (.start .standard (.bare ⟨4096, 0, 0, 0, 0, 255⟩ "/")) moment mainThread
      (.openContainer "/box" key) (by decide +kernel)
  have made : Machine.Genuine .standard _ :=
    .call opened moment mainThread (.change (.create "/f" 0o644)) rfl
  have begun : Machine.Genuine .standard _ := .call made moment mainThread .beginTransaction rfl
  have remade : Machine.Genuine .standard _ :=
    .call begun moment mainThread (.change (.create "/g" 0o644)) rfl
  exact ⟨_, remade, by decide +kernel⟩

end Session

end Strongbox
