import Strongbox.Proofs.Session.StreamRun
import Strongbox.Proofs.Tree.Attributes

/-!
# Opening files on the container engine

An open asks for the attributes of its path, makes sure that a file is there, and sets permission
bits.

* `OpenOptions.runOn_modeFor` — the permission bits that are going to be set.
* `Session.runOn_attempt` — one step of an open is told as a change is.
* `Session.runOn_openFile` — what an open comes to after its file was found.
* **`OpenOptions.runOn_reading`** — an open for reading sets the permission bits that are set
  already, and leaves everything else alone.
-/

namespace Strongbox

variable {suite : CipherSuite} {thread : Thread} {line line' : Timeline} {c c' : OpenContainer}
  {host host' : Host} {s : Session} {path key : String}

/-! ## The steps of an open -/

/-- The permission bits that an open is going to set, by the attributes of the path. -/
def OpenOptions.modeOf : Except Errno FileStat → Except Fault Nat
  | .ok stat =>
    if stat.isDir then .error (.failed "open" .isDirectory) else .ok stat.permissions
  | .error code =>
    if (Fault.told "stat" code).isErrno .noEntry then .ok newFileMode
    else .error (.told "stat" code)

/-- They are told by one call. -/
lemma OpenOptions.runOn_modeFor_goOn (suite : CipherSuite) (thread : Thread)
    (h : line.Holds c host) (hs : s.isMounted = true) (path : String) :
    ∃ m, (modeFor s path).runOn suite thread line
        = (modeOf (c.tree.atPath path Tree.getattr), line.goOn m)
      ∧ (line.goOn m).Holds c host := by
  obtain ⟨m, hstat, hm⟩ := Call.runOn_attributes_goOn suite thread h hs "stat" path
  refine ⟨m, ?_, hm⟩
  rw [modeFor, Call.runOn_bind, Call.runOn_lift, Session.stat, hstat]
  cases c.tree.atPath path Tree.getattr with
  | ok stat =>
      dsimp only [Except.mapError, modeOf]
      split <;> rfl
  | error code =>
      dsimp only [Except.mapError, modeOf]
      split <;> rfl

lemma OpenOptions.runOn_modeFor (suite : CipherSuite) (thread : Thread) (h : line.Holds c host)
    (hs : s.isMounted = true) (path : String) :
    ∃ line', (modeFor s path).runOn suite thread line
        = (modeOf (c.tree.atPath path Tree.getattr), line')
      ∧ line'.Holds c host := by
  obtain ⟨m, hrun, hm⟩ := runOn_modeFor_goOn suite thread h hs path
  exact ⟨line.goOn m, hrun, hm⟩

/-- Setting permission bits by a path is setting them by its key. -/
lemma Change.resolve_chmod (hkey : Key.normalize path = .ok key) (mode : Nat) :
    (Change.chmod path mode).resolve = .ok (.chmod key mode) := by
  rw [resolve, hkey]
  rfl

namespace Session

/-- A failure that is checked with a slot is caused by what the slot holds back. -/
lemma check_slot (slot : FaultSlot) (operation : String) (code : Int) :
    (slot.check operation code).1
      = (check operation code).mapError fun fault => (slot.chain fault).1 := by
  rw [FaultSlot.check]
  cases check operation code <;> rfl

/-- One step of an open is told as a change is. -/
lemma runOn_attempt (suite : CipherSuite) (thread : Thread) (line : Timeline) (slot : FaultSlot)
    (change : Change) :
    (attempt slot change).runOn suite thread line
      = ((((Call.change "open" change).runOn suite thread line).1.map fun _ => ()).mapError
          fun fault => (slot.chain fault).1,
        ((Call.change "open" change).runOn suite thread line).2) := by
  rw [attempt, Call.change, Call.runOn_bind, Call.runOn_bind]
  rcases hrequest : (Call.request (.change change)).runOn suite thread line
    with ⟨fault | code, line'⟩
  · -- a request itself never fails
    cases hrequest
  · dsimp only
    rw [Call.runOn_discard]
    have hcode : ∀ code : Int, ((slot.check "open" code).1.map fun _ => ())
        = ((check "open" code).map fun _ => ()).mapError fun fault => (slot.chain fault).1 := by
      intro code
      rw [check_slot]
      cases check "open" code <;> rfl
    exact congrArg (·, line') (hcode code)

/-- After the file was found, the permission bits are set where that is possible. -/
lemma runOn_openFile (hs : s.isMounted = true) {flags : OpenFlags} {mode : Nat}
    (hfound : (openOrCreate path flags mode).runOn suite thread line = (.ok (), line'))
    (hline' : line'.Holds c host) (hkey : Key.normalize path = .ok key)
    {outcome : Except Errno Unit}
    (hchange : c.change suite line'.moment host (.chmod key mode) = (outcome, c', host')) :
    ∃ last, (s.openFile path flags mode).runOn suite thread line = (.ok (.ofPath path), last)
      ∧ last.Holds c' host' := by
  rw [← hline'.host] at hchange
  have hresolve := Change.resolve_chmod hkey mode
  refine ⟨line'.goOn ⟨{ line'.machine.engine.touch thread with opened := some c' }, host'⟩, ?_,
    ⟨rfl, rfl⟩⟩
  rw [Session.openFile, Call.require_bind hs, Call.runOn_bind, hfound]
  exact Call.runOn_request_bind (.change (.chmod path mode))
    (Machine.answer_change hresolve hline'.opened hchange) _

lemma runOn_openFile_of_error (hs : s.isMounted = true) {flags : OpenFlags} {mode : Nat}
    {fault : Fault}
    (hfailed : (openOrCreate path flags mode).runOn suite thread line = (.error fault, line')) :
    (s.openFile path flags mode).runOn suite thread line = (.error fault, line') := by
  rw [Session.openFile, Call.require_bind hs, Call.runOn_bind, hfailed]

end Session

/-! ## Opening for reading -/

/-- An open for reading changes nothing while it finds its file. -/
lemma Session.runOn_openOrCreate_reading (suite : CipherSuite) (thread : Thread)
    (h : line.Holds c host) (path : String) (mode : Nat) :
    ∃ line', (openOrCreate path OpenOptions.reading.flags mode).runOn suite thread line
        = (((c.tree.atPath path fun t key => t.openFile line.moment.stamp key .readOnly).map
          fun _ => ()).mapError (.told "open"), line')
      ∧ line'.Holds c host := by
  have hsteps : openOrCreate path OpenOptions.reading.flags mode
      = attempt .empty (.openFile path .readOnly) := rfl
  rw [hsteps, runOn_attempt]
  cases hkey : Key.normalize path with
  | error code =>
      obtain ⟨line', hrun, hline'⟩ := Call.runOn_change_unnamed suite thread
        (.openFile path .readOnly) h "open" (by rw [Change.resolve, hkey]; rfl)
      rw [hrun, Tree.atPath, hkey]
      exact ⟨line', rfl, hline'⟩
  | ok key =>
      rw [Tree.atPath_of_normalize hkey]
      have hresolve : (Change.openFile path .readOnly).resolve = .ok (.openFile key .readOnly) := by
        rw [Change.resolve, hkey]
        rfl
      have hsaving : (Change.openFile key .readOnly).saving = .never := rfl
      cases ha : c.tree.openFile line.moment.stamp key .readOnly with
      | error code =>
          obtain ⟨line', hrun, hline'⟩ := Call.runOn_change suite thread
            (.openFile path .readOnly) h "open" hresolve (OpenContainer.change_of_error ha)
          rw [hrun]
          exact ⟨line', rfl, hline'⟩
      | ok t =>
          obtain rfl : t = c.tree := Change.eq_of_never hsaving ha
          have happly : (Change.openFile key .readOnly).apply line.moment.stamp c.tree
              = .ok c.tree := ha
          have hchange : c.change suite line.moment host (.openFile key .readOnly)
              = (.ok (), c, host) := by
            rw [OpenContainer.change_of_ok happly, hsaving]
          obtain ⟨line', hrun, hline'⟩ := Call.runOn_change suite thread
            (.openFile path .readOnly) h "open" hresolve hchange
          rw [hrun]
          exact ⟨line', rfl, hline'⟩

namespace Tree

variable {t : Tree} {stamp : Stamp}

/-- Regular files have attributes. -/
lemma fileData_of_getattr_error {code : Errno} (h : t.atPath path getattr = .error code)
    (found : Nat × Bytes) : t.atPath path fileData ≠ .ok found := by
  intro hfound
  obtain ⟨ino, data⟩ := found
  obtain ⟨key, hkey, hdata⟩ := bind_eq_ok.1 hfound
  obtain ⟨stat, hstat, -⟩ := getattr_of_fileData hdata
  rw [atPath_of_normalize hkey, hstat] at h
  cases h

/-- Directories hold no data. -/
lemma fileData_of_isDir {ino : Nat} {inode : Inode} (hkey : t.entries[key]? = some ino)
    (hinode : t.inodes[ino]? = some inode) (hdir : inode.isDir = true) (found : Nat × Bytes) :
    t.fileData key ≠ .ok found := by
  intro hfound
  obtain ⟨file, hkey', hfile, hkind⟩ := fileData_ok hfound
  obtain rfl := Option.some.inj (hkey.symm.trans hkey')
  obtain rfl := Option.some.inj (hinode.symm.trans hfile)
  rw [Inode.isDir, hkind] at hdir
  cases hdir

/-- Whatever a key names can be opened for reading. -/
lemma openFile_readOnly {ino : Nat} {inode : Inode} (hkey : t.entries[key]? = some ino)
    (hinode : t.inodes[ino]? = some inode) : t.openFile stamp key .readOnly = .ok t := by
  refine bind_eq_ok.2 ⟨ino, lookup_eq_ok.2 hkey, bind_eq_ok.2 ⟨inode, inode_eq_ok.2 hinode, ?_⟩⟩
  cases inode.kind <;> rfl

/-- What cannot be looked at cannot be opened. -/
lemma openFile_of_getattr_error (stamp : Stamp) (flags : OpenFlags) {code : Errno}
    (h : t.atPath path getattr = .error code) :
    ∃ code', (t.atPath path fun t key => t.openFile stamp key flags) = .error code' := by
  cases ho : t.atPath path fun t key => t.openFile stamp key flags with
  | error code' => exact ⟨code', rfl⟩
  | ok t' =>
      obtain ⟨key, hkey, hopen⟩ := bind_eq_ok.1 ho
      obtain ⟨ino, hlookup, hopen⟩ := bind_eq_ok.1 hopen
      obtain ⟨inode, hinode, -⟩ := bind_eq_ok.1 hopen
      obtain ⟨stat, hstat⟩ := exists_getattr (lookup_eq_ok.1 hlookup) (inode_eq_ok.1 hinode)
      rw [atPath_of_normalize hkey, hstat] at h
      cases h

end Tree

/-- The permission bits of a node that a path names, and that is no directory, were set to what they
are, at one of certain moments. -/
structure OpenContainer.Reset (suite : CipherSuite) (moments : Nat → Moment) (path : String)
    (host host' : Host) (c c' : OpenContainer) : Prop where
  change : ∃ key ino inode n outcome, Key.normalize path = .ok key
    ∧ c.tree.entries[key]? = some ino ∧ c.tree.inodes[ino]? = some inode ∧ inode.isDir = false
    ∧ c.change suite (moments n) host (.chmod key inode.perm) = (outcome, c', host')

namespace OpenOptions

/-- What cannot be looked at is not opened. -/
lemma runOn_reading_of_missing (suite : CipherSuite) (thread : Thread) (h : line.Holds c host)
    (hs : s.isMounted = true) {code : Errno}
    (hstat : c.tree.atPath path Tree.getattr = .error code) :
    ∃ fault line', (reading.openFile s path).runOn suite thread line = (.error fault, line')
      ∧ line'.Holds c host := by
  obtain ⟨line₁, hmode, hline₁⟩ := runOn_modeFor suite thread h hs path
  rw [openFile, Call.runOn_bind, hmode, hstat]
  cases modeOf (.error code) with
  | error fault => exact ⟨fault, line₁, rfl, hline₁⟩
  | ok mode =>
      obtain ⟨line₂, hfound, hline₂⟩ :=
        Session.runOn_openOrCreate_reading suite thread hline₁ path mode
      obtain ⟨code', hfails⟩ :=
        Tree.openFile_of_getattr_error line₁.moment.stamp .readOnly hstat
      rw [hfails] at hfound
      dsimp only
      rw [Call.runOn_bind, Session.runOn_openFile_of_error hs hfound]
      exact ⟨_, line₂, rfl, hline₂⟩

/-- A node that is no directory is opened with its own permission bits. -/
lemma runOn_reading_of_node (suite : CipherSuite) (thread : Thread) (h : line.Holds c host)
    (hs : s.isMounted = true) (hkey : Key.normalize path = .ok key) {ino : Nat} {inode : Inode}
    (hentry : c.tree.entries[key]? = some ino) (hinode : c.tree.inodes[ino]? = some inode)
    (hfile : inode.isDir = false)
    (hperm : modeOf (c.tree.atPath path Tree.getattr) = .ok inode.perm) :
    ∃ line' c' host', (reading.openFile s path).runOn suite thread line
        = (.ok ⟨.ofPath path, 0, false, false⟩, line')
      ∧ line'.Holds c' host'
      ∧ OpenContainer.Reset suite line.moments path host host' c c' := by
  obtain ⟨line₁, hmode, hline₁⟩ := runOn_modeFor suite thread h hs path
  rw [hperm] at hmode
  obtain ⟨line₂, hfound, hline₂⟩ :=
    Session.runOn_openOrCreate_reading suite thread hline₁ path inode.perm
  rw [Tree.atPath_of_normalize hkey, Tree.openFile_readOnly hentry hinode] at hfound
  rcases hchange : c.change suite line₂.moment host (.chmod key inode.perm)
    with ⟨outcome, c', host'⟩
  obtain ⟨line₃, hopened, hline₃⟩ := Session.runOn_openFile hs hfound hline₂ hkey hchange
  refine ⟨line₃, c', host', ?_, hline₃, ⟨key, ino, inode, line₂.calls, outcome, hkey, hentry,
    hinode, hfile, ?_⟩⟩
  · rw [openFile, Call.runOn_bind, hmode]
    dsimp only
    rw [Call.runOn_bind, hopened]
    rfl
  · rw [← hchange, Timeline.moment, Call.moments_of_runOn hfound, Call.moments_of_runOn hmode]

/-- An open for reading that fails has changed nothing, and there is no regular file.  One that goes
through has set the permission bits to what they are. -/
theorem runOn_reading (suite : CipherSuite) (thread : Thread) (h : line.Holds c host)
    (hs : s.isMounted = true) (ht : c.tree.WellFormed) (path : String) :
    ∃ outcome line', (reading.openFile s path).runOn suite thread line = (outcome, line')
      ∧ ((∃ fault, outcome = .error fault) ∧ line'.Holds c host
          ∧ (∀ found, c.tree.atPath path Tree.fileData ≠ .ok found)
        ∨ outcome = .ok ⟨.ofPath path, 0, false, false⟩
          ∧ ∃ c' host', line'.Holds c' host'
            ∧ OpenContainer.Reset suite line.moments path host host' c c') := by
  cases hstat : c.tree.atPath path Tree.getattr with
  | error code =>
      obtain ⟨fault, line', hrun, hline'⟩ := runOn_reading_of_missing suite thread h hs hstat
      exact ⟨_, line', hrun, Or.inl ⟨⟨fault, rfl⟩, hline', Tree.fileData_of_getattr_error hstat⟩⟩
  | ok stat =>
      obtain ⟨key, hkey, hgetattr⟩ := bind_eq_ok.1 hstat
      obtain ⟨ino, inode, hentry, hinode, -⟩ := Tree.getattr_ok hgetattr
      have hisDir : stat.isDir = inode.isDir :=
        (ht.isDir_of_getattr hgetattr).trans (Tree.isDir_of_inode hentry hinode)
      cases hdir : inode.isDir with
      | true =>
          obtain ⟨line', hmode, hline'⟩ := runOn_modeFor suite thread h hs path
          have hrefused : modeOf (c.tree.atPath path Tree.getattr)
              = .error (.failed "open" .isDirectory) := by
            rw [hstat, modeOf, hisDir, hdir]
            rfl
          rw [hrefused] at hmode
          refine ⟨.error (.failed "open" .isDirectory), line', ?_,
            Or.inl ⟨⟨_, rfl⟩, hline', ?_⟩⟩
          · rw [openFile, Call.runOn_bind, hmode]
          · rw [Tree.atPath_of_normalize hkey]
            exact Tree.fileData_of_isDir hentry hinode hdir
      | false =>
          have hperm : modeOf (c.tree.atPath path Tree.getattr) = .ok inode.perm := by
            rw [hstat, modeOf, hisDir, hdir, ht.permissions_of_getattr hgetattr hentry hinode]
            rfl
          obtain ⟨line', c', host', hrun, hline', hreset⟩ :=
            runOn_reading_of_node suite thread h hs hkey hentry hinode hdir hperm
          exact ⟨_, line', hrun, Or.inr ⟨rfl, c', host', hline', hreset⟩⟩

end OpenOptions

end Strongbox
