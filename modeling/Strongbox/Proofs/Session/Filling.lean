import Strongbox.Proofs.Session.OpenCall
import Strongbox.Proofs.Session.Reading
import Strongbox.Proofs.Tree.Filled
import Strongbox.Proofs.Tree.Reachable

/-!
# Filling a file on the container engine

A file is opened for writing, which makes it if it is missing, written to piece by piece, and saved.

* `Timeline.Filling` — the container is open, and one file of it holds something new.
* **`Timeline.filling_of_writing`** — the file is there and has its permissions.
* **`Timeline.Filling.write`** — one piece is put behind what the file holds.
* `Timeline.Filling.sync` — what was written is saved.
-/

namespace Strongbox

variable {suite : CipherSuite} {thread : Thread} {line line' : Timeline} {c : OpenContainer}
  {host : Host} {s : Session} {path key : String} {ino mode : Nat} {content old : Bytes}
  {flags : OpenFlags}

/-! ## Finding the file -/

namespace Tree

variable {t : Tree}

/-- A file keeps its permission bits when it is opened, and a new one gets those of new files. -/
lemma Writable.modeOf (h : t.Writable key ino mode old) (ht : t.WellFormed) :
    OpenOptions.modeOf (t.getattr key) = .ok mode := by
  cases h with
  | @file _ inode _ hkey hinode hkind =>
      obtain ⟨stat, hstat⟩ := exists_getattr hkey hinode
      have hdir : stat.isDir = false := by
        rw [ht.isDir_of_getattr hstat, isDir_of_inode hkey hinode, Inode.isDir, hkind]
        rfl
      rw [hstat, OpenOptions.modeOf, hdir, ht.permissions_of_getattr hstat hkey hinode]
      rfl
  | absent hkey hparent hdir =>
      have hfault : (Fault.told "stat" .noEntry).isErrno .noEntry = true := by decide +kernel
      have hstat : t.getattr key = .error .noEntry := by
        rw [getattr, lookup_of_parent hkey hparent hdir]
        rfl
      rw [hstat, OpenOptions.modeOf, if_pos hfault]
      rfl

/-- Whichever change an open comes down to, it makes or fills the file. -/
lemma Writable.opening (h : t.Writable key ino mode old) (ht : t.WellFormed) (hstorable : t.Storable)
    {stamp : Stamp} (hstamp : stamp.Storable)
    (hexclusive : flags.contains (.union .create .exclusive) = false)
    (hcreate : flags.contains .create = true) (hwrites : flags.writes = true) :
    ∃ t', (t.opening key flags mode key).apply stamp t = .ok t'
      ∧ t.Filled key ino mode (if flags.contains .truncate then [] else old) t'
      ∧ t'.Storable := by
  cases h with
  | @file _ inode _ hentry hinode hkind =>
      have hexists : t.access key .existence = .ok () := by
        rw [access_existence, node_eq_ok.2 ⟨ino, hentry, hinode⟩]
        rfl
      have hopening : t.opening key flags inode.perm key = .openFile key flags :=
        if_neg (by simp [hexclusive, hexists])
      obtain ⟨t', hopen, hfilled⟩ : ∃ t', t.openFile stamp key flags = .ok t'
          ∧ t.Filled key ino inode.perm (if flags.contains .truncate then [] else old) t' :=
        filled_of_openFile hentry hinode hkind hwrites
      rw [hopening]
      exact ⟨t', hopen, hfilled, hstorable.openFile hstamp hopen⟩
  | @absent parent hentry hparent hdir hroom =>
      have hmissing := access_of_free ⟨hentry, parent, hparent, hdir⟩
      have hopening : t.opening key flags 0o600 key = .create key 0o600 :=
        if_pos (Or.inr ⟨hcreate, hmissing⟩)
      have hmode : 0o600 ≤ 0o7777 := by decide
      obtain ⟨t', hmade, hfilled⟩ : ∃ t', t.create stamp key 0o600 = .ok t'
          ∧ t.Filled key t.nextIno 0o600 [] t' :=
        filled_of_create ht hentry hparent hdir hmode
      have hempty : (if flags.contains .truncate = true then [] else ([] : Bytes)) = [] := by
        split <;> rfl
      rw [hopening, hempty]
      exact ⟨t', hmade, hfilled, hstorable.create hstamp hroom hmade⟩

end Tree

/-! ## The file -/

/-- The container is open with a tree in order, in which one file holds something new. -/
structure Timeline.Filling (c : OpenContainer) (key : String) (ino mode : Nat) (content : Bytes)
    (line : Timeline) : Prop where
  held : ∃ dirty host t, line.Holds { c with tree := t, dirty := dirty } host
    ∧ c.tree.Filled key ino mode content t ∧ t.WellFormed ∧ t.Storable
  clock : ∀ n, (line.moments n).stamp.Storable

namespace Timeline

section Opening

variable (h : line.Holds c host) (ht : c.tree.WellFormed) (hstorable : c.tree.Storable)
  (hclock : ∀ n, (line.moments n).stamp.Storable) (hkey : Key.normalize path = .ok key)
  (hexclusive : flags.contains (.union .create .exclusive) = false)
  (hcreate : flags.contains .create = true) (hwrites : flags.writes = true)
  (hwritable : c.tree.Writable key ino mode old)

include h ht hstorable hclock hkey hexclusive hcreate hwrites hwritable

/-- The file is made where it is missing, and else loses what the flags drop. -/
lemma filling_of_openOrCreate
    (hsaves : (Session.openOrCreate path flags mode).run.Saves suite thread line) :
    ∃ line', (Session.openOrCreate path flags mode).runOn suite thread line = (.ok (), line')
      ∧ line'.Filling c key ino mode (if flags.contains .truncate then [] else old) := by
  obtain ⟨n, tell, found, line₁, c₁, host₁, hrun, hline₁, -, hways⟩ :=
    Session.runOn_openOrCreate suite thread h hkey flags mode
  obtain ⟨t, happly, hfilled, hstored⟩ :=
    hwritable.opening ht hstorable (hclock n) hexclusive hcreate hwrites
  rcases hways hsaves with ⟨t', dirty, rfl, rfl, hdone⟩ | ⟨code, -, hfails⟩
  · obtain rfl := Except.ok.inj (happly.symm.trans hdone)
    have hwellFormed : t.WellFormed :=
      ht.apply (Change.canonical_of_resolve (Session.resolve_opening hkey c.tree flags mode)) happly
    refine ⟨line₁, hrun, ⟨⟨dirty, host₁, t, hline₁, hfilled, hwellFormed, hstored⟩, ?_⟩⟩
    rw [Call.moments_of_runOn hrun]
    exact hclock
  · rw [happly] at hfails
    cases hfails

/-- The permission bits that are set at last are those of the file already. -/
lemma filling_of_openFile (hs : s.isMounted = true)
    (hsaves : (s.openFile path flags mode).run.Saves suite thread line) :
    ∃ line', (s.openFile path flags mode).runOn suite thread line = (.ok (.ofPath path), line')
      ∧ line'.Filling c key ino mode (if flags.contains .truncate then [] else old) := by
  rw [Session.openFile, Call.require_bind hs] at hsaves
  obtain ⟨line₁, hfound, ⟨⟨dirty, host₁, t, hline₁, hfilled, hwellFormed, hstored⟩, hclock₁⟩⟩ :=
    filling_of_openOrCreate h ht hstorable hclock hkey hexclusive hcreate hwrites hwritable
      (Call.saves_left hsaves)
  have hresolve := Change.resolve_chmod hkey mode
  obtain ⟨dirty', host₂, hchange⟩ := OpenContainer.change_of_saves hline₁.opened hresolve
    (Call.saves_right hsaves hfound).1
  rw [hline₁.host] at hchange
  obtain ⟨line₂, hopened, hline₂⟩ := Session.runOn_openFile hs hfound hline₁ hkey hchange
  have hafter := hwellFormed.after line₁.moment.stamp hresolve
  refine ⟨line₂, hopened, ⟨dirty', host₂, _, hline₂, ?_, hafter, ?_⟩, ?_⟩
  · rw [Change.after]
    cases ha : (Change.chmod key mode).apply line₁.moment.stamp t with
    | ok t' => exact hfilled.chmod (hwritable.mode_le ht) ha
    | error code => exact hfilled
  · rw [Change.after]
    cases ha : (Change.chmod key mode).apply line₁.moment.stamp t with
    | ok t' => exact hstored.chmod (hclock₁ _) ha
    | error code => exact hstored
  · rw [Call.moments_of_runOn hopened]
    exact hclock

/-- An open for writing moves the cursor nowhere. -/
theorem filling_of_writing (hs : s.isMounted = true) {options : OpenOptions}
    (hflags : options.flags = flags)
    (hsaves : (options.openFile s path).run.Saves suite thread line) :
    ∃ line', (options.openFile s path).runOn suite thread line
        = (.ok ⟨.ofPath path, 0, options.append, false⟩, line')
      ∧ line'.Filling c key ino mode (if flags.contains .truncate then [] else old) := by
  subst hflags
  obtain ⟨line₁, hmode, hline₁⟩ := OpenOptions.runOn_modeFor suite thread h hs path
  rw [Tree.atPath_of_normalize hkey, hwritable.modeOf ht] at hmode
  have hclock₁ : ∀ n, (line₁.moments n).stamp.Storable := by
    rw [Call.moments_of_runOn hmode]
    exact hclock
  rw [OpenOptions.openFile] at hsaves
  obtain ⟨line₂, hopened, hline₂⟩ := filling_of_openFile hline₁ ht hstorable hclock₁ hkey
    hexclusive hcreate hwrites hwritable hs (Call.saves_left (Call.saves_right hsaves hmode))
  refine ⟨line₂, ?_, hline₂⟩
  rw [OpenOptions.openFile, Call.runOn_bind, hmode]
  dsimp only
  rw [Call.runOn_bind, hopened]
  rfl

end Opening

end Timeline

/-! ## Writing -/

/-- Where its save goes through, an `fsync` of a file that there is saves what is pending. -/
lemma Call.runOn_fsync_of_saves (suite : CipherSuite) (thread : Thread) (h : line.Holds c host)
    (hs : s.isMounted = true) {handle : PathHandle} (hkey : Key.normalize handle.path = .ok key)
    (hcontains : c.tree.contains key = true)
    (hsaves : line.machine.Saves suite line.moment (.fsync handle.path)) :
    ∃ line' dirty host', (s.fsync handle).runOn suite thread line = (.ok (), line')
      ∧ line'.Holds { c with dirty := dirty } host' := by
  obtain ⟨dirty, host', hflush⟩ := OpenContainer.flush_of_saves h.opened hkey hcontains hsaves
  have hanswer : line.machine.answer suite line.moment thread (.fsync handle.path) = _ :=
    Machine.answer_fsync hkey h.opened ((if_pos hcontains).trans hflush)
  refine ⟨_, dirty, host',
    Call.runOn_require_request hs "fsync" (.fsync handle.path) hanswer id, ⟨rfl, rfl⟩⟩

/-- A stream whose next write goes behind all that the file holds. -/
structure FileStream.AtEnd (f : FileStream) (key : String) (content : Bytes) : Prop where
  key : Key.normalize f.handle.path = .ok key
  opened : f.closed = false
  position : f.append = true ∨ f.position = content.length

namespace Timeline.Filling

variable {f : FileStream} (h : line.Filling c key ino mode content) (hs : s.isMounted = true)
  (hf : f.AtEnd key content)

include h hs hf

/-- A piece is put behind what the file holds. -/
theorem write (suite : CipherSuite) (thread : Thread) {piece : Bytes}
    (hfits : content.length + piece.length ≤ maxFileSize) :
    ∃ n f' line', (FileStream.write s piece).runOn suite thread f line = ((.ok n, f'), line')
      ∧ f'.AtEnd key (content ++ piece) ∧ line'.Filling c key ino mode (content ++ piece) := by
  obtain ⟨⟨dirty, host, t, hline, hfilled, ht, hstorable⟩, hclock⟩ := h
  obtain ⟨line₁, hwrite, hline₁⟩ :=
    FileStream.runOn_write suite thread hline hs hf.key hfilled.data hf.opened piece
  have hposition : (if f.append then content.length else f.position) = content.length := by
    split
    · rfl
    · next happend => exact hf.position.resolve_left happend
  rw [hposition] at hwrite
  by_cases hpiece : piece = []
  · -- an empty piece is not even asked to be written
    subst hpiece
    have hnothing : (FileStream.write s []).runOn suite thread f line
        = ((.ok 0, { f with position := content.length }), line₁) := by
      rw [hwrite, FileStream.writeRest]
      rfl
    rw [List.append_nil]
    refine ⟨_, _, line₁, hnothing, ⟨hf.key, hf.opened, Or.inr rfl⟩,
      ⟨⟨dirty, host, t, hline₁, hfilled, ht, hstorable⟩, ?_⟩⟩
    rw [StreamCall.moments_of_runOn hnothing]
    exact hclock
  · obtain ⟨line₂, hrest, hline₂⟩ := FileStream.runOn_writeRest suite thread
      (f := { f with position := content.length }) hline₁ hs hf.key hfilled.data hpiece hfits
    rw [Tree.overwritten_length] at hline₂
    rw [hrest] at hwrite
    obtain ⟨inode, -, hinode, hkind⟩ := Tree.fileData_ok hfilled.data
    have hlength : (content ++ piece).length ≤ maxFileSize := by
      rw [List.length_append]
      exact hfits
    have hstamp : line₁.moment.stamp.Storable := by
      rw [Timeline.moment, ← StreamCall.moments_of_runOn hrest, StreamCall.moments_of_runOn hwrite]
      exact hclock _
    refine ⟨_, _, line₂, hwrite, ⟨hf.key, hf.opened, Or.inr (List.length_append).symm⟩,
      ⟨⟨true, host, _, hline₂, hfilled.setData _ _, ht.setData hinode hkind hlength,
        hstorable.modify fun hold => hold.setData hstamp _⟩, ?_⟩⟩
    rw [StreamCall.moments_of_runOn hwrite]
    exact hclock

/-- What was written is saved, if that is not done already. -/
theorem sync (hsaves : ((FileStream.sync s).run.run f).Saves suite thread line) :
    ∃ line', (FileStream.sync s).runOn suite thread f line = ((.ok (), f), line')
      ∧ line'.Filling c key ino mode content := by
  obtain ⟨⟨dirty, host, t, hline, hfilled, ht, hstorable⟩, hclock⟩ := h
  have hsync : (FileStream.sync s).run.run f = (FileStream.within (s.fsync f.handle)).run.run f :=
    StreamCall.run_requireOpen_bind hf.opened _
  have hcontains : t.contains key = true := by
    obtain ⟨inode, hentry, -, -⟩ := Tree.fileData_ok hfilled.data
    refine Bool.of_not_eq_false fun habsent => ?_
    rw [Tree.contains_eq_false.1 habsent] at hentry
    cases hentry
  have hdue : line.machine.Saves suite line.moment (.fsync f.handle.path) := by
    rw [hsync, Session.fsync, Call.require_bind hs] at hsaves
    exact hsaves.1
  obtain ⟨line', dirty', host', hfsync, hline'⟩ :=
    Call.runOn_fsync_of_saves suite thread hline hs hf.key hcontains hdue
  have hrun : (FileStream.sync s).runOn suite thread f line = ((.ok (), f), line') := by
    refine (congrArg (Script.run (Timeline.engine suite) thread · line) hsync).trans ?_
    refine (StreamCall.runOn_within suite thread f line (s.fsync f.handle)).trans ?_
    rw [hfsync]
    rfl
  refine ⟨line', hrun, ⟨⟨dirty', host', t, hline', hfilled, ht, hstorable⟩, ?_⟩⟩
  rw [StreamCall.moments_of_runOn hrun]
  exact hclock

end Timeline.Filling

end Strongbox
