import Strongbox.Proofs.Cli.Show
import Strongbox.Proofs.Session.Filling

/-!
# Writing to a file and printing it later

A command that writes to a file cuts its input into pieces.  How it cuts them does not matter, and
neither does the size of the chunks by which files are printed.

* `Command.flatten_chunks` — the pieces make up the input.
* `Command.runOn_writeChunks` — pieces are put behind what the file holds, one after the other.
* **`Command.runOn_writeFile`** — the file holds the input at the end, alone or behind its content.
* `OpenContainer.Reopened` — a container that comes out of its file as it is.
* `Invocation.Entered.reopened_of_write`, `Invocation.Entered.runOn_print` — writing and printing
  between a mount and an unmount.
* **`Invocation.written_and_printed`** — a visit that writes, and a visit that prints.
-/

namespace Strongbox

variable {suite : CipherSuite} {thread : Thread} {line : Timeline} {c : OpenContainer} {host : Host}
  {s : Session} {key : String} {ino mode : Nat} {content old : Bytes} {printed : Printed}

namespace Command

/-! ## Pieces -/

/-- The first pieces of an input make up what it starts with. -/
lemma flatten_pieces (input : Bytes) (size count : Nat) :
    ((List.range count).map fun n => (input.drop (n * size)).take size).flatten
      = input.take (count * size) := by
  induction count with
  | zero => rw [Nat.zero_mul, List.take_zero, List.range_zero, List.map_nil, List.flatten_nil]
  | succ count ih =>
      rw [List.range_succ, List.map_append, List.flatten_append, ih, List.map_singleton,
        List.flatten_singleton, Nat.succ_mul, List.take_add]

/-- The pieces of an input make it up. -/
theorem flatten_chunks (input : Bytes) : (chunks input).flatten = input := by
  have hsize : 0 < FileStream.chunkSize := by decide
  rw [chunks, flatten_pieces]
  refine List.take_of_length_le ?_
  have hceil := Nat.lt_div_mul_add hsize (a := input.length + FileStream.chunkSize - 1)
  omega

/-! ## Writing -/

/-- Pieces are put behind what the file holds, one after the other. -/
theorem runOn_writeChunks (suite : CipherSuite) (thread : Thread) (printed : Printed)
    (hs : s.isMounted = true) {f : FileStream} (h : line.Filling c key ino mode content)
    (hf : f.AtEnd key content) {pieces : List Bytes}
    (hfits : content.length + pieces.flatten.length ≤ maxFileSize) :
    ∃ f' line', (writeChunks s f pieces).runOn suite thread printed line
        = ((.ok f', printed), line')
      ∧ f'.AtEnd key (content ++ pieces.flatten)
      ∧ line'.Filling c key ino mode (content ++ pieces.flatten) := by
  induction pieces generalizing f line content with
  | nil =>
      rw [List.flatten_nil, List.append_nil]
      exact ⟨f, line, rfl, hf, h⟩
  | cons piece rest ih =>
      -- the cursor stays behind all that was written so far
      rw [List.flatten_cons, List.length_append] at hfits
      have hpiece : content.length + piece.length ≤ maxFileSize := by omega
      obtain ⟨n, f₁, line₁, hwrite, hf₁, hline₁⟩ := h.write hs hf suite thread hpiece
      have hrest : (content ++ piece).length + rest.flatten.length ≤ maxFileSize := by
        rw [List.length_append]
        omega
      obtain ⟨f₂, line₂, hwritten, hf₂, hline₂⟩ := ih hline₁ hf₁ hrest
      rw [List.append_assoc, ← List.flatten_cons] at hf₂ hline₂
      refine ⟨f₂, line₂, ?_, hf₂, hline₂⟩
      rw [writeChunks, Task.runOn_bind, Task.runOn_stream, hwrite]
      exact hwritten

/-- What a file holds before the input is put into it. -/
def kept (append : Bool) (old : Bytes) : Bytes :=
  if append then old else []

lemma kept_eq (append : Bool) (old : Bytes) :
    (if (writeOptions append).flags.contains .truncate then [] else old) = kept append old := by
  cases append <;> rfl

/-- The flags create a file at need, but not only then, and let it be written to. -/
lemma flags_writeOptions (append : Bool) :
    (writeOptions append).flags.contains (.union .create .exclusive) = false
      ∧ (writeOptions append).flags.contains .create = true
      ∧ (writeOptions append).flags.writes = true := by
  cases append <;> exact ⟨rfl, rfl, rfl⟩

/-- The cursor starts behind what the file holds, or goes there for every write. -/
lemma atEnd_writeOptions {path : String} (hkey : Key.normalize path = .ok key) (append : Bool)
    (old : Bytes) :
    FileStream.AtEnd ⟨.ofPath path, 0, (writeOptions append).append, false⟩ key
      (kept append old) := by
  refine ⟨hkey, rfl, ?_⟩
  cases append with
  | true => exact Or.inl rfl
  | false => exact Or.inr rfl

/-- A file holds the input in the end.  What it held before stays in front of it, if the input is to
be appended. -/
theorem runOn_writeFile (h : line.Holds c host) (ht : c.tree.WellFormed)
    (hstorable : c.tree.Storable) (hclock : ∀ n, (line.moments n).stamp.Storable)
    (hs : s.isMounted = true) {argument : String} {append : Bool} {pieces : List Bytes}
    (hkey : Key.normalize (EntryPath.ofArgument argument) = .ok key)
    (hwritable : c.tree.Writable key ino mode old)
    (hfits : (kept append old).length + pieces.flatten.length ≤ maxFileSize)
    (hsaves : (writeFile s argument append pieces).Saves suite thread printed line) :
    ∃ line', (writeFile s argument append pieces).runOn suite thread printed line
        = ((.ok (), printed), line')
      ∧ line'.Filling c key ino mode (kept append old ++ pieces.flatten) := by
  obtain ⟨hexclusive, hcreate, hwrites⟩ := flags_writeOptions append
  rw [writeFile] at hsaves ⊢
  dsimp only at hsaves ⊢
  obtain ⟨line₁, hopen, hline₁⟩ := Timeline.filling_of_writing h ht hstorable hclock hkey hexclusive
    hcreate hwrites hwritable hs rfl hsaves.left.of_whenTrying.of_call
  rw [kept_eq] at hline₁
  obtain ⟨f, line₂, hwrite, hf, hline₂⟩ :=
    runOn_writeChunks suite thread printed hs hline₁ (atEnd_writeOptions hkey append old) hfits
  have hcalled : (Task.call ((writeOptions append).openFile s
      (EntryPath.ofArgument argument))).runOn suite thread printed line
        = ((.ok ⟨.ofPath (EntryPath.ofArgument argument), 0, (writeOptions append).append, false⟩,
          printed), line₁) := by
    rw [Task.runOn_call, hopen]
    rfl
  have hopened := Task.runOn_whenTrying_ok suite thread printed line
    s!"Cannot open {EntryPath.ofArgument argument} for writing" hcalled
  have hwritten := Task.runOn_whenTrying_ok suite thread printed line₁
    s!"Cannot write {EntryPath.ofArgument argument}" hwrite
  obtain ⟨line₃, hsync, hline₃⟩ :=
    hline₂.sync hs hf ((hsaves.right hopened).right hwritten).left.of_stream
  have hclose := FileStream.runOn_close suite thread hs hf.opened line₃
  refine ⟨line₃, ?_, hline₃⟩
  rw [Task.runOn_bind, hopened]
  dsimp only
  rw [Task.runOn_bind, hwritten]
  dsimp only
  rw [Task.runOn_bind, Task.runOn_stream, hsync]
  dsimp only
  rw [Task.runOn_bind, Task.runOn_stream, hclose]
  rfl

end Command

/-! ## Opening what was saved -/

/-- Whoever opens a container from its file on a host, with a credential that means the same, gets
it as it is.  So does every later run. -/
structure OpenContainer.Reopened (suite : CipherSuite) (credential : Credential) (host : Host)
    (c : OpenContainer) : Prop where
  unlock : ∀ {credential' : Credential} {later : Host}, suite.Alike credential credential' →
    later.read c.path = host.read c.path → ∀ config moment,
      ContainerEngine.unlock suite config moment later c.path credential' = .ok (c, later)
  enter : ∀ (next : Invocation) {thread : Thread} {start line : Timeline} {s : Session}
    {input rest : Bytes} {printed printed' : Printed} {credential' : Credential}
    {c' : OpenContainer}, start.machine.engine.Vacant →
    start.machine.host.read c.path = host.read c.path →
    (next.enter input).runOn suite thread printed start = ((.ok (s, rest), printed'), line) →
    next.secrets.resolve input = .ok (credential', rest) → suite.Alike credential credential' →
    line.machine.engine.opened = some c' → c'.path = c.path → c' = c

lemma OpenContainer.Reopened.of_persist (hsuite : suite.Lawful) {credential : Credential}
    {moment : Moment} {host' : Host} (hplaced : c.Placed) (htree : c.tree.Storable)
    (hcost : ∀ {cost : Scrypt.Params}, c.cost = some cost → cost.Storable)
    (haccepts : c.Accepts suite credential)
    (hsave : c.persist suite moment host = .ok host') :
    ({ c with transaction := none, dirty := false } : OpenContainer).Reopened suite credential
      host' := by
  have hunlock : ∀ {credential' later}, suite.Alike credential credential' →
      later.read c.path = host'.read c.path → ∀ config moment,
        ContainerEngine.unlock suite config moment later c.path credential'
          = .ok ({ c with transaction := none, dirty := false }, later) :=
    fun halike hread config moment => ContainerEngine.unlock_of_persist hsuite hplaced htree hcost
      hsave (haccepts.alike halike) hread config moment
  refine ⟨hunlock, ?_⟩
  intro next thread start line s input rest printed printed' credential' c' hvacant hread henter
    hsecret halike hopen hpath
  obtain ⟨-, found, hfound, hentered⟩ := next.entered_of_enter hvacant henter hopen
  obtain ⟨rfl, -⟩ := Prod.mk.inj (Except.ok.inj (hsecret.symm.trans hfound))
  -- the run asks for the path of the container, where there is only one to be had
  obtain ⟨path, hlater⟩ := hentered.unlocked
  obtain ⟨hplace, -⟩ := ContainerEngine.unlock_ok hlater
  rw [← hplace, hpath, hunlock halike hread] at hlater
  exact (Prod.mk.inj (Except.ok.inj hlater)).1.symm

/-! ## Visits -/

namespace Invocation

variable {start : Timeline} {input rest : Bytes} {printed' : Printed} {credential : Credential}

section Entered

variable (h : Entered suite thread start line credential s c) (hsuite : suite.Lawful)
  (hclock : ∀ n, (start.moments n).stamp.Storable) (hfits : c.Fits) (ht : c.tree.WellFormed)

include h hsuite hclock hfits ht

/-- What is written between a mount and an unmount is in the container as it is opened later. -/
theorem Entered.reopened_of_write {argument : String} {append : Bool} {pieces : List Bytes}
    (hkey : Key.normalize (EntryPath.ofArgument argument) = .ok key)
    (hwritable : c.tree.Writable key ino mode old)
    (hlength : (Command.kept append old).length + pieces.flatten.length ≤ maxFileSize)
    (hsaves : (stay s (Command.writeFile s argument append pieces)).Saves suite thread printed
      line) :
    ∃ last t', (stay s (Command.writeFile s argument append pieces)).runOn suite thread printed line
        = ((.ok (), printed), last)
      ∧ last.machine.engine.Vacant
      ∧ c.tree.Filled key ino mode (Command.kept append old ++ pieces.flatten) t' ∧ t'.WellFormed
      ∧ ({ c with tree := t' } : OpenContainer).Reopened suite credential last.machine.host := by
  obtain ⟨hnone, hclean⟩ := h.fresh
  have hticks : ∀ n, (line.moments n).stamp.Storable := by
    rw [h.moments]
    exact hclock
  obtain ⟨worked, hrun, ⟨dirty, host, t', hworked, hfilled, ht', hstorable⟩, -⟩ :=
    Command.runOn_writeFile h.holds ht hfits.tree hticks h.held.isMounted hkey hwritable hlength
      hsaves.left.of_lift
  obtain ⟨last, hstay, hlast, hsave⟩ := runOn_stay_of_saves h.held
    (Command.works_writeFile s argument append pieces) hrun hworked hsaves
  have hrollback : ({ c with tree := t', dirty := dirty } : OpenContainer).rollback
      = { c with tree := t', dirty := dirty } := OpenContainer.rollback_of_none hnone
  rw [hrollback] at hsave
  have hreopened := OpenContainer.Reopened.of_persist hsuite
    (c := { c with tree := t', dirty := dirty }) ⟨h.placed.cleaned, h.placed.short⟩ hstorable
    hfits.cost ⟨h.accepts.kind, h.accepts.key⟩ hsave
  have hsame : ({ c with tree := t', transaction := none, dirty := false } : OpenContainer)
      = { c with tree := t' } := by
    rw [← hnone, ← hclean]
  exact ⟨last, t', hstay, hlast, hfilled, ht', hsame ▸ hreopened⟩

/-- What is printed between a mount and an unmount are the files, whole and in order. -/
theorem Entered.runOn_print {chunk : Nat} {files : List String} {contents : List Bytes}
    (hchunk : 0 < chunk) (hcontents : List.Forall₂ (fun file content => ∃ ino,
      c.tree.atPath (EntryPath.ofArgument file) Tree.fileData = .ok (ino, content))
      files contents) (printed : Printed) :
    ∃ last, (stay s (files.forM (Command.printFile s chunk))).runOn suite thread printed line
        = ((.ok (), { printed with stdout := printed.stdout ++ contents.flatten }), last)
      ∧ last.machine.engine.Vacant := by
  obtain ⟨hnone, hclean⟩ := h.fresh
  obtain ⟨outcome, told, worked, hrun, hread, hprinted⟩ := Command.runOn_printFiles hsuite hfits
    hnone hclean hclock h.held.isMounted (h.reading hsuite hfits ht (Command.NamedBy files)) thread
    printed chunk fun file hmem key hkey => ⟨file, hmem, hkey⟩
  obtain ⟨rfl, rfl⟩ := hprinted hchunk hcontents
  obtain ⟨⟨t', host, hworked, -⟩, -⟩ := hread
  obtain ⟨last, hstay, hlast, -⟩ := runOn_stay h.held
    (Task.only_forM (Command.works_printFile s chunk) files) hrun hworked
  exact ⟨last, hstay, hlast⟩

end Entered

/-- A file that a visit writes its input to holds it in the container as a later run opens it, alone
or behind what it held before, whatever pieces the input came in.  Everything else is as it was.
Files that a visit prints come out whole and in order, whatever chunks they are read in. -/
theorem written_and_printed (hsuite : suite.Lawful) (invocation : Invocation)
    (hvacant : start.machine.engine.Vacant) (hclock : ∀ n, (start.moments n).stamp.Storable)
    (hsecret : invocation.secrets.resolve input = .ok (credential, rest))
    (henter : (invocation.enter input).runOn suite thread printed start
      = ((.ok (s, rest), printed'), line))
    (hopen : line.machine.engine.opened = some c) (hfits : c.Fits) (ht : c.tree.WellFormed) :
    (Command.chunks rest).flatten = rest
    ∧ (∀ (argument : String) (append : Bool) {pieces : List Bytes} {key : String} {ino mode : Nat}
        {old : Bytes}, pieces.flatten = rest →
        Key.normalize (EntryPath.ofArgument argument) = .ok key →
        c.tree.Writable key ino mode old →
        (Command.kept append old).length + rest.length ≤ maxFileSize →
        (stay s (Command.writeFile s argument append pieces)).Saves suite thread printed' line →
        ∃ last t', (invocation.visit (fun s _ => Command.writeFile s argument append pieces)
            input).runOn suite thread printed start = ((.ok (), printed), last)
          ∧ last.machine.engine.Vacant
          ∧ c.tree.Filled key ino mode (Command.kept append old ++ rest) t' ∧ t'.WellFormed
          ∧ ({ c with tree := t' } : OpenContainer).Reopened suite credential last.machine.host)
    ∧ ∀ {chunk : Nat} {files : List String} {contents : List Bytes}, 0 < chunk →
        List.Forall₂ (fun file content => ∃ ino,
          c.tree.atPath (EntryPath.ofArgument file) Tree.fileData = .ok (ino, content))
          files contents →
        ∃ last, (invocation.visit (fun s _ => files.forM (Command.printFile s chunk))
            input).runOn suite thread printed start
            = ((.ok (), { printed with stdout := printed.stdout ++ contents.flatten }), last)
          ∧ last.machine.engine.Vacant := by
  obtain ⟨rfl, found, hfound, hentered⟩ := invocation.entered_of_enter hvacant henter hopen
  obtain ⟨rfl, -⟩ := Prod.mk.inj (Except.ok.inj (hsecret.symm.trans hfound))
  refine ⟨Command.flatten_chunks rest, ?_, ?_⟩
  · intro argument append pieces key ino mode old hpieces hkey hwritable hlength hsaves
    subst hpieces
    obtain ⟨last, t', hstay, hwritten⟩ := hentered.reopened_of_write hsuite hclock hfits ht hkey
      hwritable hlength hsaves
    exact ⟨last, t', (runOn_visit invocation _ henter).trans hstay, hwritten⟩
  · intro chunk files contents hchunk hcontents
    obtain ⟨last, hstay, hlast⟩ :=
      hentered.runOn_print hsuite hclock hfits ht hchunk hcontents printed'
    exact ⟨last, (runOn_visit invocation _ henter).trans hstay, hlast⟩

/-- Two bytes are put behind those of a file, and the file is printed twice. -/
theorem printed_after_write :
    let invocation : Invocation := Sample.invocation (.write "/f" true)
    ∃ last last' t',
      (invocation.visit (fun s _ => Command.writeFile s "/f" true [[3], [4]]) [3, 4]).runOn
          .standard mainThread .nothing Sample.start = ((.ok (), .nothing), last)
      ∧ Sample.container.tree.Filled "/f" 2 0o644 [1, 2, 3, 4] t'
      ∧ ({ Sample.container with tree := t' } : OpenContainer).Reopened .standard
        (.key (List.replicate 32 0)) last.machine.host
      ∧ (invocation.visit (fun s _ => ["/f", " f/"].forM (Command.printFile s 1)) [3, 4]).runOn
          .standard mainThread .nothing Sample.start
        = ((.ok (), { Printed.nothing with stdout := [1, 2, 1, 2] }), last') := by
  intro invocation
  have hinode : Sample.tree.inodes[2]?
      = some ⟨.file [1, 2], 0o644, 0, 0, 1, .epoch, .epoch, .epoch⟩ := by decide +kernel
  have hwritable : Sample.tree.Writable "/f" 2 0o644 [1, 2] :=
    .file (by decide +kernel) hinode rfl
  have hsaves : (stay Sample.session
      (Command.writeFile Sample.session "/f" true [[3], [4]])).Saves .standard mainThread .nothing
        Sample.line := by decide +kernel
  have hfile : ∀ file ∈ ["/f", " f/"], Sample.tree.atPath (EntryPath.ofArgument file) Tree.fileData
      = .ok (2, [1, 2]) := by decide +kernel
  obtain ⟨-, hwrite, hprint⟩ := written_and_printed CipherSuite.lawful_standard invocation
    Sample.vacant Sample.clock (Sample.resolve_eq [3, 4]) (Sample.runOn_enter _ [3, 4]) rfl
    Sample.fits Sample.wellFormed
  have hpieces : ([[3], [4]] : List Bytes).flatten = [3, 4] := rfl
  obtain ⟨last, t', hrun, -, hfilled, -, hreopened⟩ :=
    hwrite "/f" true hpieces rfl hwritable (by decide) hsaves
  have hfiles : List.Forall₂ (fun file content => ∃ ino,
      Sample.tree.atPath (EntryPath.ofArgument file) Tree.fileData = .ok (ino, content))
      ["/f", " f/"] [[1, 2], [1, 2]] :=
    .cons ⟨2, hfile _ (by simp)⟩ (.cons ⟨2, hfile _ (by simp)⟩ .nil)
  obtain ⟨last', hrun', -⟩ := hprint Nat.one_pos hfiles
  exact ⟨last, last', t', hrun, hfilled, hreopened, hrun'⟩

end Invocation

end Strongbox
