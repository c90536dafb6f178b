import Mathlib.Logic.Function.Basic
import Strongbox.Proofs.Session.StreamRun

/-!
# Streams are cursors on byte arrays

Several open streams are used in turns.  Some of them may share a path, and some paths may name the
same inode.  What is to be seen of them is what cursors on byte arrays show, one array for each inode
and one cursor for each stream.

* `Cursors` — byte arrays and cursors, with `Cursors.take` for what one call does to them.
* `Desk` — streams that are used on the container engine, with `Desk.take` for one call.
* `Desk.Shows` — a desk stands as the cursors say.
* `Desk.Shows.take` — one call keeps it so, and gives what the cursors give.
* **`Desk.shows_of_run`** — so do any number of calls.
-/

namespace Strongbox

/-! ## Calls -/

/-- The calls that move a cursor or change a file. -/
inductive FileStream.Action where
  | read (count : Nat)
  | write (buffer : Bytes)
  | seek (target : SeekFrom)
  | setLength (length : Nat)

namespace FileStream.Action

/-- The call on a stream.  It gives a number of bytes or a position, and the bytes that were read. -/
def perform (s : Session) : Action → StreamCall (Nat × Bytes)
  | .read count => FileStream.read s count
  | .write buffer => do return (← FileStream.write s buffer, [])
  | .seek target => do return (← FileStream.seek s target, [])
  | .setLength length => do
    FileStream.setLength s length
    return (0, [])

/-- An offset from the start is a machine word. -/
def InRange : Action → Prop
  | .seek target => target.InRange
  | _ => True

instance : (action : Action) → Decidable action.InRange
  | .seek (.start offset) => inferInstanceAs (Decidable (offset < UInt64.size))
  | .seek (.current _) | .seek (.fromEnd _) | .read _ | .write _ | .setLength _ => .isTrue trivial

end FileStream.Action

/-- A stream that was not closed, and stands somewhere in a regular file or behind it. -/
structure FileStream.OnFile (t : Tree) (f : FileStream) : Prop where
  stream : f.closed = false
  position : f.position < UInt64.size
  file : ∃ key ino data, Key.normalize f.handle.path = .ok key ∧ t.fileData key = .ok (ino, data)

/-- What a call tells. -/
abbrev Told := Except StreamError (Nat × Bytes)

/-- A call on one of several streams, from a thread. -/
structure Turn (ι : Type) where
  stream : ι
  thread : Thread
  action : FileStream.Action

/-! ## Byte arrays -/

/-- Byte arrays by their numbers, and cursors that stand somewhere in them or behind them. -/
structure Cursors (ι : Type) where
  content : Nat → Bytes
  position : ι → Nat

namespace Cursors

variable {ι : Type} [DecidableEq ι]

/-- The arrays and cursors after a cursor has moved. -/
def moved (a : Cursors ι) (i : ι) (position : Nat) : Cursors ι :=
  { a with position := Function.update a.position i position }

lemma moved_self (a : Cursors ι) (i : ι) : a.moved i (a.position i) = a := by
  rw [moved, Function.update_eq_self]

/-- The arrays and cursors after an array has changed. -/
def filled (a : Cursors ι) (number : Nat) (data : Bytes) : Cursors ι :=
  { a with content := Function.update a.content number data }

/-- Read the bytes from the cursor on, at most a number of them and none behind the end. -/
def read (a : Cursors ι) (number : Nat) (i : ι) (count : Nat) : Told × Cursors ι :=
  let data := a.content number
  let stop := min (a.position i + count) data.length
  let bytes := (data.take stop).drop (a.position i)
  (.ok (bytes.length, bytes), a.moved i (a.position i + bytes.length))

lemma drop_take (data : Bytes) (position count : Nat) :
    (data.take (min (position + count) data.length)).drop position
      = (data.drop position).take count := by
  rw [List.drop_take, List.take_eq_take_iff, List.length_drop]
  omega

/-- Write a buffer over the bytes from a position on, and move the cursor behind it.  The array does
not grow beyond what a file can hold. -/
def writeAt (a : Cursors ι) (number : Nat) (i : ι) (position : Nat) (buffer : Bytes) :
    Told × Cursors ι :=
  if maxFileSize < position + buffer.length then (.error (.os .tooBig), a.moved i position)
  else
    (.ok (buffer.length, []),
      (a.filled number (Tree.overwritten (a.content number) buffer position)).moved i
        (position + buffer.length))

/-- Write a buffer, at the cursor or behind the last byte.  An empty one is not written. -/
def write (a : Cursors ι) (number : Nat) (append : Bool) (i : ι) (buffer : Bytes) :
    Told × Cursors ι :=
  let position := if append then (a.content number).length else a.position i
  if buffer = [] then (.ok (0, []), a.moved i position) else a.writeAt number i position buffer

/-- Move a cursor to the exact sum, as long as that is a machine word. -/
def seek (a : Cursors ι) (number : Nat) (i : ι) (target : SeekFrom) : Told × Cursors ι :=
  let sum := target.sum (a.position i) (a.content number).length
  if 0 ≤ sum ∧ sum < UInt64.size then (.ok (sum.toNat, []), a.moved i sum.toNat)
  else (.error .negativeSeek, a)

/-- Cut an array, or put zeros behind it. -/
def setLength (a : Cursors ι) (number : Nat) (length : Nat) : Told × Cursors ι :=
  if maxFileSize < length then (.error (.os .tooBig), a)
  else (.ok (0, []), a.filled number (Tree.resized (a.content number) length))

/-- Carry a call out.  Each cursor belongs to one array, and may belong to its end. -/
def take (file : ι → Nat) (append : ι → Bool) (turn : Turn ι) (a : Cursors ι) :
    Told × Cursors ι :=
  match turn.action with
  | .read count => a.read (file turn.stream) turn.stream count
  | .write buffer => a.write (file turn.stream) (append turn.stream) turn.stream buffer
  | .seek target => a.seek (file turn.stream) turn.stream target
  | .setLength length => a.setLength (file turn.stream) length

/-- Carry calls out one after the other. -/
def run (file : ι → Nat) (append : ι → Bool) : List (Turn ι) → Cursors ι → List Told × Cursors ι
  | [], a => ([], a)
  | turn :: rest, a =>
    let (told, a) := a.take file append turn
    let (all, a) := run file append rest a
    (told :: all, a)

end Cursors

/-! ## Streams -/

/-- Streams, and the engine that they are used on. -/
structure Desk (ι : Type) where
  files : ι → FileStream
  line : Timeline

namespace Desk

variable {ι : Type} [DecidableEq ι]

/-- Carry a call out on its stream. -/
def take (suite : CipherSuite) (s : Session) (turn : Turn ι) (d : Desk ι) : Told × Desk ι :=
  let ((told, f), line) :=
    (turn.action.perform s).runOn suite turn.thread (d.files turn.stream) d.line
  (told, ⟨Function.update d.files turn.stream f, line⟩)

/-- Carry calls out one after the other. -/
def run (suite : CipherSuite) (s : Session) : List (Turn ι) → Desk ι → List Told × Desk ι
  | [], d => ([], d)
  | turn :: rest, d =>
    let (told, d) := d.take suite s turn
    let (all, d) := run suite s rest d
    (told :: all, d)

/-- All saves that the calls ask for go through. -/
def Saves (suite : CipherSuite) (s : Session) : List (Turn ι) → Desk ι → Prop
  | [], _ => True
  | turn :: rest, d =>
    ((turn.action.perform s).run.run (d.files turn.stream)).Saves suite turn.thread d.line
      ∧ Saves suite s rest (d.take suite s turn).2

instance decidableSaves (suite : CipherSuite) (s : Session) : (turns : List (Turn ι)) →
    (d : Desk ι) → Decidable (d.Saves suite s turns)
  | [], _ => .isTrue trivial
  | turn :: rest, d =>
    have := decidableSaves suite s rest (d.take suite s turn).2
    inferInstanceAs (Decidable (_ ∧ _))

/-- The streams are open on regular files, and stand where the cursors stand. -/
structure Shows (d : Desk ι) (file : ι → Nat) (append : ι → Bool) (a : Cursors ι) : Prop where
  content : ∃ c host, d.line.Holds c host ∧ ∀ i, ∃ key,
    Key.normalize (d.files i).handle.path = .ok key
      ∧ c.tree.fileData key = .ok (file i, a.content (file i))
  stream : ∀ i, (d.files i).closed = false ∧ (d.files i).append = append i
    ∧ (d.files i).position = a.position i
  size : ∀ i, (a.content (file i)).length ≤ maxFileSize
  position : ∀ i, a.position i < UInt64.size

/-! ## One call -/

variable {suite : CipherSuite} {s : Session} {d : Desk ι} {file : ι → Nat} {append : ι → Bool}
  {a : Cursors ι} {i : ι} {c c' : OpenContainer} {host host' : Host} {line' : Timeline}
  {position : Nat}

/-- A call moves one cursor, and leaves the streams open on files that may hold something else. -/
lemma Shows.of_step (h : d.Shows file append a) {content : Nat → Bytes}
    (hline' : line'.Holds c' host')
    (hcontent : ∀ j, ∃ key, Key.normalize (d.files j).handle.path = .ok key
      ∧ c'.tree.fileData key = .ok (file j, content (file j)))
    (hsize : ∀ j, (content (file j)).length ≤ maxFileSize) (hposition : position < UInt64.size) :
    Shows ⟨Function.update d.files i { d.files i with position := position }, line'⟩ file append
      ⟨content, Function.update a.position i position⟩ := by
  -- the cursor that moves is the only thing about the streams that changes
  have hfile : ∀ j, Function.update d.files i { d.files i with position := position } j
      = { d.files j with position := Function.update a.position i position j } := by
    intro j
    rcases eq_or_ne j i with rfl | hne
    · rw [Function.update_self, Function.update_self]
    · rw [Function.update_of_ne hne, Function.update_of_ne hne, ← (h.stream j).2.2]
  refine ⟨⟨c', host', hline', fun j => ?_⟩, fun j => ?_, hsize, fun j => ?_⟩
  · dsimp only
    rw [hfile]
    exact hcontent j
  · dsimp only
    rw [hfile]
    exact ⟨(h.stream j).1, (h.stream j).2.1, rfl⟩
  · dsimp only
    rw [Function.update_apply]
    split
    · exact hposition
    · exact h.position j

/-- A call that changes nothing. -/
lemma Shows.of_still (h : d.Shows file append a)
    (hfiles : ∀ j, ∃ key, Key.normalize (d.files j).handle.path = .ok key
      ∧ c.tree.fileData key = .ok (file j, a.content (file j)))
    (hline' : line'.Holds c host) :
    Shows ⟨Function.update d.files i (d.files i), line'⟩ file append a := by
  rw [Function.update_eq_self]
  exact ⟨⟨c, host, hline', hfiles⟩, h.stream, h.size, h.position⟩

/-- A call that changes no file. -/
lemma Shows.of_moved (h : d.Shows file append a)
    (hfiles : ∀ j, ∃ key, Key.normalize (d.files j).handle.path = .ok key
      ∧ c.tree.fileData key = .ok (file j, a.content (file j)))
    (hline' : line'.Holds c host) (hposition : position < UInt64.size) :
    Shows ⟨Function.update d.files i { d.files i with position := position }, line'⟩ file append
      (a.moved i position) :=
  h.of_step hline' hfiles h.size hposition

/-- A call that changes the file of its stream. -/
lemma Shows.of_filled (h : d.Shows file append a)
    (hfiles : ∀ j, ∃ key, Key.normalize (d.files j).handle.path = .ok key
      ∧ c.tree.fileData key = .ok (file j, a.content (file j)))
    {stamp : Stamp} {new : Bytes} (htree : c'.tree = c.tree.modify (file i) (.setData stamp new))
    (hline' : line'.Holds c' host') (hnew : new.length ≤ maxFileSize)
    (hposition : position < UInt64.size) :
    Shows ⟨Function.update d.files i { d.files i with position := position }, line'⟩ file append
      ((a.filled (file i) new).moved i position) := by
  refine h.of_step hline' (fun j => ?_) (fun j => ?_) hposition
  · obtain ⟨key, hkey, hdata⟩ := hfiles j
    refine ⟨key, hkey, ?_⟩
    rw [htree, Tree.fileData_modify hdata]
    simp only [Cursors.filled, Function.update_apply, eq_comm]
  · simp only [Cursors.filled, Function.update_apply]
    split
    · exact hnew
    · exact h.size j

lemma take_of_run (turn : Turn ι) {told : Told} {f : FileStream}
    (hrun : (turn.action.perform s).runOn suite turn.thread (d.files turn.stream) d.line
      = ((told, f), line')) :
    d.take suite s turn = (told, ⟨Function.update d.files turn.stream f, line'⟩) := by
  rw [take, hrun]

section Turn

variable (h : d.Shows file append a) (hs : s.isMounted = true) (i : ι) (thread : Thread)

include h hs

lemma Shows.read (count : Nat) :
    (d.take suite s ⟨i, thread, .read count⟩).1 = (a.read (file i) i count).1
      ∧ (d.take suite s ⟨i, thread, .read count⟩).2.Shows file append
        (a.read (file i) i count).2 := by
  obtain ⟨c, host, hline, hfiles⟩ := h.content
  obtain ⟨key, hkey, hdata⟩ := hfiles i
  obtain ⟨hopen, -, hposition⟩ := h.stream i
  obtain ⟨line', hrun, hline'⟩ := FileStream.runOn_read suite thread
    hline hs hkey hdata hopen count
  rw [hposition, ← Cursors.drop_take] at hrun
  rw [take_of_run ⟨i, thread, .read count⟩ hrun]
  refine ⟨rfl, h.of_moved hfiles hline' ?_⟩
  -- a cursor behind the end stays where it is, any other one does not get behind the end
  have hcursor := h.position i
  have hsize := h.size i
  have hlarge : maxFileSize < UInt64.size := by decide
  simp only [List.length_drop, List.length_take]
  omega

lemma Shows.write (buffer : Bytes) :
    (d.take suite s ⟨i, thread, .write buffer⟩).1
        = (a.write (file i) (append i) i buffer).1
      ∧ (d.take suite s ⟨i, thread, .write buffer⟩).2.Shows file append
        (a.write (file i) (append i) i buffer).2 := by
  obtain ⟨c, host, hline, hfiles⟩ := h.content
  obtain ⟨key, hkey, hdata⟩ := hfiles i
  obtain ⟨hopen, happend, hposition⟩ := h.stream i
  have hlarge : maxFileSize < UInt64.size := by decide
  obtain ⟨middle, hstart, hmiddle⟩ := FileStream.runOn_write suite thread
    hline hs hkey hdata hopen buffer
  have hbound : (if append i then (a.content (file i)).length else a.position i)
      < UInt64.size := by
    split
    · exact (h.size i).trans_lt hlarge
    · exact h.position i
  unfold Cursors.write
  rw [← happend, ← hposition] at hbound ⊢
  generalize (if (d.files i).append then (a.content (file i)).length else (d.files i).position)
    = start at hstart hbound ⊢
  by_cases hempty : buffer = []
  · subst hempty
    rw [FileStream.writeRest] at hstart
    rw [take_of_run ⟨i, thread, .write []⟩ (StreamCall.runOn_map hstart _), if_pos rfl]
    exact ⟨rfl, h.of_moved hfiles hmiddle hbound⟩
  rw [if_neg hempty, Cursors.writeAt]
  by_cases hfits : maxFileSize < start + buffer.length
  · obtain ⟨line', hrun, hline'⟩ := FileStream.runOn_writeRest_of_lt suite thread
      (f := { d.files i with position := start }) hmiddle hs hkey hdata hempty
      hfits
    rw [take_of_run ⟨i, thread, .write buffer⟩
      (StreamCall.runOn_map (hstart.trans hrun) _), if_pos hfits]
    exact ⟨rfl, h.of_moved hfiles hline' hbound⟩
  · obtain ⟨line', hrun, hline'⟩ := FileStream.runOn_writeRest suite thread
      (f := { d.files i with position := start }) hmiddle hs hkey hdata hempty
      (Nat.not_lt.1 hfits)
    rw [take_of_run ⟨i, thread, .write buffer⟩
      (StreamCall.runOn_map (hstart.trans hrun) _), if_neg hfits]
    refine ⟨rfl, h.of_filled hfiles rfl hline' ?_ ((Nat.not_lt.1 hfits).trans_lt hlarge)⟩
    rw [Tree.length_overwritten]
    exact max_le (h.size i) (Nat.not_lt.1 hfits)

lemma Shows.seek {target : SeekFrom} (hrange : target.InRange) :
    (d.take suite s ⟨i, thread, .seek target⟩).1 = (a.seek (file i) i target).1
      ∧ (d.take suite s ⟨i, thread, .seek target⟩).2.Shows file append
        (a.seek (file i) i target).2 := by
  obtain ⟨c, host, hline, hfiles⟩ := h.content
  obtain ⟨key, hkey, hdata⟩ := hfiles i
  obtain ⟨hopen, -, hposition⟩ := h.stream i
  obtain ⟨line', hrun, hline'⟩ := FileStream.runOn_seek suite thread
    hline hs hkey hdata hopen hrange
  rw [hposition] at hrun
  unfold Cursors.seek
  by_cases hsum : 0 ≤ target.sum (a.position i) (a.content (file i)).length
      ∧ target.sum (a.position i) (a.content (file i)).length < UInt64.size
  · rw [if_pos hsum] at hrun
    rw [take_of_run ⟨i, thread, .seek target⟩ (StreamCall.runOn_map hrun _), if_pos hsum]
    exact ⟨rfl, h.of_moved hfiles hline' ((Int.toNat_lt hsum.1).2 hsum.2)⟩
  · rw [if_neg hsum] at hrun
    rw [take_of_run ⟨i, thread, .seek target⟩ (StreamCall.runOn_map hrun _), if_neg hsum]
    exact ⟨rfl, h.of_still hfiles hline'⟩

lemma Shows.setLength {length : Nat}
    (hsaves : ((FileStream.Action.perform s (.setLength length)).run.run (d.files i)).Saves suite
      thread d.line) :
    (d.take suite s ⟨i, thread, .setLength length⟩).1 = (a.setLength (file i) length).1
      ∧ (d.take suite s ⟨i, thread, .setLength length⟩).2.Shows file append
        (a.setLength (file i) length).2 := by
  obtain ⟨c, host, hline, hfiles⟩ := h.content
  obtain ⟨key, hkey, hdata⟩ := hfiles i
  obtain ⟨hopen, -, hposition⟩ := h.stream i
  unfold Cursors.setLength
  by_cases hfits : maxFileSize < length
  · obtain ⟨line', hrun, hline'⟩ := FileStream.runOn_setLength_of_lt
      suite thread hline hs hkey hdata hopen hfits
    rw [take_of_run ⟨i, thread, .setLength length⟩ (StreamCall.runOn_map hrun _),
      if_pos hfits]
    exact ⟨rfl, h.of_still hfiles hline'⟩
  · obtain ⟨line', dirty, host', hrun, hline'⟩ := FileStream.runOn_setLength
      suite thread hline hs hkey hdata hopen (Nat.not_lt.1 hfits)
      (FileStream.saves_of_setLength hs hopen (Script.saves_bind.1 hsaves).1)
    rw [take_of_run ⟨i, thread, .setLength length⟩ (StreamCall.runOn_map hrun _),
      if_neg hfits]
    have hstay : (a.filled (file i) (Tree.resized (a.content (file i)) length)).moved i
        (d.files i).position = a.filled (file i) (Tree.resized (a.content (file i)) length) := by
      rw [hposition]
      exact Cursors.moved_self _ i
    refine ⟨rfl, hstay ▸ h.of_filled hfiles rfl hline' ?_ (hposition ▸ h.position i)⟩
    exact (Tree.length_resized _ _).trans_le (Nat.not_lt.1 hfits)

end Turn

/-- A call keeps the streams where the cursors stand, and tells what they tell. -/
theorem Shows.take (h : d.Shows file append a) (hs : s.isMounted = true) (turn : Turn ι)
    (hrange : turn.action.InRange)
    (hsaves : ((turn.action.perform s).run.run (d.files turn.stream)).Saves suite turn.thread
      d.line) :
    (d.take suite s turn).1 = (a.take file append turn).1
      ∧ (d.take suite s turn).2.Shows file append (a.take file append turn).2 := by
  obtain ⟨i, thread, action⟩ := turn
  cases action with
  | read count => exact h.read hs i thread count
  | write buffer => exact h.write hs i thread buffer
  | seek target => exact h.seek hs i thread hrange
  | setLength length => exact h.setLength hs i thread hsaves

/-! ## Any number of calls -/

lemma Shows.run (h : d.Shows file append a) (hs : s.isMounted = true) {turns : List (Turn ι)}
    (hrange : ∀ turn ∈ turns, turn.action.InRange) (hsaves : d.Saves suite s turns) :
    (d.run suite s turns).1 = (a.run file append turns).1
      ∧ (d.run suite s turns).2.Shows file append (a.run file append turns).2 := by
  induction turns generalizing d a with
  | nil => exact ⟨rfl, h⟩
  | cons turn rest ih =>
      obtain ⟨htold, hshows⟩ := h.take hs turn (hrange turn (List.mem_cons_self ..)) hsaves.1
      obtain ⟨hall, hlast⟩ :=
        ih hshows (fun other hother => hrange other (List.mem_cons_of_mem _ hother)) hsaves.2
      exact ⟨congrArg₂ List.cons htold hall, hlast⟩

omit [DecidableEq ι] in
/-- Streams on regular files stand as some cursors say. -/
lemma exists_shows (hline : d.line.Holds c host) (htree : c.tree.WellFormed)
    (hfiles : ∀ i, (d.files i).OnFile c.tree) :
    ∃ file a, d.Shows file (fun i => (d.files i).append) a := by
  choose key ino data hkey hdata using fun i => (hfiles i).file
  have hcontent : ∀ i, c.tree.contentOf (ino i) = data i :=
    fun i => Tree.contentOf_of_fileData (hdata i)
  refine ⟨ino, ⟨c.tree.contentOf, fun i => (d.files i).position⟩, ⟨c, host, hline, fun i => ?_⟩,
    fun i => ⟨(hfiles i).stream, rfl, rfl⟩, fun i => ?_, fun i => (hfiles i).position⟩
  · refine ⟨key i, hkey i, (hdata i).trans ?_⟩
    rw [← hcontent i]
  · obtain ⟨inode, -, hinode, hkind⟩ := Tree.fileData_ok (hdata i)
    show (c.tree.contentOf (ino i)).length ≤ maxFileSize
    rw [hcontent i]
    exact (htree.limits hinode).size_le _ hkind

variable (suite) in
/-- Whichever streams are open on regular files, and however they are used one after the other, they
tell what cursors on byte arrays tell, as long as saves go through.  After any number of calls the
files hold what the arrays hold, and every cursor is a machine word. -/
theorem shows_of_run (hs : s.isMounted = true) (hline : d.line.Holds c host)
    (htree : c.tree.WellFormed) (hfiles : ∀ i, (d.files i).OnFile c.tree) :
    ∃ file a, d.Shows file (fun i => (d.files i).append) a
      ∧ ∀ {turns : List (Turn ι)}, (∀ turn ∈ turns, turn.action.InRange) →
        d.Saves suite s turns →
        (d.run suite s turns).1 = (a.run file (fun i => (d.files i).append) turns).1
          ∧ (d.run suite s turns).2.Shows file (fun i => (d.files i).append)
            (a.run file (fun i => (d.files i).append) turns).2 := by
  obtain ⟨file, a, hshows⟩ := exists_shows hline htree hfiles
  exact ⟨file, a, hshows, fun hrange hsaves => hshows.run hs hrange hsaves⟩

/-- A stream and an appending one share an inode by two keys, and each sees what the other does. -/
theorem shows_after_turns :
    let s : Session := ⟨some "/box", some ⟨1⟩⟩
    let turns : List (Turn Bool) := [⟨true, mainThread, .write [1, 2, 3]⟩,
      ⟨false, mainThread, .write [4]⟩, ⟨true, 7, .seek (.fromEnd (-2))⟩, ⟨true, 7, .read 8⟩,
      ⟨false, mainThread, .setLength 1⟩, ⟨true, mainThread, .read 8⟩]
    ∃ (d : Desk Bool) (c : OpenContainer) (host : Host), s.isMounted = true
      ∧ d.line.Holds c host ∧ c.tree.WellFormed ∧ (∀ i, (d.files i).OnFile c.tree)
      ∧ (∀ turn ∈ turns, turn.action.InRange) ∧ d.Saves .standard s turns
      ∧ ∃ (file : Bool → Nat) (a : Cursors Bool), (d.run .standard s turns).1
        = (a.run file (fun i => (d.files i).append) turns).1 := by
  intro s turns
  let moment : Moment := ⟨⟨.epoch, 0, 0⟩, [], .ofNat 0, none⟩
  let made : Tree := (Change.create "/f" 0o644).after moment.stamp (.empty moment.stamp)
  let tree : Tree := (Change.link "/f" "/g").after moment.stamp made
  let c : OpenContainer :=
    ⟨"/box", .key, none, none, ⟨List.replicate 32 0, rfl⟩, tree, none, false⟩
  let host : Host := .bare ⟨4096, 0, 0, 0, 0, 255⟩ "/"
  let d : Desk Bool := ⟨fun i => ⟨.ofPath (if i then "/f" else "//g"), 0, !i, false⟩,
    ⟨⟨⟨.standard, .empty, some c⟩, host⟩, fun _ => moment, 0⟩⟩
  have hmade : made.WellFormed :=
    (Tree.wellFormed_empty _).after _ (show (Change.create "/f" 0o644).resolve = _ from rfl)
  have htree : tree.WellFormed := hmade.after _ (show (Change.link "/f" "/g").resolve = _ from rfl)
  have hfiles : ∀ i, (d.files i).OnFile c.tree := by
    intro i
    cases i with
    | true => exact ⟨rfl, by decide, "/f", 2, [], by decide +kernel, by decide +kernel⟩
    | false => exact ⟨rfl, by decide, "/g", 2, [], by decide +kernel, by decide +kernel⟩
  have hline : d.line.Holds c host := ⟨rfl, rfl⟩
  have hrange : ∀ turn ∈ turns, turn.action.InRange := by decide +kernel
  have hsaves : d.Saves .standard s turns := by decide +kernel
  obtain ⟨file, a, -, hrun⟩ := shows_of_run .standard (rfl : s.isMounted = true) hline htree hfiles
  exact ⟨d, c, host, rfl, hline, htree, hfiles, hrange, hsaves, file, a, (hrun hrange hsaves).1⟩

end Desk

end Strongbox
