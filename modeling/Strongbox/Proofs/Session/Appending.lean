import Strongbox.Proofs.Session.Pool
import Strongbox.Proofs.Session.StreamRun

/-!
# Appending side by side

Several streams append to one regular file at the same time.  Every write of a stream is two
requests: it asks for the size of the file, and then it writes there.  Other streams may go on in
between.

* `FileStream.writeEach` — a stream that writes one buffer after the other.
* `Pool.writes` — the buffers that were written, by the log of all requests.
* `Pool.Undisturbed` — nothing was written between a question for the size and the write after it.
* `Pool.Grown.write` — what a write at a size that was asked for makes of the file.
* **`Pool.appended_of_run`** — the file has grown by all buffers exactly if no stream was disturbed.
-/

namespace Strongbox

/-! ## Writing one buffer after the other -/

namespace FileStream

/-- Write buffers one after the other, each with a call of its own. -/
def writeEach (s : Session) : List Bytes → StreamCall Unit
  | [] => return ()
  | buffer :: rest => do
    let _ ← write s buffer
    writeEach s rest

/-- The rest of writing buffers, once the cursor stands where the first one goes. -/
def writeFrom (s : Session) (buffer : Bytes) (rest : List Bytes) : StreamCall Unit := do
  let _ ← writeRest s 0 buffer
  writeEach s rest

/-- The stream appends to what a path names. -/
structure Appends (f : FileStream) (path : String) : Prop where
  path : f.handle.path = path
  append : f.append = true
  isOpen : f.closed = false

variable {s : Session} {f : FileStream} {path : String} {buffer : Bytes} {rest : List Bytes}

lemma Appends.moved (h : f.Appends path) (position : Nat) :
    { f with position := position }.Appends path :=
  ⟨h.path, h.append, h.isOpen⟩

/-- A stream that appends asks for the size of the file first. -/
lemma run_writeEach_cons (hs : s.isMounted = true) (hf : f.Appends path) :
    ∃ next : Int × FileStat → Script (Except StreamError Unit × FileStream),
      (writeEach s (buffer :: rest)).run.run f = .ask (.getattr path) next
        ∧ ∀ stat, next (0, stat)
          = (writeFrom s buffer rest).run.run { f with position := stat.size } := by
  obtain ⟨containerPath, marker⟩ := s
  obtain ⟨handle, position, append, closed⟩ := f
  obtain ⟨rfl, rfl, rfl⟩ := hf
  obtain ⟨marker, rfl⟩ := Option.isSome_iff_exists.1 hs
  exact ⟨_, rfl, fun stat => rfl⟩

/-- Then it writes, and is done with the buffer if all of that was taken. -/
lemma run_writeFrom (hs : s.isMounted = true) (hf : f.Appends path) (hbuffer : buffer ≠ []) :
    ∃ next : Int → Script (Except StreamError Unit × FileStream),
      (writeFrom s buffer rest).run.run f = .ask (.change (.write path buffer f.position)) next
        ∧ next buffer.length = (writeEach s rest).run.run
          { f with position := f.position + buffer.length }
        ∧ ∀ code < 0, ∃ error, next code = .done (.error error, f) := by
  obtain ⟨next, hrun, htaken, hstopped⟩ := run_writeRest (f := f) hs hbuffer 0
  rw [writeFrom, StreamCall.run_bind, hrun, hf.path]
  refine ⟨_, rfl, ?_, fun code hcode => ?_⟩
  · have hwhole := htaken (List.length_pos_iff.2 hbuffer)
    rw [List.drop_length, writeRest] at hwhole
    rw [hwhole]
    rfl
  · rw [hstopped (Int.le_of_lt hcode)]
    exact ⟨_, rfl⟩

end FileStream

/-! ## What was written -/

namespace Exchange

/-- Whether the size of a file was asked for. -/
def asksSize : Exchange → Bool
  | ⟨.getattr _, _⟩ => true
  | _ => false

/-- The buffer that was written, if one was. -/
def written? : Exchange → Option Bytes
  | ⟨.change (.write _ buffer _), code⟩ =>
    let code : Int := code
    if 0 ≤ code then some buffer else none
  | _ => none

lemma written?_write (path : String) (buffer : Bytes) (position : Nat) (code : Int) :
    (Exchange.mk (.change (.write path buffer position)) code).written?
      = if 0 ≤ code then some buffer else none := rfl

end Exchange

namespace Pool

variable {ι : Type} {log between : List (ι × Exchange)} {i j : ι} {e : Exchange}
  {buffer start data : Bytes} {position : Nat}

/-- The buffers that were written and whose they are, in the order of the writes. -/
def writes (log : List (ι × Exchange)) : List (ι × Bytes) :=
  log.filterMap fun entry => entry.2.written?.map (entry.1, ·)

/-- All bytes that were written, in the order of the writes. -/
def writtenBytes (log : List (ι × Exchange)) : Bytes :=
  ((writes log).map Prod.snd).flatten

/-- The buffers that one script has written. -/
def writtenBy [DecidableEq ι] (i : ι) (log : List (ι × Exchange)) : List Bytes :=
  ((writes log).filter fun entry => entry.1 = i).map Prod.snd

lemma writes_snoc (log : List (ι × Exchange)) (i : ι) (e : Exchange) :
    writes (log ++ [(i, e)]) = writes log ++ e.written?.toList.map (i, ·) := by
  rw [writes, List.filterMap_append, writes]
  cases h : e.written? <;> simp [h]

lemma writtenBytes_snoc (log : List (ι × Exchange)) (i : ι) (e : Exchange) :
    writtenBytes (log ++ [(i, e)]) = writtenBytes log ++ e.written?.getD [] := by
  rw [writtenBytes, writes_snoc, List.map_append, List.flatten_append, writtenBytes]
  cases e.written? <;> simp

lemma writtenBy_snoc [DecidableEq ι] (log : List (ι × Exchange)) (i j : ι) (e : Exchange) :
    writtenBy i (log ++ [(j, e)])
      = writtenBy i log ++ if j = i then e.written?.toList else [] := by
  rw [writtenBy, writes_snoc, List.filter_append, List.map_append, writtenBy]
  by_cases h : j = i <;> cases e.written? <;> simp [h]

/-! ## Disturbances -/

/-- No bytes were written between the question of a stream for the size of the file and its write
after that. -/
def Undisturbed (log : List (ι × Exchange)) : Prop :=
  ∀ ⦃i : ι⦄ ⦃between : List (ι × Exchange)⦄,
    Gap Exchange.asksSize (·.written?.isSome) i between log → writtenBytes between = []

lemma undisturbed_nil : Undisturbed ([] : List (ι × Exchange)) :=
  fun _ _ hgap => absurd hgap not_gap_nil

lemma Undisturbed.of_snoc {entry : ι × Exchange} (h : Undisturbed (log ++ [entry])) :
    Undisturbed log :=
  fun _ _ hgap => h (gap_snoc.2 (.inl hgap))

/-- Only a write disturbs, and only if others have written before it. -/
lemma Undisturbed.snoc (h : Undisturbed log)
    (hwrite : e.written?.isSome = true → ∃ between, AskedSince Exchange.asksSize i between log
      ∧ writtenBytes between = []) : Undisturbed (log ++ [(i, e)]) := by
  intro j between hgap
  rcases gap_snoc.1 hgap with hbefore | ⟨rfl, hwritten, hasked⟩
  · exact h hbefore
  · obtain ⟨since, hsince, hnothing⟩ := hwrite hwritten
    rwa [hasked.unique hsince]

lemma Undisturbed.writtenBytes_eq_nil (h : Undisturbed (log ++ [(i, e)]))
    (hasked : AskedSince Exchange.asksSize i between log) (hwritten : e.written?.isSome = true) :
    writtenBytes between = [] :=
  h (gap_snoc.2 (.inr ⟨rfl, hwritten, hasked⟩))

/-! ## How the file grows -/

/-- What a file has become by the writes of a log.  If some stream was disturbed, bytes are
missing. -/
structure Grown (start : Bytes) (log : List (ι × Exchange)) (data : Bytes) : Prop where
  keeps : start <+: data
  whole : Undisturbed log → data = start ++ writtenBytes log
  short : ¬ Undisturbed log → data.length < start.length + (writtenBytes log).length

lemma grown_nil (start : Bytes) : Grown start ([] : List (ι × Exchange)) start :=
  ⟨List.prefix_refl _, fun _ => (List.append_nil _).symm, fun h => absurd undisturbed_nil h⟩

namespace Grown

/-- Undisturbed writes add up. -/
lemma length_eq (h : Grown start log data) (hundisturbed : Undisturbed log) :
    data.length = start.length + (writtenBytes log).length := by
  rw [h.whole hundisturbed, List.length_append]

/-- A request that writes nothing. -/
lemma rest (h : Grown start log data) (i : ι) (hwritten : e.written? = none) :
    Grown start (log ++ [(i, e)]) data := by
  have hsame : writtenBytes (log ++ [(i, e)]) = writtenBytes log := by
    rw [writtenBytes_snoc, hwritten]
    exact List.append_nil _
  have hiff : Undisturbed (log ++ [(i, e)]) ↔ Undisturbed log :=
    ⟨.of_snoc, fun hlog => hlog.snoc fun hsome => by rw [hwritten] at hsome; cases hsome⟩
  refine ⟨h.keeps, fun hlog => ?_, fun hlog => ?_⟩
  · rw [hsame]
    exact h.whole (hiff.1 hlog)
  · rw [hsame]
    exact h.short (mt hiff.2 hlog)

/-- A buffer that is written where the file had its end when that was asked for.  What others have
written since is overwritten. -/
lemma write (h : Grown start log data) (hasked : AskedSince Exchange.asksSize i between log)
    (hstart : start.length ≤ position) (hposition : position ≤ data.length)
    (hsince : Undisturbed log → data.length = position + (writtenBytes between).length)
    (hbuffer : buffer ≠ []) (hwritten : e.written? = some buffer) :
    Grown start (log ++ [(i, e)]) (Tree.overwritten data buffer position) := by
  have hsome : e.written?.isSome = true := by rw [hwritten]; rfl
  have hbytes : writtenBytes (log ++ [(i, e)]) = writtenBytes log ++ buffer := by
    rw [writtenBytes_snoc, hwritten]
    rfl
  have hlength := List.length_pos_iff.2 hbuffer
  refine ⟨?_, fun hlog => ?_, fun hlog => ?_⟩
  · have htake : start <+: data.take position := List.prefix_take_iff.2 ⟨h.keeps, hstart⟩
    rw [Tree.overwritten, List.append_assoc, List.append_assoc]
    exact htake.trans (List.prefix_append ..)
  · have hend := hsince hlog.of_snoc
    rw [hlog.writtenBytes_eq_nil hasked hsome, List.length_nil, Nat.add_zero] at hend
    rw [← hend, Tree.overwritten_length, hbytes, h.whole hlog.of_snoc, List.append_assoc]
  · rw [hbytes, Tree.length_overwritten, List.length_append]
    by_cases hbefore : Undisturbed log
    · have hothers : writtenBytes between ≠ [] := fun hnothing =>
        hlog (hbefore.snoc fun _ => ⟨between, hasked, hnothing⟩)
      have hlost := List.length_pos_iff.2 hothers
      have hnow := h.length_eq hbefore
      have hthen := hsince hbefore
      omega
    · have hnow := h.short hbefore
      omega

/-- The file holds all buffers, in some order, exactly if no stream was disturbed. -/
lemma exists_order_iff (h : Grown start log data) :
    (∃ order : List Bytes, order.Perm ((writes log).map Prod.snd) ∧ data = start ++ order.flatten)
      ↔ Undisturbed log := by
  refine ⟨fun ⟨order, hperm, hdata⟩ => ?_, fun hlog => ⟨_, .refl _, h.whole hlog⟩⟩
  by_contra hlog
  have hshort := h.short hlog
  have hlength : order.flatten.length = (writtenBytes log).length := hperm.flatten.length_eq
  rw [hdata, List.length_append, hlength] at hshort
  exact Nat.lt_irrefl _ hshort

end Grown

end Pool

/-! ## A file that is held open -/

namespace Timeline

variable {ι : Type} {keys : ι → String} {ino : Nat} {data : Bytes} {line line' : Timeline}

/-- A container is open in which some keys name a regular file. -/
def HasFile (keys : ι → String) (ino : Nat) (data : Bytes) (line : Timeline) : Prop :=
  ∃ c, line.machine.engine.opened = some c
    ∧ ∀ i, c.tree.fileData (keys i) = .ok (ino, data)

/-- Something has happened that left the file alone. -/
def Spares (keys : ι → String) (line line' : Timeline) : Prop :=
  ∀ ino data, line.HasFile keys ino data → line'.HasFile keys ino data

namespace HasFile

variable (suite : CipherSuite) (thread : Thread) {path : String} {i : ι}

/-- Its size is what it holds. -/
lemma answer_getattr (h : line.HasFile keys ino data)
    (hkey : Key.normalize path = .ok (keys i)) :
    ∃ (stat : FileStat) (m : Machine), line.machine.answer suite line.moment thread
        (.getattr path) = (((0 : Int), stat), m)
      ∧ stat.size = data.length ∧ (line.goOn m).HasFile keys ino data := by
  obtain ⟨c, hopened, hdata⟩ := h
  have hholds : line.Holds c line.machine.host := ⟨hopened, rfl⟩
  obtain ⟨stat, m, hanswer, hsize, hm⟩ := hholds.answer_getattr suite thread hkey (hdata i)
  exact ⟨stat, m, hanswer, hsize, c, hm.opened, hdata⟩

/-- A buffer is taken as a whole, or not at all if the file would become too large. -/
lemma answer_write (h : line.HasFile keys ino data) (hkey : Key.normalize path = .ok (keys i))
    (buffer : Bytes) (position : Nat) :
    ∃ (code : Int) (m : Machine), line.machine.answer suite line.moment thread
        (.change (.write path buffer position)) = (code, m)
      ∧ (maxFileSize < position + buffer.length ∧ code < 0
          ∧ (line.goOn m).HasFile keys ino data
        ∨ position + buffer.length ≤ maxFileSize ∧ code = buffer.length
          ∧ (line.goOn m).HasFile keys ino (Tree.overwritten data buffer position)) := by
  obtain ⟨c, hopened, hdata⟩ := h
  have hholds : line.Holds c line.machine.host := ⟨hopened, rfl⟩
  have hresolve : (Change.write path buffer position).resolve
      = .ok (.write (keys i) buffer position) := by
    rw [Change.resolve, hkey]
    rfl
  have hwrite : (Change.write (keys i) buffer position).apply line.moment.stamp c.tree = _ :=
    Tree.write_of_fileData (hdata i) buffer position
  by_cases hlarge : maxFileSize < position + buffer.length
  · rw [if_pos hlarge] at hwrite
    obtain ⟨m, hanswer, hm⟩ := hholds.answer_change suite thread hresolve
      (OpenContainer.change_of_error hwrite)
    have hnumber : (-(Errno.tooBig.number : Int)) < 0 := by decide
    exact ⟨_, m, hanswer, .inl ⟨hlarge, hnumber, c, hm.opened, hdata⟩⟩
  · rw [if_neg hlarge] at hwrite
    obtain ⟨m, hanswer, hm⟩ := hholds.answer_change suite thread hresolve
      (OpenContainer.change_of_ok hwrite)
    refine ⟨_, m, hanswer, .inr ⟨Nat.not_lt.1 hlarge, rfl, _, hm.opened, fun j => ?_⟩⟩
    exact (Tree.fileData_modify (hdata j) ino _).trans (by rw [if_pos rfl])

end HasFile

end Timeline

/-! ## Streams side by side -/

namespace Pool

variable {ι : Type} [DecidableEq ι] {s : Session} {files : ι → FileStream}
  {buffers : ι → List Bytes} {keys : ι → String} {ino : Nat} {start : Bytes} {i j : ι}
  {log : List (ι × Exchange)} {p q : Pool ι (Except StreamError Unit × FileStream)}
  {suite : CipherSuite} {threads : ι → Thread}

omit [DecidableEq ι] in
/-- Streams that write their buffers to the end of one file, which any of them may know by a key of
its own. -/
structure Appends (s : Session) (files : ι → FileStream) (buffers : ι → List Bytes)
    (keys : ι → String) (ino : Nat) (start : Bytes)
    (p : Pool ι (Except StreamError Unit × FileStream)) : Prop where
  mounted : s.isMounted = true
  stream : ∀ i, (files i).append = true ∧ (files i).closed = false
  key : ∀ i, Key.normalize (files i).handle.path = .ok (keys i)
  buffer : ∀ i, ∀ buffer ∈ buffers i, buffer ≠ []
  script : ∀ i, p.scripts i = (FileStream.writeEach s (buffers i)).run.run (files i)
  file : p.line.HasFile keys ino start

/-- How far a stream has come with its buffers, on a file of some length. -/
inductive Stands (s : Session) (path : String) (buffers : List Bytes) (start length : Nat) (i : ι)
    (log : List (ι × Exchange)) : Script (Except StreamError Unit × FileStream) → Prop
  /-- It is about to begin with the next buffer. -/
  | before {f : FileStream} {rest : List Bytes} (hf : f.Appends path)
      (hown : writtenBy i log ++ rest = buffers) :
      Stands s path buffers start length i log ((FileStream.writeEach s rest).run.run f)
  /-- It has asked for the size of the file. -/
  | asked {f : FileStream} {buffer : Bytes} {rest : List Bytes}
      {between : List (ι × Exchange)} (hf : f.Appends path)
      (hown : writtenBy i log ++ buffer :: rest = buffers)
      (hasked : AskedSince Exchange.asksSize i between log)
      (hstart : start ≤ f.position) (hposition : f.position ≤ length)
      (hsince : Undisturbed log → length = f.position + (writtenBytes between).length) :
      Stands s path buffers start length i log ((FileStream.writeFrom s buffer rest).run.run f)
  | failed {error : StreamError} {f : FileStream} :
      Stands s path buffers start length i log (.done (.error error, f))

/-- A request of another stream only makes the file longer. -/
lemma Stands.other {path : String} {own : List Bytes} {size length length' : Nat}
    {script : Script (Except StreamError Unit × FileStream)} {e : Exchange}
    (h : Stands s path own size length i log script) (hj : j ≠ i) (hle : length ≤ length')
    (hgrown : Undisturbed (log ++ [(j, e)]) →
      length' = length + (e.written?.getD []).length) :
    Stands s path own size length' i (log ++ [(j, e)]) script := by
  have hsame : writtenBy i (log ++ [(j, e)]) = writtenBy i log := by
    rw [writtenBy_snoc, if_neg hj, List.append_nil]
  cases h with
  | before hf hown => exact .before hf (hsame ▸ hown)
  | asked hf hown hasked hstart hposition hsince =>
      refine .asked hf (hsame ▸ hown) (hasked.snoc hj e) hstart (hposition.trans hle) fun hlog => ?_
      rw [hgrown hlog, hsince hlog.of_snoc, writtenBytes_snoc, List.length_append, Nat.add_assoc]
  | failed => exact .failed

/-- The file has grown by the writes of a log, and every stream goes on from there. -/
def Appending (s : Session) (files : ι → FileStream) (buffers : ι → List Bytes)
    (keys : ι → String) (ino : Nat) (start : Bytes) (log : List (ι × Exchange))
    (q : Pool ι (Except StreamError Unit × FileStream)) : Prop :=
  ∃ data, q.line.HasFile keys ino data ∧ Grown start log data
    ∧ ∀ i, Stands s (files i).handle.path (buffers i) start.length data.length i log (q.scripts i)

omit [DecidableEq ι] in
lemma Appends.appends (h : p.Appends s files buffers keys ino start) (i : ι) :
    (files i).Appends (files i).handle.path :=
  ⟨rfl, (h.stream i).1, (h.stream i).2⟩

lemma Appends.appending (h : p.Appends s files buffers keys ino start) :
    Appending s files buffers keys ino start [] p := by
  refine ⟨start, h.file, grown_nil start, fun i => ?_⟩
  rw [h.script i]
  exact .before (h.appends i) rfl

/-- The streams go on from a new length of the file after one of them has made a request. -/
lemma stands_update {data data' : Bytes} {e : Exchange}
    {script : Script (Except StreamError Unit × FileStream)}
    (hgrown : Grown start log data) (hgrown' : Grown start (log ++ [(i, e)]) data')
    (hle : data.length ≤ data'.length)
    (hstands : ∀ j, Stands s (files j).handle.path (buffers j) start.length data.length j log
      (q.scripts j))
    (hself : Stands s (files i).handle.path (buffers i) start.length data'.length i
      (log ++ [(i, e)]) script) (j : ι) :
    Stands s (files j).handle.path (buffers j) start.length data'.length j (log ++ [(i, e)])
      (Function.update q.scripts i script j) := by
  by_cases hj : i = j
  · subst hj
    rwa [Function.update_self]
  · rw [Function.update_of_ne (Ne.symm hj)]
    refine (hstands j).other hj hle fun hlog => ?_
    rw [hgrown'.length_eq hlog, hgrown.length_eq hlog.of_snoc, writtenBytes_snoc,
      List.length_append, Nat.add_assoc]

section Ask

variable (suite) (thread : Thread) {f : FileStream} {path : String} {buffer data : Bytes}
  {rest : List Bytes} (hs : s.isMounted = true) (hf : f.Appends path)
  (hkey : Key.normalize path = .ok (keys i)) (hfile : q.line.HasFile keys ino data)

include hs hf hkey hfile

/-- A stream learns the size of the file. -/
lemma asks_size (hscript : q.scripts i = (FileStream.writeEach s (buffer :: rest)).run.run f) :
    ∃ next line', q.scripts i = .ask (.getattr path) next
      ∧ q.answered suite thread i (.getattr path) next = ⟨Function.update q.scripts i
        ((FileStream.writeFrom s buffer rest).run.run { f with position := data.length }), line'⟩
      ∧ line'.HasFile keys ino data := by
  obtain ⟨next, hrun, hnext⟩ := FileStream.run_writeEach_cons hs hf
  obtain ⟨stat, m, hanswer, hsize, hm⟩ := hfile.answer_getattr suite thread hkey
  refine ⟨next, _, hscript.trans hrun, (answered_of_answer hanswer).trans ?_, hm⟩
  rw [hnext, hsize]

/-- A stream writes at its cursor, unless the file would become too large. -/
lemma asks_write (hbuffer : buffer ≠ [])
    (hscript : q.scripts i = (FileStream.writeFrom s buffer rest).run.run f) :
    ∃ next line', q.scripts i = .ask (.change (.write path buffer f.position)) next
      ∧ (maxFileSize < f.position + buffer.length
          ∧ (q.exchange suite thread (.change (.write path buffer f.position))).written? = none
          ∧ (∃ error, q.answered suite thread i (.change (.write path buffer f.position)) next
            = ⟨Function.update q.scripts i (.done (.error error, f)), line'⟩)
          ∧ line'.HasFile keys ino data
        ∨ f.position + buffer.length ≤ maxFileSize
          ∧ (q.exchange suite thread (.change (.write path buffer f.position))).written?
            = some buffer
          ∧ q.answered suite thread i (.change (.write path buffer f.position)) next
            = ⟨Function.update q.scripts i ((FileStream.writeEach s rest).run.run
              { f with position := f.position + buffer.length }), line'⟩
          ∧ line'.HasFile keys ino (Tree.overwritten data buffer f.position)) := by
  obtain ⟨next, hrun, htaken, hfailed⟩ := FileStream.run_writeFrom hs hf hbuffer
  obtain ⟨code, m, hanswer, hcode⟩ := hfile.answer_write suite thread hkey buffer f.position
  have hanswered : q.answered suite thread i (.change (.write path buffer f.position)) next
      = ⟨Function.update q.scripts i (next code), q.line.goOn m⟩ := answered_of_answer hanswer
  refine ⟨next, q.line.goOn m, hscript.trans hrun, ?_⟩
  rw [exchange_of_answer hanswer, hanswered]
  rcases hcode with ⟨hlarge, hneg, hm⟩ | ⟨hfits, rfl, hm⟩
  · obtain ⟨error, herror⟩ := hfailed code hneg
    exact .inl ⟨hlarge, (Exchange.written?_write ..).trans (if_neg (Int.not_le.2 hneg)),
      ⟨error, by rw [herror]⟩, hm⟩
  · exact .inr ⟨hfits,
      (Exchange.written?_write ..).trans (if_pos (Int.natCast_nonneg buffer.length)),
      by rw [htaken], hm⟩

end Ask

/-- Whichever stream makes the next request, the file goes on growing by the log. -/
lemma Appending.ask {asked : Request}
    {next : asked.Reply → Script (Except StreamError Unit × FileStream)}
    (h : p.Appends s files buffers keys ino start) (suite : CipherSuite) (thread : Thread)
    (hq : Appending s files buffers keys ino start log q)
    (hscript : q.scripts i = .ask asked next) :
    Appending s files buffers keys ino start (log ++ [(i, q.exchange suite thread asked)])
      (q.answered suite thread i asked next) := by
  obtain ⟨data, hfile, hgrown, hstands⟩ := hq
  have hi := hstands i
  generalize hold : q.scripts i = script at hi
  cases hi with
  | @before f rest hf hown =>
      cases rest with
      | nil => cases hscript.symm.trans hold
      | cons buffer rest =>
          obtain ⟨next', line', hasks, hanswered, hline'⟩ :=
            asks_size suite thread h.mounted hf (h.key i) hfile hold
          cases hscript.symm.trans hasks
          rw [hanswered]
          have hgrown' : Grown start (log ++ [(i, q.exchange suite thread
              (.getattr (files i).handle.path))]) data := hgrown.rest i rfl
          refine ⟨data, hline', hgrown', stands_update hgrown hgrown' le_rfl hstands ?_⟩
          refine .asked (hf.moved _) ?_ (askedSince_nil rfl log i) hgrown.keeps.length_le le_rfl
            fun _ => rfl
          rw [writtenBy_snoc, if_pos rfl]
          exact (congrArg (· ++ buffer :: rest) (List.append_nil _)).trans hown
  | @asked f buffer rest between hf hown hasked hstart hposition hsince =>
      have hbuffer : buffer ≠ [] := h.buffer i buffer (by rw [← hown]; simp)
      obtain ⟨next', line', hasks, houtcome⟩ :=
        asks_write suite thread h.mounted hf (h.key i) hfile hbuffer hold
      cases hscript.symm.trans hasks
      rcases houtcome with ⟨-, hnone, ⟨error, hanswered⟩, hline'⟩ | ⟨-, hsome, hanswered, hline'⟩
      · rw [hanswered]
        have hgrown' := hgrown.rest i hnone
        exact ⟨data, hline', hgrown', stands_update hgrown hgrown' le_rfl hstands .failed⟩
      · rw [hanswered]
        have hgrown' := hgrown.write hasked hstart hposition hsince hbuffer hsome
        refine ⟨_, hline', hgrown', stands_update hgrown hgrown' ?_ hstands ?_⟩
        · rw [Tree.length_overwritten]
          exact le_max_left _ _
        · refine .before (hf.moved _) ?_
          rw [writtenBy_snoc, if_pos rfl, hsome, List.append_assoc]
          exact hown
  | failed => cases hscript.symm.trans hold

/-- No stream looks at the engine from outside. -/
lemma Appends.waits_or_ended (h : p.Appends s files buffers keys ino start) {path : String}
    {length : Nat} {script : Script (Except StreamError Unit × FileStream)}
    (hi : Stands s path (buffers i) start.length length i log script) :
    (∃ asked next, script = .ask asked next)
      ∨ (∃ f, script = .done (.ok (), f)) ∧ writtenBy i log = buffers i
      ∨ ∃ error f, script = .done (.error error, f) := by
  cases hi with
  | @before f rest hf hown =>
      cases rest with
      | nil => exact .inr (.inl ⟨⟨f, rfl⟩, (List.append_nil _).symm.trans hown⟩)
      | cons buffer rest =>
          obtain ⟨next, hask, -⟩ := FileStream.run_writeEach_cons h.mounted hf
          exact .inl ⟨.getattr _, next, hask⟩
  | @asked f buffer rest between hf hown =>
      have hbuffer : buffer ≠ [] := h.buffer i buffer (by rw [← hown]; simp)
      obtain ⟨next, hask, -⟩ := FileStream.run_writeFrom h.mounted hf hbuffer
      exact .inl ⟨.change _, next, hask⟩
  | failed => exact .inr (.inr ⟨_, _, rfl⟩)

lemma Appending.of_run (h : p.Appends s files buffers keys ino start)
    (hrun : p.Run suite threads (Timeline.Spares keys) log q) :
    Appending s files buffers keys ino start log q := by
  induction hrun with
  | start => exact h.appending
  | ask run hscript ih => exact ih.ask h suite _ hscript
  | @look log q i next run hscript ih =>
      obtain ⟨data, hfile, -, hstands⟩ := ih
      rcases h.waits_or_ended (hstands i) with ⟨asked, next', hask⟩ | ⟨⟨f, hdone⟩, -⟩
        | ⟨error, f, hdone⟩
      · cases hscript.symm.trans hask
      · cases hscript.symm.trans hdone
      · cases hscript.symm.trans hdone
  | other run hother ih =>
      obtain ⟨data, hfile, hgrown, hstands⟩ := ih
      exact ⟨data, hother ino data hfile, hgrown, hstands⟩

/-- Streams append to one file side by side until all of them are through, and their requests come
in any order.  Every stream has written its buffers in order, and what was there before still begins
the file.  The rest of the file is made of all buffers, each exactly once, if and only if nothing
was written between a stream's question for the size and the write that follows; then they stand in
the order of their writes. -/
theorem appended_of_run (h : p.Appends s files buffers keys ino start)
    (hrun : p.Run suite threads (Timeline.Spares keys) log q)
    (hdone : ∀ i, ∃ f, q.scripts i = .done (.ok (), f)) :
    (∀ i, writtenBy i log = buffers i)
      ∧ ∃ data, q.line.HasFile keys ino data ∧ start <+: data
        ∧ (Undisturbed log → data = start ++ ((writes log).map Prod.snd).flatten)
        ∧ ((∃ order : List Bytes, order.Perm ((writes log).map Prod.snd)
            ∧ data = start ++ order.flatten) ↔ Undisturbed log) := by
  obtain ⟨data, hfile, hgrown, hstands⟩ := Appending.of_run h hrun
  refine ⟨fun i => ?_, data, hfile, hgrown.keeps, hgrown.whole, hgrown.exists_order_iff⟩
  obtain ⟨f, hended⟩ := hdone i
  rcases h.waits_or_ended (hstands i) with ⟨asked, next, hask⟩ | ⟨-, hown⟩ | ⟨error, f', hfailed⟩
  · cases hended.symm.trans hask
  · exact hown
  · cases hended.symm.trans hfailed

section Next

variable {others : Timeline → Timeline → Prop} {f : FileStream} {path : String}
  {buffer data : Bytes} {rest : List Bytes} (run : p.Run suite threads others log q)
  (hs : s.isMounted = true) (hf : f.Appends path) (hkey : Key.normalize path = .ok (keys i))
  (hfile : q.line.HasFile keys ino data)

include run hs hf hkey hfile

/-- The next request may be that of a stream which asks for the size of the file. -/
lemma Run.next_size
    (hscript : q.scripts i = (FileStream.writeEach s (buffer :: rest)).run.run f) :
    ∃ e q', p.Run suite threads others (log ++ [(i, e)]) q' ∧ q'.line.HasFile keys ino data
      ∧ q'.scripts i
        = (FileStream.writeFrom s buffer rest).run.run { f with position := data.length }
      ∧ (∀ j ≠ i, q'.scripts j = q.scripts j) ∧ e.asksSize = true ∧ e.written? = none := by
  obtain ⟨next, line', hask, hanswered, hline'⟩ :=
    asks_size suite (threads i) hs hf hkey hfile hscript
  exact ⟨_, _, hanswered ▸ run.ask hask, hline', Function.update_self ..,
    fun _ hj => Function.update_of_ne hj _ _, rfl, rfl⟩

/-- Or that of a stream which writes. -/
lemma Run.next_write (hscript : q.scripts i = (FileStream.writeFrom s buffer rest).run.run f)
    (hbuffer : buffer ≠ []) (hfits : f.position + buffer.length ≤ maxFileSize) :
    ∃ e q', p.Run suite threads others (log ++ [(i, e)]) q'
      ∧ q'.line.HasFile keys ino (Tree.overwritten data buffer f.position)
      ∧ q'.scripts i = (FileStream.writeEach s rest).run.run
        { f with position := f.position + buffer.length }
      ∧ (∀ j ≠ i, q'.scripts j = q.scripts j) ∧ e.written? = some buffer := by
  obtain ⟨next, line', hask, ⟨hlarge, -⟩ | ⟨-, hwritten, hanswered, hline'⟩⟩ :=
    asks_write suite (threads i) hs hf hkey hfile hbuffer hscript
  · exact absurd hfits (Nat.not_le.2 hlarge)
  · exact ⟨_, _, hanswered ▸ run.ask hask, hline', Function.update_self ..,
      fun _ hj => Function.update_of_ne hj _ _, hwritten⟩

/-- A stream that makes both requests of a write in a row appends its buffer. -/
lemma Run.next_appended
    (hscript : q.scripts i = (FileStream.writeEach s (buffer :: rest)).run.run f)
    (hbuffer : buffer ≠ []) (hfits : data.length + buffer.length ≤ maxFileSize)
    (hlog : Undisturbed log) :
    ∃ log' q', p.Run suite threads others log' q' ∧ q'.line.HasFile keys ino (data ++ buffer)
      ∧ (∃ position, q'.scripts i
        = (FileStream.writeEach s rest).run.run { f with position := position })
      ∧ (∀ j ≠ i, q'.scripts j = q.scripts j) ∧ Undisturbed log' := by
  obtain ⟨asked, q₁, run₁, hfile₁, hself₁, hrest₁, hasks, hnone⟩ :=
    run.next_size hs hf hkey hfile hscript
  obtain ⟨wrote, q₂, run₂, hfile₂, hself₂, hrest₂, -⟩ :=
    run₁.next_write hs (hf.moved _) hkey hfile₁ hself₁ hbuffer hfits
  rw [Tree.overwritten_length] at hfile₂
  have hasked : Undisturbed (log ++ [(i, asked)]) :=
    hlog.snoc fun hwritten => by rw [hnone] at hwritten; cases hwritten
  exact ⟨_, q₂, run₂, hfile₂, ⟨_, hself₂⟩, fun j hj => (hrest₂ j hj).trans (hrest₁ j hj),
    hasked.snoc fun _ => ⟨[], askedSince_nil hasks log i, rfl⟩⟩

end Next

/-! ## Two streams -/

/-- Two streams that append to one file, which they know by different names. -/
def twoFiles (i : Bool) : FileStream :=
  ⟨.ofPath (if i then "/f" else "//g"), 0, true, false⟩

def twoKeys (i : Bool) : String :=
  if i then "/f" else "/g"

/-- Each of them has one byte to write. -/
def twoBuffers (i : Bool) : List Bytes :=
  [[if i then 1 else 2]]

/-- The two streams, on an empty file. -/
def twoStreams : Pool Bool (Except StreamError Unit × FileStream) :=
  ⟨fun i => (FileStream.writeEach .small (twoBuffers i)).run.run (twoFiles i),
    .small fun stamp =>
      (Change.link "/f" "/g").after stamp ((Change.create "/f" 0o644).after stamp (.empty stamp))⟩

lemma twoStreams_appends : twoStreams.Appends .small twoFiles twoBuffers twoKeys 2 [] := by
  refine ⟨rfl, fun _ => ⟨rfl, rfl⟩, by decide +kernel, ?_, fun _ => rfl, _, rfl, by decide +kernel⟩
  intro i buffer hmem
  rw [List.mem_singleton.1 hmem]
  exact List.cons_ne_nil _ _

/-- Two streams that take turns lose nothing. -/
theorem appended_after_turns :
    twoStreams.Appends .small twoFiles twoBuffers twoKeys 2 []
      ∧ ∃ (log : List (Bool × Exchange)) (q : Pool Bool (Except StreamError Unit × FileStream)),
        twoStreams.Run .standard (fun i => if i then mainThread else 7) (Timeline.Spares twoKeys)
            log q
          ∧ (∀ i, ∃ f, q.scripts i = .done (.ok (), f)) ∧ Undisturbed log
          ∧ (∀ i, writtenBy i log = twoBuffers i)
          ∧ q.line.HasFile twoKeys 2 ((writes log).map Prod.snd).flatten := by
  have h := twoStreams_appends
  refine ⟨h, ?_⟩
  have hstart : twoStreams.Run .standard (fun i => if i then mainThread else 7)
      (Timeline.Spares twoKeys) [] twoStreams := .start
  obtain ⟨log₁, q₁, run₁, hfile₁, ⟨position₁, hself₁⟩, hrest₁, hlog₁⟩ :=
    hstart.next_appended h.mounted (h.appends true) (h.key true) h.file (h.script true)
      (List.cons_ne_nil _ _) (by decide) undisturbed_nil
  obtain ⟨log₂, q₂, run₂, -, ⟨position₂, hself₂⟩, hrest₂, hlog₂⟩ :=
    run₁.next_appended h.mounted (h.appends false) (h.key false) hfile₁
      ((hrest₁ false Bool.false_ne_true).trans (h.script false)) (List.cons_ne_nil _ _) (by decide)
      hlog₁
  have hdone : ∀ i, ∃ f, q₂.scripts i = .done (.ok (), f) := by
    intro i
    cases i
    · exact ⟨_, hself₂⟩
    · exact ⟨_, (hrest₂ true Bool.false_ne_true.symm).trans hself₁⟩
  obtain ⟨hown, data, hdata, -, hwhole, -⟩ := appended_of_run h run₂ hdone
  exact ⟨log₂, q₂, run₂, hdone, hlog₂, hown, (hwhole hlog₂).trans (List.nil_append _) ▸ hdata⟩

/-- Two streams that both ask for the size before either of them writes lose a byte, although both
of their writes succeed. -/
theorem lost_after_questions :
    twoStreams.Appends .small twoFiles twoBuffers twoKeys 2 []
      ∧ ∃ (log : List (Bool × Exchange)) (q : Pool Bool (Except StreamError Unit × FileStream)),
        twoStreams.Run .standard (fun i => if i then mainThread else 7) (fun _ _ => False) log q
          ∧ (∀ i, ∃ f, q.scripts i = .done (.ok (), f)) ∧ q.line.HasFile twoKeys 2 [2]
          ∧ ∀ order : List Bytes, order.Perm [[1], [2]] → ([2] : Bytes) ≠ order.flatten := by
  have h := twoStreams_appends
  refine ⟨h, ?_⟩
  have hstart : twoStreams.Run .standard (fun i => if i then mainThread else 7) (fun _ _ => False)
      [] twoStreams := .start
  obtain ⟨e₁, q₁, run₁, hfile₁, hself₁, hrest₁, -⟩ := hstart.next_size h.mounted (h.appends true)
    (h.key true) h.file (h.script true)
  obtain ⟨e₂, q₂, run₂, hfile₂, hself₂, hrest₂, -⟩ := run₁.next_size h.mounted (h.appends false)
    (h.key false) hfile₁ ((hrest₁ false Bool.false_ne_true).trans (h.script false))
  obtain ⟨e₃, q₃, run₃, hfile₃, hself₃, hrest₃, -⟩ := run₂.next_write h.mounted
    ((h.appends true).moved _) (h.key true) hfile₂
    ((hrest₂ true Bool.false_ne_true.symm).trans hself₁) (List.cons_ne_nil _ _)
    (show 0 + 1 ≤ maxFileSize by decide)
  obtain ⟨e₄, q₄, run₄, hfile₄, hself₄, hrest₄, -⟩ := run₃.next_write h.mounted
    ((h.appends false).moved _) (h.key false) hfile₃
    ((hrest₃ false Bool.false_ne_true).trans hself₂) (List.cons_ne_nil _ _)
    (show 0 + 1 ≤ maxFileSize by decide)
  refine ⟨_, q₄, run₄, fun i => ?_, hfile₄, fun order hperm heq => ?_⟩
  · cases i
    · exact ⟨_, hself₄⟩
    · exact ⟨_, (hrest₄ true Bool.false_ne_true.symm).trans hself₃⟩
  · have hlength := hperm.flatten.length_eq
    rw [← heq] at hlength
    exact absurd hlength (by decide)

end Pool

end Strongbox
