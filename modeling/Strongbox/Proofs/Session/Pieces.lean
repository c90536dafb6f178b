import Strongbox.Proofs.Session.Appending
import Strongbox.Proofs.Session.Operation

/-!
# Writing in pieces

An engine need not take all that it is asked to write.  A stream then asks again, for what is left
of its buffer and behind what was taken, until nothing is left or nothing is taken.  What an engine
does is known here only from what becomes of the file, so it may take pieces of any sizes and refuse
whenever it likes.

* `StorageEngine.TakesPieces` — what an engine may do with a write.
* **`Timeline.engine_takesPieces`** — the container engine is one of these engines.
* `Piecemeal` — an engine that takes as much of each write as it was told to.
* `FileStream.resumed` — what a write asks for, by the codes that it was answered.
* `FileStream.Ends` — the codes of a write, and the one that has stopped it.
* **`FileStream.writeRest_in_pieces`** — the loop, for a buffer of any length.
* **`FileStream.write_in_pieces`** — a write as a whole: nothing is lost or written twice.
-/

namespace Strongbox

/-! ## Pieces of a file -/

namespace Tree

/-- The bytes of a file after a write that stores a piece.  An empty piece changes nothing, not even
at a position behind the end. -/
def stored (data piece : Bytes) (position : Nat) : Bytes :=
  if piece = [] then data else overwritten data piece position

lemma stored_of_ne_nil {piece : Bytes} (h : piece ≠ []) (data : Bytes) (position : Nat) :
    stored data piece position = overwritten data piece position :=
  if_neg h

/-- Two pieces that are stored one behind the other are stored as one. -/
lemma stored_append (data first rest : Bytes) (position : Nat) :
    stored (stored data first position) rest (position + first.length)
      = stored data (first ++ rest) position := by
  by_cases hrest : rest = []
  · rw [hrest, List.append_nil, stored, if_pos rfl]
  by_cases hfirst : first = []
  · rw [hfirst, List.nil_append, List.length_nil, Nat.add_zero, stored.eq_1 data, if_pos rfl]
  rw [stored_of_ne_nil hrest, stored_of_ne_nil hfirst,
    stored_of_ne_nil (List.append_ne_nil_of_left_ne_nil hfirst rest), overwritten_append]

end Tree

/-- An engine takes what is written to a path in pieces.  It stores a beginning of the buffer and
tells how long that was, or it stores nothing and tells zero or the code of a failure. -/
def StorageEngine.TakesPieces {σ : Type} (engine : StorageEngine σ) (thread : Thread)
    (path : String) (content : σ → Bytes) : Prop :=
  ∀ buffer offset state, buffer ≠ [] → ∃ (code : Int) (state' : σ),
    engine.respond thread (.change (.write path buffer offset)) state = (code, state')
      ∧ ((∃ n : Nat, 1 ≤ n ∧ n ≤ buffer.length ∧ code = n
          ∧ content state' = Tree.overwritten (content state) (buffer.take n) offset)
        ∨ code ≤ 0 ∧ content state' = content state)

/-! ## The container engine -/

namespace Timeline

/-- The bytes of the file that a path names in the open container, if it names one. -/
def bytesAt (path : String) (line : Timeline) : Bytes :=
  match Key.normalize path, line.machine.engine.opened with
  | .ok key, some c => (c.tree.fileData key).toOption.elim [] Prod.snd
  | _, _ => []

variable {path key : String} {line : Timeline} {c : OpenContainer}

lemma bytesAt_of_opened (hkey : Key.normalize path = .ok key)
    (hopened : line.machine.engine.opened = some c) :
    line.bytesAt path = (c.tree.fileData key).toOption.elim [] Prod.snd := by
  rw [bytesAt, hkey, hopened]

lemma HasFile.bytesAt_eq {ino : Nat} {data : Bytes}
    (h : line.HasFile (fun _ : Unit => key) ino data) (hkey : Key.normalize path = .ok key) :
    line.bytesAt path = data := by
  obtain ⟨c, hopened, hdata⟩ := h
  rw [bytesAt_of_opened hkey hopened, hdata ()]
  rfl

/-- Where there is no file, nothing is written. -/
lemma answer_write_of_absent (suite : CipherSuite) (thread : Thread)
    (h : ∀ key c, Key.normalize path = .ok key → line.machine.engine.opened = some c →
      ∃ failure, c.tree.fileData key = .error failure) (buffer : Bytes) (offset : Nat) :
    ∃ (code : Errno) (m : Machine), line.machine.answer suite line.moment thread
        (.change (.write path buffer offset)) = ((-code.number : Int), m)
      ∧ (line.goOn m).bytesAt path = line.bytesAt path := by
  cases hkey : Key.normalize path with
  | error failure =>
      have hresolve : (Change.write path buffer offset).resolve = .error failure := by
        rw [Change.resolve, hkey]
        rfl
      exact ⟨failure, _, Machine.answer_change_unnamed hresolve, rfl⟩
  | ok key =>
      have hresolve : (Change.write path buffer offset).resolve
          = .ok (.write key buffer offset) := by
        rw [Change.resolve, hkey]
        rfl
      cases hopened : line.machine.engine.opened with
      | none =>
          refine ⟨.noDevice, line.machine, ?_, rfl⟩
          show Machine.coded _ (line.machine.change suite line.moment thread _) = _
          simp only [Machine.change, hresolve, Machine.update, hopened]
          rfl
      | some c =>
          obtain ⟨failure, hdata⟩ := h key c hkey hopened
          have happly : (Change.write key buffer offset).apply line.moment.stamp c.tree
              = .error failure := by
            show c.tree.write line.moment.stamp key buffer offset = _
            rw [Tree.write, hdata]
            rfl
          have hholds : line.Holds c line.machine.host := ⟨hopened, rfl⟩
          obtain ⟨m, hanswer, hm⟩ := hholds.answer_change suite thread hresolve
            (OpenContainer.change_of_error happly)
          refine ⟨failure, m, hanswer, ?_⟩
          rw [bytesAt_of_opened hkey hm.opened, bytesAt_of_opened hkey hopened]

/-- **The container engine takes a buffer as a whole or not at all**, and is one of the engines that
take pieces. -/
theorem engine_takesPieces (suite : CipherSuite) (thread : Thread) (path : String) :
    (engine suite).TakesPieces thread path (bytesAt path) := by
  intro buffer offset line hbuffer
  have hrespond {code : Int} {m : Machine} (h : line.machine.answer suite line.moment thread
      (.change (.write path buffer offset)) = (code, m)) : (engine suite).respond thread
      (.change (.write path buffer offset)) line = (code, line.goOn m) :=
    congrArg (fun answer : Int × Machine => (answer.1, line.goOn answer.2)) h
  by_cases hfile : ∃ key ino data, Key.normalize path = .ok key
      ∧ line.HasFile (fun _ : Unit => key) ino data
  · obtain ⟨key, ino, data, hkey, hfile⟩ := hfile
    obtain ⟨code, m, hanswer, hcases⟩ :=
      hfile.answer_write suite thread (i := ()) hkey buffer offset
    refine ⟨code, line.goOn m, hrespond hanswer, ?_⟩
    rw [hfile.bytesAt_eq hkey]
    rcases hcases with ⟨-, hcode, hsame⟩ | ⟨-, hcode, hwritten⟩
    · exact .inr ⟨hcode.le, hsame.bytesAt_eq hkey⟩
    · refine .inl ⟨buffer.length, List.length_pos_iff.2 hbuffer, le_rfl, hcode, ?_⟩
      rw [List.take_length]
      exact hwritten.bytesAt_eq hkey
  · have habsent : ∀ key c, Key.normalize path = .ok key → line.machine.engine.opened = some c →
        ∃ failure, c.tree.fileData key = .error failure := by
      intro key c hkey hopened
      cases hdata : c.tree.fileData key with
      | error failure => exact ⟨failure, rfl⟩
      | ok found => exact absurd ⟨key, found.1, found.2, hkey, c, hopened, fun _ => hdata⟩ hfile
    obtain ⟨code, m, hanswer, hsame⟩ := answer_write_of_absent suite thread habsent buffer offset
    exact ⟨_, line.goOn m, hrespond hanswer,
      .inr ⟨Int.neg_nonpos_of_nonneg (Int.natCast_nonneg _), hsame⟩⟩

end Timeline

/-! ## An engine that does as it is told -/

/-- An engine with a single file, which stores no more of a write than it was told to. -/
structure Piecemeal where
  data : Bytes
  /-- For each write to come, how many bytes are stored, or the code of a failure. -/
  counts : List Int
  deriving DecidableEq

namespace Piecemeal

/-- Store a beginning of a buffer. -/
def store (buffer : Bytes) (offset : Nat) (p : Piecemeal) : Int × Piecemeal :=
  match p.counts with
  | [] => (0, p)
  | count :: counts =>
    if 0 < count then
      let piece := buffer.take count.toNat
      (piece.length, ⟨Tree.overwritten p.data piece offset, counts⟩)
    else (count, ⟨p.data, counts⟩)

/-- The reply to a request.  Nothing but a write is of interest. -/
def reply (request : Request) (p : Piecemeal) : request.Reply × Piecemeal :=
  match request with
  | .change (.write _ buffer offset) => p.store buffer offset
  | .change _ | .fsync _ | .access _ _ => ((0 : Int), p)
  | .beginTransaction | .completeTransaction _ => ((0 : Int), p)
  | .openContainer _ _ => (none, p)
  | .closeHandle _ => ((), p)
  | .instanceCount => ((0 : Nat), p)
  | .read _ _ _ => ((0, []), p)
  | .getattr _ => ((0, .blank), p)
  | .isDir _ => (false, p)
  | .readdir _ => ((0, []), p)

def engine : StorageEngine Piecemeal where
  respond _ request p := reply request p
  view _ := ⟨.bare ⟨4096, 0, 0, 0, 0, 255⟩ "/", 0⟩

lemma engine_takesPieces (thread : Thread) (path : String) :
    engine.TakesPieces thread path data := by
  intro buffer offset p hbuffer
  show ∃ (code : Int) (p' : Piecemeal), p.store buffer offset = (code, p') ∧ _
  obtain ⟨data, _ | ⟨count, counts⟩⟩ := p
  · exact ⟨_, _, rfl, .inr ⟨le_rfl, rfl⟩⟩
  · rw [store]
    by_cases hcount : 0 < count
    · have hleft := List.length_pos_iff.2 hbuffer
      have hpiece : buffer.take (buffer.take count.toNat).length = buffer.take count.toNat := by
        rw [List.length_take, List.take_eq_take_iff]
        omega
      refine ⟨_, _, if_pos hcount, .inl ⟨_, ?_, List.length_take_le' .., rfl, ?_⟩⟩
      · rw [List.length_take]
        omega
      · rw [hpiece]
    · exact ⟨_, _, if_neg hcount, .inr ⟨Int.not_lt.1 hcount, rfl⟩⟩

end Piecemeal

/-- No error number is of the kind of a write of nothing. -/
lemma Errno.kind_ne_writeZero (code : Errno) : code.kind ≠ .writeZero := by
  have htable : ∀ entry ∈ Errno.table, entry.kind ≠ .writeZero := by decide +kernel
  rw [Errno.kind]
  cases hentry : code.entry? with
  | none => nofun
  | some entry => exact htable entry (List.mem_of_find?_eq_some hentry)

namespace FileStream

variable {σ : Type} {engine : StorageEngine σ} {content : σ → Bytes} {thread : Thread}
  {s : Session} {f : FileStream}

/-! ## The requests of a write -/

/-- How many bytes were taken in all.  A code that is not above zero stands for none. -/
def taken : List Int → Nat
  | [] => 0
  | code :: codes => code.toNat + taken codes

/-- A write that is stopped has taken nothing at last. -/
lemma taken_singleton {code : Int} (h : code ≤ 0) : taken [code] = 0 :=
  Int.toNat_of_nonpos h

/-- What a write asks for, by the codes that it was answered: each time all that is left of the
buffer, at the position behind what was taken of it. -/
def resumed (path : String) (buffer : Bytes) (position : Nat) : List Int → List Exchange
  | [] => []
  | code :: codes => ⟨.change (.write path buffer position), code⟩
    :: resumed path (buffer.drop code.toNat) (position + code.toNat) codes

/-- The codes that a write of so many bytes is answered, and the one that stops it.  It goes on as
long as something is left and something is taken. -/
inductive Ends : Nat → List Int → Option Int → Prop
  | whole : Ends 0 [] none
  | stopped {left : Nat} {code : Int} (hleft : 0 < left) (hcode : code ≤ 0) :
      Ends left [code] (some code)
  | goesOn {left n : Nat} {codes : List Int} {last : Option Int} (hn : 0 < n) (hle : n ≤ left)
      (hrest : Ends (left - n) codes last) : Ends left (n :: codes) last

namespace Ends

variable {left : Nat} {codes : List Int} {last : Option Int} {code : Int}

/-- All that was to be written was taken, unless the write was stopped before. -/
lemma taken_le (h : Ends left codes last) : taken codes ≤ left
    ∧ (taken codes = left ↔ last = none) := by
  induction h with
  | whole => exact ⟨Nat.le_refl _, iff_of_true rfl rfl⟩
  | @stopped left code hleft hcode =>
      rw [taken_singleton hcode]
      exact ⟨Nat.zero_le _, iff_of_false hleft.ne nofun⟩
  | @goesOn left n codes last hn hle _ ih =>
      have hsum : taken (n :: codes) = n + taken codes := rfl
      rw [hsum, ← ih.2]
      omega

/-- Every request but the last one brings the end nearer. -/
lemma length_le (h : Ends left codes last) : codes.length ≤ left := by
  induction h with
  | whole => exact Nat.le_refl _
  | stopped hleft => exact hleft
  | goesOn hn hle _ ih =>
      rw [List.length_cons]
      omega

/-- A code that is not above zero is the last one, and stops the write. -/
lemma of_mem (h : Ends left codes last) (hmem : code ∈ codes) (hcode : code ≤ 0) :
    codes.getLast? = some code ∧ last = some code := by
  induction h with
  | whole => cases hmem
  | stopped =>
      obtain rfl := List.mem_singleton.1 hmem
      exact ⟨rfl, rfl⟩
  | @goesOn left n codes last hn _ _ ih =>
      obtain rfl | hmem := List.mem_cons.1 hmem
      · omega
      · obtain ⟨hlast, hstop⟩ := ih hmem
        refine ⟨?_, hstop⟩
        rw [List.getLast?_cons, hlast, Option.getD_some]

/-- A write is stopped by a code that it was answered. -/
lemma mem (h : Ends left codes (some code)) : code ∈ codes ∧ code ≤ 0 := by
  generalize hlast : some code = last at h
  induction h with
  | whole => cases hlast
  | stopped _ hcode =>
      obtain rfl := Option.some.inj hlast
      exact ⟨List.mem_singleton_self _, hcode⟩
  | goesOn _ _ _ ih => exact (ih hlast).imp_left (List.mem_cons_of_mem _)

end Ends

/-- Only a code of zero is reported as a write of nothing. -/
lemma stopped_kind_iff (code : Int) : (stopped code).kind = .writeZero ↔ code = 0 := by
  rw [stopped]
  by_cases hcode : code = 0
  · rw [if_pos hcode]
    exact iff_of_true rfl hcode
  · rw [if_neg hcode]
    exact iff_of_false (Errno.kind_ne_writeZero _) hcode

/-- What a write comes to, by the code that has stopped it. -/
def outcome (length : Nat) : Option Int → Except StreamError Nat
  | none => .ok length
  | some code => .error (stopped code)

/-- A write that succeeds has taken all. -/
lemma Ends.of_ok {left n : Nat} {codes : List Int} {last : Option Int}
    (h : Ends left codes last) (hn : outcome left last = .ok n) :
    n = left ∧ taken codes = left := by
  cases last with
  | none => exact ⟨(Except.ok.inj hn).symm, h.taken_le.2.2 rfl⟩
  | some code => cases hn

/-- A write that fails was stopped by a code. -/
lemma exists_of_outcome {length : Nat} {last : Option Int} {error : StreamError}
    (h : outcome length last = .error error) : ∃ code, last = some code ∧ error = stopped code := by
  cases last with
  | none => cases h
  | some code => exact ⟨code, rfl, (Except.error.inj h).symm⟩

/-! ## The loop -/

/-- **A write goes on behind what was taken**, and what was taken is stored as one piece. -/
theorem writeRest_in_pieces (h : engine.TakesPieces thread f.handle.path content)
    (written : Nat) (buffer : Bytes) (state : σ) (hs : buffer ≠ [] → s.isMounted = true) :
    ∃ codes last state', Ends buffer.length codes last
      ∧ ((writeRest s written buffer).run.run f).run engine thread state
        = ((outcome (written + buffer.length) last,
          { f with position := f.position + taken codes }), state')
      ∧ ((writeRest s written buffer).run.run f).exchanges engine thread state
        = resumed f.handle.path buffer f.position codes
      ∧ content state' = Tree.stored (content state) (buffer.take (taken codes)) f.position := by
  -- by induction on what is left, as the file, the cursor and the engine go on together
  induction hlength : buffer.length using Nat.strong_induction_on
    generalizing written buffer f state with
  | _ length ih =>
  subst hlength
  by_cases hbuffer : buffer = []
  · subst hbuffer
    rw [writeRest]
    exact ⟨[], none, state, .whole, rfl, rfl, rfl⟩
  obtain ⟨next, hrun, htaken, hstopped⟩ :=
    run_writeRest (f := f) (hs hbuffer) hbuffer written
  obtain ⟨code, state₁, hanswer, hcode⟩ := h buffer f.position state hbuffer
  have hleft := List.length_pos_iff.2 hbuffer
  rw [hrun]
  simp only [Script.run, Script.exchanges, hanswer]
  rcases hcode with ⟨n, hn, hle, rfl, hcontent⟩ | ⟨hcode, hcontent⟩
  · have hpiece : (buffer.take n).length = n := List.length_take_of_le hle
    have hrest : (buffer.drop n).length = buffer.length - n := List.length_drop
    obtain ⟨codes, last, state', hends, hran, hasked, hstored⟩ := ih _ (by omega)
      (f := { f with position := f.position + n }) h (written + n) (buffer.drop n) state₁
      (fun _ => hs hbuffer) rfl
    refine ⟨n :: codes, last, state', .goesOn hn hle (hrest ▸ hends), ?_, ?_, ?_⟩
    · have hsum : written + n + (buffer.drop n).length = written + buffer.length := by omega
      rw [htaken hn, hran, hsum, Nat.add_assoc]
      rfl
    · rw [htaken hn, hasked]
      rfl
    · have hfirst : content state₁ = Tree.stored (content state) (buffer.take n) f.position := by
        rw [hcontent, Tree.stored_of_ne_nil (List.ne_nil_of_length_pos (by omega))]
      have hall : buffer.take (taken (n :: codes))
          = buffer.take n ++ (buffer.drop n).take (taken codes) := List.take_add
      rw [hall, ← Tree.stored_append, ← hfirst, hpiece, hstored]
  · refine ⟨[code], some code, state₁, .stopped hleft hcode, ?_, ?_, ?_⟩
    · rw [hstopped hcode, taken_singleton hcode]
      rfl
    · rw [hstopped hcode]
      rfl
    · rw [taken_singleton hcode, hcontent]
      rfl

/-! ## A write as a whole -/

/-- A stream that does not append writes at the cursor. -/
lemma run_write (hopen : f.closed = false) (happend : f.append = false) (buffer : Bytes) :
    (write s buffer).run.run f = (writeRest s 0 buffer).run.run f := by
  rw [write, StreamCall.run_requireOpen_bind hopen]
  show ((if f.append then _ else _ : StreamCall Nat)).run.run f = _
  rw [happend]
  rfl

/-- A closed stream asks for nothing. -/
lemma run_write_of_closed (hclosed : f.closed = true) (buffer : Bytes) :
    (write s buffer).run.run f = .done (.error (.os .badDescriptor), f) := by
  rw [write]
  show ((if f.closed then throw (.os .badDescriptor) else pure () : StreamCall Unit)
    >>= _).run.run f = _
  rw [hclosed]
  rfl

/-- Neither does one of a session that is not mounted. -/
lemma run_writeRest_of_unmounted (hs : s.isMounted = false) {buffer : Bytes} (hbuffer : buffer ≠ [])
    (written : Nat) : (writeRest s written buffer).run.run f
      = .done (.error (.fault (.illegalState (.notMounted "pwrite"))), f) := by
  obtain ⟨b, rest, rfl⟩ := List.exists_cons_of_ne_nil hbuffer
  have hpwrite : s.pwrite f.handle (b :: rest) f.position
      = throw (.illegalState (.notMounted "pwrite")) :=
    Session.Operation.refused hs (.pwrite f.handle (b :: rest) f.position)
  rw [writeRest]
  show (within (s.pwrite f.handle (b :: rest) f.position) >>= _).run.run f = _
  rw [hpwrite]
  rfl

/-- A stream that cannot be used fails, and not as if the engine had taken nothing. -/
lemma run_write_of_unusable (happend : f.append = false) {buffer : Bytes}
    (h : ¬ (f.closed = false ∧ (buffer ≠ [] → s.isMounted = true))) :
    ∃ error, (write s buffer).run.run f = .done (.error error, f) ∧ error.kind ≠ .writeZero := by
  by_cases hopen : f.closed = false
  · obtain ⟨hbuffer, hs⟩ := Classical.not_imp.1 fun hs => h ⟨hopen, hs⟩
    rw [run_write hopen happend,
      run_writeRest_of_unmounted (Bool.eq_false_iff.2 hs) hbuffer]
    exact ⟨_, rfl, nofun⟩
  · exact ⟨_, run_write_of_closed (eq_true_of_ne_false hopen) buffer, Errno.kind_ne_writeZero _⟩

/-- **A write that is taken in pieces loses nothing and writes nothing twice.**  Whatever codes it
is answered, it comes to an end, with at most one request for each byte.  It asks each time for what
is left, behind what was taken.  The file holds the beginning of the buffer that was taken as if that
had been written at once, and the cursor stands behind it.  If the write succeeds, that is the whole
buffer.  If it fails, then as a write of nothing exactly if some code was zero; a code that is not
above zero is the last one.  An open stream of a mounted session fails for no other reason. -/
theorem write_in_pieces (h : engine.TakesPieces thread f.handle.path content)
    (happend : f.append = false) (s : Session) (buffer : Bytes) (state : σ) :
    ∃ codes outcome state',
      ((write s buffer).run.run f).run engine thread state
          = ((outcome, { f with position := f.position + taken codes }), state')
        ∧ ((write s buffer).run.run f).exchanges engine thread state
          = resumed f.handle.path buffer f.position codes
        ∧ codes.length ≤ buffer.length ∧ taken codes ≤ buffer.length
        ∧ content state' = Tree.stored (content state) (buffer.take (taken codes)) f.position
        ∧ (∀ n, outcome = .ok n → n = buffer.length ∧ taken codes = buffer.length
          ∧ content state' = Tree.stored (content state) buffer f.position)
        ∧ (∀ error, outcome = .error error → (error.kind = .writeZero ↔ 0 ∈ codes))
        ∧ (∀ code ∈ codes, code ≤ 0 → codes.getLast? = some code
          ∧ outcome = .error (stopped code))
        ∧ (f.closed = false → (buffer ≠ [] → s.isMounted = true) →
          ∀ error, outcome = .error error → ∃ code ∈ codes, code ≤ 0 ∧ error = stopped code) := by
  by_cases husable : f.closed = false ∧ (buffer ≠ [] → s.isMounted = true)
  · obtain ⟨codes, last, state', hends, hran, hasked, hstored⟩ :=
      writeRest_in_pieces h 0 buffer state husable.2
    rw [run_write husable.1 happend]
    rw [Nat.zero_add] at hran
    refine ⟨codes, _, state', hran, hasked, hends.length_le, hends.taken_le.1, hstored,
      fun n hn => ?_, fun error herror => ?_, fun code hmem hcode => ?_,
      fun _ _ error herror => ?_⟩
    · obtain ⟨hlength, hwhole⟩ := hends.of_ok hn
      rw [hwhole, List.take_length] at hstored
      exact ⟨hlength, hwhole, hstored⟩
    · obtain ⟨code, rfl, rfl⟩ := exists_of_outcome herror
      rw [stopped_kind_iff]
      refine ⟨fun hzero => hzero ▸ hends.mem.1, fun hzero => ?_⟩
      exact Option.some.inj (hends.of_mem hzero le_rfl).2
    · obtain ⟨hlast, rfl⟩ := hends.of_mem hmem hcode
      exact ⟨hlast, rfl⟩
    · obtain ⟨code, rfl, rfl⟩ := exists_of_outcome herror
      exact ⟨code, hends.mem.1, hends.mem.2, rfl⟩
  · obtain ⟨error, hrun, hkind⟩ := run_write_of_unusable happend husable
    rw [hrun]
    refine ⟨[], .error error, state, rfl, rfl, Nat.zero_le _, Nat.zero_le _, rfl, nofun,
      fun failure hfailure => ?_, nofun, fun hopen hs => absurd ⟨hopen, hs⟩ husable⟩
    rw [← Except.error.inj hfailure]
    exact iff_of_false hkind List.not_mem_nil

/-- A write that is taken in two pieces, and then not any more. -/
theorem write_in_pieces_up_to_zero :
    Piecemeal.engine.TakesPieces mainThread "/f" Piecemeal.data
      ∧ ∃ codes p, ((write .small [1, 2, 3, 4, 5]).run.run ⟨.ofPath "/f", 1, false, false⟩).run
          Piecemeal.engine mainThread ⟨[8, 9], [2, 1, 0]⟩
            = ((.error .writeZero, ⟨.ofPath "/f", 4, false, false⟩), p)
        ∧ p.data = Tree.stored [8, 9] [1, 2, 3] 1
        ∧ taken codes = 3 ∧ codes.getLast? = some 0
        ∧ ((write .small [1, 2, 3, 4, 5]).run.run ⟨.ofPath "/f", 1, false, false⟩).exchanges
          Piecemeal.engine mainThread ⟨[8, 9], [2, 1, 0]⟩
            = resumed "/f" [1, 2, 3, 4, 5] 1 codes := by
  have h := Piecemeal.engine_takesPieces mainThread "/f"
  refine ⟨h, ?_⟩
  have hends : ((write .small [1, 2, 3, 4, 5]).run.run ⟨.ofPath "/f", 1, false, false⟩).run
      Piecemeal.engine mainThread ⟨[8, 9], [2, 1, 0]⟩
        = ((.error .writeZero, ⟨.ofPath "/f", 4, false, false⟩), ⟨[8, 1, 2, 3], []⟩) := by
    decide +kernel
  obtain ⟨codes, outcome, p, hrun, hasked, -, -, hstored, -, hfails, hlast, -⟩ :=
    write_in_pieces (f := ⟨.ofPath "/f", 1, false, false⟩) h rfl .small [1, 2, 3, 4, 5]
      ⟨[8, 9], [2, 1, 0]⟩
  obtain ⟨⟨hresult, hcursor⟩, rfl⟩ := by
    simpa only [Prod.mk.injEq, FileStream.mk.injEq, and_true, true_and] using hrun.symm.trans hends
  have htaken : taken codes = 3 := by omega
  have hzero : 0 ∈ codes := (hfails _ hresult).1 rfl
  refine ⟨codes, _, hends, ?_, htaken, (hlast 0 hzero le_rfl).1, hasked⟩
  rw [htaken] at hstored
  exact hstored

end FileStream

end Strongbox
