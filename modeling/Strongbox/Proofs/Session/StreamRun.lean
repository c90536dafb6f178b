import Strongbox.Proofs.Session.Run
import Strongbox.Session.Stream

/-!
# Streams on the container engine

What one use of an open stream comes to, on a regular file.

* `StreamCall.runOn` — a call on a stream, carried out on the container engine.
* `FileStream.run_writeRest` — what a write asks for, on whatever engine, and how it goes on.
* **`FileStream.runOn_read`**, **`FileStream.runOn_write`**, **`FileStream.runOn_seek`**,
  **`FileStream.runOn_setLength`** — the uses that move the cursor or change the file.
-/

namespace Strongbox

/-! ## Calls on streams -/

namespace StreamCall

variable {α β : Type} (suite : CipherSuite) (thread : Thread) (f : FileStream) (line : Timeline)

/-- Carry a call on a stream out on the container engine. -/
def runOn (call : StreamCall α) (f : FileStream) (line : Timeline) :
    (Except StreamError α × FileStream) × Timeline :=
  (call.run.run f).run (Timeline.engine suite) thread line

/-- A call goes on where the one before it has ended, unless that has failed. -/
lemma runOn_bind (call : StreamCall α) (next : α → StreamCall β) :
    (call >>= next).runOn suite thread f line = match call.runOn suite thread f line with
      | ((.ok value, f), line) => (next value).runOn suite thread f line
      | ((.error error, f), line) => ((.error error, f), line) := by
  refine (Script.run_bind _ _ (call.run.run f) _ line).trans ?_
  rw [runOn]
  rcases (call.run.run f).run (Timeline.engine suite) thread line
    with ⟨⟨error | value, f'⟩, line'⟩ <;> rfl

/-- A call on the session leaves the stream alone. -/
lemma runOn_within (call : Call α) :
    (FileStream.within call).runOn suite thread f line
      = (((call.runOn suite thread line).1.mapError .ofFault, f),
        (call.runOn suite thread line).2) := by
  refine (Script.run_bind _ _ (call.run >>= _) _ line).trans ?_
  rw [Script.run_bind, Call.runOn]
  rcases call.run.run (Timeline.engine suite) thread line with ⟨fault | value, line'⟩ <;> rfl

lemma runOn_within_bind (call : Call α) (next : α → StreamCall β) :
    (FileStream.within call >>= next).runOn suite thread f line
      = match call.runOn suite thread line with
        | (.ok value, line) => (next value).runOn suite thread f line
        | (.error fault, line) => ((.error (.ofFault fault), f), line) := by
  rw [runOn_bind, runOn_within]
  rcases call.runOn suite thread line with ⟨fault | value, line'⟩ <;> rfl

variable {suite thread f line}

lemma moments_of_runOn {call : StreamCall α} {result : Except StreamError α × FileStream}
    {line' : Timeline} (h : call.runOn suite thread f line = (result, line')) :
    line'.moments = line.moments := by
  have hmoments := Script.moments_run suite thread (call.run.run f) line
  rw [runOn] at h
  rwa [h] at hmoments

/-- A call whose value is put in another form. -/
lemma runOn_map {call : StreamCall α} {outcome : Except StreamError α} {f' : FileStream}
    {line' : Timeline} (h : call.runOn suite thread f line = ((outcome, f'), line')) (g : α → β) :
    (do return g (← call) : StreamCall β).runOn suite thread f line
      = ((outcome.map g, f'), line') := by
  rw [runOn_bind, h]
  cases outcome <;> rfl

lemma run_bind (call : StreamCall α) (next : α → StreamCall β) :
    (call >>= next).run.run f = (call.run.run f).bind fun outcome => match outcome with
      | (.ok value, f) => (next value).run.run f
      | (.error error, f) => .done (.error error, f) := by
  refine congrArg (Script.bind (call.run.run f)) (funext fun outcome => ?_)
  rcases outcome with ⟨error | value, f⟩ <;> rfl

/-- A change is one request of a stream, which goes on by its code. -/
lemma run_change_bind (operation : String) (change : Change) (next : Nat → StreamCall β) :
    (FileStream.within (Call.change operation change) >>= next).run.run f
      = .ask (.change change) fun code : Int => match check operation code with
        | .ok n => (next n).run.run f
        | .error fault => .done (.error (.ofFault fault), f) := by
  refine congrArg (Script.ask _) (funext fun code => ?_)
  show Script.bind (Script.bind (Script.bind (Script.done (check operation code)) _) _) _ = _
  cases check operation code <;> rfl

/-- A stream that is open can be used. -/
lemma run_requireOpen_bind (h : f.closed = false) (next : Unit → StreamCall β) :
    (FileStream.requireOpen >>= next).run.run f = (next ()).run.run f := by
  show ((if f.closed then throw (.os .badDescriptor) else pure () : StreamCall Unit)
    >>= next).run.run f = _
  rw [h]
  rfl

lemma runOn_requireOpen_bind (h : f.closed = false) (next : Unit → StreamCall β) :
    (FileStream.requireOpen >>= next).runOn suite thread f line
      = (next ()).runOn suite thread f line :=
  congrArg (Script.run (Timeline.engine suite) thread · line) (run_requireOpen_bind h next)

end StreamCall

/-! ## Uses of a stream -/

namespace SeekFrom

/-- Where a seek would go, by the cursor and the size of the file. -/
def sum (target : SeekFrom) (position size : Nat) : Int :=
  match target with
  | .start offset => offset
  | .current delta => position + delta
  | .fromEnd delta => size + delta

/-- An offset from the start is a machine word. -/
def InRange : SeekFrom → Prop
  | .start offset => offset < UInt64.size
  | .current _ | .fromEnd _ => True

end SeekFrom

namespace FileStream

/-- A known error number stands for itself. -/
lemma ofFault_told {operation : String} {code : Errno} (h : Errno.ofCode code.number = code) :
    StreamError.ofFault (.told operation code) = .os code := by
  show StreamError.os (.ofCode code.number) = .os code
  rw [h]

variable {suite : CipherSuite} {thread : Thread} {line : Timeline} {c : OpenContainer}
  {host : Host} {s : Session} {f : FileStream} {key : String} {ino : Nat} {data : Bytes}

lemma runOn_moveTo_shifted (base : Nat) (delta : Int) :
    (do moveTo (← ExceptT.mk (pure (shifted base delta))) : StreamCall Nat).runOn suite thread f
        line
      = (if 0 ≤ base + delta ∧ base + delta < UInt64.size then
          (.ok (base + delta).toNat, { f with position := (base + delta).toNat })
        else (.error .negativeSeek, f), line) := by
  by_cases hrange : 0 ≤ base + delta ∧ base + delta < UInt64.size
  · rw [if_pos hrange, shifted, if_pos hrange]
    rfl
  · rw [if_neg hrange, shifted, if_neg hrange]
    rfl

/-- The save that a cut asks for is that of its request. -/
lemma saves_of_setLength (hs : s.isMounted = true) (hopen : f.closed = false) {length : Nat}
    (h : ((FileStream.setLength s length).run.run f).Saves suite thread line) :
    line.machine.Saves suite line.moment (.change (.truncate f.handle.path length)) := by
  have hcall : (FileStream.setLength s length).run.run f
      = (within (discard (Call.change "ftruncate" (.truncate f.handle.path length)))).run.run f := by
    rw [FileStream.setLength, StreamCall.run_requireOpen_bind hopen]
    show (within (s.ftruncate f.handle length)).run.run f = _
    rw [Session.ftruncate, Call.require_bind hs]
  rw [hcall] at h
  exact h.1

/-- What a write fails with where the engine takes nothing, by the code that it gives. -/
def stopped (code : Int) : StreamError :=
  if code = 0 then .writeZero else .os (.ofCode (-code))

/-- A write asks for all that is left, and goes on behind what was taken of it, or stops. -/
lemma run_writeRest (hs : s.isMounted = true) {buffer : Bytes} (hbuffer : buffer ≠ [])
    (written : Nat) :
    ∃ next : Int → Script (Except StreamError Nat × FileStream),
      (writeRest s written buffer).run.run f
          = .ask (.change (.write f.handle.path buffer f.position)) next
        ∧ (∀ {n : Nat}, 0 < n → next n = (writeRest s (written + n) (buffer.drop n)).run.run
          { f with position := f.position + n })
        ∧ ∀ {code}, code ≤ 0 → next code = .done (.error (stopped code), f) := by
  obtain ⟨b, rest, rfl⟩ := List.exists_cons_of_ne_nil hbuffer
  rw [writeRest]
  show ∃ next, (within (s.pwrite f.handle (b :: rest) f.position) >>= _).run.run f = _ ∧ _
  rw [Session.pwrite, Call.require_bind hs, StreamCall.run_change_bind]
  refine ⟨_, rfl, fun {n} hn => ?_, fun {code} hcode => ?_⟩
  · obtain ⟨n, rfl⟩ := Nat.exists_eq_succ_of_ne_zero hn.ne'
    simp only [check_value]
    rfl
  · obtain rfl | hneg := hcode.eq_or_lt
    · rfl
    · have hcheck : check "pwrite" code = .error (.failed "pwrite" (.ofCode (-code))) :=
        if_neg (Int.not_le.2 hneg)
      simp only [hcheck]
      rw [stopped, if_neg hneg.ne]
      rfl

section Uses

variable (suite) (thread) (h : line.Holds c host) (hs : s.isMounted = true)
  (hkey : Key.normalize f.handle.path = .ok key) (hdata : c.tree.fileData key = .ok (ino, data))

include h hs hkey hdata

/-- The size of the file. -/
lemma runOn_fstat : ∃ stat line', (s.fstat f.handle).runOn suite thread line = (.ok stat, line')
    ∧ stat.size = data.length ∧ line'.Holds c host := by
  obtain ⟨stat, hstat, hsize⟩ := Tree.getattr_of_fileData hdata
  obtain ⟨line', hrun, hline'⟩ := Call.runOn_attributes suite thread h hs
    "fstat" f.handle.path
  rw [Tree.atPath_of_normalize hkey, hstat] at hrun
  exact ⟨stat, line', hrun, hsize, hline'⟩

/-- The engine takes a whole buffer, which waits for its save. -/
lemma runOn_pwrite {buffer : Bytes} {offset : Nat} (hfits : offset + buffer.length ≤ maxFileSize) :
    ∃ line', (s.pwrite f.handle buffer offset).runOn suite thread line
        = (.ok buffer.length, line')
      ∧ line'.Holds { c with
          tree := c.tree.modify ino
            (.setData line.moment.stamp (Tree.overwritten data buffer offset))
          dirty := true } host := by
  have happly : (Change.write key buffer offset).apply line.moment.stamp c.tree
      = .ok (c.tree.modify ino
        (.setData line.moment.stamp (Tree.overwritten data buffer offset))) :=
    (Tree.write_of_fileData hdata buffer offset).trans (if_neg (Nat.not_lt.2 hfits))
  obtain ⟨line', hrun, hline'⟩ := Call.runOn_change suite thread
    (.write f.handle.path buffer offset) h "pwrite" (by rw [Change.resolve, hkey]; rfl)
    (OpenContainer.change_of_ok happly)
  exact ⟨line', by rwa [Session.pwrite, Call.require_bind hs], hline'⟩

/-- A buffer that would make the file too large is not taken at all. -/
lemma runOn_pwrite_of_lt {buffer : Bytes} {offset : Nat}
    (hlarge : maxFileSize < offset + buffer.length) :
    ∃ line', (s.pwrite f.handle buffer offset).runOn suite thread line
        = (.error (.told "pwrite" .tooBig), line') ∧ line'.Holds c host := by
  have happly : (Change.write key buffer offset).apply line.moment.stamp c.tree
      = .error .tooBig :=
    (Tree.write_of_fileData hdata buffer offset).trans (if_pos hlarge)
  obtain ⟨line', hrun, hline'⟩ := Call.runOn_change suite thread
    (.write f.handle.path buffer offset) h "pwrite" (by rw [Change.resolve, hkey]; rfl)
    (OpenContainer.change_of_error happly)
  exact ⟨line', by rwa [Session.pwrite, Call.require_bind hs], hline'⟩

/-- One request is enough for a whole buffer. -/
lemma runOn_writeRest {buffer : Bytes} (hbuffer : buffer ≠ [])
    (hfits : f.position + buffer.length ≤ maxFileSize) :
    ∃ line', (writeRest s 0 buffer).runOn suite thread f line
        = ((.ok buffer.length, { f with position := f.position + buffer.length }), line')
      ∧ line'.Holds { c with
          tree := c.tree.modify ino
            (.setData line.moment.stamp (Tree.overwritten data buffer f.position))
          dirty := true } host := by
  obtain ⟨line', hrun, hline'⟩ :=
    runOn_pwrite suite thread h hs hkey hdata hfits
  refine ⟨line', ?_, hline'⟩
  obtain ⟨b, rest, rfl⟩ := List.exists_cons_of_ne_nil hbuffer
  rw [writeRest]
  refine (StreamCall.runOn_within_bind suite thread f line
    (s.pwrite f.handle (b :: rest) f.position) _).trans ?_
  have hdone : rest.drop ((b :: rest).length - 1) = [] := List.drop_length
  rw [hrun]
  dsimp only
  rw [if_neg (List.length_pos_iff.2 hbuffer).ne', hdone, writeRest, Nat.zero_add]
  rfl

lemma runOn_writeRest_of_lt {buffer : Bytes} (hbuffer : buffer ≠ [])
    (hlarge : maxFileSize < f.position + buffer.length) :
    ∃ line', (writeRest s 0 buffer).runOn suite thread f line
        = ((.error (.os .tooBig), f), line') ∧ line'.Holds c host := by
  obtain ⟨line', hrun, hline'⟩ :=
    runOn_pwrite_of_lt suite thread h hs hkey hdata hlarge
  refine ⟨line', ?_, hline'⟩
  obtain ⟨b, rest, rfl⟩ := List.exists_cons_of_ne_nil hbuffer
  rw [writeRest]
  refine (StreamCall.runOn_within_bind suite thread f line
    (s.pwrite f.handle (b :: rest) f.position) _).trans ?_
  rw [hrun]
  dsimp only
  rw [ofFault_told (by decide +kernel)]

variable (hopen : f.closed = false)

include hopen

/-- A read brings the bytes from the cursor on, and moves the cursor behind them. -/
theorem runOn_read (count : Nat) :
    ∃ line', (FileStream.read s count).runOn suite thread f line
        = ((.ok (((data.drop f.position).take count).length, (data.drop f.position).take count),
          { f with position := f.position + ((data.drop f.position).take count).length }), line')
      ∧ line'.Holds c host := by
  obtain ⟨line', hrun, hline'⟩ := Call.runOn_pread suite thread h hs hkey
    hdata count f.position
  refine ⟨line', ?_, hline'⟩
  rw [FileStream.read, StreamCall.runOn_requireOpen_bind hopen]
  refine (StreamCall.runOn_within_bind suite thread f line (s.pread f.handle count f.position)
    _).trans ?_
  rw [hrun]
  rfl

/-- A write begins at the cursor, or at the end of the file. -/
theorem runOn_write (buffer : Bytes) :
    ∃ line', (FileStream.write s buffer).runOn suite thread f line
        = (writeRest s 0 buffer).runOn suite thread
          { f with position := if f.append then data.length else f.position } line'
      ∧ line'.Holds c host := by
  rw [FileStream.write, StreamCall.runOn_requireOpen_bind hopen]
  show ∃ line', ((if f.append then _ else _ : StreamCall Nat)).runOn suite thread f line = _ ∧ _
  by_cases happend : f.append = true
  · obtain ⟨stat, line', hrun, hsize, hline'⟩ :=
      runOn_fstat suite thread h hs hkey hdata
    refine ⟨line', ?_, hline'⟩
    rw [if_pos happend, if_pos happend, ← hsize]
    refine (StreamCall.runOn_within_bind suite thread f line (s.fstat f.handle) _).trans ?_
    rw [hrun]
    rfl
  · refine ⟨line, ?_, h⟩
    rw [if_neg happend, if_neg happend]

/-- A seek goes to the sum of its base and its distance, or nowhere. -/
theorem runOn_seek {target : SeekFrom} (htarget : target.InRange) :
    ∃ line', (FileStream.seek s target).runOn suite thread f line
        = (if 0 ≤ target.sum f.position data.length
              ∧ target.sum f.position data.length < UInt64.size then
            (.ok (target.sum f.position data.length).toNat,
              { f with position := (target.sum f.position data.length).toNat })
          else (.error .negativeSeek, f), line')
      ∧ line'.Holds c host := by
  rw [FileStream.seek, StreamCall.runOn_requireOpen_bind hopen]
  cases target with
  | start offset =>
      refine ⟨line, ?_, h⟩
      have hrange : 0 ≤ (SeekFrom.start offset).sum f.position data.length
          ∧ (SeekFrom.start offset).sum f.position data.length < UInt64.size :=
        ⟨Int.natCast_nonneg offset, Int.ofNat_lt.2 htarget⟩
      rw [if_pos hrange]
      rfl
  | current delta => exact ⟨line, runOn_moveTo_shifted f.position delta, h⟩
  | fromEnd delta =>
      obtain ⟨stat, line', hrun, hsize, hline'⟩ :=
        runOn_fstat suite thread h hs hkey hdata
      refine ⟨line', ?_, hline'⟩
      refine (StreamCall.runOn_within_bind suite thread f line (s.fstat f.handle) _).trans ?_
      rw [hrun, ← hsize]
      exact runOn_moveTo_shifted stat.size delta

/-- Where its save goes through, a file is cut, or grows with zeros. -/
theorem runOn_setLength {length : Nat} (hfits : length ≤ maxFileSize)
    (hsaves : line.machine.Saves suite line.moment (.change (.truncate f.handle.path length))) :
    ∃ line' dirty host', (FileStream.setLength s length).runOn suite thread f line
        = ((.ok (), f), line')
      ∧ line'.Holds { c with
          tree := c.tree.modify ino (.setData line.moment.stamp (Tree.resized data length))
          dirty := dirty } host' := by
  have happly : (Change.truncate key length).apply line.moment.stamp c.tree
      = .ok (c.tree.modify ino (.setData line.moment.stamp (Tree.resized data length))) :=
    (Tree.truncate_of_fileData hdata length).trans (if_neg (Nat.not_lt.2 hfits))
  obtain ⟨line', dirty, host', hrun, hline'⟩ := Call.runOn_change_of_saves suite thread
    (.truncate f.handle.path length) h "ftruncate" (by rw [Change.resolve, hkey]; rfl) hsaves
  rw [Change.after, happly] at hline'
  refine ⟨line', dirty, host', ?_, hline'⟩
  have hcall : (s.ftruncate f.handle length).runOn suite thread line = (.ok (), line') := by
    rw [Session.ftruncate, Call.require_bind hs, Call.runOn_discard, hrun, happly]
    rfl
  rw [FileStream.setLength, StreamCall.runOn_requireOpen_bind hopen]
  refine (StreamCall.runOn_within suite thread f line (s.ftruncate f.handle length)).trans ?_
  rw [hcall]
  rfl

/-- A file does not grow beyond what the store allows. -/
theorem runOn_setLength_of_lt {length : Nat} (hlarge : maxFileSize < length) :
    ∃ line', (FileStream.setLength s length).runOn suite thread f line
        = ((.error (.os .tooBig), f), line')
      ∧ line'.Holds c host := by
  have happly : (Change.truncate key length).apply line.moment.stamp c.tree = .error .tooBig :=
    (Tree.truncate_of_fileData hdata length).trans (if_pos hlarge)
  obtain ⟨line', hrun, hline'⟩ := Call.runOn_change suite thread
    (.truncate f.handle.path length) h "ftruncate" (by rw [Change.resolve, hkey]; rfl)
    (OpenContainer.change_of_error happly)
  refine ⟨line', ?_, hline'⟩
  have hcall : (s.ftruncate f.handle length).runOn suite thread line
      = (.error (.told "ftruncate" .tooBig), line') := by
    rw [Session.ftruncate, Call.require_bind hs, Call.runOn_discard, hrun]
    rfl
  rw [FileStream.setLength, StreamCall.runOn_requireOpen_bind hopen]
  refine (StreamCall.runOn_within suite thread f line (s.ftruncate f.handle length)).trans ?_
  rw [hcall]
  dsimp only [Except.mapError]
  rw [ofFault_told (by decide +kernel)]

end Uses

end FileStream

end Strongbox
