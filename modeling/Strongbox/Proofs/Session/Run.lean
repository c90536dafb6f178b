import Strongbox.Proofs.Engine.Due
import Strongbox.Proofs.Session.Operation
import Strongbox.Proofs.Tree.Codes
import Strongbox.Proofs.Tree.Contents

/-!
# Calls on the container engine

What the calls of a mounted session come to while the container engine has a container open.  A call
that looks at the tree is told what the tree says, and a call that changes it is told how the change
went.

* `check_resultCode` — a failure that is told by its code arrives as itself.
* `Call.runOn` — a call, carried out on the container engine.
* `Timeline.Holds` — a container is open, on a host.
* `Call.runOn_attributes`, `Call.runOn_list`, `Call.runOn_pread` and others — calls that look.
* **`Call.runOn_change`** — a call that changes the tree.
-/

namespace Strongbox

/-! ## Result codes -/

/-- The fault that a failed request is told as. -/
def Fault.told (operation : String) (code : Errno) : Fault :=
  .failed operation (.ofCode code.number)

lemma check_value (operation : String) (value : Nat) : check operation value = .ok value := by
  rw [check, if_pos (Int.natCast_nonneg value), Int.toNat_natCast]

lemma check_failure (operation : String) {code : Errno} (h : 0 < code.number) :
    check operation (-code.number) = .error (.told operation code) := by
  have hneg : ¬ (0 : Int) ≤ -code.number := by omega
  rw [check, if_neg hneg, Int.neg_neg, Fault.told]

/-- A failure that is told by its code arrives as itself. -/
lemma check_resultCode (operation : String) {outcome : Except Errno Nat} (h : Numbered outcome) :
    check operation (resultCode outcome) = outcome.mapError (.told operation) := by
  cases outcome with
  | ok value => exact check_value operation value
  | error code => exact check_failure operation (h code rfl)

/-! ## Calls -/

/-- The line after one more call. -/
def Timeline.goOn (line : Timeline) (m : Machine) : Timeline :=
  { line with machine := m, calls := line.calls + 1 }

namespace Call

variable {α β : Type} (suite : CipherSuite) (thread : Thread) (line : Timeline)

/-- Carry a call out on the container engine. -/
def runOn (call : Call α) (line : Timeline) : Except Fault α × Timeline :=
  call.run.run (Timeline.engine suite) thread line

@[simp] lemma runOn_pure (value : α) : (pure value : Call α).runOn suite thread line
    = (.ok value, line) := rfl

@[simp] lemma runOn_throw (fault : Fault) : (throw fault : Call α).runOn suite thread line
    = (.error fault, line) := rfl

@[simp] lemma runOn_check (operation : String) (code : Int) :
    (check operation code).runOn suite thread line = (Strongbox.check operation code, line) := rfl

/-- A call goes on where the one before it has ended, unless that has failed. -/
lemma runOn_bind (call : Call α) (next : α → Call β) :
    (call >>= next).runOn suite thread line = match call.runOn suite thread line with
      | (.ok value, line) => (next value).runOn suite thread line
      | (.error fault, line) => (.error fault, line) := by
  refine (Script.run_bind _ _ call.run _ line).trans ?_
  rw [runOn]
  rcases call.run.run (Timeline.engine suite) thread line with ⟨fault | value, line'⟩ <;> rfl

lemma runOn_discard (call : Call α) :
    (discard call).runOn suite thread line
      = ((call.runOn suite thread line).1.map fun _ => ⟨⟩, (call.runOn suite thread line).2) := by
  refine (runOn_bind suite thread line call _).trans ?_
  rcases call.runOn suite thread line with ⟨fault | value, line'⟩ <;> rfl

/-- A call whose fault is caught. -/
lemma runOn_lift (call : Call α) :
    Call.runOn suite thread (ExceptT.lift call.run : Call (Except Fault α)) line
      = (.ok (call.runOn suite thread line).1, (call.runOn suite thread line).2) :=
  Script.run_bind _ _ call.run _ line

variable {suite thread line}

/-- The moments of the calls are laid out ahead. -/
lemma moments_of_runOn {call : Call α} {outcome : Except Fault α} {line' : Timeline}
    (h : call.runOn suite thread line = (outcome, line')) : line'.moments = line.moments := by
  have hmoments := Script.moments_run suite thread call.run line
  rw [runOn] at h
  rwa [h] at hmoments

/-- Where all saves of two calls go through, those of the first one do. -/
lemma saves_left {call : Call α} {next : α → Call β}
    (h : (call >>= next).run.Saves suite thread line) : call.run.Saves suite thread line :=
  (Script.saves_bind.1 h).1

/-- And so do those of the second one, if it is made. -/
lemma saves_right {call : Call α} {next : α → Call β}
    (h : (call >>= next).run.Saves suite thread line) {value : α} {line' : Timeline}
    (hrun : call.runOn suite thread line = (.ok value, line')) :
    (next value).run.Saves suite thread line' := by
  have hnext := (Script.saves_bind.1 h).2
  have hended : call.run.run (Timeline.engine suite) thread line = (.ok value, line') := hrun
  replace hnext := hended ▸ hnext
  exact hnext

/-- A mounted session lets an operation pass. -/
lemma require_bind {s : Session} (h : s.isMounted = true) (operation : String)
    (next : Unit → Call β) : s.require operation >>= next = next () := by
  rw [Session.require, if_pos h]
  rfl

lemma runOn_require_bind {s : Session} (h : s.isMounted = true) (operation : String)
    (next : Unit → Call β) : (s.require operation >>= next).runOn suite thread line
      = (next ()).runOn suite thread line := by
  rw [require_bind h]

lemma runOn_request_bind (asked : Request) {reply : asked.Reply} {m : Machine}
    (h : line.machine.answer suite line.moment thread asked = (reply, m))
    (next : asked.Reply → Call β) :
    (request asked >>= next).runOn suite thread line
      = (next reply).runOn suite thread (line.goOn m) := by
  show (next (line.machine.answer suite line.moment thread asked).1).runOn suite thread
    (line.goOn (line.machine.answer suite line.moment thread asked).2) = _
  rw [h]

/-- An operation of a mounted session that comes down to the code of one request. -/
lemma runOn_require_request {s : Session} (hs : s.isMounted = true) (operation : String)
    (asked : Request) {reply : asked.Reply} {m : Machine}
    (h : line.machine.answer suite line.moment thread asked = (reply, m))
    (code : asked.Reply → Int) :
    (do
      s.require operation
      discard <| check operation (code (← request asked)) : Call Unit).runOn suite thread line
      = ((Strongbox.check operation (code reply)).map fun _ => (), line.goOn m) := by
  rw [require_bind hs, runOn_request_bind asked h, runOn_discard, runOn_check]

end Call

/-! ## The open container -/

/-- A container is open, on a host. -/
structure Timeline.Holds (line : Timeline) (c : OpenContainer) (host : Host) : Prop where
  opened : line.machine.engine.opened = some c
  host : line.machine.host = host

/-- What a path names, in a tree. -/
def Tree.atPath {α : Type} (t : Tree) (path : String) (look : Tree → String → Except Errno α) :
    Except Errno α := do
  look t (← Key.normalize path)

lemma Tree.atPath_of_normalize {α : Type} {t : Tree} {path key : String}
    (h : Key.normalize path = .ok key) (look : Tree → String → Except Errno α) :
    t.atPath path look = look t key := by
  rw [atPath, h]
  rfl

lemma Tree.numbered_atPath {α : Type} {look : Tree → String → Except Errno α} (t : Tree)
    (path : String) (h : ∀ key, Numbered (look t key)) : Numbered (t.atPath path look) :=
  (Key.numbered_normalize path).bind h

variable {suite : CipherSuite} {thread : Thread} {line : Timeline} {c c' : OpenContainer}
  {host host' : Host} {s : Session}

lemma Timeline.Holds.of_untouched (h : line.Holds c host) {m : Machine}
    (huntouched : line.machine.Untouched m) : (line.goOn m).Holds c host :=
  ⟨huntouched.1.trans h.opened, huntouched.2.trans h.host⟩

/-- A script that only looks leaves the container and its host alone. -/
lemma Timeline.Holds.run {α : Type} (suite : CipherSuite) (thread : Thread)
    (h : line.Holds c host) {script : Script α}
    (hlooks : script.Only fun asked => asked.looks = true) :
    (script.run (Timeline.engine suite) thread line).2.Holds c host := by
  induction script generalizing line with
  | done value => exact h
  | ask asked next ih =>
      have huntouched := Machine.untouched_of_looks suite line.moment thread line.machine hlooks.1
      exact ih _ (h.of_untouched huntouched) (hlooks.2 _)
  | look next ih => exact ih _ h (hlooks _)

/-! ## Looking -/

/-- The reply that shows an outcome, or `blank` where there is none. -/
def shownReply {α : Type} (blank : α) (value : α → Nat) : Except Errno α → Int × α
  | .ok found => (value found, found)
  | .error code => (-code.number, blank)

/-- What is shown arrives, and so does the failure to show anything. -/
lemma Call.runOn_shownReply {α β : Type} (operation : String) (blank : α) (value : α → Nat)
    (f : α → β) {found : Except Errno α} (hfound : Numbered found) :
    (do
      let _ ← Call.check operation (shownReply blank value found).1
      return f (shownReply blank value found).2 : Call β).runOn suite thread line
      = ((found.map f).mapError (.told operation), line) := by
  rw [runOn_bind, runOn_check]
  cases found with
  | ok found => rw [shownReply, check_value]; rfl
  | error code => rw [shownReply, check_failure operation (hfound code rfl)]; rfl

/-- All bytes that were read fit into the buffer. -/
lemma Session.buffered_of_length_le {bytes : Bytes} {count : Nat} (h : bytes.length ≤ count) :
    buffered (min bytes.length count) bytes = bytes := by
  rw [Nat.min_eq_left h, buffered, List.take_length, Nat.sub_self]
  exact List.append_nil bytes

section Looking

variable (suite) (thread) (h : line.Holds c host)

include h

/-- What is shown is what the tree says. -/
lemma Timeline.Holds.shown {α : Type} (blank : α) (value : α → Nat) (path : String)
    (look : Tree → String → Except Errno α) :
    ∃ m, Machine.shown blank value (line.machine.inspectPath thread path look)
        = (shownReply blank value (c.tree.atPath path look), m)
      ∧ line.machine.Untouched m := by
  refine ⟨(line.machine.inspectPath thread path look).2, ?_, Machine.inspectPath_untouched path _⟩
  have hfound : (line.machine.inspectPath thread path look).1 = c.tree.atPath path look :=
    Machine.inspectPath_fst h.opened path look
  rcases hinspect : line.machine.inspectPath thread path look with ⟨found, m⟩
  rw [hinspect] at hfound
  rw [← hfound]
  cases found <;> rfl

variable (hs : s.isMounted = true)

include hs

namespace Call

/-- The attributes are told by one call. -/
lemma runOn_attributes_goOn (operation path : String) :
    ∃ m, (s.attributes operation path).runOn suite thread line
        = ((c.tree.atPath path Tree.getattr).mapError (.told operation), line.goOn m)
      ∧ (line.goOn m).Holds c host := by
  obtain ⟨m, hshown, huntouched⟩ :=
    h.shown thread .blank (fun _ => 0) path Tree.getattr
  refine ⟨m, ?_, h.of_untouched huntouched⟩
  rw [Session.attributes, require_bind hs,
    runOn_request_bind (.getattr path) hshown]
  refine (runOn_shownReply operation _ _ id
    (c.tree.numbered_atPath path c.tree.numbered_getattr)).trans ?_
  cases c.tree.atPath path Tree.getattr <;> rfl

lemma runOn_attributes (operation path : String) :
    ∃ line', (s.attributes operation path).runOn suite thread line
        = ((c.tree.atPath path Tree.getattr).mapError (.told operation), line')
      ∧ line'.Holds c host := by
  obtain ⟨m, hrun, hm⟩ := runOn_attributes_goOn suite thread h hs operation path
  exact ⟨line.goOn m, hrun, hm⟩

lemma runOn_list (path : String) :
    ∃ line', (s.list path).runOn suite thread line
        = (((c.tree.atPath path Tree.readdir).map fun names =>
            names.filter fun name => name ≠ "." && name ≠ "..").mapError (.told "list"), line')
      ∧ line'.Holds c host := by
  obtain ⟨m, hshown, huntouched⟩ := h.shown thread [] (fun _ => 0) path Tree.readdir
  refine ⟨line.goOn m, ?_, h.of_untouched huntouched⟩
  rw [Session.list, require_bind hs, runOn_request_bind (.readdir path) hshown]
  exact runOn_shownReply "list" _ _ _ (c.tree.numbered_atPath path c.tree.numbered_readdir)

/-- A path that cannot be looked up is no directory. -/
lemma runOn_isDirectory (path : String) :
    ∃ line', (s.isDirectory path).runOn suite thread line
        = (.ok ((c.tree.atPath path fun tree key => .ok (tree.isDir key)).toOption.getD false),
          line')
      ∧ line'.Holds c host := by
  refine ⟨line.goOn (line.machine.inspectPath thread path fun tree key => .ok (tree.isDir key)).2,
    ?_, h.of_untouched (Machine.inspectPath_untouched path _)⟩
  have hanswer : line.machine.answer suite line.moment thread (.isDir path) = _ :=
    Machine.answer_isDir path
  rw [Machine.inspectPath_fst h.opened] at hanswer
  have hcall : s.isDirectory path = request (.isDir path) := require_bind hs "is_directory" _
  rw [hcall]
  exact runOn_request_bind (.isDir path) hanswer pure

/-- A file shows its bytes from an offset on, and none at or behind its end. -/
lemma runOn_pread {handle : PathHandle} {key : String} {ino : Nat} {data : Bytes}
    (hkey : Key.normalize handle.path = .ok key) (hdata : c.tree.fileData key = .ok (ino, data))
    (count offset : Nat) :
    ∃ line', (s.pread handle count offset).runOn suite thread line
        = (.ok (((data.drop offset).take count).length, (data.drop offset).take count), line')
      ∧ line'.Holds c host := by
  obtain ⟨m, hshown, huntouched⟩ := h.shown thread [] List.length handle.path
    fun tree key => tree.read key count offset
  refine ⟨line.goOn m, ?_, h.of_untouched huntouched⟩
  rw [Session.pread, require_bind hs,
    runOn_request_bind (.read handle.path count offset) hshown,
    Tree.atPath_of_normalize hkey, Tree.read_of_fileData hdata]
  by_cases hcount : count = 0
  · subst hcount
    rfl
  · rw [if_neg hcount]
    by_cases hend : data.length ≤ offset
    · rw [if_pos hend, List.drop_eq_nil_of_le hend, List.take_nil]
      rfl
    · rw [if_neg hend]
      have hlength := List.length_take_le count (data.drop offset)
      generalize (data.drop offset).take count = bytes at hlength
      simp only [shownReply, check_value, Session.buffered_of_length_le hlength]
      rfl

end Call

end Looking

/-! ## Changing -/

/-- A change that fails has an error number, also where it fails with its save. -/
lemma OpenContainer.numbered_change (suite : CipherSuite) (moment : Moment) (host : Host)
    (c : OpenContainer) (change : Change) : Numbered (c.change suite moment host change).1 := by
  cases ha : change.apply moment.stamp c.tree with
  | error code =>
      rw [change_of_error ha]
      exact numbered_error (change.numbered_apply _ _ code ha)
  | ok tree =>
      rw [change_of_ok ha]
      split
      · exact numbered_ok _
      · exact numbered_ok _
      · exact numbered_ok _
      · split
        · exact numbered_ok _
        · exact numbered_error (by decide)

lemma Numbered.map {α β : Type} {outcome : Except Errno α} (h : Numbered outcome) (f : α → β) :
    Numbered (outcome.map f) := by
  cases outcome with
  | ok value => exact numbered_ok _
  | error code => exact numbered_error (h code rfl)

namespace Call

variable (suite) (thread) (change : Change) {resolved : Change}

/-- A change is told how it went with the container. -/
theorem runOn_change (h : line.Holds c host) (operation : String)
    (hresolve : change.resolve = .ok resolved) {outcome : Except Errno Unit}
    (hchange : c.change suite line.moment host resolved = (outcome, c', host')) :
    ∃ line', (Call.change operation change).runOn suite thread line
        = ((outcome.map fun _ => change.taken).mapError (.told operation), line')
      ∧ line'.Holds c' host' := by
  rw [← h.host] at hchange
  have hnumbered := c.numbered_change suite line.moment line.machine.host resolved
  rw [hchange] at hnumbered
  refine ⟨line.goOn ⟨{ line.machine.engine.touch thread with opened := some c' }, host'⟩, ?_,
    ⟨rfl, rfl⟩⟩
  rw [Call.change, runOn_request_bind (.change change)
    (Machine.answer_change hresolve h.opened hchange), runOn_check,
    check_resultCode operation (hnumbered.map _)]

/-- A change whose paths have no keys is not tried. -/
lemma runOn_change_unnamed (h : line.Holds c host) (operation : String) {code : Errno}
    (hresolve : change.resolve = .error code) :
    ∃ line', (Call.change operation change).runOn suite thread line
        = (.error (.told operation code), line')
      ∧ line'.Holds c host := by
  refine ⟨line.goOn line.machine, ?_, h.of_untouched (.refl _)⟩
  rw [Call.change, runOn_request_bind (.change change)
    (Machine.answer_change_unnamed hresolve), runOn_check,
    check_failure operation (change.numbered_resolve code hresolve)]

/-- Where its save goes through, a change is told how it went with the tree. -/
theorem runOn_change_of_saves (h : line.Holds c host) (operation : String)
    (hresolve : change.resolve = .ok resolved)
    (hsaves : line.machine.Saves suite line.moment (.change change)) :
    ∃ line' dirty host', (Call.change operation change).runOn suite thread line
        = (((resolved.apply line.moment.stamp c.tree).map fun _ => change.taken).mapError
          (.told operation), line')
      ∧ line'.Holds
        { c with tree := resolved.after line.moment.stamp c.tree, dirty := dirty } host' := by
  obtain ⟨dirty, host', hchange⟩ := OpenContainer.change_of_saves h.opened hresolve hsaves
  rw [h.host] at hchange
  obtain ⟨line', hrun, hline'⟩ := runOn_change suite thread change h operation hresolve hchange
  refine ⟨line', dirty, host', hrun.trans ?_, hline'⟩
  cases resolved.apply line.moment.stamp c.tree <;> rfl

end Call

end Strongbox
