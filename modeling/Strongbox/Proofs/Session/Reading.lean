import Mathlib.Algebra.Order.BigOperators.Group.List
import Mathlib.Algebra.Order.Group.Nat
import Strongbox.Proofs.Session.StreamRun

/-!
# Reading files to their ends

A file that is read by the chunk comes out whole, whatever the size of the chunks.

* `Machine.length_le_extent` — no file is larger than all that is held.
* `FileStream.runOn_readRest` — reading on while there is something left.
* **`FileStream.runOn_readAll`** — reading from the cursor to the end.
* `FileStream.runOn_close` — closing a stream.
-/

namespace Strongbox

/-! ## How much there can be to read -/

/-- No file is larger than all that is held. -/
lemma Machine.length_le_extent {m : Machine} {c : OpenContainer} {key : String} {ino : Nat}
    {data : Bytes} (hopen : m.engine.opened = some c)
    (hdata : c.tree.fileData key = .ok (ino, data)) : data.length ≤ m.extent := by
  obtain ⟨inode, -, hinode, hkind⟩ := Tree.fileData_ok hdata
  have hmem : (ino, inode) ∈ c.tree.inodes.toList :=
    Std.ExtTreeMap.mem_toList_iff_getElem?_eq_some.2 hinode
  have hsize : inode.kind.size
      ≤ c.tree.inodes.foldl (fun total _ inode => total + inode.kind.size) 0 := by
    have hsum := List.single_le_sum (fun _ _ => Nat.zero_le _) _
      (List.mem_map_of_mem (f := fun item : Nat × Inode => item.2.kind.size) hmem)
    rw [Std.ExtTreeMap.foldl_eq_foldl_toList]
    rwa [List.sum_eq_foldl, List.foldl_map] at hsum
  rw [hkind] at hsize
  rw [extent, hopen]
  exact hsize.trans (Nat.le_add_left _ _)

/-! ## Reading -/

/-- What is taken and what is left make up the whole. -/
lemma take_append_drop_length {α : Type} (items : List α) (count : Nat) :
    items.take count ++ items.drop (items.take count).length = items := by
  have hdrop : items.drop (items.take count).length = items.drop count := by
    rw [List.length_take]
    rcases Nat.le_total count items.length with hle | hle
    · rw [Nat.min_eq_left hle]
    · rw [Nat.min_eq_right hle, List.drop_length, List.drop_eq_nil_of_le hle]
  rw [hdrop, List.take_append_drop]

namespace FileStream

variable {line : Timeline} {c : OpenContainer} {host : Host} {s : Session} {f : FileStream}
  {key : String} {ino chunk : Nat} {data : Bytes}

section Reading

variable (suite : CipherSuite) (thread : Thread) (h : line.Holds c host) (hs : s.isMounted = true)
  (hkey : Key.normalize f.handle.path = .ok key) (hdata : c.tree.fileData key = .ok (ino, data))
  (hopen : f.closed = false) (hchunk : 0 < chunk)

include h hs hkey hdata hopen hchunk

/-- Reading on ends at the end of the file.  Every read but the last one moves the cursor, so that
there are no more reads than bytes but for that one. -/
lemma runOn_readRest {fuel : Nat} (hfuel : data.length - f.position < fuel) (done : List Bytes) :
    ∃ position line', (readRest s chunk fuel done).runOn suite thread f line
        = ((.ok (done.reverse.flatten ++ data.drop f.position), { f with position := position }),
          line')
      ∧ line'.Holds c host := by
  induction fuel generalizing line f done with
  | zero => exact absurd hfuel (Nat.not_lt_zero _)
  | succ fuel ih =>
      obtain ⟨line₁, hread, hline₁⟩ := runOn_read suite thread h hs hkey hdata hopen chunk
      rw [readRest, StreamCall.runOn_bind, hread]
      dsimp only
      have hwhole := take_append_drop_length (data.drop f.position) chunk
      generalize hbytes : (data.drop f.position).take chunk = bytes at hwhole
      rw [List.drop_drop] at hwhole
      split
      · next hend =>
          -- a chunk holds something as long as anything is left
          have hnone : data.drop f.position = [] := by
            rw [List.length_eq_zero_iff] at hend
            rw [hend, List.take_eq_nil_iff] at hbytes
            exact hbytes.resolve_left hchunk.ne'
          refine ⟨f.position + bytes.length, line₁, ?_, hline₁⟩
          rw [hnone, List.append_nil]
          rfl
      · next hmore =>
          have hlength : bytes.length ≤ data.length - f.position := by
            rw [← List.length_drop, ← hbytes]
            exact List.length_take_le' _ _
          have hless : data.length - (f.position + bytes.length) < fuel := by omega
          obtain ⟨position, line₂, hrest, hline₂⟩ := ih (f := { f with
            position := f.position + bytes.length }) hline₁ hkey hopen hless (bytes :: done)
          refine ⟨position, line₂, ?_, hline₂⟩
          rw [hrest, List.reverse_cons, List.flatten_append, List.append_assoc]
          simp only [List.flatten_cons, List.flatten_nil, List.append_nil, hwhole]

/-- All that lies behind the cursor comes out, and in the right order. -/
theorem runOn_readAll :
    ∃ position line', (readAll s chunk).runOn suite thread f line
        = ((.ok (data.drop f.position), { f with position := position }), line')
      ∧ line'.Holds c host := by
  have henough : data.length - f.position < line.machine.extent + 1 :=
    Nat.lt_succ_of_le ((Nat.sub_le _ _).trans (Machine.length_le_extent h.opened hdata))
  exact runOn_readRest suite thread h hs hkey hdata hopen hchunk henough []

end Reading

/-- A stream is closed without the engine. -/
lemma runOn_close (suite : CipherSuite) (thread : Thread) (hs : s.isMounted = true)
    (hopen : f.closed = false) (line : Timeline) :
    (close s).runOn suite thread f line
      = ((.ok (), { f with handle := { f.handle with valid := false }, closed := true }), line) := by
  have hclose : (s.close f.handle).runOn suite thread line
      = (.ok { f.handle with valid := false }, line) := by
    rw [Session.close, Call.require_bind hs]
    rfl
  have hrest : (close s).runOn suite thread f line
      = (do
          let handle ← within (s.close f.handle)
          set { f with handle := handle, closed := true } : StreamCall Unit).runOn suite thread f
        line := by
    show (if f.closed then _ else _ : StreamCall Unit).runOn suite thread f line = _
    rw [hopen]
    rfl
  refine hrest.trans ((StreamCall.runOn_within_bind suite thread f line (s.close f.handle)
    _).trans ?_)
  rw [hclose]
  rfl

end FileStream

end Strongbox
