import Mathlib.Data.List.Basic
import Strongbox.Proofs.Tree.Reachable

/-!
# What files hold

The operations on the content of a regular file, in terms of the bytes that it holds.

* `Tree.overwritten` — bytes with others in place of some of them, behind zeros where there is a gap.
* `Tree.read_of_fileData`, `Tree.write_of_fileData`, `Tree.truncate_of_fileData`,
  `Tree.openFile_of_fileData` — reading and changing a file.
* `Tree.fileData_modify` — what a file holds after another one, or the same one, was changed.
-/

namespace Strongbox.Tree

variable {t t' : Tree} {stamp : Stamp} {key other : String} {ino : Nat} {data : Bytes}

/-! ## Bytes -/

/-- Bytes with a buffer in place of those from a position on.  A gap before it is filled with
zeros. -/
def overwritten (data buffer : Bytes) (position : Nat) : Bytes :=
  data.take position ++ List.replicate (position - data.length) 0 ++ buffer
    ++ data.drop (position + buffer.length)

/-- Bytes cut to a length, or with zeros behind them up to it. -/
def resized (data : Bytes) (length : Nat) : Bytes :=
  data.take length ++ List.replicate (length - data.length) 0

lemma splice_eq (data buffer : Bytes) (position : Nat) :
    splice data buffer position = overwritten data buffer position := by
  have htake : (extend data (position + buffer.length)).take position
      = data.take position ++ List.replicate (position - data.length) 0 := by
    rw [extend, List.take_append, List.take_replicate]
    congr 2
    omega
  have hdrop : (extend data (position + buffer.length)).drop (position + buffer.length)
      = data.drop (position + buffer.length) := by
    rw [extend, List.drop_append, List.drop_replicate]
    simp
  rw [splice, overwritten, htake, hdrop]

lemma take_extend (data : Bytes) (length : Nat) :
    (extend data length).take length = resized data length := by
  rw [extend, resized, List.take_append, List.take_replicate]
  congr 2
  omega

/-- At the end there is nothing to replace. -/
lemma overwritten_length (data buffer : Bytes) :
    overwritten data buffer data.length = data ++ buffer := by
  simp [overwritten]

lemma length_overwritten (data buffer : Bytes) (position : Nat) :
    (overwritten data buffer position).length = max data.length (position + buffer.length) := by
  rw [← splice_eq, length_splice]

/-- A buffer may be put in its place in two pieces, one behind the other. -/
lemma overwritten_append (data first rest : Bytes) (position : Nat) :
    overwritten (overwritten data first position) rest (position + first.length)
      = overwritten data (first ++ rest) position := by
  have hfront : (data.take position ++ List.replicate (position - data.length) 0 ++ first).length
      = position + first.length := by
    simp only [List.length_append, List.length_take, List.length_replicate]
    omega
  have htake : (overwritten data first position).take (position + first.length)
      = data.take position ++ List.replicate (position - data.length) 0 ++ first := by
    rw [overwritten, ← hfront, List.take_left]
  have hdrop : (overwritten data first position).drop (position + first.length + rest.length)
      = data.drop (position + (first ++ rest).length) := by
    rw [overwritten, ← List.drop_drop, ← hfront, List.drop_left, hfront, List.drop_drop,
      List.length_append, Nat.add_assoc]
  have hgap : position + first.length - (overwritten data first position).length = 0 :=
    Nat.sub_eq_zero_of_le (length_overwritten data first position ▸ le_max_right _ _)
  rw [overwritten, htake, hdrop, hgap, List.replicate_zero, List.append_nil, overwritten,
    List.append_assoc _ first rest]

lemma length_resized (data : Bytes) (length : Nat) : (resized data length).length = length := by
  simp only [resized, List.length_append, List.length_take, List.length_replicate]
  omega

/-! ## Regular files -/

lemma fileData_eq_ok : t.fileData key = .ok (ino, data)
    ↔ ∃ inode, t.entries[key]? = some ino ∧ t.inodes[ino]? = some inode
      ∧ inode.kind = .file data := by
  refine ⟨fileData_ok, fun ⟨inode, hkey, hinode, hkind⟩ => ?_⟩
  refine bind_eq_ok.2 ⟨ino, lookup_eq_ok.2 hkey, bind_eq_ok.2 ⟨inode, inode_eq_ok.2 hinode, ?_⟩⟩
  rw [hkind]

/-- The data of a regular file, by its number. -/
def contentOf (t : Tree) (ino : Nat) : Bytes :=
  t.inodes[ino]?.elim [] fun inode =>
    match inode.kind with
    | .file data => data
    | .directory | .symlink _ => []

lemma contentOf_of_fileData (h : t.fileData key = .ok (ino, data)) : t.contentOf ino = data := by
  obtain ⟨inode, -, hinode, hkind⟩ := fileData_ok h
  simp only [contentOf, hinode, Option.elim_some, hkind]

lemma fileData_setData {inode : Inode} (hkey : t.entries[key]? = some ino)
    (hinode : t.inodes[ino]? = some inode) (new : Bytes) :
    (t.modify ino (.setData stamp new)).fileData key = .ok (ino, new) := by
  refine fileData_eq_ok.2 ⟨inode.setData stamp new, hkey, ?_, rfl⟩
  rw [inodes_modify, if_pos rfl, hinode]
  rfl

/-- New data is held under every key of its inode, and no other inode is changed. -/
lemma fileData_modify (h : t.fileData key = .ok (ino, data)) (target : Nat) (new : Bytes) :
    (t.modify target (.setData stamp new)).fileData key
      = .ok (ino, if target = ino then new else data) := by
  obtain ⟨inode, hkey, hinode, hkind⟩ := fileData_ok h
  by_cases htarget : target = ino
  · subst htarget
    rw [if_pos rfl]
    exact fileData_setData hkey hinode new
  · rw [if_neg htarget]
    refine fileData_eq_ok.2 ⟨inode, hkey, ?_, hkind⟩
    rw [inodes_modify, if_neg htarget, hinode]

section Contents

variable (h : t.fileData key = .ok (ino, data))

include h

lemma read_of_fileData (count offset : Nat) :
    t.read key count offset = if count = 0 then .ok []
      else if data.length ≤ offset then .error .ioFailure
      else .ok ((data.drop offset).take count) := by
  rw [read, h]
  rfl

/-- A write keeps within the size that the store allows. -/
lemma write_of_fileData (buffer : Bytes) (offset : Nat) :
    t.write stamp key buffer offset = if maxFileSize < offset + buffer.length then .error .tooBig
      else .ok (t.modify ino (.setData stamp (overwritten data buffer offset))) := by
  rw [write, h, ← splice_eq]
  simp only [bind, Except.bind]

lemma truncate_of_fileData (length : Nat) :
    t.truncate stamp key length = if maxFileSize < length then .error .tooBig
      else .ok (t.modify ino (.setData stamp (resized data length))) := by
  rw [truncate, h, ← take_extend]
  simp only [bind, Except.bind]

/-- A file that is opened for writing loses its data, if that is asked for. -/
lemma openFile_of_fileData (flags : OpenFlags) :
    t.openFile stamp key flags = .ok (if flags.writes && flags.contains .truncate
      then t.modify ino (.setData stamp []) else t) := by
  obtain ⟨inode, hkey, hinode, hkind⟩ := fileData_ok h
  refine bind_eq_ok.2 ⟨ino, lookup_eq_ok.2 hkey, bind_eq_ok.2 ⟨inode, inode_eq_ok.2 hinode, ?_⟩⟩
  rw [hkind]
  dsimp only
  split <;> rfl

/-- The size of a file is the number of its bytes. -/
lemma getattr_of_fileData : ∃ stat, t.getattr key = .ok stat ∧ stat.size = data.length := by
  obtain ⟨inode, hkey, hinode, hkind⟩ := fileData_ok h
  refine ⟨_, bind_eq_ok.2 ⟨ino, lookup_eq_ok.2 hkey, bind_eq_ok.2 ⟨inode, inode_eq_ok.2 hinode,
    rfl⟩⟩, ?_⟩
  simp only [hkind, NodeKind.size]

end Contents

end Strongbox.Tree
