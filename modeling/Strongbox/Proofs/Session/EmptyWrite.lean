import Strongbox.Proofs.Engine.Genuine
import Strongbox.Proofs.Session.StreamRun
import Strongbox.Proofs.Tree.Files

/-!
# Writing nothing

A program writes at the cursor of a stream, or it writes at a position of its own choice.  With the
same position the two should not differ, and they do not as long as there is something to write.  A
stream has nothing to ask for where its buffer is empty.  A write at a position asks the engine all
the same, and the engine fills the file with zeros up to that position before it looks at the buffer.

* `Tree.SameFiles` — two trees have the same files with the same bytes.
* `Tree.Refilled` — one file has other bytes than before, and no other file has.
* `Tree.overwritten_nil` — what a write of no bytes makes of a file.
* **`FileStream.write_and_pwrite`** — the two ways of writing, compared.
-/

namespace Strongbox

/-! ## Trees with the same files -/

namespace Tree

variable {t t₁ t₂ : Tree} {key : String} {ino : Nat} {data new new₁ new₂ : Bytes}

/-- Under every key, two trees have the same file with the same bytes, and so with the same size, or
neither of them has a file there. -/
def SameFiles (t t' : Tree) : Prop :=
  ∀ key ino data, t.fileData key = .ok (ino, data) ↔ t'.fileData key = .ok (ino, data)

/-- A file has new bytes under all its keys, and all other files have the bytes that they had. -/
def Refilled (t : Tree) (ino : Nat) (new : Bytes) (t' : Tree) : Prop :=
  ∀ key number bytes, t'.fileData key = .ok (number, bytes)
    ↔ ∃ old, t.fileData key = .ok (number, old) ∧ bytes = if number = ino then new else old

/-- A file holds one list of bytes, whatever key leads to it. -/
lemma eq_of_fileData {other : String} {bytes : Bytes} (h : t.fileData key = .ok (ino, data))
    (h' : t.fileData other = .ok (ino, bytes)) : bytes = data :=
  (contentOf_of_fileData h').symm.trans (contentOf_of_fileData h)

/-- A tree that is left alone keeps the bytes of each file. -/
lemma refilled_self (h : t.fileData key = .ok (ino, data)) : t.Refilled ino data t := by
  intro other number bytes
  constructor
  · intro hother
    refine ⟨bytes, hother, ?_⟩
    split
    · next hnumber => exact eq_of_fileData h (hnumber ▸ hother)
    · rfl
  · rintro ⟨old, hother, rfl⟩
    split
    · next hnumber => rwa [← eq_of_fileData h (hnumber ▸ hother)]
    · exact hother

lemma refilled_setData (h : t.fileData key = .ok (ino, data)) (stamp : Stamp) (new : Bytes) :
    t.Refilled ino new (t.modify ino (.setData stamp new)) := by
  obtain ⟨inode, -, hinode, hkind⟩ := fileData_ok h
  intro other number bytes
  simp only [fileData_iff_kind, entries_modify, inodes_modify]
  by_cases hnumber : ino = number
  · subst hnumber
    simp only [hinode, Option.map_some, hkind]
    constructor
    · rintro ⟨hother, hbytes⟩
      exact ⟨data, ⟨hother, rfl⟩, (NodeKind.file.inj (Option.some.inj hbytes)).symm⟩
    · rintro ⟨old, ⟨hother, -⟩, rfl⟩
      exact ⟨hother, rfl⟩
  · simp only [if_neg hnumber, if_neg (Ne.symm hnumber)]
    exact ⟨fun hbytes => ⟨bytes, hbytes, rfl⟩, fun ⟨old, hold, hsame⟩ => hsame ▸ hold⟩

/-- New bytes are found under the key of the file. -/
lemma Refilled.fileData (h : t.Refilled ino new t₁) (hfile : t.fileData key = .ok (ino, data)) :
    t₁.fileData key = .ok (ino, new) :=
  (h key ino new).2 ⟨data, hfile, (if_pos rfl).symm⟩

/-- Two ways to fill one file leave the same files exactly if they fill it with the same bytes. -/
lemma Refilled.sameFiles_iff (h₁ : t.Refilled ino new₁ t₁) (h₂ : t.Refilled ino new₂ t₂)
    (hfile : t.fileData key = .ok (ino, data)) : t₁.SameFiles t₂ ↔ new₁ = new₂ := by
  constructor
  · intro hsame
    have hnew := (hsame key ino new₁).1 (h₁.fileData hfile)
    exact congrArg Prod.snd (Except.ok.inj (hnew.symm.trans (h₂.fileData hfile)))
  · rintro rfl other number bytes
    exact (h₁ other number bytes).trans (h₂ other number bytes).symm

/-- Nothing is put in place of no bytes, but a gap before them is filled. -/
lemma overwritten_nil (data : Bytes) (position : Nat) :
    overwritten data [] position = data ++ List.replicate (position - data.length) 0 := by
  rw [overwritten, List.append_nil, List.length_nil, Nat.add_zero]
  obtain hinside | hbehind := Nat.le_total position data.length
  · rw [Nat.sub_eq_zero_of_le hinside, List.replicate_zero, List.append_nil, List.append_nil,
      List.take_append_drop]
  · rw [List.take_of_length_le hbehind, List.drop_of_length_le hbehind, List.append_nil]

/-- A file keeps its bytes exactly if there is no gap. -/
lemma eq_overwritten_nil_iff {position : Nat} :
    data = overwritten data [] position ↔ position ≤ data.length := by
  rw [overwritten_nil, List.self_eq_append_right, List.replicate_eq_nil_iff,
    Nat.sub_eq_zero_iff_le]

end Tree

/-! ## Two ways to write -/

namespace FileStream

/-- A run that begins with nothing open and leaves an empty file. -/
lemma exists_empty_file : ∃ (line : Timeline) (c : OpenContainer),
    line.machine.Genuine .standard ∧ line.Holds c line.machine.host
      ∧ c.tree.fileData "/f" = .ok (2, []) := by
  let moment : Moment := ⟨⟨.epoch, 0, 0⟩, [], .ofNat 0, none⟩
  suffices h : ∃ m : Machine, m.Genuine .standard ∧ ∃ c ∈ m.engine.opened,
      c.tree.fileData "/f" = .ok (2, []) by
    obtain ⟨m, hm, c, hopen, hfile⟩ := h
    exact ⟨⟨m, fun _ => moment, 0⟩, c, hm, ⟨hopen, rfl⟩, hfile⟩
  have opened : Machine.Genuine .standard _ :=
    .call (.start .standard (.bare ⟨4096, 0, 0, 0, 0, 255⟩ "/")) moment mainThread
      (.openContainer "/box" (.key (List.replicate 32 0))) (by decide +kernel)
  have made : Machine.Genuine .standard _ :=
    .call opened moment mainThread (.change (.create "/f" 0o644)) rfl
  exact ⟨_, made, by decide +kernel⟩

section Writes

variable (suite : CipherSuite) (thread : Thread) {line : Timeline} {c : OpenContainer} {host : Host}
  {s : Session} {f : FileStream} {key : String} {ino : Nat} {data buffer : Bytes}
  (h : line.Holds c host) (hs : s.isMounted = true) (hopen : f.closed = false)
  (happend : f.append = false) (hkey : Key.normalize f.handle.path = .ok key)
  (hdata : c.tree.fileData key = .ok (ino, data))

include h hs hopen happend hkey hdata

/-- A stream that does not append writes from its cursor on. -/
lemma runOn_write_at (buffer : Bytes) :
    ∃ line', (FileStream.write s buffer).runOn suite thread f line
        = (writeRest s 0 buffer).runOn suite thread f line'
      ∧ line'.Holds c host := by
  obtain ⟨line', hrun, hline'⟩ := runOn_write suite thread h hs hkey hdata hopen buffer
  rw [if_neg (ne_true_of_eq_false happend)] at hrun
  exact ⟨line', hrun, hline'⟩

/-- A stream with nothing to write asks for nothing. -/
lemma runOn_write_nil :
    ∃ line', (FileStream.write s []).runOn suite thread f line = ((.ok 0, f), line')
      ∧ line'.Holds c host := by
  obtain ⟨line', hrun, hline'⟩ := runOn_write_at suite thread h hs hopen happend hkey hdata []
  rw [writeRest] at hrun
  exact ⟨line', hrun, hline'⟩

/-- A stream writes any buffer, and fills the file unless the buffer is empty. -/
lemma runOn_write_filling (hfits : f.position + buffer.length ≤ maxFileSize) :
    ∃ line' c', (FileStream.write s buffer).runOn suite thread f line
        = ((.ok buffer.length, { f with position := f.position + buffer.length }), line')
      ∧ line'.Holds c' host
      ∧ c.tree.Refilled ino
        (if buffer = [] then data else Tree.overwritten data buffer f.position) c'.tree
      ∧ (buffer = [] → c' = c) := by
  by_cases hbuffer : buffer = []
  · subst hbuffer
    obtain ⟨line', hrun, hline'⟩ := runOn_write_nil suite thread h hs hopen happend hkey hdata
    exact ⟨line', c, hrun, hline', Tree.refilled_self hdata, fun _ => rfl⟩
  · obtain ⟨line₁, hstart, hline₁⟩ :=
      runOn_write_at suite thread h hs hopen happend hkey hdata buffer
    obtain ⟨line', hrun, hline'⟩ := runOn_writeRest suite thread hline₁ hs hkey hdata hbuffer hfits
    rw [if_neg hbuffer]
    exact ⟨line', _, hstart.trans hrun, hline', Tree.refilled_setData hdata _ _,
      fun hnil => absurd hnil hbuffer⟩

/-- **Writing at the cursor and writing at a position** give the same number, and leave the same
files with the same bytes, exactly if there is something to write or the position is not behind the
end of the file.  A stream that writes nothing leaves everything as it is.  A write of nothing at a
position behind the end lets the file grow with zeros up to there. -/
theorem write_and_pwrite (buffer : Bytes) (hfits : f.position + buffer.length ≤ maxFileSize) :
    ∃ written placed c₁ c₂,
      (FileStream.write s buffer).runOn suite thread f line
        = ((.ok buffer.length, { f with position := f.position + buffer.length }), written)
      ∧ written.Holds c₁ host
      ∧ (s.pwrite f.handle buffer f.position).runOn suite thread line
        = (.ok buffer.length, placed)
      ∧ placed.Holds c₂ host
      ∧ c.tree.Refilled ino (Tree.overwritten data buffer f.position) c₂.tree
      ∧ (c₁.tree.SameFiles c₂.tree ↔ buffer ≠ [] ∨ f.position ≤ data.length)
      ∧ (buffer = [] → c₁ = c ∧ (c.tree.SameFiles c₂.tree ↔ f.position ≤ data.length)
        ∧ c₂.tree.fileData key
          = .ok (ino, data ++ List.replicate (f.position - data.length) 0)) := by
  obtain ⟨written, c₁, hwrite, hwritten, hfilled₁, hsame⟩ :=
    runOn_write_filling suite thread h hs hopen happend hkey hdata hfits
  obtain ⟨placed, hpwrite, hplaced⟩ := runOn_pwrite suite thread h hs hkey hdata hfits
  have hfilled₂ := Tree.refilled_setData hdata line.moment.stamp
    (Tree.overwritten data buffer f.position)
  refine ⟨written, placed, c₁, _, hwrite, hwritten, hpwrite, hplaced, hfilled₂, ?_, ?_⟩
  · rw [hfilled₁.sameFiles_iff hfilled₂ hdata]
    by_cases hbuffer : buffer = []
    · subst hbuffer
      rw [if_pos rfl, Tree.eq_overwritten_nil_iff]
      exact (or_iff_right (not_not_intro rfl)).symm
    · rw [if_neg hbuffer]
      exact iff_of_true rfl (Or.inl hbuffer)
  · rintro rfl
    refine ⟨hsame rfl, ?_, ?_⟩
    · rw [(Tree.refilled_self hdata).sameFiles_iff hfilled₂ hdata, Tree.eq_overwritten_nil_iff]
    · rw [← Tree.overwritten_nil]
      exact hfilled₂.fileData hdata

end Writes

/-- A byte that is written behind the end of a file gets there in both ways. -/
theorem write_and_pwrite_in_gap :
    ∃ (line written placed : Timeline) (s : Session) (f : FileStream) (c c₁ c₂ : OpenContainer)
      (host : Host), s.isMounted = true ∧ line.Holds c host
        ∧ (FileStream.write s [7]).runOn .standard mainThread f line
          = ((.ok 1, { f with position := 6 }), written) ∧ written.Holds c₁ host
        ∧ (s.pwrite f.handle [7] 5).runOn .standard mainThread line = (.ok 1, placed)
        ∧ placed.Holds c₂ host ∧ c₁.tree.SameFiles c₂.tree
        ∧ c₂.tree.fileData "/f" = .ok (2, [0, 0, 0, 0, 0, 7]) := by
  obtain ⟨line, c, -, hline, hfile⟩ := exists_empty_file
  let s : Session := ⟨some "/box", some ⟨1⟩⟩
  have hs : s.isMounted = true := rfl
  let f : FileStream := ⟨.ofPath "/f", 5, false, false⟩
  obtain ⟨written, placed, c₁, c₂, hwrite, hwritten, hpwrite, hplaced, hfilled, hsame, -⟩ :=
    write_and_pwrite .standard mainThread hline hs (rfl : f.closed = false) rfl
      (rfl : Key.normalize "/f" = .ok "/f") hfile [7] (by decide)
  exact ⟨line, written, placed, s, f, c, c₁, c₂, _, hs, hline, hwrite, hwritten, hpwrite, hplaced,
    hsame.2 (Or.inl (List.cons_ne_nil _ _)), hfilled.fileData hfile⟩

/-- Five zeros are added to an empty file by a write of nothing, and a stream adds none. -/
theorem grown_by_nothing :
    ∃ (line written placed : Timeline) (s : Session) (f : FileStream) (c c' : OpenContainer),
      line.machine.Genuine .standard ∧ s.isMounted = true ∧ line.Holds c line.machine.host
        ∧ f.closed = false ∧ f.append = false ∧ f.position + ([] : Bytes).length ≤ maxFileSize
        ∧ (FileStream.write s []).runOn .standard mainThread f line = ((.ok 0, f), written)
        ∧ written.Holds c line.machine.host ∧ c.tree.fileData "/f" = .ok (2, [])
        ∧ (s.pwrite f.handle [] f.position).runOn .standard mainThread line = (.ok 0, placed)
        ∧ placed.Holds c' line.machine.host
        ∧ c'.tree.fileData "/f" = .ok (2, [0, 0, 0, 0, 0]) := by
  obtain ⟨line, c, hgenuine, hline, hfile⟩ := exists_empty_file
  let s : Session := ⟨some "/box", some ⟨1⟩⟩
  have hs : s.isMounted = true := rfl
  let f : FileStream := ⟨.ofPath "/f", 5, false, false⟩
  obtain ⟨written, hwrite, hwritten⟩ :=
    runOn_write_nil .standard mainThread hline hs (rfl : f.closed = false) rfl
      (rfl : Key.normalize "/f" = .ok "/f") hfile
  obtain ⟨placed, hpwrite, hplaced⟩ :=
    runOn_pwrite .standard mainThread (f := f) hline hs (rfl : Key.normalize "/f" = .ok "/f") hfile
      (show 5 + ([] : Bytes).length ≤ maxFileSize by decide)
  exact ⟨line, written, placed, s, f, c, _, hgenuine, hs, hline, rfl, rfl, by decide, hwrite,
    hwritten, hfile, hpwrite, hplaced, (Tree.refilled_setData hfile _ _).fileData hfile⟩

end FileStream

end Strongbox
