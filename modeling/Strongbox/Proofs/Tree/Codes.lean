import Strongbox.Proofs.Tree.Lookup
import Strongbox.Tree.Change

/-!
# The numbers of failures

The reply to a request tells of a failure by its negated error number.  So that nobody takes a
failure for a success, no failure may have the number zero.

* `Numbered` — a failure has an error number.
* **`Change.numbered_resolve`**, **`Change.numbered_apply`** — so has every change that fails.
* `Tree.numbered_getattr`, `Tree.numbered_readdir`, `Tree.numbered_read` — and every look that does.
-/

namespace Strongbox

/-- A failure, if it is one, has an error number. -/
def Numbered {α : Type} (outcome : Except Errno α) : Prop :=
  ∀ code : Errno, outcome = .error code → 0 < code.number

section Steps

variable {α β : Type}

lemma numbered_ok (value : α) : Numbered (.ok value) := by
  intro code h
  cases h

lemma numbered_error {code : Errno} (h : 0 < code.number) :
    Numbered (.error code : Except Errno α) := by
  rintro other ⟨rfl⟩
  exact h

lemma Numbered.bind {x : Except Errno α} {f : α → Except Errno β} (hx : Numbered x)
    (hf : ∀ value, Numbered (f value)) : Numbered (x >>= f) := by
  cases x with
  | error code => exact numbered_error (hx code rfl)
  | ok value => exact hf value

lemma numbered_ite {c : Prop} [Decidable c] {x y : Except Errno α} (hx : Numbered x)
    (hy : Numbered y) : Numbered (if c then x else y) := by
  split
  · exact hx
  · exact hy

/-- A check that may stop the work with an error number. -/
lemma numbered_guard {c : Prop} [Decidable c] {code : Errno} {f : α → Except Errno β}
    {rest : Except Errno β} (hcode : 0 < code.number) (hrest : Numbered rest) :
    Numbered (if c then (.error code : Except Errno α) >>= f else rest) :=
  numbered_ite (numbered_error hcode) hrest

end Steps

/-! ## Paths -/

lemma Key.numbered_normalize (path : String) : Numbered (normalize path) :=
  numbered_ite (numbered_error (by decide))
    (numbered_ite (numbered_error (by decide)) (numbered_ok _))

/-- A change whose paths have no keys fails with an error number. -/
theorem Change.numbered_resolve (change : Change) : Numbered change.resolve := by
  cases change with
  | link source target | rename source target =>
      exact (Key.numbered_normalize source).bind fun _ =>
        (Key.numbered_normalize target).bind fun _ => numbered_ok _
  | _ => exact (Key.numbered_normalize _).bind fun _ => numbered_ok _

namespace Tree

variable (t : Tree) (stamp : Stamp) (key : String)

/-! ## Finding nodes -/

lemma numbered_lookup : Numbered (t.lookup key) := by
  unfold lookup missing
  split
  · exact numbered_ok _
  · refine numbered_error ?_
    split
    · decide
    · split
      · decide
      · split <;> decide

lemma numbered_inode (ino : Nat) : Numbered (t.inode ino) := by
  unfold Tree.inode
  split
  · exact numbered_ok _
  · exact numbered_error (by decide)

lemma numbered_node : Numbered (t.node key) :=
  (t.numbered_lookup key).bind fun ino => t.numbered_inode ino

lemma numbered_requireParent : Numbered (t.requireParent key) := by
  unfold requireParent
  split
  · exact numbered_error (by decide)
  · next parent _ =>
      exact (t.numbered_node parent).bind fun _ =>
        numbered_ite (numbered_ok _) (numbered_error (by decide))

lemma numbered_fileData : Numbered (t.fileData key) := by
  refine (t.numbered_lookup key).bind fun ino => (t.numbered_inode ino).bind fun inode => ?_
  cases inode.kind with
  | file data => exact numbered_ok _
  | directory | symlink => exact numbered_error (by decide)

/-! ## Looking -/

theorem numbered_getattr : Numbered (t.getattr key) :=
  (t.numbered_lookup key).bind fun ino => (t.numbered_inode ino).bind fun _ => numbered_ok _

theorem numbered_readdir : Numbered (t.readdir key) :=
  (t.numbered_node key).bind fun _ => numbered_guard (by decide) (numbered_ok _)

theorem numbered_read (count offset : Nat) : Numbered (t.read key count offset) :=
  (t.numbered_fileData key).bind fun _ =>
    numbered_ite (numbered_ok _) (numbered_ite (numbered_error (by decide)) (numbered_ok _))

theorem numbered_access (mode : AccessMode) : Numbered (t.access key mode) :=
  (t.numbered_node key).bind fun _ => numbered_ite (numbered_ok _) (numbered_error (by decide))

/-! ## Changing -/

lemma numbered_insertNode (inode : Inode) : Numbered (t.insertNode stamp key inode) :=
  numbered_ite (numbered_error (by decide))
    ((t.numbered_requireParent key).bind fun _ => numbered_ok _)

lemma numbered_link (source target : String) : Numbered (t.link stamp source target) := by
  refine (t.numbered_lookup source).bind fun ino => (t.numbered_inode ino).bind fun _ => ?_
  refine numbered_guard (by decide) (numbered_guard (by decide) ?_)
  exact (t.numbered_requireParent target).bind fun _ => numbered_ok _

lemma numbered_unlink : Numbered (t.unlink stamp key) :=
  (t.numbered_lookup key).bind fun ino => (t.numbered_inode ino).bind fun _ =>
    numbered_guard (by decide) (numbered_ok _)

lemma numbered_rmdir : Numbered (t.rmdir stamp key) := by
  refine numbered_ite (numbered_error (by decide)) ?_
  refine (t.numbered_lookup key).bind fun ino => (t.numbered_inode ino).bind fun _ => ?_
  exact numbered_guard (by decide) (numbered_guard (by decide) (numbered_ok _))

lemma numbered_displace (movingDir : Bool) (existing : Nat) :
    Numbered (t.displace stamp movingDir key existing) :=
  (t.numbered_node key).bind fun _ =>
    numbered_ite (numbered_error (by decide)) (numbered_ite (numbered_error (by decide))
      (numbered_ite (numbered_error (by decide)) (numbered_ok _)))

lemma numbered_rename (source target : String) : Numbered (t.rename stamp source target) := by
  refine (t.numbered_lookup source).bind fun ino => ?_
  refine numbered_ite (numbered_ok _) (numbered_ite (numbered_error (by decide))
    (numbered_ite (numbered_error (by decide)) ?_))
  refine (t.numbered_requireParent target).bind fun _ => (t.numbered_node source).bind fun _ => ?_
  split
  · exact numbered_ok _
  · exact numbered_ite (numbered_ok _)
      ((t.numbered_displace stamp target _ _).bind fun _ => numbered_ok _)

lemma numbered_openFile (flags : OpenFlags) : Numbered (t.openFile stamp key flags) := by
  refine (t.numbered_lookup key).bind fun ino => (t.numbered_inode ino).bind fun inode => ?_
  cases inode.kind with
  | directory => exact numbered_ite (numbered_error (by decide)) (numbered_ok _)
  | file data => exact numbered_ite (numbered_ok _) (numbered_ok _)
  | symlink target => exact numbered_ok _

end Tree

/-- A change that cannot be carried out fails with an error number. -/
theorem Change.numbered_apply (stamp : Stamp) (t : Tree) (change : Change) :
    Numbered (change.apply stamp t) := by
  cases change with
  | create key | mkdir key | symlink _ key => exact t.numbered_insertNode stamp key _
  | link source target => exact t.numbered_link stamp source target
  | unlink key => exact t.numbered_unlink stamp key
  | rmdir key => exact t.numbered_rmdir stamp key
  | rename source target => exact t.numbered_rename stamp source target
  | openFile key flags => exact t.numbered_openFile stamp key flags
  | write key | truncate key =>
      exact (t.numbered_fileData key).bind fun _ => numbered_guard (by decide) (numbered_ok _)
  | chmod key | utimens key =>
      exact (t.numbered_lookup key).bind fun ino => (t.numbered_inode ino).bind fun _ =>
        numbered_ok _

end Strongbox
