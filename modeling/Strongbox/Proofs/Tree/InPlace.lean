import Strongbox.Proofs.Tree.Lookup
import Strongbox.Tree.InPlace

/-!
# Operations in place leave no half-changed tree

Each operation of `Strongbox.Tree.Operations` gives a whole new tree or an error.  The engine works
on its tree in place, where an error could come too late.  It never does:

* `Edit.settle` — the outcome of all or nothing: the new tree, or an error and the old one.
* **`Change.perform_eq_settle`** — every change carried out in place settles to what `Change.apply`
  says it amounts to.

The proof runs each operation's checks on both sides.  `Edit.perform_bind` is the step from one
check to the next, and once the last check is passed only `modify` is left, which cannot fail.
-/

namespace Strongbox

namespace Edit

/-- All or nothing: the new tree, or an error and the old tree. -/
def settle (t : Tree) : Except Errno Tree → Except Errno Unit × Tree
  | .ok changed => (.ok (), changed)
  | .error code => (.error code, t)

/-! ## Running work step by step -/

section Perform

variable {α β : Type} (t : Tree)

@[simp] lemma perform_modify (change : Tree → Tree) :
    (modify change : Edit Unit).perform t = (.ok (), change t) := rfl

/-- Work goes on in the tree that was left, unless it has failed. -/
lemma perform_bind (work : Edit α) (next : α → Edit β) :
    (work >>= next).perform t = match work.perform t with
      | (.ok a, left) => (next a).perform left
      | (.error code, left) => (.error code, left) := by
  show (ExceptT.bindCont next (work.perform t).1).run (work.perform t).2 = _
  cases h : work.perform t with
  | mk outcome left => cases outcome <;> rfl

lemma perform_get_bind (next : Tree → Edit β) : (get >>= next).perform t = (next t).perform t := rfl

@[simp] lemma perform_look (question : Tree → Except Errno α) :
    (look question).perform t = (question t, t) := by
  rw [look, perform_get_bind]
  cases question t with
  | ok a => rfl
  | error code => rfl

end Perform

/-! ## Running both sides together -/

section Settle

variable {α : Type} {t : Tree}

/-- A question is asked on both sides, and both stop where it fails. -/
lemma settle_look {question : Tree → Except Errno α} {next : α → Edit Unit}
    {rest : α → Except Errno Tree}
    (h : ∀ a, question t = .ok a → (next a).perform t = settle t (rest a)) :
    (look question >>= next).perform t = settle t (question t >>= rest) := by
  rw [perform_bind, perform_look]
  cases hq : question t with
  | ok a => exact h a hq
  | error code => rfl

/-- Both sides take the same branch. -/
lemma settle_ite {c : Prop} [Decidable c] {yes no : Edit Unit} {yes' no' : Except Errno Tree}
    (hyes : c → yes.perform t = settle t yes') (hno : ¬c → no.perform t = settle t no') :
    (if c then yes else no).perform t = settle t (if c then yes' else no') := by
  by_cases h : c
  · simpa [h] using hyes h
  · simpa [h] using hno h

end Settle

/-! ## The operations -/

variable (t : Tree) (stamp : Stamp)

lemma insertNode_settle (key : String) (inode : Inode) :
    (insertNode stamp key inode).perform t = settle t (t.insertNode stamp key inode) := by
  rw [insertNode, Tree.insertNode]
  refine settle_ite (fun _ => rfl) fun _ => ?_
  exact settle_look fun _ _ => rfl

lemma link_settle (source target : String) :
    (link stamp source target).perform t = settle t (t.link stamp source target) := by
  rw [link, Tree.link]
  refine settle_look fun ino hino => ?_
  rw [← Tree.node_of_lookup hino]
  refine settle_look fun inode _ => ?_
  refine settle_ite (fun _ => rfl) fun _ => ?_
  refine settle_ite (fun _ => rfl) fun _ => ?_
  refine settle_look fun _ _ => ?_
  show (Except.ok (), Tree.touchParent stamp target ((Tree.modify _ _ _).modify _ _)) = _
  rw [Tree.modify_modify]
  rfl

lemma unlink_settle (key : String) :
    (unlink stamp key).perform t = settle t (t.unlink stamp key) := by
  rw [unlink, Tree.unlink]
  refine settle_look fun ino hino => ?_
  rw [← Tree.node_of_lookup hino]
  refine settle_look fun inode _ => ?_
  exact settle_ite (fun _ => rfl) fun _ => rfl

lemma rmdir_settle (key : String) :
    (rmdir stamp key).perform t = settle t (t.rmdir stamp key) := by
  rw [rmdir, Tree.rmdir]
  refine settle_ite (fun _ => rfl) fun _ => ?_
  refine settle_look fun ino hino => ?_
  rw [← Tree.node_of_lookup hino]
  refine settle_look fun inode _ => ?_
  refine settle_ite (fun _ => rfl) fun _ => ?_
  exact settle_ite (fun _ => rfl) fun _ => rfl

lemma displace_settle (movingDir : Bool) (target : String) (existing : Nat) :
    (displace stamp movingDir target existing).perform t
      = settle t (t.displace stamp movingDir target existing) := by
  rw [displace, Tree.displace]
  refine settle_look fun inode _ => ?_
  refine settle_ite (fun _ => rfl) fun _ => ?_
  refine settle_ite (fun _ => rfl) fun _ => ?_
  exact settle_ite (fun _ => rfl) fun _ => rfl

/-- Moving the entries one after the other moves them all. -/
lemma perform_forM_moveEntry (source target : String) (keys : List String) :
    (keys.forM fun key => (modify fun t =>
        { t with entries := Tree.moveEntry source target t.entries key } : Edit Unit)).perform t
      = (.ok (), { t with entries := keys.foldl (Tree.moveEntry source target) t.entries }) := by
  induction keys generalizing t with
  | nil => rfl
  | cons key keys ih =>
      show Edit.perform (modify _ >>= fun _ => keys.forM _) t = _
      rw [perform_bind, perform_modify]
      exact ih _

lemma relocate_settle (movingDir : Bool) (ino : Nat) (source target : String) :
    (relocate stamp movingDir ino source target).perform t
      = settle t (.ok (t.relocate stamp movingDir ino source target)) := by
  rw [relocate, perform_get_bind, perform_bind, perform_forM_moveEntry]
  rfl

lemma rename_settle (source target : String) :
    (rename stamp source target).perform t = settle t (t.rename stamp source target) := by
  rw [rename, Tree.rename]
  refine settle_look fun ino _ => ?_
  refine settle_ite (fun _ => rfl) fun _ => ?_
  refine settle_ite (fun _ => rfl) fun _ => ?_
  refine settle_ite (fun _ => rfl) fun _ => ?_
  refine settle_look fun _ _ => ?_
  refine settle_look fun inode _ => ?_
  rw [perform_get_bind]
  cases t.entries[target]? with
  | none => exact relocate_settle t stamp inode.isDir ino source target
  | some existing =>
      refine settle_ite (fun _ => rfl) fun _ => ?_
      show Edit.perform (_ >>= fun _ => _) t = _
      rw [perform_bind, displace_settle]
      cases t.displace stamp inode.isDir target existing with
      | error code => rfl
      | ok cleared => exact relocate_settle cleared stamp inode.isDir ino source target

lemma openFile_settle (key : String) (flags : OpenFlags) :
    (openFile stamp key flags).perform t = settle t (t.openFile stamp key flags) := by
  rw [openFile, Tree.openFile]
  refine settle_look fun ino _ => ?_
  refine settle_look fun inode _ => ?_
  cases inode.kind with
  | directory => exact settle_ite (fun _ => rfl) fun _ => rfl
  | symlink target => rfl
  | file data =>
      refine settle_ite (fun _ => ?_) fun _ => rfl
      show (Except.ok (), (Tree.modify _ _ _).modify _ _) = _
      rw [Tree.modify_modify]
      rfl

lemma write_settle (key : String) (buffer : Bytes) (offset : Nat) :
    (write stamp key buffer offset).perform t = settle t (t.write stamp key buffer offset) := by
  rw [write, Tree.write]
  refine settle_look fun found _ => ?_
  refine settle_ite (fun _ => rfl) fun _ => ?_
  show (Except.ok (), ((Tree.modify _ _ _).modify _ _).modify _ _) = _
  rw [Tree.modify_modify, Tree.modify_modify]
  rfl

lemma truncate_settle (key : String) (length : Nat) :
    (truncate stamp key length).perform t = settle t (t.truncate stamp key length) := by
  rw [truncate, Tree.truncate]
  refine settle_look fun found _ => ?_
  refine settle_ite (fun _ => rfl) fun _ => ?_
  show (Except.ok (), (Tree.modify _ _ _).modify _ _) = _
  rw [Tree.modify_modify]
  rfl

lemma chmod_settle (key : String) (mode : Nat) :
    (chmod stamp key mode).perform t = settle t (t.chmod stamp key mode) := by
  rw [chmod, Tree.chmod]
  refine settle_look fun ino _ => ?_
  refine settle_look fun inode _ => ?_
  show (Except.ok (), (Tree.modify _ _ _).modify _ _) = _
  rw [Tree.modify_modify]
  rfl

lemma utimens_settle (key : String) (atime mtime : Option Time) :
    (utimens stamp key atime mtime).perform t = settle t (t.utimens stamp key atime mtime) := by
  rw [utimens, Tree.utimens]
  refine settle_look fun ino _ => ?_
  refine settle_look fun inode _ => ?_
  show (Except.ok (), ((Tree.modify _ _ _).modify _ _).modify _ _) = _
  rw [Tree.modify_modify, Tree.modify_modify]
  rfl

end Edit

/-- **A change in place is all or nothing.**  It leaves the tree that `Change.apply` makes, or gives
the same error and leaves the tree exactly as it was. -/
theorem Change.perform_eq_settle (stamp : Stamp) (change : Change) (t : Tree) :
    change.perform stamp t = Edit.settle t (change.apply stamp t) := by
  cases change with
  | create key mode => exact Edit.insertNode_settle t stamp key _
  | mkdir key mode => exact Edit.insertNode_settle t stamp key _
  | symlink target key => exact Edit.insertNode_settle t stamp key _
  | link source target => exact Edit.link_settle t stamp source target
  | unlink key => exact Edit.unlink_settle t stamp key
  | rmdir key => exact Edit.rmdir_settle t stamp key
  | rename source target => exact Edit.rename_settle t stamp source target
  | openFile key flags => exact Edit.openFile_settle t stamp key flags
  | write key buffer offset => exact Edit.write_settle t stamp key buffer offset
  | truncate key length => exact Edit.truncate_settle t stamp key length
  | chmod key mode => exact Edit.chmod_settle t stamp key mode
  | utimens key atime mtime => exact Edit.utimens_settle t stamp key atime mtime

end Strongbox
