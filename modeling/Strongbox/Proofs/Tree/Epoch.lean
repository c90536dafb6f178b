import Strongbox.Proofs.Tree.Operations
import Strongbox.Proofs.Tree.Payload
import Strongbox.Tree.Change

/-!
# Times from the epoch on

A payload has no form for a time before the epoch, so a tree that holds one cannot be written.  Such
a time enters a tree in two ways only: a change is asked to set it, or the clock reads it.

* `Tree.SinceEpoch` — no time in a tree lies before the epoch.
* `Tree.exists_encode` — such a tree has a payload, and `Tree.SinceEpoch.of_encode` says that no
  other has one.
* `Change.SinceEpoch` — a change that is not asked to set a time before the epoch.
* **`Tree.SinceEpoch.apply`** — neither the change nor the clock brings one in.
* **`Tree.SinceEpoch.of_decode`** — nor does a payload, whoever wrote it.
-/

namespace Strongbox

/-! ## Inodes -/

namespace Inode

variable {inode : Inode} {stamp : Stamp}

lemma SinceEpoch.fresh (hclock : stamp.now.beforeEpoch = false) (kind : NodeKind) (mode : Nat) :
    (Inode.fresh stamp kind mode).SinceEpoch :=
  ⟨hclock, hclock, hclock⟩

lemma SinceEpoch.touchModified (h : inode.SinceEpoch) (hclock : stamp.now.beforeEpoch = false) :
    (inode.touchModified stamp).SinceEpoch :=
  ⟨h.1, hclock, hclock⟩

lemma SinceEpoch.setData (h : inode.SinceEpoch) (hclock : stamp.now.beforeEpoch = false)
    (data : Bytes) : (inode.setData stamp data).SinceEpoch :=
  ⟨h.1, hclock, hclock⟩

lemma SinceEpoch.touchChanged (h : inode.SinceEpoch) (hclock : stamp.now.beforeEpoch = false) :
    (inode.touchChanged stamp).SinceEpoch :=
  ⟨h.1, h.2.1, hclock⟩

end Inode

/-! ## Small changes -/

namespace Tree

variable {t t' : Tree} {stamp : Stamp} {key source target : String} {ino : Nat}

/-- No time in a tree lies before the epoch. -/
structure SinceEpoch (t : Tree) : Prop where
  inode : ∀ {ino : Nat} {inode : Inode}, t.inodes[ino]? = some inode → inode.SinceEpoch

lemma sinceEpoch_iff : t.SinceEpoch ↔ t.timesRepresentable = true :=
  ⟨fun h => timesRepresentable_iff.2 h.inode, fun h => ⟨timesRepresentable_iff.1 h⟩⟩

instance (t : Tree) : Decidable t.SinceEpoch :=
  decidable_of_iff _ sinceEpoch_iff.symm

/-- A tree without times before the epoch has a payload. -/
lemma exists_encode (h : t.SinceEpoch) : ∃ payload, t.encode = some payload :=
  ⟨_, if_pos (sinceEpoch_iff.1 h)⟩

namespace SinceEpoch

/-- No other tree has a payload. -/
lemma of_encode {payload : Bytes} (h : t.encode = some payload) : t.SinceEpoch := by
  unfold encode at h
  split at h
  · next htimes => exact sinceEpoch_iff.2 htimes
  · cases h

lemma modify (h : t.SinceEpoch) {change : Inode → Inode}
    (hchange : ∀ {inode}, inode.SinceEpoch → (change inode).SinceEpoch) :
    (t.modify ino change).SinceEpoch := by
  refine ⟨fun {other inode} hi => ?_⟩
  rw [inodes_modify] at hi
  split at hi
  · obtain ⟨old, hold, rfl⟩ := Option.map_eq_some_iff.1 hi
    exact hchange (h.inode hold)
  · exact h.inode hi

lemma touchParent (h : t.SinceEpoch) (hclock : stamp.now.beforeEpoch = false) (key : String) :
    (t.touchParent stamp key).SinceEpoch := by
  rw [touchParent_eq]
  split
  · exact h.modify fun hinode => hinode.touchModified hclock
  · exact h

lemma removeKey (h : t.SinceEpoch) (hclock : stamp.now.beforeEpoch = false) :
    (t.removeKey stamp key ino).SinceEpoch := by
  refine ⟨fun {other inode} hi => ?_⟩
  rw [Tree.removeKey, inodes_release] at hi
  split at hi
  · obtain ⟨old, hold, hi⟩ := Option.bind_eq_some_iff.1 hi
    split at hi
    · cases hi
    · obtain rfl := Option.some.inj hi
      exact (h.inode hold).touchChanged hclock
  · exact h.inode hi

lemma relocate (h : t.SinceEpoch) (hclock : stamp.now.beforeEpoch = false) (movingDir : Bool) :
    (t.relocate stamp movingDir ino source target).SinceEpoch := by
  refine SinceEpoch.touchParent (SinceEpoch.touchParent (SinceEpoch.modify ?_ ?_) hclock _) hclock _
  · exact ⟨h.inode⟩
  · exact fun hinode => hinode.touchChanged hclock

/-! ## Operations -/

lemma insertNode (h : t.SinceEpoch) (hclock : stamp.now.beforeEpoch = false) {inode : Inode}
    (hinode : inode.SinceEpoch) (hok : t.insertNode stamp key inode = .ok t') :
    t'.SinceEpoch := by
  obtain ⟨-, -, rfl⟩ := insertNode_ok hok
  refine SinceEpoch.touchParent ?_ hclock key
  refine ⟨fun {other found} hi => ?_⟩
  rw [getElem?_insert_eq] at hi
  split at hi
  · exact Option.some.inj hi ▸ hinode
  · exact h.inode hi

lemma link (h : t.SinceEpoch) (hclock : stamp.now.beforeEpoch = false)
    (hok : t.link stamp source target = .ok t') : t'.SinceEpoch := by
  obtain ⟨ino, inode, -, -, -, -, -, rfl⟩ := link_ok hok
  refine SinceEpoch.touchParent (SinceEpoch.modify ?_ ?_) hclock target
  · exact ⟨h.inode⟩
  · exact fun hinode => hinode.touchChanged hclock

lemma rename (h : t.SinceEpoch) (hclock : stamp.now.beforeEpoch = false)
    (hok : t.rename stamp source target = .ok t') : t'.SinceEpoch := by
  rcases rename_ok hok with ⟨rfl, -⟩ | ⟨ino, cleared, -, -, -, -, -, -, hcleared, rfl⟩
  · exact h
  rcases hcleared with ⟨-, rfl⟩ | ⟨existing, -, -, hcleared⟩
  · exact h.relocate hclock _
  · obtain ⟨-, -, rfl⟩ := displace_ok hcleared
    exact (h.removeKey hclock).relocate hclock _

/-- Other data marks its file with the time of the clock. -/
lemma setData (h : t.SinceEpoch) (hclock : stamp.now.beforeEpoch = false) (data : Bytes) :
    (t.modify ino (.setData stamp data)).SinceEpoch :=
  h.modify fun hinode => hinode.setData hclock data

end SinceEpoch

end Tree

/-! ## Any change -/

namespace Change

/-- A change that is not asked to set a time before the epoch.  Only one sort of change sets times
at all. -/
def SinceEpoch : Change → Prop
  | .utimens _ atime mtime =>
    (∀ time ∈ atime, time.beforeEpoch = false) ∧ ∀ time ∈ mtime, time.beforeEpoch = false
  | _ => True

instance : (change : Change) → Decidable change.SinceEpoch
  | .utimens .. => inferInstanceAs (Decidable (_ ∧ _))
  | .create .. | .mkdir .. | .symlink .. | .link .. | .unlink _ | .rmdir _ | .rename ..
  | .openFile .. | .write .. | .truncate .. | .chmod .. => .isTrue trivial

/-- Keys in place of paths make no difference to the times that are set. -/
lemma SinceEpoch.resolve {change resolved : Change} (h : change.SinceEpoch)
    (hresolve : change.resolve = .ok resolved) : resolved.SinceEpoch := by
  cases change with
  | link source target | rename source target =>
      obtain ⟨_, -, hresolve⟩ := bind_eq_ok.1 hresolve
      obtain ⟨_, -, hresolve⟩ := bind_eq_ok.1 hresolve
      obtain rfl := Except.ok.inj hresolve
      trivial
  | _ =>
      obtain ⟨_, -, hresolve⟩ := bind_eq_ok.1 hresolve
      obtain rfl := Except.ok.inj hresolve
      exact h

end Change

namespace Tree

variable {t t' : Tree} {stamp : Stamp}

/-- A change brings no time before the epoch into a tree, unless it is asked to, or the clock reads
one. -/
theorem SinceEpoch.apply (h : t.SinceEpoch) (hclock : stamp.now.beforeEpoch = false)
    {change : Change} (hchange : change.SinceEpoch) (hok : change.apply stamp t = .ok t') :
    t'.SinceEpoch := by
  cases change with
  | create key mode | mkdir key mode | symlink target key =>
      exact h.insertNode hclock (.fresh hclock _ _) hok
  | link source target => exact h.link hclock hok
  | unlink key =>
      obtain ⟨ino, inode, -, -, -, rfl⟩ := unlink_ok hok
      exact (h.removeKey hclock).touchParent hclock key
  | rmdir key =>
      obtain ⟨-, ino, inode, -, -, -, -, rfl⟩ := rmdir_ok hok
      exact (h.removeKey hclock).touchParent hclock key
  | rename source target => exact h.rename hclock hok
  | openFile key flags =>
      rcases openFile_ok hok with rfl | ⟨ino, inode, data, -, -, -, -, rfl⟩
      · exact h
      · exact h.setData hclock []
  | write key buffer offset =>
      obtain ⟨ino, inode, data, -, -, -, -, rfl⟩ := write_ok hok
      exact h.setData hclock _
  | truncate key length =>
      obtain ⟨ino, inode, data, -, -, -, -, rfl⟩ := truncate_ok hok
      exact h.setData hclock _
  | chmod key mode =>
      obtain ⟨ino, -, rfl⟩ := chmod_ok hok
      exact h.modify fun hinode => hinode.touchChanged hclock
  | utimens key atime mtime =>
      obtain ⟨ino, -, rfl⟩ := utimens_ok hok
      have hgiven : ∀ {given : Option Time} {old : Time},
          (∀ time ∈ given, time.beforeEpoch = false) → old.beforeEpoch = false →
          (given.getD old).beforeEpoch = false := by
        intro given old hgiven hold
        cases given with
        | none => exact hold
        | some time => exact hgiven time rfl
      exact h.modify fun hinode =>
        ⟨hgiven hchange.1 hinode.1, hgiven hchange.2 hinode.2.1, hclock⟩

end Tree

/-! ## Reading a payload -/

/-- A time is read as a number of seconds behind the epoch. -/
lemma Time.beforeEpoch_of_ofJson? {json : Json} {t : Time} (h : Time.ofJson? json = some t) :
    t.beforeEpoch = false := by
  obtain ⟨fields, -, h⟩ := Option.bind_eq_some_iff.1 h
  split at h
  · obtain ⟨seconds, -, h⟩ := Option.bind_eq_some_iff.1 h
    obtain ⟨nanos, -, h⟩ := Option.bind_eq_some_iff.1 h
    dsimp only at h
    split at h
    · obtain rfl := Option.some.inj h
      have hsum : ¬ (seconds : Int) + (nanos / 1000000000 : Nat) < 0 := by omega
      exact decide_eq_false hsum
    · cases h
  · cases h

lemma Inode.SinceEpoch.of_ofJson? {json : Json} {inode : Inode}
    (h : Inode.ofJson? json = some inode) : inode.SinceEpoch := by
  obtain ⟨fields, -, h⟩ := Option.bind_eq_some_iff.1 h
  split at h
  · obtain ⟨kind, -, h⟩ := Option.bind_eq_some_iff.1 h
    obtain ⟨perm, -, h⟩ := Option.bind_eq_some_iff.1 h
    obtain ⟨uid, -, h⟩ := Option.bind_eq_some_iff.1 h
    obtain ⟨gid, -, h⟩ := Option.bind_eq_some_iff.1 h
    obtain ⟨nlink, -, h⟩ := Option.bind_eq_some_iff.1 h
    obtain ⟨atime, hatime, h⟩ := Option.bind_eq_some_iff.1 h
    obtain ⟨mtime, hmtime, h⟩ := Option.bind_eq_some_iff.1 h
    obtain ⟨ctime, hctime, h⟩ := Option.bind_eq_some_iff.1 h
    obtain rfl := Option.some.inj h
    exact ⟨Time.beforeEpoch_of_ofJson? hatime, Time.beforeEpoch_of_ofJson? hmtime,
      Time.beforeEpoch_of_ofJson? hctime⟩
  · cases h

namespace Tree

variable {t : Tree}

/-- What each step of a reader keeps holds of what was read. -/
lemma foldlM_keeps {α β : Type} {P : α → Prop} {step : α → β → Option α}
    (hstep : ∀ {done item next}, P done → step done item = some next → P next) {items : List β}
    {start result : α} (hstart : P start) (h : items.foldlM step start = some result) :
    P result := by
  induction items generalizing start with
  | nil => exact Option.some.inj h ▸ hstart
  | cons item items ih =>
      rw [List.foldlM_cons] at h
      obtain ⟨next, hnext, h⟩ := Option.bind_eq_some_iff.1 h
      exact ih (hstep hstart hnext) h

lemma sinceEpoch_of_inodesOfJson? {json : Json} {inodes : Std.ExtTreeMap Nat Inode}
    (h : inodesOfJson? json = some inodes) :
    ∀ {ino : Nat} {inode : Inode}, inodes[ino]? = some inode → inode.SinceEpoch := by
  unfold inodesOfJson? at h
  split at h
  · refine foldlM_keeps
      (P := fun map => ∀ {ino : Nat} {inode : Inode}, map[ino]? = some inode → inode.SinceEpoch)
      ?_ (fun hnone => by simp at hnone) h
    intro done field next hdone hnext ino inode hi
    obtain ⟨number, -, hnext⟩ := Option.bind_eq_some_iff.1 hnext
    obtain ⟨read, hread, hnext⟩ := Option.bind_eq_some_iff.1 hnext
    obtain rfl := Option.some.inj hnext
    rw [getElem?_insert_eq] at hi
    split at hi
    · exact Option.some.inj hi ▸ .of_ofJson? hread
    · exact hdone hi
  · cases h

/-- No payload gives a tree with a time before the epoch, whoever wrote it. -/
theorem SinceEpoch.of_decode {payload : Bytes} (h : decode payload = some t) : t.SinceEpoch := by
  obtain ⟨json, -, h⟩ := Option.bind_eq_some_iff.1 h
  obtain ⟨fields, -, h⟩ := Option.bind_eq_some_iff.1 h
  split at h
  · obtain ⟨entries, -, h⟩ := Option.bind_eq_some_iff.1 h
    obtain ⟨inodes, hinodes, h⟩ := Option.bind_eq_some_iff.1 h
    obtain ⟨nextIno, -, h⟩ := Option.bind_eq_some_iff.1 h
    obtain rfl := Option.some.inj h
    exact ⟨sinceEpoch_of_inodesOfJson? hinodes⟩
  · cases h

end Tree

end Strongbox
