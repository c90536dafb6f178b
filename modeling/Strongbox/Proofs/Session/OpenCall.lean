import Strongbox.Proofs.Session.Opening
import Strongbox.Proofs.Session.Service
import Strongbox.Proofs.Tree.Opened
import Strongbox.Proofs.Tree.Walk

/-!
# Opening a file by its flags

An open asks for two or three things, one after the other, each of which may fail and is saved on its
own: whether the file is there, that it is made or opened, and that its permission bits are set.

* `Session.runOn_openOrCreate` — finding the file comes down to one change, whatever is asked before.
* **`Session.opened_of_openFile`** — how an open goes, and what it leaves.
* `Service.exists_holds` — a session with a mounted container has one that is open.
-/

namespace Strongbox

variable {suite : CipherSuite} {thread : Thread} {line line' : Timeline} {c c' : OpenContainer}
  {host host' : Host} {s : Session} {path key : String} {flags : OpenFlags} {mode : Nat}

/-! ## The probe -/

/-- It can be told whether a key names something. -/
def Tree.Probed (t : Tree) (key : String) : Prop :=
  t.access key .existence = .ok () ∨ t.access key .existence = .error .noEntry

lemma Fault.isErrno_told (operation : String) (code other : Errno) :
    (told operation code).isErrno other = decide (Errno.ofCode code.number = other) := by
  simp [told, isErrno, ownErrno?]

/-- Whether a file is missing can be told by the fault of a call that asks for it. -/
lemma Tree.isErrno_access {t : Tree} {code : Errno}
    (h : t.access key .existence = .error code) :
    (Fault.told "access" code).isErrno .noEntry = true ↔ code = .noEntry := by
  rw [Fault.isErrno_told, decide_eq_true_iff]
  have hcodes : code = .noEntry ∨ code = .notDirectory ∨ code = .ioFailure := by
    rw [access_existence] at h
    cases hlookup : t.lookup key with
    | error missing =>
        rw [node, hlookup] at h
        obtain rfl := Except.error.inj h
        exact (cases_of_lookup hlookup).imp_right Or.inl
    | ok ino =>
        rw [node_of_lookup hlookup, Tree.inode] at h
        split at h
        · cases h
        · exact Or.inr (Or.inr (Except.error.inj h).symm)
  rcases hcodes with rfl | rfl | rfl <;> decide +kernel

namespace Session

/-- An open that may create the file asks whether there is one. -/
lemma openOrCreate_creating (hexclusive : flags.contains (.union .create .exclusive) = false)
    (hcreate : flags.contains .create = true) (path : String) (mode : Nat) :
    openOrCreate path flags mode = (do
      let code ← Call.request (.access path .existence)
      match check "access" code with
      | .ok _ => attempt .empty (.openFile path flags)
      | .error fault =>
        if fault.isErrno .noEntry then attempt .empty (.create path mode)
        else attempt (FaultSlot.empty.setPending fault) (.openFile path flags)) := by
  rw [openOrCreate, hexclusive, hcreate]
  rfl

lemma runOn_access (suite : CipherSuite) (thread : Thread) (h : line.Holds c host) (path : String)
    (mode : AccessMode) :
    ∃ (code : Int) (m : Machine),
      (Call.request (.access path mode)).runOn suite thread line = (.ok code, line.goOn m)
      ∧ check "access" code
        = ((c.tree.atPath path fun t key => t.access key mode).map fun _ => 0).mapError
          (.told "access")
      ∧ (line.goOn m).Holds c host := by
  let look : Tree → String → Except Errno Unit := fun t key => t.access key mode
  have hnumbered : Numbered (c.tree.atPath path look) :=
    c.tree.numbered_atPath path fun key => c.tree.numbered_access key mode
  refine ⟨resultCode ((c.tree.atPath path look).map fun _ => 0),
    (line.machine.inspectPath thread path look).2, ?_, check_resultCode "access" (hnumbered.map _),
    h.of_untouched (Machine.inspectPath_untouched path _)⟩
  show (Except.ok (resultCode ((line.machine.inspectPath thread path look).1.map fun _ => 0)),
    line.goOn (line.machine.inspectPath thread path look).2) = _
  rw [Machine.inspectPath_fst h.opened]
  rfl

/-- The change that an open comes down to, of a key or of the path of the key. -/
lemma resolve_opening (hkey : Key.normalize path = .ok key) (t : Tree) (flags : OpenFlags)
    (mode : Nat) :
    (t.opening key flags mode path).resolve = .ok (t.opening key flags mode key) := by
  rw [Tree.opening, Tree.opening]
  split <;> rw [Change.resolve, hkey] <;> rfl

/-- What the probe says decides how an open goes on.  It is held back only where it fails for another
reason than that the file is missing. -/
lemma attempt_of_probe (t : Tree) (hexclusive : flags.contains (.union .create .exclusive) = false)
    (hcreate : flags.contains .create = true) :
    ∃ slot, (match ((t.access key .existence).map fun _ => 0).mapError (Fault.told "access") with
      | .ok (_ : Nat) => attempt .empty (.openFile path flags)
      | .error fault =>
        if fault.isErrno .noEntry then attempt .empty (.create path mode)
        else attempt (FaultSlot.empty.setPending fault) (.openFile path flags))
      = attempt slot (t.opening key flags mode path)
      ∧ (t.Probed key → slot = .empty) := by
  rw [Tree.opening]
  cases hprobe : t.access key .existence with
  | ok found =>
      rw [if_neg (by simp [hexclusive])]
      exact ⟨.empty, rfl, fun _ => rfl⟩
  | error code =>
      dsimp only [Except.map, Except.mapError]
      by_cases hmissing : code = .noEntry
      · rw [if_pos ((Tree.isErrno_access hprobe).2 hmissing), hmissing,
          if_pos (Or.inr ⟨hcreate, rfl⟩)]
        exact ⟨.empty, rfl, fun _ => rfl⟩
      · rw [if_neg fun hfault => hmissing ((Tree.isErrno_access hprobe).1 hfault),
          if_neg (by simp [hexclusive, hmissing])]
        refine ⟨_, rfl, ?_⟩
        rintro (hfound | hother)
        · cases hprobe.symm.trans hfound
        · exact absurd (Except.error.inj (hprobe.symm.trans hother)) hmissing

/-- How often an open asks for the file before it makes or opens it. -/
def probes (flags : OpenFlags) : Nat :=
  if flags.contains (.union .create .exclusive) = false ∧ flags.contains .create = true then 1 else 0

/-- Whatever is asked before, the file is found or made by one change. -/
lemma runOn_openOrCreate_attempt (suite : CipherSuite) (thread : Thread) (h : line.Holds c host)
    (hkey : Key.normalize path = .ok key) (flags : OpenFlags) (mode : Nat) :
    ∃ slot line₁, line₁.Holds c host ∧ line₁.moments = line.moments
      ∧ line₁.calls = line.calls + probes flags
      ∧ (openOrCreate path flags mode).runOn suite thread line
        = (attempt slot (c.tree.opening key flags mode path)).runOn suite thread line₁
      ∧ (c.tree.Probed key → slot = .empty)
      ∧ ((openOrCreate path flags mode).run.Saves suite thread line →
        (attempt slot (c.tree.opening key flags mode path)).run.Saves suite thread line₁) := by
  by_cases hexclusive : flags.contains (.union .create .exclusive) = true
  · have hchange : c.tree.opening key flags mode path = .create path mode :=
      if_pos (Or.inl hexclusive)
    have hcall : openOrCreate path flags mode = attempt .empty (.create path mode) := by
      rw [openOrCreate, if_pos hexclusive]
    have hnone : probes flags = 0 := if_neg (by simp [hexclusive])
    rw [hchange, hcall, hnone]
    exact ⟨.empty, line, h, rfl, rfl, rfl, fun _ => rfl, id⟩
  by_cases hcreate : flags.contains .create = true
  · rw [Bool.not_eq_true] at hexclusive
    obtain ⟨code, m, haccess, hcode, hm⟩ := runOn_access suite thread h path .existence
    rw [Tree.atPath_of_normalize hkey] at hcode
    obtain ⟨slot, hways, hslot⟩ := attempt_of_probe c.tree hexclusive hcreate
    have hone : probes flags = 1 := if_pos ⟨hexclusive, hcreate⟩
    rw [openOrCreate_creating hexclusive hcreate, Call.runOn_bind, haccess, hone]
    dsimp only
    rw [← hcode] at hways
    exact ⟨slot, line.goOn m, hm, rfl, rfl,
      congrArg (Call.runOn suite thread · (line.goOn m)) hways, hslot,
      fun hsaves => hways ▸ Call.saves_right hsaves haccess⟩
  · have hchange : c.tree.opening key flags mode path = .openFile path flags :=
      if_neg (by simp [hexclusive, hcreate])
    have hcall : openOrCreate path flags mode = attempt .empty (.openFile path flags) := by
      rw [openOrCreate, if_neg hexclusive, if_neg hcreate]
    have hnone : probes flags = 0 := if_neg fun hboth => hcreate hboth.2
    rw [hchange, hcall, hnone]
    exact ⟨.empty, line, h, rfl, rfl, rfl, fun _ => rfl, id⟩

/-- Finding the file comes down to one change of the container, at the moment of the next call or of
the one after it.  Where it can be told whether there is a file, a failure is told as it is. -/
theorem runOn_openOrCreate_change (suite : CipherSuite) (thread : Thread) (h : line.Holds c host)
    (hkey : Key.normalize path = .ok key) (flags : OpenFlags) (mode : Nat) :
    ∃ tell found line₁ c₁ host₁,
      (openOrCreate path flags mode).runOn suite thread line
        = ((found : Except Errno Unit).mapError tell, line₁)
      ∧ line₁.Holds c₁ host₁
      ∧ c.change suite (line.moments (line.calls + probes flags)) host
          (c.tree.opening key flags mode key) = (found, c₁, host₁)
      ∧ (c.tree.Probed key → tell = .told "open")
      ∧ ((openOrCreate path flags mode).run.Saves suite thread line →
        (∃ t dirty, found = .ok () ∧ c₁ = { c with tree := t, dirty := dirty }
            ∧ (c.tree.opening key flags mode key).apply
              (line.moments (line.calls + probes flags)).stamp c.tree = .ok t)
          ∨ ∃ code, found = .error code
            ∧ (c.tree.opening key flags mode key).apply
              (line.moments (line.calls + probes flags)).stamp c.tree = .error code) := by
  obtain ⟨slot, line₀, hline₀, hmoments, hcalls, hrun, hslot, hsaves⟩ :=
    runOn_openOrCreate_attempt suite thread h hkey flags mode
  have hresolve := resolve_opening hkey c.tree flags mode
  have hmoment : line₀.moment = line.moments (line.calls + probes flags) := by
    rw [Timeline.moment, hmoments, hcalls]
  rw [← hmoment]
  rcases hchange : c.change suite line₀.moment host (c.tree.opening key flags mode key)
    with ⟨found, c₁, host₁⟩
  obtain ⟨line₁, hstep, hline₁⟩ := Call.runOn_change suite thread
    (c.tree.opening key flags mode path) hline₀ "open" hresolve hchange
  refine ⟨fun code => (slot.chain (.told "open" code)).1, found, line₁, c₁, host₁, ?_, hline₁, rfl,
    fun hprobed => ?_, fun hs => ?_⟩
  · rw [hrun, runOn_attempt, hstep]
    cases found <;> rfl
  · rw [hslot hprobed]
    rfl
  · obtain ⟨dirty, host₂, hsaved⟩ :=
      OpenContainer.change_of_saves hline₀.opened hresolve (hsaves hs).1
    rw [hline₀.host, hchange, Change.after] at hsaved
    cases happly : (c.tree.opening key flags mode key).apply line₀.moment.stamp c.tree with
    | ok t =>
        rw [happly] at hsaved
        cases hsaved
        exact Or.inl ⟨t, dirty, rfl, rfl, rfl⟩
    | error code =>
        rw [happly] at hsaved
        cases hsaved
        exact Or.inr ⟨code, rfl, rfl⟩

/-- Finding the file comes down to one change of the container, at one of the moments to come.  Where
its save goes through, it is carried out on the tree, or fails because it cannot be. -/
theorem runOn_openOrCreate (suite : CipherSuite) (thread : Thread) (h : line.Holds c host)
    (hkey : Key.normalize path = .ok key) (flags : OpenFlags) (mode : Nat) :
    ∃ n tell found line₁ c₁ host₁,
      (openOrCreate path flags mode).runOn suite thread line
        = ((found : Except Errno Unit).mapError tell, line₁)
      ∧ line₁.Holds c₁ host₁
      ∧ c.change suite (line.moments n) host (c.tree.opening key flags mode key)
        = (found, c₁, host₁)
      ∧ ((openOrCreate path flags mode).run.Saves suite thread line →
        (∃ t dirty, found = .ok () ∧ c₁ = { c with tree := t, dirty := dirty }
            ∧ (c.tree.opening key flags mode key).apply (line.moments n).stamp c.tree = .ok t)
          ∨ ∃ code, found = .error code
            ∧ (c.tree.opening key flags mode key).apply (line.moments n).stamp c.tree
              = .error code) := by
  obtain ⟨tell, found, line₁, c₁, host₁, hrun, hline₁, hchange, -, hsaves⟩ :=
    runOn_openOrCreate_change suite thread h hkey flags mode
  exact ⟨_, tell, found, line₁, c₁, host₁, hrun, hline₁, hchange, hsaves⟩

/-! ## The call -/

/-- After the file was found, permission bits whose save goes through leave the node open. -/
lemma opened_of_chmod (hkey : Key.normalize path = .ok key) {t : Tree} {stamp : Stamp}
    (happly : (t.opening key flags mode key).apply stamp t = .ok c.tree) (h : line.Holds c host)
    (hsaves : line.machine.Saves suite line.moment (.change (.chmod path mode)))
    {result : Except Errno Unit}
    (hchmod : c.change suite line.moment host (.chmod key mode) = (result, c', host')) :
    t.Opened key flags mode c'.tree := by
  have hresolve := Change.resolve_chmod hkey mode
  obtain ⟨t', hset, hopened⟩ := Tree.opened_of_steps happly line.moment.stamp
  have happlied : (Change.chmod key mode).apply line.moment.stamp c.tree = .ok t' := hset
  obtain ⟨dirty, saved, hsaved⟩ := OpenContainer.change_of_saves h.opened hresolve hsaves
  rw [h.host, hchmod, Change.after, happlied] at hsaved
  cases hsaved
  exact hopened

/-- How an open goes, and what it leaves.  If it fails, then it leaves everything as it was, however
the saves of its steps went.  Where they all go through, what it is there for decides whether it
succeeds, and afterwards the node is open. -/
theorem opened_of_openFile (suite : CipherSuite) (thread : Thread) (hs : s.isMounted = true)
    (h : line.Holds c host) (hkey : Key.normalize path = .ok key) (flags : OpenFlags)
    (mode : Nat) :
    ∃ outcome line' c' host',
      (s.openFile path flags mode).runOn suite thread line = (outcome, line')
      ∧ line'.Holds c' host'
      ∧ ((∃ fault, outcome = .error fault) → c' = c ∧ host' = host)
      ∧ ((s.openFile path flags mode).run.Saves suite thread line →
        (c.tree.WantsNew key flags → (outcome.isOk = true ↔ c.tree.Free key))
        ∧ (¬c.tree.WantsNew key flags → (outcome.isOk = true ↔ c.tree.Openable key flags))
        ∧ (outcome.isOk = true →
          outcome = .ok (.ofPath path) ∧ c.tree.Opened key flags mode c'.tree)) := by
  obtain ⟨n, tell, found, line₁, c₁, host₁, hfound, hline₁, hchange, hways⟩ :=
    runOn_openOrCreate suite thread h hkey flags mode
  obtain ⟨hnew, hopens⟩ := c.tree.exists_opening_iff key flags mode (line.moments n).stamp
  cases found with
  | error code =>
      obtain ⟨rfl, rfl⟩ := OpenContainer.change_error hchange
      refine ⟨_, line₁, c₁, host₁, runOn_openFile_of_error hs hfound, hline₁,
        fun _ => ⟨rfl, rfl⟩, fun hsaves => ?_⟩
      rw [Session.openFile, Call.require_bind hs] at hsaves
      rcases hways (Call.saves_left hsaves) with ⟨_, _, hok, -⟩ | ⟨code, -, hfails⟩
      · cases hok
      · rw [hfails] at hnew hopens
        have hneither : ¬∃ t, (.error code : Except Errno Tree) = .ok t := by rintro ⟨_, ⟨⟩⟩
        exact ⟨fun hm => iff_of_false Bool.false_ne_true fun hfree => hneither ((hnew hm).2 hfree),
          fun hm => iff_of_false Bool.false_ne_true fun ho => hneither ((hopens hm).2 ho),
          fun hok => absurd hok Bool.false_ne_true⟩
  | ok done =>
      rcases hchmod : c₁.change suite line₁.moment host₁ (.chmod key mode)
        with ⟨result, c₂, host₂⟩
      obtain ⟨line₂, hopened, hline₂⟩ := runOn_openFile hs hfound hline₁ hkey hchmod
      refine ⟨_, line₂, c₂, host₂, hopened, hline₂, by rintro ⟨_, ⟨⟩⟩, fun hsaves => ?_⟩
      rw [Session.openFile, Call.require_bind hs] at hsaves
      rcases hways (Call.saves_left hsaves) with ⟨t, dirty, -, rfl, happly⟩ | ⟨_, herror, -⟩
      · exact ⟨fun hm => iff_of_true rfl ((hnew hm).1 ⟨t, happly⟩),
          fun hm => iff_of_true rfl ((hopens hm).1 ⟨t, happly⟩),
          fun _ => ⟨rfl, opened_of_chmod hkey happly hline₁ (Call.saves_right hsaves hfound).1
            hchmod⟩⟩
      · cases herror

end Session

/-! ## Reachable states -/

/-- A session in which a container is mounted has one that is open. -/
lemma Service.exists_holds {v : Service} (hv : v.Reachable suite)
    (hs : v.session.isMounted = true) : ∃ c, v.line.Holds c v.line.machine.host := by
  cases Kept.of_reachable hv with
  | unmounted hmarker =>
      rw [Session.isMounted_of_none hmarker] at hs
      cases hs
  | mounted _ _ hheld =>
      obtain ⟨c, hc⟩ := Option.ne_none_iff_exists'.1 hheld.opened
      exact ⟨c, hc, rfl⟩

/-- A session in which a file has two names, and in which every save goes through. -/
lemma Service.exists_linked :
    ∃ v : Service, v.Reachable .standard ∧ v.session.isMounted = true
      ∧ (v.session.openFile "/g" (.union .writeOnly .truncate) 0o100640).run.Saves .standard
        mainThread v.line
      ∧ v.line.machine.engine.opened.map (fun c => ((c.tree.node "/f").map Inode.kind,
          c.tree.entries["/f"]?, c.tree.entries["/g"]?))
        = some (.ok (.file [7, 8]), some 2, some 2) := by
  have start : Service.Reachable .standard _ :=
    .start .standard ((Host.bare ⟨4096, 0, 0, 0, 0, 255⟩ "/").put "/box" (.file 0o600 []))
      fun _ => ⟨⟨.epoch, 0, 0⟩, [], .ofNat 0, none⟩
  have located : Service.Reachable .standard _ :=
    start.step (.call mainThread (.lifecycle (.setPath "/box")) (by decide +kernel))
  have mounted : Service.Reachable .standard _ :=
    located.step (.call mainThread (.lifecycle (.mount (.key (List.replicate 32 0))))
      (by decide +kernel))
  have made : Service.Reachable .standard _ :=
    mounted.step (.call 1 (.operation (.openFile "/f" .create 0o644)) (by decide +kernel))
  have filled : Service.Reachable .standard _ :=
    made.step (.call 1 (.operation (.pwrite (.ofPath "/f") [7, 8] 0)) (by decide +kernel))
  have linked : Service.Reachable .standard _ :=
    filled.step (.call 1 (.operation (.link "/f" "/g")) (by decide +kernel))
  exact ⟨_, linked, by decide +kernel, by decide +kernel, by decide +kernel⟩

/-- A file with two names is opened by one of them, so that it loses its data under the other one as
well. -/
theorem Session.opened_after_link :
    let flags : OpenFlags := .union .writeOnly .truncate
    ∃ (v : Service) (c c' : OpenContainer) (line' : Timeline) (host' : Host),
      v.Reachable .standard ∧ v.session.isMounted = true ∧ v.line.Holds c v.line.machine.host
        ∧ (c.tree.node "/f").map Inode.kind = .ok (.file [7, 8])
        ∧ (v.session.openFile "/g" flags 0o100640).runOn .standard mainThread v.line
          = (.ok (.ofPath "/g"), line')
        ∧ line'.Holds c' host' ∧ c.tree.Opened "/g" flags 0o100640 c'.tree
        ∧ (c'.tree.node "/f").map Inode.kind = .ok (.file []) := by
  intro flags
  obtain ⟨v, hv, hs, hsaves, hstate⟩ := Service.exists_linked
  obtain ⟨c, hc⟩ := Service.exists_holds hv hs
  rw [hc.opened, Option.map_some, Option.some.injEq, Prod.mk.injEq, Prod.mk.injEq] at hstate
  obtain ⟨hkind, hf, hg⟩ := hstate
  have hshared : c.tree.node "/g" = c.tree.node "/f" := Tree.node_of_shared hg hf
  obtain ⟨inode, hnode, hfile⟩ : ∃ inode, c.tree.node "/g" = .ok inode
      ∧ inode.kind = .file [7, 8] := by
    rw [hshared]
    cases hnode : c.tree.node "/f" with
    | error code => rw [hnode] at hkind; cases hkind
    | ok inode => rw [hnode] at hkind; exact ⟨inode, rfl, Except.ok.inj hkind⟩
  have hnew : ¬c.tree.WantsNew "/g" flags := by
    rintro (hexclusive | ⟨hcreate, -⟩)
    · exact absurd hexclusive (by decide)
    · exact absurd hcreate (by decide)
  have hopenable : c.tree.Openable "/g" flags := by
    refine ⟨inode, hnode, fun h => ?_⟩
    rw [Inode.isDir, hfile] at h
    cases h.1
  obtain ⟨outcome, line', c', host', hrun, hline', -, hways⟩ :=
    Session.opened_of_openFile .standard mainThread hs hc (by rfl : Key.normalize "/g" = .ok "/g")
      flags 0o100640
  obtain ⟨-, hopens, hleaves⟩ := hways hsaves
  obtain ⟨rfl, hopened⟩ := hleaves ((hopens hnew).2 hopenable)
  refine ⟨v, c, c', line', host', hv, hs, hc, hkind, hrun, hline', hopened, ?_⟩
  obtain ⟨hentry, old, hold, hcleared⟩ := hopened.found hnew
  obtain rfl := Except.ok.inj (hnode.symm.trans hold)
  have hlost : flags.clears inode.kind = true := by rw [hfile]; decide
  rw [if_pos hlost] at hcleared
  have hother : c'.tree.entries["/f"]? = some 2 := (hopened.entries (by decide)).trans hf
  rw [Tree.node_of_shared hother (hentry.trans hg), hcleared]

end Strongbox
