import Mathlib.Data.List.Nodup
import Strongbox.Engine.Registry

/-!
# The numbers of handles

A handle is known by its number alone, and the counter that numbers come from begins again with zero
behind the last one.  So the counter may come to numbers that are in use, and passes them over.

* `Registry.Draws` — what the counter comes to, one number after another and without a bound on how
  many are passed over.
* **`Registry.draws_freeId`** — the number of the next handle is what the counter comes to, and
  `Registry.exists_draws_iff` says when it comes to anything.
* `Registry.Runs` — handles are given out and taken back, in any order.
* `Registry.InTurn` — until the counter has come round, the numbers given out are all those that it
  has come to but zero.  One drawing keeps this (`Registry.InTurn.draw`), and so does a run.
* **`Registry.apart_of_runs`** — no handle is taken for another.
-/

namespace Strongbox.Registry

/-! ## Numbers in a row -/

/-- So many numbers from one on.  Behind the last number comes zero. -/
def numbers (start : UInt64) (count : Nat) : List UInt64 :=
  (List.range count).map fun n => start + .ofNat n

@[simp] lemma length_numbers (start : UInt64) (count : Nat) :
    (numbers start count).length = count := by
  rw [numbers, List.length_map, List.length_range]

lemma numbers_cons (start : UInt64) (count : Nat) :
    numbers start (count + 1) = start :: numbers (start + 1) count := by
  rw [numbers, numbers, List.range_succ_eq_map, List.map_cons, List.map_map]
  refine congrArg₂ _ (UInt64.add_zero start) (List.map_congr_left fun n _ => ?_)
  show start + .ofNat (n + 1) = start + 1 + .ofNat n
  rw [Nat.add_comm, UInt64.ofNat_add, UInt64.add_assoc]
  rfl

lemma numbers_concat (start : UInt64) (count : Nat) :
    numbers start (count + 1) = numbers start count ++ [start + .ofNat count] := by
  rw [numbers, List.range_succ, List.map_append]
  rfl

/-- Numbers in a row are different until they come round. -/
lemma nodup_numbers (start : UInt64) {count : Nat} (h : count ≤ UInt64.size) :
    (numbers start count).Nodup := by
  refine List.Nodup.map_on (fun m hm n hn hsame => ?_) List.nodup_range
  have hword : ∀ n ∈ List.range count, n % 2 ^ 64 = n := fun n hn =>
    Nat.mod_eq_of_lt (Nat.lt_of_lt_of_le (List.mem_range.1 hn) h)
  have hnat := congrArg UInt64.toNat ((UInt64.add_right_inj start).1 hsame)
  rwa [UInt64.toNat_ofNat', UInt64.toNat_ofNat', hword m hm, hword n hn] at hnat

/-- The next number has not come up before, until they come round. -/
lemma not_mem_numbers {start : UInt64} {count : Nat} (h : count < UInt64.size) :
    start + .ofNat count ∉ numbers start count := by
  have hnodup := nodup_numbers start (Nat.succ_le_of_lt h)
  rw [numbers_concat, List.nodup_append] at hnodup
  exact fun hmem => hnodup.2.2 _ hmem _ (List.mem_singleton_self _) rfl

/-- There are no other numbers. -/
lemma mem_numbers_zero (id : UInt64) : id ∈ numbers 0 UInt64.size := by
  refine List.mem_map.2 ⟨id.toNat, List.mem_range.2 id.toNat_lt_size, ?_⟩
  rw [UInt64.zero_add, UInt64.ofNat_toNat]

/-! ## Drawing a number -/

variable {explicit : Std.ExtTreeMap UInt64 Thread} {id found start : UInt64} {thread : Thread}
  {handle : Handle} {issued later : List Handle} {r r' : Registry}

/-- The counter comes from one number to the first usable one from there on.  Zero is passed over,
and so is every number of an open handle. -/
inductive Draws (explicit : Std.ExtTreeMap UInt64 Thread) : UInt64 → UInt64 → Prop
  | found {id : UInt64} (hzero : id ≠ 0) (hfree : id ∉ explicit) : Draws explicit id id
  | pass {id found : UInt64} (hblocked : id = 0 ∨ id ∈ explicit)
      (hrest : Draws explicit (id + 1) found) : Draws explicit id found

/-- There is a number left for one more handle. -/
def HasRoom (r : Registry) : Prop :=
  r.explicit.size + 1 < UInt64.size

instance : Decidable r.HasRoom := Nat.decLt ..

/-- Only a usable number ends a drawing. -/
lemma Draws.usable (h : Draws explicit id found) : found ≠ 0 ∧ found ∉ explicit := by
  induction h with
  | found hzero hfree => exact ⟨hzero, hfree⟩
  | pass _ _ ih => exact ih

/-- With fuel up to a usable number, the search for one ends where the counter does. -/
lemma draws_freeFrom {fuel : Nat} (husable : found ≠ 0 ∧ found ∉ explicit)
    (hmem : found ∈ numbers id (fuel + 1)) : Draws explicit id (freeFrom explicit fuel id) := by
  induction fuel generalizing id with
  | zero =>
      obtain rfl : found = id + 0 := List.mem_singleton.1 hmem
      rw [UInt64.add_zero] at husable
      exact .found husable.1 husable.2
  | succ fuel ih =>
      rw [freeFrom]
      split
      · next hblocked =>
          rw [numbers_cons, List.mem_cons] at hmem
          obtain rfl | hmem := hmem
          · exact absurd hblocked (not_or.2 husable)
          · exact .pass hblocked (ih hmem)
      · next hfree =>
          rw [not_or] at hfree
          exact .found hfree.1 hfree.2

/-- Among more numbers than there are open handles and zero, one is usable. -/
lemma exists_usable (h : r.HasRoom) (id : UInt64) :
    ∃ found ∈ numbers id (r.explicit.size + 2), found ≠ 0 ∧ found ∉ r.explicit := by
  by_contra! hnone
  have hsubset : numbers id (r.explicit.size + 2) ⊆ 0 :: r.explicit.keys := fun other hother => by
    rw [List.mem_cons, Std.ExtTreeMap.mem_keys]
    exact or_iff_not_imp_left.2 (hnone other hother)
  have hlength := (nodup_numbers id h).length_le_of_subset hsubset
  rw [length_numbers, List.length_cons, Std.ExtTreeMap.length_keys] at hlength
  omega

/-- **The number of the next handle is what the counter comes to.** -/
theorem draws_freeId (h : r.HasRoom) : Draws r.explicit r.nextId r.freeId := by
  obtain ⟨found, hmem, husable⟩ := exists_usable h r.nextId
  exact draws_freeFrom husable hmem

/-- The counter comes to a usable number exactly if there is room, provided that no handle has the
number zero. -/
lemma exists_draws_iff (hzero : 0 ∉ r.explicit) :
    (∃ found, Draws r.explicit r.nextId found) ↔ r.HasRoom := by
  refine ⟨fun ⟨found, h⟩ => ?_, fun h => ⟨_, draws_freeId h⟩⟩
  obtain ⟨hfound, hfree⟩ := h.usable
  have hnodup : (found :: 0 :: r.explicit.keys).Nodup := by
    simp [hfound, hfree, hzero, Std.ExtTreeMap.mem_keys, Std.ExtTreeMap.nodup_keys]
  have hlength := hnodup.length_le_of_subset fun other _ => mem_numbers_zero other
  rwa [length_numbers, List.length_cons, List.length_cons, Std.ExtTreeMap.length_keys] at hlength

/-! ## Runs -/

/-- A registry without handles, with the number that its counter begins with. -/
def startingAt (start : UInt64) : Registry :=
  { empty with nextId := start }

/-- Handles are given out, as long as there is room, and taken back, whether they are open or not.
The list holds those that are given out, first to last. -/
inductive Runs : Registry → List Handle → Registry → Prop
  | done {r : Registry} : Runs r [] r
  | issue {r r' : Registry} {issued : List Handle} (hroom : r.HasRoom) (thread : Thread)
      (hrest : Runs (r.issue thread).2 issued r') : Runs r ((r.issue thread).1 :: issued) r'
  | close {r r' : Registry} {issued : List Handle} (handle : Handle)
      (hrest : Runs (r.close handle).2 issued r') : Runs r issued r'

lemma getElem?_issue (r : Registry) (thread : Thread) (other : UInt64) :
    (r.issue thread).2.explicit[other]?
      = if (r.issue thread).1.id = other then some thread else r.explicit[other]? := by
  show (r.explicit.insert r.freeId thread)[other]? = if r.freeId = other then _ else _
  rw [Std.ExtTreeMap.getElem?_insert]
  simp only [Std.compare_eq_iff_eq]

lemma mem_issue {r : Registry} {thread : Thread} :
    id ∈ (r.issue thread).2.explicit ↔ id ∈ r.explicit ∨ id = (r.issue thread).1.id := by
  show id ∈ r.explicit.insert r.freeId thread ↔ _
  rw [Std.ExtTreeMap.mem_insert, Std.compare_eq_iff_eq, or_comm, eq_comm]
  rfl

/-- A handle that is not open stays unnoticed. -/
lemma close_of_not_mem (h : handle.id ∉ r.explicit) : r.close handle = (none, r) :=
  if_neg h

/-- A handle that is open is taken out, and no other is. -/
lemma close_of_mem (h : handle.id ∈ r.explicit) :
    ∃ r', r.close handle = (some r'.explicit.size, r')
      ∧ r'.explicit.size + 1 = r.explicit.size
      ∧ (∀ other : UInt64,
        r'.explicit[other]? = if handle.id = other then none else r.explicit[other]?)
      ∧ r' = { r with explicit := r'.explicit } := by
  refine ⟨{ r with explicit := r.explicit.erase handle.id }, if_pos h, ?_, fun other => ?_, rfl⟩
  · have hsize : 0 < r.explicit.size := by
      rw [← Std.ExtTreeMap.length_keys]
      exact List.length_pos_of_mem (Std.ExtTreeMap.mem_keys.2 h)
    show (r.explicit.erase handle.id).size + 1 = _
    rw [Std.ExtTreeMap.size_erase, if_pos (Std.ExtTreeMap.mem_iff_contains.1 h)]
    omega
  · show (r.explicit.erase handle.id)[other]? = _
    rw [Std.ExtTreeMap.getElem?_erase]
    simp only [Std.compare_eq_iff_eq]

lemma nextId_close (r : Registry) (handle : Handle) :
    (r.close handle).2.nextId = r.nextId := by
  rw [close]
  split <;> rfl

lemma mem_of_mem_close (h : id ∈ (r.close handle).2.explicit) : id ∈ r.explicit := by
  by_cases hopen : handle.id ∈ r.explicit
  · rw [close, if_pos hopen] at h
    exact Std.ExtTreeMap.mem_of_mem_erase h
  · rwa [close_of_not_mem hopen] at h

/-- A handle that is open at the end was open before, or was given out on the way. -/
lemma Runs.mem (h : r.Runs issued r') (hopen : id ∈ r'.explicit) :
    id ∈ r.explicit ∨ ⟨id⟩ ∈ issued := by
  induction h with
  | done => exact Or.inl hopen
  | issue hroom thread _ ih =>
      rw [List.mem_cons]
      obtain hbefore | hlater := ih hopen
      · obtain hbefore | rfl := mem_issue.1 hbefore
        · exact Or.inl hbefore
        · exact Or.inr (Or.inl rfl)
      · exact Or.inr (Or.inr hlater)
  | close handle _ ih => exact (ih hopen).imp_left mem_of_mem_close

/-- The number zero is not given out. -/
lemma Runs.ne_zero (h : r.Runs issued r') (hissued : handle ∈ issued) : handle.id ≠ 0 := by
  induction h with
  | done => cases hissued
  | issue hroom thread _ ih =>
      obtain rfl | hlater := List.mem_cons.1 hissued
      · exact (draws_freeId hroom).usable.1
      · exact ih hlater
  | close handle _ ih => exact ih hissued

/-! ## Numbers in turn -/

/-- The counter has come to so many numbers from the first one on, and they were given out in turn,
zero apart. -/
structure InTurn (start : UInt64) (count : Nat) (ids : List UInt64) (next : UInt64) : Prop where
  count_le : count ≤ UInt64.size
  ids_eq : ids = (numbers start count).filter (· ≠ 0)
  next_eq : next = start + .ofNat count

namespace InTurn

variable {count : Nat} {ids : List UInt64} {next : UInt64}

lemma nodup (h : InTurn start count ids next) : ids.Nodup :=
  h.ids_eq ▸ (nodup_numbers start h.count_le).filter _

/-- Nothing but zero is left out. -/
lemma count_le_length (h : InTurn start count ids next) : count ≤ ids.length + 1 := by
  have hsubset : numbers start count ⊆ 0 :: ids := fun id hid => by
    rw [List.mem_cons, or_iff_not_imp_left, h.ids_eq]
    exact fun hzero => List.mem_filter.2 ⟨hid, decide_eq_true hzero⟩
  have hlength := (nodup_numbers start h.count_le).length_le_of_subset hsubset
  rwa [length_numbers, List.length_cons] at hlength

/-- The next number was not given out before. -/
lemma next_not_mem (h : InTurn start count ids next) (hcount : count < UInt64.size) :
    next ∉ ids := by
  rw [h.ids_eq, h.next_eq]
  exact fun hmem => not_mem_numbers hcount (List.mem_of_mem_filter hmem)

/-- The counter goes on by one, and its number is given out unless it is zero. -/
lemma step (h : InTurn start count ids next) (hcount : count < UInt64.size) :
    InTurn start (count + 1) (ids ++ [next].filter (· ≠ 0)) (next + 1) where
  count_le := hcount
  ids_eq := by rw [numbers_concat, List.filter_append, ← h.ids_eq, ← h.next_eq]
  next_eq := by rw [h.next_eq, UInt64.ofNat_add, ← UInt64.add_assoc]; rfl

/-- **One drawing.**  A handle that is open has a number that was given out, so only zero is passed
over. -/
theorem draw (h : InTurn start count ids id) (hdraws : Draws explicit id found)
    (hopen : ∀ other ∈ explicit, other ∈ ids) (hlength : ids.length + 1 < UInt64.size) :
    ∃ count', InTurn start count' (ids ++ [found]) (found + 1) := by
  induction hdraws generalizing count with
  | found hzero hfree =>
      have hstep := h.step (Nat.lt_of_le_of_lt h.count_le_length hlength)
      rw [List.filter_cons_of_pos (by simpa using hzero), List.filter_nil] at hstep
      exact ⟨_, hstep⟩
  | pass hblocked _ ih =>
      have hcount := Nat.lt_of_le_of_lt h.count_le_length hlength
      obtain rfl := hblocked.resolve_right fun hmem => h.next_not_mem hcount (hopen _ hmem)
      have hstep := h.step hcount
      rw [List.filter_cons_of_neg (by decide), List.filter_nil, List.append_nil] at hstep
      exact ih hstep

end InTurn

/-- **A run goes on in turn**, as long as fewer handles are given out than there are numbers. -/
theorem Runs.inTurn {count : Nat} {before : List Handle} (h : r.Runs issued r')
    (hturn : InTurn start count (before.map Handle.id) r.nextId)
    (hopen : ∀ id ∈ r.explicit, id ∈ before.map Handle.id)
    (hlength : (before ++ issued).length < UInt64.size) :
    ∃ count', InTurn start count' ((before ++ issued).map Handle.id) r'.nextId := by
  induction h generalizing count before with
  | done => exact ⟨count, by rwa [List.append_nil]⟩
  | @issue r r' issued hroom thread hrest ih =>
      rw [List.append_cons] at hlength ⊢
      have hbefore : (before.map Handle.id).length + 1 < UInt64.size := by
        rw [List.length_map]
        simp only [List.length_append, List.length_cons, List.length_nil] at hlength
        omega
      obtain ⟨count', hturn'⟩ := hturn.draw (draws_freeId hroom) hopen hbefore
      refine ih (?_ : InTurn start count' _ _) (fun id hid => ?_) hlength
      · rwa [List.map_append]
      · rw [List.map_append, List.mem_append]
        exact (mem_issue.1 hid).imp (hopen id) fun hsame => List.mem_singleton.2 hsame
  | @close r r' issued handle hrest ih =>
      exact ih (nextId_close r handle ▸ hturn) (fun id hid => hopen id (mem_of_mem_close hid))
        hlength

lemma Runs.append (h : r.Runs issued r') {r'' : Registry} (h' : r'.Runs later r'') :
    r.Runs (issued ++ later) r'' := by
  induction h with
  | done => exact h'
  | issue hroom thread _ ih => exact .issue hroom thread (ih h')
  | close handle _ ih => exact .close handle (ih h')

/-- No number is given out twice before the counter has come round. -/
lemma Runs.nodup (h : (startingAt start).Runs issued r) (hlength : issued.length < UInt64.size) :
    issued.Nodup := by
  have hturn : InTurn start 0 (([] : List Handle).map Handle.id) (startingAt start).nextId :=
    ⟨Nat.zero_le _, rfl, (UInt64.add_zero start).symm⟩
  have hopen : ∀ id ∈ (startingAt start).explicit, id ∈ ([] : List Handle).map Handle.id :=
    fun id hid => absurd hid Std.ExtTreeMap.not_mem_empty
  obtain ⟨_, hturn'⟩ := h.inTurn hturn hopen hlength
  exact hturn'.nodup.of_map

/-! ## Handles apart -/

/-- **No handle is taken for another.**  Whatever number the counter begins with, after any run:

* the counter comes to a usable number exactly if there is room, and then the next handle gets that
  number, which is not zero and not that of an open handle, and no other handle is touched;
* a handle that is not open cannot be taken back, and nothing is changed by the attempt;
* an open handle is taken out alone, and those that are left are counted;
* every open handle was given out in the run, and none has the number zero;
* however the run goes on, no number is given out twice as long as fewer handles are given out in
  all than there are numbers, so a handle that was taken back can never be taken back again. -/
theorem apart_of_runs (h : (startingAt start).Runs issued r) :
    ((∃ found, Draws r.explicit r.nextId found) ↔ r.HasRoom) ∧
    (r.HasRoom → ∀ thread, ∃ id r', r.issue thread = (⟨id⟩, r')
      ∧ Draws r.explicit r.nextId id ∧ r'.nextId = id + 1 ∧ id ≠ 0 ∧ id ∉ r.explicit
      ∧ ∀ other : UInt64,
        r'.explicit[other]? = if id = other then some thread else r.explicit[other]?) ∧
    (∀ handle : Handle, handle.id ∉ r.explicit → r.close handle = (none, r)) ∧
    (∀ handle : Handle, handle.id ∈ r.explicit → ∃ r',
      r.close handle = (some r'.explicit.size, r')
      ∧ r'.explicit.size + 1 = r.explicit.size
      ∧ (∀ other : UInt64,
        r'.explicit[other]? = if handle.id = other then none else r.explicit[other]?)
      ∧ r' = { r with explicit := r'.explicit }) ∧
    (∀ id ∈ r.explicit, id ≠ 0 ∧ ⟨id⟩ ∈ issued) ∧
    ∀ {later r'}, r.Runs later r' → (issued ++ later).length < UInt64.size →
      (issued ++ later).Nodup
      ∧ ∀ handle ∈ issued, handle.id ∉ r.explicit → r'.close handle = (none, r') := by
  have hopen : ∀ id ∈ r.explicit, id ≠ 0 ∧ (⟨id⟩ : Handle) ∈ issued := fun id hid =>
    have hissued := (h.mem hid).resolve_left Std.ExtTreeMap.not_mem_empty
    ⟨h.ne_zero hissued, hissued⟩
  refine ⟨exists_draws_iff fun hzero => (hopen 0 hzero).1 rfl, fun hroom thread => ?_,
    fun _ => close_of_not_mem, fun _ => close_of_mem, hopen, fun hrest hlength => ?_⟩
  · have hdraws := draws_freeId hroom
    exact ⟨r.freeId, _, rfl, hdraws, rfl, hdraws.usable.1, hdraws.usable.2,
      getElem?_issue r thread⟩
  · have hnodup := (h.append hrest).nodup hlength
    refine ⟨hnodup, fun handle hissued hclosed => close_of_not_mem fun hagain => ?_⟩
    -- it would have to be one of those that were given out later
    have hlater := (hrest.mem hagain).resolve_left hclosed
    exact (List.nodup_append.1 hnodup).2.2 handle hissued handle hlater rfl

/-- Behind the last number comes the number one, and a handle with the last number that was taken
back stays so. -/
theorem apart_behind_the_last_number :
    ∃ r r' : Registry, (startingAt 0xffffffffffffffff).Runs [⟨0xffffffffffffffff⟩, ⟨1⟩] r
      ∧ r.Runs [⟨2⟩] r' ∧ r'.explicit.size = 2
      ∧ ([⟨0xffffffffffffffff⟩, ⟨1⟩] ++ [⟨2⟩] : List Handle).Nodup
      ∧ r'.close ⟨0xffffffffffffffff⟩ = (none, r') := by
  let last : Handle := ⟨0xffffffffffffffff⟩
  let r₀ := startingAt last.id
  let r₁ := (r₀.issue 0).2
  let r₂ := (r₁.issue 1).2
  let r := (r₂.close last).2
  have hroom : r₀.HasRoom ∧ r₁.HasRoom ∧ r.HasRoom := by decide
  have hnumbers : (r₀.issue 0).1 = last ∧ (r₁.issue 1).1 = ⟨1⟩ ∧ (r.issue 2).1 = ⟨2⟩ := by
    decide +kernel
  have hruns : r₀.Runs [(r₀.issue 0).1, (r₁.issue 1).1] r :=
    .issue hroom.1 0 (.issue hroom.2.1 1 (.close last .done))
  have hrest : r.Runs [(r.issue 2).1] (r.issue 2).2 := .issue hroom.2.2 2 .done
  rw [hnumbers.1, hnumbers.2.1] at hruns
  rw [hnumbers.2.2] at hrest
  obtain ⟨-, -, -, -, -, hlater⟩ := apart_of_runs hruns
  obtain ⟨hnodup, hstale⟩ := hlater hrest (by decide)
  exact ⟨_, _, hruns, hrest, by decide +kernel, hnodup,
    hstale last (List.mem_cons_self ..) (by decide +kernel)⟩

end Strongbox.Registry
