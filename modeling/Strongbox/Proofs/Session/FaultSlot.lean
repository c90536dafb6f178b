import Mathlib.Tactic.Lemma
import Strongbox.Fault

/-!
# Faults held back

A slot holds one fault back, and each fault has room for one cause.  So a fault that is parked behind
another one takes that one for its cause, and gives up the causes that it came with.  Only the first
fault that is parked in an empty slot keeps its own.

* `Fault.links` — a fault and its causes, each on its own.
* `FaultSlot.Use` — the calls on a slot, and `FaultSlot.run` what they make of an empty one.
* `FaultSlot.parkedBy` — the faults parked since the slot was last emptied, and `FaultSlot.kept` what
  is kept of them.
* **`FaultSlot.pending_run`** — what a slot holds after any calls.
* **`FaultSlot.given_of_run`** — what a call gives back after any calls, and when nothing is lost.
* `FaultSlot.lost_behind_another` — it may be that something is.
-/

namespace Strongbox

/-! ## Chains -/

namespace Fault

/-- The fault without the one that led to it. -/
def alone : Fault → Fault
  | .failedAfter operation code _ => .failed operation code
  | fault => fault

/-- A fault and its causes, outermost first, each on its own. -/
def links (fault : Fault) : List Fault :=
  fault.chain.map alone

lemma links_failedAfter (operation : String) (code : Errno) (cause : Fault) :
    (failedAfter operation code cause).links = .failed operation code :: cause.links := rfl

/-- A fault with an error number takes any cause, in the place of its own. -/
lemma links_withCause {fault : Fault} (h : fault.ownErrno?.isSome = true) (cause : Fault) :
    (fault.withCause cause).links = fault.alone :: cause.links := by
  cases fault with
  | failed | failedAfter => exact links_failedAfter _ _ cause
  | invalidArgument | illegalState | notImplemented => cases h

/-- The first link is the fault. -/
lemma links_eq_cons (fault : Fault) :
    fault.links = fault.alone :: (fault.cause?.map links).getD [] := by
  cases fault <;> rfl

lemma links_ne_nil (fault : Fault) : fault.links ≠ [] := by
  rw [links_eq_cons]
  exact List.cons_ne_nil _ _

/-- A fault without a cause is its only link. -/
lemma links_eq_singleton {fault : Fault} : fault.links = [fault.alone] ↔ fault.cause? = none := by
  rw [links_eq_cons, List.cons_inj_right]
  cases fault.cause? with
  | none => exact iff_of_true rfl rfl
  | some cause => exact iff_of_false cause.links_ne_nil (Option.some_ne_none cause)

end Fault

namespace FaultSlot

/-! ## Calls -/

/-- A call on a slot. -/
inductive Use where
  | setPending (fault : Fault)
  | raise (operation : String) (code : Errno)
  | check (operation : String) (code : Int)
  | take
  deriving DecidableEq

namespace Use

/-- The fault that a call gives back, if it does, and the slot behind it. -/
def perform (slot : FaultSlot) : Use → Option Fault × FaultSlot
  | .setPending fault => (none, slot.setPending fault)
  | .raise operation code =>
    let (fault, rest) := slot.raise operation code
    (some fault, rest)
  | .check operation code =>
    match slot.check operation code with
    | (.ok _, rest) => (none, rest)
    | (.error fault, rest) => (some fault, rest)
  | .take => slot.take

/-- The fault that a call itself comes to. -/
def raised? : Use → Option Fault
  | .setPending _ | .take => none
  | .raise operation code => some (.failed operation code)
  | .check operation code =>
    if 0 ≤ code then none else some (.failed operation (.ofCode (-code)))

/-- Whether a call takes out what is held back. -/
def empties (use : Use) : Bool :=
  use = .take || use.raised?.isSome

/-- Whether what a call parks, if anything, has an error number. -/
def numbered : Use → Bool
  | .setPending fault => fault.ownErrno?.isSome
  | _ => true

lemma empties_check {operation : String} {code : Int} :
    (check operation code).empties = true ↔ ¬ 0 ≤ code := by
  by_cases h : 0 ≤ code <;> simp [empties, raised?, h]

/-- The faults that are parked behind a call, newest first. -/
def park (parked : List Fault) (use : Use) : List Fault :=
  match use with
  | .setPending fault => fault :: parked
  | _ => if use.empties then [] else parked

lemma park_of_empties {use : Use} (h : use.empties = true) (parked : List Fault) :
    use.park parked = [] := by
  cases use with
  | setPending fault => cases h
  | raise | check | take => simp only [park, h, if_true]

lemma park_check {operation : String} {code : Int} (h : 0 ≤ code) (parked : List Fault) :
    (check operation code).park parked = parked := by
  have hkeeps : ¬ (check operation code).empties = true := mt empties_check.1 (not_not_intro h)
  rw [park, if_neg hkeeps]
  exact fun _ => Use.noConfusion

end Use

/-- What calls make of an empty slot. -/
def run (uses : List Use) : FaultSlot :=
  uses.foldl (fun slot use => (use.perform slot).2) .empty

/-- The faults that calls have parked since the slot was last emptied, newest first. -/
def parkedBy (uses : List Use) : List Fault :=
  uses.foldl Use.park []

/-- What is kept of faults that were parked, newest first: of the first one its causes too, and of
those behind it nothing but themselves. -/
def kept : List Fault → List Fault
  | [] => []
  | [first] => first.links
  | fault :: older => fault.alone :: kept older

/-! ## What a slot holds -/

/-- A slot holds these links, outermost first. -/
def Held (slot : FaultSlot) (links : List Fault) : Prop :=
  (slot.pending.map Fault.links).getD [] = links

variable {slot : FaultSlot} {fault : Fault} {parked : List Fault} {use : Use} {uses : List Use}

lemma kept_cons (h : parked ≠ []) (fault : Fault) :
    kept (fault :: parked) = fault.alone :: kept parked := by
  cases parked with
  | nil => exact absurd rfl h
  | cons first older => rfl

lemma kept_eq_nil : kept parked = [] ↔ parked = [] := by
  match parked with
  | [] => exact iff_of_true rfl rfl
  | [first] => exact iff_of_false first.links_ne_nil (List.cons_ne_nil _ _)
  | _ :: _ :: _ => exact iff_of_false (List.cons_ne_nil _ _) (List.cons_ne_nil _ _)

namespace Held

/-- A slot is empty exactly if it holds no links. -/
lemma pending_eq_none (h : slot.Held (kept parked)) : slot.pending = none ↔ parked = [] := by
  rw [← kept_eq_nil, ← h]
  cases slot.pending with
  | none => exact iff_of_true rfl rfl
  | some fault => exact iff_of_false (Option.some_ne_none _) fault.links_ne_nil

/-- A fault with an error number goes in front of what a slot holds. -/
lemma links_chain (h : slot.Held (kept parked)) (hcode : fault.ownErrno?.isSome = true) :
    (slot.chain fault).1.links = kept (fault :: parked) := by
  cases hpending : slot.pending with
  | none =>
      rw [h.pending_eq_none.1 hpending, chain, hpending, kept]
  | some cause =>
      have hsome : parked ≠ [] := fun hnil => by
        rw [h.pending_eq_none.2 hnil] at hpending
        cases hpending
      rw [chain, hpending, kept_cons hsome, ← h, hpending]
      exact Fault.links_withCause hcode cause

/-- What is chained onto a new failure leaves the slot. -/
lemma links_chain_failed (h : slot.Held (kept parked)) (operation : String) (code : Errno) :
    (slot.chain (.failed operation code)).1.links = .failed operation code :: kept parked := by
  rw [h.links_chain rfl]
  cases parked with
  | nil => rfl
  | cons first older => rfl

end Held

lemma snd_chain (slot : FaultSlot) (fault : Fault) : (slot.chain fault).2 = .empty := by
  rw [chain]
  split <;> rfl

lemma check_of_nonneg (slot : FaultSlot) (operation : String) {code : Int} (h : 0 ≤ code) :
    slot.check operation code = (.ok code.toNat, slot) := by
  rw [check, Strongbox.check, if_pos h]

lemma check_of_neg (slot : FaultSlot) (operation : String) {code : Int} (h : ¬ 0 ≤ code) :
    slot.check operation code = (.error (slot.chain (.failed operation (.ofCode (-code)))).1,
      (slot.chain (.failed operation (.ofCode (-code)))).2) := by
  rw [check, Strongbox.check, if_neg h]

/-- A call that takes out what is held back gives it back behind its own fault, and leaves the slot
empty. -/
lemma Held.perform (h : slot.Held (kept parked)) (hempties : use.empties = true) :
    (use.perform slot).2 = .empty
      ∧ ((use.perform slot).1.map Fault.links).getD [] = use.raised?.toList ++ kept parked := by
  cases use with
  | setPending fault => cases hempties
  | raise operation code => exact ⟨snd_chain _ _, h.links_chain_failed operation code⟩
  | check operation code =>
      have hcode := Use.empties_check.1 hempties
      rw [Use.perform, check_of_neg slot operation hcode, Use.raised?, if_neg hcode]
      exact ⟨snd_chain _ _, h.links_chain_failed operation _⟩
  | take => exact ⟨rfl, h⟩

/-- One call keeps the slot in step with what was parked. -/
lemma Held.step (h : slot.Held (kept parked)) (hcode : use.numbered = true) :
    (use.perform slot).2.Held (kept (use.park parked)) := by
  cases hempties : use.empties with
  | true =>
      rw [(h.perform hempties).1, Use.park_of_empties hempties]
      rfl
  | false =>
      cases use with
      | setPending fault => exact h.links_chain hcode
      | raise | take => cases hempties
      | check operation code =>
          have hcode : 0 ≤ code :=
            Decidable.not_not.1 (mt Use.empties_check.2 (ne_true_of_eq_false hempties))
          rw [Use.perform, check_of_nonneg slot operation hcode, Use.park_check hcode]
          exact h

/-- **What a slot holds** is what is kept of the faults that were parked since it was last
emptied. -/
theorem pending_run (h : ∀ use ∈ uses, use.numbered = true) :
    (run uses).Held (kept (parkedBy uses)) := by
  have hheld : FaultSlot.empty.Held (kept []) := rfl
  rw [run, parkedBy]
  generalize FaultSlot.empty = slot, ([] : List Fault) = parked at hheld
  induction uses generalizing slot parked with
  | nil => exact hheld
  | cons use uses ih =>
      rw [List.forall_mem_cons] at h
      exact ih h.2 _ _ (hheld.step h.1)

/-! ## What is lost -/

lemma length_kept_le (parked : List Fault) :
    (kept parked).length ≤ (parked.flatMap Fault.links).length := by
  match parked with
  | [] => exact Nat.le_refl _
  | [first] => simp [kept]
  | fault :: first :: older =>
      have hrest := length_kept_le (first :: older)
      rw [kept_cons (List.cons_ne_nil _ _), List.flatMap_cons, fault.links_eq_cons,
        List.length_append, List.length_cons, List.length_cons]
      omega

/-- All links are kept exactly if nothing but the first fault has a cause of its own. -/
lemma kept_eq_flatMap (parked : List Fault) :
    kept parked = parked.flatMap Fault.links ↔ ∀ fault ∈ parked.dropLast, fault.cause? = none := by
  match parked with
  | [] => simp [kept]
  | [first] => simp [kept]
  | fault :: first :: older =>
      rw [kept_cons (List.cons_ne_nil _ _), List.flatMap_cons, List.dropLast_cons_cons,
        List.forall_mem_cons, ← kept_eq_flatMap (first :: older), ← Fault.links_eq_singleton]
      constructor
      · intro h
        have hle := length_kept_le (first :: older)
        have hlength := congrArg List.length h
        rw [fault.links_eq_cons] at h hlength ⊢
        generalize (fault.cause?.map Fault.links).getD [] = causes at h hlength ⊢
        rw [List.length_cons, List.length_append, List.length_cons] at hlength
        obtain rfl : causes = [] := List.length_eq_zero_iff.1 (by omega)
        exact ⟨rfl, (List.cons_inj_right _).1 h⟩
      · rintro ⟨hsame, hrest⟩
        rw [hsame, hrest]
        rfl

/-! ## Any calls -/

/-- After any calls that park failures with an error number, a call that takes out what is held back
gives back its own fault, if it has one, and behind it the parked ones, newest first and each exactly
once.  The first that was parked is followed by its own causes, and no other is, so that nothing is
lost exactly if no other came with any.  The slot is empty behind such a call, and a successful check
leaves it as it is. -/
theorem given_of_run (h : ∀ use ∈ uses, use.numbered = true) :
    (∀ use : Use, use.empties = true →
      (use.perform (run uses)).2 = .empty
      ∧ ((use.perform (run uses)).1.map Fault.links).getD []
        = use.raised?.toList ++ kept (parkedBy uses)) ∧
    (kept (parkedBy uses) = (parkedBy uses).flatMap Fault.links
      ↔ ∀ fault ∈ (parkedBy uses).dropLast, fault.cause? = none) ∧
    ((run uses).pending = none ↔ parkedBy uses = []) ∧
    ∀ operation code, 0 ≤ code → (run uses).check operation code = (.ok code.toNat, run uses) :=
  ⟨fun _ hempties => (pending_run h).perform hempties, kept_eq_flatMap _,
    (pending_run h).pending_eq_none, fun operation _ => check_of_nonneg _ operation⟩

/-- The first of two parked faults comes with a cause, and a check in between succeeds. -/
theorem given_after_check :
    let uses : List Use := [.take,
      .setPending (.failedAfter "access" .accessDenied (.failed "stat" .ioFailure)),
      .check "read" 3, .setPending (.failed "open" .noEntry)]
    (∀ use ∈ uses, use.numbered = true) ∧ ((Use.check "close" (-5)).perform (run uses)).1.map Fault.links
      = some [.failed "close" .ioFailure, .failed "open" .noEntry, .failed "access" .accessDenied,
        .failed "stat" .ioFailure] := by
  intro uses
  have huses : ∀ use ∈ uses, use.numbered = true := by decide
  obtain ⟨-, hlinks⟩ := (given_of_run huses).1 (.check "close" (-5)) (by decide)
  exact ⟨huses, (Option.getD_eq_iff.1 hlinks).resolve_right (by decide)⟩

/-- What led to a fault is forgotten when the fault is parked behind another one. -/
theorem lost_behind_another :
    let uses : List Use := [.setPending (.failed "access" .accessDenied),
      .setPending (.failedAfter "stat" .noEntry (.failed "read" .ioFailure))]
    let given := (((Use.raise "open" .invalid).perform (run uses)).1.map Fault.links).getD []
    (∀ use ∈ uses, use.numbered = true) ∧
    given = [.failed "open" .invalid, .failed "stat" .noEntry, .failed "access" .accessDenied] ∧
    given ≠ (Use.raise "open" .invalid).raised?.toList ++ (parkedBy uses).flatMap Fault.links := by
  decide

end FaultSlot

end Strongbox
