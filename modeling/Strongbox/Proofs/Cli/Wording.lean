import Mathlib.Data.List.Infix
import Strongbox.Cli.Failure
import Strongbox.Credential
import Strongbox.Proofs.Host.Reach

/-!
# What the wording of a complaint decides

A fault about an argument decides on an exit code by words in its message, and the message quotes
the path that it is about.

* `holds_iff` — a text holds another one that occurs in it.
* `infix_append_of_border` — an occurrence does not reach into a text that starts otherwise.
* `Complaint.exitCode?` — the exit code that a complaint decides on.
* `Complaint.exitCode?_of_quoted` — a complaint whose code is decided on by the path it quotes.
* **`Complaint.exitCode?_unreachable`**, **`Complaint.exitCode?_notDirectory`**,
  **`Complaint.exitCode?_unreadable`**, **`Complaint.exitCode?_unwritable`** — these are the ones
  about the directory of a container.
* **`Complaint.exitCode?_containerUnwritable`** — and the one about a container that may only be
  read.
* **`Complaint.exitCode?_badCredential`**, **`Complaint.exitCode?_containerUnreadable`** — those on
  which it does not.
-/

namespace Strongbox

/-! ## Words in texts -/

/-- A text holds another one that occurs in it. -/
lemma holds_iff (part text : List Char) : holds part text = true ↔ part <:+: text := by
  induction text with
  | nil => simp [holds]
  | cons c text ih =>
      rw [holds, Bool.or_eq_true, ih, List.isPrefixOf_iff_prefix, List.infix_cons_iff]

section Infix

variable {c : Char} {part front text : List Char}

/-- No word starts in a text without its first letter. -/
lemma infix_append_of_head (hc : c ∉ front) :
    c :: part <:+: front ++ text ↔ c :: part <:+: text := by
  rw [List.infix_append_iff]
  refine ⟨?_, fun h => .inr (.inl h)⟩
  rintro (h | h | ⟨start, rest, hsplit, hstart, hrest⟩)
  · exact absurd (h.mem (List.mem_cons_self ..)) hc
  · exact h
  · cases start with
    | nil => exact hsplit ▸ hrest.isInfix
    | cons d start =>
        obtain ⟨rfl, -⟩ := List.cons.inj hsplit
        exact absurd (hstart.mem (List.mem_cons_self ..)) hc

/-- A word does not reach into a text that starts with no end of it. -/
lemma infix_append_of_border (hborder : ∀ rest ∈ part.tails, rest ≠ [] → ¬ rest <+: text)
    (htext : ¬ part <:+: text) : part <:+: front ++ text ↔ part <:+: front := by
  rw [List.infix_append_iff]
  refine ⟨?_, .inl⟩
  rintro (h | h | ⟨start, rest, rfl, hstart, hrest⟩)
  · exact h
  · exact absurd h htext
  · by_cases hne : rest = []
    · rw [hne, List.append_nil]
      exact hstart.isInfix
    · exact absurd hrest (hborder rest ((List.mem_tails _ _).2 (List.suffix_append ..)) hne)

end Infix

/-! ## Complaints -/

namespace Complaint

variable {complaint : Complaint}

/-- The exit code that a complaint decides on, if it does. -/
def exitCode? (complaint : Complaint) : Option Nat :=
  (Reason.fault (.invalidArgument complaint)).exitCode?

/-- The words by which a missing container is told. -/
def absence : List Char := "does not exist".toList

lemma exitCode?_eq (complaint : Complaint) : complaint.exitCode?
    = if "bad credential".toList.isPrefixOf complaint.message.toList then
        some ExitCode.authenticationFailed
      else if holds absence complaint.message.toList then some ExitCode.notFound
      else none := rfl

/-- A complaint that starts with another letter is none about a credential. -/
lemma exitCode?_of_head {c : Char} {rest : List Char} (h : complaint.message.toList = c :: rest)
    (hc : c ≠ 'b') : complaint.exitCode?
      = if holds absence complaint.message.toList then some ExitCode.notFound else none := by
  rw [exitCode?_eq, if_neg]
  rw [h, List.isPrefixOf_iff_prefix]
  rintro ⟨more, hmore⟩
  exact hc (List.cons.inj hmore).1.symm

/-- A complaint without an x is not about absence either. -/
lemma exitCode?_of_not_mem {c : Char} {rest : List Char} (h : complaint.message.toList = c :: rest)
    (hc : c ≠ 'b') (hx : 'x' ∉ complaint.message.toList) : complaint.exitCode? = none := by
  rw [exitCode?_of_head h hc, if_neg]
  rw [holds_iff]
  exact fun hheld => hx (hheld.mem (by decide))

/-- A refused credential decides on its code, whatever the path of the container. -/
theorem exitCode?_badCredential (path : String) :
    (badCredential path).exitCode? = some ExitCode.authenticationFailed := by
  have htext : (badCredential path).message.toList
      = "bad credential".toList ++ (" for container ".toList ++ path.toList) := by
    show ("bad credential for container " ++ path).toList = _
    rw [String.toList_append]
    rfl
  rw [exitCode?_eq, if_pos]
  rw [htext, List.isPrefixOf_iff_prefix]
  exact List.prefix_append _ _

/-- A missing container decides on its code, whatever its path. -/
theorem exitCode?_containerUnreadable (path : String) :
    (containerUnreadable path).exitCode? = some ExitCode.notFound := by
  have htext : (containerUnreadable path).message.toList
      = ("container ".toList ++ path.toList ++ [' ']) ++ absence
        ++ " or is not readable".toList := by
    show ("container " ++ path ++ " does not exist or is not readable").toList = _
    rw [String.toList_append, String.toList_append]
    simp only [List.append_assoc]
    rfl
  rw [exitCode?_of_head (c := 'c') htext (by decide), if_pos]
  rw [holds_iff, htext]
  exact ⟨_, _, rfl⟩

/-- A path that a complaint quotes decides on its code if it holds the words, where these neither
start in front of the path nor reach into what stands behind it. -/
lemma exitCode?_of_quoted {c : Char} {front path behind : List Char}
    (htext : complaint.message.toList = front ++ (path ++ behind))
    (hhead : (front ++ path).head? = some c) (hc : c ≠ 'b') (hfront : 'd' ∉ front)
    (hborder : ∀ rest ∈ absence.tails, rest ≠ [] → ¬ rest <+: behind)
    (hbehind : ¬ absence <:+: behind) :
    complaint.exitCode? = if holds absence path then some ExitCode.notFound else none := by
  have hwords : absence <:+: complaint.message.toList ↔ absence <:+: path := by
    rw [htext]
    exact (infix_append_of_head hfront).trans (infix_append_of_border hborder hbehind)
  obtain ⟨rest, hrest⟩ := List.head?_eq_some_iff.1 hhead
  have hstart : complaint.message.toList = c :: (rest ++ behind) := by
    rw [htext, ← List.append_assoc, hrest, List.cons_append]
  rw [exitCode?_of_head hstart hc]
  simp only [holds_iff, hwords]

/-- A directory that cannot be reached decides on a code if its path holds the words. -/
theorem exitCode?_unreachable (parent : String) {error : HostError} (h : Host.Unreachable error) :
    (unreachable parent error).exitCode?
      = if holds absence parent.toList then some ExitCode.notFound else none := by
  have htext : (unreachable parent error).message.toList
      = "cannot stat ".toList ++ (parent.toList ++ (": " ++ error.message).toList) := by
    show ("cannot stat " ++ parent ++ ": " ++ error.message).toList = _
    simp only [String.toList_append, List.append_assoc]
  have hend : (∀ rest ∈ absence.tails, rest ≠ [] → ¬ rest <+: (": " ++ error.message).toList)
      ∧ ¬ absence <:+: (": " ++ error.message).toList := by
    cases error with
    | os code => obtain rfl | rfl | rfl | rfl := h <;> decide +kernel
    | nulInPath => decide +kernel
    | emptyPath => cases h
  exact exitCode?_of_quoted (c := 'c') htext rfl (by decide) (by decide +kernel) hend.1 hend.2

section Directory

variable {parent : String} (h : parent.toList.head? = some '/')

include h

/-- A complaint that starts with the path of a directory. -/
lemma exitCode?_of_directory {behind : List Char}
    (htext : complaint.message.toList = parent.toList ++ behind)
    (hborder : ∀ rest ∈ absence.tails, rest ≠ [] → ¬ rest <+: behind)
    (hbehind : ¬ absence <:+: behind) :
    complaint.exitCode?
      = if holds absence parent.toList then some ExitCode.notFound else none := by
  have htext' : complaint.message.toList = [] ++ (parent.toList ++ behind) := htext
  exact exitCode?_of_quoted htext' h (by decide) List.not_mem_nil hborder hbehind

/-- A file in the place of a directory decides on a code if its path holds the words. -/
theorem exitCode?_notDirectory : (notDirectory parent).exitCode?
    = if holds absence parent.toList then some ExitCode.notFound else none :=
  exitCode?_of_directory h String.toList_append (by decide +kernel) (by decide +kernel)

/-- So does a directory that may not be read. -/
theorem exitCode?_unreadable : (unreadable parent).exitCode?
    = if holds absence parent.toList then some ExitCode.notFound else none :=
  exitCode?_of_directory h String.toList_append (by decide +kernel) (by decide +kernel)

/-- So does a directory that may not be written in. -/
theorem exitCode?_unwritable : (unwritable parent).exitCode?
    = if holds absence parent.toList then some ExitCode.notFound else none :=
  exitCode?_of_directory h String.toList_append (by decide +kernel) (by decide +kernel)

end Directory

/-- So does a container that may not be written. -/
theorem exitCode?_containerUnwritable (path : String) : (containerUnwritable path).exitCode?
    = if holds absence path.toList then some ExitCode.notFound else none := by
  have htext : (containerUnwritable path).message.toList
      = "container ".toList ++ (path.toList ++ " is not writable".toList) := by
    show ("container " ++ path ++ " is not writable").toList = _
    simp only [String.toList_append, List.append_assoc]
  exact exitCode?_of_quoted (c := 'c') htext rfl (by decide) (by decide +kernel)
    (by decide +kernel) (by decide +kernel)

/-- What is wrong with a credential in itself decides on no code. -/
lemma exitCode?_of_validate {credential : Credential} {fault : Fault}
    (h : credential.validate = .error fault) :
    ∃ complaint, fault = .invalidArgument complaint ∧ complaint.exitCode? = none := by
  cases credential with
  | password text =>
      change Credential.validatePassword text = _ at h
      rw [Credential.validatePassword] at h
      split at h
      · cases h
        exact ⟨.blankPassword, rfl, by decide +kernel⟩
      · cases h
  | key bytes =>
      change Credential.validateKeyLength bytes.length = _ at h
      rw [Credential.validateKeyLength] at h
      split at h
      · cases h
      · cases h
        have htext : (keyLength bytes.length).message.toList
            = "key must be 32 bytes, got ".toList ++ (Nat.repr bytes.length).toList :=
          String.toList_append
        refine ⟨_, rfl, exitCode?_of_not_mem (c := 'k') htext (by decide) ?_⟩
        rw [htext, List.mem_append, not_or]
        refine ⟨by decide +kernel, fun hx => ?_⟩
        rw [Nat.repr, String.toList_ofList] at hx
        exact absurd (Nat.isDigit_of_mem_toDigits (by decide) (by decide) hx) (by decide)

end Complaint

end Strongbox
