import Strongbox.Json.Record
import Strongbox.Proofs.Json.Reader

/-!
# Records written and read back

The store writes a record as an object, whose fields have plain names.  What the reader of the
record then finds is the list of its fields, with nothing in place of those that were left out.

* `written` — the object that a record is written as.
* **`record?_written`** — its fields are found by name.
* `proper_written` — it is proper JSON if its values are.
-/

namespace Strongbox.Json

variable {fields : List (String × Json)} {names : List String}

/-- The object of a list of fields. -/
def written (fields : List (String × Json)) : Json :=
  .object (fields.map fun field => (ascii field.1, field.2))

/-- The names of the fields are read back. -/
lemma namedFields?_written (h : ∀ name ∈ fields.map (·.1), IsPlainText name) :
    namedFields? (fields.map fun field => (ascii field.1, field.2)) = some fields := by
  rw [namedFields?, List.mapM_map]
  induction fields with
  | nil => rfl
  | cons field fields ih =>
      simp only [List.map_cons, List.forall_mem_cons] at h
      have hname := tokenText?_ascii h.1
      have ih := ih h.2
      simp only [List.mapM_cons, Function.comp_apply, hname, Option.map_some, Option.bind_eq_bind,
        Option.bind_some, ih]
      rfl

/-- A name that no two fields share has one field or none. -/
lemma single?_named (hnodup : (fields.map (·.1)).Nodup) (name : String) :
    single? (named name fields) = some (fields.lookup name) := by
  induction fields with
  | nil => rfl
  | cons field fields ih =>
      obtain ⟨first, value⟩ := field
      simp only [List.map_cons, List.nodup_cons, List.mem_map, not_exists, not_and] at hnodup
      by_cases h : first = name
      · subst h
        have hnone : fields.filter (fun field => field.1 == first) = [] := by
          rw [List.filter_eq_nil_iff]
          intro field hf he
          exact hnodup.1 field hf (beq_iff_eq.1 he)
        simp [named, hnone, single?]
      · have hlookup : ((first, value) :: fields).lookup name = fields.lookup name := by
          rw [List.lookup_cons, beq_false_of_ne (Ne.symm h)]
        have hnamed : named name ((first, value) :: fields) = named name fields := by
          simp [named, h]
        rw [hnamed, hlookup, ih hnodup.2]

/-- The fields of a record are found again, and what was left out is missing. -/
theorem record?_written (strangers : Strangers) (given : List String)
    (hgiven : fields.map (·.1) = given) (hplain : ∀ name ∈ given, IsPlainText name)
    (hnodup : given.Nodup) (hknown : ∀ name ∈ given, name ∈ names) :
    record? strangers names (written fields) = some (names.map fun name => fields.lookup name) := by
  subst hgiven
  rw [written, record?, namedFields?_written hplain]
  have hall : fields.all (fun field => names.contains field.1) = true := by
    rw [List.all_eq_true]
    exact fun field hf => by simpa using hknown field.1 (List.mem_map_of_mem hf)
  simp only [Option.bind_eq_bind, Option.bind_some, hall, Bool.not_true, Bool.false_eq_true,
    and_false, if_false]
  clear hknown hall
  induction names with
  | nil => rfl
  | cons name names ih =>
      rw [List.mapM_cons, single?_named hnodup, ih]
      rfl

/-! ## Plain values -/

lemma proper_ofNat (n : Nat) : Proper (ofNat n) := isDecimal_decimal n

lemma proper_ofText (text : String) : Proper (ofText text) := isStringToken_escape _

lemma proper_ascii {text : String} (h : IsPlainText text) : Proper (.string (ascii text)) :=
  isStringToken_plain (plain_ascii h)

/-- A string value that was written for a text means the text. -/
lemma text?_ofText (text : String) : (ofText text).text? = some text := tokenText?_escape text

lemma text?_ascii {text : String} (h : IsPlainText text) :
    (Json.string (ascii text)).text? = some text :=
  tokenText?_ascii h

/-- A written record is proper if its values are. -/
lemma proper_written (given : List String) (hgiven : fields.map (·.1) = given)
    (hplain : ∀ name ∈ given, IsPlainText name) (hvalues : ∀ field ∈ fields, Proper field.2) :
    Proper (written fields) := by
  subst hgiven
  rw [written, Proper]
  induction fields with
  | nil => trivial
  | cons field fields ih =>
      simp only [List.map_cons, List.forall_mem_cons] at hplain hvalues
      exact ⟨⟨isStringToken_plain (plain_ascii hplain.1), hvalues.1⟩, ih hvalues.2 hplain.2⟩

end Strongbox.Json
