import Strongbox.Proofs.Json.Token

/-!
# JSON written and read back

What the store writes is JSON without blanks, and the reader makes the same value of it.  Since the
reader takes a text from the front and gives back what is left, the statement is about a text with
anything behind it, as long as that does not go on with a number.

* `Proper` — values whose tokens are well-formed, which all values that the store writes are.
* `value_render` — the reader finds a proper value and its end.
* **`parse_render`** — a proper value is read back.
-/

namespace Strongbox.Json

/-! ## Numbers and their ends -/

/-- What may stand behind a number: anything that does not go on with it. -/
def EndsNumber (rest : Bytes) : Prop :=
  ∀ b, rest.head? = some b → isDigit b = false ∧ b ≠ 46 ∧ b ≠ 101 ∧ b ≠ 69

lemma EndsNumber.cons {b : UInt8} (h : isDigit b = false ∧ b ≠ 46 ∧ b ≠ 101 ∧ b ≠ 69)
    (rest : Bytes) : EndsNumber (b :: rest) := by
  intro c hc
  obtain rfl := Option.some.inj hc
  exact h

lemma EndsNumber.nil : EndsNumber [] := fun _ h => nomatch h

lemma digits_append {token rest : Bytes} (hne : token ≠ []) (hd : ∀ b ∈ token, isDigit b = true)
    (hr : EndsNumber rest) : digits (token ++ rest) = some (token, rest) := by
  have hrest : rest.takeWhile isDigit = [] ∧ rest.dropWhile isDigit = rest := by
    cases rest with
    | nil => exact ⟨rfl, rfl⟩
    | cons b rest => simp [(hr b rfl).1]
  rw [digits, List.takeWhile_append_of_pos hd, List.dropWhile_append_of_pos hd, hrest.1, hrest.2,
    List.append_nil]
  simp [hne]

lemma fractionPart_of_ends {rest : Bytes} (hr : EndsNumber rest) :
    fractionPart rest = some ([], rest) := by
  unfold fractionPart
  split
  · exact absurd rfl (hr _ rfl).2.1
  · rfl

lemma exponentPart_of_ends {rest : Bytes} (hr : EndsNumber rest) :
    exponentPart rest = some ([], rest) := by
  unfold exponentPart
  split
  · rw [if_neg]
    simpa using (hr _ rfl).2.2
  · rw [if_neg]
    simpa using (hr _ rfl).2.2
  · rfl

/-- A decimal token ends where its digits do. -/
lemma numberToken_append {token rest : Bytes} (h : IsDecimal token) (hr : EndsNumber rest) :
    numberToken (token ++ rest) = some (token, rest) := by
  obtain ⟨first, others, rfl⟩ := List.exists_cons_of_ne_nil h.ne_nil
  have hwhole : wholePart (first :: others ++ rest) = some (first :: others, rest) := by
    unfold wholePart
    split
    · next more he =>
        -- a zero in front is the only digit
        obtain ⟨rfl, rfl⟩ := List.cons.inj he
        cases others with
        | nil => rfl
        | cons second others => exact absurd rfl (h.no_zero 48 second others rfl)
    · exact digits_append h.ne_nil h.isDigit hr
  have hsign : first ≠ 45 := by
    rintro rfl
    exact absurd (h.isDigit 45 (by simp)) (by decide)
  unfold numberToken
  split
  next sign text hmatch =>
  split at hmatch
  · next more he => exact absurd (List.cons.inj he).1 hsign
  · obtain ⟨rfl, rfl⟩ := Prod.mk.inj hmatch
    rw [hwhole]
    simp only [Option.bind_eq_bind, Option.bind_some, fractionPart_of_ends hr,
      exponentPart_of_ends hr, List.nil_append, List.append_nil]

/-! ## Values that the store writes -/

mutual

/-- Whether the tokens of a value are well-formed, with natural numbers as its only numbers. -/
def Proper : Json → Prop
  | .number token => IsDecimal token
  | .string token => IsStringToken token
  | .array items => ProperItems items
  | .object fields => ProperFields fields
  | _ => True
termination_by structural value => value

def ProperItems : List Json → Prop
  | [] => True
  | item :: items => Proper item ∧ ProperItems items
termination_by structural items => items

def ProperFields : List (Bytes × Json) → Prop
  | [] => True
  | field :: fields => ProperField field ∧ ProperFields fields
termination_by structural fields => fields

def ProperField : Bytes × Json → Prop
  | (name, value) => IsStringToken name ∧ Proper value
termination_by structural field => field

end

/-- No digit is white space. -/
lemma isSpace_of_isDigit {b : UInt8} (h : isDigit b = true) : isSpace b = false := by
  rw [Bool.eq_false_iff]
  intro hs
  simp only [isSpace, Bool.or_eq_true, beq_iff_eq] at hs
  rcases hs with ((rfl | rfl) | rfl) | rfl <;> exact absurd h (by decide)

lemma skipSpace_cons {b : UInt8} (h : isSpace b = false) (rest : Bytes) :
    skipSpace (b :: rest) = b :: rest := by
  simp [skipSpace, h]

/-- What a value starts with: no white space, and nothing that closes an array. -/
lemma exists_render_cons {json : Json} (h : Proper json) :
    ∃ b tail, json.render = b :: tail ∧ isSpace b = false ∧ b ≠ 93 := by
  cases json with
  | null => exact ⟨110, _, rfl, rfl, by decide⟩
  | bool value => cases value <;> exact ⟨_, _, rfl, rfl, by decide⟩
  | number token =>
      obtain ⟨b, tail, rfl⟩ := List.exists_cons_of_ne_nil (IsDecimal.ne_nil h)
      have hb : isDigit b = true := IsDecimal.isDigit h b (by simp)
      refine ⟨b, tail, rfl, isSpace_of_isDigit hb, ?_⟩
      rintro rfl
      exact absurd hb (by decide)
  | string token => exact ⟨34, _, rfl, rfl, by decide⟩
  | array items => cases items <;> exact ⟨91, _, rfl, rfl, by decide⟩
  | object fields => cases fields <;> exact ⟨123, _, rfl, rfl, by decide⟩

/-! ## Reading -/

/-- Behind a comma, and behind the end of an array or an object, no number goes on. -/
lemma endsNumber_comma (rest : Bytes) : EndsNumber (44 :: rest) := .cons (by decide) rest

lemma endsNumber_bracket (rest : Bytes) : EndsNumber (93 :: rest) := .cons (by decide) rest

lemma endsNumber_brace (rest : Bytes) : EndsNumber (125 :: rest) := .cons (by decide) rest

variable {fuel : Nat} {token name text more rest : Bytes} {item : Json}

/-- A string is read up to the quote that closes it. -/
lemma stringRest_append (h : IsStringToken token) :
    stringRest (token ++ 34 :: rest) = some (token, rest) :=
  h [] rest

lemma value_number (h : IsDecimal token) (hr : EndsNumber rest) :
    value (fuel + 1) (token ++ rest) = some (.number token, rest) := by
  have hnumber := numberToken_append h hr
  obtain ⟨b, others, rfl⟩ := List.exists_cons_of_ne_nil h.ne_nil
  have hb : isDigit b = true := h.isDigit b (by simp)
  have hother : ∀ {c : UInt8}, isDigit c = false → b ≠ c := by
    rintro c hc rfl
    rw [hb] at hc
    cases hc
  -- the first digit tells a number from everything else
  have hword : ∀ {c : UInt8} {word : Bytes}, isDigit c = false →
      word? (c :: word) (b :: others ++ rest) = none := by
    intro c word hc
    rw [word?, if_neg]
    simp [List.isPrefixOf, (hother hc).symm]
  rw [value, List.cons_append, skipSpace_cons (isSpace_of_isDigit hb)]
  split
  · next he => exact absurd (List.cons.inj he).1 (hother (by decide))
  · next he => exact absurd (List.cons.inj he).1 (hother (by decide))
  · next he => exact absurd (List.cons.inj he).1 (hother (by decide))
  · rw [← List.cons_append, show ascii "null" = 110 :: [117, 108, 108] from rfl,
      show ascii "true" = 116 :: [114, 117, 101] from rfl,
      show ascii "false" = 102 :: [97, 108, 115, 101] from rfl, hword (by decide),
      hword (by decide), hword (by decide)]
    simp only [hnumber, Option.map_some]

lemma quote_append (token rest : Bytes) : quote token ++ rest = 34 :: (token ++ 34 :: rest) := by
  simp [quote]

lemma value_string (h : IsStringToken token) :
    value (fuel + 1) (quote token ++ rest) = some (.string token, rest) := by
  rw [quote_append, value, skipSpace_cons (by decide)]
  simp only [stringRest_append h, Option.map_some]

lemma value_array {list : List Json} {b : UInt8} (hspace : isSpace b = false) (hb : b ≠ 93)
    (h : items fuel (b :: text) = some (list, rest)) :
    value (fuel + 1) (91 :: b :: text) = some (.array list, rest) := by
  rw [value, skipSpace_cons (by decide)]
  simp only [skipSpace_cons hspace]
  split
  · next he => exact absurd (List.cons.inj he).1 hb
  · rw [h]
    rfl

lemma value_object {list : List (Bytes × Json)}
    (h : fields fuel (34 :: text) = some (list, rest)) :
    value (fuel + 1) (123 :: 34 :: text) = some (.object list, rest) := by
  rw [value, skipSpace_cons (by decide)]
  simp only [skipSpace_cons (show isSpace 34 = false by decide)]
  split
  · next he => exact absurd (List.cons.inj he).1 (by decide)
  · rw [h]
    rfl

lemma items_last (h : value fuel text = some (item, 93 :: rest)) :
    items (fuel + 1) text = some ([item], rest) := by
  rw [items, h]
  rfl

lemma items_more {list : List Json} (h : value fuel text = some (item, 44 :: more))
    (hmore : items fuel more = some (list, rest)) :
    items (fuel + 1) text = some (item :: list, rest) := by
  rw [items, h]
  simp only [Option.bind_eq_bind, Option.bind_some,
    skipSpace_cons (show isSpace 44 = false by decide), hmore]

lemma fields_last (hname : IsStringToken name) (h : value fuel text = some (item, 125 :: rest)) :
    fields (fuel + 1) (quote name ++ 58 :: text) = some ([(name, item)], rest) := by
  rw [quote_append, fields, skipSpace_cons (by decide)]
  simp only [stringRest_append hname, Option.bind_eq_bind,
    Option.bind_some, skipSpace_cons (show isSpace 58 = false by decide), h,
    skipSpace_cons (show isSpace 125 = false by decide)]

lemma fields_more {list : List (Bytes × Json)} (hname : IsStringToken name)
    (h : value fuel text = some (item, 44 :: more))
    (hmore : fields fuel more = some (list, rest)) :
    fields (fuel + 1) (quote name ++ 58 :: text) = some ((name, item) :: list, rest) := by
  rw [quote_append, fields, skipSpace_cons (by decide)]
  simp only [stringRest_append hname, Option.bind_eq_bind,
    Option.bind_some, skipSpace_cons (show isSpace 58 = false by decide), h,
    skipSpace_cons (show isSpace 44 = false by decide), hmore]

/-- Whatever the reader has fuel for is read.  The induction is on the fuel, for values, items and
fields at once, and a text has to be shorter than the fuel is. -/
lemma value_render (fuel : Nat) :
    (∀ json rest, Proper json → json.render.length < fuel → EndsNumber rest →
      value fuel (json.render ++ rest) = some (json, rest))
    ∧ (∀ item list rest, ProperItems (item :: list) →
      (item.render ++ renderItems list).length + 1 < fuel →
      items fuel (item.render ++ renderItems list ++ 93 :: rest) = some (item :: list, rest))
    ∧ (∀ field list rest, ProperFields (field :: list) →
      (renderField field ++ renderFields list).length + 1 < fuel →
      fields fuel (renderField field ++ renderFields list ++ 125 :: rest)
        = some (field :: list, rest)) := by
  induction fuel with
  | zero =>
      exact ⟨fun _ _ _ h => absurd h (Nat.not_lt_zero _),
        fun _ _ _ _ h => absurd h (Nat.not_lt_zero _),
        fun _ _ _ _ h => absurd h (Nat.not_lt_zero _)⟩
  | succ fuel ih =>
      obtain ⟨hvalue, hitems, hfields⟩ := ih
      refine ⟨fun json rest hp hlen hr => ?_, fun item list rest hp hlen => ?_,
        fun field list rest hp hlen => ?_⟩
      · cases json with
        | null => rfl
        | bool b => cases b <;> rfl
        | number token => exact value_number hp hr
        | string token => exact value_string hp
        | array list =>
            cases list with
            | nil => rfl
            | cons item list =>
                obtain ⟨b, tail, hb, hspace, hne⟩ := exists_render_cons hp.1
                have hin := hitems item list rest hp (by
                  simp only [render, List.length_append, List.length_cons] at hlen ⊢
                  omega)
                rw [render]
                simp only [List.cons_append, List.append_assoc, List.nil_append, hb] at hin ⊢
                exact value_array hspace hne hin
        | object list =>
            cases list with
            | nil => rfl
            | cons field list =>
                obtain ⟨name, value⟩ := field
                have hin := hfields (name, value) list rest hp (by
                  simp only [render, List.length_append, List.length_cons] at hlen ⊢
                  omega)
                rw [render]
                simp only [renderField, quote, List.cons_append, List.append_assoc,
                  List.nil_append] at hin ⊢
                exact value_object hin
      · cases list with
        | nil =>
            simp only [renderItems, List.append_nil] at hlen ⊢
            exact items_last (hvalue item (93 :: rest) hp.1 (by omega) (endsNumber_bracket rest))
        | cons second list =>
            obtain ⟨b, tail, hb, -, -⟩ := exists_render_cons hp.1
            simp only [renderItems, List.length_append, List.length_cons, hb] at hlen
            have hmore := hitems second list rest hp.2 (by
              simp only [List.length_append]
              omega)
            have hfirst := hvalue item (44 :: (second.render ++ renderItems list ++ 93 :: rest))
              hp.1 (by rw [hb, List.length_cons]; omega) (endsNumber_comma _)
            rw [renderItems, List.append_assoc]
            exact items_more hfirst hmore
      · obtain ⟨name, item⟩ := field
        cases list with
        | nil =>
            simp only [renderFields, List.append_nil, renderField, quote, List.length_append,
              List.length_cons] at hlen
            have hitem := hvalue item (125 :: rest) hp.1.2 (by omega) (endsNumber_brace rest)
            simp only [renderFields, renderField, List.append_nil, List.append_assoc,
              List.cons_append]
            exact fields_last hp.1.1 hitem
        | cons second list =>
            simp only [renderFields, renderField, quote, List.length_append, List.length_cons]
              at hlen
            have hmore := hfields second list rest hp.2 (by
              simp only [List.length_append]
              omega)
            have hitem := hvalue item
              (44 :: (renderField second ++ renderFields list ++ 125 :: rest)) hp.1.2 (by omega)
              (endsNumber_comma _)
            simp only [renderFields, renderField, List.append_assoc, List.cons_append]
              at hitem hmore ⊢
            exact fields_more hp.1.1 hitem hmore

/-- A proper value is read back from its text. -/
theorem parse_render {json : Json} (h : Proper json) : parse json.render = some json := by
  have hread := (value_render (json.render.length + 1)).1 json [] h (Nat.lt_succ_self _) .nil
  rw [List.append_nil] at hread
  rw [parse, hread]
  rfl

end Strongbox.Json
