import MediaFilter.Json.Fields
import MediaFilter.Proofs.Json.Scanning

/-!
A plain value is read back from its compact text.  Plain values have no doubles in them, and every
number fits into a word of 64 bits.
-/

namespace MediaFilter.Json

inductive Plain : Json → Prop
  | null : Plain .null
  | truth (value : Bool) : Plain (.truth value)
  | integer {value : Int} (least : Text.leastInt64 ≤ value)
      (greatest : value ≤ Text.greatestUInt64) : Plain (.integer value)
  | text (value : String) : Plain (.text value)
  | list {items : List Json} (plain : ∀ item ∈ items, Plain item) : Plain (.list items)
  | record {fields : List (String × Json)} (plain : ∀ field ∈ fields, Plain field.2) :
      Plain (.record fields)

theorem plain_texts (values : List String) : Plain (texts values) := by
  refine .list fun item member => ?_
  obtain ⟨value, _, rfl⟩ := List.mem_map.1 member
  exact .text value

theorem delimited_moreItems (items : List Json) : Delimited (moreItems items) := by
  cases items with
  | nil => exact ⟨_, _, moreItems.eq_1, trivial⟩
  | cons item items => exact ⟨_, _, moreItems.eq_2 item items, trivial⟩

theorem delimited_moreFields (fields : List (String × Json)) :
    Delimited (moreFields fields) := by
  cases fields with
  | nil => exact ⟨_, _, moreFields.eq_1, trivial⟩
  | cons field fields => exact ⟨_, _, moreFields.eq_2 field fields, trivial⟩

theorem legible_moreItems {items : List Json} (legible : ∀ item ∈ items, Legible item.tokens) :
    Legible (moreItems items) := by
  induction items with
  | nil => exact closed_listClose.legible
  | cons item items induction =>
      have more := induction fun other member => legible other (List.mem_cons_of_mem _ member)
      rw [moreItems]
      exact .cons closed_comma
        (.append (legible item List.mem_cons_self) more (delimited_moreItems items))

theorem legible_moreFields {fields : List (String × Json)}
    (legible : ∀ field ∈ fields, Legible field.2.tokens) : Legible (moreFields fields) := by
  induction fields with
  | nil => exact closed_recordClose.legible
  | cons field fields induction =>
      have more := induction fun other member => legible other (List.mem_cons_of_mem _ member)
      rw [moreFields]
      exact .cons closed_comma (.cons (closed_text field.1) (.cons closed_colon
        (.append (legible field List.mem_cons_self) more (delimited_moreFields fields))))

theorem Plain.legible {value : Json} (plain : value.Plain) : Legible value.tokens := by
  induction plain with
  | null => exact closed_null.legible
  | truth value => exact (closed_truth value).legible
  | integer least greatest => exact legible_integer least greatest
  | text value => exact (closed_text value).legible
  | @list items _ induction =>
      cases items with
      | nil => exact .cons closed_listOpen closed_listClose.legible
      | cons item items =>
          have more := legible_moreItems fun other member =>
            induction other (List.mem_cons_of_mem _ member)
          rw [tokens]
          exact .cons closed_listOpen
            (.append (induction item List.mem_cons_self) more (delimited_moreItems items))
  | @record fields _ induction =>
      cases fields with
      | nil => exact .cons closed_recordOpen closed_recordClose.legible
      | cons field fields =>
          have more := legible_moreFields fun other member =>
            induction other (List.mem_cons_of_mem _ member)
          rw [tokens]
          exact .cons closed_recordOpen (.cons (closed_text field.1) (.cons closed_colon
            (.append (induction field List.mem_cons_self) more (delimited_moreFields fields))))

/-! The value is parsed back from its tokens.  A unit of fuel for each token is enough. -/

def Parses (value : Json) : Prop :=
  ∀ fuel rest, value.tokens.length ≤ fuel →
    parseValue? fuel (value.tokens ++ rest) = some (value, rest)

theorem tokens_ne_listClose (value : Json) (rest : List Token) :
    value.tokens ≠ .listClose :: rest := by
  intro equation
  unfold tokens at equation
  split at equation <;> cases equation

theorem parseItems?_tokens {item : Json} {items : List Json} {fuel : Nat} {rest : List Token}
    (parses : ∀ other ∈ item :: items, Parses other)
    (enough : (item.tokens ++ moreItems items).length ≤ fuel) :
    parseItems? fuel (item.tokens ++ moreItems items ++ rest) = some (item :: items, rest) := by
  induction items generalizing item fuel with
  | nil =>
      rw [moreItems, List.length_append, List.length_singleton] at enough
      obtain ⟨fuel, rfl⟩ : ∃ less, fuel = less + 1 := ⟨fuel - 1, by omega⟩
      have first := parses item List.mem_cons_self fuel (.listClose :: rest) (by omega)
      rw [moreItems, List.append_assoc, parseItems?, List.singleton_append, first]
  | cons next items induction =>
      rw [moreItems, List.cons_append, List.length_append, List.length_cons] at enough
      obtain ⟨fuel, rfl⟩ : ∃ less, fuel = less + 1 := ⟨fuel - 1, by omega⟩
      have first := parses item List.mem_cons_self fuel
        (.comma :: (next.tokens ++ moreItems items ++ rest)) (by omega)
      have others : parseItems? fuel (next.tokens ++ moreItems items ++ rest) =
          some (next :: items, rest) :=
        induction (fun other member => parses other (List.mem_cons_of_mem _ member)) (by omega)
      rw [moreItems, List.append_assoc, List.cons_append, List.cons_append, parseItems?, first]
      simp only [others, Option.map_some]

theorem parseFields?_tokens {field : String × Json} {fields : List (String × Json)} {fuel : Nat}
    {rest : List Token} (parses : ∀ other ∈ field :: fields, Parses other.2)
    (enough : (field.2.tokens ++ moreFields fields).length ≤ fuel) :
    parseFields? fuel
        (.text (some field.1) :: .colon :: (field.2.tokens ++ moreFields fields ++ rest)) =
      some ((field :: fields).map fun other => (some other.1, other.2), rest) := by
  induction fields generalizing field fuel with
  | nil =>
      rw [moreFields, List.length_append, List.length_singleton] at enough
      obtain ⟨fuel, rfl⟩ : ∃ less, fuel = less + 1 := ⟨fuel - 1, by omega⟩
      have first := parses field List.mem_cons_self fuel (.recordClose :: rest) (by omega)
      rw [moreFields, List.append_assoc, parseFields?, List.singleton_append, first]
      rfl
  | cons next fields induction =>
      rw [moreFields, List.length_append] at enough
      simp only [List.cons_append, List.length_cons] at enough
      obtain ⟨fuel, rfl⟩ : ∃ less, fuel = less + 1 := ⟨fuel - 1, by omega⟩
      have first := parses field List.mem_cons_self fuel
        (.comma :: .text (some next.1) :: .colon ::
          (next.2.tokens ++ moreFields fields ++ rest)) (by omega)
      have later : ∀ other ∈ next :: fields, Parses other.2 :=
        fun other member => parses other (List.mem_cons_of_mem _ member)
      have enough : (next.2.tokens ++ moreFields fields).length ≤ fuel := by omega
      have others := induction later enough
      rw [moreFields, List.append_assoc]
      simp only [List.cons_append]
      rw [parseFields?, first]
      simp only [others, Option.map_some, List.map_cons]

theorem ofFields_map_some (fields : List (String × Json)) :
    ofFields (fields.map fun field => (some field.1, field.2)) = .record fields := by
  unfold ofFields
  rw [if_pos (by simp), List.map_map]
  exact congrArg record (List.map_id fields)

theorem tokens_ne_nil (value : Json) : value.tokens ≠ [] := by
  intro equation
  unfold tokens at equation
  split at equation <;> cases equation

theorem parses_of_succ {value : Json}
    (parsed : ∀ fuel rest, value.tokens.length ≤ fuel + 1 →
      parseValue? (fuel + 1) (value.tokens ++ rest) = some (value, rest)) : Parses value := by
  intro fuel rest enough
  have positive := List.length_pos_iff.2 (tokens_ne_nil value)
  obtain ⟨fuel, rfl⟩ : ∃ less, fuel = less + 1 := ⟨fuel - 1, by omega⟩
  exact parsed fuel rest enough

theorem parses_list {items : List Json} (parses : ∀ item ∈ items, Parses item) :
    Parses (.list items) := by
  refine parses_of_succ fun fuel rest enough => ?_
  cases items with
  | nil => rw [tokens]; rfl
  | cons item items =>
      rw [tokens, List.cons_append, List.length_cons] at enough
      have parsed : parseItems? fuel (item.tokens ++ moreItems items ++ rest) =
          some (item :: items, rest) := parseItems?_tokens parses (Nat.le_of_succ_le_succ enough)
      rw [tokens, List.cons_append, List.cons_append, parseValue?, parsed]
      · rfl
      · intro after closed
        cases equation : item.tokens with
        | nil => exact tokens_ne_nil item equation
        | cons token more =>
            rw [equation] at closed
            cases closed
            exact tokens_ne_listClose item more equation

theorem parses_record {fields : List (String × Json)} (parses : ∀ field ∈ fields, Parses field.2) :
    Parses (.record fields) := by
  refine parses_of_succ fun fuel rest enough => ?_
  cases fields with
  | nil => rw [tokens]; rfl
  | cons field fields =>
      rw [tokens] at enough ⊢
      simp only [List.cons_append, List.length_cons] at enough ⊢
      have enough : (field.2.tokens ++ moreFields fields).length ≤ fuel := by omega
      have parsed : parseFields? fuel
          (.text (some field.1) :: .colon :: (field.2.tokens ++ moreFields fields ++ rest)) =
          some ((field :: fields).map fun other => (some other.1, other.2), rest) :=
        parseFields?_tokens parses enough
      rw [parseValue?, parsed, Option.map_some, ofFields_map_some]
      intro after closed
      cases closed

theorem Plain.parses {value : Json} (plain : value.Plain) : Parses value := by
  induction plain with
  | null => exact parses_of_succ fun _ _ _ => rfl
  | truth value => exact parses_of_succ fun _ _ _ => rfl
  | integer least greatest => exact parses_of_succ fun _ _ _ => rfl
  | text value => exact parses_of_succ fun _ _ _ => rfl
  | list _ induction => exact parses_list induction
  | record _ induction => exact parses_record induction

theorem read?_print {value : Json} (plain : value.Plain) : read? value.print = some value := by
  have parsed : ofTokens? value.tokens = some value := by
    have parsed := plain.parses (2 * value.tokens.length + 2) [] (by omega)
    rw [List.append_nil] at parsed
    rw [ofTokens?, parsed]
  have scanned := scanTokens?_flatMap plain.legible
  rw [read?, print, String.toList_ofList, spell, ofChars?, scanned]
  exact parsed

end MediaFilter.Json
