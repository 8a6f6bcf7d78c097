import MediaFilter.Notifier
import MediaFilter.Proofs.Expression.Lookup
import MediaFilter.Proofs.Json.RoundTrip

/-!
Every expression is read back from its text, whatever its keys and texts are.  So two expressions
have the same text only if they are equal, and comparing texts is comparing expressions.
-/

namespace MediaFilter

theorem Bound.plain_toJson (bound : Bound) : bound.toJson.Plain :=
  .integer bound.least_le (Int.le_trans bound.le_greatest (by decide))

namespace Pattern

theorem ofJson?_toJson (pattern : Pattern) : ofJson? pattern.toJson = some pattern := rfl

theorem plain_toJson (pattern : Pattern) : pattern.toJson.Plain := by
  refine .record fun field member => ?_
  simp only [List.mem_cons, List.not_mem_nil, or_false] at member
  rcases member with rfl | rfl
  · exact .truth pattern.regex
  · exact .text pattern.value

end Pattern

namespace SetClause

theorem plain_boundFields {name : String} {bound : Option Bound} {field : String × Json}
    (member : field ∈ boundFields name bound) : field.2.Plain := by
  cases bound with
  | none => cases member
  | some bound =>
      cases List.mem_singleton.1 member
      exact bound.plain_toJson

theorem fields?_toJson (clause : SetClause) :
    clause.toJson.fields? fieldNames .refused =
      some [if clause.combinator = .and then some (Json.texts clause.values) else none,
        if clause.combinator = .or then some (Json.texts clause.values) else none,
        if clause.excluded = [] then none else some (Json.texts clause.excluded),
        clause.tagPercentageMin.map Bound.toJson, clause.tagPercentageMax.map Bound.toJson] := by
  obtain ⟨combinator, values, excluded, min, max⟩ := clause
  cases combinator <;> cases excluded <;> cases min <;> cases max <;> rfl

theorem optional_texts (values : List String) :
    Json.optional Json.texts? (some (Json.texts values)) = some (some values) := by
  show (Json.texts? (Json.texts values)).map some = _
  rw [Json.texts?_texts]
  rfl

theorem optional_bound (bound : Option Bound) :
    Json.optional Bound.ofJson? (bound.map Bound.toJson) = some bound := by
  cases bound with
  | none => rfl
  | some bound =>
      show (Bound.ofJson? bound.toJson).map some = _
      rw [Bound.ofJson?_toJson]
      rfl

theorem optional_excluded (excluded : List String) :
    (Json.optional Json.texts? (if excluded = [] then none else some (Json.texts excluded))).map
      (fun found => found.getD []) = some excluded := by
  cases excluded with
  | nil => rfl
  | cons value values =>
      rw [if_neg (List.cons_ne_nil _ _), optional_texts]
      rfl

theorem ofJson?_toJson (clause : SetClause) : ofJson? clause.toJson = some clause := by
  unfold ofJson?
  rw [fields?_toJson]
  obtain ⟨combinator, values, excluded, min, max⟩ := clause
  obtain ⟨found, read, equal⟩ := Option.map_eq_some_iff.1 (optional_excluded excluded)
  have absent : Json.optional Json.texts? none = some none := rfl
  cases combinator with
  | and => simp [read, optional_bound, optional_texts, absent, combined?, equal]
  | or => simp [read, optional_bound, optional_texts, absent, combined?, equal]

theorem plain_toJson (clause : SetClause) : clause.toJson.Plain := by
  refine .record fun field member => ?_
  simp only [List.cons_append, List.mem_cons, List.mem_append] at member
  rcases member with rfl | (excluded | min) | max
  · exact Json.plain_texts clause.values
  · unfold excludedFields at excluded
    split at excluded
    · cases excluded
    · cases List.mem_singleton.1 excluded
      exact Json.plain_texts clause.excluded
  · exact plain_boundFields min
  · exact plain_boundFields max

end SetClause

namespace Clause

/-- A set clause has a field that no pattern has. -/
theorem pattern_ofJson?_set (clause : SetClause) : Pattern.ofJson? clause.toJson = none := by
  have refused : clause.toJson.fields? ["regex", "value"] .refused = none := by
    obtain ⟨combinator, values, excluded, min, max⟩ := clause
    unfold SetClause.toJson Json.fields? Json.namedFields? Json.admits
    cases combinator <;> simp [Combinator.key]
  rw [Pattern.ofJson?, refused]

theorem ofJson?_toJson (clause : Clause) : ofJson? clause.toJson = some clause := by
  cases clause with
  | flag value => rfl
  | bound value =>
      have read := Bound.ofJson?_toJson value
      unfold Bound.toJson at read
      simp [ofJson?, readers, toJson, Bound.toJson, Json.truth?, read]
  | text value => rfl
  | pattern value => rfl
  | set value =>
      have noTruth : value.toJson.truth? = none := rfl
      have noBound : Bound.ofJson? value.toJson = none := rfl
      have noText : value.toJson.text? = none := rfl
      simp [ofJson?, readers, toJson, noTruth, noBound, noText, pattern_ofJson?_set,
        SetClause.ofJson?_toJson]

theorem plain_toJson (clause : Clause) : clause.toJson.Plain := by
  cases clause with
  | flag value => exact .truth value
  | bound value => exact value.plain_toJson
  | text value => exact .text value
  | pattern value => exact value.plain_toJson
  | set value => exact value.plain_toJson

end Clause

namespace Expression

theorem entries?_map_toJson (clauses : Clauses) :
    entries? (clauses.map fun entry => (entry.1, entry.2.toJson)) = some clauses := by
  induction clauses with
  | nil => rfl
  | cons entry clauses induction =>
      rw [List.map_cons, entries?, Clause.ofJson?_toJson, induction]

theorem ofJson?_toJson (expression : Expression) : ofJson? expression.toJson = some expression := by
  show (entries? _).map ofList = some expression
  rw [entries?_map_toJson, Option.map_some, ofList_clauses]

theorem plain_toJson (expression : Expression) : expression.toJson.Plain := by
  refine .record fun field member => ?_
  cases List.mem_singleton.1 member
  refine .record fun field member => ?_
  obtain ⟨entry, _, rfl⟩ := List.mem_map.1 member
  exact entry.2.plain_toJson

theorem read?_print (expression : Expression) : read? expression.print = some expression := by
  rw [read?, print, Json.read?_print expression.plain_toJson]
  exact ofJson?_toJson expression

theorem print_inj {first second : Expression} : first.print = second.print ↔ first = second := by
  constructor
  · intro equal
    have read := read?_print first
    rw [equal, read?_print second] at read
    exact (Option.some.inj read).symm
  · exact congrArg print

inductive Amendment where
  | insert (key : String) (clause : Clause)
  | erase (key : String)

def Amendment.key : Amendment → String
  | .insert key _ => key
  | .erase key => key

def Amendment.clause? : Amendment → Option Clause
  | .insert _ clause => some clause
  | .erase _ => none

def amend (expression : Expression) : Amendment → Expression
  | .insert key clause => expression.insert key clause
  | .erase key => expression.erase key

def amended (amendments : List Amendment) : Expression := amendments.foldl amend empty

def last? (amendments : List Amendment) (key : String) : Option Amendment :=
  amendments.reverse.find? fun amendment => amendment.key == key

theorem get?_amend (expression : Expression) (amendment : Amendment) (key : String) :
    (expression.amend amendment).get? key =
      if amendment.key = key then amendment.clause? else expression.get? key := by
  cases amendment with
  | insert other clause => exact get?_insert other key clause expression
  | erase other => exact get?_erase other key expression

theorem get?_foldl_amend (amendments : List Amendment) (expression : Expression) (key : String) :
    (amendments.foldl amend expression).get? key =
      (last? amendments key).elim (expression.get? key) Amendment.clause? := by
  induction amendments generalizing expression with
  | nil => rfl
  | cons amendment amendments induction =>
      have last : last? (amendment :: amendments) key =
          (last? amendments key).or (if amendment.key = key then some amendment else none) := by
        simp only [last?, List.reverse_cons, List.find?_append, List.find?_singleton, beq_iff_eq]
      rw [List.foldl_cons, induction, get?_amend, last]
      cases last? amendments key with
      | some later => rfl
      | none => by_cases here : amendment.key = key <;> simp [here]

theorem get?_amended (amendments : List Amendment) (key : String) :
    (amended amendments).get? key = (last? amendments key).bind Amendment.clause? := by
  rw [amended, get?_foldl_amend, get?_empty]
  cases last? amendments key <;> rfl

/-- The text of an expression is as good as the expression: it is read back as it was, it is the
same for two expressions exactly if they are equal, it depends on no more of how an expression came
about than the last amendment of each key, and a notifier that compares texts finds a change
exactly if there is one. -/
theorem print_faithful :
    (∀ expression : Expression, read expression.print = .ok expression) ∧
    (∀ first second : Expression, first.print = second.print ↔ first = second) ∧
    (∀ first second : List Amendment, (amended first).print = (amended second).print ↔
      ∀ key, (last? first key).bind Amendment.clause? =
        (last? second key).bind Amendment.clause?) ∧
    ∀ (notifier : Notifier) (first second : Expression),
      (((notifier.evaluate first).2.evaluate second).1 = none ↔ first = second) ∧
        (((notifier.adopt first).evaluate second).1 = none ↔ first = second) := by
  have compared : ∀ (notifier : Notifier) (first second : Expression),
      ((notifier.adopt first).evaluate second).1 = none ↔ first = second := by
    intro notifier first second
    rw [Notifier.evaluate_eq_none_iff, Notifier.announced_adopt, Option.some_inj, print_inj]
  refine ⟨fun expression => ?_, fun first second => print_inj, fun first second => ?_,
    fun notifier first second => ⟨?_, compared notifier first second⟩⟩
  · rw [read, read?_print]
    rfl
  · rw [print_inj]
    constructor
    · intro equal key
      rw [← get?_amended, ← get?_amended, equal]
    · intro same
      refine ext_get? fun key => ?_
      rw [get?_amended, get?_amended, same]
  · rw [Notifier.evaluate_snd]
    exact compared notifier first second

end Expression

end MediaFilter
