import MediaFilter.Proofs.Expression.RoundTrip
import MediaFilter.Proofs.Json.Records

/-!
The five forms of clauses.  Each has rules of its own for the JSON that stands for it, and no JSON
stands for two clauses.  So it does not matter in which order the readers of the forms are tried.
-/

namespace MediaFilter

theorem Bound.ofJson?_eq_some_iff {json : Json} {bound : Bound} :
    ofJson? json = some bound ↔ json = bound.toJson := by
  constructor
  · intro read
    unfold ofJson? at read
    split at read
    · unfold ofInt? at read
      split at read
      · cases read
        rfl
      · cases read
    · cases read
  · rintro rfl
    exact ofJson?_toJson bound

namespace Clause

inductive Form where
  | flag
  | bound
  | text
  | pattern
  | set
  deriving DecidableEq

def form : Clause → Form
  | .flag _ => .flag
  | .bound _ => .bound
  | .text _ => .text
  | .pattern _ => .pattern
  | .set _ => .set

namespace Form

def all : List Form := [.flag, .bound, .text, .pattern, .set]

def read? : Form → Json → Option Clause
  | .flag, json => json.truth?.map .flag
  | .bound, json => (Bound.ofJson? json).map .bound
  | .text, json => json.text?.map .text
  | .pattern, json => (Pattern.ofJson? json).map .pattern
  | .set, json => (SetClause.ofJson? json).map .set

theorem readers_eq : readers = all.map read? := rfl

end Form

/-- Whether JSON combines values: one of the two combinators has a list, and the other has
none. -/
inductive Combines (and or : Option Json) : Combinator → List String → Prop
  | and {values : List String} (given : Json.Says Json.texts and (some values))
      (lacking : Json.Says Json.texts or none) : Combines and or .and values
  | or {values : List String} (lacking : Json.Says Json.texts and none)
      (given : Json.Says Json.texts or (some values)) : Combines and or .or values

/-- Which JSON stands for a clause. -/
inductive Denotes : Json → Clause → Prop
  | flag (value : Bool) : Denotes (.truth value) (.flag value)
  | bound (value : Bound) : Denotes (.integer value.val) (.bound value)
  | text (value : String) : Denotes (.text value) (.text value)
  | pattern {json : Json} {regex : Bool} {value : String}
      (gives : json.Gives ["regex", "value"] [some (.truth regex), some (.text value)]) :
      Denotes json (.pattern ⟨regex, value⟩)
  | set {json : Json} {and or not min max : Option Json} {combinator : Combinator}
      {values : List String} {excluded : Option (List String)} {least greatest : Option Bound}
      (gives : json.Gives ["and", "or", "not", "tagPercentageMin", "tagPercentageMax"]
        [and, or, not, min, max])
      (combines : Combines and or combinator values)
      (excludes : Json.Says Json.texts not excluded)
      (lower : Json.Says Bound.toJson min least) (upper : Json.Says Bound.toJson max greatest) :
      Denotes json (.set ⟨combinator, values, excluded.getD [], least, greatest⟩)

end Clause

theorem Pattern.ofJson?_eq_some_iff {json : Json} {pattern : Pattern} :
    ofJson? json = some pattern ↔
      json.Gives ["regex", "value"] [some (.truth pattern.regex), some (.text pattern.value)] := by
  have fields : ∀ values, json.fields? ["regex", "value"] .refused = some values ↔
      values.length = 2 ∧ json.Gives ["regex", "value"] values :=
    fun _ => Json.fields?_eq_some_iff (by decide)
  constructor
  · intro read
    unfold ofJson? at read
    split at read
    · rename_i regex value given
      obtain ⟨_, gives⟩ := (fields _).1 given
      match regex, value, read, gives with
      | some (.truth regex), some (.text value), read, gives =>
          cases read
          exact gives
    · cases read
  · intro gives
    rw [ofJson?, (fields _).2 ⟨rfl, gives⟩]
    rfl

theorem SetClause.combined?_eq_some_iff {and or : Option (List String)} {combinator : Combinator}
    {values : List String} : combined? and or = some (combinator, values) ↔
      (combinator = .and ∧ and = some values ∧ or = none) ∨
        (combinator = .or ∧ and = none ∧ or = some values) := by
  cases and <;> cases or <;> cases combinator <;> simp [combined?]

theorem SetClause.ofJson?_eq_some_iff {json : Json} {clause : SetClause} :
    ofJson? json = some clause ↔ Clause.Denotes json (.set clause) := by
  have fields : ∀ values, json.fields? fieldNames .refused = some values ↔
      values.length = fieldNames.length ∧ json.Gives fieldNames values :=
    fun _ => Json.fields?_eq_some_iff (by decide)
  have texts : ∀ field value,
      Json.optional Json.texts? field = some value ↔ Json.Says Json.texts field value :=
    fun _ _ => Json.optional_eq_some_iff (fun _ _ => Json.texts?_eq_some_iff) fun _ => nofun
  have bounds : ∀ field value,
      Json.optional Bound.ofJson? field = some value ↔ Json.Says Bound.toJson field value :=
    fun _ _ => Json.optional_eq_some_iff (fun _ _ => Bound.ofJson?_eq_some_iff) fun _ => nofun
  constructor
  · intro read
    unfold ofJson? at read
    split at read
    · rename_i and or not min max given
      obtain ⟨_, gives⟩ := (fields _).1 given
      simp only [Option.bind_eq_bind, Option.bind_eq_some_iff] at read
      obtain ⟨conjoined, isAnd, disjoined, isOr, excluded, isNot, least, isMin, greatest, isMax,
        ⟨combinator, values⟩, combined, whole⟩ := read
      cases whole
      rw [texts] at isAnd isOr isNot
      rw [bounds] at isMin isMax
      refine .set gives ?_ isNot isMin isMax
      rcases combined?_eq_some_iff.1 combined with ⟨rfl, rfl, rfl⟩ | ⟨rfl, rfl, rfl⟩
      · exact .and isAnd isOr
      · exact .or isAnd isOr
    · cases read
  · rintro (_ | _ | _ | _ | ⟨gives, combines, excludes, lower, upper⟩)
    rw [ofJson?, (fields _).2 ⟨rfl, gives⟩]
    have isNot := (texts _ _).2 excludes
    have isMin := (bounds _ _).2 lower
    have isMax := (bounds _ _).2 upper
    cases combines with
    | and given lacking =>
        simp [(texts _ _).2 given, (texts _ _).2 lacking, isNot, isMin, isMax, combined?]
    | or lacking given =>
        simp [(texts _ _).2 given, (texts _ _).2 lacking, isNot, isMin, isMax, combined?]

namespace Clause

theorem denotes_flag_iff {json : Json} {value : Bool} :
    json.truth? = some value ↔ Denotes json (.flag value) := by
  constructor
  · intro read
    cases json with
    | truth _ => cases read; exact .flag value
    | _ => cases read
  · rintro ⟨⟩
    rfl

theorem denotes_bound_iff {json : Json} {value : Bound} :
    Bound.ofJson? json = some value ↔ Denotes json (.bound value) := by
  rw [Bound.ofJson?_eq_some_iff]
  constructor
  · rintro rfl
    exact .bound value
  · rintro ⟨⟩
    rfl

theorem denotes_text_iff {json : Json} {value : String} :
    json.text? = some value ↔ Denotes json (.text value) := by
  constructor
  · intro read
    cases json with
    | text _ => cases read; exact .text value
    | _ => cases read
  · rintro ⟨⟩
    rfl

theorem denotes_pattern_iff {json : Json} {pattern : Pattern} :
    Pattern.ofJson? json = some pattern ↔ Denotes json (.pattern pattern) := by
  rw [Pattern.ofJson?_eq_some_iff]
  constructor
  · exact .pattern
  · rintro ⟨⟩
    assumption

theorem Form.read?_eq_some_iff {form : Form} {json : Json} {clause : Clause} :
    form.read? json = some clause ↔ clause.form = form ∧ Denotes json clause := by
  cases form with
  | flag =>
      apply Json.map_eq_some_iff_of_exact fun _ => denotes_flag_iff
      cases clause <;> simp [Clause.form]
  | bound =>
      apply Json.map_eq_some_iff_of_exact fun _ => denotes_bound_iff
      cases clause <;> simp [Clause.form]
  | text =>
      apply Json.map_eq_some_iff_of_exact fun _ => denotes_text_iff
      cases clause <;> simp [Clause.form]
  | pattern =>
      apply Json.map_eq_some_iff_of_exact fun _ => denotes_pattern_iff
      cases clause <;> simp [Clause.form]
  | set =>
      apply Json.map_eq_some_iff_of_exact fun _ => SetClause.ofJson?_eq_some_iff
      cases clause <;> simp [Clause.form]

/-- A pattern has a field that no set clause has, and its first item is no list. -/
theorem not_gives_of_pattern {json : Json} {regex : Bool} {value : String}
    (gives : json.Gives ["regex", "value"] [some (.truth regex), some (.text value)])
    {and or not min max : Option Json} {combinator : Combinator} {values : List String}
    (combines : Combines and or combinator values) :
    ¬ json.Gives ["and", "or", "not", "tagPercentageMin", "tagPercentageMax"]
      [and, or, not, min, max] := by
  intro others
  cases gives with
  | named perm =>
      cases others with
      | named other =>
          have isField : ("regex", .truth regex) ∈
              Json.filled ["regex", "value"] [some (.truth regex), some (.text value)] :=
            List.mem_cons_self
          have known := Json.fst_mem_of_mem_filled (other.mem_iff.1 (perm.mem_iff.2 isField))
          exact absurd known (by simp)
  | @placed items fits padded =>
      cases others with
      | placed _ other =>
          match items, padded with
          | [_, _], rfl =>
              cases other
              cases combines with
              | and given lacking => cases given
              | or lacking given => cases lacking

theorem Denotes.form_eq {json : Json} {first second : Clause} (one : Denotes json first)
    (other : Denotes json second) : first.form = second.form := by
  cases one with
  | flag value =>
      cases other with
      | flag => rfl
      | pattern gives => cases gives
      | set gives => cases gives
  | bound value =>
      generalize written : Json.integer value.val = json at other
      cases other with
      | bound => rfl
      | pattern gives => cases written; cases gives
      | set gives => cases written; cases gives
      | _ => cases written
  | text value =>
      cases other with
      | text => rfl
      | pattern gives => cases gives
      | set gives => cases gives
  | pattern gives =>
      cases other with
      | pattern => rfl
      | set others combines => exact absurd others (not_gives_of_pattern gives combines)
      | _ => cases gives
  | set gives combines =>
      cases other with
      | set => rfl
      | pattern others => exact absurd gives (not_gives_of_pattern others combines)
      | _ => cases gives

theorem Denotes.unique {json : Json} {first second : Clause} (one : Denotes json first)
    (other : Denotes json second) : first = second := by
  have read := Form.read?_eq_some_iff.2 ⟨rfl, one⟩
  have reads := Form.read?_eq_some_iff.2 ⟨rfl, other⟩
  rw [one.form_eq other, reads] at read
  exact (Option.some.inj read).symm

theorem Form.eq_of_read? {json : Json} {one other : Form}
    (accepted : (one.read? json).isSome = true) (also : (other.read? json).isSome = true) :
    one = other := by
  obtain ⟨first, read⟩ := Option.isSome_iff_exists.1 accepted
  obtain ⟨second, reads⟩ := Option.isSome_iff_exists.1 also
  obtain ⟨rfl, denotes⟩ := Form.read?_eq_some_iff.1 read
  obtain ⟨rfl, alsoDenotes⟩ := Form.read?_eq_some_iff.1 reads
  exact denotes.form_eq alsoDenotes

theorem Form.mem_all (form : Form) : form ∈ all := by
  cases form <;> decide

theorem mem_readers {reader : Json → Option Clause} :
    reader ∈ readers ↔ ∃ form : Form, form.read? = reader := by
  rw [Form.readers_eq, List.mem_map]
  exact ⟨fun ⟨form, _, same⟩ => ⟨form, same⟩, fun ⟨form, same⟩ => ⟨form, form.mem_all, same⟩⟩

theorem findSome?_eq_some_iff {order : List (Json → Option Clause)} (perm : order.Perm readers)
    {json : Json} {clause : Clause} :
    (order.findSome? fun read => read json) = some clause ↔ Denotes json clause := by
  have sound : ∀ {found : Clause}, (order.findSome? fun read => read json) = some found →
      Denotes json found := by
    intro found first
    obtain ⟨reader, member, read⟩ := List.exists_of_findSome?_eq_some first
    obtain ⟨form, rfl⟩ := mem_readers.1 (perm.mem_iff.1 member)
    exact (Form.read?_eq_some_iff.1 read).2
  refine ⟨sound, fun denotes => ?_⟩
  have own : clause.form.read? json = some clause := Form.read?_eq_some_iff.2 ⟨rfl, denotes⟩
  cases first : order.findSome? fun read => read json with
  | some found => rw [(sound first).unique denotes]
  | none =>
      have refused := List.findSome?_eq_none_iff.1 first clause.form.read?
        (perm.mem_iff.2 (mem_readers.2 ⟨_, rfl⟩))
      rw [own] at refused
      cases refused

theorem ofJson?_eq_some_iff {json : Json} {clause : Clause} :
    ofJson? json = some clause ↔ Denotes json clause :=
  findSome?_eq_some_iff (List.Perm.refl readers)

theorem denotes_toJson (clause : Clause) : Denotes clause.toJson clause :=
  ofJson?_eq_some_iff.1 (ofJson?_toJson clause)

/-- The clause that JSON stands for, if there is one, has a single form and is read by the reader
of that form alone, each by its own rules.  Whichever order the readers are tried in, the outcome
is the same; and what is written for a clause is read back, from its JSON and from its text, as
the same clause by the same reader. -/
theorem reading_unambiguous (json : Json) :
    readers = Form.all.map Form.read? ∧
    (∀ (form : Form) (clause : Clause),
      form.read? json = some clause ↔ clause.form = form ∧ Denotes json clause) ∧
    (∀ one other : Form, (one.read? json).isSome = true → (other.read? json).isSome = true →
      one = other) ∧
    (∀ order : List (Json → Option Clause), order.Perm readers →
      (order.findSome? fun read => read json) = ofJson? json) ∧
    ∀ clause : Clause,
      (∀ form : Form, form.read? clause.toJson =
        if form = clause.form then some clause else none) ∧
      ofJson? clause.toJson = some clause ∧
      (Json.read? clause.print).bind ofJson? = some clause := by
  refine ⟨Form.readers_eq, fun form clause => Form.read?_eq_some_iff,
    fun one other => Form.eq_of_read?, fun order perm => ?_,
    fun clause => ⟨fun form => ?_, ofJson?_toJson clause, ?_⟩⟩
  · apply Option.ext
    intro clause
    rw [findSome?_eq_some_iff perm, ofJson?_eq_some_iff]
  · split
    · rename_i own
      exact Form.read?_eq_some_iff.2 ⟨own.symm, denotes_toJson clause⟩
    · rename_i foreign
      cases read : form.read? clause.toJson with
      | none => rfl
      | some found =>
          obtain ⟨rfl, denotes⟩ := Form.read?_eq_some_iff.1 read
          exact absurd (denotes.form_eq (denotes_toJson clause)) foreign
  · rw [print, Json.read?_print clause.plain_toJson]
    exact ofJson?_toJson clause

def listedFormats : Json := .list [.null, .list [.text "TV"], .null, .integer 10]

theorem reading_unambiguous_of_list :
    readers.reverse.Perm readers ∧
      (readers.reverse.findSome? fun read => read listedFormats) =
        some (.set ⟨.or, ["TV"], [], some { val := 10 }, none⟩) ∧
      Form.read? .pattern listedFormats = none := by
  have backwards := List.reverse_perm readers
  obtain ⟨_, rules, _, order, _⟩ := reading_unambiguous listedFormats
  have read : ofJson? listedFormats =
      some (.set ⟨.or, ["TV"], [], some { val := 10 }, none⟩) := rfl
  refine ⟨backwards, (order _ backwards).trans read, ?_⟩
  cases accepted : Form.read? .pattern listedFormats with
  | none => rfl
  | some found =>
      obtain ⟨isPattern, denotes⟩ := (rules .pattern found).1 accepted
      rw [denotes.unique (ofJson?_eq_some_iff.1 read)] at isPattern
      cases isPattern

end Clause

end MediaFilter
