import MediaFilter.FilterValue.Codec
import MediaFilter.Proofs.Expression.Forms

/-!
Which JSON stands for the value of a filter.  The kind is told first, from wherever it stands; the
fields that are left are read as the kind has them, and other fields do not matter.  Every value is
read back from its own JSON, and a range is never inverted, however its ends were given.
-/

namespace MediaFilter

inductive Combinator.Denotes : Json → Combinator → Prop
  | text (combinator : Combinator) : Denotes (.text combinator.wire) combinator
  | null (combinator : Combinator) : Denotes (.record [(combinator.wire, .null)]) combinator
  | empty (combinator : Combinator) :
      Denotes (.record [(combinator.wire, .record [])]) combinator

theorem Combinator.ofWire?_eq_some_iff {text : String} {combinator : Combinator} :
    ofWire? text = some combinator ↔ text = combinator.wire := by
  unfold ofWire?
  cases combinator <;> split <;> simp_all [wire]

theorem Combinator.ofKept?_eq_some_iff {json : Json} {combinator : Combinator} :
    ofKept? json = some combinator ↔ Denotes json combinator := by
  constructor
  · intro read
    unfold ofKept? at read
    split at read
    · obtain rfl := ofWire?_eq_some_iff.1 read
      exact .empty combinator
    · obtain ⟨name, isName, found⟩ := Option.bind_eq_some_iff.1 read
      obtain rfl := ofWire?_eq_some_iff.1 found
      unfold Json.alternative? at isName
      split at isName
      · cases isName
        exact .text combinator
      · cases isName
        exact .null combinator
      · cases isName
  · rintro (_ | _ | _)
    · exact ofWire?_eq_some_iff.2 rfl
    · exact ofWire?_eq_some_iff.2 rfl
    · exact ofWire?_eq_some_iff.2 rfl

/-- Which JSON stands for a selected value; the mark of an excluded one may be left out. -/
inductive SelectedValue.Denotes (json : Json) : SelectedValue → Prop
  | entry {value : String} {excluded : Option Bool}
      (holds : json.Holds ["value", "excluded"] [some (.text value), excluded.map .truth]) :
      Denotes json ⟨value, excluded.getD false⟩

theorem SelectedValue.ofJson?_eq_some_iff {json : Json} {entry : SelectedValue} :
    ofJson? json = some entry ↔ Denotes json entry := by
  constructor
  · intro read
    unfold ofJson? at read
    split at read
    · rename_i value excluded given
      simp only [Option.bind_eq_bind, Option.bind_eq_some_iff,
        Json.required_eq_some_iff fun _ _ => Json.text?_eq_some_iff,
        Json.defaulting_eq_some_iff fun _ _ => Json.truth?_eq_some_iff] at read
      obtain ⟨text, rfl, excluded, ⟨mark, rfl, rfl⟩, whole⟩ := read
      cases whole
      exact .entry (Json.fields?_ignored_eq_some_iff.1 given)
    · cases read
  · rintro ⟨holds⟩
    rename_i value excluded
    rw [ofJson?, Json.fields?_ignored_eq_some_iff.2 holds]
    cases excluded <;> rfl

inductive Selection.Denotes (json : Json) : Selection → Prop
  | selection {items : List Json} {given : Json} {entries : List SelectedValue}
      {combinator : Combinator}
      (holds : json.Holds ["entries", "combinator"] [some (.list items), some given])
      (selects : List.Forall₂ SelectedValue.Denotes items entries)
      (combines : Combinator.Denotes given combinator) : Denotes json ⟨entries, combinator⟩

theorem Selection.ofKept?_eq_some_iff {json : Json} {selection : Selection} :
    ofKept? json = some selection ↔ Denotes json selection := by
  have listed : ∀ items entries, Json.each SelectedValue.ofJson? items = some entries ↔
      List.Forall₂ SelectedValue.Denotes items entries := by
    intro items entries
    simp only [Json.each_eq_some_iff, SelectedValue.ofJson?_eq_some_iff]
  constructor
  · intro read
    unfold ofKept? at read
    split at read
    · rename_i listing combining given
      simp only [Option.bind_eq_bind, Option.bind_eq_some_iff] at read
      obtain ⟨entries, isListing, combinator, isCombining, whole⟩ := read
      cases whole
      match listing, combining, isListing, isCombining, given with
      | some (.list items), some json, isListing, isCombining, given =>
          exact .selection (Json.fields?_ignored_eq_some_iff.1 given) ((listed _ _).1 isListing)
            (Combinator.ofKept?_eq_some_iff.1 isCombining)
    · cases read
  · rintro ⟨holds, selects, combines⟩
    rw [ofKept?, Json.fields?_ignored_eq_some_iff.2 holds]
    simp [Json.required, Json.listOf, (listed _ _).2 selects,
      Combinator.ofKept?_eq_some_iff.2 combines]

theorem SelectedValue.denotes_toJson (entry : SelectedValue) : Denotes entry.toJson entry := by
  show Denotes _ ⟨entry.value, (some entry.excluded).getD false⟩
  exact .entry (.named rfl)

theorem SelectedValue.plain_toJson (entry : SelectedValue) : entry.toJson.Plain := by
  apply Json.Plain.record
  simp [Json.Plain.text, Json.Plain.truth]

theorem Selection.plain_fields (selection : Selection) :
    ∀ field ∈ selection.fields, field.2.Plain := by
  have entries : (Json.list (selection.entries.map SelectedValue.toJson)).Plain := by
    apply Json.Plain.list
    simp [SelectedValue.plain_toJson]
  simp [fields, entries, Combinator.toJson, Json.Plain.text]

theorem Selection.denotes_toJson (selection : Selection) :
    Denotes selection.toJson selection := by
  refine .selection (.named rfl) ?_ (.text selection.combinator)
  rw [List.forall₂_map_left_iff, List.forall₂_same]
  exact fun entry _ => entry.denotes_toJson

theorem RangeValue.between_ends (range : RangeValue) : between range.min range.max = range := by
  have ordered := range.min_le_max
  ext <;> simp only [between, Bound.val_lesser, Bound.val_greater] <;> omega

namespace FilterValue

/-- What is left of a record whose kind is told. -/
inductive Tagged : Json → FilterKind → Json → Prop
  | named {before after : List (String × Json)} {kind : FilterKind}
      (once : ∀ field ∈ before ++ after, field.1 ≠ "kind") :
      Tagged (.record (before ++ ("kind", .text (kindWire kind)) :: after)) kind
        (.record (before ++ after))
  | placed {kind : FilterKind} {items : List Json} :
      Tagged (.list (.text (kindWire kind) :: items)) kind (.list items)

/-- Which fields stand for a value, its kind apart. -/
inductive Denotes (json : Json) : FilterValue → Prop
  | text {content : String} {regexMode : Option Bool}
      (holds : json.Holds ["text", "regex_mode"] [some (.text content), regexMode.map .truth]) :
      Denotes json (.text ⟨content, regexMode.getD false⟩)
  | picker {selection : Selection} (selects : selection.Denotes json) :
      Denotes json (.picker selection)
  | range {first second : Bound}
      (holds : json.Holds ["min", "max"] [some first.toJson, some second.toJson]) :
      Denotes json (.range (.between first second))
  | checkbox {checked : Bool} (holds : json.Holds ["checked"] [some (.truth checked)]) :
      Denotes json (.checkbox checked)
  | userList {selection : Selection} (selects : selection.Denotes json) :
      Denotes json (.userList selection)

theorem kindOfWire?_eq_some_iff {text : String} {kind : FilterKind} :
    kindOfWire? text = some kind ↔ text = kindWire kind := by
  constructor
  · intro found
    have same := List.find?_some (p := fun kind => kindWire kind == text) found
    exact (eq_of_beq same).symm
  · rintro rfl
    cases kind <;> decide

theorem tagged?_eq_some_iff {json rest : Json} {kind : FilterKind} :
    tagged? json = some (.text (kindWire kind), rest) ↔ Tagged json kind rest := by
  constructor
  · intro told
    unfold tagged? at told
    split at told
    · split at told
      · rename_i fields found single
        cases told
        obtain ⟨before, after, rfl, once⟩ := Json.named_eq_singleton_iff.1 single
        rw [Json.filter_ne_of_once once]
        exact .named once
      · cases told
    · cases told
      exact .placed
    · cases told
  · rintro (⟨once⟩ | _)
    · rw [tagged?, Json.named_eq_singleton_iff.2 ⟨_, _, rfl, once⟩, Json.filter_ne_of_once once]
    · rfl

theorem denotes_text_iff {json : Json} {value : TextValue} :
    TextValue.ofJson? json = some value ↔ Denotes json (.text value) := by
  constructor
  · intro read
    unfold TextValue.ofJson? at read
    split at read
    · rename_i text regexMode given
      simp only [Option.bind_eq_bind, Option.bind_eq_some_iff,
        Json.required_eq_some_iff fun _ _ => Json.text?_eq_some_iff,
        Json.defaulting_eq_some_iff fun _ _ => Json.truth?_eq_some_iff] at read
      obtain ⟨text, rfl, regexMode, ⟨mark, rfl, rfl⟩, whole⟩ := read
      cases whole
      exact .text (Json.fields?_ignored_eq_some_iff.1 given)
    · cases read
  · rintro ⟨holds⟩
    rename_i content regexMode
    rw [TextValue.ofJson?, Json.fields?_ignored_eq_some_iff.2 holds]
    cases regexMode <;> rfl

theorem denotes_picker_iff {json : Json} {selection : Selection} :
    Selection.ofKept? json = some selection ↔ Denotes json (.picker selection) := by
  rw [Selection.ofKept?_eq_some_iff]
  exact ⟨.picker, fun | .picker selects => selects⟩

theorem denotes_range_iff {json : Json} {range : RangeValue} :
    RangeValue.ofJson? json = some range ↔ Denotes json (.range range) := by
  constructor
  · intro read
    unfold RangeValue.ofJson? at read
    split at read
    · rename_i min max given
      simp only [Option.bind_eq_bind, Option.bind_eq_some_iff,
        Json.required_eq_some_iff fun _ _ => Bound.ofJson?_eq_some_iff] at read
      obtain ⟨first, rfl, second, rfl, whole⟩ := read
      cases whole
      exact .range (Json.fields?_ignored_eq_some_iff.1 given)
    · cases read
  · rintro (_ | _ | holds)
    rw [RangeValue.ofJson?, Json.fields?_ignored_eq_some_iff.2 holds]
    simp [Json.required]

theorem denotes_checkbox_iff {json : Json} {checked : Bool} :
    checked? json = some checked ↔ Denotes json (.checkbox checked) := by
  constructor
  · intro read
    unfold checked? at read
    split at read
    · rename_i given
      rw [Json.required_eq_some_iff fun _ _ => Json.truth?_eq_some_iff] at read
      subst read
      exact .checkbox (Json.fields?_ignored_eq_some_iff.1 given)
    · cases read
  · rintro (_ | _ | _ | holds)
    rw [checked?, Json.fields?_ignored_eq_some_iff.2 holds]
    rfl

theorem denotes_userList_iff {json : Json} {selection : Selection} :
    Selection.ofKept? json = some selection ↔ Denotes json (.userList selection) := by
  rw [Selection.ofKept?_eq_some_iff]
  exact ⟨.userList, fun | .userList selects => selects⟩

theorem ofKind?_eq_some_iff {kind : FilterKind} {rest : Json} {value : FilterValue} :
    ofKind? kind rest = some value ↔ value.kind = kind ∧ Denotes rest value := by
  cases kind with
  | text =>
      apply Json.map_eq_some_iff_of_exact fun _ => denotes_text_iff
      cases value <;> simp [FilterValue.kind]
  | picker =>
      apply Json.map_eq_some_iff_of_exact fun _ => denotes_picker_iff
      cases value <;> simp [FilterValue.kind]
  | range =>
      apply Json.map_eq_some_iff_of_exact fun _ => denotes_range_iff
      cases value <;> simp [FilterValue.kind]
  | checkbox =>
      apply Json.map_eq_some_iff_of_exact fun _ => denotes_checkbox_iff
      cases value <;> simp [FilterValue.kind]
  | userList =>
      apply Json.map_eq_some_iff_of_exact fun _ => denotes_userList_iff
      cases value <;> simp [FilterValue.kind]

theorem ofJson?_eq_some_iff {json : Json} {value : FilterValue} :
    ofJson? json = some value ↔ json.keepable Json.greatestDepth = true ∧
      ∃ rest, Tagged json value.kind rest ∧ Denotes rest value := by
  constructor
  · intro read
    simp only [ofJson?, Json.kept?, Option.bind_eq_bind, Option.bind_eq_some_iff,
      Option.ite_none_right_eq_some, Option.some.injEq] at read
    obtain ⟨_, ⟨keepable, rfl⟩, ⟨tag, rest⟩, told, text, isText, kind, isKind, isValue⟩ := read
    rw [Json.text?_eq_some_iff] at isText
    rw [kindOfWire?_eq_some_iff] at isKind
    obtain ⟨rfl, denotes⟩ := ofKind?_eq_some_iff.1 isValue
    subst isKind isText
    exact ⟨keepable, rest, tagged?_eq_some_iff.1 told, denotes⟩
  · rintro ⟨keepable, rest, tagged, denotes⟩
    have isKind := kindOfWire?_eq_some_iff.2 (rfl : kindWire value.kind = kindWire value.kind)
    have isValue := ofKind?_eq_some_iff.2 ⟨rfl, denotes⟩
    simp [ofJson?, Json.kept?, keepable, tagged?_eq_some_iff.2 tagged, Json.text?, isKind, isValue]

theorem tagged_toJson (value : FilterValue) :
    Tagged value.toJson value.kind (.record value.fields) := by
  have once : ∀ field ∈ [] ++ value.fields, field.1 ≠ "kind" := by
    cases value <;> simp [fields, Selection.fields]
  exact .named once

theorem denotes_fields (value : FilterValue) : Denotes (.record value.fields) value := by
  cases value with
  | text value =>
      show Denotes _ (.text ⟨value.text, (some value.regexMode).getD false⟩)
      exact .text (.named rfl)
  | picker selection => exact .picker selection.denotes_toJson
  | range range =>
      have denotes : Denotes (.record (fields (.range range)))
          (.range (.between range.min range.max)) := .range (.named rfl)
      rwa [range.between_ends] at denotes
  | checkbox checked => exact .checkbox (.named rfl)
  | userList selection => exact .userList selection.denotes_toJson

theorem keepable_toJson (value : FilterValue) :
    value.toJson.keepable Json.greatestDepth = true := by
  have entries : ∀ selection : Selection,
      Json.keepableItems 125 (selection.entries.map SelectedValue.toJson) = true := by
    intro selection
    simp [Json.keepableItems_iff, SelectedValue.toJson, Json.keepable, Json.keepableFields]
  cases value <;>
    simp [toJson, fields, Selection.fields, Combinator.toJson, Bound.toJson, Json.keepable,
      Json.keepableFields, Json.greatestDepth, entries]

theorem plain_fields (value : FilterValue) : ∀ field ∈ value.fields, field.2.Plain := by
  cases value with
  | text value => simp [fields, Json.Plain.text, Json.Plain.truth]
  | picker selection => exact selection.plain_fields
  | range range => simp [fields, Bound.plain_toJson]
  | checkbox checked => simp [fields, Json.Plain.truth]
  | userList selection => exact selection.plain_fields

theorem plain_toJson (value : FilterValue) : value.toJson.Plain :=
  .record (List.forall_mem_cons.2 ⟨.text _, value.plain_fields⟩)

theorem ofJson?_toJson (value : FilterValue) : ofJson? value.toJson = some value :=
  ofJson?_eq_some_iff.2
    ⟨value.keepable_toJson, _, value.tagged_toJson, value.denotes_fields⟩

theorem ofJson?_eq_some_range_iff {json : Json} {range : RangeValue} :
    ofJson? json = some (.range range) ↔ json.keepable Json.greatestDepth = true ∧
      ∃ (rest : Json) (first second : Bound), Tagged json .range rest ∧
        rest.Holds ["min", "max"] [some first.toJson, some second.toJson] ∧
        range.min.val = min first.val second.val ∧
        range.max.val = max first.val second.val := by
  rw [ofJson?_eq_some_iff]
  constructor
  · rintro ⟨keepable, rest, tagged, denotes⟩
    cases denotes with
    | @range first second holds =>
        exact ⟨keepable, rest, first, second, tagged, holds, Bound.val_lesser _ _,
          Bound.val_greater _ _⟩
  · rintro ⟨keepable, rest, first, second, tagged, holds, least, greatest⟩
    have same : range = .between first second := by
      ext
      · exact least.trans (Bound.val_lesser _ _).symm
      · exact greatest.trans (Bound.val_greater _ _).symm
    rw [same]
    exact ⟨keepable, rest, tagged, .range holds⟩

/-- A value is read back from the JSON that is written for it, where its kind comes first, and from
its text.  Any JSON is read as the value that it stands for, and as nothing if there is none: the
kind may stand anywhere among the fields, or first in a list of them; fields are found in any order,
those that have defaults may be left out, and others are passed over.  A range that is read is never
inverted: whichever of the two numbers is the less is its lower end. -/
theorem reading_exact :
    (∀ value : FilterValue,
      (∃ fields, value.toJson = .record (("kind", .text (kindWire value.kind)) :: fields)) ∧
      ofJson? value.toJson = some value ∧
      (Json.read? value.print).bind ofJson? = some value) ∧
    (∀ (json : Json) (value : FilterValue), ofJson? json = some value ↔
      json.keepable Json.greatestDepth = true ∧
        ∃ rest, Tagged json value.kind rest ∧ Denotes rest value) ∧
    (∀ (json : Json) (range : RangeValue), ofJson? json = some (.range range) →
      range.min ≤ range.max) ∧
    ∀ (json : Json) (range : RangeValue), ofJson? json = some (.range range) ↔
      json.keepable Json.greatestDepth = true ∧
        ∃ (rest : Json) (first second : Bound), Tagged json .range rest ∧
          rest.Holds ["min", "max"] [some first.toJson, some second.toJson] ∧
          range.min.val = min first.val second.val ∧
          range.max.val = max first.val second.val := by
  refine ⟨fun value => ⟨⟨value.fields, rfl⟩, value.ofJson?_toJson, ?_⟩,
    fun json value => ofJson?_eq_some_iff, fun json range _ => range.min_le_max,
    fun json range => ofJson?_eq_some_range_iff⟩
  rw [print, Json.read?_print value.plain_toJson]
  exact value.ofJson?_toJson

def invertedEnds : Json :=
  .record [("max", .integer 2), ("step", .integer 1), ("min", .integer 9), ("kind", .text "range")]

theorem reading_exact_of_inverted : ∃ range : RangeValue,
    ofJson? invertedEnds = some (.range range) ∧ range.min.val = 2 ∧ range.max.val = 9 ∧
      range.min ≤ range.max ∧ ofJson? (toJson (.range range)) = some (.range range) := by
  obtain ⟨written, _, ordered, ranges⟩ := reading_exact
  have once : ∀ field ∈ [("max", Json.integer 2), ("step", .integer 1), ("min", .integer 9)] ++ [],
      field.1 ≠ "kind" := by simp
  have tagged := @Tagged.named _ _ .range once
  have holds : (Json.record ([("max", Json.integer 2), ("step", .integer 1),
      ("min", .integer 9)] ++ [])).Holds ["min", "max"] [some (.integer 9), some (.integer 2)] :=
    .named rfl
  have read := (ranges invertedEnds { min := { val := 2 }, max := { val := 9 } }).2
    ⟨rfl, _, { val := 9 }, { val := 2 }, tagged, holds, rfl, rfl⟩
  exact ⟨_, read, rfl, rfl, ordered _ _ read, (written _).2.1⟩

end FilterValue

end MediaFilter
