import Mathlib.Data.List.Forall2
import Mathlib.Data.List.Perm.Basic
import Mathlib.Data.List.Zip
import MediaFilter.Json.Fields

/-!
What a record says, told without its reader.  Its fields are found under their names in any order,
or as the items of a list in the order of the names; each is given once at most, and no other is.
-/

namespace MediaFilter.Json

def filled (names : List String) (values : List (Option Json)) : List (String × Json) :=
  (names.zip values).filterMap fun entry => entry.2.map fun value => (entry.1, value)

/-- Whether a value is a record that gives just these values to its names. -/
inductive Gives (names : List String) (values : List (Option Json)) : Json → Prop
  | named {fields : List (String × Json)} (perm : fields.Perm (filled names values)) :
      Gives names values (.record fields)
  | placed {items : List Json} (fits : items.length ≤ names.length)
      (padded : values = items.map some ++ List.replicate (names.length - items.length) none) :
      Gives names values (.list items)

theorem named_cons (name : String) (field : String × Json) (fields : List (String × Json)) :
    named name (field :: fields) =
      if field.1 = name then field.2 :: named name fields else named name fields := by
  by_cases own : field.1 = name <;> simp [named, own]

theorem named_eq_singleton_iff {name : String} {fields : List (String × Json)} {value : Json} :
    named name fields = [value] ↔ ∃ before after, fields = before ++ (name, value) :: after ∧
      ∀ field ∈ before ++ after, field.1 ≠ name := by
  simp only [named, List.map_eq_singleton_iff, List.filter_eq_cons_iff, List.filter_eq_nil_iff,
    beq_iff_eq, List.mem_append]
  constructor
  · rintro ⟨_, ⟨before, after, rfl, first, rfl, last⟩, rfl⟩
    refine ⟨before, after, rfl, ?_⟩
    rintro field (member | member)
    · exact first field member
    · exact last field member
  · rintro ⟨before, after, rfl, once⟩
    exact ⟨_, ⟨before, after, rfl, fun field member => once field (.inl member), rfl,
      fun field member => once field (.inr member)⟩, rfl⟩

theorem filter_ne_of_once {name : String} {before after : List (String × Json)} {value : Json}
    (once : ∀ field ∈ before ++ after, field.1 ≠ name) :
    (before ++ (name, value) :: after).filter (fun field => field.1 != name) = before ++ after := by
  have others : (before ++ after).filter (fun field => field.1 != name) = before ++ after :=
    List.filter_eq_self.2 fun field member => bne_iff_ne.2 (once field member)
  rwa [List.filter_append, List.filter_cons_of_neg (by simp), ← List.filter_append]

theorem named_perm {first second : List (String × Json)} (perm : first.Perm second)
    (name : String) : (named name first).Perm (named name second) :=
  (perm.filter _).map Prod.snd

theorem filled_cons (name : String) (names : List String) (value : Option Json)
    (values : List (Option Json)) : filled (name :: names) (value :: values) =
      (value.map fun value => (name, value)).toList ++ filled names values := by
  cases value <;> rfl

theorem fst_mem_of_mem_filled {names : List String} {values : List (Option Json)}
    {field : String × Json} (member : field ∈ filled names values) : field.1 ∈ names := by
  obtain ⟨entry, isEntry, given⟩ := List.mem_filterMap.1 member
  obtain ⟨value, _, rfl⟩ := Option.map_eq_some_iff.1 given
  exact (List.of_mem_zip isEntry).1

theorem named_filled_of_not_mem {names : List String} {values : List (Option Json)}
    {name : String} (absent : name ∉ names) : named name (filled names values) = [] := by
  rw [named, List.map_eq_nil_iff, List.filter_eq_nil_iff]
  intro field member
  have listed := fst_mem_of_mem_filled member
  rw [beq_iff_eq]
  rintro rfl
  exact absent listed

theorem named_filled_cons (other name : String) (names : List String) (value : Option Json)
    (values : List (Option Json)) :
    named other (filled (name :: names) (value :: values)) =
      (if name = other then value.toList else []) ++ named other (filled names values) := by
  rw [filled_cons]
  cases value with
  | none => simp
  | some value =>
      show named other ((name, value) :: filled names values) = _
      rw [named_cons]
      split <;> rfl

theorem map_named_filled {names : List String} {values : List (Option Json)}
    (distinct : names.Nodup) (whole : values.length = names.length) :
    names.map (fun name => named name (filled names values)) = values.map Option.toList := by
  induction names generalizing values with
  | nil =>
      rw [List.length_eq_zero_iff.1 whole]
      rfl
  | cons name names induction =>
      obtain ⟨fresh, distinct⟩ := List.nodup_cons.1 distinct
      cases values with
      | nil => cases whole
      | cons value values =>
          have rest := induction distinct (Nat.succ.inj whole)
          have kept : names.map (fun other => named other (filled (name :: names)
              (value :: values))) = names.map fun other => named other (filled names values) := by
            apply List.map_congr_left
            intro other member
            have different : name ≠ other := fun same => fresh (same ▸ member)
            rw [named_filled_cons, if_neg different, List.nil_append]
          rw [List.map_cons, kept, rest, named_filled_cons, if_pos rfl,
            named_filled_of_not_mem fresh, List.append_nil, List.map_cons]

theorem perm_flatMap_filter {names : List String} (distinct : names.Nodup)
    (fields : List (String × Json)) :
    (fields.filter fun field => names.contains field.1).Perm
      (names.flatMap fun name => fields.filter fun field => field.1 == name) := by
  induction names with
  | nil => simp
  | cons name names induction =>
      obtain ⟨fresh, distinct⟩ := List.nodup_cons.1 distinct
      have split := List.filter_append_perm (fun field : String × Json => field.1 == name)
        (fields.filter fun field => (name :: names).contains field.1)
      have own : (fields.filter fun field => (name :: names).contains field.1).filter
          (fun field => field.1 == name) = fields.filter fun field => field.1 == name := by
        rw [List.filter_filter]
        apply List.filter_congr
        intro field _
        by_cases isName : field.1 = name <;> simp [isName]
      have others : (fields.filter fun field => (name :: names).contains field.1).filter
          (fun field => !field.1 == name) =
            fields.filter fun field => names.contains field.1 := by
        rw [List.filter_filter]
        apply List.filter_congr
        intro field _
        by_cases isName : field.1 = name
        · simp [isName, fresh]
        · simp [isName]
      rw [own, others] at split
      rw [List.flatMap_cons]
      exact split.symm.trans ((induction distinct).append_left _)

theorem filled_map_head? {names : List String} {fields : List (String × Json)}
    (once : ∀ name ∈ names, (named name fields).length ≤ 1) :
    filled names (names.map fun name => (named name fields).head?) =
      names.flatMap fun name => fields.filter fun field => field.1 == name := by
  induction names with
  | nil => rfl
  | cons name names induction =>
      have rest := induction fun other member => once other (List.mem_cons_of_mem _ member)
      have single := once name List.mem_cons_self
      have own : ((named name fields).head?.map fun value => (name, value)).toList =
          fields.filter fun field => field.1 == name := by
        have all : ∀ field ∈ fields.filter (fun field => field.1 == name), field.1 = name :=
          fun field member => by simpa using (List.mem_filter.1 member).2
        rw [named, List.length_map] at single
        rw [named]
        generalize fields.filter (fun field => field.1 == name) = found at all single
        cases found with
        | nil => rfl
        | cons field found =>
            have none : found = [] := List.length_eq_zero_iff.1 (by simpa using single)
            rw [none, ← all field List.mem_cons_self]
            rfl
      rw [List.map_cons, filled_cons, own, rest, List.flatMap_cons]

theorem head?_comp_toList : List.head? ∘ Option.toList = (id : Option Json → Option Json) := by
  funext value
  cases value <;> rfl

section

variable {names : List String} {fields : List (String × Json)} {values : List (Option Json)}

theorem perm_filled_of_once (distinct : names.Nodup)
    (once : ∀ name ∈ names, (named name fields).length ≤ 1)
    (known : ∀ field ∈ fields, field.1 ∈ names) :
    fields.Perm (filled names (names.map fun name => (named name fields).head?)) := by
  have whole : (fields.filter fun field => names.contains field.1) = fields :=
    List.filter_eq_self.2 fun field member => List.contains_iff_mem.2 (known field member)
  have perm := perm_flatMap_filter distinct fields
  rwa [whole, ← filled_map_head? once] at perm

variable (distinct : names.Nodup) (whole : values.length = names.length)
  (perm : fields.Perm (filled names values))

include distinct whole perm

/-- A name is given once at most, so that the order of the fields does not show. -/
theorem named_of_perm_filled {name : String} (member : name ∈ names) :
    named name fields = named name (filled names values) ∧ (named name fields).length ≤ 1 := by
  have isOne : named name (filled names values) ∈ values.map Option.toList := by
    rw [← map_named_filled distinct whole]
    exact List.mem_map_of_mem member
  obtain ⟨value, _, given⟩ := List.mem_map.1 isOne
  have own := named_perm perm name
  rw [← given] at own ⊢
  cases value with
  | none => simp [own.eq_nil]
  | some value => simp [List.perm_singleton.1 own]

theorem map_head?_of_perm_filled : names.map (fun name => (named name fields).head?) = values := by
  have heads : names.map (fun name => (named name fields).head?) =
      (names.map fun name => named name (filled names values)).map List.head? := by
    rw [List.map_map]
    exact List.map_congr_left fun name member =>
      congrArg List.head? (named_of_perm_filled distinct whole perm member).1
  rw [heads, map_named_filled distinct whole, List.map_map, head?_comp_toList, List.map_id]

end

theorem namedFields?_eq_some_iff {names : List String} (distinct : names.Nodup)
    {fields : List (String × Json)} {values : List (Option Json)} :
    namedFields? names .refused fields = some values ↔
      values.length = names.length ∧ fields.Perm (filled names values) := by
  have admitted : ((names.all fun name => (named name fields).length ≤ 1) &&
      admits names .refused fields) = true ↔
        (∀ name ∈ names, (named name fields).length ≤ 1) ∧ ∀ field ∈ fields, field.1 ∈ names := by
    simp [admits]
  unfold namedFields?
  constructor
  · intro read
    split at read
    · rename_i accepted
      obtain ⟨once, known⟩ := admitted.1 accepted
      cases read
      exact ⟨List.length_map _, perm_filled_of_once distinct once known⟩
    · cases read
  · intro ⟨whole, perm⟩
    have once : ∀ name ∈ names, (named name fields).length ≤ 1 :=
      fun _ member => (named_of_perm_filled distinct whole perm member).2
    have known : ∀ field ∈ fields, field.1 ∈ names :=
      fun _ member => fst_mem_of_mem_filled (perm.mem_iff.1 member)
    rw [if_pos (admitted.2 ⟨once, known⟩), map_head?_of_perm_filled distinct whole perm]

theorem fields?_eq_some_iff {names : List String} (distinct : names.Nodup)
    {values : List (Option Json)} {json : Json} :
    json.fields? names .refused = some values ↔
      values.length = names.length ∧ json.Gives names values := by
  cases json with
  | record fields =>
      rw [fields?, namedFields?_eq_some_iff distinct]
      constructor
      · exact fun ⟨whole, perm⟩ => ⟨whole, .named perm⟩
      · rintro ⟨whole, ⟨perm⟩⟩
        exact ⟨whole, perm⟩
  | list items =>
      rw [fields?, placedFields?]
      constructor
      · intro read
        split at read
        · rename_i fits
          have values_eq := Option.some.inj read
          subst values_eq
          refine ⟨?_, .placed fits rfl⟩
          rw [List.length_append, List.length_map, List.length_replicate]
          omega
        · cases read
      · rintro ⟨_, ⟨⟩ | ⟨fits, padded⟩⟩
        rw [if_pos fits, padded]
  | _ =>
      constructor
      · rintro ⟨⟩
      · rintro ⟨_, ⟨⟩⟩

/-- Whether a value is a record that gives these values to its names, whatever else it holds. -/
inductive Holds (names : List String) (values : List (Option Json)) : Json → Prop
  | named {fields : List (String × Json)}
      (found : names.map (fun name => named name fields) = values.map Option.toList) :
      Holds names values (.record fields)
  | placed {items : List Json} (fits : items.length ≤ names.length)
      (padded : values = items.map some ++ List.replicate (names.length - items.length) none) :
      Holds names values (.list items)

theorem toList_head?_of_single {items : List Json} (single : items.length ≤ 1) :
    items.head?.toList = items := by
  match items, single with
  | [], _ => rfl
  | [item], _ => rfl

theorem namedFields?_ignored_eq_some_iff {names : List String} {fields : List (String × Json)}
    {values : List (Option Json)} :
    namedFields? names .ignored fields = some values ↔
      names.map (fun name => named name fields) = values.map Option.toList := by
  simp only [namedFields?, admits, Bool.and_true, List.all_eq_true, decide_eq_true_eq,
    Option.ite_none_right_eq_some, Option.some.injEq]
  constructor
  · rintro ⟨once, rfl⟩
    rw [List.map_map]
    exact List.map_congr_left fun name member => (toList_head?_of_single (once name member)).symm
  · intro found
    constructor
    · intro name member
      have isOne : named name fields ∈ values.map Option.toList :=
        found ▸ List.mem_map_of_mem member
      obtain ⟨value, _, given⟩ := List.mem_map.1 isOne
      rw [← given]
      cases value <;> simp
    · have heads := congrArg (List.map List.head?) found
      rwa [List.map_map, List.map_map, head?_comp_toList, List.map_id] at heads

theorem fields?_ignored_eq_some_iff {names : List String} {values : List (Option Json)}
    {json : Json} : json.fields? names .ignored = some values ↔ Holds names values json := by
  cases json with
  | record fields =>
      rw [fields?, namedFields?_ignored_eq_some_iff]
      exact ⟨.named, fun | .named found => found⟩
  | list items =>
      simp only [fields?, placedFields?, Option.ite_none_right_eq_some, Option.some.injEq]
      exact ⟨fun ⟨fits, padded⟩ => .placed fits padded.symm,
        fun | .placed fits padded => ⟨fits, padded.symm⟩⟩
  | _ => exact ⟨nofun, nofun⟩

theorem truth?_eq_some_iff {json : Json} {value : Bool} :
    truth? json = some value ↔ json = .truth value := by
  cases json <;> simp [truth?]

theorem text?_eq_some_iff {json : Json} {value : String} :
    text? json = some value ↔ json = .text value := by
  cases json <;> simp [text?]

section

variable {read : Json → Option α} {write : α → Json}
  (isExact : ∀ json value, read json = some value ↔ json = write value)

include isExact

theorem required_eq_some_iff {field : Option Json} {value : α} :
    required read field = some value ↔ field = some (write value) := by
  cases field <;> simp [required, isExact]

theorem defaulting_eq_some_iff {default : α} {field : Option Json} {value : α} :
    defaulting default read field = some value ↔
      ∃ given : Option α, field = given.map write ∧ given.getD default = value := by
  cases field with
  | none =>
      constructor
      · rintro ⟨⟩
        exact ⟨none, rfl, rfl⟩
      · rintro ⟨_ | _, left, rfl⟩
        · rfl
        · cases left
  | some json =>
      rw [defaulting, isExact]
      constructor
      · rintro rfl
        exact ⟨some value, rfl, rfl⟩
      · rintro ⟨_ | given, left, rfl⟩
        · cases left
        · exact Option.some.inj left

end

theorem each_eq_some_iff {read : Json → Option α} {items : List Json} {values : List α} :
    each read items = some values ↔
      List.Forall₂ (fun item value => read item = some value) items values := by
  induction items generalizing values with
  | nil => cases values <;> simp
  | cons item items induction =>
      rw [each]
      cases values with
      | nil => cases read item <;> cases each read items <;> simp
      | cons value values =>
          rw [List.forall₂_cons, ← induction]
          cases read item <;> cases each read items <;> simp

/-- The reader of one alternative, where the values of the alternative are those that it makes. -/
theorem map_eq_some_iff_of_exact {read : Option α} {make : α → β} {denotes : β → Prop}
    {own : Prop} {value : β} (isExact : ∀ content, read = some content ↔ denotes (make content))
    (isOwn : own ↔ ∃ content, make content = value) :
    read.map make = some value ↔ own ∧ denotes value := by
  rw [Option.map_eq_some_iff, isOwn]
  constructor
  · rintro ⟨content, isRead, rfl⟩
    exact ⟨⟨content, rfl⟩, (isExact content).1 isRead⟩
  · rintro ⟨⟨content, rfl⟩, isDenoted⟩
    exact ⟨content, (isExact content).2 isDenoted, rfl⟩

/-- What an optional field says: nothing if it is left out or null. -/
inductive Says (write : α → Json) : Option Json → Option α → Prop
  | missing : Says write none none
  | null : Says write (some .null) none
  | given (value : α) : Says write (some (write value)) (some value)

theorem optional_eq_some_iff {read : Json → Option α} {write : α → Json}
    (isExact : ∀ json value, read json = some value ↔ json = write value)
    (notNull : ∀ value, write value ≠ .null) {field : Option Json} {value : Option α} :
    optional read field = some value ↔ Says write field value := by
  constructor
  · intro found
    unfold optional defaulting at found
    split at found
    · unfold nullable at found
      split at found
      · cases found
        exact .null
      · obtain ⟨content, isContent, rfl⟩ := Option.map_eq_some_iff.1 found
        rw [(isExact _ content).1 isContent]
        exact .given content
    · cases found
      exact .missing
  · rintro (_ | _ | content)
    · rfl
    · rfl
    · have written := (isExact _ content).2 rfl
      show nullable read (write content) = some (some content)
      unfold nullable
      split
      · rename_i isNull
        exact absurd isNull (notNull content)
      · rw [written]
        rfl

theorem each_text?_eq_some_iff {items : List Json} {values : List String} :
    each text? items = some values ↔ items = values.map .text := by
  simp only [each_eq_some_iff, text?_eq_some_iff]
  rw [← List.forall₂_map_right_iff, List.forall₂_eq_eq_eq]

theorem texts?_eq_some_iff {json : Json} {values : List String} :
    texts? json = some values ↔ json = texts values := by
  cases json with
  | list items =>
      rw [texts?, listOf, each_text?_eq_some_iff, texts, list.injEq]
  | _ =>
      constructor
      · rintro ⟨⟩
      · rintro ⟨⟩

theorem keepableItems_iff {depth : Nat} {items : List Json} :
    keepableItems depth items = true ↔ ∀ item ∈ items, item.keepable depth = true := by
  induction items with
  | nil => simp [keepableItems]
  | cons item items induction => simp [keepableItems, induction]

end MediaFilter.Json
