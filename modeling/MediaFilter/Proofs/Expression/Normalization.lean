import MediaFilter.Proofs.Expression.Restoration

/-!
Building from fit values and restoring are inverse up to one building: what was built once is built
again from what it restores.  So whatever an expression held to begin with, it is normal after it
was restored and built once.
-/

namespace MediaFilter

namespace Expression

def assigned (entity : EntityType) (values : Definition → FilterValue) :
    List (Definition × FilterValue) :=
  entity.definitions.map fun definition => (definition, values definition)

theorem names_assigned (entity : EntityType) (values : Definition → FilterValue) :
    (assigned entity values).map (fun pair => pair.1.name) = entity.filterSet := by
  simp [assigned, EntityType.definitions, Function.comp_def]

theorem distinct_assigned (entity : EntityType) (values : Definition → FilterValue) :
    Distinct (assigned entity values) := by
  rw [Distinct, names_assigned]
  exact entity.filterSet_nodup

theorem mem_assigned {entity : EntityType} {name : FilterName} (offered : name ∈ entity.filterSet)
    (values : Definition → FilterValue) :
    (name.definition, values name.definition) ∈ assigned entity values :=
  List.mem_map.2 ⟨_, List.mem_map.2 ⟨name, offered, rfl⟩, rfl⟩

theorem contribution_eq {definition : Definition} {value : FilterValue}
    (kind : value.kind = definition.kind) :
    contribution (definition, value) = value.clauses definition := by
  rw [contribution, if_pos kind]

theorem gathered?_assigned_congr {entity : EntityType} {first second : Definition → FilterValue}
    {key : String}
    (same : ∀ name ∈ entity.filterSet,
      Clauses.get? key (contribution (name.definition, first name.definition)) =
        Clauses.get? key (contribution (name.definition, second name.definition))) :
    gathered? (assigned entity first) key = gathered? (assigned entity second) key := by
  unfold gathered? assigned EntityType.definitions
  generalize entity.filterSet = names at same
  induction names with
  | nil => rfl
  | cons name names induction =>
      simp only [List.map_cons, List.findSome?_cons]
      rw [same name List.mem_cons_self,
        induction fun other member => same other (List.mem_cons_of_mem _ member)]

theorem get?_build {pairs : List (Definition × FilterValue)} (distinct : Distinct pairs)
    (key : String) :
    (build pairs).get? key =
      if FilterName.tagPercentage.minKey = key ∨ FilterName.tagPercentage.maxKey = key then none
      else if FilterName.tag.wire = key then
        (gathered? pairs key).map (pairs.foldl append empty).withBounds
      else gathered? pairs key := by
  have gathered := get?_foldl_append distinct empty key
  rw [get?_empty, Option.or_none] at gathered
  rw [build, get?_relocateTagPercentage, gathered]

theorem gathered?_assigned_eq_none {entity : EntityType} {name : FilterName}
    (absent : name ∉ entity.filterSet) (values : Definition → FilterValue) {key : String}
    (owned : key ∈ name.keys) : gathered? (assigned entity values) key = none := by
  refine gathered?_eq_none ?_ owned
  rw [names_assigned]
  exact absent

section

variable {entity : EntityType} {values : Definition → FilterValue}
  (fits : ∀ definition ∈ entity.definitions, (values definition).Fits definition)

include fits

theorem fits_of_offered {name : FilterName} (offered : name ∈ entity.filterSet) :
    (values name.definition).Fits name.definition :=
  fits _ (List.mem_map.2 ⟨name, offered, rfl⟩)

theorem gathered?_assigned {name : FilterName} (offered : name ∈ entity.filterSet) {key : String}
    (owned : key ∈ name.keys) :
    gathered? (assigned entity values) key =
      Clauses.get? key ((values name.definition).clauses name.definition) := by
  have member := mem_assigned offered values
  rw [gathered?_eq_of_mem (distinct_assigned entity values) member, contribution_eq]
  · exact (fits_of_offered fits offered).kind
  · rw [FilterName.definition_name]
    exact owned

/-- Apart from the tags and their percentage, the keys of a filter are left as they were. -/
theorem build_shows {name : FilterName} (offered : name ∈ entity.filterSet)
    (notTag : name ≠ .tag) (notPercentage : name ≠ .tagPercentage) :
    (build (assigned entity values)).Shows name.definition (values name.definition) := by
  intro key owned
  rw [FilterName.definition_name] at owned
  rw [get?_build (distinct_assigned entity values), if_neg, if_neg,
    gathered?_assigned fits offered owned]
  · rintro rfl
    exact notTag (FilterName.eq_of_mem_keys owned List.mem_cons_self)
  · rintro (rfl | rfl)
    · exact notPercentage (FilterName.eq_of_mem_keys owned (by simp [FilterName.keys]))
    · exact notPercentage (FilterName.eq_of_mem_keys owned (by simp [FilterName.keys]))

theorem get?_build_tag (offered : .tag ∈ entity.filterSet) :
    (build (assigned entity values)).get? FilterName.tag.wire =
      (Clauses.get? FilterName.tag.wire
        ((values FilterName.tag.definition).clauses FilterName.tag.definition)).map
        ((assigned entity values).foldl append empty).withBounds := by
  rw [get?_build (distinct_assigned entity values), if_neg (wire_ne_tagPercentage _), if_pos rfl,
    gathered?_assigned fits offered List.mem_cons_self]

theorem restored_tag (offered : .tag ∈ entity.filterSet) :
    ((build (assigned entity values)).restored FilterName.tag.definition).clauses
        FilterName.tag.definition =
      (values FilterName.tag.definition).clauses FilterName.tag.definition := by
  have found := get?_build_tag fits offered
  have fit := fits_of_offered fits offered
  cases value : values FilterName.tag.definition with
  | picker selection =>
      rw [value] at found fit
      unfold FilterValue.clauses at found ⊢
      dsimp only at found ⊢
      by_cases empty : selection.isEmpty
      · rw [FilterValue.selectionClauses, if_pos empty] at found ⊢
        exact restored_empty (.inl rfl) found
      · rw [FilterValue.selectionClauses, if_neg empty, FilterName.definition_name,
          Clauses.get?_cons, if_pos rfl, Option.map_some] at found
        obtain ⟨min, max, bounded⟩ := withBounds_set
          ((assigned entity values).foldl append .empty) (SetClause.ofSelection selection)
        rw [bounded] at found
        exact restored_selection (.inl rfl) (fit.distinct selection rfl) found
  | _ =>
      rw [value] at fit
      cases fit.kind

theorem clauses_restored {name : FilterName} (offered : name ∈ entity.filterSet)
    (notPercentage : name ≠ .tagPercentage) :
    ((build (assigned entity values)).restored name.definition).clauses name.definition =
      (values name.definition).clauses name.definition := by
  by_cases isTag : name = .tag
  · subst isTag
    exact restored_tag fits offered
  · exact restored_of_shows (fits_of_offered fits offered)
      (build_shows fits offered isTag notPercentage)

theorem gathered?_tag {clause : Clause}
    (found : gathered? (assigned entity values) FilterName.tag.wire = some clause) :
    ∃ selection, clause = .set (.ofSelection selection) := by
  by_cases offered : .tag ∈ entity.filterSet
  · rw [gathered?_assigned fits offered List.mem_cons_self] at found
    have fit := fits_of_offered fits offered
    cases value : values FilterName.tag.definition with
    | picker selection =>
        rw [value] at found
        unfold FilterValue.clauses FilterValue.selectionClauses at found
        dsimp only at found
        split at found
        · cases found
        · rw [FilterName.definition_name, Clauses.get?_cons, if_pos rfl] at found
          cases found
          exact ⟨selection, rfl⟩
    | _ =>
        rw [value] at fit
        cases fit.kind
  · have nothing := gathered?_assigned_eq_none offered values List.mem_cons_self
    rw [nothing] at found
    cases found

theorem restored_tagPercentage (offered : .tagPercentage ∈ entity.filterSet) {clause : Clause}
    (tags : gathered? (assigned entity values) FilterName.tag.wire = some clause) :
    (build (assigned entity values)).restored FilterName.tagPercentage.definition =
      values FilterName.tagPercentage.definition := by
  have fit := fits_of_offered fits offered
  cases value : values FilterName.tagPercentage.definition with
  | range range =>
      obtain ⟨selection, rfl⟩ := gathered?_tag fits tags
      have distinct := distinct_assigned entity values
      have gathered := fun key => get?_foldl_append distinct empty key
      simp only [get?_empty, Option.or_none] at gathered
      have min : ((assigned entity values).foldl append empty).get?
          FilterName.tagPercentage.minKey = some (.bound range.min) := by
        rw [gathered, gathered?_assigned fits offered (by simp [FilterName.keys]), value]
        simp [FilterValue.clauses, Clauses.get?_cons]
      have max : ((assigned entity values).foldl append empty).get?
          FilterName.tagPercentage.maxKey = some (.bound range.max) := by
        rw [gathered, gathered?_assigned fits offered (by simp [FilterName.keys]), value]
        simp [FilterValue.clauses, Clauses.get?_cons, FilterName.minKey_ne_maxKey]
      have moved : (build (assigned entity values)).get? FilterName.tag.wire =
          some (.set ((SetClause.ofSelection selection).withTagPercentage
            (some range.min) (some range.max))) := by
        rw [get?_build distinct, if_neg (wire_ne_tagPercentage _), if_pos rfl, tags]
        simp [withBounds, hasTagPercentage, contains, bound?, min, max]
      have nowhere : (build (assigned entity values)).bound? FilterName.tagPercentage.minKey =
          none := by
        rw [bound?, get?_build distinct, if_pos (.inl rfl)]
      rw [value] at fit
      refine restored_range_of_ends fit ?_
      have outside : ends? none
          ((build (assigned entity values)).bound? FilterName.tagPercentage.maxKey) = none := rfl
      rw [FilterName.definition_name, rangeEnds?, nowhere, outside]
      simp [tags?, moved, SetClause.withTagPercentage, ends?]
  | _ =>
      rw [value] at fit
      cases fit.kind

theorem gathered?_restored {key : String} (notMin : FilterName.tagPercentage.minKey ≠ key)
    (notMax : FilterName.tagPercentage.maxKey ≠ key) :
    gathered? (assigned entity (build (assigned entity values)).restored) key =
      gathered? (assigned entity values) key := by
  apply gathered?_assigned_congr
  intro name offered
  rw [contribution_eq (fits_of_offered fits offered).kind,
    contribution_eq (restored_fits name.definition _).kind]
  by_cases isPercentage : name = .tagPercentage
  · -- Neither value has a clause under the key.
    have nothing : ∀ value : FilterValue, value.kind = name.definition.kind →
        Clauses.get? key (value.clauses name.definition) = none := by
      intro value kind
      subst isPercentage
      cases value with
      | range range => simp [FilterValue.clauses, notMin, notMax, Clauses.get?]
      | _ => cases kind
    rw [nothing _ (fits_of_offered fits offered).kind, nothing _ (restored_fits _ _).kind]
  · rw [clauses_restored fits offered isPercentage]

theorem build_restored :
    build (assigned entity (build (assigned entity values)).restored) =
      build (assigned entity values) := by
  apply ext_get?
  intro key
  cases tags : gathered? (assigned entity values) FilterName.tag.wire with
  | none =>
      rw [get?_build (distinct_assigned _ _), get?_build (distinct_assigned _ _)]
      split
      · rfl
      · rename_i unbound
        obtain ⟨notMin, notMax⟩ := not_or.1 unbound
        rw [gathered?_restored fits notMin notMax]
        split
        · rename_i isTag
          rw [← isTag, tags]
          rfl
        · rfl
  | some clause =>
      -- The bounds were kept inside the clause of the tags, so all filters are as before.
      have same : ∀ key, gathered? (assigned entity (build (assigned entity values)).restored) key =
          gathered? (assigned entity values) key := by
        intro key
        apply gathered?_assigned_congr
        intro name offered
        rw [contribution_eq (fits_of_offered fits offered).kind,
          contribution_eq (restored_fits name.definition _).kind]
        by_cases isPercentage : name = .tagPercentage
        · subst isPercentage
          rw [restored_tagPercentage fits offered tags]
        · rw [clauses_restored fits offered isPercentage]
      have whole : (assigned entity (build (assigned entity values)).restored).foldl append empty =
          (assigned entity values).foldl append empty := by
        apply ext_get?
        intro key
        rw [get?_foldl_append (distinct_assigned _ _), get?_foldl_append (distinct_assigned _ _),
          same]
      rw [build, whole, ← build]

end

theorem normalize_eq_build (entity : EntityType) (expression : Expression) :
    normalize entity expression = build (assigned entity expression.restored) := rfl

theorem normalize_build {entity : EntityType} {values : Definition → FilterValue}
    (fits : ∀ definition ∈ entity.definitions, (values definition).Fits definition) :
    normalize entity (build (assigned entity values)) = build (assigned entity values) :=
  build_restored fits

/-- A text stored for values that fit reads as an expression that restores and builds to what was
stored; every filter but the tag percentage gets its clauses back.  And restoring and building
leaves any expression whatever in a form that it keeps; where nothing is restored, the neutral value
is built. -/
theorem restoration_faithful (entity : EntityType) :
    (∀ values : Definition → FilterValue,
      (∀ definition ∈ entity.definitions, (values definition).Fits definition) →
      ∃ stored, read (build (assigned entity values)).print = .ok stored ∧
        normalize entity stored = build (assigned entity values) ∧
        (normalize entity stored).print = (build (assigned entity values)).print ∧
        ∀ name ∈ entity.filterSet, name ≠ .tagPercentage →
          (stored.restored name.definition).clauses name.definition =
            (values name.definition).clauses name.definition) ∧
    (∀ expression, normalize entity (normalize entity expression) = normalize entity expression) ∧
    ∀ expression, normalize entity expression = build (assigned entity fun definition =>
      (expression.restore? definition).getD (.neutral definition)) := by
  refine ⟨?_, ?_, normalize_eq_build entity⟩
  · intro values fits
    refine ⟨build (assigned entity values), ?_, normalize_build fits, ?_, ?_⟩
    · rw [read, read?_print]
      rfl
    · rw [normalize_build fits]
    · intro name offered notPercentage
      exact clauses_restored fits offered notPercentage
  · intro expression
    rw [normalize_eq_build entity expression]
    apply normalize_build
    intro definition _
    exact restored_fits definition expression

def taggedValues (definition : Definition) : FilterValue :=
  if definition = FilterName.tag.definition then
    .picker ⟨[.excluding "Gore", .including "Isekai"], .or⟩
  else if definition = FilterName.tagPercentage.definition then
    .range { min := { val := 20 }, max := { val := 80 } }
  else .neutral definition

theorem taggedValues_fit (definition : Definition) :
    (taggedValues definition).Fits definition := by
  unfold taggedValues
  split
  · rename_i isTag
    subst isTag
    refine ⟨rfl, ?_, by simp [FilterValue.range?]⟩
    rintro _ ⟨⟩
    decide
  split
  · rename_i isPercentage
    subst isPercentage
    refine ⟨rfl, by simp [FilterValue.selection?], ?_⟩
    rintro _ ⟨⟩ _ ⟨⟩
    decide
  · exact FilterValue.neutral_fits definition

theorem restoration_faithful_of_tags :
    (∀ definition ∈ EntityType.anime.definitions, (taggedValues definition).Fits definition) ∧
      ∃ stored, read (build (assigned .anime taggedValues)).print = .ok stored ∧
        normalize .anime stored = build (assigned .anime taggedValues) ∧
        (normalize .anime stored).print = (build (assigned .anime taggedValues)).print ∧
        ∀ name ∈ EntityType.anime.filterSet, name ≠ .tagPercentage →
          (stored.restored name.definition).clauses name.definition =
            (taggedValues name.definition).clauses name.definition := by
  have fits : ∀ definition ∈ EntityType.anime.definitions,
      (taggedValues definition).Fits definition :=
    fun definition _ => taggedValues_fit definition
  exact ⟨fits, (restoration_faithful .anime).1 taggedValues fits⟩

end Expression

end MediaFilter
