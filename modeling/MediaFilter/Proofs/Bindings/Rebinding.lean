import MediaFilter.Proofs.Bindings.Regularity

/-!
Binding again what bound widgets stood for.  Whatever values they had come to have, the widgets that
are bound to their expression stand for it again; only the user lists are not bound at once.
-/

namespace MediaFilter

namespace Expression

theorem gathered?_filter {pairs : List (Definition × FilterValue)}
    {keep : Definition × FilterValue → Bool} {key : String}
    (dropped : ∀ pair ∈ pairs, keep pair = false →
      Clauses.get? key (contribution pair) = none) :
    gathered? (pairs.filter keep) key = gathered? pairs key := by
  induction pairs with
  | nil => rfl
  | cons pair pairs induction =>
      have rest := induction fun other member => dropped other (List.mem_cons_of_mem _ member)
      cases kept : keep pair with
      | true =>
          rw [List.filter_cons_of_pos kept, gathered?, List.findSome?_cons, gathered?,
            List.findSome?_cons, ← gathered?, ← gathered?, rest]
      | false =>
          rw [List.filter_cons_of_neg (by simp [kept]), rest, gathered?, gathered?,
            List.findSome?_cons, dropped pair List.mem_cons_self kept]

theorem withBounds_erase (name : FilterName) (expression : Expression) :
    (expression.erase name.wire).withBounds = expression.withBounds := by
  have min := FilterName.wire_ne_minKey name .tagPercentage
  have max := FilterName.wire_ne_maxKey name .tagPercentage
  funext clause
  cases clause <;>
    simp [withBounds, hasTagPercentage, contains, bound?, get?_erase, min, max]

theorem relocateTagPercentage_erase {name : FilterName} (notTag : name ≠ .tag)
    (expression : Expression) :
    (expression.erase name.wire).relocateTagPercentage =
      expression.relocateTagPercentage.erase name.wire := by
  have different : FilterName.tag.wire ≠ name.wire := fun equal =>
    notTag (FilterName.wire_inj equal).symm
  apply ext_get?
  intro key
  rw [get?_relocateTagPercentage, withBounds_erase, get?_erase, get?_erase,
    get?_relocateTagPercentage]
  by_cases isName : name.wire = key
  · simp [isName]
  · simp [isName]

theorem contribution_userList {value : FilterValue} {key : String}
    (other : key ≠ FilterName.userList.wire) :
    Clauses.get? key (contribution (FilterName.userList.definition, value)) = none := by
  rw [Option.eq_none_iff_forall_ne_some]
  intro clause found
  unfold contribution at found
  split at found
  · rename_i kind
    cases value with
    | userList selection =>
        unfold FilterValue.clauses FilterValue.selectionClauses at found
        dsimp only at found
        split at found
        · cases found
        · rw [Clauses.get?_cons, FilterName.definition_name, if_neg (Ne.symm other)] at found
          cases found
    | _ => cases kind
  · cases found

end Expression

namespace Widget

theorem value_bind {definition : Definition} (entity : EntityType) {restored : Option FilterValue}
    (fits : ∀ value ∈ restored, value.kind = definition.kind) :
    (bind definition entity restored).result.value = restored.getD (.neutral definition) := by
  have kept : restored.filter (fun value => value.kind = definition.kind) = restored := by
    cases restored with
    | none => rfl
    | some value => rw [Option.filter_some, if_pos (by simpa using fits value rfl)]
  unfold bind
  rw [kept]
  cases restored <;> rfl

end Widget

namespace Bindings

theorem build_subscribeAll (bindings : Bindings) :
    bindings.subscribeAll.build = bindings.build := by
  simp only [build, subscribeAll, withWidgets, List.map_map]
  rfl

theorem pairs_bind (entity : EntityType) (stored : Expression) (grouping : TagGrouping) :
    (bind entity stored grouping).result.pairs =
      (Expression.assigned entity stored.restored).filter fun pair =>
        pair.1.kind ≠ .userList := by
  have values : ∀ definition : Definition,
      (bindOne entity stored definition).result.value = stored.restored definition :=
    fun definition => Widget.value_bind entity fun _ found =>
      (Expression.restore?_fits found).kind
  have definitions : ∀ definition : Definition,
      (bindOne entity stored definition).result.definition = definition :=
    fun definition => Widget.definition_bind definition entity _
  simp only [pairs, bind, Traced.result_map, Traced.result_each, List.map_map,
    Expression.assigned, List.filter_map]
  apply List.map_congr_left
  intro definition _
  rw [Function.comp_apply, values, definitions]

/-- The widgets that are bound at first stand for what is stored, brought into its normal form,
but for the user lists. -/
theorem build_bind (entity : EntityType) (stored : Expression) (grouping : TagGrouping) :
    (bind entity stored grouping).result.build =
      (Expression.normalize entity stored).erase FilterName.userList.wire := by
  have distinct := Expression.distinct_assigned entity stored.restored
  have kept : Expression.Distinct (bind entity stored grouping).result.pairs := by
    rw [pairs_bind]
    exact List.Nodup.sublist (List.filter_sublist.map _) distinct
  have whole : (bind entity stored grouping).result.pairs.foldl Expression.append .empty =
      ((Expression.assigned entity stored.restored).foldl Expression.append .empty).erase
        FilterName.userList.wire := by
    apply Expression.ext_get?
    intro key
    rw [Expression.get?_erase, Expression.get?_foldl_append kept,
      Expression.get?_foldl_append distinct, Expression.get?_empty, Option.or_none, Option.or_none]
    split
    · rename_i isKey
      have owned : key ∈ FilterName.userList.keys := isKey ▸ List.mem_cons_self
      refine Expression.gathered?_eq_none ?_ owned
      rw [pairs_bind]
      intro member
      obtain ⟨pair, isPair, named⟩ := List.mem_map.1 member
      obtain ⟨isAssigned, notPicker⟩ := List.mem_filter.1 isPair
      obtain ⟨definition, isOffered, rfl⟩ := List.mem_map.1 isAssigned
      obtain ⟨name, _, rfl⟩ := List.mem_map.1 isOffered
      rw [FilterName.definition_name] at named
      have kind : name.definition.kind ≠ .userList := by simpa using notPicker
      exact kind (FilterName.kind_definition_eq_userList.2 named)
    · rename_i other
      rw [pairs_bind]
      apply Expression.gathered?_filter
      intro pair member dropped
      obtain ⟨definition, isOffered, rfl⟩ := List.mem_map.1 member
      obtain ⟨name, _, rfl⟩ := List.mem_map.1 isOffered
      have isPicker : name.definition.kind = .userList := by simpa using dropped
      rw [FilterName.kind_definition_eq_userList.1 isPicker]
      exact Expression.contribution_userList (Ne.symm other)
  rw [build_eq, Expression.build, whole,
    Expression.relocateTagPercentage_erase (by decide), ← Expression.build,
    Expression.normalize_eq_build]

def valueOf (bindings : Bindings) (definition : Definition) : FilterValue :=
  ((bindings.get? definition.name).map Widget.value).getD (.neutral definition)

section

variable {bindings : Bindings} (regular : bindings.Regular)

include regular

theorem valueOf_of_mem {widget : Widget} (isBound : widget ∈ bindings.widgets) :
    bindings.valueOf widget.definition = widget.value := by
  have found := regular.toSound.get?_of_mem isBound
  rw [Widget.name] at found
  rw [valueOf, found]
  rfl

theorem valueOf_fits (name : FilterName) : (bindings.valueOf name.definition).Fits
    name.definition := by
  unfold valueOf
  rw [FilterName.definition_name]
  cases found : bindings.get? name with
  | none => exact FilterValue.neutral_fits name.definition
  | some widget =>
      exact regular.fits_of_get? found

theorem gathered?_pairs (key : String) :
    Expression.gathered? bindings.pairs key =
      Expression.gathered? (Expression.assigned bindings.entity bindings.valueOf) key := by
  apply Option.ext
  intro clause
  rw [Expression.gathered?_eq_some_iff regular.toSound.distinct_pairs,
    Expression.gathered?_eq_some_iff (Expression.distinct_assigned _ _)]
  constructor
  · rintro ⟨pair, member, found⟩
    obtain ⟨widget, isBound, rfl⟩ := List.mem_map.1 member
    have isOffered := regular.offered _ (List.mem_map.2 ⟨widget, isBound, rfl⟩)
    have assigned := Expression.mem_assigned isOffered bindings.valueOf
    rw [← (regular.widgets widget isBound).definition, valueOf_of_mem regular isBound] at assigned
    exact ⟨_, assigned, found⟩
  · rintro ⟨pair, member, found⟩
    obtain ⟨definition, isDefinition, rfl⟩ := List.mem_map.1 member
    obtain ⟨name, isOffered, rfl⟩ := List.mem_map.1 isDefinition
    by_cases isBound : name ∈ bindings.names
    · obtain ⟨widget, held, rfl⟩ := mem_names.1 isBound
      rw [← (regular.widgets widget held).definition, valueOf_of_mem regular held] at found
      exact ⟨_, List.mem_map.2 ⟨widget, held, rfl⟩, found⟩
    · -- Only the user lists can be missing, and their neutral value has no clause.
      have isPicker : name = .userList :=
        Decidable.byContradiction fun other => isBound (regular.whole name isOffered other)
      subst isPicker
      rw [valueOf, FilterName.definition_name, get?_eq_none_iff.2 isBound] at found
      cases found

theorem normalize_build : Expression.normalize bindings.entity bindings.build = bindings.build := by
  have assigned : bindings.build =
      .build (Expression.assigned bindings.entity bindings.valueOf) :=
    Expression.build_congr regular.toSound.distinct_pairs (Expression.distinct_assigned _ _)
      (gathered?_pairs regular)
  rw [assigned]
  apply Expression.normalize_build
  intro definition isOffered
  obtain ⟨name, _, rfl⟩ := List.mem_map.1 isOffered
  exact valueOf_fits regular name

theorem build_rebind (grouping : TagGrouping) :
    (bind bindings.entity bindings.build grouping).result.subscribeAll.build =
      bindings.build.erase FilterName.userList.wire := by
  rw [build_subscribeAll, build_bind, normalize_build regular]

end

end Bindings

end MediaFilter
