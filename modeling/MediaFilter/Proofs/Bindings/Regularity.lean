import MediaFilter.Proofs.Bindings.Building
import MediaFilter.Proofs.Widget.Edits

/-!
What stays true of bound widgets whatever happens to them: each stands under the definition of its
filter with a value that the filter can hold, and there is one for every filter of the entity type
but perhaps the user lists.
-/

namespace MediaFilter

namespace FilterName

theorem definition_of_bounds {name : FilterName} {field : BoundsField}
    (source : name.definition.source = some (.bounds field)) :
    name.definition.kind = .range ∧ name.definition.fixedDomain = none := by
  revert source
  cases name <;> simp [definition, Definition.plain, Definition.picker, Definition.date,
    Definition.bounded, Definition.percentage, Definition.withTooltip]

end FilterName

namespace Selection

theorem nodup_restrict {selection : Selection} (distinct : selection.values.Nodup)
    (keep : String → Bool) : (selection.restrict keep).values.Nodup :=
  List.Nodup.sublist (List.filter_sublist.map SelectedValue.value) distinct

end Selection

namespace FilterValue

theorem fits_range {definition : Definition} (kind : definition.kind = .range)
    {range : RangeValue}
    (inDomain : ∀ domain ∈ definition.fixedDomain,
      domain.lo.val ≤ range.min.val ∧ range.max.val ≤ domain.hi.val) :
    (FilterValue.range range).Fits definition := by
  refine ⟨kind.symm, by simp [selection?], ?_⟩
  rintro _ ⟨⟩
  exact inDomain

theorem fits_userList {definition : Definition} (kind : definition.kind = .userList)
    {selection : Selection} (distinct : selection.values.Nodup) :
    (userList selection).Fits definition := by
  refine ⟨kind.symm, ?_, by simp [range?]⟩
  rintro _ ⟨⟩
  exact distinct

end FilterValue

namespace Widget

structure Regular (widget : Widget) : Prop where
  definition : widget.definition = widget.name.definition
  fits : widget.value.Fits widget.definition
  domain : ∀ fixed ∈ widget.definition.fixedDomain, widget.domain = fixed

theorem Regular.of_value {widget : Widget} (regular : widget.Regular) {value : FilterValue}
    (fits : value.Fits widget.definition) : { widget with value := value }.Regular :=
  ⟨regular.definition, fits, regular.domain⟩

theorem Regular.setWhitelist {widget : Widget} (regular : widget.Regular)
    (entries : List WhitelistEntry) : (widget.setWhitelist entries).result.Regular :=
  ⟨regular.definition, regular.fits, regular.domain⟩

theorem Regular.setLoading {widget : Widget} (regular : widget.Regular) (loading : Bool) :
    (widget.setLoading loading).result.Regular := by
  unfold Widget.setLoading
  split
  · exact regular
  · exact ⟨regular.definition, regular.fits, regular.domain⟩

theorem Regular.subscribe {widget : Widget} (regular : widget.Regular) :
    widget.subscribe.Regular :=
  ⟨regular.definition, regular.fits, regular.domain⟩

theorem Regular.setDomain {widget : Widget} (regular : widget.Regular)
    (isOpen : widget.definition.fixedDomain = none) (domain : RangeDomain) :
    (widget.setDomain domain).result.Regular := by
  unfold Widget.setDomain
  split
  · rename_i range held
    have kind := regular.fits.kind
    rw [held] at kind
    refine ⟨regular.definition, FilterValue.fits_range kind.symm ?_, ?_⟩ <;>
      simp [rendered, isOpen]
  · exact regular

theorem fits_firstListed {definition : Definition} (kind : definition.kind = .userList)
    (entries : List WhitelistEntry) : (firstListed definition entries).Fits definition := by
  refine FilterValue.fits_userList kind ?_
  cases entries with
  | nil => exact List.nodup_nil
  | cons entry entries => exact List.nodup_cons.2 ⟨List.not_mem_nil, List.nodup_nil⟩

theorem fits_clearedValue {widget : Widget} (regular : widget.Regular) :
    widget.clearedValue.Fits widget.definition := by
  unfold clearedValue
  split
  · rename_i kind
    refine FilterValue.fits_range kind ?_
    intro fixed isFixed
    rw [regular.domain fixed isFixed]
    exact ⟨Int.le_refl _, Int.le_refl _⟩
  · rename_i kind
    exact fits_firstListed kind widget.whitelist
  · exact FilterValue.neutral_fits widget.definition

theorem Regular.reset {widget : Widget} (regular : widget.Regular) :
    widget.reset.result.1.Regular := by
  unfold Widget.reset
  split
  · exact regular
  · exact regular.of_value (fits_clearedValue regular)

theorem mem_edited {domain : RangeDomain} {range : RangeValue}
    (inside : domain.lo.val ≤ range.min.val ∧ range.max.val ≤ domain.hi.val) (edit : Edit) :
    domain.lo.val ≤ (range.edited domain edit).min.val ∧
      (range.edited domain edit).max.val ≤ domain.hi.val := by
  have ordered := range.min_le_max
  have whole := domain.lo_le_hi
  cases edit with
  | setMin value =>
      simp only [RangeValue.edited, RangeValue.setMin, Bound.val_lesser, RangeDomain.val_clamp]
      omega
  | setMax value =>
      simp only [RangeValue.edited, RangeValue.setMax, Bound.val_greater, RangeDomain.val_clamp]
      omega
  | slide min max => exact RangeValue.within_mem domain min max
  | _ => exact inside

theorem fits_edited {widget : Widget} (regular : widget.Regular) (edit : Edit) :
    (widget.value.edited widget.domain edit).Fits widget.definition := by
  obtain ⟨kind, distinct, inDomain⟩ := regular.fits
  cases held : widget.value with
  | text content =>
      rw [held] at kind
      exact ⟨kind, by simp [FilterValue.edited, FilterValue.selection?],
        by simp [FilterValue.edited, FilterValue.range?]⟩
  | picker selection =>
      rw [held] at kind distinct
      refine ⟨kind, ?_, by simp [FilterValue.edited, FilterValue.range?]⟩
      rintro _ ⟨⟩
      exact Selection.nodup_values_edited (distinct selection rfl) edit
  | range range =>
      rw [held] at kind inDomain
      refine FilterValue.fits_range kind.symm ?_
      intro fixed isFixed
      rw [regular.domain fixed isFixed]
      exact mem_edited (inDomain range rfl fixed isFixed) edit
  | checkbox checked =>
      rw [held] at kind
      exact ⟨kind, by simp [FilterValue.edited, FilterValue.selection?],
        by simp [FilterValue.edited, FilterValue.range?]⟩
  | userList selection =>
      rw [held] at kind distinct
      exact FilterValue.fits_userList kind.symm
        (Selection.nodup_values_edited (distinct selection rfl) edit)

theorem Regular.apply {widget : Widget} (regular : widget.Regular) (edit : Edit) :
    (widget.apply edit).widget.Regular := by
  cases outcome : widget.editedValue edit with
  | error refusal =>
      rw [apply_of_refused outcome]
      exact regular
  | ok found =>
      rw [widget_apply_of_ok outcome]
      exact regular.of_value (fits_edited regular edit)

theorem extend_eq_self {domain : RangeDomain} {range : RangeValue}
    (inside : domain.lo.val ≤ range.min.val ∧ range.max.val ≤ domain.hi.val) :
    domain.extend range = domain := by
  have whole := domain.lo_le_hi
  have ordered := range.min_le_max
  apply RangeDomain.ext
  · apply Bound.ext
    simp only [RangeDomain.extend, RangeDomain.between, Bound.val_lesser, Bound.val_greater]
    omega
  · apply Bound.ext
    simp only [RangeDomain.extend, RangeDomain.between, Bound.val_lesser, Bound.val_greater]
    omega

theorem initialDomain_of_fixed {definition : Definition} {fixed : RangeDomain}
    (isFixed : definition.fixedDomain = some fixed) : definition.initialDomain = fixed := by
  rw [Definition.initialDomain, isFixed]
  rfl

theorem domainFor_of_fixed {definition : Definition} {value : FilterValue}
    (fits : value.Fits definition) {fixed : RangeDomain}
    (isFixed : definition.fixedDomain = some fixed) : domainFor definition value = fixed := by
  unfold domainFor
  split
  · rename_i range
    rw [initialDomain_of_fixed isFixed]
    exact extend_eq_self (fits.inDomain range rfl fixed isFixed)
  · exact initialDomain_of_fixed isFixed

theorem regular_bind {definition : Definition} (own : definition = definition.name.definition)
    (entity : EntityType) {restored : Option FilterValue}
    (fits : ∀ value ∈ restored, value.Fits definition) :
    (bind definition entity restored).result.Regular := by
  unfold bind
  split
  · rename_i value kept
    have fit := fits value (Option.filter_eq_some_iff.1 kept).1
    exact ⟨own, fit, fun fixed isFixed => domainFor_of_fixed fit isFixed⟩
  · refine ⟨own, FilterValue.neutral_fits definition, ?_⟩
    intro fixed isFixed
    exact initialDomain_of_fixed isFixed

theorem fits_listedSelection {definition : Definition} (kind : definition.kind = .userList)
    (entries : List WhitelistEntry) {restored : Option FilterValue}
    (fits : ∀ value ∈ restored, value.Fits definition) :
    (listedSelection definition entries restored).Fits definition := by
  have chosen : ∀ selection : Selection, selection.values.Nodup →
      (if (selection.restrict (lists entries)).isEmpty then firstListed definition entries
        else .userList (selection.restrict (lists entries))).Fits definition := by
    intro selection distinct
    split
    · exact fits_firstListed kind entries
    · exact FilterValue.fits_userList kind (Selection.nodup_restrict distinct _)
  unfold listedSelection
  dsimp only
  split
  · rename_i selection
    exact chosen selection ((fits _ rfl).distinct selection rfl)
  · exact chosen _ List.nodup_nil

theorem regular_bindUserList (entity : EntityType) (entries : List WhitelistEntry)
    {restored : Option FilterValue}
    (fits : ∀ value ∈ restored, value.Fits FilterName.userList.definition) :
    (bindUserList FilterName.userList.definition entity entries restored).result.Regular := by
  refine ⟨rfl, fits_listedSelection rfl entries fits, ?_⟩
  rintro _ ⟨⟩

end Widget

namespace Bindings

structure Regular (bindings : Bindings) : Prop extends Sound bindings where
  widgets : ∀ widget ∈ bindings.widgets, widget.Regular
  offered : ∀ name ∈ bindings.names, name ∈ bindings.entity.filterSet
  whole : ∀ name ∈ bindings.entity.filterSet, name ≠ .userList → name ∈ bindings.names

section

variable {bindings : Bindings} (regular : bindings.Regular) {name : FilterName} {widget : Widget}
  (found : bindings.get? name = some widget)

include regular found

theorem Regular.definition_of_get? : widget.definition = name.definition := by
  obtain ⟨isBound, rfl⟩ := mem_of_get? found
  exact (regular.widgets widget isBound).definition

theorem Regular.fits_of_get? : widget.value.Fits name.definition := by
  rw [← regular.definition_of_get? found]
  exact (regular.widgets widget (mem_of_get? found).1).fits

theorem Regular.offered_of_get? : name ∈ bindings.entity.filterSet := by
  obtain ⟨isBound, named⟩ := mem_of_get? found
  exact regular.offered name (mem_names.2 ⟨widget, isBound, named⟩)

end

theorem Regular.of_map {before after : Bindings} (regular : before.Regular)
    (entity : after.entity = before.entity) (change : Widget → Widget)
    (widgets : after.widgets = before.widgets.map change)
    (remains : ∀ widget ∈ before.widgets, widget.Remains (change widget))
    (kept : ∀ widget ∈ before.widgets, (change widget).Regular) : after.Regular := by
  have names : after.names = before.names :=
    names_of_map widgets fun widget isBound => (remains widget isBound).name
  refine ⟨regular.toSound.of_map change widgets remains, ?_, ?_, ?_⟩
  · intro widget member
    rw [widgets] at member
    obtain ⟨old, isBound, rfl⟩ := List.mem_map.1 member
    exact kept old isBound
  · rw [names, entity]
    exact regular.offered
  · rw [names, entity]
    exact regular.whole

section

variable {bindings : Bindings} (regular : bindings.Regular)

include regular

theorem regular_update {name : FilterName} {change : Widget → Drawn Widget}
    (remains : ∀ widget ∈ bindings.widgets, widget.name = name →
      widget.Remains (change widget).result)
    (kept : ∀ widget ∈ bindings.widgets, widget.name = name → (change widget).result.Regular) :
    (bindings.update name change).result.Regular := by
  refine regular.of_map rfl _ (List.map_congr_left fun _ _ => rfl) ?_ ?_
  · intro widget isBound
    dsimp only
    split
    · rename_i named
      exact remains widget isBound named
    · exact ⟨rfl, rfl⟩
  · intro widget isBound
    dsimp only
    split
    · rename_i named
      exact kept widget isBound named
    · exact regular.widgets widget isBound

theorem regular_setLoading (name : FilterName) (loading : Bool) :
    (bindings.update name fun widget => widget.setLoading loading).result.Regular :=
  regular_update regular (fun widget _ _ => (widget.agrees_setLoading loading).toRemains)
    fun widget isBound _ => (regular.widgets widget isBound).setLoading loading

theorem regular_offer (name : FilterName) (entries : List WhitelistEntry) :
    (bindings.offer name entries).result.1.Regular :=
  regular_update regular (fun widget _ _ => (widget.agrees_setWhitelist entries).toRemains)
    fun widget isBound _ => (regular.widgets widget isBound).setWhitelist entries

theorem regular_setTagGrouping (grouping : TagGrouping) :
    (bindings.setTagGrouping grouping).result.1.Regular := by
  have regrouped : Regular { bindings with grouping } :=
    ⟨⟨regular.subscribed, regular.distinct⟩, regular.widgets, regular.offered, regular.whole⟩
  exact regular_offer regrouped .tag _

theorem regular_accept (choices : Choices) : (bindings.accept choices).result.1.Regular := by
  refine regular.of_map rfl (fun widget => (acceptOne choices bindings.grouping widget).result.1)
    (by simp [accept]) ?_ ?_
  · exact fun widget _ => remains_acceptOne choices bindings.grouping widget
  · intro widget isBound
    have own := regular.widgets widget isBound
    unfold acceptOne
    split
    · exact own.setWhitelist _
    · rename_i field source
      split
      · rw [own.definition] at source
        have isOpen := (FilterName.definition_of_bounds source).2
        rw [← own.definition] at isOpen
        exact own.setDomain isOpen _
      · exact own
    · exact own

theorem regular_clear : bindings.clear.result.1.Regular := by
  refine regular.of_map rfl (fun widget => (clearOne widget).result.1)
    (by simp [clear, withWidgets, clearOne]) ?_ ?_
  · exact fun widget _ => remains_clearOne widget
  · intro widget isBound
    unfold clearOne
    split
    · exact regular.widgets widget isBound
    · exact (regular.widgets widget isBound).reset

theorem regular_edit? {name : FilterName} {edit : Edit} {edited : Bindings.Edited}
    (found : bindings.edit? name edit = some edited) : edited.bindings.Regular := by
  obtain ⟨widget, get, rfl⟩ := Option.map_eq_some_iff.1 found
  obtain ⟨isBound, named⟩ := mem_of_get? get
  apply regular_update regular
  · intro other otherBound otherNamed
    have same := regular.toSound.eq_of_get? get otherBound otherNamed
    subst same
    rcases Widget.apply_cases edit (regular.subscribed _ otherBound) with
      ⟨_, kept⟩ | ⟨_, value, set⟩
    · rw [Traced.result_still, kept]
      exact ⟨rfl, rfl⟩
    · rw [Traced.result_still, set]
      exact ⟨rfl, rfl⟩
  · intro _ _ _
    exact (regular.widgets widget isBound).apply edit

end

theorem get?_unbind (bindings : Bindings) (name : FilterName) :
    (bindings.unbind name).result.1.get? name = none :=
  get?_eq_none_iff.2 (not_mem_names_unbind bindings name)

theorem snd_unbind (name : FilterName) (bindings : Bindings) :
    (bindings.unbind name).result.2 = (bindings.get? name).isSome := by
  unfold unbind
  split
  · rename_i found
    rw [found]
    rfl
  · rename_i absent
    rw [absent]
    rfl

theorem regular_unbind {bindings : Bindings} (regular : bindings.Regular) :
    (bindings.unbind .userList).result.1.Regular := by
  refine ⟨sound_unbind regular.toSound .userList, ?_, ?_, ?_⟩
  · intro widget member
    exact regular.widgets widget (mem_unbind.1 member).1
  · intro name member
    rw [names_unbind] at member
    rw [entity_unbind]
    exact regular.offered name (List.mem_filter.1 member).1
  · intro name isOffered different
    rw [entity_unbind] at isOffered
    rw [names_unbind, List.mem_filter]
    exact ⟨regular.whole name isOffered different, decide_eq_true different⟩

theorem fits_pickedLists {bindings : Bindings} (regular : bindings.Regular)
    (stored : Expression) :
    ∀ value ∈ bindings.pickedLists stored, value.Fits FilterName.userList.definition := by
  intro value picked
  unfold pickedLists at picked
  split at picked
  · rename_i widget found
    cases picked
    exact regular.fits_of_get? found
  · exact Expression.restore?_fits picked

theorem regular_newPicker {bindings : Bindings} (regular : bindings.Regular)
    (userLists : List UserList) (stored : Expression) :
    (bindings.newPicker userLists stored).Regular :=
  (Widget.regular_bindUserList bindings.entity (userLists.map UserList.toWhitelistEntry)
    (fits_pickedLists regular stored)).subscribe

theorem regular_place {bindings : Bindings} (regular : bindings.Regular) {widget : Widget}
    (added : widget.Regular) (reports : widget.subscribed = true)
    (offered : widget.name ∈ bindings.entity.filterSet) (fresh : widget.name ∉ bindings.names) :
    (bindings.place widget).Regular := by
  have names := names_place bindings widget
  refine ⟨sound_place regular.toSound reports fresh, ?_, ?_, ?_⟩
  · intro other member
    rcases mem_place.1 member with rfl | isBound
    · exact added
    · exact regular.widgets other isBound
  · intro name member
    rcases List.mem_cons.1 (names.mem_iff.1 member) with rfl | isBound
    · exact offered
    · exact regular.offered name isBound
  · intro name isOffered different
    exact names.mem_iff.2 (List.mem_cons_of_mem _ (regular.whole name isOffered different))

theorem regular_bindUserLists {bindings : Bindings} (regular : bindings.Regular)
    (userLists : List UserList) (stored : Expression) :
    (bindings.bindUserLists userLists stored true).result.1.Regular := by
  rcases bindUserLists_eq bindings userLists stored true with
    ⟨_, unchanged⟩ | ⟨offered, _, picker, _, isNew, bound⟩
  · rw [unchanged]
    exact regular
  · rw [bound, isNew rfl]
    refine regular_place (regular_unbind regular) (regular_newPicker regular userLists stored) rfl
      ?_ (not_mem_names_unbind bindings .userList)
    rw [entity_unbind]
    exact offered

def boundFor (entity : EntityType) (stored : Expression) (name : FilterName) : Widget :=
  (Widget.bind name.definition entity (stored.restore? name.definition)).result.subscribe

theorem name_boundFor (entity : EntityType) (stored : Expression) (name : FilterName) :
    (boundFor entity stored name).name = name := by
  rw [boundFor, Widget.name, Widget.subscribe, Widget.definition_bind, FilterName.definition_name]

theorem mem_widgets_bind {entity : EntityType} {stored : Expression} {grouping : TagGrouping}
    {widget : Widget} :
    widget ∈ (bind entity stored grouping).result.widgets ↔ ∃ name ∈ entity.filterSet,
      name ≠ .userList ∧ (bindOne entity stored name.definition).result = widget := by
  simp only [bind, Traced.result_map, Traced.result_each, EntityType.definitions, List.filter_map,
    List.map_map, List.mem_map, List.mem_filter, Function.comp_apply, decide_eq_true_eq, ne_eq,
    FilterName.kind_definition_eq_userList, and_assoc]

theorem mem_bind {entity : EntityType} {stored : Expression} {grouping : TagGrouping}
    {widget : Widget} :
    widget ∈ (bind entity stored grouping).result.subscribeAll.widgets ↔
      ∃ name ∈ entity.filterSet, name ≠ .userList ∧ boundFor entity stored name = widget := by
  constructor
  · intro member
    obtain ⟨bound, isBound, rfl⟩ := List.mem_map.1 member
    obtain ⟨name, offered, different, rfl⟩ := mem_widgets_bind.1 isBound
    exact ⟨name, offered, different, rfl⟩
  · intro ⟨name, offered, different, same⟩
    exact List.mem_map.2 ⟨_, mem_widgets_bind.2 ⟨name, offered, different, rfl⟩, same⟩

theorem regular_bind (entity : EntityType) (stored : Expression) (grouping : TagGrouping) :
    (bind entity stored grouping).result.subscribeAll.Regular := by
  refine ⟨sound_bind entity stored grouping, ?_, ?_, ?_⟩
  · intro widget member
    obtain ⟨name, _, _, rfl⟩ := mem_bind.1 member
    have own : name.definition = name.definition.name.definition := by
      rw [FilterName.definition_name]
    exact (Widget.regular_bind own entity fun _ found =>
      Expression.restore?_fits found).subscribe
  · intro name member
    rw [names_subscribeAll, names_bind] at member
    exact (List.mem_filter.1 member).1
  · intro name isOffered different
    rw [names_subscribeAll, names_bind]
    exact List.mem_filter.2 ⟨isOffered, decide_eq_true different⟩

end Bindings

end MediaFilter
