import Mathlib.Data.List.Forall2
import MediaFilter.Proofs.Bindings.Building
import MediaFilter.Proofs.Bindings.Regularity
import MediaFilter.Proofs.Expression.Meaning

/-!
What clearing leaves of the bound widgets: the picker of user lists keeps its value, a range spans
what its widget offers at the moment, and every other value is the neutral one.  The expression
then tells no more than the ends of the ranges and the user lists, and there is nothing left to
clear.
-/

namespace MediaFilter

namespace Widget

/-- What clearing makes of a widget. -/
structure Cleared (before after : Widget) : Prop where
  frame : after = { before with value := after.value }
  picker : before.name = .userList → after.value = before.value
  range : before.name ≠ .userList → before.definition.kind = .range →
    after.value = .range (.full before.domain)
  neutral : before.name ≠ .userList → before.definition.kind ≠ .range →
    after.value = .neutral before.definition

theorem result_reset (widget : Widget) :
    widget.reset.result.1 = { widget with value := widget.clearedValue } := by
  unfold reset
  split
  · rename_i same
    rw [same]
    rfl
  · rfl

theorem reset_of_cleared {widget : Widget} (same : widget.clearedValue = widget.value) :
    widget.reset = .still (widget, false) := if_pos same

end Widget

namespace Bindings

theorem cleared_clearOne {widget : Widget} (regular : widget.Regular) :
    widget.Cleared (clearOne widget).result.1 := by
  unfold clearOne
  by_cases isPicker : widget.name = .userList
  · rw [if_pos isPicker]
    exact ⟨rfl, fun _ => rfl, fun other => absurd isPicker other,
      fun other => absurd isPicker other⟩
  · rw [if_neg isPicker, Widget.result_reset]
    refine ⟨rfl, fun same => absurd same isPicker, fun _ isRange => ?_, fun _ notRange => ?_⟩
    · rw [Widget.clearedValue, isRange]
    · have notLists : widget.definition.kind ≠ .userList := by
        rw [regular.definition]
        exact fun ofLists => isPicker (FilterName.kind_definition_eq_userList.1 ofLists)
      unfold Widget.clearedValue
      split
      · exact absurd ‹_› notRange
      · exact absurd ‹_› notLists
      · rfl

theorem clearOne_clearOne (widget : Widget) :
    clearOne (clearOne widget).result.1 = .still ((clearOne widget).result.1, false) := by
  by_cases isPicker : widget.name = .userList
  · have kept : (clearOne widget).result.1 = widget := by
      rw [clearOne, if_pos isPicker]
      rfl
    rw [kept, clearOne, if_pos isPicker]
  · have reset : (clearOne widget).result.1 = { widget with value := widget.clearedValue } := by
      rw [clearOne, if_neg isPicker, Widget.result_reset]
    rw [reset]
    exact (if_neg isPicker).trans (Widget.reset_of_cleared rfl)

theorem result_clear (bindings : Bindings) :
    bindings.clear.result.1 =
      bindings.withWidgets (bindings.widgets.map fun widget => (clearOne widget).result.1) := by
  simp only [clear, Traced.result_map, Traced.result_each, List.map_map]
  rfl

theorem each_of_still {ε α β : Type} {f : α → Traced ε β} {g : α → β} {values : List α}
    (still : ∀ value ∈ values, f value = .still (g value)) :
    Traced.each f values = .still (values.map g) := by
  have results : values.map (fun value => (f value).result) = values.map g :=
    List.map_congr_left fun value member => by rw [still value member]; rfl
  have traces : values.flatMap (fun value => (f value).trace) = [] :=
    List.flatMap_eq_nil_iff.2 fun value member => by rw [still value member]; rfl
  rw [Traced.each, results, traces]
  rfl

theorem clear_of_cleared {bindings : Bindings}
    (cleared : ∀ widget ∈ bindings.widgets, clearOne widget = .still (widget, false)) :
    bindings.clear = .still (bindings, 0) := by
  have each : bindings.clear = (Traced.each clearOne bindings.widgets).map fun found =>
    (bindings.withWidgets (found.map Prod.fst), (found.filter Prod.snd).length) := rfl
  rw [each, each_of_still cleared]
  simp [Traced.map, Traced.still, withWidgets, Function.comp_def]

theorem clear_clear (bindings : Bindings) :
    bindings.clear.result.1.clear = .still (bindings.clear.result.1, 0) := by
  apply clear_of_cleared
  rw [result_clear]
  rintro _ member
  obtain ⟨widget, _, rfl⟩ := List.mem_map.1 member
  exact clearOne_clearOne widget

theorem cleared_clear {bindings : Bindings} (regular : bindings.Regular) :
    List.Forall₂ Widget.Cleared bindings.widgets bindings.clear.result.1.widgets := by
  rw [result_clear, withWidgets, List.forall₂_map_right_iff, List.forall₂_same]
  exact fun widget isBound => cleared_clearOne (regular.widgets widget isBound)

/-- What the expression of cleared widgets tells: the ends of the ranges, and the user lists. -/
inductive Remaining (bindings : Bindings) : String → Clause → Prop
  | min {widget : Widget} (isBound : widget ∈ bindings.widgets)
      (isRange : widget.definition.kind = .range) (placed : widget.name ≠ .tagPercentage) :
      Remaining bindings widget.name.minKey (.bound widget.domain.lo)
  | max {widget : Widget} (isBound : widget ∈ bindings.widgets)
      (isRange : widget.definition.kind = .range) (placed : widget.name ≠ .tagPercentage) :
      Remaining bindings widget.name.maxKey (.bound widget.domain.hi)
  | lists {picker : Widget} {selection : Selection} (found : bindings.get? .userList = some picker)
      (selects : picker.value = .userList selection) (chosen : selection.entries ≠ []) :
      Remaining bindings FilterName.userList.wire (.set (.ofSelection selection))

theorem not_tells_neutral {definition : Definition} {clause : Clause} :
    ¬ Expression.Tells (definition, .neutral definition) clause := by
  intro tells
  generalize neutral : FilterValue.neutral definition = value at tells
  unfold FilterValue.neutral at neutral
  cases kind : definition.kind with
  | text =>
      rw [kind] at neutral
      cases neutral
      cases tells with
      | pattern _ filled => exact filled rfl
      | text _ filled => exact filled rfl
      | set _ selects => cases selects
  | picker =>
      rw [kind] at neutral
      cases neutral
      cases tells with
      | set _ selects filled =>
          cases selects
          exact filled rfl
  | range => exact tells.kind_ne_range kind
  | checkbox =>
      rw [kind] at neutral
      cases neutral
      cases tells with
      | set _ selects => cases selects
  | userList =>
      rw [kind] at neutral
      cases neutral
      cases tells with
      | set _ selects filled =>
          cases selects
          exact filled rfl

def clearedPair (widget : Widget) : Definition × FilterValue :=
  (widget.definition, (clearOne widget).result.1.value)

theorem pairs_clear (bindings : Bindings) :
    bindings.clear.result.1.pairs = bindings.widgets.map clearedPair := by
  rw [result_clear, pairs, withWidgets, List.map_map]
  apply List.map_congr_left
  intro widget _
  exact congrArg (Prod.mk · _) (remains_clearOne widget).definition

theorem ne_userList_of_range {widget : Widget} (regular : widget.Regular)
    (isRange : widget.definition.kind = .range) : widget.name ≠ .userList := by
  intro isPicker
  rw [regular.definition, isPicker] at isRange
  cases isRange

theorem lists_of_tells {widget : Widget} (regular : widget.Regular) {clause : Clause}
    (tells : Expression.Tells (clearedPair widget) clause) :
    ∃ selection, widget.name = .userList ∧ widget.value = .userList selection ∧
      selection.entries ≠ [] ∧ clause = .set (.ofSelection selection) := by
  have cleared := cleared_clearOne regular
  unfold clearedPair at tells
  by_cases isPicker : widget.name = .userList
  · have kind : widget.value.kind = .userList := by
      rw [regular.fits.kind, regular.definition, isPicker]
      rfl
    rw [cleared.picker isPicker] at tells
    cases held : widget.value with
    | userList selection =>
        rw [held] at tells
        cases tells with
        | set _ selects filled =>
            cases selects
            exact ⟨selection, isPicker, rfl, filled, rfl⟩
    | _ =>
        rw [held] at kind
        cases kind
  · by_cases isRange : widget.definition.kind = .range
    · exact absurd isRange tells.kind_ne_range
    · rw [cleared.neutral isPicker isRange] at tells
      exact absurd tells not_tells_neutral

theorem spans_clearedPair_iff {widget : Widget} (regular : widget.Regular) {range : RangeValue} :
    Expression.Spans (clearedPair widget) range ↔
      widget.definition.kind = .range ∧ range = .full widget.domain := by
  have cleared := cleared_clearOne regular
  unfold clearedPair
  constructor
  · intro spans
    generalize held : (clearOne widget).result.1.value = value at spans
    obtain ⟨isRange, _⟩ := spans
    rw [cleared.range (ne_userList_of_range regular isRange) isRange] at held
    exact ⟨isRange, (FilterValue.range.inj held).symm⟩
  · rintro ⟨isRange, rfl⟩
    rw [cleared.range (ne_userList_of_range regular isRange) isRange]
    exact .range isRange _

theorem get?_build_clear {bindings : Bindings} (regular : bindings.Regular) {key : String}
    {clause : Clause} :
    bindings.clear.result.1.build.get? key = some clause ↔ bindings.Remaining key clause := by
  have distinct := (sound_clear regular.toSound).distinct_pairs
  rw [build_eq]
  rw [pairs_clear] at distinct ⊢
  constructor
  · intro found
    cases Expression.says_of_get?_build distinct found with
    | told listed tells =>
        obtain ⟨widget, isBound, rfl⟩ := List.mem_map.1 listed
        obtain ⟨selection, isPicker, selects, chosen, rfl⟩ :=
          lists_of_tells (regular.widgets widget isBound) tells
        have bound := regular.toSound.get?_of_mem isBound
        rw [isPicker] at bound
        have lists := Remaining.lists bound selects chosen
        rwa [← isPicker] at lists
    | tags listed tells ofTags =>
        obtain ⟨widget, isBound, rfl⟩ := List.mem_map.1 listed
        obtain ⟨selection, isPicker, _⟩ := lists_of_tells (regular.widgets widget isBound) tells
        cases isPicker.symm.trans ofTags
    | min listed spans placed =>
        obtain ⟨widget, isBound, rfl⟩ := List.mem_map.1 listed
        obtain ⟨isRange, rfl⟩ := (spans_clearedPair_iff (regular.widgets widget isBound)).1 spans
        exact .min isBound isRange placed
    | max listed spans placed =>
        obtain ⟨widget, isBound, rfl⟩ := List.mem_map.1 listed
        obtain ⟨isRange, rfl⟩ := (spans_clearedPair_iff (regular.widgets widget isBound)).1 spans
        exact .max isBound isRange placed
  · intro remaining
    apply Expression.get?_build_of_meaning distinct
    cases remaining with
    | @min widget isBound isRange placed =>
        exact .min (List.mem_map_of_mem isBound)
          ((spans_clearedPair_iff (regular.widgets widget isBound)).2 ⟨isRange, rfl⟩) placed
    | @max widget isBound isRange placed =>
        exact .max (List.mem_map_of_mem isBound)
          ((spans_clearedPair_iff (regular.widgets widget isBound)).2 ⟨isRange, rfl⟩) placed
    | @lists picker selection bound selects chosen =>
        obtain ⟨isBound, isPicker⟩ := mem_of_get? bound
        have own := regular.widgets picker isBound
        have pair : clearedPair picker = (picker.definition, .userList selection) := by
          rw [clearedPair, (cleared_clearOne own).picker isPicker, selects]
        have kind : FilterKind.userList = picker.definition.kind := by
          rw [own.definition, isPicker]
          rfl
        have tells : Expression.Tells (clearedPair picker) (.set (.ofSelection selection)) := by
          rw [pair]
          exact .set kind rfl chosen
        have notTag : (clearedPair picker).1.name ≠ .tag := fun ofTags =>
          nomatch isPicker.symm.trans ofTags
        have told := Expression.Says.told (List.mem_map_of_mem isBound) tells
          fun ofTags => absurd ofTags notTag
        rw [← isPicker]
        exact told

end Bindings

end MediaFilter
