import MediaFilter.Proofs.Selection.Partition
import MediaFilter.Widget

/-!
The value that an edit asks for, told from the value alone.  A widget that does not refuse the edit
takes that value, and says that it changed exactly where the two differ.
-/

namespace MediaFilter

def TextValue.edited (edit : Edit) (value : TextValue) : TextValue :=
  match edit with
  | .write text => { value with text := text }
  | .toggleRegex => { value with regexMode := !value.regexMode }
  | _ => value

def Selection.edited (edit : Edit) (selection : Selection) : Selection :=
  match edit with
  | .add value => selection.insert (.including value)
  | .remove value => selection.remove value
  | .toggleExcluded value => selection.toggleExcluded value
  | .toggleCombinator => selection.toggleCombinator
  | _ => selection

def RangeValue.edited (domain : RangeDomain) (edit : Edit) (range : RangeValue) : RangeValue :=
  match edit with
  | .setMin value => range.setMin domain value
  | .setMax value => range.setMax domain value
  | .slide min max => .within domain min max
  | _ => range

def Edit.marked (checked : Bool) : Edit → Bool
  | .check next => next
  | _ => checked

def FilterValue.edited (domain : RangeDomain) (edit : Edit) : FilterValue → FilterValue
  | .text value => .text (value.edited edit)
  | .picker selection => .picker (selection.edited edit)
  | .range value => .range (value.edited domain edit)
  | .checkbox checked => .checkbox (edit.marked checked)
  | .userList selection => .userList (selection.edited edit)

namespace Selection

theorem nodup_values_edited {selection : Selection} (distinct : selection.values.Nodup)
    (edit : Edit) : (selection.edited edit).values.Nodup := by
  cases edit with
  | add value => exact nodup_values_insert distinct _
  | remove value => exact nodup_values_remove distinct value
  | toggleExcluded value => exact nodup_values_toggleExcluded distinct value
  | _ => exact distinct

end Selection

/-! An operation on a selection that has a result changes the selection, also one that holds a
value more than once. -/

namespace Selection

theorem insert?_ne_self (entry : SelectedValue) (selection : Selection) :
    selection.insert? entry ≠ some selection := by
  intro same
  unfold insert? at same
  split at same
  · cases same
  · have entries := congrArg Selection.entries (Option.some.inj same)
    simp at entries

theorem remove?_ne_self (value : String) (selection : Selection) :
    selection.remove? value ≠ some selection := by
  intro same
  unfold remove? at same
  split at same
  · rename_i selected
    have entries := congrArg Selection.entries (Option.some.inj same)
    obtain ⟨entry, member, rfl⟩ := List.mem_map.1 (contains_iff.1 selected)
    have kept := List.filter_eq_self.1 entries entry member
    simp at kept
  · cases same

theorem flipFirst_ne_self {value : String} {entries : List SelectedValue}
    (selected : value ∈ entries.map SelectedValue.value) : flipFirst value entries ≠ entries := by
  induction entries with
  | nil => cases selected
  | cons entry entries induction =>
      unfold flipFirst
      split
      · intro same
        have flipped := congrArg SelectedValue.excluded (List.cons.inj same).1
        simp [flip] at flipped
      · rename_i other
        intro same
        rw [List.map_cons, List.mem_cons] at selected
        exact induction (selected.resolve_left fun first => other first.symm)
          (List.cons.inj same).2

theorem toggleExcluded?_ne_self (value : String) (selection : Selection) :
    selection.toggleExcluded? value ≠ some selection := by
  intro same
  unfold toggleExcluded? at same
  split at same
  · rename_i selected
    exact flipFirst_ne_self (contains_iff.1 selected)
      (congrArg Selection.entries (Option.some.inj same))
  · cases same

theorem toggleCombinator_ne_self (selection : Selection) :
    selection.toggleCombinator ≠ selection := by
  intro same
  have combinator := congrArg Selection.combinator same
  cases own : selection.combinator <;>
    simp [toggleCombinator, own, Combinator.toggled] at combinator

end Selection

namespace Widget

theorem map_ok_iff {α β : Type} {wrap : α → β} {outcome : Except Refusal (Option α)}
    {found : Option β} :
    outcome.map (Option.map wrap) = .ok found ↔
      ∃ inner, outcome = .ok inner ∧ inner.map wrap = found := by
  cases outcome <;> simp [Except.map]

section

variable {α β : Type} [DecidableEq α] [DecidableEq β]

theorem changed_of_ne {before after : α} (moved : after ≠ before) :
    changed before after = some after := if_neg moved

theorem eq_of_changed {before after next : α} (found : changed before after = some next) :
    next = after := by
  unfold changed at found
  split at found
  · cases found
  · exact (Option.some.inj found).symm

theorem changed_getD {before : α} {found : Option α} (moved : found ≠ some before) :
    changed before (found.getD before) = found := by
  cases found with
  | none => exact if_pos rfl
  | some after => exact changed_of_ne fun same => moved (congrArg some same)

theorem map_changed {wrap : α → β} (injective : Function.Injective wrap) (before after : α) :
    (changed before after).map wrap = changed (wrap before) (wrap after) := by
  unfold changed
  by_cases same : after = before
  · rw [if_pos same, if_pos (congrArg wrap same)]
    rfl
  · rw [if_neg same, if_neg fun equal => same (injective equal)]
    rfl

end

section

variable {definition : Definition} {edit : Edit}

theorem editText_ok {value : TextValue} {found : Option TextValue}
    (edited : editText definition edit value = .ok found) :
    found = changed value (value.edited edit) := by
  unfold editText at edited
  cases edit with
  | write text =>
      rw [← Except.ok.inj edited, TextValue.edited, changed]
      by_cases same : value.text = text
      · rw [if_pos same, if_pos (by rw [← same])]
      · rw [if_neg same, if_neg fun equal => same (congrArg TextValue.text equal).symm]
  | toggleRegex =>
      dsimp only at edited
      split at edited
      · rw [← Except.ok.inj edited, TextValue.edited, changed_of_ne]
        intro same
        have mode := congrArg TextValue.regexMode same
        simp at mode
      · cases edited
  | _ => cases edited

theorem editSelection_ok {entries : List WhitelistEntry} {kind : FilterKind}
    {selection : Selection} {found : Option Selection}
    (edited : editSelection definition entries kind edit selection = .ok found) :
    found = changed selection (selection.edited edit) := by
  unfold editSelection at edited
  cases edit with
  | add value =>
      dsimp only at edited
      split at edited
      · cases edited
      · rw [← Except.ok.inj edited]
        exact (changed_getD (selection.insert?_ne_self _)).symm
  | remove value =>
      rw [← Except.ok.inj edited]
      exact (changed_getD (selection.remove?_ne_self _)).symm
  | toggleExcluded value =>
      dsimp only at edited
      split at edited
      · cases edited
      split at edited
      · cases edited
      · rw [← Except.ok.inj edited]
        exact (changed_getD (selection.toggleExcluded?_ne_self _)).symm
  | toggleCombinator =>
      dsimp only at edited
      split at edited
      · rw [← Except.ok.inj edited]
        exact (changed_of_ne selection.toggleCombinator_ne_self).symm
      · cases edited
  | _ => cases edited

theorem editRange_ok {domain : RangeDomain} {range : RangeValue} {found : Option RangeValue}
    (edited : editRange definition domain edit range = .ok found) :
    found = changed range (range.edited domain edit) := by
  unfold editRange at edited
  cases edit with
  | setMin value => exact (Except.ok.inj edited).symm
  | setMax value => exact (Except.ok.inj edited).symm
  | slide min max => exact (Except.ok.inj edited).symm
  | _ => cases edited

theorem editedValue_ok {widget : Widget} {found : Option FilterValue}
    (edited : widget.editedValue edit = .ok found) :
    found = changed widget.value (widget.value.edited widget.domain edit) := by
  unfold editedValue at edited
  split at edited
  · rename_i held
    obtain ⟨inner, allowed, rfl⟩ := map_ok_iff.1 edited
    rw [held, editText_ok allowed]
    exact map_changed (fun _ _ => FilterValue.text.inj) _ _
  · rename_i held
    obtain ⟨inner, allowed, rfl⟩ := map_ok_iff.1 edited
    rw [held, editSelection_ok allowed]
    exact map_changed (fun _ _ => FilterValue.picker.inj) _ _
  · rename_i held
    obtain ⟨inner, allowed, rfl⟩ := map_ok_iff.1 edited
    rw [held, editRange_ok allowed]
    exact map_changed (fun _ _ => FilterValue.range.inj) _ _
  · rename_i checked held
    obtain ⟨inner, allowed, rfl⟩ := map_ok_iff.1 edited
    cases edit with
    | check next =>
        have injective : Function.Injective FilterValue.checkbox :=
          fun _ _ => FilterValue.checkbox.inj
        rw [held, ← Except.ok.inj allowed]
        exact map_changed injective checked next
    | _ => cases allowed
  · rename_i held
    obtain ⟨inner, allowed, rfl⟩ := map_ok_iff.1 edited
    rw [held, editSelection_ok allowed]
    exact map_changed (fun _ _ => FilterValue.userList.inj) _ _

end

section

variable {widget : Widget} {edit : Edit}

theorem eq_of_editedValue {value : FilterValue}
    (edited : widget.editedValue edit = .ok (some value)) :
    value = widget.value.edited widget.domain edit :=
  eq_of_changed (editedValue_ok edited).symm

theorem apply_of_refused {refusal : Refusal} (refused : widget.editedValue edit = .error refusal) :
    widget.apply edit = ⟨widget, .error refusal, [], []⟩ := by
  rw [apply, refused]

theorem apply_of_same {found : Option FilterValue} (allowed : widget.editedValue edit = .ok found)
    (same : widget.value.edited widget.domain edit = widget.value) :
    widget.apply edit = ⟨widget, .ok false, [], []⟩ := by
  rw [apply, allowed, editedValue_ok allowed, changed, if_pos same]

theorem apply_of_moved {found : Option FilterValue} (allowed : widget.editedValue edit = .ok found)
    (moved : widget.value.edited widget.domain edit ≠ widget.value) :
    widget.apply edit =
      { widget := { widget with value := widget.value.edited widget.domain edit }
        outcome := .ok true
        changes := if widget.subscribed then [⟨widget.name, edit.commit⟩] else []
        calls := [widget.call .render] } := by
  rw [apply, allowed, editedValue_ok allowed, changed_of_ne moved]

theorem widget_apply_of_ok {found : Option FilterValue}
    (allowed : widget.editedValue edit = .ok found) :
    (widget.apply edit).widget =
      { widget with value := widget.value.edited widget.domain edit } := by
  by_cases same : widget.value.edited widget.domain edit = widget.value
  · rw [apply_of_same allowed same, same]
  · rw [apply_of_moved allowed same]

end

end Widget

end MediaFilter
