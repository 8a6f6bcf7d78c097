import MediaFilter.Clause

/-!
What the operations on a selection do to its entries.  A selection with distinct values and the set
clause made from it say the same: the clause keeps the included and the excluded values apart, each
in their order, and turns back into a selection with those parts.
-/

namespace MediaFilter

namespace Selection

theorem contains_iff {selection : Selection} {value : String} :
    selection.contains value = true ↔ value ∈ selection.values := by
  simp [contains, values]

theorem insert_of_mem {selection : Selection} {entry : SelectedValue}
    (selected : entry.value ∈ selection.values) : selection.insert entry = selection := by
  rw [insert, insert?, if_pos (contains_iff.2 selected)]
  rfl

theorem insert_of_not_mem {selection : Selection} {entry : SelectedValue}
    (fresh : entry.value ∉ selection.values) :
    selection.insert entry = { selection with entries := selection.entries ++ [entry] } := by
  rw [insert, insert?, if_neg fun selected => fresh (contains_iff.1 selected)]
  rfl

theorem mem_entries_insert {selection : Selection} {entry inserted : SelectedValue} :
    entry ∈ (selection.insert inserted).entries ↔
      entry ∈ selection.entries ∨ (entry = inserted ∧ inserted.value ∉ selection.values) := by
  by_cases selected : inserted.value ∈ selection.values
  · rw [insert_of_mem selected, or_iff_left fun fresh => fresh.2 selected]
  · rw [insert_of_not_mem selected, List.mem_append, List.mem_singleton, and_iff_left selected]

theorem combinator_insert (selection : Selection) (entry : SelectedValue) :
    (selection.insert entry).combinator = selection.combinator := by
  by_cases selected : entry.value ∈ selection.values
  · rw [insert_of_mem selected]
  · rw [insert_of_not_mem selected]

theorem mem_values_insert {selection : Selection} {entry : SelectedValue} {value : String} :
    value ∈ (selection.insert entry).values ↔ value ∈ selection.values ∨ value = entry.value := by
  by_cases selected : entry.value ∈ selection.values
  · rw [insert_of_mem selected, or_iff_left_of_imp fun same => same ▸ selected]
  · rw [insert_of_not_mem selected, values, List.map_append, List.mem_append, List.map_singleton,
      List.mem_singleton]
    rfl

theorem nodup_values_insert {selection : Selection} (distinct : selection.values.Nodup)
    (entry : SelectedValue) : (selection.insert entry).values.Nodup := by
  by_cases selected : entry.value ∈ selection.values
  · rw [insert_of_mem selected]
    exact distinct
  · rw [insert_of_not_mem selected, values, List.map_append]
    refine List.nodup_append.2 ⟨distinct, by simp, ?_⟩
    intro value member other last equal
    cases List.mem_singleton.1 last
    exact selected (equal ▸ member)

theorem foldl_insert_of_nodup (entries : List SelectedValue) (selection : Selection)
    (distinct : (selection.values ++ entries.map SelectedValue.value).Nodup) :
    entries.foldl (fun selection entry => selection.insert entry) selection =
      { selection with entries := selection.entries ++ entries } := by
  induction entries generalizing selection with
  | nil => simp
  | cons entry entries induction =>
      have fresh : entry.value ∉ selection.values := by
        intro member
        exact (List.nodup_append.1 distinct).2.2 _ member _ List.mem_cons_self rfl
      rw [List.foldl_cons, insert_of_not_mem fresh, induction]
      · simp
      · rw [values, List.map_append, List.append_assoc]
        exact distinct

theorem nodup_values_foldl_insert (entries : List SelectedValue) {selection : Selection}
    (distinct : selection.values.Nodup) :
    (entries.foldl (fun selection entry => selection.insert entry) selection).values.Nodup := by
  induction entries generalizing selection with
  | nil => exact distinct
  | cons entry entries induction => exact induction (nodup_values_insert distinct entry)

theorem mem_entries_remove {selection : Selection} {entry : SelectedValue} {value : String} :
    entry ∈ (selection.remove value).entries ↔ entry ∈ selection.entries ∧ entry.value ≠ value := by
  unfold remove remove?
  split
  · rw [Option.getD_some, List.mem_filter, bne_iff_ne]
  · rename_i unselected
    rw [Option.getD_none, iff_self_and]
    rintro member rfl
    exact unselected (contains_iff.2 (List.mem_map_of_mem member))

theorem mem_values_remove {selection : Selection} {removed value : String} :
    value ∈ (selection.remove removed).values ↔ value ∈ selection.values ∧ value ≠ removed := by
  simp only [values, List.mem_map, mem_entries_remove]
  constructor
  · rintro ⟨entry, ⟨member, other⟩, rfl⟩
    exact ⟨⟨entry, member, rfl⟩, other⟩
  · rintro ⟨⟨entry, member, rfl⟩, other⟩
    exact ⟨entry, ⟨member, other⟩, rfl⟩

theorem sublist_values_remove (value : String) (selection : Selection) :
    (selection.remove value).values.Sublist selection.values := by
  unfold remove remove?
  split
  · exact List.filter_sublist.map SelectedValue.value
  · exact .refl _

theorem nodup_values_remove {selection : Selection} (distinct : selection.values.Nodup)
    (value : String) : (selection.remove value).values.Nodup :=
  (sublist_values_remove value selection).nodup distinct

theorem combinator_remove (value : String) (selection : Selection) :
    (selection.remove value).combinator = selection.combinator := by
  unfold remove remove?
  split <;> rfl

@[simp] theorem value_flip (entry : SelectedValue) : (flip entry).value = entry.value := rfl

@[simp] theorem flip_flip (entry : SelectedValue) : flip (flip entry) = entry := by
  rw [flip, flip, Bool.not_not]

theorem values_flipFirst (value : String) (entries : List SelectedValue) :
    (flipFirst value entries).map SelectedValue.value = entries.map SelectedValue.value := by
  induction entries with
  | nil => rfl
  | cons entry entries induction =>
      unfold flipFirst
      split
      · rfl
      · rw [List.map_cons, induction, List.map_cons]

theorem values_toggleExcluded (value : String) (selection : Selection) :
    (selection.toggleExcluded value).values = selection.values := by
  unfold toggleExcluded toggleExcluded?
  split
  · exact values_flipFirst value selection.entries
  · rfl

theorem nodup_values_toggleExcluded {selection : Selection} (distinct : selection.values.Nodup)
    (value : String) : (selection.toggleExcluded value).values.Nodup := by
  rw [values_toggleExcluded]
  exact distinct

theorem map_flip_of_not_mem {value : String} {entries : List SelectedValue}
    (absent : value ∉ entries.map SelectedValue.value) :
    (entries.map fun entry => if entry.value = value then flip entry else entry) = entries := by
  have unchanged : ∀ entry ∈ entries,
      (if entry.value = value then flip entry else entry) = entry := by
    intro entry member
    refine if_neg fun named => absent ?_
    exact named ▸ List.mem_map_of_mem member
  rw [List.map_congr_left unchanged, List.map_id']

theorem flipFirst_eq_map {value : String} {entries : List SelectedValue}
    (distinct : (entries.map SelectedValue.value).Nodup) :
    flipFirst value entries =
      entries.map fun entry => if entry.value = value then flip entry else entry := by
  induction entries with
  | nil => rfl
  | cons entry entries induction =>
      obtain ⟨fresh, others⟩ := List.nodup_cons.1 distinct
      unfold flipFirst
      rw [List.map_cons]
      split
      · rename_i named
        subst named
        rw [map_flip_of_not_mem fresh]
      · rw [induction others]

theorem entries_toggleExcluded {selection : Selection} (distinct : selection.values.Nodup)
    (value : String) :
    (selection.toggleExcluded value).entries =
      selection.entries.map fun entry => if entry.value = value then flip entry else entry := by
  unfold toggleExcluded toggleExcluded?
  split
  · exact flipFirst_eq_map distinct
  · rename_i unselected
    exact (map_flip_of_not_mem fun selected => unselected (contains_iff.2 selected)).symm

theorem mem_entries_toggleExcluded {selection : Selection} (distinct : selection.values.Nodup)
    {entry : SelectedValue} {value : String} :
    entry ∈ (selection.toggleExcluded value).entries ↔
      (if entry.value = value then flip entry else entry) ∈ selection.entries := by
  rw [entries_toggleExcluded distinct, List.mem_map]
  constructor
  · rintro ⟨before, member, rfl⟩
    by_cases named : before.value = value
    · rwa [if_pos named, value_flip, if_pos named, flip_flip]
    · rwa [if_neg named, if_neg named]
  · intro member
    refine ⟨_, member, ?_⟩
    by_cases named : entry.value = value
    · rw [if_pos named, value_flip, if_pos named, flip_flip]
    · rw [if_neg named, if_neg named]

theorem combinator_toggleExcluded (value : String) (selection : Selection) :
    (selection.toggleExcluded value).combinator = selection.combinator := by
  unfold toggleExcluded toggleExcluded?
  split <;> rfl

theorem mem_included_iff {selection : Selection} {value : String} :
    value ∈ selection.included ↔ .including value ∈ selection.entries := by
  simp only [included, List.mem_map, List.mem_filter, Bool.not_eq_true']
  constructor
  · rintro ⟨⟨_, _⟩, ⟨member, rfl⟩, rfl⟩
    exact member
  · exact fun member => ⟨.including value, ⟨member, rfl⟩, rfl⟩

theorem mem_excluded_iff {selection : Selection} {value : String} :
    value ∈ selection.excluded ↔ .excluding value ∈ selection.entries := by
  simp only [excluded, List.mem_map, List.mem_filter]
  constructor
  · rintro ⟨⟨_, _⟩, ⟨member, rfl⟩, rfl⟩
    exact member
  · exact fun member => ⟨.excluding value, ⟨member, rfl⟩, rfl⟩

theorem sublist_included (selection : Selection) :
    selection.included.Sublist selection.values := List.filter_sublist.map SelectedValue.value

theorem sublist_excluded (selection : Selection) :
    selection.excluded.Sublist selection.values := List.filter_sublist.map SelectedValue.value

theorem perm_included_append_excluded (selection : Selection) :
    (selection.included ++ selection.excluded).Perm selection.values := by
  have whole := (List.filter_append_perm (fun entry : SelectedValue => !entry.excluded)
    selection.entries).map SelectedValue.value
  simp only [List.map_append, Bool.not_not] at whole
  exact whole

theorem nodup_included_append_excluded {selection : Selection}
    (distinct : selection.values.Nodup) :
    (selection.included ++ selection.excluded).Nodup :=
  selection.perm_included_append_excluded.nodup_iff.2 distinct

/-- How the values of a selection are parted into the included and the excluded ones. -/
structure Parts (selection : Selection) (included excluded : List String) : Prop where
  included_sublist : included.Sublist selection.values
  excluded_sublist : excluded.Sublist selection.values
  mem_included_iff : ∀ value, value ∈ included ↔ ⟨value, false⟩ ∈ selection.entries
  mem_excluded_iff : ∀ value, value ∈ excluded ↔ ⟨value, true⟩ ∈ selection.entries
  mem_values_iff : ∀ value, value ∈ selection.values ↔ value ∈ included ∨ value ∈ excluded
  disjoint : ∀ value ∈ included, value ∉ excluded

theorem parts_of_nodup {selection : Selection} (distinct : selection.values.Nodup) :
    Parts selection selection.included selection.excluded where
  included_sublist := sublist_included selection
  excluded_sublist := sublist_excluded selection
  mem_included_iff _ := mem_included_iff
  mem_excluded_iff _ := mem_excluded_iff
  mem_values_iff _ := by
    rw [← selection.perm_included_append_excluded.mem_iff, List.mem_append]
  disjoint value isIncluded isExcluded :=
    (List.nodup_append.1 (nodup_included_append_excluded distinct)).2.2 value isIncluded value
      isExcluded rfl

theorem isEmpty_iff {selection : Selection} :
    selection.isEmpty = true ↔ selection.included = [] ∧ selection.excluded = [] := by
  simp only [isEmpty, included, excluded, List.isEmpty_iff, List.map_eq_nil_iff,
    List.filter_eq_nil_iff]
  cases selection.entries with
  | nil => simp
  | cons entry entries => cases excluded : entry.excluded <;> simp [excluded]

end Selection

namespace SetClause

theorem nodup_toSelection (clause : SetClause) : clause.toSelection.values.Nodup :=
  Selection.nodup_values_foldl_insert _ List.nodup_nil

theorem toSelection_of_nodup {clause : SetClause}
    (distinct : (clause.values ++ clause.excluded).Nodup) :
    clause.toSelection =
      ⟨clause.values.map SelectedValue.including ++ clause.excluded.map SelectedValue.excluding,
        clause.combinator⟩ := by
  have values : (clause.values.map SelectedValue.including ++
      clause.excluded.map SelectedValue.excluding).map SelectedValue.value =
        clause.values ++ clause.excluded := by
    simp [SelectedValue.including, SelectedValue.excluding, Function.comp_def]
  rw [toSelection, Selection.foldl_insert_of_nodup]
  · rfl
  · rw [values]
    exact distinct

/-- Only the bounds of the tag percentage are lost on the way through a selection. -/
theorem ofSelection_toSelection {clause : SetClause}
    (distinct : (clause.values ++ clause.excluded).Nodup) :
    ofSelection clause.toSelection =
      { clause with tagPercentageMin := none, tagPercentageMax := none } := by
  have all : ∀ values : List String, values.filter (fun _ => true) = values :=
    fun values => List.filter_eq_self.2 fun _ _ => rfl
  have none : ∀ values : List String, values.filter (fun _ => false) = [] :=
    fun values => List.filter_eq_nil_iff.2 fun _ _ => Bool.false_ne_true
  rw [toSelection_of_nodup distinct]
  simp [ofSelection, Selection.included, Selection.excluded, SelectedValue.including,
    SelectedValue.excluding, List.filter_map, Function.comp_def, all, none]

theorem parts_toSelection_ofSelection {selection : Selection}
    (distinct : selection.values.Nodup) :
    (ofSelection selection).toSelection.included = selection.included ∧
      (ofSelection selection).toSelection.excluded = selection.excluded ∧
      (ofSelection selection).toSelection.combinator = selection.combinator := by
  have again : ofSelection (ofSelection selection).toSelection = ofSelection selection :=
    ofSelection_toSelection (Selection.nodup_included_append_excluded distinct)
  exact ⟨congrArg SetClause.values again, congrArg SetClause.excluded again,
    congrArg SetClause.combinator again⟩

end SetClause

end MediaFilter
