import Mathlib.Data.List.Induction
import MediaFilter.Proofs.Bindings.Building
import MediaFilter.Proofs.History
import MediaFilter.Proofs.Widget.Reporting

/-!
Exclusion in the picker of user lists.  A list can be excluded only while the lists are combined
with AND, but switching to OR leaves what is excluded as it is: under OR exactly those lists are
excluded that were so when the combinator was switched last and that were not removed since.
-/

namespace MediaFilter

namespace Selection

theorem excluded_insert_including (selection : Selection) (value : String) :
    (selection.insert (.including value)).excluded = selection.excluded := by
  by_cases selected : value ∈ selection.values
  · rw [insert_of_mem selected]
  · rw [insert_of_not_mem selected]
    simp [excluded, SelectedValue.including]

theorem mem_excluded_remove {selection : Selection} {removed value : String} :
    value ∈ (selection.remove removed).excluded ↔ value ∈ selection.excluded ∧ value ≠ removed := by
  rw [mem_excluded_iff, mem_entries_remove, mem_excluded_iff]
  rfl

end Selection

namespace Widget

inductive Picks : Edit → Selection → Selection → Prop
  | refused {edit : Edit} {selection : Selection} (switches : edit ≠ .toggleCombinator)
      (removes : ∀ value, edit ≠ .remove value) : Picks edit selection selection
  | added {selection : Selection} (value : String) :
      Picks (.add value) selection (selection.insert (.including value))
  | removed {selection : Selection} (value : String) :
      Picks (.remove value) selection (selection.remove value)
  | flipped {selection : Selection} (value : String) (combined : selection.combinator = .and) :
      Picks (.toggleExcluded value) selection (selection.toggleExcluded value)
  | switched {selection : Selection} :
      Picks .toggleCombinator selection selection.toggleCombinator

theorem Picks.combinator {edit : Edit} {before after : Selection}
    (picks : Picks edit before after) :
    after.combinator =
      if edit = .toggleCombinator then before.combinator.toggled else before.combinator := by
  cases picks with
  | refused switches => rw [if_neg switches]
  | added value => exact Selection.combinator_insert _ _
  | removed value => exact Selection.combinator_remove _ _
  | flipped value => exact Selection.combinator_toggleExcluded _ _
  | switched => rfl

theorem Picks.excluded_of_switched {before after : Selection}
    (picks : Picks .toggleCombinator before after) : after.excluded = before.excluded := by
  cases picks <;> rfl

theorem Picks.excluded_of_or {edit : Edit} {before after : Selection}
    (picks : Picks edit before after) (combined : before.combinator = .or)
    (kept : edit ≠ .toggleCombinator) {value : String} :
    value ∈ after.excluded ↔ value ∈ before.excluded ∧ edit ≠ .remove value := by
  cases picks with
  | refused _ removes => exact (and_iff_left (removes value)).symm
  | added => rw [Selection.excluded_insert_including, and_iff_left nofun]
  | removed other =>
      rw [Selection.mem_excluded_remove]
      simp [eq_comm]
  | flipped _ separate => cases separate.symm.trans combined
  | switched => exact absurd rfl kept

theorem editSelection_picks {entries : List WhitelistEntry} {edit : Edit}
    {selection : Selection} {found : Option Selection}
    (edited : editSelection FilterName.userList.definition entries .userList edit selection =
      .ok found) : Picks edit selection (selection.edited edit) := by
  unfold editSelection at edited
  cases edit with
  | add value => exact .added value
  | remove value => exact .removed value
  | toggleExcluded value =>
      refine .flipped value ?_
      cases combined : selection.combinator with
      | and => rfl
      | or =>
          rw [combined] at edited
          cases edited
  | toggleCombinator => exact .switched
  | _ => cases edited

section

variable {picker : Widget} (ofLists : picker.definition = FilterName.userList.definition)

include ofLists

theorem apply_picks {selection : Selection} (held : picker.value = .userList selection)
    (edit : Edit) : ∃ next, (picker.apply edit).widget = { picker with value := .userList next } ∧
      Picks edit selection next := by
  cases result : picker.editedValue edit with
  | error refusal =>
      rw [editedValue, held, ofLists] at result
      refine ⟨selection, ?_, .refused ?_ fun value => ?_⟩
      · rw [apply_of_refused (by rw [editedValue, held, ofLists]; exact result), ← held]
      · rintro rfl
        cases result
      · rintro rfl
        cases result
  | ok found =>
      have asked : picker.value.edited picker.domain edit = .userList (selection.edited edit) := by
        rw [held]
        rfl
      refine ⟨selection.edited edit, ?_, ?_⟩
      · rw [widget_apply_of_ok result, asked]
      · rw [editedValue, held, ofLists] at result
        obtain ⟨inner, allowed, -⟩ := map_ok_iff.1 result
        exact editSelection_picks allowed

end

def after (edits : List Edit) (widget : Widget) : Widget :=
  edits.foldl (fun widget edit => (widget.apply edit).widget) widget

theorem after_concat (edits : List Edit) (edit : Edit) (widget : Widget) :
    widget.after (edits ++ [edit]) = ((widget.after edits).apply edit).widget := by
  rw [after, List.foldl_append]
  rfl

def Excludes (widget : Widget) (value : String) : Prop :=
  ∃ selection, widget.value = .userList selection ∧ value ∈ selection.excluded

/-- Whether a list was excluded when the combinator was switched last, and not removed since. -/
def Carries (picker : Widget) (edits : List Edit) (value : String) : Prop :=
  ∃ earlier later, edits = earlier ++ .toggleCombinator :: later ∧ .toggleCombinator ∉ later ∧
    .remove value ∉ later ∧ (picker.after earlier).Excludes value

theorem carries_switched {picker : Widget} {edits : List Edit} {value : String} :
    picker.Carries (edits ++ [.toggleCombinator]) value ↔ (picker.after edits).Excludes value := by
  constructor
  · rintro ⟨earlier, later, parted, last, -, excludes⟩
    rcases append_singleton_eq_iff.1 parted with ⟨rfl, -, -⟩ | ⟨front, rfl, -⟩
    · exact excludes
    · exact absurd (List.mem_append_right front List.mem_cons_self) last
  · intro excludes
    exact ⟨edits, [], rfl, List.not_mem_nil, List.not_mem_nil, excludes⟩

theorem carries_concat {picker : Widget} {edits : List Edit} {edit : Edit}
    (kept : edit ≠ .toggleCombinator) {value : String} :
    picker.Carries (edits ++ [edit]) value ↔
      picker.Carries edits value ∧ edit ≠ .remove value := by
  constructor
  · rintro ⟨earlier, later, parted, last, stays, excludes⟩
    rcases append_singleton_eq_iff.1 parted with ⟨-, switches, -⟩ | ⟨front, rfl, split⟩
    · exact absurd switches kept
    · simp only [List.mem_append, List.mem_singleton, not_or] at last stays
      exact ⟨⟨earlier, front, split, last.1, stays.1, excludes⟩, Ne.symm stays.2⟩
  · rintro ⟨⟨earlier, later, rfl, last, stays, excludes⟩, other⟩
    refine ⟨earlier, later ++ [edit], by simp, ?_, ?_, excludes⟩
    · simp [last, kept.symm]
    · simp [stays, other.symm]

section

variable {picker : Widget} (ofLists : picker.definition = FilterName.userList.definition)

include ofLists

theorem after_held {selection : Selection} (held : picker.value = .userList selection)
    (edits : List Edit) :
    ∃ next, picker.after edits = { picker with value := .userList next } := by
  induction edits using List.reverseRecOn with
  | nil => exact ⟨selection, by rw [← held]; rfl⟩
  | append_singleton edits edit induction =>
      obtain ⟨middle, reached⟩ := induction
      rw [after_concat, reached]
      obtain ⟨next, applied, -⟩ :=
        @apply_picks { picker with value := .userList middle } ofLists middle rfl edit
      exact ⟨next, applied⟩

theorem picks_concat {edits : List Edit} {edit : Edit} {before after : Selection}
    (reached : picker.after edits = { picker with value := .userList before })
    (next : picker.after (edits ++ [edit]) = { picker with value := .userList after }) :
    Picks edit before after := by
  obtain ⟨other, applied, picks⟩ :=
    @apply_picks { picker with value := .userList before } ofLists before rfl edit
  rw [after_concat, reached, applied] at next
  rwa [← FilterValue.userList.inj (congrArg Widget.value next)]

end

structure Untouched (picker : Widget) : Prop where
  ofLists : picker.definition = FilterName.userList.definition
  value : picker.value = firstListed picker.definition picker.whitelist

/-- What edits alone have made of the selection in a picker of user lists. -/
structure Exclusion (picker : Widget) (edits : List Edit) (selection : Selection) : Prop where
  held : picker.after edits = { picker with value := .userList selection }
  combinator : selection.combinator = .or ↔ edits.count .toggleCombinator % 2 = 1
  excluded : selection.combinator = .or →
    ∀ value, value ∈ selection.excluded ↔ picker.Carries edits value

theorem Exclusion.excludes_iff {picker : Widget} {edits : List Edit} {selection : Selection}
    (exclusion : picker.Exclusion edits selection) {value : String} :
    (picker.after edits).Excludes value ↔ value ∈ selection.excluded := by
  rw [exclusion.held]
  constructor
  · rintro ⟨_, ⟨⟩, member⟩
    exact member
  · exact fun member => ⟨selection, rfl, member⟩

/-- One more edit: switching the combinator renews what is carried over, and under OR any other
edit only removes from it. -/
theorem Exclusion.concat {picker : Widget} {edits : List Edit} {edit : Edit}
    {before after : Selection} (exclusion : picker.Exclusion edits before)
    (reached : picker.after (edits ++ [edit]) = { picker with value := .userList after })
    (picks : Picks edit before after) : picker.Exclusion (edits ++ [edit]) after := by
  by_cases switches : edit = .toggleCombinator
  · subst switches
    have toggled : after.combinator = before.combinator.toggled := picks.combinator
    refine ⟨reached, ?_, fun _ value => ?_⟩
    · have earlier := exclusion.combinator
      rw [List.count_append, List.count_singleton_self, toggled]
      cases own : before.combinator with
      | and =>
          rw [own] at earlier
          have even : ¬ edits.count .toggleCombinator % 2 = 1 := fun odd => nomatch earlier.2 odd
          simp only [Combinator.toggled, true_iff]
          omega
      | or =>
          have odd := earlier.1 own
          simp only [Combinator.toggled, reduceCtorEq, false_iff]
          omega
    · rw [picks.excluded_of_switched, carries_switched, exclusion.excludes_iff]
  · have same : after.combinator = before.combinator := by rw [picks.combinator, if_neg switches]
    refine ⟨reached, ?_, fun combined value => ?_⟩
    · have uncounted : [edit].count .toggleCombinator = 0 :=
        List.count_eq_zero.2 fun member => switches (List.mem_singleton.1 member).symm
      rw [List.count_append, uncounted, same]
      exact exclusion.combinator
    · rw [same] at combined
      rw [picks.excluded_of_or combined switches, exclusion.excluded combined value,
        carries_concat switches]

theorem Untouched.selection {picker : Widget} (untouched : picker.Untouched) :
    ∃ selection, picker.value = .userList selection ∧ selection.combinator = .and := by
  rw [untouched.value, untouched.ofLists]
  exact ⟨_, rfl, rfl⟩

theorem Untouched.exclusion {picker : Widget} (untouched : picker.Untouched) (edits : List Edit) :
    ∃ selection, picker.Exclusion edits selection := by
  obtain ⟨selection, start, combined⟩ := untouched.selection
  induction edits using List.reverseRecOn with
  | nil =>
      refine ⟨selection, by rw [← start]; rfl, ?_, fun switched => ?_⟩
      · rw [combined]
        exact ⟨nofun, nofun⟩
      · cases combined.symm.trans switched
  | append_singleton edits edit induction =>
      obtain ⟨before, exclusion⟩ := induction
      obtain ⟨after, reached⟩ := after_held untouched.ofLists start (edits ++ [edit])
      have picks := picks_concat untouched.ofLists exclusion.held reached
      exact ⟨after, exclusion.concat reached picks⟩

/-- Under OR, the lists that are excluded are those that were excluded when the combinator was
switched last and that nobody has removed since; the clause of the lists says the same. -/
theorem excluded_under_or {picker : Widget} (untouched : picker.Untouched) (edits : List Edit) :
    ∃ selection, picker.Exclusion edits selection ∧
      ∀ pairs, Expression.Distinct pairs →
        (picker.definition, (picker.after edits).value) ∈ pairs →
        (Expression.build pairs).get? FilterName.userList.wire =
          if selection.isEmpty then none else some (.set (.ofSelection selection)) := by
  obtain ⟨selection, exclusion⟩ := untouched.exclusion edits
  refine ⟨selection, exclusion, fun pairs distinct listed => ?_⟩
  rw [untouched.ofLists, exclusion.held] at listed
  refine (Expression.get?_build_of_mem distinct listed nofun nofun List.mem_cons_self).trans ?_
  change Clauses.get? _ (FilterValue.selectionClauses _ selection) = _
  unfold FilterValue.selectionClauses
  split <;> rfl

def twoLists : Widget :=
  (bindUserList FilterName.userList.definition .anime
    [.labeled "1" "Watching (3)", .labeled "2" "Completed (80)"] none).result

theorem excluded_under_or_of_twoLists :
    let edits : List Edit := [.toggleExcluded "1", .add "2", .toggleExcluded "2",
      .toggleCombinator, .remove "1", .toggleExcluded "2"]
    twoLists.Untouched ∧
      (∃ selection, twoLists.Exclusion edits selection ∧
        ∀ pairs, Expression.Distinct pairs →
          (twoLists.definition, (twoLists.after edits).value) ∈ pairs →
          (Expression.build pairs).get? FilterName.userList.wire =
            if selection.isEmpty then none else some (.set (.ofSelection selection))) ∧
      (twoLists.after edits).value = .userList ⟨[.excluding "2"], .or⟩ :=
  ⟨⟨rfl, rfl⟩, excluded_under_or ⟨rfl, rfl⟩ _, by decide +kernel⟩

theorem excluded_of_switched :
    let edits : List Edit := [.toggleExcluded "1", .toggleCombinator]
    let switched := twoLists.after edits
    twoLists.Untouched ∧
      switched.value = .userList ⟨[.excluding "1"], .or⟩ ∧
      (Expression.build [(switched.definition, switched.value)]).get? FilterName.userList.wire =
        some (.set ⟨.or, [], ["1"], none, none⟩) :=
  ⟨⟨rfl, rfl⟩, by decide +kernel, by decide +kernel⟩

end Widget

end MediaFilter
