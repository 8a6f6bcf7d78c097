import Mathlib.Data.List.Induction
import MediaFilter.Proofs.History
import MediaFilter.Proofs.Selection.Partition

/-!
What a selection holds, told from all that was done to it since it was empty.  A value is selected
if it was inserted and not removed since.  The first such insertion counts: it gives the value its
place and its flag, which every later toggle flips.
-/

namespace MediaFilter.Selection

inductive Operation where
  | insert (entry : SelectedValue)
  | remove (value : String)
  | toggleExcluded (value : String)
  | toggleCombinator
  deriving DecidableEq, Repr

def perform (selection : Selection) : Operation → Selection
  | .insert entry => selection.insert entry
  | .remove value => selection.remove value
  | .toggleExcluded value => selection.toggleExcluded value
  | .toggleCombinator => selection.toggleCombinator

def after (history : List Operation) (selection : Selection) : Selection :=
  history.foldl perform selection

theorem after_concat (history : List Operation) (operation : Operation) (selection : Selection) :
    after (history ++ [operation]) selection = (after history selection).perform operation := by
  rw [after, List.foldl_append]
  rfl

def Inserted (history : List Operation) (value : String) : Prop :=
  ∃ excluded,
    Lasts (fun operation => operation == .remove value) history (.insert ⟨value, excluded⟩)

/-- The insertion of a value that counts: the first one since the value was removed last. -/
structure Admits (history : List Operation) (value : String) (earlier : List Operation)
    (excluded : Bool) (later : List Operation) : Prop where
  whole : history = earlier ++ .insert ⟨value, excluded⟩ :: later
  isFirst : ¬Inserted earlier value
  kept : .remove value ∉ later

/-- Whether a value has this flag: that of the insertion that counts, flipped by each toggle
since. -/
def Flagged (history : List Operation) (value : String) (excluded : Bool) : Prop :=
  ∃ earlier original later, Admits history value earlier original later ∧
    excluded = not^[later.count (.toggleExcluded value)] original

/-- Whether one value was inserted before another by the insertions that count. -/
def Precedes (history : List Operation) (first second : String) : Prop :=
  ∀ ⦃earlier excluded later⦄, Admits history first earlier excluded later →
    ∀ ⦃earlier' excluded' later'⦄, Admits history second earlier' excluded' later' →
      earlier.length < earlier'.length

section

variable {history : List Operation} {operation : Operation} {value : String}

theorem not_inserted_nil (value : String) : ¬Inserted [] value :=
  fun ⟨_, lasts⟩ => nomatch lasts.mem

theorem inserted_concat :
    Inserted (history ++ [operation]) value ↔
      (∃ excluded, operation = .insert ⟨value, excluded⟩) ∨
        (Inserted history value ∧ operation ≠ .remove value) := by
  simp only [Inserted, lasts_append, beq_eq_false_iff_ne, exists_or, exists_and_right]
  simp only [eq_comm]

theorem Admits.inserted {earlier later : List Operation} {excluded : Bool}
    (admits : Admits history value earlier excluded later) : Inserted history value :=
  ⟨excluded, earlier, later, admits.whole, fun _ member =>
    beq_eq_false_iff_ne.2 fun removes => admits.kept (removes ▸ member)⟩

theorem admits_concat {earlier later : List Operation} {excluded : Bool} :
    Admits (history ++ [operation]) value earlier excluded later ↔
      (operation = .insert ⟨value, excluded⟩ ∧ ¬Inserted history value ∧ earlier = history ∧
        later = []) ∨
      ∃ front, later = front ++ [operation] ∧ operation ≠ .remove value ∧
        Admits history value earlier excluded front := by
  constructor
  · rintro ⟨whole, isFirst, kept⟩
    rcases append_singleton_eq_iff.1 whole with ⟨rfl, inserts, rfl⟩ | ⟨front, rfl, split⟩
    · exact .inl ⟨inserts, isFirst, rfl, rfl⟩
    · rw [List.mem_append, not_or, List.mem_singleton] at kept
      exact .inr ⟨front, rfl, Ne.symm kept.2, split, isFirst, kept.1⟩
  · rintro (⟨rfl, isFirst, rfl, rfl⟩ | ⟨front, rfl, stays, rfl, isFirst, kept⟩)
    · exact ⟨rfl, isFirst, List.not_mem_nil⟩
    · refine ⟨by simp, isFirst, ?_⟩
      rw [List.mem_append, not_or, List.mem_singleton]
      exact ⟨kept, stays.symm⟩

theorem flagged_concat {excluded : Bool} :
    Flagged (history ++ [operation]) value excluded ↔
      (operation = .insert ⟨value, excluded⟩ ∧ ¬Inserted history value) ∨
        (operation ≠ .remove value ∧
          Flagged history value
            (if operation = .toggleExcluded value then !excluded else excluded)) := by
  constructor
  · rintro ⟨earlier, original, later, admits, rfl⟩
    rcases admits_concat.1 admits with ⟨rfl, isFirst, rfl, rfl⟩ | ⟨front, rfl, stays, admits⟩
    · exact .inl ⟨rfl, isFirst⟩
    · refine .inr ⟨stays, earlier, original, front, admits, ?_⟩
      rw [iterate_count_concat]
      by_cases toggles : operation = .toggleExcluded value
      · rw [if_pos toggles, if_pos toggles, Bool.not_not]
      · rw [if_neg toggles, if_neg toggles]
  · rintro (⟨rfl, isFirst⟩ | ⟨stays, earlier, original, front, admits, flag⟩)
    · exact ⟨history, excluded, [], admits_concat.2 (.inl ⟨rfl, isFirst, rfl, rfl⟩), rfl⟩
    · refine ⟨earlier, original, front ++ [operation],
        admits_concat.2 (.inr ⟨front, rfl, stays, admits⟩), ?_⟩
      rw [iterate_count_concat, ← flag]
      by_cases toggles : operation = .toggleExcluded value
      · rw [if_pos toggles, if_pos toggles, Bool.not_not]
      · rw [if_neg toggles, if_neg toggles]

theorem Precedes.concat {first second : String} (precedes : Precedes history first second)
    (isFirst : Inserted history first) (isSecond : Inserted history second) :
    Precedes (history ++ [operation]) first second := by
  intro earlier excluded later admits earlier' excluded' later' admits'
  rcases admits_concat.1 admits with ⟨-, fresh, -, -⟩ | ⟨_, -, -, before⟩
  · exact absurd isFirst fresh
  rcases admits_concat.1 admits' with ⟨-, fresh, -, -⟩ | ⟨_, -, -, before'⟩
  · exact absurd isSecond fresh
  exact precedes before before'

theorem precedes_last {first second : String} (isFirst : Inserted history first)
    (fresh : ¬Inserted history second) : Precedes (history ++ [operation]) first second := by
  intro earlier excluded later admits earlier' excluded' later' admits'
  rcases admits_concat.1 admits with ⟨-, unselected, -, -⟩ | ⟨front, -, -, before⟩
  · exact absurd isFirst unselected
  rcases admits_concat.1 admits' with ⟨-, -, rfl, -⟩ | ⟨_, -, -, before'⟩
  · rw [before.whole, List.length_append, List.length_cons]
    omega
  · exact absurd before'.inserted fresh

end

section

variable {selection : Selection} {operation : Operation}

theorem combinator_perform (selection : Selection) (operation : Operation) :
    (selection.perform operation).combinator =
      if operation = .toggleCombinator then selection.combinator.toggled
      else selection.combinator := by
  cases operation with
  | insert entry => exact combinator_insert selection entry
  | remove value => exact combinator_remove value selection
  | toggleExcluded value => exact combinator_toggleExcluded value selection
  | toggleCombinator => rfl

theorem values_perform (selection : Selection) (operation : Operation) :
    (selection.perform operation).values.Sublist selection.values ∨
      ∃ entry, operation = .insert entry ∧ entry.value ∉ selection.values ∧
        (selection.perform operation).values = selection.values ++ [entry.value] := by
  cases operation with
  | insert entry =>
      by_cases selected : entry.value ∈ selection.values
      · left
        rw [perform, insert_of_mem selected]
      · right
        refine ⟨entry, rfl, selected, ?_⟩
        rw [perform, insert_of_not_mem selected, values, List.map_append]
        rfl
  | remove value => exact .inl (sublist_values_remove value selection)
  | toggleExcluded value =>
      left
      rw [perform, values_toggleExcluded]
  | toggleCombinator => exact .inl (.refl _)

theorem nodup_values_perform (distinct : selection.values.Nodup) (operation : Operation) :
    (selection.perform operation).values.Nodup := by
  cases operation with
  | insert entry => exact nodup_values_insert distinct entry
  | remove value => exact nodup_values_remove distinct value
  | toggleExcluded value => exact nodup_values_toggleExcluded distinct value
  | toggleCombinator => exact distinct

theorem mem_entries_perform (distinct : selection.values.Nodup) {value : String}
    {excluded : Bool} :
    ⟨value, excluded⟩ ∈ (selection.perform operation).entries ↔
      (operation = .insert ⟨value, excluded⟩ ∧ value ∉ selection.values) ∨
        (operation ≠ .remove value ∧
          ⟨value, if operation = .toggleExcluded value then !excluded else excluded⟩ ∈
            selection.entries) := by
  cases operation with
  | insert entry =>
      have inserts : (entry = ⟨value, excluded⟩ ∧ value ∉ selection.values) ↔
          ⟨value, excluded⟩ = entry ∧ entry.value ∉ selection.values := by
        constructor <;> rintro ⟨rfl, fresh⟩ <;> exact ⟨rfl, fresh⟩
      rw [perform, mem_entries_insert, or_comm, Operation.insert.injEq, inserts]
      simp
  | remove removed =>
      rw [perform, mem_entries_remove]
      simp [eq_comm, and_comm]
  | toggleExcluded toggled =>
      rw [perform, mem_entries_toggleExcluded distinct]
      by_cases named : value = toggled
      · simp [named, flip]
      · simp [named, Ne.symm named]
  | toggleCombinator => simp [perform, toggleCombinator]

theorem mem_values_perform {value : String} :
    value ∈ (selection.perform operation).values ↔
      (∃ excluded, operation = .insert ⟨value, excluded⟩) ∨
        (value ∈ selection.values ∧ operation ≠ .remove value) := by
  cases operation with
  | insert entry =>
      have names : (∃ excluded, entry = ⟨value, excluded⟩) ↔ value = entry.value := by
        constructor
        · rintro ⟨excluded, rfl⟩
          rfl
        · rintro rfl
          exact ⟨entry.excluded, rfl⟩
      rw [perform, mem_values_insert, or_comm]
      simp [names]
  | remove removed =>
      rw [perform, mem_values_remove]
      simp [eq_comm]
  | toggleExcluded toggled =>
      rw [perform, values_toggleExcluded]
      simp
  | toggleCombinator => simp [perform, toggleCombinator, values]

end

/-- What a selection holds that was empty, with this combinator, before its history. -/
structure Recounts (start : Combinator) (history : List Operation) (selection : Selection) :
    Prop where
  distinct : selection.values.Nodup
  mem_values_iff : ∀ value, value ∈ selection.values ↔ Inserted history value
  mem_entries_iff : ∀ value excluded,
    ⟨value, excluded⟩ ∈ selection.entries ↔ Flagged history value excluded
  ordered : selection.values.Pairwise (Precedes history)
  combinator : selection.combinator = Combinator.toggled^[history.count .toggleCombinator] start

theorem Recounts.pairwise_perform {start : Combinator} {history : List Operation}
    {selection : Selection} (recounts : Recounts start history selection)
    (operation : Operation) :
    (selection.perform operation).values.Pairwise (Precedes (history ++ [operation])) := by
  have inserted : ∀ value ∈ selection.values, Inserted history value := fun value =>
    (recounts.mem_values_iff value).1
  have ordered : selection.values.Pairwise (Precedes (history ++ [operation])) :=
    recounts.ordered.imp_of_mem fun isFirst isSecond precedes =>
      precedes.concat (inserted _ isFirst) (inserted _ isSecond)
  rcases values_perform selection operation with kept | ⟨entry, -, fresh, grown⟩
  · exact ordered.sublist kept
  · rw [grown, List.pairwise_append]
    refine ⟨ordered, List.pairwise_singleton _ _, fun value member last isLast => ?_⟩
    rw [List.mem_singleton.1 isLast]
    exact precedes_last (inserted value member) fun selected =>
      fresh ((recounts.mem_values_iff _).2 selected)

theorem Recounts.perform {start : Combinator} {history : List Operation} {selection : Selection}
    (recounts : Recounts start history selection) (operation : Operation) :
    Recounts start (history ++ [operation]) (selection.perform operation) where
  distinct := nodup_values_perform recounts.distinct operation
  mem_values_iff value := by
    rw [mem_values_perform, recounts.mem_values_iff, inserted_concat]
  mem_entries_iff value excluded := by
    rw [mem_entries_perform recounts.distinct, recounts.mem_values_iff, recounts.mem_entries_iff,
      flagged_concat]
  ordered := recounts.pairwise_perform operation
  combinator := by
    rw [combinator_perform, recounts.combinator, iterate_count_concat]

theorem recounts_after (start : Combinator) (history : List Operation) :
    Recounts start history (after history (.empty start)) := by
  induction history using List.reverseRecOn with
  | nil =>
      refine ⟨List.nodup_nil, fun value => ?_, fun value excluded => ?_, List.Pairwise.nil, rfl⟩
      · exact iff_of_false List.not_mem_nil (not_inserted_nil value)
      · refine iff_of_false List.not_mem_nil ?_
        rintro ⟨_, _, _, admits, _⟩
        exact not_inserted_nil value admits.inserted
  | append_singleton history operation induction =>
      rw [after_concat]
      exact induction.perform operation

/-- After any history, a selection holds once what was inserted and not removed since, in the order
of the insertions that count and with their flags, flipped by each toggle since.  Its two parts
share these values out, and the clause made of them turns back into a selection with the same
parts. -/
theorem selection_lossless (start : Combinator) (history : List Operation) :
    let selection := after history (.empty start)
    let restored := (SetClause.ofSelection selection).toSelection
    Recounts start history selection ∧
      Parts selection selection.included selection.excluded ∧
      restored.included = selection.included ∧ restored.excluded = selection.excluded ∧
      restored.combinator = selection.combinator := by
  intro selection restored
  have recounts : Recounts start history selection := recounts_after start history
  exact ⟨recounts, parts_of_nodup recounts.distinct,
    SetClause.parts_toSelection_ofSelection recounts.distinct⟩

example :
    after [.insert (.including "a"), .toggleExcluded "b", .insert (.excluding "b"),
      .toggleCombinator, .insert (.excluding "a"), .remove "a", .toggleExcluded "b",
      .insert (.including "a"), .toggleExcluded "a"] (.empty .and) =
      ⟨[.including "b", .excluding "a"], .or⟩ := by decide

end MediaFilter.Selection
