import Mathlib.Data.List.Basic
import Mathlib.Logic.Function.Iterate

/-!
What happened, as a list with the latest last: what has come about without having ended since, and
what changes each time that something happens.
-/

namespace MediaFilter

variable {α : Type} {history : List α} {first last : α}

theorem append_singleton_eq_iff {earlier later : List α} :
    history ++ [last] = earlier ++ first :: later ↔
      (history = earlier ∧ last = first ∧ later = []) ∨
        ∃ front, later = front ++ [last] ∧ history = earlier ++ first :: front := by
  constructor
  · intro whole
    rcases List.eq_nil_or_concat later with rfl | ⟨front, final, rfl⟩
    · obtain ⟨same, isFirst⟩ := List.append_inj' whole rfl
      exact .inl ⟨same, (List.cons.inj isFirst).1, rfl⟩
    · rw [List.concat_eq_append, ← List.cons_append, ← List.append_assoc] at whole
      obtain ⟨rfl, same⟩ := List.append_inj' whole rfl
      cases same
      exact .inr ⟨front, List.concat_eq_append, rfl⟩
  · rintro (⟨rfl, rfl, rfl⟩ | ⟨front, rfl, rfl⟩)
    · rfl
    · rw [List.append_assoc, List.cons_append]

/-- Whether something happened after which nothing happened that ends it. -/
def Lasts (ends : α → Bool) (history : List α) (first : α) : Prop :=
  ∃ earlier later, history = earlier ++ first :: later ∧ ∀ act ∈ later, ends act = false

theorem lasts_append {ends : α → Bool} :
    Lasts ends (history ++ [last]) first ↔
      first = last ∨ (Lasts ends history first ∧ ends last = false) := by
  constructor
  · intro ⟨earlier, later, whole, calm⟩
    rcases append_singleton_eq_iff.1 whole with ⟨_, isFirst, _⟩ | ⟨front, rfl, split⟩
    · exact .inl isFirst.symm
    · refine .inr ⟨⟨earlier, front, split, fun act member => ?_⟩, ?_⟩
      · exact calm act (List.mem_append_left _ member)
      · exact calm last (List.mem_append_right _ List.mem_cons_self)
  · rintro (rfl | ⟨⟨earlier, later, rfl, calm⟩, still⟩)
    · exact ⟨history, [], rfl, fun act member => nomatch member⟩
    · refine ⟨earlier, later ++ [last], by simp, fun act member => ?_⟩
      rcases List.mem_append.1 member with before | isLast
      · exact calm act before
      · rw [List.mem_singleton.1 isLast]
        exact still

theorem Lasts.mem {ends : α → Bool} (lasts : Lasts ends history first) : first ∈ history := by
  obtain ⟨earlier, later, rfl, _⟩ := lasts
  exact List.mem_append_right _ List.mem_cons_self

theorem iterate_count_concat {β : Type} [DecidableEq α] (change : β → β) (history : List α)
    (last counted : α) (value : β) :
    change^[(history ++ [last]).count counted] value =
      if last = counted then change (change^[history.count counted] value)
      else change^[history.count counted] value := by
  by_cases same : last = counted
  · rw [if_pos same, same, List.count_append, List.count_singleton_self,
      Function.iterate_succ_apply']
  · rw [if_neg same, List.count_append, List.count_singleton, beq_false_of_ne same]
    rfl

end MediaFilter
