import MediaFilter.Expression

/-!
An expression is the map that looks its keys up.  An insertion and an erasure change it at their
key alone, and two expressions that look every key up alike are equal.
-/

namespace MediaFilter

namespace Clauses

theorem get?_cons (entry : String × Clause) (clauses : Clauses) (key : String) :
    get? key (entry :: clauses) = if entry.1 = key then some entry.2 else get? key clauses := by
  unfold get?
  rw [List.find?_cons]
  by_cases equal : entry.1 = key
  · simp [equal]
  · rw [beq_eq_false_iff_ne.2 equal, if_neg equal]

theorem get?_insert (key other : String) (clause : Clause) (clauses : Clauses) :
    get? other (insert key clause clauses) =
      if key = other then some clause else get? other clauses := by
  induction clauses with
  | nil => rw [insert, get?_cons]
  | cons head tail induction =>
      unfold insert
      split
      · rw [get?_cons]
      split
      · rename_i equal
        rw [get?_cons, get?_cons, ← equal]
        split <;> rfl
      · rename_i different
        rw [get?_cons, get?_cons, induction]
        by_cases isHead : head.1 = other
        · rw [if_pos isHead, if_pos isHead, if_neg (isHead ▸ different)]
        · rw [if_neg isHead, if_neg isHead]

theorem get?_erase (key other : String) (clauses : Clauses) :
    get? other (erase key clauses) = if key = other then none else get? other clauses := by
  induction clauses with
  | nil => simp [erase, get?]
  | cons head tail induction =>
      by_cases erased : head.1 = key
      · have unchanged : erase key (head :: tail) = erase key tail := by simp [erase, erased]
        rw [unchanged, induction, get?_cons, erased]
        split <;> rfl
      · have kept : erase key (head :: tail) = head :: erase key tail := by simp [erase, erased]
        rw [kept, get?_cons, get?_cons, induction]
        by_cases isHead : head.1 = other
        · rw [if_pos isHead, if_pos isHead, if_neg (isHead ▸ Ne.symm erased)]
        · rw [if_neg isHead, if_neg isHead]

theorem get?_eq_some_iff {clauses : Clauses} (distinct : (clauses.map Prod.fst).Nodup)
    {key : String} {clause : Clause} :
    clauses.get? key = some clause ↔ (key, clause) ∈ clauses := by
  induction clauses with
  | nil => simp [get?]
  | cons head tail induction =>
      obtain ⟨fresh, distinct⟩ := List.nodup_cons.1 distinct
      rw [get?_cons]
      split
      · rename_i isHead
        constructor
        · intro found
          cases found
          exact isHead ▸ List.mem_cons_self
        · intro member
          rcases List.mem_cons.1 member with rfl | later
          · rfl
          · exact absurd (List.mem_map.2 ⟨_, later, isHead.symm⟩) fresh
      · rename_i different
        rw [induction distinct, List.mem_cons]
        constructor
        · exact .inr
        · rintro (rfl | later)
          · exact absurd rfl different
          · exact later

theorem Sorted.distinct {clauses : Clauses} (sorted : clauses.Sorted) :
    (clauses.map Prod.fst).Nodup := by
  refine List.pairwise_map.2 (List.Pairwise.imp ?_ sorted)
  intro first second less equal
  exact String.lt_irrefl _ (equal ▸ less)

theorem Sorted.nodup {clauses : Clauses} (sorted : clauses.Sorted) : clauses.Nodup :=
  List.Pairwise.of_map Prod.fst (fun _ _ differ equal => differ (congrArg _ equal))
    sorted.distinct

theorem Sorted.ext {first second : Clauses} (firstSorted : first.Sorted)
    (secondSorted : second.Sorted) (same : ∀ key, first.get? key = second.get? key) :
    first = second := by
  refine List.Perm.eq_of_pairwise ?_ firstSorted secondSorted ?_
  · intro early late _ _ less greater
    exact absurd (String.lt_trans less greater) (String.lt_irrefl _)
  · refine (List.perm_ext_iff_of_nodup firstSorted.nodup secondSorted.nodup).2 ?_
    intro entry
    rw [← get?_eq_some_iff firstSorted.distinct, ← get?_eq_some_iff secondSorted.distinct, same]

end Clauses

namespace Expression

@[simp] theorem get?_empty (key : String) : empty.get? key = none := rfl

theorem get?_insert (key other : String) (clause : Clause) (expression : Expression) :
    (expression.insert key clause).get? other =
      if key = other then some clause else expression.get? other :=
  Clauses.get?_insert key other clause expression.clauses

theorem get?_erase (key other : String) (expression : Expression) :
    (expression.erase key).get? other = if key = other then none else expression.get? other :=
  Clauses.get?_erase key other expression.clauses

theorem ext_get? {first second : Expression} (same : ∀ key, first.get? key = second.get? key) :
    first = second := by
  have clauses := first.sorted.ext second.sorted same
  cases first
  cases second
  cases clauses
  rfl

theorem get?_foldl_insert (entries : List (String × Clause)) (expression : Expression)
    (distinct : (entries.map Prod.fst).Nodup) (key : String) :
    (entries.foldl (fun expression entry => expression.insert entry.1 entry.2) expression).get?
        key = (Clauses.get? key entries).or (expression.get? key) := by
  induction entries generalizing expression with
  | nil => rfl
  | cons entry entries induction =>
      obtain ⟨fresh, distinct⟩ := List.nodup_cons.1 distinct
      rw [List.foldl_cons, induction _ distinct, get?_insert, Clauses.get?_cons]
      split
      · rename_i isEntry
        have missing : Clauses.get? key entries = none := by
          rw [Option.eq_none_iff_forall_ne_some]
          intro clause found
          have member := (Clauses.get?_eq_some_iff distinct).1 found
          exact fresh (List.mem_map.2 ⟨_, member, isEntry.symm⟩)
        rw [missing]
        rfl
      · rfl

theorem get?_ofList {entries : List (String × Clause)} (distinct : (entries.map Prod.fst).Nodup)
    (key : String) : (ofList entries).get? key = Clauses.get? key entries := by
  rw [ofList, get?_foldl_insert entries empty distinct, get?_empty, Option.or_none]

@[simp] theorem ofList_clauses (expression : Expression) :
    ofList expression.clauses = expression :=
  ext_get? fun key => get?_ofList expression.sorted.distinct key

end Expression

end MediaFilter
