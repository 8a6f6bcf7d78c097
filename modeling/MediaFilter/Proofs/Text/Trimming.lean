import Mathlib.Data.List.DropRight
import MediaFilter.Text.Blank

/-!
What is left of a text when characters are taken off its ends, told without the taking: it stands
in the text with nothing but such characters around it, and neither begins nor ends with one.
-/

namespace MediaFilter.Text

section

variable {p : α → Bool} {items : List α}

theorem dropWhile_eq_iff {rest : List α} :
    items.dropWhile p = rest ↔ ∃ front, items = front ++ rest ∧ (∀ a ∈ front, p a = true) ∧
      ∀ a ∈ rest.head?, p a = false := by
  constructor
  · rintro rfl
    refine ⟨items.takeWhile p, List.takeWhile_append_dropWhile.symm,
      fun a member => List.mem_takeWhile_imp member, fun a isHead => ?_⟩
    have nonempty : items.dropWhile p ≠ [] := fun empty => by simp [empty] at isHead
    have first := List.head_dropWhile_not p nonempty
    rwa [List.head_of_mem_head? isHead] at first
  · rintro ⟨front, rfl, all, bare⟩
    rw [List.dropWhile_append_of_pos all]
    cases rest with
    | nil => rfl
    | cons a rest => simp [bare a rfl]

theorem rdropWhile_eq_iff {stem : List α} :
    items.rdropWhile p = stem ↔ ∃ tail, items = stem ++ tail ∧ (∀ a ∈ tail, p a = true) ∧
      ∀ a ∈ stem.getLast?, p a = false := by
  rw [List.rdropWhile, List.reverse_eq_iff, dropWhile_eq_iff]
  constructor
  · rintro ⟨front, whole, all, bare⟩
    refine ⟨front.reverse, ?_, by simpa using all, by simpa using bare⟩
    rw [← List.reverse_inj, whole]
    simp
  · rintro ⟨tail, rfl, all, bare⟩
    exact ⟨tail.reverse, by simp, by simpa using all, by simpa using bare⟩

end

theorem isBlank_iff_all {s : String} : IsBlank s ↔ s.toList.all isBlank = true :=
  List.all_eq_true.symm

/-- Whether `core` is what a text comes to without the blanks at its ends. -/
def Trims (text core : List Char) : Prop :=
  ∃ before after, text = before ++ (core ++ after) ∧ (∀ c ∈ before, isBlank c = true) ∧
    (∀ c ∈ after, isBlank c = true) ∧ (∀ c ∈ core.head?, isBlank c = false) ∧
    ∀ c ∈ core.getLast?, isBlank c = false

theorem trim_eq_iff {text core : List Char} : trim text = core ↔ Trims text core := by
  constructor
  · intro trimmed
    obtain ⟨before, whole, isBefore, first⟩ := dropWhile_eq_iff.1 (Eq.refl (trimStart text))
    obtain ⟨after, rest, isAfter, last⟩ := rdropWhile_eq_iff.1 trimmed
    rw [rest] at whole first
    refine ⟨before, after, whole, isBefore, isAfter, fun c isHead => first c ?_, last⟩
    simp [Option.mem_def.1 isHead]
  · rintro ⟨before, after, rfl, isBefore, isAfter, first, last⟩
    cases core with
    | nil =>
        have nothing : trimStart (before ++ ([] ++ after)) = [] := by
          rw [trimStart, List.nil_append, List.dropWhile_eq_nil_iff]
          exact List.forall_mem_append.2 ⟨isBefore, isAfter⟩
        rw [trim, nothing, trimEnd_nil]
    | cons c core =>
        have start : trimStart (before ++ (c :: core ++ after)) = c :: core ++ after :=
          dropWhile_eq_iff.2 ⟨before, rfl, isBefore, first⟩
        rw [trim, start]
        exact rdropWhile_eq_iff.2 ⟨after, rfl, isAfter, last⟩

theorem trim_eq_nil_iff {text : List Char} : trim text = [] ↔ ∀ c ∈ text, isBlank c = true := by
  rw [trim_eq_iff]
  constructor
  · rintro ⟨before, after, rfl, isBefore, isAfter, _⟩
    exact List.forall_mem_append.2 ⟨isBefore, isAfter⟩
  · intro all
    exact ⟨text, [], by simp, all, nofun, nofun, nofun⟩

theorem Trims.count_eq {text core : List Char} (trims : Trims text core) {c : Char}
    (notBlank : isBlank c = false) : text.count c = core.count c := by
  obtain ⟨before, after, rfl, isBefore, isAfter, _⟩ := trims
  have absent : ∀ blanks : List Char, (∀ c ∈ blanks, isBlank c = true) → c ∉ blanks :=
    fun blanks all member => by simp [all c member] at notBlank
  simp [List.count_eq_zero.2 (absent _ isBefore), List.count_eq_zero.2 (absent _ isAfter)]

end MediaFilter.Text
