import MediaFilter.Clause

/-!
Filter expressions: a clause for each key, the keys in order.  Since every key occurs once and in
its place, two expressions with the same clauses are equal, however they came about.
-/

namespace MediaFilter

/-- Clauses by key, in the order of the keys' characters. -/
abbrev Clauses := List (String × Clause)

namespace Clauses

def Sorted (clauses : Clauses) : Prop := clauses.Pairwise fun first second => first.1 < second.1

def insert (key : String) (clause : Clause) : Clauses → Clauses
  | [] => [(key, clause)]
  | entry :: entries =>
    if key < entry.1 then (key, clause) :: entry :: entries
    else if key = entry.1 then (key, clause) :: entries
    else entry :: insert key clause entries

def erase (key : String) (clauses : Clauses) : Clauses :=
  clauses.filter fun entry => entry.1 != key

def get? (key : String) (clauses : Clauses) : Option Clause :=
  (clauses.find? fun entry => entry.1 == key).map Prod.snd

theorem mem_insert {key : String} {clause : Clause} {clauses : Clauses}
    {entry : String × Clause} (h : entry ∈ insert key clause clauses) :
    entry = (key, clause) ∨ entry ∈ clauses := by
  induction clauses with
  | nil => simpa [insert] using h
  | cons head tail ih =>
    unfold insert at h
    split at h
    · simpa using h
    · split at h
      · rcases List.mem_cons.1 h with h | h
        · exact .inl h
        · exact .inr (List.mem_cons_of_mem _ h)
      · rcases List.mem_cons.1 h with h | h
        · exact .inr (h ▸ List.mem_cons_self)
        · rcases ih h with h | h
          · exact .inl h
          · exact .inr (List.mem_cons_of_mem _ h)

theorem Sorted.insert {clauses : Clauses} (h : clauses.Sorted) (key : String) (clause : Clause) :
    (insert key clause clauses).Sorted := by
  induction clauses with
  | nil => simp [Clauses.insert, Sorted]
  | cons head tail ih =>
    obtain ⟨first, rest⟩ := List.pairwise_cons.1 h
    unfold Clauses.insert
    split
    · rename_i lt
      refine List.pairwise_cons.2 ⟨fun entry member => ?_, h⟩
      rcases List.mem_cons.1 member with rfl | member
      · exact lt
      · exact String.lt_trans lt (first entry member)
    · split
      · rename_i eq
        exact List.pairwise_cons.2 ⟨fun entry member => eq ▸ first entry member, rest⟩
      · rename_i not_lt ne
        refine List.pairwise_cons.2 ⟨fun entry member => ?_, ih rest⟩
        rcases mem_insert member with rfl | member
        · exact Std.lt_of_le_of_ne (Std.not_lt.1 not_lt) (Ne.symm ne)
        · exact first entry member

theorem Sorted.erase {clauses : Clauses} (h : clauses.Sorted) (key : String) :
    (clauses.erase key).Sorted :=
  List.Pairwise.filter _ h

end Clauses

structure Expression where
  clauses : Clauses
  sorted : clauses.Sorted
  deriving DecidableEq

namespace Expression

def empty : Expression := ⟨[], List.Pairwise.nil⟩

instance : Inhabited Expression := ⟨empty⟩

def size (expression : Expression) : Nat := expression.clauses.length

def isEmpty (expression : Expression) : Bool := expression.clauses.isEmpty

def get? (expression : Expression) (key : String) : Option Clause := expression.clauses.get? key

def contains (expression : Expression) (key : String) : Bool := (expression.get? key).isSome

def insert (key : String) (clause : Clause) (expression : Expression) : Expression :=
  ⟨expression.clauses.insert key clause, expression.sorted.insert key clause⟩

def erase (key : String) (expression : Expression) : Expression :=
  ⟨expression.clauses.erase key, expression.sorted.erase key⟩

def ofList (entries : List (String × Clause)) : Expression :=
  entries.foldl (fun expression entry => expression.insert entry.1 entry.2) empty

def bound? (expression : Expression) (key : String) : Option Bound :=
  match expression.get? key with
  | some (.bound value) => some value
  | _ => none

/-- A text that is searched for is a clause of its own; an empty one is none. -/
def withSearch (key text : String) (expression : Expression) : Expression :=
  if text.isEmpty then expression else expression.insert key (.text text)

end Expression

end MediaFilter
