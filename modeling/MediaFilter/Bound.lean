import MediaFilter.Json.Fields

/-!
Ends of numeric intervals: whole numbers that fit into a signed word of 64 bits.
-/

namespace MediaFilter

@[ext] structure Bound where
  val : Int
  least_le : -9223372036854775808 ≤ val := by decide
  le_greatest : val ≤ 9223372036854775807 := by decide
  deriving DecidableEq, Repr

namespace Bound

instance : LE Bound := ⟨fun first second => first.val ≤ second.val⟩

instance (first second : Bound) : Decidable (first ≤ second) :=
  inferInstanceAs (Decidable (first.val ≤ second.val))

theorem le_iff {first second : Bound} : first ≤ second ↔ first.val ≤ second.val := Iff.rfl

def least : Bound := { val := -9223372036854775808 }

def greatest : Bound := { val := 9223372036854775807 }

def ofInt? (i : Int) : Option Bound :=
  if h : -9223372036854775808 ≤ i ∧ i ≤ 9223372036854775807 then some ⟨i, h.1, h.2⟩ else none

/-- The bound nearest to a whole number. -/
def saturate (i : Int) : Bound :=
  ⟨max (-9223372036854775808) (min i 9223372036854775807), by omega, by omega⟩

def lesser (first second : Bound) : Bound := if first ≤ second then first else second

def greater (first second : Bound) : Bound := if first ≤ second then second else first

theorem val_lesser (first second : Bound) :
    (first.lesser second).val = min first.val second.val := by
  unfold lesser
  split <;> rename_i h <;> rw [le_iff] at h <;> omega

theorem val_greater (first second : Bound) :
    (first.greater second).val = max first.val second.val := by
  unfold greater
  split <;> rename_i h <;> rw [le_iff] at h <;> omega

def toJson (bound : Bound) : Json := .integer bound.val

def ofJson? (value : Json) : Option Bound :=
  match value with
  | .integer i => ofInt? i
  | _ => none

@[simp] theorem ofInt?_val (bound : Bound) : ofInt? bound.val = some bound := by
  unfold ofInt?
  rw [dif_pos ⟨bound.least_le, bound.le_greatest⟩]

@[simp] theorem ofJson?_toJson (bound : Bound) : ofJson? bound.toJson = some bound :=
  ofInt?_val bound

end Bound

end MediaFilter
