import MediaFilter.Bound

/-!
Numeric intervals.  A domain holds the numbers that a range filter offers; a range is the part of
it that is selected.  Neither is ever inverted: every function here that takes two ends puts them
in order, and moving one end of a range stops at the other.
-/

namespace MediaFilter

@[ext] structure RangeDomain where
  lo : Bound
  hi : Bound
  lo_le_hi : lo.val ≤ hi.val := by decide
  deriving DecidableEq, Repr

@[ext] structure RangeValue where
  min : Bound
  max : Bound
  min_le_max : min.val ≤ max.val := by decide
  deriving DecidableEq, Repr

namespace RangeDomain

def between (first second : Bound) : RangeDomain :=
  ⟨first.lesser second, first.greater second, by
    rw [Bound.val_lesser, Bound.val_greater]; omega⟩

def clamp (domain : RangeDomain) (bound : Bound) : Bound :=
  if bound ≤ domain.lo then domain.lo
  else if domain.hi ≤ bound then domain.hi
  else bound

/-- The least domain that holds this one and a range. -/
def extend (domain : RangeDomain) (range : RangeValue) : RangeDomain :=
  between (domain.lo.lesser range.min) (domain.hi.greater range.max)

def placeholder : RangeDomain := { lo := { val := 0 }, hi := { val := 9999 } }

def percent : RangeDomain := { lo := { val := 0 }, hi := { val := 100 } }

theorem val_clamp (domain : RangeDomain) (bound : Bound) :
    (domain.clamp bound).val = Max.max domain.lo.val (Min.min bound.val domain.hi.val) := by
  have := domain.lo_le_hi
  unfold clamp
  split
  · rename_i h
    rw [Bound.le_iff] at h
    omega
  · rename_i h
    rw [Bound.le_iff] at h
    split <;> rename_i h' <;> rw [Bound.le_iff] at h' <;> omega

theorem clamp_le_clamp (domain : RangeDomain) {first second : Bound}
    (h : first.val ≤ second.val) : (domain.clamp first).val ≤ (domain.clamp second).val := by
  rw [val_clamp, val_clamp]
  omega

end RangeDomain

namespace RangeValue

def between (first second : Bound) : RangeValue :=
  ⟨first.lesser second, first.greater second, by
    rw [Bound.val_lesser, Bound.val_greater]; omega⟩

/-- The part of the interval between two bounds, in either order, that lies in a domain. -/
def within (domain : RangeDomain) (first second : Bound) : RangeValue :=
  let range := between first second
  ⟨domain.clamp range.min, domain.clamp range.max,
    domain.clamp_le_clamp range.min_le_max⟩

def full (domain : RangeDomain) : RangeValue := ⟨domain.lo, domain.hi, domain.lo_le_hi⟩

def isFull (domain : RangeDomain) (range : RangeValue) : Bool :=
  range.min = domain.lo && range.max = domain.hi

def setMin (domain : RangeDomain) (bound : Bound) (range : RangeValue) : RangeValue :=
  ⟨(domain.clamp bound).lesser range.max, range.max, by rw [Bound.val_lesser]; omega⟩

def setMax (domain : RangeDomain) (bound : Bound) (range : RangeValue) : RangeValue :=
  ⟨range.min, (domain.clamp bound).greater range.min, by rw [Bound.val_greater]; omega⟩

def toJson (range : RangeValue) : Json :=
  .record [("min", range.min.toJson), ("max", range.max.toJson)]

def ofJson? (value : Json) : Option RangeValue :=
  match value.fields? ["min", "max"] .ignored with
  | some [min, max] => do
    let first ← Json.required Bound.ofJson? min
    let second ← Json.required Bound.ofJson? max
    some (between first second)
  | _ => none

end RangeValue

end MediaFilter
