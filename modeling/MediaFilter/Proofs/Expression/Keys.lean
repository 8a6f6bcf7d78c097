import MediaFilter.Definition

/-!
The keys of clauses tell the filters apart: no two filters have a key in common, and no filter has
the same key twice.
-/

namespace MediaFilter.FilterName

def keys (name : FilterName) : List String := [name.wire, name.minKey, name.maxKey]

theorem ofWire?_wire (name : FilterName) : ofWire? name.wire = some name := by
  cases name <;> decide

theorem wire_inj {first second : FilterName} (equal : first.wire = second.wire) :
    first = second := by
  have found := ofWire?_wire first
  rw [equal, ofWire?_wire] at found
  exact (Option.some.inj found).symm

def ending (key : String) : List Char := key.toList.reverse.take 3

theorem ending_minKey (name : FilterName) : ending name.minKey = ['n', 'i', 'M'] := by
  simp [ending, minKey, String.toList_append]

theorem ending_maxKey (name : FilterName) : ending name.maxKey = ['x', 'a', 'M'] := by
  simp [ending, maxKey, String.toList_append]

theorem ending_wire (name : FilterName) :
    ending name.wire ≠ ['n', 'i', 'M'] ∧ ending name.wire ≠ ['x', 'a', 'M'] := by
  cases name <;> decide

theorem wire_ne_minKey (first second : FilterName) : first.wire ≠ second.minKey := by
  intro equal
  exact (ending_wire first).1 (equal ▸ ending_minKey second)

theorem wire_ne_maxKey (first second : FilterName) : first.wire ≠ second.maxKey := by
  intro equal
  exact (ending_wire first).2 (equal ▸ ending_maxKey second)

theorem minKey_ne_maxKey (first second : FilterName) : first.minKey ≠ second.maxKey := by
  intro equal
  have endings := ending_minKey first
  rw [equal, ending_maxKey] at endings
  exact absurd endings (by decide)

theorem minKey_inj {first second : FilterName} (equal : first.minKey = second.minKey) :
    first = second :=
  wire_inj (String.append_left_inj "Min" |>.1 equal)

theorem maxKey_inj {first second : FilterName} (equal : first.maxKey = second.maxKey) :
    first = second :=
  wire_inj (String.append_left_inj "Max" |>.1 equal)

theorem eq_of_mem_keys {first second : FilterName} {key : String} (ofFirst : key ∈ first.keys)
    (ofSecond : key ∈ second.keys) : first = second := by
  simp only [keys, List.mem_cons, List.not_mem_nil, or_false] at ofFirst ofSecond
  rcases ofFirst with rfl | rfl | rfl
  · rcases ofSecond with equal | equal | equal
    · exact wire_inj equal
    · exact absurd equal (wire_ne_minKey first second)
    · exact absurd equal (wire_ne_maxKey first second)
  · rcases ofSecond with equal | equal | equal
    · exact absurd equal.symm (wire_ne_minKey second first)
    · exact minKey_inj equal
    · exact absurd equal (minKey_ne_maxKey first second)
  · rcases ofSecond with equal | equal | equal
    · exact absurd equal.symm (wire_ne_maxKey second first)
    · exact absurd equal.symm (minKey_ne_maxKey second first)
    · exact maxKey_inj equal

end MediaFilter.FilterName
