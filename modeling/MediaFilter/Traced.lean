/-!
Results that come together with a trace: what was done on the way to them, in its order.
-/

namespace MediaFilter

structure Traced (ε α : Type) where
  result : α
  trace : List ε
  deriving Repr

namespace Traced

def still (result : α) : Traced ε α := ⟨result, []⟩

def map (f : α → β) (traced : Traced ε α) : Traced ε β := ⟨f traced.result, traced.trace⟩

def andThen (traced : Traced ε α) (next : α → Traced ε β) : Traced ε β :=
  let more := next traced.result
  ⟨more.result, traced.trace ++ more.trace⟩

/-- One after the other along a list. -/
def each (f : α → Traced ε β) (values : List α) : Traced ε (List β) :=
  ⟨values.map fun value => (f value).result, values.flatMap fun value => (f value).trace⟩

/-- The same with every step told in other words. -/
def relabel (f : ε → δ) (traced : Traced ε α) : Traced δ α :=
  ⟨traced.result, traced.trace.map f⟩

@[simp] theorem result_still (result : α) : (still (ε := ε) result).result = result := rfl

@[simp] theorem trace_still (result : α) : (still (ε := ε) result).trace = [] := rfl

@[simp] theorem result_map (f : α → β) (traced : Traced ε α) :
    (traced.map f).result = f traced.result := rfl

@[simp] theorem trace_map (f : α → β) (traced : Traced ε α) :
    (traced.map f).trace = traced.trace := rfl

@[simp] theorem result_andThen (traced : Traced ε α) (next : α → Traced ε β) :
    (traced.andThen next).result = (next traced.result).result := rfl

@[simp] theorem trace_andThen (traced : Traced ε α) (next : α → Traced ε β) :
    (traced.andThen next).trace = traced.trace ++ (next traced.result).trace := rfl

@[simp] theorem result_each (f : α → Traced ε β) (values : List α) :
    (each f values).result = values.map fun value => (f value).result := rfl

@[simp] theorem trace_each (f : α → Traced ε β) (values : List α) :
    (each f values).trace = values.flatMap fun value => (f value).trace := rfl

@[simp] theorem result_relabel (f : ε → δ) (traced : Traced ε α) :
    (traced.relabel f).result = traced.result := rfl

@[simp] theorem trace_relabel (f : ε → δ) (traced : Traced ε α) :
    (traced.relabel f).trace = traced.trace.map f := rfl

theorem andThen_assoc (traced : Traced ε α) (next : α → Traced ε β) (last : β → Traced ε γ) :
    (traced.andThen next).andThen last =
      traced.andThen fun value => (next value).andThen last := by
  simp only [andThen, List.append_assoc]

end Traced

end MediaFilter
