/-!
One deadline that is put off by every arming: it lies a fixed window after the last one.
-/

namespace MediaFilter

structure Debouncer where
  window : Nat
  deadline : Option Nat
  deriving DecidableEq, Repr

namespace Debouncer

def idle (window : Nat) : Debouncer := ⟨window, none⟩

def arm (now : Nat) (debouncer : Debouncer) : Debouncer :=
  { debouncer with deadline := some (now + debouncer.window) }

def cancel (debouncer : Debouncer) : Debouncer := { debouncer with deadline := none }

def isArmed (debouncer : Debouncer) : Bool := debouncer.deadline.isSome

/-- Whether the deadline has come at a time. -/
def isDue (now : Nat) (debouncer : Debouncer) : Bool :=
  debouncer.deadline.any (· ≤ now)

/-- Whether someone who waits for at most so long sees the deadline, and when the wait ends. -/
def wait (now patience : Nat) (debouncer : Debouncer) : Bool × Nat :=
  match debouncer.deadline with
  | some deadline =>
    if deadline ≤ now + patience then (true, max now deadline) else (false, now + patience)
  | none => (false, now + patience)

end Debouncer

end MediaFilter
