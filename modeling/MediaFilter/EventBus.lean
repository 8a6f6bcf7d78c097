/-!
A bus that carries every event to all who listen when it is sent.  A listener is a position in the
history of events.  Only the last events are kept for it, as many as the bus holds; one that is
further behind first hears how many it missed and goes on with the oldest kept.
-/

namespace MediaFilter

structure EventBus (α : Type) where
  capacity : Nat
  history : Array α
  listeners : Nat

inductive Heard (α : Type) where
  | event (event : α)
  | lagged (missed : Nat)
  | nothing

namespace EventBus

/-- The events that fit are a power of two, at least as many as asked for. -/
def withCapacity (capacity : Nat) : EventBus α := ⟨capacity.nextPowerOfTwo, #[], 0⟩

def defaultCapacity : Nat := 256

def subscribe (bus : EventBus α) : Nat × EventBus α :=
  (bus.history.size, { bus with listeners := bus.listeners + 1 })

def unsubscribe (bus : EventBus α) : EventBus α := { bus with listeners := bus.listeners - 1 }

/-- Without listeners an event is lost. -/
def emit (event : α) (bus : EventBus α) : EventBus α :=
  if bus.listeners = 0 then bus else { bus with history := bus.history.push event }

def receive (bus : EventBus α) (position : Nat) : Heard α × Nat :=
  if position + bus.capacity < bus.history.size then
    let oldest := bus.history.size - bus.capacity
    (.lagged (oldest - position), oldest)
  else
    match bus.history[position]? with
    | some event => (.event event, position + 1)
    | none => (.nothing, position)

end EventBus

end MediaFilter
