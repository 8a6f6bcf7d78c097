import MediaFilter.FilterName

/-!
Requests of which only the latest counts.  Each class of requests has one slot.  Beginning a request
cancels the one before it and gives out a ticket; a slot counts the requests it has seen since it
was last empty, so a ticket is told from others by a mark of its own and not by that count.
-/

namespace MediaFilter

inductive RequestClass where
  | filterValues
  | userLists
  | typeahead (filter : FilterName)
  | tablePage
  deriving DecidableEq, Repr

structure Ticket where
  cls : RequestClass
  generation : Nat
  mark : Nat
  deriving DecidableEq, Repr

structure RequestSlots where
  /-- The ticket that holds each slot, one for a class. -/
  held : List Ticket
  cancelled : List Nat
  nextMark : Nat
  deriving Repr

namespace RequestSlots

def empty : RequestSlots := ⟨[], [], 0⟩

def holder? (slots : RequestSlots) (cls : RequestClass) : Option Ticket :=
  slots.held.find? fun ticket => ticket.cls == cls

def inFlight (slots : RequestSlots) (cls : RequestClass) : Bool := (slots.holder? cls).isSome

def isCancelled (slots : RequestSlots) (ticket : Ticket) : Bool :=
  slots.cancelled.contains ticket.mark

def release (cls : RequestClass) (slots : RequestSlots) : RequestSlots :=
  { slots with held := slots.held.filter fun ticket => ticket.cls != cls }

def cancel (cls : RequestClass) (slots : RequestSlots) : RequestSlots :=
  let marks := (slots.held.filter fun ticket => ticket.cls == cls).map Ticket.mark
  { slots.release cls with cancelled := marks ++ slots.cancelled }

def cancelAll (slots : RequestSlots) : RequestSlots :=
  { slots with held := [], cancelled := slots.held.map Ticket.mark ++ slots.cancelled }

def nextTicket (slots : RequestSlots) (cls : RequestClass) : Ticket :=
  { cls
    generation := (slots.holder? cls).elim 1 fun ticket => ticket.generation + 1
    mark := slots.nextMark }

def start (cls : RequestClass) (slots : RequestSlots) : RequestSlots :=
  let rest := slots.cancel cls
  { rest with held := slots.nextTicket cls :: rest.held, nextMark := slots.nextMark + 1 }

/-- Whether a ticket is that of the latest request of its class, still in flight. -/
def isCurrent (slots : RequestSlots) (ticket : Ticket) : Bool :=
  !slots.isCancelled ticket &&
    (slots.holder? ticket.cls).any fun held => held.generation == ticket.generation

/-- Gives the slot back, if the ticket is current. -/
def finish (ticket : Ticket) (slots : RequestSlots) : RequestSlots :=
  if slots.isCurrent ticket then slots.release ticket.cls else slots

/-- A reply that takes a while comes through unless the ticket was cancelled before. -/
def run? (slots : RequestSlots) (ticket : Ticket) (reply : α) : Option α :=
  if slots.isCancelled ticket then none else some reply

end RequestSlots

end MediaFilter
