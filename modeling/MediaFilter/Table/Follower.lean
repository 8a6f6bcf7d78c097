import MediaFilter.Event
import MediaFilter.EventBus
import MediaFilter.Table

/-!
A follower of a table: it hears the events of a session one by one and shows the first page anew
whenever the filters of the current entity type were restored or changed.  While a page is on its
way it hears nothing, so no event is lost to it but those that the bus drops.
-/

namespace MediaFilter

inductive Follower where
  | listening (position : Nat)
  | loading (position : Nat) (load : PageLoad)
  | stopped

namespace Follower

/-- Whether an event calls for another page. -/
def isCalled (context : QueryContext) (event : Event) : Bool :=
  event.isRedraw && event.entity? == context.entity

def hear? (bus : EventBus Event) (context : QueryContext) (table : Table) (position : Nat) :
    Option (Follower × Table) :=
  match bus.receive position with
  | (.nothing, _) => none
  | (.lagged _, position) => some (.listening position, table)
  | (.event event, position) =>
    if isCalled context event then
      match table.begin context 0 with
      | .ok (load, table) => some (.loading position load, table)
      | .error _ => some (.listening position, table)
    else some (.listening position, table)

/-- Goes on after a page was loaded.  Where nobody takes the page any more, that is the end. -/
def resume (position : Nat) (isTaken : Bool) : Loaded → Follower
  | .page _ => if isTaken then .listening position else .stopped
  | _ => .listening position

end Follower

end MediaFilter
