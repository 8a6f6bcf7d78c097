import MediaFilter.Backend.Call
import MediaFilter.Bindings
import MediaFilter.Event
import MediaFilter.Notifier
import MediaFilter.QueryContext
import MediaFilter.Request.Slots
import MediaFilter.Session.Config
import MediaFilter.Store.Memory

/-!
A session: the filters of one entity type, bound to widgets, with the user whose lists they offer.
A changed expression is stored, published as the context of the list, and announced, in this order.
-/

namespace MediaFilter

/-- What a session does besides changing its own state. -/
inductive Effect where
  | drew (call : ViewCall)
  | requested (ticket : Ticket) (call : BackendCall)
  /-- The attempt to store a text, and whether the store took it. -/
  | stored (entity : EntityType) (text : String) (accepted : Bool)
  | published (context : QueryContext)
  | emitted (event : Event)

abbrev Acted (α : Type) := Traced Effect α

structure Session where
  slots : RequestSlots
  notifier : Notifier
  grouping : TagGrouping
  bindings : Option Bindings
  /-- What was stored for the entity type when it was chosen. -/
  restored : Expression
  userName : Option String
  forceReload : Bool
  /-- The context that was published last. -/
  context : QueryContext
  store : FaultyStore

structure SessionSnapshot where
  entity : Option EntityType
  userName : Option String
  state : NotifierState
  expression : Expression
  widgets : List WidgetSnapshot

namespace Session

def start (config : SessionConfig) (store : FaultyStore) : Session :=
  { slots := .empty
    notifier := .start config.debounce
    grouping := config.grouping
    bindings := none
    restored := .empty
    userName := none
    forceReload := false
    context := .initial
    store }

def entity? (session : Session) : Option EntityType :=
  session.bindings.map fun bindings => bindings.entity

def expression (session : Session) : Expression :=
  session.bindings.elim .empty fun bindings => bindings.build

def snapshot (session : Session) : SessionSnapshot :=
  { entity := session.entity?
    userName := session.userName
    state := session.notifier.state
    expression := session.expression
    widgets := session.bindings.elim [] fun bindings => bindings.widgets.map Widget.snapshot }

def emit (event : Event) (session : Session) : Acted Session := ⟨session, [.emitted event]⟩

def emitAll (events : List Event) (session : Session) : Acted Session :=
  ⟨session, events.map .emitted⟩

def publish (expression : Expression) (session : Session) : Acted Session :=
  let context := ⟨session.entity?, session.userName.getD "", expression⟩
  ⟨{ session with context }, [.published context]⟩

/-- A text that cannot be stored is announced all the same. -/
def save (entity : EntityType) (text : String) (session : Session) : Acted Session :=
  match session.store.save entity.storageKey text with
  | .ok store => ⟨{ session with store }, [.stored entity text true]⟩
  | .error error =>
    ⟨session, [.stored entity text false,
      .emitted (.failure ("Failed to save filters: " ++ error.message))]⟩

/-- Stores, publishes and announces what the widgets stand for, if it is not what was announced
last. -/
def evaluate (session : Session) : Acted Session :=
  match session.bindings with
  | none => .still session
  | some bindings =>
    match session.notifier.evaluate bindings.build with
    | (none, notifier) => .still { session with notifier }
    | (some text, notifier) =>
      (({ session with notifier }.save bindings.entity text).andThen
          (publish bindings.build)).andThen
        (emit (.filterChanged bindings.entity bindings.build))

/-- Takes what the widgets stand for as announced, without a word about it. -/
def adopt (bindings : Bindings) (session : Session) : Acted Session :=
  { session with
      notifier := session.notifier.adopt bindings.build
      bindings := some bindings }.publish bindings.build

/-- The same for filters that have just been restored. -/
def restore (bindings : Bindings) (session : Session) : Acted Session :=
  (session.adopt bindings).andThen (emit (.filtersRestored bindings.entity bindings.build))

def draw (drawn : Drawn α) (next : α → Acted β) : Acted β :=
  (drawn.relabel Effect.drew).andThen next

/-! Requests.  The latest of a class cancels those before it. -/

def request (cls : RequestClass) (call : BackendCall) (session : Session) : Acted Session :=
  ⟨{ session with slots := session.slots.start cls },
    [.requested (session.slots.nextTicket cls) call]⟩

def fetchChoices (entity : EntityType) (session : Session) : Acted Session :=
  session.request .filterValues (.choices entity)

/-- Asks for the lists of the user, if there is one and records of the entity type are kept in
lists.  A reload that was due is forced now. -/
def fetchUserLists (session : Session) : Acted Session :=
  match session.entity?, session.userName with
  | some entity, some userName =>
    if entity.isMedia then
      { session with forceReload := false }.request .userLists
        (.userLists userName entity session.forceReload)
    else .still session
  | _, _ => .still session

/-! Leaving an entity type, for another one or for good. -/

/-- Drops the widgets and all that is pending. -/
def leave (session : Session) : Acted Session :=
  ⟨{ session with
      slots := session.slots.cancelAll
      notifier := session.notifier.reset
      bindings := none },
    (session.bindings.elim [] fun bindings => bindings.destroy).map .drew⟩

def notRunning : Error := .internal "Filter session is not running"

def alreadyStopped : Error := .internal "Failed to send shutdown signal"

end Session

end MediaFilter
