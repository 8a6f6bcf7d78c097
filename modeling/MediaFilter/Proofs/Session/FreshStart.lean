import MediaFilter.Proofs.Session.Silence

/-!
The choice of an entity type starts afresh.  Two sessions that agree on the user, the settings and
what is stored for the entity type cannot be told apart afterwards, whatever they went through
before, and no edit from before is announced or stored any more.
-/

namespace MediaFilter

/-! What can be told from outside.  The marks of the tickets, by which a session knows its requests
apart, are not seen. -/

/-- The slots that are held, with the counts of their tickets. -/
def RequestSlots.outline (slots : RequestSlots) : List (RequestClass × Nat) :=
  slots.held.map fun ticket => (ticket.cls, ticket.generation)

namespace Effect

def unmarked : Effect → Effect
  | .requested ticket call => .requested ⟨ticket.cls, ticket.generation, 0⟩ call
  | effect => effect

def asking? : Effect → Option (RequestClass × Nat × BackendCall)
  | .requested ticket call => some (ticket.cls, ticket.generation, call)
  | _ => none

theorem event?_unmarked (effect : Effect) : effect.unmarked.event? = effect.event? := by
  cases effect <;> rfl

theorem asking?_unmarked (effect : Effect) : effect.unmarked.asking? = effect.asking? := by
  cases effect <;> rfl

theorem filterMap_unmarked {α : Type} {tell : Effect → Option α}
    (same : ∀ effect, tell effect.unmarked = tell effect) (effects : List Effect) :
    (effects.map unmarked).filterMap tell = effects.filterMap tell := by
  rw [List.filterMap_map]
  exact congrArg (fun tell => effects.filterMap tell) (funext same)

end Effect

/-- All of a session but the store, the marks of its requests and the pause that it was set up
with. -/
structure SessionView where
  bindings : Option Bindings
  state : NotifierState
  announced : Option String
  deadline : Option Nat
  restored : Expression
  context : QueryContext
  userName : Option String
  grouping : TagGrouping
  forceReload : Bool
  outline : List (RequestClass × Nat)

namespace Session

def view (session : Session) : SessionView where
  bindings := session.bindings
  state := session.notifier.state
  announced := session.notifier.announced
  deadline := session.notifier.deadline
  restored := session.restored
  context := session.context
  userName := session.userName
  grouping := session.grouping
  forceReload := session.forceReload
  outline := session.slots.outline

structure Matching (left right : Acted Session) : Prop where
  view : left.result.view = right.result.view
  trace : left.trace.map Effect.unmarked = right.trace.map Effect.unmarked

theorem Matching.andThen {left right : Acted Session} {next : Session → Acted Session}
    (first : Matching left right)
    (alike : ∀ {left right : Session}, left.view = right.view →
      Matching (next left) (next right)) : Matching (left.andThen next) (right.andThen next) := by
  have second := alike first.view
  refine ⟨second.view, ?_⟩
  rw [Traced.trace_andThen, Traced.trace_andThen, List.map_append, List.map_append, first.trace,
    second.trace]

end Session

namespace RequestSlots

theorem generation_nextTicket (slots : RequestSlots) (cls : RequestClass) :
    (slots.nextTicket cls).generation =
      (slots.outline.find? fun held => held.1 == cls).elim 1 fun held => held.2 + 1 := by
  have holder : (slots.outline.find? fun held => held.1 == cls) =
      (slots.holder? cls).map fun ticket => (ticket.cls, ticket.generation) := List.find?_map ..
  rw [holder, nextTicket]
  cases slots.holder? cls <;> rfl

theorem outline_start (slots : RequestSlots) (cls : RequestClass) :
    (slots.start cls).outline =
      (cls, (slots.nextTicket cls).generation) ::
        slots.outline.filter fun held => held.1 != cls := by
  unfold outline
  rw [List.filter_map]
  rfl

end RequestSlots

namespace Session

variable {left right : Session}

theorem matching_request (same : left.view = right.view) (cls : RequestClass)
    (call : BackendCall) : Matching (left.request cls call) (right.request cls call) := by
  have outline : left.slots.outline = right.slots.outline := congrArg SessionView.outline same
  have generation : (left.slots.nextTicket cls).generation =
      (right.slots.nextTicket cls).generation := by
    rw [RequestSlots.generation_nextTicket, RequestSlots.generation_nextTicket, outline]
  constructor
  · have started : (left.slots.start cls).outline = (right.slots.start cls).outline := by
      rw [RequestSlots.outline_start, RequestSlots.outline_start, generation, outline]
    calc (left.request cls call).result.view
        = { left.view with outline := (left.slots.start cls).outline } := rfl
      _ = { right.view with outline := (right.slots.start cls).outline } := by rw [same, started]
      _ = (right.request cls call).result.view := rfl
  · exact congrArg (fun generation => [Effect.requested ⟨cls, generation, 0⟩ call]) generation

theorem matching_fetchUserLists (same : left.view = right.view) :
    Matching left.fetchUserLists right.fetchUserLists := by
  have entity : left.entity? = right.entity? :=
    congrArg (fun view => view.bindings.map Bindings.entity) same
  have userName : left.userName = right.userName := congrArg SessionView.userName same
  have forced : left.forceReload = right.forceReload := congrArg SessionView.forceReload same
  unfold fetchUserLists
  rw [entity, userName]
  split
  · split
    · rw [forced]
      have unforced : { left.view with userName := right.userName, forceReload := false } =
          { right.view with forceReload := false } := by
        rw [same]
        rfl
      exact matching_request unforced _ _
    · exact ⟨same, rfl⟩
  · exact ⟨same, rfl⟩

theorem matching_restore (userName : left.userName = right.userName)
    (grouping : left.grouping = right.grouping) (forced : left.forceReload = right.forceReload)
    (restored : left.restored = right.restored) (outline : left.slots.outline = right.slots.outline)
    (bindings : Bindings) : Matching (left.restore bindings) (right.restore bindings) := by
  have shown : ∀ session : Session, (session.restore bindings).result.view =
      { bindings := some bindings, state := .idle, announced := some bindings.build.print
        deadline := none, restored := session.restored
        context := ⟨some bindings.entity, session.userName.getD "", bindings.build⟩
        userName := session.userName, grouping := session.grouping
        forceReload := session.forceReload, outline := session.slots.outline } := fun _ => rfl
  have told : ∀ session : Session, (session.restore bindings).trace.map Effect.unmarked =
      [.published ⟨some bindings.entity, session.userName.getD "", bindings.build⟩,
        .emitted (.filtersRestored bindings.entity bindings.build)] := fun _ => rfl
  constructor
  · rw [shown, shown, userName, grouping, forced, restored, outline]
  · rw [told, told, userName]

theorem filterMap_leave {α : Type} {tell : Effect → Option α}
    (drew : ∀ call, tell (.drew call) = none) (session : Session) :
    session.leave.trace.filterMap tell = [] := by
  rw [leave, List.filterMap_map]
  exact List.filterMap_eq_nil_iff.2 fun call _ => drew call

def present (entity : EntityType) (stored : Expression) (bindings : Bindings)
    (session : Session) : Acted Session :=
  ({ session with restored := stored }.restore bindings).andThen fun session =>
    (fetchChoices entity session).andThen fetchUserLists

theorem matching_present (userName : left.userName = right.userName)
    (grouping : left.grouping = right.grouping) (forced : left.forceReload = right.forceReload)
    (outline : left.slots.outline = right.slots.outline) (entity : EntityType)
    (stored : Expression) (bindings : Bindings) :
    Matching (left.present entity stored bindings) (right.present entity stored bindings) := by
  have restored := @matching_restore { left with restored := stored }
    { right with restored := stored }
    userName grouping forced rfl outline bindings
  exact restored.andThen fun same =>
    (matching_request same .filterValues (.choices entity)).andThen matching_fetchUserLists

theorem switchEntity_eq_present {session : Session} {entity : EntityType}
    {loaded : Acted Expression} {drawn : Drawn Bindings} (loads : session.load entity = loaded)
    (draws : Bindings.bind entity loaded.result session.grouping = drawn) :
    session.switchEntity entity =
      (⟨{ session with slots := session.slots.cancelAll },
        session.leave.trace ++ (loaded.trace ++ drawn.trace.map .drew)⟩ : Acted Session).andThen
        (present entity loaded.result drawn.result.subscribeAll) := by
  subst loads draws
  rw [switchEntity_eq, ← List.append_assoc]
  simp only [Traced.andThen_assoc]
  rfl

theorem matching_switchEntity {entity : EntityType} (userName : left.userName = right.userName)
    (grouping : left.grouping = right.grouping) (forced : left.forceReload = right.forceReload)
    (same : left.store.load entity.storageKey = right.store.load entity.storageKey) :
    (left.switchEntity entity).result.view = (right.switchEntity entity).result.view ∧
      ∃ common, (left.switchEntity entity).trace.map Effect.unmarked =
          left.leave.trace ++ common ∧
        (right.switchEntity entity).trace.map Effect.unmarked = right.leave.trace ++ common := by
  have loads : left.load entity = right.load entity := by
    unfold load
    rw [same]
  have draws : Bindings.bind entity (right.load entity).result left.grouping =
      Bindings.bind entity (right.load entity).result right.grouping := by
    rw [grouping]
  have destroyed : ∀ session : Session,
      session.leave.trace.map Effect.unmarked = session.leave.trace := by
    intro session
    rw [leave, List.map_map]
    rfl
  rw [switchEntity_eq_present loads draws, switchEntity_eq_present rfl rfl]
  generalize right.load entity = loaded
  generalize Bindings.bind entity loaded.result right.grouping = drawn
  obtain ⟨view, trace⟩ := @matching_present { left with slots := left.slots.cancelAll }
    { right with slots := right.slots.cancelAll } userName grouping forced rfl entity
    loaded.result drawn.result.subscribeAll
  refine ⟨view, (loaded.trace ++ drawn.trace.map Effect.drew).map Effect.unmarked ++
    (present entity loaded.result drawn.result.subscribeAll
      { right with slots := right.slots.cancelAll }).trace.map Effect.unmarked, ?_, ?_⟩
  · rw [Traced.trace_andThen, List.map_append, List.map_append, destroyed, List.append_assoc]
    exact congrArg (fun rest => left.leave.trace ++ (_ ++ rest)) trace
  · rw [Traced.trace_andThen, List.map_append, List.map_append, destroyed, List.append_assoc]

end Session

namespace World

/-- Whether an input stores nothing and announces no change, neither at once nor later, as long as
only what is calm happens. -/
def Forgets (world : World) (input : Input) : Prop :=
  (world.session.respond input).result.store = world.session.store ∧
    ∀ after, Step world (.responded world.session input) after →
      ∀ later last, Steps after later last → (∀ occurrence ∈ later, occurrence.Calm) →
        (∀ occurrence ∈ .responded world.session input :: later,
          ∀ effect ∈ occurrence.effects, effect.change? = none ∧ effect.attempt? = none) ∧
        last.session.store.memory = world.session.store.memory

theorem Reaches.forgets {config : SessionConfig} {store : FaultyStore}
    {history : List Occurrence} {world : World} (reached : Reaches config store history world)
    (now : Nat) (entity : EntityType) : world.Forgets (.command now (.switchEntity entity)) := by
  have rests := Session.rests_switchEntity world.session entity
  have unstored : (world.session.switchEntity entity).result.store = world.session.store := by
    obtain ⟨slots, forceReload, bindings, _, opened⟩ :=
      Session.result_switchEntity world.session entity
    rw [opened]
  refine ⟨unstored, fun after step later last steps calm => ?_⟩
  have resting : after.session.Resting := by
    cases step with
    | respond own => exact Session.resting_switchEntity world.session entity
  have memory : after.session.store.memory = world.session.store.memory := by
    cases step with
    | respond own => exact rests.memory
  obtain ⟨_, tacit, kept⟩ := (reached.step step).resting resting steps calm
  refine ⟨fun occurrence member => Occurrence.Tacit.silent ?_, kept.trans memory⟩
  rcases List.mem_cons.1 member with rfl | isLater
  · exact ⟨rests.changes, rests.attempts⟩
  · exact tacit occurrence isLater

/-- Two sessions of the same user and with the same settings, which find the same stored for an
entity type, cannot be told apart once it is chosen: they emit the same events, make the same
requests and are in the same state.  But for the old widgets, which are destroyed, all their effects
are the same.  What was typed before is neither announced nor stored any more. -/
theorem switch_forgets {config otherConfig : SessionConfig} {store otherStore : FaultyStore}
    {history otherHistory : List Occurrence} {left right : World}
    (leftReached : Reaches config store history left)
    (rightReached : Reaches otherConfig otherStore otherHistory right) {entity : EntityType}
    (userName : left.session.userName = right.session.userName)
    (grouping : left.session.grouping = right.session.grouping)
    (forced : left.session.forceReload = right.session.forceReload)
    (same : left.session.store.load entity.storageKey = right.session.store.load entity.storageKey)
    (now later : Nat) :
    let first := left.session.respond (.command now (.switchEntity entity))
    let second := right.session.respond (.command later (.switchEntity entity))
    first.trace.filterMap Effect.event? = second.trace.filterMap Effect.event? ∧
    first.trace.filterMap Effect.asking? = second.trace.filterMap Effect.asking? ∧
    first.result.view = second.result.view ∧
    (∃ common, first.trace.map Effect.unmarked = left.session.leave.trace ++ common ∧
      second.trace.map Effect.unmarked = right.session.leave.trace ++ common) ∧
    left.Forgets (.command now (.switchEntity entity)) ∧
    right.Forgets (.command later (.switchEntity entity)) := by
  intro first second
  obtain ⟨view, common, leftTrace, rightTrace⟩ :=
    Session.matching_switchEntity userName grouping forced same
  have told : ∀ {α : Type} (tell : Effect → Option α),
      (∀ effect, tell effect.unmarked = tell effect) → (∀ call, tell (.drew call) = none) →
      first.trace.filterMap tell = second.trace.filterMap tell := by
    intro α tell unmarked drew
    calc first.trace.filterMap tell
        = (left.session.leave.trace ++ common).filterMap tell := by
          rw [← leftTrace, Effect.filterMap_unmarked unmarked]
          rfl
      _ = (right.session.leave.trace ++ common).filterMap tell := by
          rw [List.filterMap_append, List.filterMap_append, Session.filterMap_leave drew,
            Session.filterMap_leave drew]
      _ = second.trace.filterMap tell := by
          rw [← rightTrace, Effect.filterMap_unmarked unmarked]
          rfl
  exact ⟨told Effect.event? Effect.event?_unmarked fun _ => rfl,
    told Effect.asking? Effect.asking?_unmarked fun _ => rfl, view,
    ⟨common, leftTrace, rightTrace⟩, leftReached.forgets now entity,
    rightReached.forgets later entity⟩

def typing : World :=
  let opened := (Session.start (.initial []) (.sound .empty)).respond
    (.command 0 (.switchEntity .anime))
  let typed := opened.result.respond (.command 5 (.edit .titleLike (.write "Mushishi")))
  ⟨typed.result, Effect.requests opened.trace ++ Effect.requests typed.trace, []⟩

def typingOfTitle : List Occurrence :=
  let session := Session.start (.initial []) (.sound .empty)
  let choice := Input.command 0 (.switchEntity .anime)
  [.responded session choice, .responded (session.respond choice).result
    (.command 5 (.edit .titleLike (.write "Mushishi")))]

theorem switch_forgets_of_typing :
    let fresh : World := ⟨.start (.initial []) (.sound .empty), [], []⟩
    let first := typing.session.respond (.command 6 (.switchEntity .character))
    let second := fresh.session.respond (.command 0 (.switchEntity .character))
    typing.session.notifier.state = .debouncing ∧
      Reaches (.initial []) (.sound .empty) typingOfTitle typing ∧
      Reaches (.initial []) (.sound .empty) [] fresh ∧
      first.trace.filterMap Effect.asking? = second.trace.filterMap Effect.asking? ∧
      first.result.view = second.result.view ∧
      typing.Forgets (.command 6 (.switchEntity .character)) := by
  have reached : Reaches (.initial []) (.sound .empty) typingOfTitle typing :=
    .step (.step .start (.respond rfl _)) (.respond rfl _)
  have begun : Reaches (.initial []) (.sound .empty) []
      ⟨.start (.initial []) (.sound .empty), [], []⟩ := .start
  have same : typing.session.store.load EntityType.character.storageKey =
      (FaultyStore.sound .empty).load EntityType.character.storageKey := rfl
  obtain ⟨_, requests, view, _, forgets, _⟩ :=
    switch_forgets reached begun rfl rfl rfl same 6 0
  exact ⟨rfl, reached, begun, requests, view, forgets⟩

end World

end MediaFilter
