import MediaFilter.Session

/-!
The commands of a session.  One that cannot be carried out changes nothing and says why.
-/

namespace MediaFilter

inductive Command where
  | switchEntity (entity : EntityType)
  | setUserName (name : Option String)
  | reloadUserLists
  | edit (filter : FilterName) (edit : Edit)
  | query (filter : FilterName) (input : String)
  | setTagGrouping (grouping : TagGrouping)
  | clearFilters
  | settle

inductive Answer where
  | done
  | edited (changed : Bool)
  deriving DecidableEq, Repr

namespace Session

/-- What is stored for an entity type, or nothing if that cannot be read. -/
def load (entity : EntityType) (session : Session) : Acted Expression :=
  match session.store.load entity.storageKey with
  | .ok none => .still .empty
  | .ok (some text) => .still ((Expression.read? text).getD .empty)
  | .error error =>
    ⟨.empty, [.emitted (.failure ("Failed to load saved filters: " ++ error.message))]⟩

/-- Binds the filters of an entity type to what was stored. -/
def enter (entity : EntityType) (restored : Expression) (session : Session) : Acted Session :=
  draw (Bindings.bind entity restored session.grouping) fun bindings =>
    { session with restored := restored }.restore bindings.subscribeAll

def switchEntity (entity : EntityType) (session : Session) : Acted Session :=
  session.leave.andThen fun session =>
    (session.load entity).andThen fun restored =>
      ((session.enter entity restored).andThen (fetchChoices entity)).andThen fetchUserLists

/-- Removes the picker of user lists and announces what is left. -/
def unbindUserLists (session : Session) : Acted Session :=
  match session.bindings with
  | none => .still session
  | some bindings =>
    draw (bindings.unbind .userList) fun unbound =>
      if unbound.2 then { session with bindings := some unbound.1 }.evaluate
      else .still session

/-- A blank name is no name. -/
def effectiveName (name : Option String) : Option String :=
  (name.map Text.trimmed).filter fun name => !name.isEmpty

def setUserName (name : Option String) (session : Session) : Acted Session :=
  let name := effectiveName name
  if name = session.userName then .still session
  else
    ({ session with
        userName := name
        forceReload := false
        slots := session.slots.cancel .userLists }.unbindUserLists).andThen fun session =>
      (session.publish session.context.expression).andThen fetchUserLists

def unbound (filter : FilterName) : Error :=
  .notFound ("filter " ++ filter.wire ++ " is not bound")

/-- Takes note of one change, and announces it if that is not put off. -/
def noteChange (now : Nat) (session : Session) (change : Change) : Acted Session :=
  let (isUrgent, notifier) := session.notifier.onChange now change.commit
  if isUrgent then { session with notifier }.evaluate else .still { session with notifier }

def noteChanges (now : Nat) : List Change → Session → Acted Session
  | [], session => .still session
  | change :: changes, session =>
    (session.noteChange now change).andThen (noteChanges now changes)

def edit (now : Nat) (filter : FilterName) (edit : Edit) (session : Session) :
    Acted (Session × Except Error Answer) :=
  match session.bindings with
  | none => .still (session, .error .noEntity)
  | some bindings =>
    match bindings.edit? filter edit with
    | none => .still (session, .error (unbound filter))
    | some edited =>
      draw ⟨edited.bindings, edited.calls⟩ fun bindings =>
        ({ session with bindings := some bindings }.noteChanges now edited.changes).map
          fun session => (session, edited.outcome.mapError Refusal.error |>.map .edited)

def clearFilters (session : Session) : Acted (Session × Except Error Answer) :=
  match session.bindings with
  | none => .still (session, .error .noEntity)
  | some bindings =>
    draw bindings.clear fun cleared =>
      ({ session with bindings := some cleared.1 }.evaluate).map fun session =>
        (session, .ok .done)

/-- Does not wait for the deadline of a debounced edit. -/
def settle (session : Session) : Acted Session :=
  let (isDue, notifier) := session.notifier.onDeadline
  if isDue then { session with notifier }.evaluate else .still { session with notifier }

/-! Queries: lookups while the user types, and years in short. -/

def queryYears (bindings : Bindings) (input : String) (session : Session) :
    Acted (Session × Except Error Answer) :=
  draw (bindings.offerYears input) fun offered =>
    match offered.2 with
    | none => .still (session, .error (unbound .year))
    | some count =>
      ({ session with bindings := some offered.1 }.emit
        (.whitelistUpdated bindings.entity .year count)).map fun session =>
          (session, .ok .done)

/-- Starts a lookup, or gives up the one before if there is nothing to look up. -/
def lookUp (bindings : Bindings) (filter : FilterName) (source : TypeaheadSource)
    (input : String) (session : Session) : Acted Session :=
  let isBlank := (Text.trim input.toList).isEmpty
  draw (bindings.update filter fun widget => widget.setLoading !isBlank) fun bindings =>
    let session := { session with bindings := some bindings }
    if isBlank then .still { session with slots := session.slots.cancel (.typeahead filter) }
    else session.request (.typeahead filter) (.suggestions source input)

def query (filter : FilterName) (input : String) (session : Session) :
    Acted (Session × Except Error Answer) :=
  match session.bindings with
  | none => .still (session, .error .noEntity)
  | some bindings =>
    if filter = .year then session.queryYears bindings input
    else
      match bindings.get? filter with
      | none => .still (session, .error (unbound filter))
      | some widget =>
        match widget.definition.typeahead? with
        | none =>
          .still (session,
            .error (.invalidInput ("filter " ++ filter.wire ++ " has no typeahead lookup")))
        | some source =>
          (session.lookUp bindings filter source input).map fun session => (session, .ok .done)

def setTagGrouping (grouping : TagGrouping) (session : Session) : Acted Session :=
  let session := { session with grouping := grouping }
  match session.bindings with
  | none => .still session
  | some bindings =>
    draw (bindings.setTagGrouping grouping) fun regrouped =>
      { session with bindings := some regrouped.1 }.emitAll
        (regrouped.2.toList.map fun count => .whitelistUpdated bindings.entity .tag count)

def finished (acted : Acted Session) : Acted (Session × Except Error Answer) :=
  acted.map fun session => (session, .ok .done)

def handle (now : Nat) (command : Command) (session : Session) :
    Acted (Session × Except Error Answer) :=
  match command with
  | .switchEntity entity => finished (session.switchEntity entity)
  | .setUserName name => finished (session.setUserName name)
  | .reloadUserLists => finished session.fetchUserLists
  | .edit filter edit => session.edit now filter edit
  | .query filter input => session.query filter input
  | .setTagGrouping grouping => finished (session.setTagGrouping grouping)
  | .clearFilters => session.clearFilters
  | .settle => finished session.settle

def onDeadline (session : Session) : Acted Session := session.settle

end Session

end MediaFilter
