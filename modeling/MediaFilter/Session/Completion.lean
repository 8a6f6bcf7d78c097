import MediaFilter.Session

/-!
The replies that come back to a session.  One that was superseded or given up is passed over.
-/

namespace MediaFilter

inductive Completion where
  | choices (ticket : Ticket) (reply : Except Error Choices)
  | userLists (ticket : Ticket) (reply : Except Error UserListReply)
  | suggestions (filter : FilterName) (ticket : Ticket)
      (reply : Except Error (List WhitelistEntry))

def Completion.ticket : Completion → Ticket
  | .choices ticket _ => ticket
  | .userLists ticket _ => ticket
  | .suggestions _ ticket _ => ticket

namespace Session

/-- New choices are not an edit.  They are adopted in silence, unless an edit is still to be
announced. -/
def acceptChoices (reply : Except Error Choices) (session : Session) : Acted Session :=
  match session.bindings, reply with
  | none, _ => .still session
  | some _, .error error =>
    session.emit (.failure ("Failed to load filter values: " ++ error.message))
  | some bindings, .ok choices =>
    draw (bindings.accept choices) fun accepted =>
      ({ session with bindings := some accepted.1 }.emitAll
        (accepted.2.map fun (filter, count) =>
          .whitelistUpdated bindings.entity filter count)).andThen fun session =>
            if session.notifier.isPending then .still session else session.adopt accepted.1

def forceReloadHint : String := "Force reloading may take a bit of time."

def complaint (notice : Notice) : Event := .failure notice.message

def warning (notice : Notice) : Event :=
  .alert .warning notice.message (if notice.isTimeout then some forceReloadHint else none)

/-- A list that came too late is asked for with more force the next time. -/
def takeNotices (reply : UserListReply) (session : Session) : Acted Session :=
  { session with
      forceReload := session.forceReload || reply.warnings.any Notice.isTimeout }.emitAll
    (reply.errors.map complaint ++ reply.warnings.map warning)

/-- What is announced once the picker of user lists is bound.  If there was one before, only lists
that are gone can have changed the selection.  A new picker completes the restored filters, unless
an edit is still to be announced, which then covers it. -/
def announceUserLists (isFirst : Bool) (bindings : Bindings) (session : Session) :
    Acted Session :=
  if !isFirst then session.evaluate
  else if session.notifier.isPending then .still session
  else session.restore bindings

def bindUserLists (bindings : Bindings) (userLists : List UserList) (session : Session) :
    Acted Session :=
  draw (bindings.bindUserLists userLists session.restored true) fun bound =>
    match bound.2 with
    | none => .still session
    | some count =>
      ({ session with bindings := some bound.1 }.emit
        (.whitelistUpdated bindings.entity .userList count)).andThen
          (announceUserLists (bindings.get? .userList).isNone bound.1)

def acceptUserLists (reply : Except Error UserListReply) (session : Session) : Acted Session :=
  match reply with
  | .error error => session.emit (.failure ("Failed to load user lists: " ++ error.message))
  | .ok reply =>
    (session.takeNotices reply).andThen fun session =>
      match session.bindings with
      | none => .still session
      | some bindings => session.bindUserLists bindings reply.lists

def acceptSuggestions (filter : FilterName) (reply : Except Error (List WhitelistEntry))
    (session : Session) : Acted Session :=
  match session.bindings with
  | none => .still session
  | some bindings =>
    if (bindings.get? filter).isNone then .still session
    else
      draw (bindings.update filter fun widget => widget.setLoading false) fun bindings =>
        let session := { session with bindings := some bindings }
        match reply with
        | .error error => session.emit (.failure ("Lookup failed: " ++ error.message))
        | .ok entries =>
          draw (bindings.offer filter entries) fun offered =>
            { session with bindings := some offered.1 }.emit
              (.whitelistUpdated bindings.entity filter entries.length)

def accept (completion : Completion) (session : Session) : Acted Session :=
  match completion with
  | .choices _ reply => session.acceptChoices reply
  | .userLists _ reply => session.acceptUserLists reply
  | .suggestions filter _ reply => session.acceptSuggestions filter reply

/-- A reply counts only if its request is still the latest of its class. -/
def complete (completion : Completion) (session : Session) : Acted Session :=
  if session.slots.isCurrent completion.ticket then
    { session with slots := session.slots.finish completion.ticket }.accept completion
  else .still session

end Session

end MediaFilter
