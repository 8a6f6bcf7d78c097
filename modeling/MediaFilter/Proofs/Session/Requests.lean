import MediaFilter.Proofs.Session.Regularity

/-!
What a response does about requests: first it gives up those of some classes, then it makes new
ones.  A request is made for the entity type and the user that the session has in the end, and
whoever changes them gives it up.
-/

namespace MediaFilter

namespace Effect

def requests (effects : List Effect) : List Request := effects.filterMap request?

def tickets (effects : List Effect) : List Ticket := (requests effects).map Request.ticket

theorem requests_append (first second : List Effect) :
    requests (first ++ second) = requests first ++ requests second :=
  List.filterMap_append

theorem tickets_append (first second : List Effect) :
    tickets (first ++ second) = tickets first ++ tickets second := by
  rw [tickets, requests_append, List.map_append, ← tickets, ← tickets]

theorem requests_eq_nil {effects : List Effect}
    (none : ∀ effect ∈ effects, effect.request? = none) : requests effects = [] :=
  List.filterMap_eq_nil_iff.2 none

theorem tickets_eq_nil {effects : List Effect}
    (none : ∀ effect ∈ effects, effect.request? = none) : tickets effects = [] := by
  rw [tickets, requests_eq_nil none, List.map_nil]

end Effect

def Input.asks : Input → Bool
  | .command _ given => given.asks
  | _ => false

/-- Whether an input comes from without, rather than in answer to a request. -/
def Input.isOwn : Input → Bool
  | .completion _ => false
  | _ => true

namespace Session

/-- Whether a request is one that the session would still make. -/
inductive Asks (session : Session) : Request → Prop
  | choices {ticket : Ticket} {entity : EntityType} (cls : ticket.cls = .filterValues)
      (chosen : session.entity? = some entity) : Asks session ⟨ticket, .choices entity⟩
  | userLists {ticket : Ticket} {name : String} {entity : EntityType} {forced : Bool}
      (cls : ticket.cls = .userLists) (chosen : session.entity? = some entity)
      (user : session.userName = some name) (media : entity.isMedia = true) :
      Asks session ⟨ticket, .userLists name entity forced⟩
  | suggestions {ticket : Ticket} {filter : FilterName} {entity : EntityType}
      {source : TypeaheadSource} {text : String} (cls : ticket.cls = .typeahead filter)
      (chosen : session.entity? = some entity) (offered : filter ∈ entity.filterSet)
      (looksUp : filter.definition.typeahead? = some source) :
      Asks session ⟨ticket, .suggestions source text⟩

theorem Asks.of_same {before : Session} (after : Session) (entity : after.entity? = before.entity?)
    (userName : after.userName = before.userName) {request : Request}
    (asks : before.Asks request) : after.Asks request := by
  cases asks with
  | choices cls chosen => exact .choices cls (entity.trans chosen)
  | userLists cls chosen user media =>
      exact .userLists cls (entity.trans chosen) (userName.trans user) media
  | suggestions cls chosen offered looksUp =>
      exact .suggestions cls (entity.trans chosen) offered looksUp

theorem Turn.entity? {input : Input} {before after : Session} {effects : List Effect}
    (turn : Turn input before effects after) : after.entity? = before.entity? ∨
      ∃ now entity, input = .command now (.switchEntity entity) := by
  cases turn with
  | shown unmoved silent => exact .inl (congrArg (Option.map Bindings.entity) unmoved.bindings)
  | revised bound revision =>
      rw [Session.entity?, Session.entity?, bound]
      exact .inl (congrArg some revision.entity)
  | evaluated => exact .inl (entity?_evaluate before)
  | adopted bound =>
      rw [Session.entity?, Session.entity?, bound]
      exact .inl rfl
  | @succeeded now name _ changed bindings bound change =>
      have same : changed.entity? = before.entity? := by
        rw [change, Session.entity?, Session.entity?, bound]
        exact congrArg some (Bindings.entity_unbind .userList bindings)
      exact .inl ((entity?_evaluate changed).trans same)
  | switched opening bind => exact .inr ⟨_, _, rfl⟩
  | _ => exact .inl rfl

theorem Turn.userName {input : Input} {before after : Session} {effects : List Effect}
    (turn : Turn input before effects after) : after.userName = before.userName ∨
      ∃ now name, input = .command now (.setUserName name) := by
  cases turn with
  | shown unmoved silent => exact .inl unmoved.userName
  | evaluated => exact .inl (userName_evaluate before)
  | renamed unpicked => exact .inr ⟨_, _, rfl⟩
  | succeeded bound change => exact .inr ⟨_, _, rfl⟩
  | switched opening bind =>
      rw [opening]
      exact .inl rfl
  | _ => exact .inl rfl

theorem Turn.restored {input : Input} {before after : Session} {effects : List Effect}
    (turn : Turn input before effects after) : after.restored = before.restored ∨
      ∃ now entity, input = .command now (.switchEntity entity) := by
  have evaluated : ∀ session : Session, session.evaluate.result.restored = session.restored := by
    intro session
    have outcome := evaluates session
    generalize session.evaluate = acted at outcome
    cases outcome <;> rfl
  cases turn with
  | shown unmoved silent => exact .inl unmoved.restored
  | evaluated => exact .inl (evaluated before)
  | succeeded bound change =>
      rw [change]
      exact .inl (evaluated _)
  | switched opening bind => exact .inr ⟨_, _, rfl⟩
  | _ => exact .inl rfl

theorem entity?_respond {session : Session} {input : Input}
    (stays : ∀ now entity, input ≠ .command now (.switchEntity entity)) :
    (session.respond input).result.entity? = session.entity? := by
  refine respond_keeps Session.entity? (fun turn => turn.entity?.resolve_right ?_) session
  rintro ⟨now, entity, isSwitch⟩
  exact stays now entity isSwitch

theorem userName_respond {session : Session} {input : Input}
    (stays : ∀ now name, input ≠ .command now (.setUserName name)) :
    (session.respond input).result.userName = session.userName := by
  refine respond_keeps Session.userName (fun turn => turn.userName.resolve_right ?_) session
  rintro ⟨now, name, isRename⟩
  exact stays now name isRename

theorem restored_respond {session : Session} {input : Input}
    (stays : ∀ now entity, input ≠ .command now (.switchEntity entity)) :
    (session.respond input).result.restored = session.restored := by
  refine respond_keeps Session.restored (fun turn => turn.restored.resolve_right ?_) session
  rintro ⟨now, entity, isSwitch⟩
  exact stays now entity isSwitch

def Idle (session : Session) (acted : Acted Session) : Prop :=
  acted.result.slots = session.slots ∧ ∀ effect ∈ acted.trace, effect.request? = none

theorem idle_evaluate (session : Session) : session.Idle session.evaluate := by
  have outcome := evaluates session
  generalize session.evaluate = acted at outcome
  cases outcome with
  | unbound nothing => exact ⟨rfl, fun _ member => nomatch member⟩
  | unchanged bound same => exact ⟨rfl, fun _ member => nomatch member⟩
  | @changed bindings bound different =>
      have none : Effect.requests (announcement bindings.entity (session.userName.getD "")
          bindings.build session.store.saveFault) = [] := by
        cases session.store.saveFault <;> rfl
      exact ⟨rfl, List.filterMap_eq_nil_iff.1 none⟩

theorem Turn.unasked {input : Input} (unasked : input.asks = false) {before after : Session}
    {effects : List Effect} (turn : Turn input before effects after) :
    (after.slots = before.slots ∨ ∃ completion, input = .completion completion ∧
      after.slots = before.slots.finish completion.ticket) ∧
        ∀ effect ∈ effects, effect.request? = none := by
  have published : ∀ {context : QueryContext}, ∀ effect ∈ [Effect.published context],
      effect.request? = none := by
    intro context effect member
    cases List.mem_singleton.1 member
    rfl
  cases turn with
  | shown unmoved silent =>
      exact ⟨.inl unmoved.slots, fun effect member =>
        Effect.request?_of_isShown (silent effect member)⟩
  | asked asks => exact absurd asks (Bool.eq_false_iff.1 unasked)
  | dismissed asks => exact absurd asks (Bool.eq_false_iff.1 unasked)
  | finished => exact ⟨.inr ⟨_, rfl, rfl⟩, fun _ member => nomatch member⟩
  | revised bound revision => exact ⟨.inl rfl, fun _ member => nomatch member⟩
  | noted announced window => exact ⟨.inl rfl, fun _ member => nomatch member⟩
  | evaluated =>
      obtain ⟨slots, none⟩ := idle_evaluate before
      exact ⟨.inl slots, none⟩
  | adopted bound => exact ⟨.inl rfl, published⟩
  | renamed unpicked => cases unasked
  | succeeded bound change => cases unasked
  | switched opening bind => cases unasked

theorem idle_respond {session : Session} {input : Input} (own : input.isOwn = true)
    (unasked : input.asks = false) : session.Idle (session.respond input) := by
  refine (takes_respond session input).kept (fun after => after.slots = session.slots)
    (fun effect => effect.request? = none) ?_ rfl
  intro before after effects same turn
  obtain ⟨slots, none⟩ := turn.unasked unasked
  refine ⟨?_, none⟩
  rcases slots with kept | ⟨completion, isReply, _⟩
  · exact kept.trans same
  · rw [isReply] at own
    cases own

theorem finish_finish (slots : RequestSlots) (ticket : Ticket) :
    (slots.finish ticket).finish ticket = slots.finish ticket := by
  by_cases current : slots.isCurrent ticket = true
  · have released : (slots.release ticket.cls).isCurrent ticket = false := by
      have nothing : (slots.release ticket.cls).holder? ticket.cls = none := by
        rw [RequestSlots.holder?, List.find?_eq_none]
        intro other member
        have different := (List.mem_filter.1 member).2
        simpa using different
      rw [RequestSlots.isCurrent, nothing]
      simp
    have once : slots.finish ticket = slots.release ticket.cls := if_pos current
    rw [once, RequestSlots.finish, if_neg (Bool.eq_false_iff.1 released)]
  · have once : slots.finish ticket = slots := if_neg current
    rw [once, once]

theorem finish_complete (session : Session) (completion : Completion) :
    (session.complete completion).result.slots = session.slots.finish completion.ticket ∧
      ∀ effect ∈ (session.complete completion).trace, effect.request? = none := by
  unfold complete
  split
  · have takes : Takes (.completion completion)
        { session with slots := session.slots.finish completion.ticket }
        ({ session with slots := session.slots.finish completion.ticket }.accept completion) := by
      cases completion with
      | choices ticket reply => exact takes_acceptChoices _ ticket reply
      | userLists ticket reply => exact takes_acceptUserLists _ ticket reply
      | suggestions filter ticket reply => exact takes_acceptSuggestions _ filter ticket reply
    refine takes.kept (fun after => after.slots = session.slots.finish completion.ticket)
      (fun effect => effect.request? = none) ?_ rfl
    intro before after effects same turn
    obtain ⟨slots, none⟩ := turn.unasked rfl
    refine ⟨?_, none⟩
    rcases slots with kept | ⟨other, isReply, kept⟩
    · exact kept.trans same
    · cases isReply
      rw [kept, same, finish_finish]
  · rename_i passed
    rw [RequestSlots.finish, if_neg passed]
    exact ⟨rfl, fun _ member => nomatch member⟩

/-- The requests that are made, all for the entity type and the user that the session has. -/
structure Demands (session : Session) (acted : Acted Session) : Prop where
  begun : session.slots.Begun (Effect.tickets acted.trace) acted.result.slots
  entity : acted.result.entity? = session.entity?
  userName : acted.result.userName = session.userName
  asks : ∀ request ∈ Effect.requests acted.trace, acted.result.Asks request

theorem demands_still (session : Session) : session.Demands (.still session) :=
  ⟨.nothing _, rfl, rfl, fun _ member => nomatch member⟩

theorem Demands.of_same {before middle : Session} {acted : Acted Session}
    (demands : middle.Demands acted) (slots : middle.slots = before.slots)
    (entity : middle.entity? = before.entity?) (userName : middle.userName = before.userName) :
    before.Demands acted :=
  ⟨slots ▸ demands.begun, demands.entity.trans entity, demands.userName.trans userName,
    demands.asks⟩

theorem Demands.andThen {session : Session} {acted : Acted Session}
    {next : Session → Acted Session} (first : session.Demands acted)
    (second : acted.result.Demands (next acted.result)) :
    session.Demands (acted.andThen next) := by
  refine ⟨?_, second.entity.trans first.entity, second.userName.trans first.userName, ?_⟩
  · rw [Traced.trace_andThen, Effect.tickets_append]
    exact first.begun.append second.begun
  · rw [Traced.trace_andThen, Effect.requests_append]
    intro request member
    rcases List.mem_append.1 member with early | late
    · exact (first.asks request early).of_same _ second.entity second.userName
    · exact second.asks request late

theorem demands_request {session : Session} {cls : RequestClass} {call : BackendCall}
    (asks : session.Asks ⟨session.slots.nextTicket cls, call⟩) :
    session.Demands (session.request cls call) := by
  refine ⟨.start cls (.nothing _), rfl, rfl, ?_⟩
  intro request member
  rw [List.mem_singleton.1 member]
  exact asks.of_same (session.request cls call).result (Eq.refl session.entity?)
    (Eq.refl session.userName)

theorem demands_fetchUserLists (session : Session) : session.Demands session.fetchUserLists := by
  unfold fetchUserLists
  split
  · rename_i entity name chosen user
    split
    · rename_i media
      have asks : Asks { session with forceReload := false } ⟨session.slots.nextTicket .userLists,
          .userLists name entity session.forceReload⟩ := .userLists rfl chosen user media
      exact (demands_request asks).of_same rfl rfl rfl
    · exact demands_still session
  · exact demands_still session

def givesUp (session : Session) (input : Input) (cls : RequestClass) : Bool :=
  match input with
  | .command _ (.switchEntity _) => true
  | .command _ (.setUserName name) => cls == .userLists && effectiveName name != session.userName
  | .command _ (.query filter text) =>
    cls == .typeahead filter && (Text.trim text.toList).isEmpty
  | _ => false

/-- Whether what is done comes to making requests, given the slots that were not given up. -/
def Begins (slots : RequestSlots) (acted : Acted Session) : Prop :=
  slots.Begun (Effect.tickets acted.trace) acted.result.slots ∧
    ∀ request ∈ Effect.requests acted.trace, acted.result.Asks request

theorem Demands.begins {session : Session} {acted : Acted Session}
    (demands : session.Demands acted) : Begins session.slots acted :=
  ⟨demands.begun, demands.asks⟩

theorem begins_of_unasked {slots : RequestSlots} {acted : Acted Session}
    (none : ∀ effect ∈ acted.trace, effect.request? = none) (same : acted.result.slots = slots) :
    Begins slots acted := by
  refine ⟨?_, ?_⟩
  · rw [Effect.tickets_eq_nil none, same]
    exact .nothing slots
  · rw [Effect.requests_eq_nil none]
    exact fun _ member => nomatch member

theorem begins_still (session : Session) : Begins session.slots (.still session) :=
  begins_of_unasked (fun _ member => nomatch member) rfl

theorem Demands.begins_after {acted : Acted Session} {next : Session → Acted Session}
    {slots : RequestSlots} (demands : acted.result.Demands (next acted.result))
    (same : acted.result.slots = slots) (none : ∀ effect ∈ acted.trace, effect.request? = none) :
    Begins slots (acted.andThen next) := by
  refine ⟨?_, ?_⟩
  · rw [Traced.trace_andThen, Effect.tickets_append, Effect.tickets_eq_nil none, ← same]
    exact demands.begun
  · rw [Traced.trace_andThen, Effect.requests_append, Effect.requests_eq_nil none]
    exact demands.asks

theorem begins_draw {α : Type} {slots : RequestSlots} {drawn : Drawn α}
    {next : α → Acted Session} (begins : Begins slots (next drawn.result)) :
    Begins slots (draw drawn next) := by
  have none : ∀ effect ∈ (drawn.relabel Effect.drew).trace, effect.request? = none :=
    fun effect member => Effect.request?_of_isShown (isShown_drew drawn effect member)
  refine ⟨?_, ?_⟩
  · rw [draw, Traced.trace_andThen, Effect.tickets_append, Effect.tickets_eq_nil none]
    exact begins.1
  · rw [draw, Traced.trace_andThen, Effect.requests_append, Effect.requests_eq_nil none]
    exact begins.2

theorem begins_switchEntity (session : Session) (entity : EntityType) :
    Begins session.slots.cancelAll (session.switchEntity entity) := by
  rw [switchEntity_eq, Traced.andThen_assoc]
  refine Demands.begins_after ?_ rfl ?_
  · exact (demands_request (.choices rfl rfl)).andThen (demands_fetchUserLists _)
  · have drawn : ∀ calls : List ViewCall, ∀ effect ∈ calls.map Effect.drew,
        effect.request? = none := by
      intro calls effect member
      obtain ⟨call, _, rfl⟩ := List.mem_map.1 member
      rfl
    intro effect member
    rcases List.mem_append.1 member with early | restored
    · rcases List.mem_append.1 early with before | bound
      · rcases List.mem_append.1 before with left | loaded
        · exact drawn _ effect left
        · exact Effect.request?_of_isShown (isShown_load session entity effect loaded)
      · exact drawn _ effect bound
    · rcases List.mem_append.1 restored with published | emitted
      · cases List.mem_singleton.1 published
        rfl
      · cases List.mem_singleton.1 emitted
        rfl

theorem idle_draw {α : Type} {session : Session} {drawn : Drawn α} {next : α → Acted Session}
    (idle : session.Idle (next drawn.result)) : session.Idle (draw drawn next) := by
  refine ⟨idle.1, ?_⟩
  intro effect member
  rcases List.mem_append.1 member with early | late
  · exact Effect.request?_of_isShown (isShown_drew drawn effect early)
  · exact idle.2 effect late

theorem idle_unbindUserLists (session : Session) : session.Idle session.unbindUserLists := by
  have still : session.Idle (.still session) := ⟨rfl, fun _ member => nomatch member⟩
  unfold unbindUserLists
  split
  · exact still
  · apply idle_draw
    split
    · exact ⟨(idle_evaluate _).1, (idle_evaluate _).2⟩
    · exact still

theorem begins_setUserName {session : Session} {name : Option String}
    (changes : effectiveName name ≠ session.userName) :
    Begins (session.slots.cancel .userLists) (session.setUserName name) := by
  unfold setUserName
  dsimp only
  rw [if_neg changes]
  obtain ⟨slots, none⟩ := idle_unbindUserLists { session with
    userName := effectiveName name
    forceReload := false
    slots := session.slots.cancel .userLists }
  refine Demands.begins_after ?_ slots none
  exact Demands.andThen ⟨.nothing _, rfl, rfl, fun _ member => nomatch member⟩
    (demands_fetchUserLists _)

theorem begins_lookUp {session : Session} {bindings : Bindings} {filter : FilterName}
    {source : TypeaheadSource} (offered : filter ∈ bindings.entity.filterSet)
    (looksUp : filter.definition.typeahead? = some source) (now : Nat) (text : String) :
    Begins (session.slots.giveUp (session.givesUp (.command now (.query filter text))))
      (session.lookUp bindings filter source text) := by
  apply begins_draw
  cases blank : (Text.trim text.toList).isEmpty with
  | true =>
      have gone : session.givesUp (.command now (.query filter text)) =
          fun cls => cls == .typeahead filter := by
        funext cls
        rw [givesUp, blank, Bool.and_true]
      rw [gone, ← RequestSlots.cancel_eq]
      exact begins_of_unasked (fun _ member => nomatch member) rfl
  | false =>
      have gone : session.slots.giveUp
          (session.givesUp (.command now (.query filter text))) = session.slots := by
        refine RequestSlots.giveUp_of_unheld fun ticket _ => ?_
        rw [givesUp, blank, Bool.and_false]
      rw [gone]
      have asks : Asks { session with bindings := some (bindings.update filter
          fun widget => widget.setLoading true).result }
          ⟨session.slots.nextTicket (.typeahead filter), .suggestions source text⟩ :=
        .suggestions rfl rfl offered looksUp
      exact (demands_request asks).begins

section

variable {session : Session} (regular : session.Regular)
  (held : ∀ ticket ∈ session.slots.held, ∃ request : Request, request.ticket = ticket ∧
    session.Asks request)

include held

theorem giveUp_of_refused {now : Nat} {filter : FilterName} {text : String}
    (refused : ∀ entity source, session.entity? = some entity → filter ∈ entity.filterSet →
      filter.definition.typeahead? ≠ some source) :
    session.slots.giveUp (session.givesUp (.command now (.query filter text))) =
      session.slots := by
  refine RequestSlots.giveUp_of_unheld fun ticket isHeld => ?_
  by_cases cls : ticket.cls = .typeahead filter
  · obtain ⟨request, rfl, asks⟩ := held ticket isHeld
    cases asks with
    | choices own chosen => cases own.symm.trans cls
    | userLists own chosen user media => cases own.symm.trans cls
    | suggestions own chosen offered looksUp =>
        cases own.symm.trans cls
        exact absurd looksUp (refused _ _ chosen offered)
  · rw [givesUp, beq_eq_false_iff_ne.2 cls, Bool.false_and]

include regular

theorem begins_query (now : Nat) (filter : FilterName) (text : String) :
    Begins (session.slots.giveUp (session.givesUp (.command now (.query filter text))))
      ((session.query filter text).map Prod.fst) := by
  have refused : (∀ entity source, session.entity? = some entity → filter ∈ entity.filterSet →
        filter.definition.typeahead? ≠ some source) → ∀ {acted : Acted Session},
      Begins session.slots acted →
      Begins (session.slots.giveUp (session.givesUp (.command now (.query filter text)))) acted := by
    intro vain acted begins
    rw [giveUp_of_refused held vain]
    exact begins
  have still := begins_still session
  unfold query
  split
  · rename_i nothing
    refine refused ?_ still
    intro entity source chosen
    rw [entity?, nothing] at chosen
    cases chosen
  · rename_i bindings bound
    have chosen : session.entity? = some bindings.entity := by rw [entity?, bound]; rfl
    split
    · rename_i isYear
      subst isYear
      have vain : ∀ source, FilterName.year.definition.typeahead? ≠ some source := by
        intro source looksUp
        cases looksUp
      refine refused (fun _ source _ _ => vain source) ?_
      unfold queryYears
      rw [map_draw]
      apply begins_draw
      split
      · exact still
      · refine begins_of_unasked (fun effect member => ?_) rfl
        cases List.mem_singleton.1 member
        rfl
    split
    · rename_i absent
      refine refused ?_ still
      intro entity source isEntity offered looksUp
      rw [chosen] at isEntity
      cases isEntity
      have different : filter ≠ .userList := by
        rintro rfl
        cases looksUp
      exact absurd ((regular bindings bound).whole filter offered different)
        (Bindings.get?_eq_none_iff.1 absent)
    · rename_i widget found
      have own := (regular bindings bound).definition_of_get? found
      split
      · rename_i vain
        refine refused ?_ still
        intro entity source _ _ looksUp
        rw [own, looksUp] at vain
        cases vain
      · rename_i source looksUp
        rw [own] at looksUp
        have offered := (regular bindings bound).offered_of_get? found
        exact begins_lookUp offered looksUp now text

theorem begins_respond {input : Input} (own : input.isOwn = true) :
    Begins (session.slots.giveUp (session.givesUp input)) (session.respond input) := by
  have kept : (∀ cls, session.givesUp input cls = false) →
      session.slots.giveUp (session.givesUp input) = session.slots := fun none =>
    RequestSlots.giveUp_of_unheld fun ticket _ => none ticket.cls
  have unasked : input.asks = false → (∀ cls, session.givesUp input cls = false) →
      Begins (session.slots.giveUp (session.givesUp input)) (session.respond input) := by
    intro unasked none
    obtain ⟨slots, nothing⟩ := idle_respond own unasked
    rw [kept none]
    exact begins_of_unasked nothing slots
  cases input with
  | command now command =>
      cases command with
      | switchEntity entity =>
          have all : session.slots.giveUp (session.givesUp
              (.command now (.switchEntity entity))) = session.slots.cancelAll :=
            (RequestSlots.cancelAll_eq session.slots).symm
          rw [all]
          exact begins_switchEntity session entity
      | setUserName name =>
          by_cases same : effectiveName name = session.userName
          · rw [kept fun cls => by simp [givesUp, same]]
            have still : session.setUserName name = .still session := if_pos same
            rw [respond, handle, finished, still]
            exact begins_still session
          · have gone : session.givesUp (.command now (.setUserName name)) =
                fun cls => cls == .userLists := by
              funext cls
              have changes : (effectiveName name != session.userName) = true := by
                simpa using same
              rw [givesUp, changes, Bool.and_true]
            rw [gone, ← RequestSlots.cancel_eq]
            exact begins_setUserName same
      | reloadUserLists =>
          rw [kept fun cls => rfl]
          exact (demands_fetchUserLists session).begins
      | query filter text => exact begins_query regular held now filter text
      | _ => exact unasked rfl fun _ => rfl
  | completion completion => cases own
  | _ => exact unasked rfl fun _ => rfl

end

end Session

end MediaFilter
