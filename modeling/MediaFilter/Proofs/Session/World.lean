import MediaFilter.Proofs.Session.Requests

/-!
A session with everything that is under way: the requests that were sent and not answered, and the
replies that were not delivered yet.  Inputs, replies and deliveries come in any order, and a
request may be answered although it was given up.
-/

namespace MediaFilter

/-- The completions that a request can lead to. -/
inductive Request.Yields (request : Request) : Completion → Prop
  | choices {entity : EntityType} (call : request.call = .choices entity)
      (reply : Except Error Choices) : Yields request (.choices request.ticket reply)
  | userLists {name : String} {entity : EntityType} {forced : Bool}
      (call : request.call = .userLists name entity forced)
      (reply : Except Error UserListReply) : Yields request (.userLists request.ticket reply)
  | suggestions {source : TypeaheadSource} {text : String} {filter : FilterName}
      (call : request.call = .suggestions source text)
      (cls : request.ticket.cls = .typeahead filter)
      (reply : Except Error (List WhitelistEntry)) :
      Yields request (.suggestions filter request.ticket reply)

theorem Request.Yields.ticket {request : Request} {completion : Completion}
    (yields : request.Yields completion) : completion.ticket = request.ticket := by
  cases yields <;> rfl

structure Message where
  request : Request
  completion : Completion
  yields : request.Yields completion

structure World where
  session : Session
  pending : List Request
  messages : List Message

/-- What happens in a world; of the session it tells how it was before. -/
inductive Occurrence where
  | responded (session : Session) (input : Input)
  | answered (message : Message)
  | abandoned (request : Request)
  | delivered (session : Session) (message : Message)

namespace Occurrence

def effects : Occurrence → List Effect
  | .responded session input => (session.respond input).trace
  | .delivered session message => (session.complete message.completion).trace
  | _ => []

def givesUp : Occurrence → RequestClass → Bool
  | .responded session input => session.givesUp input
  | _ => fun _ => false

/-- The request of a class that was begun last, unless it was given up since. -/
def standing? (cls : RequestClass) (before : Option Ticket) (occurrence : Occurrence) :
    Option Ticket :=
  (RequestSlots.lastOf? cls (Effect.tickets occurrence.effects)).or
    (if occurrence.givesUp cls then none else before)

def latest? (history : List Occurrence) (cls : RequestClass) : Option Ticket :=
  history.foldl (standing? cls) none

theorem latest?_append (history : List Occurrence) (occurrence : Occurrence)
    (cls : RequestClass) : latest? (history ++ [occurrence]) cls =
      standing? cls (latest? history cls) occurrence := by
  rw [latest?, List.foldl_append]
  rfl

theorem latest?_of_unasked (history : List Occurrence) (occurrence : Occurrence)
    (none : ∀ effect ∈ occurrence.effects, effect.request? = none)
    (kept : occurrence.givesUp = fun _ => false) :
    latest? (history ++ [occurrence]) = latest? history := by
  funext cls
  rw [latest?_append, standing?, Effect.tickets_eq_nil none, kept]
  rfl

end Occurrence

namespace World

def requests (world : World) : List Request :=
  world.pending ++ world.messages.map Message.request

inductive Step : World → Occurrence → World → Prop
  | respond {input : Input} (own : input.isOwn = true) (world : World) :
      Step world (.responded world.session input)
        { session := (world.session.respond input).result
          pending := world.pending ++ Effect.requests (world.session.respond input).trace
          messages := world.messages }
  | answer {world : World} {earlier later : List Request} (message : Message)
      (sent : world.pending = earlier ++ message.request :: later) :
      Step world (.answered message)
        { world with pending := earlier ++ later, messages := world.messages ++ [message] }
  /-- A request that was given up need not be answered. -/
  | abandon {world : World} {earlier later : List Request} {request : Request}
      (sent : world.pending = earlier ++ request :: later)
      (cancelled : world.session.slots.isCancelled request.ticket = true) :
      Step world (.abandoned request) { world with pending := earlier ++ later }
  | deliver {world : World} {earlier later : List Message} {message : Message}
      (queued : world.messages = earlier ++ message :: later) :
      Step world (.delivered world.session message)
        { world with
          session := (world.session.complete message.completion).result
          messages := earlier ++ later }

inductive Reaches (config : SessionConfig) (store : FaultyStore) :
    List Occurrence → World → Prop
  | start : Reaches config store [] ⟨.start config store, [], []⟩
  | step {history : List Occurrence} {before after : World} {occurrence : Occurrence}
      (reached : Reaches config store history before) (step : Step before occurrence after) :
      Reaches config store (history ++ [occurrence]) after

inductive Steps (first : World) : List Occurrence → World → Prop
  | refl : Steps first [] first
  | step {history : List Occurrence} {before after : World} {occurrence : Occurrence}
      (steps : Steps first history before) (step : Step before occurrence after) :
      Steps first (history ++ [occurrence]) after

theorem Reaches.steps {config : SessionConfig} {store : FaultyStore}
    {earlier later : List Occurrence} {middle world : World}
    (reached : Reaches config store earlier middle) (steps : Steps middle later world) :
    Reaches config store (earlier ++ later) world := by
  induction steps with
  | refl =>
      rw [List.append_nil]
      exact reached
  | step _ step induction =>
      rw [← List.append_assoc]
      exact induction.step step

theorem Reaches.from_start {config : SessionConfig} {store : FaultyStore}
    {history : List Occurrence} {world : World} (reached : Reaches config store history world) :
    Steps ⟨.start config store, [], []⟩ history world := by
  induction reached with
  | start => exact .refl
  | step _ step induction => exact induction.step step

theorem Reaches.respond {config : SessionConfig} {store : FaultyStore}
    {history : List Occurrence} {session : Session} {pending sent : List Request}
    {messages : List Message} (reached : Reaches config store history ⟨session, pending, messages⟩)
    {input : Input} (own : input.isOwn = true)
    (requests : Effect.requests (session.respond input).trace = sent) :
    Reaches config store (history ++ [.responded session input])
      ⟨(session.respond input).result, pending ++ sent, messages⟩ := by
  rw [← requests]
  exact reached.step (.respond own _)

theorem Reaches.last {config : SessionConfig} {store : FaultyStore} {history : List Occurrence}
    {occurrence : Occurrence} {world : World}
    (reached : Reaches config store (history ++ [occurrence]) world) :
    ∃ before, Reaches config store history before ∧ Step before occurrence world := by
  generalize whole : history ++ [occurrence] = all at reached
  cases reached with
  | start => exact absurd whole (List.append_ne_nil_of_right_ne_nil _ (List.cons_ne_nil _ _))
  | step reached step =>
      obtain ⟨rfl, same⟩ := List.append_inj' whole rfl
      cases same
      exact ⟨_, reached, step⟩

theorem Reaches.split {config : SessionConfig} {store : FaultyStore}
    {earlier later : List Occurrence} {world : World}
    (reached : Reaches config store (earlier ++ later) world) :
    ∃ middle, Reaches config store earlier middle ∧ Steps middle later world := by
  generalize whole : earlier ++ later = history at reached
  induction reached generalizing later with
  | start =>
      obtain ⟨rfl, rfl⟩ := List.append_eq_nil_iff.1 whole
      exact ⟨_, .start, .refl⟩
  | @step history before after occurrence reached step induction =>
      rcases List.eq_nil_or_concat later with rfl | ⟨front, last, rfl⟩
      · rw [List.append_nil] at whole
        subst whole
        exact ⟨_, reached.step step, .refl⟩
      · rw [List.concat_eq_append, ← List.append_assoc] at whole
        obtain ⟨rfl, same⟩ := List.append_inj' whole rfl
        cases same
        obtain ⟨middle, reaches, steps⟩ := induction rfl
        rw [List.concat_eq_append]
        exact ⟨middle, reaches, steps.step step⟩

/-- What holds between two steps: the slots agree with what is under way, and a request that still
holds its slot is one that the session would make now. -/
structure Orderly (history : List Occurrence) (world : World) : Prop where
  regular : world.session.Regular
  tidy : RequestSlots.Tidy (Occurrence.latest? history) (world.requests.map Request.ticket)
    world.session.slots
  apt : ∀ request ∈ world.requests, request.ticket ∈ world.session.slots.held →
    world.session.Asks request

theorem Orderly.held {history : List Occurrence} {world : World}
    (orderly : world.Orderly history) : ∀ ticket ∈ world.session.slots.held,
      ∃ request : Request, request.ticket = ticket ∧ world.session.Asks request := by
  intro ticket isHeld
  obtain ⟨request, member, rfl⟩ := List.mem_map.1 (orderly.tidy.held ticket isHeld).1
  exact ⟨request, rfl, orderly.apt request member isHeld⟩

theorem Orderly.asked {history : List Occurrence} {world : World}
    (orderly : world.Orderly history) {message : Message} (queued : message ∈ world.messages)
    (current : world.session.slots.isCurrent message.completion.ticket = true) :
    message.request.ticket ∈ world.session.slots.held ∧ world.session.Asks message.request := by
  have out : message.request ∈ world.requests :=
    List.mem_append_right _ (List.mem_map.2 ⟨message, queued, rfl⟩)
  rw [message.yields.ticket] at current
  have isHeld := orderly.tidy.held_of_isCurrent (List.mem_map.2 ⟨_, out, rfl⟩) current
  exact ⟨isHeld, orderly.apt message.request out isHeld⟩

end World

theorem RequestSlots.Begun.held {before after : RequestSlots} {tickets : List Ticket}
    (begun : before.Begun tickets after) {ticket : Ticket} (isHeld : ticket ∈ after.held) :
    ticket ∈ before.held ∨ ticket ∈ tickets := by
  induction begun with
  | nothing slots => exact .inl isHeld
  | start cls _ induction =>
      rcases induction isHeld with started | later
      · rcases List.mem_cons.1 started with rfl | rest
        · exact .inr List.mem_cons_self
        · exact .inl (List.mem_filter.1 rest).1
      · exact .inr (List.mem_cons_of_mem _ later)

theorem RequestSlots.held_of_finish {slots : RequestSlots} {ticket other : Ticket}
    (isHeld : other ∈ (slots.finish ticket).held) : other ∈ slots.held := by
  unfold finish at isHeld
  split at isHeld
  · exact (List.mem_filter.1 isHeld).1
  · exact isHeld

namespace Session

theorem Asks.respond {session : Session} {request : Request} (asks : session.Asks request)
    {input : Input} (kept : session.givesUp input request.ticket.cls = false) :
    (session.respond input).result.Asks request := by
  by_cases switches : ∃ now entity, input = .command now (.switchEntity entity)
  · obtain ⟨now, entity, rfl⟩ := switches
    cases kept
  have entity : (session.respond input).result.entity? = session.entity? :=
    entity?_respond fun now entity isSwitch => switches ⟨now, entity, isSwitch⟩
  by_cases renames : ∃ now name, input = .command now (.setUserName name)
  · obtain ⟨now, name, rfl⟩ := renames
    cases asks with
    | choices cls chosen => exact .choices cls (entity.trans chosen)
    | suggestions cls chosen offered looksUp =>
        exact .suggestions cls (entity.trans chosen) offered looksUp
    | userLists cls chosen user media =>
        -- Only a name that is no other leaves the user lists alone.
        rw [givesUp, cls, beq_self_eq_true, Bool.true_and, bne_eq_false_iff_eq] at kept
        have still : session.setUserName name = .still session := if_pos kept
        have same : (session.respond (.command now (.setUserName name))).result = session := by
          rw [Session.respond, handle, finished, still]
          rfl
        rw [same]
        exact .userLists cls chosen user media
  · have userName : (session.respond input).result.userName = session.userName :=
      userName_respond fun now name isRename => renames ⟨now, name, isRename⟩
    exact asks.of_same _ entity userName

end Session

namespace World

theorem requests_respond (world : World) (more : List Request) (session : Session) :
    ({ session, pending := world.pending ++ more, messages := world.messages } : World).requests.Perm
      (world.requests ++ more) := by
  unfold requests
  rw [List.append_assoc, List.append_assoc]
  exact List.Perm.append_left _ List.perm_append_comm

theorem orderly_start (config : SessionConfig) (store : FaultyStore) :
    Orderly [] ⟨.start config store, [], []⟩ :=
  ⟨Session.regular_start config store, RequestSlots.tidy_empty, fun _ member => nomatch member⟩

theorem Orderly.respond {history : List Occurrence} {world : World}
    (orderly : world.Orderly history) {input : Input} (own : input.isOwn = true) :
    Orderly (history ++ [.responded world.session input])
      { session := (world.session.respond input).result
        pending := world.pending ++ Effect.requests (world.session.respond input).trace
        messages := world.messages } := by
  have begins := Session.begins_respond orderly.regular orderly.held own
  have perm := requests_respond world (Effect.requests (world.session.respond input).trace)
    (world.session.respond input).result
  have tickets := perm.map Request.ticket
  rw [List.map_append] at tickets
  have tidy := (orderly.tidy.giveUp (world.session.givesUp input)).begun begins.1
  have latest : (fun cls => (RequestSlots.lastOf? cls
      (Effect.tickets (world.session.respond input).trace)).or
        (if world.session.givesUp input cls then none else Occurrence.latest? history cls)) =
          Occurrence.latest? (history ++ [.responded world.session input]) := by
    funext cls
    rw [Occurrence.latest?_append]
    rfl
  rw [latest] at tidy
  refine ⟨(orderly.regular.respond input).1, tidy.perm tickets.symm, ?_⟩
  intro request member isHeld
  rcases List.mem_append.1 (perm.mem_iff.1 member) with old | new
  · rcases begins.1.held isHeld with stayed | given
    · obtain ⟨wasHeld, kept⟩ := RequestSlots.mem_giveUp.1 stayed
      exact (orderly.apt request old wasHeld).respond kept
    · -- A ticket that is out is never given out again.
      have wasOut : request.ticket ∈ world.requests.map Request.ticket :=
        List.mem_map.2 ⟨request, old, rfl⟩
      exact absurd rfl ((List.nodup_append.1 tidy.nodup).2.2 _ wasOut _ given)
  · exact begins.2 request new

theorem Orderly.of_perm {history : List Occurrence} {world after : World}
    (orderly : world.Orderly history) (session : after.session = world.session)
    (perm : world.requests.Perm after.requests) : after.Orderly history := by
  refine ⟨session ▸ orderly.regular, ?_, ?_⟩
  · rw [session]
    exact orderly.tidy.perm (perm.map Request.ticket)
  · rw [session]
    exact fun request member => orderly.apt request (perm.mem_iff.2 member)

theorem Orderly.of_latest {history others : List Occurrence} {world : World}
    (orderly : world.Orderly history)
    (latest : Occurrence.latest? others = Occurrence.latest? history) : world.Orderly others :=
  ⟨orderly.regular, latest ▸ orderly.tidy, orderly.apt⟩

theorem Orderly.answer {history : List Occurrence} {world : World}
    (orderly : world.Orderly history) {earlier later : List Request} (message : Message)
    (sent : world.pending = earlier ++ message.request :: later) :
    Orderly (history ++ [.answered message])
      { world with pending := earlier ++ later, messages := world.messages ++ [message] } := by
  have latest := Occurrence.latest?_of_unasked history (.answered message)
    (fun _ member => nomatch member) rfl
  refine Orderly.of_latest (orderly.of_perm rfl ?_) latest
  unfold requests
  rw [sent, List.map_append, ← List.append_assoc]
  refine List.Perm.trans ?_ List.perm_append_comm
  exact List.Perm.append_right _ List.perm_middle

theorem Orderly.abandon {history : List Occurrence} {world : World}
    (orderly : world.Orderly history) {earlier later : List Request} {request : Request}
    (sent : world.pending = earlier ++ request :: later)
    (cancelled : world.session.slots.isCancelled request.ticket = true) :
    Orderly (history ++ [.abandoned request]) { world with pending := earlier ++ later } := by
  have perm : world.requests.Perm
      (request :: ({ world with pending := earlier ++ later } : World).requests) := by
    unfold requests
    rw [sent]
    exact List.Perm.append_right _ List.perm_middle
  have latest := Occurrence.latest?_of_unasked history (.abandoned request)
    (fun _ member => nomatch member) rfl
  have unheld : request.ticket ∉ world.session.slots.held := fun isHeld =>
    (orderly.tidy.held _ isHeld).2.1 (RequestSlots.isCancelled_iff.1 cancelled)
  refine Orderly.of_latest ⟨orderly.regular, ?_, ?_⟩ latest
  · exact (orderly.tidy.perm (perm.map Request.ticket)).forget unheld
  · intro other member
    exact orderly.apt other (perm.mem_iff.2 (List.mem_cons_of_mem _ member))

theorem Orderly.deliver {history : List Occurrence} {world : World}
    (orderly : world.Orderly history) {earlier later : List Message} {message : Message}
    (queued : world.messages = earlier ++ message :: later) :
    Orderly (history ++ [.delivered world.session message])
      { world with
        session := (world.session.complete message.completion).result
        messages := earlier ++ later } := by
  have perm : world.requests.Perm (message.request :: (⟨(world.session.complete
      message.completion).result, world.pending, earlier ++ later⟩ : World).requests) := by
    unfold requests
    rw [queued, List.map_append, List.map_cons, List.map_append]
    refine List.Perm.trans (List.Perm.append_left _ List.perm_middle) ?_
    exact List.perm_middle
  obtain ⟨slots, none⟩ := Session.finish_complete world.session message.completion
  rw [message.yields.ticket] at slots
  have latest := Occurrence.latest?_of_unasked history (.delivered world.session message)
    none rfl
  refine Orderly.of_latest ⟨?_, ?_, ?_⟩ latest
  · exact (orderly.regular.respond (.completion message.completion)).1
  · rw [slots]
    exact (orderly.tidy.perm (perm.map Request.ticket)).finish
  · intro request member isHeld
    rw [slots] at isHeld
    have asks := orderly.apt request (perm.mem_iff.2 (List.mem_cons_of_mem _ member))
      (RequestSlots.held_of_finish isHeld)
    have entity : (world.session.respond (.completion message.completion)).result.entity? =
        world.session.entity? := Session.entity?_respond fun _ _ => nofun
    have userName : (world.session.respond (.completion message.completion)).result.userName =
        world.session.userName := Session.userName_respond fun _ _ => nofun
    exact asks.of_same _ entity userName

theorem Orderly.step {history : List Occurrence} {before after : World} {occurrence : Occurrence}
    (orderly : before.Orderly history) (step : Step before occurrence after) :
    after.Orderly (history ++ [occurrence]) := by
  cases step with
  | respond own => exact orderly.respond own
  | answer message sent => exact orderly.answer message sent
  | abandon sent cancelled => exact orderly.abandon sent cancelled
  | deliver queued => exact orderly.deliver queued

theorem Reaches.orderly {config : SessionConfig} {store : FaultyStore}
    {history : List Occurrence} {world : World} (reached : Reaches config store history world) :
    world.Orderly history := by
  induction reached with
  | start => exact orderly_start config store
  | step _ step induction => exact induction.step step

/-- What the session has in the beginning and keeps whatever comes to it, it has ever after. -/
theorem Reaches.always {config : SessionConfig} {store : FaultyStore} {holds : Session → Prop}
    (initially : holds (.start config store))
    (responds : ∀ {history : List Occurrence} {world : World},
      Reaches config store history world → holds world.session →
      ∀ {input : Input}, input.isOwn = true → holds (world.session.respond input).result)
    (completes : ∀ {history : List Occurrence} {world : World},
      Reaches config store history world → holds world.session →
      ∀ {message : Message}, message ∈ world.messages →
        holds (world.session.complete message.completion).result)
    {history : List Occurrence} {world : World} (reached : Reaches config store history world) :
    holds world.session := by
  induction reached with
  | start => exact initially
  | step reached step induction =>
      cases step with
      | respond own => exact responds reached induction own
      | answer message sent => exact induction
      | abandon sent cancelled => exact induction
      | deliver queued =>
          refine completes reached induction ?_
          rw [queued]
          exact List.mem_append_right _ List.mem_cons_self

end World

end MediaFilter
