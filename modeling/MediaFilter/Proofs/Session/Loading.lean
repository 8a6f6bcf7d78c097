import Mathlib.Logic.Function.Basic
import MediaFilter.Proofs.Session.Alteration
import MediaFilter.Proofs.Session.World

/-!
The loading flags against the lookups in flight.  A flag is part of its widget and a lookup part of
the slots; a query, a reply and a new choice of entity type change both, and nothing else does.
-/

namespace MediaFilter

namespace RequestSlots

theorem inFlight_iff {slots : RequestSlots} {cls : RequestClass} :
    slots.inFlight cls = true ↔ ∃ ticket ∈ slots.held, ticket.cls = cls := by
  simp [inFlight, holder?]

theorem inFlight_cancel (cls : RequestClass) (slots : RequestSlots) :
    (slots.cancel cls).inFlight = Function.update slots.inFlight cls false := by
  funext other
  rw [Bool.eq_iff_iff, inFlight_iff, Function.update_apply]
  by_cases same : other = cls
  · simp [cancel, release, same]
  · simp only [if_neg same, inFlight_iff, cancel, release, List.mem_filter, bne_iff_ne]
    constructor
    · rintro ⟨ticket, ⟨isHeld, _⟩, rfl⟩
      exact ⟨ticket, isHeld, rfl⟩
    · rintro ⟨ticket, isHeld, rfl⟩
      exact ⟨ticket, ⟨isHeld, same⟩, rfl⟩

theorem inFlight_release (cls : RequestClass) (slots : RequestSlots) :
    (slots.release cls).inFlight = Function.update slots.inFlight cls false :=
  inFlight_cancel cls slots

theorem inFlight_start (cls : RequestClass) (slots : RequestSlots) :
    (slots.start cls).inFlight = Function.update slots.inFlight cls true := by
  have cancelled := inFlight_cancel cls slots
  funext other
  rw [Function.update_apply]
  by_cases same : other = cls
  · rw [if_pos same, inFlight_iff]
    exact ⟨_, List.mem_cons_self, same.symm⟩
  · have rest := congrFun cancelled other
    rw [Function.update_of_ne same] at rest
    rw [if_neg same, ← rest, inFlight, inFlight, holder?, start, List.find?_cons_of_neg]
    · rfl
    · simpa [nextTicket] using Ne.symm same

end RequestSlots

namespace Bindings

def Lit (told : FilterName → Bool) (bindings : Bindings) : Prop :=
  ∀ widget ∈ bindings.widgets, widget.loading = told widget.name

variable {told : FilterName → Bool} {bindings : Bindings}

theorem Lit.setLoading (lit : bindings.Lit told) (filter : FilterName) (loading : Bool) :
    (bindings.update filter fun widget => widget.setLoading loading).result.Lit
      (Function.update told filter loading) := by
  intro widget isBound
  obtain ⟨old, wasBound, ⟨named, rfl⟩ | ⟨other, rfl⟩⟩ := mem_update isBound
  · rw [Widget.result_setLoading]
    subst named
    exact (Function.update_self old.name loading told).symm
  · rw [Function.update_of_ne other]
    exact lit old wasBound

theorem Lit.offer (lit : bindings.Lit told) (filter : FilterName)
    (entries : List WhitelistEntry) : (bindings.offer filter entries).result.1.Lit told := by
  intro widget isBound
  obtain ⟨old, wasBound, ⟨_, rfl⟩ | ⟨_, rfl⟩⟩ := mem_update isBound
  · exact lit old wasBound
  · exact lit old wasBound

theorem lit_bind (entity : EntityType) (stored : Expression) (grouping : TagGrouping) :
    (bind entity stored grouping).result.subscribeAll.Lit fun _ => false := by
  intro widget isBound
  obtain ⟨name, _, _, rfl⟩ := mem_bind.1 isBound
  unfold boundFor Widget.bind
  split <;> rfl

end Bindings

namespace Session

def looksUp (session : Session) (filter : FilterName) : Bool :=
  session.slots.inFlight (.typeahead filter)

def Lit (told : FilterName → Bool) (session : Session) : Prop :=
  ∀ bindings ∈ session.bindings, bindings.Lit told

/-- Whether the flags tell what is in flight. -/
def Truthful (session : Session) : Prop := session.Lit session.looksUp

theorem truthful_start (config : SessionConfig) (store : FaultyStore) :
    (start config store).Truthful := every_start _ config store

theorem Lit.respond {told : FilterName → Bool} (picker : told .userList = false) {input : Input}
    (apart : input.lookup? = none)
    (stays : ∀ now entity, input ≠ .command now (.switchEntity entity)) {session : Session}
    (lit : session.Lit told) (regular : session.Regular) :
    (session.respond input).result.Lit told := by
  have every : session.Every fun widget => widget.loading = told widget.name := lit
  refine every.respond ?_ ?_ ?_ regular
  · intro before after told altered
    rw [altered.loading apart, altered.name]
    exact told
  · intro bindings userLists stored
    exact picker.symm
  · intro now entity isSwitch
    exact absurd isSwitch (stays now entity)

theorem looksUp_fetchUserLists (session : Session) :
    session.fetchUserLists.result.looksUp = session.looksUp := by
  unfold fetchUserLists
  split
  · split
    · funext filter
      exact congrFun (RequestSlots.inFlight_start .userLists session.slots) (.typeahead filter)
    · rfl
  · rfl

theorem looksUp_setUserName (session : Session) (name : Option String) :
    (session.setUserName name).result.looksUp = session.looksUp := by
  unfold setUserName
  dsimp only
  split
  · rfl
  · obtain ⟨slots, _⟩ := idle_unbindUserLists { session with
      userName := effectiveName name
      forceReload := false
      slots := session.slots.cancel .userLists }
    rw [Traced.result_andThen, Traced.result_andThen, looksUp_fetchUserLists]
    funext filter
    refine (congrArg (fun slots => slots.inFlight (.typeahead filter)) slots).trans ?_
    exact congrFun (RequestSlots.inFlight_cancel .userLists session.slots) (.typeahead filter)

theorem looksUp_respond {session : Session} {input : Input} (own : input.isOwn = true)
    (apart : input.lookup? = none)
    (stays : ∀ now entity, input ≠ .command now (.switchEntity entity)) :
    (session.respond input).result.looksUp = session.looksUp := by
  -- What asks for user lists starts a request of another class; what does not ask keeps the slots.
  by_cases asks : input.asks = true
  · cases input with
    | command now command =>
        cases command with
        | switchEntity entity => exact absurd rfl (stays now entity)
        | setUserName name => exact looksUp_setUserName session name
        | reloadUserLists => exact looksUp_fetchUserLists session
        | query filter text => cases apart
        | _ => cases asks
    | _ => cases asks
  · have idle : (session.respond input).result.slots = session.slots :=
      (idle_respond own (Bool.eq_false_iff.2 asks)).1
    funext filter
    rw [looksUp, looksUp, idle]

theorem looksUp_switchEntity (session : Session) (entity : EntityType) :
    (session.switchEntity entity).result.looksUp = fun _ => false := by
  rw [switchEntity_eq, Traced.result_andThen, looksUp_fetchUserLists]
  funext filter
  exact congrFun (RequestSlots.inFlight_start .filterValues session.slots.cancelAll)
    (.typeahead filter)

theorem truthful_switchEntity (session : Session) (entity : EntityType) :
    (session.switchEntity entity).result.Truthful := by
  intro bindings bound
  rw [bindings_switchEntity] at bound
  cases bound
  rw [looksUp_switchEntity]
  exact Bindings.lit_bind _ _ _

theorem looksUp_of_update {session : Session} {slots : RequestSlots} {filter : FilterName}
    {busy : Bool}
    (change : slots.inFlight = Function.update session.slots.inFlight (.typeahead filter) busy) :
    { session with slots }.looksUp = Function.update session.looksUp filter busy := by
  funext other
  rw [looksUp, change]
  by_cases same : other = filter
  · rw [same, Function.update_self, Function.update_self]
  · have apart : RequestClass.typeahead other ≠ .typeahead filter := fun equal =>
      same (RequestClass.typeahead.inj equal)
    rw [Function.update_of_ne apart, Function.update_of_ne same]
    rfl

theorem Truthful.flagged {session : Session} (truthful : session.Truthful) {bindings : Bindings}
    (bound : session.bindings = some bindings) {slots : RequestSlots} {filter : FilterName}
    {busy : Bool}
    (change : slots.inFlight = Function.update session.slots.inFlight (.typeahead filter) busy) :
    { session with
      slots
      bindings := some (bindings.update filter fun widget => widget.setLoading busy).result
        }.Truthful := by
  rintro _ ⟨⟩
  have told := looksUp_of_update change
  exact told ▸ (truthful bindings bound).setLoading filter busy

theorem Truthful.lookUp {session : Session} (truthful : session.Truthful) {bindings : Bindings}
    (bound : session.bindings = some bindings) (filter : FilterName) (source : TypeaheadSource)
    (input : String) : (session.lookUp bindings filter source input).result.Truthful := by
  unfold Session.lookUp
  dsimp only
  cases (Text.trim input.toList).isEmpty with
  | true => exact truthful.flagged bound (RequestSlots.inFlight_cancel _ _)
  | false => exact truthful.flagged bound (RequestSlots.inFlight_start _ _)

theorem Truthful.query {session : Session} (truthful : session.Truthful) (filter : FilterName)
    (input : String) : (session.query filter input).result.1.Truthful := by
  unfold Session.query
  split
  · exact truthful
  · rename_i bindings bound
    split
    · unfold queryYears draw
      rw [Traced.result_andThen]
      split
      · exact truthful
      · rintro _ ⟨⟩
        exact (truthful bindings bound).offer .year _
    split
    · exact truthful
    split
    · exact truthful
    · exact truthful.lookUp bound filter _ input

theorem Truthful.acceptSuggestions {session : Session} (truthful : session.Truthful)
    (filter : FilterName) (reply : Except Error (List WhitelistEntry)) :
    ({ session with slots := session.slots.release (.typeahead filter) }.acceptSuggestions filter
      reply).result.Truthful := by
  have change := RequestSlots.inFlight_release (.typeahead filter) session.slots
  unfold Session.acceptSuggestions
  dsimp only
  split
  · rename_i nothing
    intro bindings bound
    rw [nothing] at bound
    cases bound
  · rename_i bindings bound
    have flagged := truthful.flagged bound change
    split
    · rename_i absent
      rw [Option.isNone_iff_eq_none] at absent
      rw [Bindings.result_update_of_absent absent] at flagged
      have isBound : { session with
          slots := session.slots.release (.typeahead filter) }.bindings = some bindings := bound
      rw [Traced.result_still, ← with_bindings isBound]
      exact flagged
    · unfold draw
      rw [Traced.result_andThen]
      split
      · exact flagged
      · rintro _ ⟨⟩
        exact (flagged _ rfl).offer filter _

theorem Asks.cls_of_choices {session : Session} {request : Request}
    (asks : session.Asks request) {entity : EntityType} (call : request.call = .choices entity) :
    request.ticket.cls = .filterValues := by
  cases asks with
  | choices cls chosen => exact cls
  | _ => cases call

theorem Asks.cls_of_userLists {session : Session} {request : Request}
    (asks : session.Asks request) {name : String} {entity : EntityType} {forced : Bool}
    (call : request.call = .userLists name entity forced) : request.ticket.cls = .userLists := by
  cases asks with
  | userLists cls chosen user media => exact cls
  | _ => cases call

section

variable {session : Session}
  (held : ∀ ticket ∈ session.slots.held, ∃ request : Request, request.ticket = ticket ∧
    session.Asks request)

include held

theorem looksUp_cases {filter : FilterName} (busy : session.looksUp filter = true) :
    ∃ entity source, session.entity? = some entity ∧ filter ∈ entity.filterSet ∧
      filter.definition.typeahead? = some source := by
  obtain ⟨ticket, isHeld, cls⟩ := RequestSlots.inFlight_iff.1 busy
  obtain ⟨request, rfl, asks⟩ := held ticket isHeld
  cases asks with
  | suggestions own chosen offered source =>
      cases own.symm.trans cls
      exact ⟨_, _, chosen, offered, source⟩
  | choices own chosen => cases own.symm.trans cls
  | userLists own chosen user media => cases own.symm.trans cls

theorem looksUp_userList : session.looksUp .userList = false := by
  rw [Bool.eq_false_iff]
  intro busy
  obtain ⟨_, _, _, _, source⟩ := looksUp_cases held busy
  cases source

theorem Truthful.respond (truthful : session.Truthful) (regular : session.Regular)
    {input : Input} (own : input.isOwn = true) : (session.respond input).result.Truthful := by
  have others : input.lookup? = none →
      (∀ now entity, input ≠ .command now (.switchEntity entity)) →
      (session.respond input).result.Truthful := by
    intro apart stays
    rw [Truthful, looksUp_respond own apart stays]
    exact Lit.respond (looksUp_userList held) apart stays truthful regular
  cases input with
  | command now command =>
      cases command with
      | switchEntity entity => exact truthful_switchEntity session entity
      | query filter text => exact truthful.query filter text
      | _ => exact others rfl fun _ _ => nofun
  | completion completion => cases own
  | _ => exact others rfl fun _ _ => nofun

theorem Truthful.complete_apart (truthful : session.Truthful) (regular : session.Regular)
    {completion : Completion} (apart : (Input.completion completion).lookup? = none)
    (cls : ∀ filter, completion.ticket.cls ≠ .typeahead filter) :
    (session.complete completion).result.Truthful := by
  have slots := (finish_complete session completion).1
  have same : (session.complete completion).result.looksUp = session.looksUp := by
    funext filter
    rw [looksUp, looksUp, slots, RequestSlots.finish]
    split
    · rw [RequestSlots.inFlight_release, Function.update_of_ne (Ne.symm (cls filter))]
    · rfl
  rw [Truthful, same]
  refine Lit.respond (looksUp_userList held) apart ?_ truthful regular
  intro now entity isSwitch
  cases isSwitch

end

end Session

theorem Message.complete_of_current (message : Message) {session : Session}
    (current : session.slots.isCurrent message.request.ticket = true) :
    session.complete message.completion =
      { session with slots := session.slots.release message.request.ticket.cls }.accept
        message.completion := by
  have finished : session.slots.finish message.request.ticket =
      session.slots.release message.request.ticket.cls := if_pos current
  rw [← finished]
  rw [← message.yields.ticket] at current ⊢
  exact if_pos current

namespace World

theorem Orderly.truthful_complete {history : List Occurrence} {world : World}
    (orderly : world.Orderly history) (truthful : world.session.Truthful) {message : Message}
    (queued : message ∈ world.messages) :
    (world.session.complete message.completion).result.Truthful := by
  by_cases current : world.session.slots.isCurrent message.completion.ticket = true
  · have asks := (orderly.asked queued current).2
    rw [message.yields.ticket] at current
    have accepted := message.complete_of_current current
    obtain ⟨request, completion, yields⟩ := message
    cases yields with
    | choices call reply =>
        refine truthful.complete_apart orderly.held orderly.regular rfl fun filter => ?_
        rw [Completion.ticket, asks.cls_of_choices call]
        exact nofun
    | userLists call reply =>
        refine truthful.complete_apart orderly.held orderly.regular rfl fun filter => ?_
        rw [Completion.ticket, asks.cls_of_userLists call]
        exact nofun
    | @suggestions source text filter call cls reply =>
        rw [accepted, cls]
        exact truthful.acceptSuggestions filter reply
  · have passed : world.session.complete message.completion = .still world.session :=
      if_neg current
    rw [passed]
    exact truthful

theorem Reaches.truthful {config : SessionConfig} {store : FaultyStore}
    {history : List Occurrence} {world : World} (reached : Reaches config store history world) :
    world.session.Truthful := by
  refine reached.always (Session.truthful_start config store) ?_ ?_
  · intro _ _ reached truthful input own
    exact truthful.respond reached.orderly.held reached.orderly.regular own
  · intro _ _ reached truthful message queued
    exact reached.orderly.truthful_complete truthful queued

theorem Orderly.bound_of_looksUp {history : List Occurrence} {world : World}
    (orderly : world.Orderly history) {filter : FilterName}
    (busy : world.session.looksUp filter = true) :
    ∃ bindings ∈ world.session.bindings, filter ∈ bindings.entity.filterSet ∧
      ∃ widget ∈ bindings.widgets, widget.name = filter := by
  obtain ⟨entity, source, chosen, offered, looksUp⟩ := Session.looksUp_cases orderly.held busy
  obtain ⟨bindings, bound, rfl⟩ := Option.map_eq_some_iff.1 chosen
  have different : filter ≠ .userList := by
    rintro rfl
    cases looksUp
  exact ⟨bindings, bound, offered,
    Bindings.mem_names.1 ((orderly.regular bindings bound).whole filter offered different)⟩

/-- Whatever was asked, answered, given up and delivered until now: the loading flag of a bound
widget is raised just if its filter looks values up and a request of its own holds its slot; and
a lookup in flight, which holds its slot with a request that is still under way, is for a bound
widget of the present entity type. -/
theorem loading_iff_in_flight (config : SessionConfig) (store : FaultyStore)
    {history : List Occurrence} {world : World} (reached : Reaches config store history world) :
    (∀ bindings ∈ world.session.bindings, ∀ widget ∈ bindings.widgets,
      (widget.loading = true ↔ (∃ source, widget.definition.typeahead? = some source) ∧
        world.session.slots.inFlight (.typeahead widget.name) = true)) ∧
    ∀ filter, world.session.slots.inFlight (.typeahead filter) = true →
      (∃ request ∈ world.requests, request.ticket.cls = .typeahead filter ∧
        request.ticket ∈ world.session.slots.held) ∧
      ∃ bindings ∈ world.session.bindings, filter ∈ bindings.entity.filterSet ∧
        ∃ widget ∈ bindings.widgets, widget.name = filter := by
  have orderly := reached.orderly
  constructor
  · intro bindings bound widget isBound
    have told := reached.truthful bindings bound widget isBound
    have own := ((orderly.regular bindings bound).widgets widget isBound).definition
    rw [told]
    constructor
    · intro busy
      obtain ⟨_, source, _, _, looksUp⟩ := Session.looksUp_cases orderly.held busy
      exact ⟨⟨source, own ▸ looksUp⟩, busy⟩
    · exact And.right
  · intro filter busy
    refine ⟨?_, orderly.bound_of_looksUp busy⟩
    obtain ⟨ticket, isHeld, cls⟩ := RequestSlots.inFlight_iff.1 busy
    obtain ⟨request, member, rfl⟩ := List.mem_map.1 (orderly.tidy.held ticket isHeld).1
    exact ⟨request, member, cls, isHeld⟩

def studiosForB : Message where
  request := ⟨⟨.typeahead .studio, 1, 1⟩, .suggestions .studio "b"⟩
  completion := .suggestions .studio ⟨.typeahead .studio, 1, 1⟩ (.ok [])
  yields := .suggestions rfl rfl _

def choosingAnime : Session :=
  ((Session.start (.initial []) (.sound .empty)).respond
    (.command 0 (.switchEntity .anime))).result

def typedB : Session := (choosingAnime.respond (.command 1 (.query .studio "b"))).result

def typedBo : Session := (typedB.respond (.command 2 (.query .studio "bo"))).result

def studiosTooLate : World :=
  ⟨(typedBo.complete studiosForB.completion).result,
    [⟨⟨.filterValues, 1, 0⟩, .choices .anime⟩,
      ⟨⟨.typeahead .studio, 2, 2⟩, .suggestions .studio "bo"⟩], []⟩

def typingOfStudio : List Occurrence :=
  [.responded (.start (.initial []) (.sound .empty)) (.command 0 (.switchEntity .anime)),
    .responded choosingAnime (.command 1 (.query .studio "b")),
    .responded typedB (.command 2 (.query .studio "bo")), .answered studiosForB,
    .delivered typedBo studiosForB]

theorem loading_iff_in_flight_of_superseded :
    Reaches (.initial []) (.sound .empty) typingOfStudio studiosTooLate ∧
      studiosTooLate.session.slots.inFlight (.typeahead .studio) = true ∧
      (∀ bindings ∈ studiosTooLate.session.bindings, ∀ widget ∈ bindings.widgets,
        widget.name = .studio → widget.loading = true) ∧
      ∃ bindings ∈ studiosTooLate.session.bindings, ∃ widget ∈ bindings.widgets,
        widget.name = .studio := by
  have typed : Reaches (.initial []) (.sound .empty)
      [.responded (.start (.initial []) (.sound .empty)) (.command 0 (.switchEntity .anime)),
        .responded choosingAnime (.command 1 (.query .studio "b")),
        .responded typedB (.command 2 (.query .studio "bo"))]
      ⟨typedBo, [⟨⟨.filterValues, 1, 0⟩, .choices .anime⟩] ++ studiosForB.request ::
        [⟨⟨.typeahead .studio, 2, 2⟩, .suggestions .studio "bo"⟩], []⟩ :=
    .step (.step (.step .start (.respond rfl _)) (.respond rfl _)) (.respond rfl _)
  have reached : Reaches (.initial []) (.sound .empty) typingOfStudio studiosTooLate :=
    (typed.step (.answer studiosForB rfl)).step (@Step.deliver _ [] [] studiosForB rfl)
  have busy : studiosTooLate.session.slots.inFlight (.typeahead .studio) = true := by
    decide +kernel
  obtain ⟨flags, lookups⟩ := loading_iff_in_flight _ _ reached
  obtain ⟨_, bindings, bound, _, found⟩ := lookups .studio busy
  refine ⟨reached, busy, ?_, bindings, bound, found⟩
  intro bindings bound widget isBound named
  have source : widget.definition = FilterName.studio.definition := by
    rw [← named]
    exact ((reached.orderly.regular bindings bound).widgets widget isBound).definition
  refine (flags bindings bound widget isBound).2 ⟨⟨.studio, ?_⟩, ?_⟩
  · rw [source]
    rfl
  · rw [named]
    exact busy

end World

end MediaFilter
