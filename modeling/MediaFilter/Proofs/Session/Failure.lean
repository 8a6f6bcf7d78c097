import MediaFilter.Proofs.Bindings.Refusal
import MediaFilter.Proofs.Session.Loading

/-!
What fails, fails as a whole.  A command that is refused leaves the session as it was and has no
effects.  A reply that brings an error gives its slot back, stops what shows that it was awaited,
and is announced once.
-/

namespace MediaFilter

theorem Traced.eq_still {ε α : Type} {traced : Traced ε α} {value : α}
    (result : traced.result = value) (trace : traced.trace = []) : traced = .still value := by
  cases traced
  cases result
  cases trace
  rfl

namespace Bindings

theorem trace_update {bindings : Bindings} (sound : bindings.Sound) (name : FilterName)
    (change : Widget → Drawn Widget) :
    (bindings.update name change).trace =
      (bindings.get? name).elim [] fun widget => (change widget).trace := by
  have distinct := sound.distinct
  unfold names at distinct
  unfold update get?
  rw [Traced.trace_map, Traced.trace_each]
  generalize bindings.widgets = widgets at distinct
  induction widgets with
  | nil => rfl
  | cons first widgets induction =>
      obtain ⟨fresh, distinct⟩ := List.nodup_cons.1 distinct
      by_cases named : first.name = name
      · -- The names are distinct, so no widget behind this one is drawn.
        have rest : widgets.flatMap (fun widget =>
            (if widget.name = name then change widget else .still widget :
              Drawn Widget).trace) = [] := by
          refine List.flatMap_eq_nil_iff.2 fun widget member => ?_
          have other : widget.name ≠ name := fun same =>
            fresh (List.mem_map.2 ⟨widget, member, same.trans named.symm⟩)
          rw [if_neg other]
          rfl
        rw [List.flatMap_cons, rest, List.append_nil, if_pos named,
          List.find?_cons_of_pos (by simpa using named)]
        rfl
      · rw [List.flatMap_cons, induction distinct, if_neg named,
          List.find?_cons_of_neg (by simpa using named)]
        rfl

theorem update_of_absent {bindings : Bindings} (sound : bindings.Sound) {name : FilterName}
    (absent : bindings.get? name = none) (change : Widget → Drawn Widget) :
    bindings.update name change = .still bindings := by
  refine Traced.eq_still (result_update_of_absent absent change) ?_
  rw [trace_update sound, absent]
  rfl

end Bindings

namespace Command

def filter? : Command → Option FilterName
  | .edit filter _ => some filter
  | .query filter _ => some filter
  | _ => none

/-- Whether a command makes sense only for a chosen entity type. -/
def isForWidgets : Command → Bool
  | .edit _ _ => true
  | .query _ _ => true
  | .clearFilters => true
  | _ => false

end Command

namespace Session

/-- Why a session refuses a command, and what it answers. -/
inductive Refuses (session : Session) : Command → Error → Prop
  | unchosen {command : Command} (forWidgets : command.isForWidgets = true)
      (nothing : session.bindings = none) : Refuses session command .noEntity
  | unbound {command : Command} {filter : FilterName} {bindings : Bindings}
      (about : command.filter? = some filter) (bound : session.bindings = some bindings)
      (absent : bindings.get? filter = none) : Refuses session command (unbound filter)
  | edit {filter : FilterName} {edit : Edit} {bindings : Bindings} {widget : Widget}
      {refusal : Refusal} (bound : session.bindings = some bindings)
      (found : bindings.get? filter = some widget) (denies : widget.Denies edit refusal) :
      Refuses session (.edit filter edit) refusal.error
  | query {filter : FilterName} {text : String} {bindings : Bindings} {widget : Widget}
      (bound : session.bindings = some bindings) (found : bindings.get? filter = some widget)
      (notYear : filter ≠ .year) (vain : widget.definition.typeahead? = none) :
      Refuses session (.query filter text)
        (.invalidInput ("filter " ++ filter.wire ++ " has no typeahead lookup"))

theorem edit_of_refused {session : Session} {bindings : Bindings} (sound : bindings.Sound)
    (bound : session.bindings = some bindings) (now : Nat) {filter : FilterName} {edit : Edit}
    {widget : Widget} {refusal : Refusal} (found : bindings.get? filter = some widget)
    (refused : widget.editedValue edit = .error refusal) :
    session.edit now filter edit = .still (session, .error refusal.error) := by
  have applied : widget.apply edit = ⟨widget, .error refusal, [], []⟩ := by
    rw [Widget.apply, refused]
  have same : (bindings.update filter fun _ => .still widget).result = bindings :=
    Bindings.update_eq_self fun other isBound named => (sound.eq_of_get? found isBound named).symm
  have edited : bindings.edit? filter edit = some ⟨bindings, .error refusal, [], []⟩ := by
    rw [Bindings.edit?, found, Option.map_some, applied]
    dsimp only
    rw [same]
  unfold Session.edit
  rw [bound]
  dsimp only
  rw [edited]
  exact congrArg (fun whole => Traced.still (whole, Except.error refusal.error))
    (with_bindings bound)

theorem query_of_absent {session : Session} {bindings : Bindings} (sound : bindings.Sound)
    (bound : session.bindings = some bindings) {filter : FilterName}
    (absent : bindings.get? filter = none) (text : String) :
    session.query filter text = .still (session, .error (unbound filter)) := by
  unfold Session.query
  rw [bound]
  dsimp only
  split
  · rename_i isYear
    subst isYear
    have nothing : bindings.offerYears text = .still (bindings, none) := by
      rw [Bindings.offerYears, Bindings.offer, Bindings.update_of_absent sound absent, absent]
      rfl
    rw [queryYears, nothing]
    rfl
  · rw [absent]

theorem Refuses.handle {session : Session} (regular : session.Regular) (now : Nat)
    {command : Command} {error : Error} (refuses : session.Refuses command error) :
    session.handle now command = .still (session, .error error) := by
  cases refuses with
  | unchosen forWidgets nothing =>
      cases command with
      | edit filter edit => rw [Session.handle, Session.edit, nothing]
      | query filter text => rw [Session.handle, Session.query, nothing]
      | clearFilters => rw [Session.handle, Session.clearFilters, nothing]
      | _ => cases forWidgets
  | @unbound _ filter bindings about bound absent =>
      cases command with
      | edit other edit =>
          cases about
          rw [Session.handle, Session.edit, bound]
          dsimp only
          rw [Bindings.edit?, absent]
          rfl
      | query other text =>
          cases about
          exact query_of_absent (regular bindings bound).toSound bound absent text
      | _ => cases about
  | edit bound found denies =>
      have own := (regular _ bound).widgets _ (Bindings.mem_of_get? found).1
      exact edit_of_refused (regular _ bound).toSound bound now found
        ((Widget.editedValue_error_iff own.fits.kind).2 denies)
  | query bound found notYear vain =>
      rw [Session.handle, Session.query, bound]
      dsimp only
      rw [if_neg notYear, found]
      dsimp only
      rw [vain]

theorem refuses_of_edit {session : Session} (regular : session.Regular) {now : Nat}
    {filter : FilterName} {edit : Edit} {error : Error}
    (answer : (session.edit now filter edit).result.2 = .error error) :
    session.Refuses (.edit filter edit) error := by
  unfold Session.edit at answer
  split at answer
  · rename_i nothing
    cases answer
    exact .unchosen rfl nothing
  rename_i bindings bound
  split at answer
  · rename_i absent
    cases answer
    exact .unbound rfl bound (Option.map_eq_none_iff.1 absent)
  rename_i edited found
  obtain ⟨widget, get, rfl⟩ := Option.map_eq_some_iff.1 found
  have outcome : (((widget.apply edit).outcome.mapError Refusal.error).map Answer.edited) =
    .error error := answer
  unfold Widget.apply at outcome
  split at outcome
  · rename_i refusal refused
    cases outcome
    have own := (regular bindings bound).widgets widget (Bindings.mem_of_get? get).1
    exact .edit bound get ((Widget.editedValue_error_iff own.fits.kind).1 refused)
  · cases outcome
  · cases outcome

theorem refuses_of_query {session : Session} {filter : FilterName} {text : String}
    {error : Error} (answer : (session.query filter text).result.2 = .error error) :
    session.Refuses (.query filter text) error := by
  unfold Session.query at answer
  split at answer
  · rename_i nothing
    cases answer
    exact .unchosen rfl nothing
  rename_i bindings bound
  split at answer
  · rename_i isYear
    subst isYear
    unfold queryYears draw at answer
    rw [Traced.result_andThen] at answer
    split at answer
    · rename_i absent
      cases answer
      exact .unbound rfl bound (Option.map_eq_none_iff.1 absent)
    · cases answer
  rename_i notYear
  split at answer
  · rename_i absent
    cases answer
    exact .unbound rfl bound absent
  rename_i widget found
  split at answer
  · rename_i vain
    cases answer
    exact .query bound found notYear vain
  · cases answer

theorem handle_error_iff {session : Session} (regular : session.Regular) (now : Nat)
    (command : Command) (error : Error) :
    (session.handle now command).result.2 = .error error ↔ session.Refuses command error := by
  constructor
  · intro answer
    cases command with
    | edit filter edit => exact refuses_of_edit regular answer
    | query filter text => exact refuses_of_query answer
    | clearFilters =>
        unfold Session.handle Session.clearFilters at answer
        dsimp only at answer
        split at answer
        · rename_i nothing
          cases answer
          exact .unchosen rfl nothing
        · cases answer
    | _ => cases answer
  · intro refuses
    rw [refuses.handle regular now]
    rfl

end Session

def Completion.failure? : Completion → Option Event
  | .choices _ (.error error) =>
    some (.failure ("Failed to load filter values: " ++ error.message))
  | .userLists _ (.error error) =>
    some (.failure ("Failed to load user lists: " ++ error.message))
  | .suggestions _ _ (.error error) => some (.failure ("Lookup failed: " ++ error.message))
  | _ => none

namespace Bindings

def relieved (lookup : Option FilterName) (bindings : Bindings) : Bindings :=
  bindings.withWidgets (bindings.widgets.map fun widget =>
    if lookup = some widget.name then { widget with loading := false } else widget)

theorem relieved_none (bindings : Bindings) : bindings.relieved none = bindings := by
  have same : bindings.widgets.map (fun widget =>
      if none = some widget.name then { widget with loading := false } else widget) =
        bindings.widgets := by
    simp
  rw [relieved, same]
  rfl

theorem result_setLoading_false (filter : FilterName) (bindings : Bindings) :
    (bindings.update filter fun widget => widget.setLoading false).result =
      bindings.relieved (some filter) := by
  unfold update relieved
  rw [Traced.result_map, Traced.result_each]
  refine congrArg bindings.withWidgets (List.map_congr_left fun widget _ => ?_)
  by_cases named : widget.name = filter
  · rw [if_pos named, if_pos (congrArg some named.symm), Widget.result_setLoading]
  · rw [if_neg named, if_neg fun same => named (Option.some.inj same).symm]
    rfl

end Bindings

namespace Session

/-- What is left of a session when a request failed that may have been a lookup. -/
def withdrawn (slots : RequestSlots) (lookup : Option FilterName) (session : Session) : Session :=
  { session with slots, bindings := session.bindings.map (Bindings.relieved lookup) }

theorem withdrawn_none (slots : RequestSlots) (session : Session) :
    session.withdrawn slots none = { session with slots } := by
  have same : session.bindings.map (Bindings.relieved none) = session.bindings := by
    cases session.bindings with
    | none => rfl
    | some bindings => rw [Option.map_some, Bindings.relieved_none]
  rw [withdrawn, same]

theorem Asks.bound {session : Session} {request : Request} (asks : session.Asks request) :
    ∃ bindings, session.bindings = some bindings := by
  have chosen : ∃ entity, session.entity? = some entity := by
    cases asks with
    | choices cls chosen => exact ⟨_, chosen⟩
    | userLists cls chosen user media => exact ⟨_, chosen⟩
    | suggestions cls chosen offered source => exact ⟨_, chosen⟩
  obtain ⟨entity, isEntity⟩ := chosen
  obtain ⟨bindings, bound, _⟩ := Option.map_eq_some_iff.1 isEntity
  exact ⟨bindings, bound⟩

theorem acceptChoices_error {session : Session} {bindings : Bindings}
    (bound : session.bindings = some bindings) (slots : RequestSlots) (error : Error) :
    { session with slots }.acceptChoices (.error error) =
      ⟨session.withdrawn slots none,
        [.emitted (.failure ("Failed to load filter values: " ++ error.message))]⟩ := by
  rw [withdrawn_none]
  unfold acceptChoices
  dsimp only
  rw [bound]
  rfl

theorem acceptUserLists_error (session : Session) (slots : RequestSlots) (error : Error) :
    { session with slots }.acceptUserLists (.error error) =
      ⟨session.withdrawn slots none,
        [.emitted (.failure ("Failed to load user lists: " ++ error.message))]⟩ := by
  rw [withdrawn_none]
  rfl

theorem acceptSuggestions_error {session : Session} {bindings : Bindings}
    (sound : bindings.Sound) (bound : session.bindings = some bindings) {filter : FilterName}
    {widget : Widget} (found : bindings.get? filter = some widget)
    (flagged : widget.loading = true) (slots : RequestSlots) (error : Error) :
    { session with slots }.acceptSuggestions filter (.error error) =
      ⟨session.withdrawn slots (some filter),
        [.drew ⟨filter, .loaded⟩, .emitted (.failure ("Lookup failed: " ++ error.message))]⟩ := by
  have named := (Bindings.mem_of_get? found).2
  have drawn : bindings.update filter (fun widget => widget.setLoading false) =
      ⟨bindings.relieved (some filter), [⟨filter, .loaded⟩]⟩ := by
    have trace := Bindings.trace_update sound filter fun widget => widget.setLoading false
    have lowered : (widget.setLoading false).trace = [⟨filter, .loaded⟩] := by
      rw [Widget.setLoading, flagged, ← named]
      rfl
    rw [found, Option.elim_some, lowered] at trace
    rw [← Bindings.result_setLoading_false, ← trace]
  have isBound : { session with slots }.bindings = some bindings := bound
  unfold acceptSuggestions
  rw [isBound]
  dsimp only
  rw [found, if_neg (by simp), drawn, withdrawn, bound]
  rfl

end Session

namespace World

variable {config : SessionConfig} {store : FaultyStore} {history : List Occurrence}
  {world : World}

/-- A reply that counts and brings an error changes nothing but its slot and what shows that it was
awaited. -/
theorem Reaches.complete_failed (reached : Reaches config store history world)
    {message : Message} (queued : message ∈ world.messages)
    (current : world.session.slots.isCurrent message.request.ticket = true) {alert : Event}
    (failed : message.completion.failure? = some alert) :
    world.session.complete message.completion =
      ⟨world.session.withdrawn (world.session.slots.release message.request.ticket.cls)
          (Input.completion message.completion).lookup?,
        ((Input.completion message.completion).lookup?.toList.map fun filter =>
          .drew ⟨filter, .loaded⟩) ++ [.emitted alert]⟩ := by
  have orderly := reached.orderly
  have isCurrent := current
  rw [← message.yields.ticket] at isCurrent
  obtain ⟨isHeld, asks⟩ := orderly.asked queued isCurrent
  rw [message.complete_of_current current]
  obtain ⟨bindings, bound⟩ := asks.bound
  obtain ⟨request, completion, yields⟩ := message
  cases yields with
  | choices call reply =>
      cases reply with
      | error error =>
          cases failed
          exact Session.acceptChoices_error bound _ error
      | ok choices => cases failed
  | userLists call reply =>
      cases reply with
      | error error =>
          cases failed
          exact Session.acceptUserLists_error world.session _ error
      | ok lists => cases failed
  | @suggestions source text filter call cls reply =>
      cases reply with
      | error error =>
          cases failed
          -- The lookup was in flight, so a widget is bound for it, and its flag is still raised.
          have busy : world.session.looksUp filter = true :=
            RequestSlots.inFlight_iff.2 ⟨request.ticket, isHeld, cls⟩
          obtain ⟨_, isBound, _, widget, member, named⟩ := orderly.bound_of_looksUp busy
          rw [Option.mem_def.1 isBound] at bound
          cases bound
          have sound := (orderly.regular bindings isBound).toSound
          have found := sound.get?_of_mem member
          have flagged := reached.truthful bindings isBound widget member
          rw [named] at found flagged
          exact Session.acceptSuggestions_error sound isBound found (flagged.trans busy) _ error
      | ok entries => cases failed

/-- Wherever a session has come to: a command is answered with an error just if there is a reason
to refuse it, and then leaves the session as it was and has no effects; and a reply that counts and
brings an error gives its slot back, lowers the loading flag of the widget that it was for if it was
for one, and does nothing else but announce the error once. -/
theorem failures_atomic (config : SessionConfig) (store : FaultyStore)
    {history : List Occurrence} {world : World} (reached : Reaches config store history world) :
    (∀ now command error,
      ((world.session.handle now command).result.2 = .error error ↔
        world.session.Refuses command error) ∧
      ((world.session.handle now command).result.2 = .error error →
        world.session.handle now command = .still (world.session, .error error))) ∧
    ∀ message ∈ world.messages, ∀ alert,
      world.session.slots.isCurrent message.request.ticket = true →
      message.completion.failure? = some alert →
      world.session.complete message.completion =
        ⟨{ world.session with
            slots := world.session.slots.release message.request.ticket.cls
            bindings := world.session.bindings.map fun bindings =>
              bindings.relieved (Input.completion message.completion).lookup? },
          ((Input.completion message.completion).lookup?.toList.map fun filter =>
            .drew ⟨filter, .loaded⟩) ++ [.emitted alert]⟩ := by
  have regular := reached.orderly.regular
  constructor
  · intro now command error
    have refused := Session.handle_error_iff regular now command error
    exact ⟨refused, fun answer => (refused.1 answer).handle regular now⟩
  · intro message queued alert current failed
    exact reached.complete_failed queued current failed

def studiosUnreachable : Message where
  request := studiosForB.request
  completion := .suggestions .studio studiosForB.request.ticket (.error (.request "timeout"))
  yields := .suggestions rfl rfl _

def lookupFailed : World :=
  ⟨typedB, [⟨⟨.filterValues, 1, 0⟩, .choices .anime⟩], [studiosUnreachable]⟩

def failureOfLookup : List Occurrence :=
  [.responded (.start (.initial []) (.sound .empty)) (.command 0 (.switchEntity .anime)),
    .responded choosingAnime (.command 1 (.query .studio "b")), .answered studiosUnreachable]

theorem failures_atomic_of_lookup :
    Reaches (.initial []) (.sound .empty) failureOfLookup lookupFailed ∧
      lookupFailed.session.handle 2 (.edit .genre (.setMin { val := 1 })) =
        .still (lookupFailed.session,
          .error (.invalidInput "SetMin(1) does not apply to the MultiValue widget genre")) ∧
      (lookupFailed.session.complete studiosUnreachable.completion).trace =
        [.drew ⟨.studio, .loaded⟩,
          .emitted (.failure "Lookup failed: Request error: timeout")] := by
  have typed : Reaches (.initial []) (.sound .empty)
      [.responded (.start (.initial []) (.sound .empty)) (.command 0 (.switchEntity .anime)),
        .responded choosingAnime (.command 1 (.query .studio "b"))]
      ⟨typedB, [⟨⟨.filterValues, 1, 0⟩, .choices .anime⟩] ++ studiosUnreachable.request :: [],
        []⟩ :=
    .step (.step .start (.respond rfl _)) (.respond rfl _)
  have reached : Reaches (.initial []) (.sound .empty) failureOfLookup lookupFailed :=
    typed.step (@Step.answer _ [_] [] studiosUnreachable rfl)
  obtain ⟨commands, replies⟩ := failures_atomic _ _ reached
  refine ⟨reached, (commands _ _ _).2 rfl, ?_⟩
  rw [replies studiosUnreachable (List.mem_singleton_self _) _ (by decide +kernel) rfl]
  rfl

end World

end MediaFilter
