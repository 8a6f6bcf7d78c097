import MediaFilter.Proofs.Bindings.Frame
import MediaFilter.Session.Run

/-!
What a session can do, said once.  Every response to an input is a chain of moves of a few kinds,
and an evaluation of what the widgets stand for is one of them.  Properties of whole runs follow
from what each kind of move keeps.
-/

namespace MediaFilter

namespace Effect

/-- Whether an effect neither stores nor publishes nor announces a change. -/
def isQuiet : Effect → Bool
  | .drew _ => true
  | .requested _ _ => true
  | .stored _ _ _ => false
  | .published _ => false
  | .emitted (.filterChanged _ _) => false
  | .emitted _ => true

end Effect

namespace Session

def Sound (session : Session) : Prop := ∀ bindings ∈ session.bindings, bindings.Sound

/-- The widgets may offer other choices, and to another user, but they stand for the same. -/
structure Steady (before after : Session) : Prop where
  entity : after.entity? = before.entity?
  expression : after.expression = before.expression
  sound : before.Sound → after.Sound
  notifier : after.notifier = before.notifier
  context : after.context = before.context
  memory : after.store.memory = before.store.memory

structure Alike (before after : Session) : Prop extends Steady before after where
  userName : after.userName = before.userName

/-- The widgets may stand for something else, which is not announced yet. -/
structure Unannounced (before after : Session) : Prop where
  entity : after.entity? = before.entity?
  sound : before.Sound → after.Sound
  announced : after.notifier.announced = before.notifier.announced
  context : after.context = before.context
  memory : after.store.memory = before.store.memory

def republish (session : Session) : Acted Session := session.publish session.context.expression

inductive Move : Session → List Effect → Session → Prop
  /-- Choices, requests and messages. -/
  | quiet {before after : Session} {effects : List Effect} (alike : before.Alike after)
      (silent : ∀ effect ∈ effects, effect.isQuiet = true) : Move before effects after
  /-- A typed edit, of which the announcement is put off. -/
  | typed {before after : Session} (unannounced : before.Unannounced after)
      (userName : after.userName = before.userName)
      (debouncing : after.notifier.state = .debouncing) (armed : after.notifier.isPending = true) :
      Move before [] after
  /-- A change beside an edit that is still to be announced. -/
  | pending {before after : Session} (unannounced : before.Unannounced after)
      (userName : after.userName = before.userName)
      (notifier : after.notifier = before.notifier) (armed : before.notifier.isPending = true) :
      Move before [] after
  /-- Time that passes while no edit is to be announced. -/
  | lapse {before : Session} (calm : before.notifier.state ≠ .debouncing) :
      Move before [] { before with notifier :=
        { before.notifier with debouncer := before.notifier.debouncer.cancel } }
  | evaluation {before changed : Session} (unannounced : before.Unannounced changed)
      (userName : changed.userName = before.userName) :
      Move before changed.evaluate.trace changed.evaluate.result
  /-- Another user, for whom there is nothing to evaluate. -/
  | rename {before renamed : Session} (steady : before.Steady renamed) :
      Move before renamed.republish.trace renamed.republish.result
  /-- Another user, whose lists are not those that were picked from. -/
  | succession {before changed : Session} (unannounced : before.Unannounced changed) :
      Move before (changed.evaluate.andThen republish).trace
        (changed.evaluate.andThen republish).result
  | adoption {before : Session} (bindings : Bindings) (sound : bindings.Sound) :
      Move before (before.adopt bindings).trace (before.adopt bindings).result
  | departure (before : Session) : Move before before.leave.trace before.leave.result

inductive Moves : Session → List Effect → Session → Prop
  | refl (session : Session) : Moves session [] session
  | step {before middle after : Session} {effects more : List Effect}
      (move : Move before effects middle) (moves : Moves middle more after) :
      Moves before (effects ++ more) after

theorem Moves.trans {before middle after : Session} {effects more : List Effect}
    (first : Moves before effects middle) (second : Moves middle more after) :
    Moves before (effects ++ more) after := by
  induction first with
  | refl session => exact second
  | step move _ induction =>
      rw [List.append_assoc]
      exact .step move (induction second)

theorem Move.moves {before after : Session} {effects : List Effect}
    (move : Move before effects after) : Moves before effects after := by
  rw [← List.append_nil effects]
  exact .step move (.refl after)

def Proceeds (session : Session) (acted : Acted Session) : Prop :=
  Moves session acted.trace acted.result

theorem Proceeds.andThen {session : Session} {acted : Acted Session}
    {next : Session → Acted Session} (first : session.Proceeds acted)
    (second : acted.result.Proceeds (next acted.result)) :
    session.Proceeds (acted.andThen next) :=
  Moves.trans first second

theorem Alike.refl (session : Session) : session.Alike session :=
  ⟨⟨rfl, rfl, id, rfl, rfl, rfl⟩, rfl⟩

/-- Whether what is done changes other choices, requests and messages at most. -/
structure Quiet (session : Session) (acted : Acted Session) : Prop where
  alike : session.Alike acted.result
  silent : ∀ effect ∈ acted.trace, effect.isQuiet = true

theorem Quiet.proceeds {session : Session} {acted : Acted Session} (quiet : session.Quiet acted) :
    session.Proceeds acted :=
  (Move.quiet quiet.alike quiet.silent).moves

theorem quiet_still {session after : Session} (alike : session.Alike after) :
    session.Quiet (.still after) :=
  ⟨alike, fun _ member => nomatch member⟩

theorem Alike.trans {before middle after : Session} (first : before.Alike middle)
    (second : middle.Alike after) : before.Alike after where
  entity := second.entity.trans first.entity
  expression := second.expression.trans first.expression
  sound := second.sound ∘ first.sound
  notifier := second.notifier.trans first.notifier
  context := second.context.trans first.context
  memory := second.memory.trans first.memory
  userName := second.userName.trans first.userName

theorem Alike.quiet {before middle : Session} {acted : Acted Session} (alike : before.Alike middle)
    (quiet : middle.Quiet acted) : before.Quiet acted :=
  ⟨alike.trans quiet.alike, quiet.silent⟩

theorem isQuiet_drew {α : Type} (drawn : Drawn α) :
    ∀ effect ∈ (drawn.relabel Effect.drew).trace, effect.isQuiet = true := by
  intro effect member
  obtain ⟨call, _, rfl⟩ := List.mem_map.1 member
  rfl

theorem quiet_draw {α : Type} {session : Session} {drawn : Drawn α} {next : α → Acted Session}
    (quiet : session.Quiet (next drawn.result)) : session.Quiet (draw drawn next) := by
  refine ⟨quiet.alike, ?_⟩
  intro effect member
  rcases List.mem_append.1 member with early | late
  · exact isQuiet_drew drawn effect early
  · exact quiet.silent effect late

theorem quiet_emit {session after : Session} (alike : session.Alike after) {event : Event}
    (silent : (Effect.emitted event).isQuiet = true) : session.Quiet (after.emit event) := by
  refine ⟨alike, ?_⟩
  intro effect member
  rw [List.mem_singleton.1 member]
  exact silent

theorem quiet_emitAll {session after : Session} (alike : session.Alike after)
    {events : List Event} (silent : ∀ event ∈ events, (Effect.emitted event).isQuiet = true) :
    session.Quiet (after.emitAll events) := by
  refine ⟨alike, ?_⟩
  intro effect member
  obtain ⟨event, isEvent, rfl⟩ := List.mem_map.1 member
  exact silent event isEvent

theorem proceeds_still {session after : Session} (alike : session.Alike after) :
    session.Proceeds (.still after) :=
  (quiet_still alike).proceeds

theorem Alike.proceeds {before middle : Session} {acted : Acted Session}
    (alike : before.Alike middle) (proceeds : middle.Proceeds acted) : before.Proceeds acted :=
  Moves.trans (proceeds_still alike) proceeds

theorem proceeds_after {α : Type} {session : Session} {acted : Acted α}
    {next : α → Acted Session} (silent : ∀ effect ∈ acted.trace, effect.isQuiet = true)
    (proceeds : session.Proceeds (next acted.result)) : session.Proceeds (acted.andThen next) :=
  Moves.trans (Move.quiet (.refl session) silent).moves proceeds

theorem proceeds_draw {α : Type} {session : Session} {drawn : Drawn α} {next : α → Acted Session}
    (proceeds : session.Proceeds (next drawn.result)) : session.Proceeds (draw drawn next) :=
  proceeds_after (isQuiet_drew drawn) proceeds

section

variable {session : Session} {before : Bindings} (bound : session.bindings = some before)
  (after : Bindings) (entity : after.entity = before.entity)
  (sound : before.Sound → after.Sound)

include bound entity sound

theorem alike_of_bindings (build : after.build = before.build) :
    session.Alike { session with bindings := some after } where
  entity := by rw [entity?, entity?, bound]; exact congrArg some entity
  expression := by rw [expression, expression, bound]; exact build
  sound := by
    rintro whole _ ⟨⟩
    exact sound (whole before bound)
  notifier := rfl
  userName := rfl
  context := rfl
  memory := rfl

theorem unannounced_of_bindings (notifier : Notifier)
    (announced : notifier.announced = session.notifier.announced) :
    session.Unannounced { session with bindings := some after, notifier } where
  entity := by rw [entity?, entity?, bound]; exact congrArg some entity
  sound := by
    rintro whole _ ⟨⟩
    exact sound (whole before bound)
  announced := announced
  context := rfl
  memory := rfl

end

theorem quiet_request (session : Session) (cls : RequestClass) (call : BackendCall) :
    session.Quiet (session.request cls call) := by
  refine ⟨⟨⟨rfl, rfl, id, rfl, rfl, rfl⟩, rfl⟩, ?_⟩
  intro effect member
  rw [List.mem_singleton.1 member]
  rfl

theorem quiet_fetchUserLists (session : Session) : session.Quiet session.fetchUserLists := by
  unfold fetchUserLists
  split
  · split
    · refine ⟨⟨⟨rfl, rfl, id, rfl, rfl, rfl⟩, rfl⟩, ?_⟩
      intro effect member
      rw [List.mem_singleton.1 member]
      rfl
    · exact quiet_still (.refl session)
  · exact quiet_still (.refl session)

theorem proceeds_adopt {session : Session} {bindings : Bindings} (sound : bindings.Sound) :
    session.Proceeds (session.adopt bindings) :=
  (Move.adoption bindings sound).moves

theorem proceeds_restore {session : Session} {bindings : Bindings} (sound : bindings.Sound) :
    session.Proceeds (session.restore bindings) :=
  (proceeds_adopt sound).andThen (quiet_emit (.refl _) rfl).proceeds

theorem proceeds_enter (session : Session) (entity : EntityType) (stored : Expression) :
    session.Proceeds (session.enter entity stored) := by
  apply proceeds_draw
  have alike : session.Alike { session with restored := stored } :=
    ⟨⟨rfl, rfl, id, rfl, rfl, rfl⟩, rfl⟩
  exact alike.proceeds (proceeds_restore (Bindings.sound_bind entity stored session.grouping))

theorem proceeds_switchEntity (session : Session) (entity : EntityType) :
    session.Proceeds (session.switchEntity entity) := by
  apply Proceeds.andThen (Move.departure session).moves
  apply proceeds_after
  · unfold load
    intro effect member
    split at member
    · cases member
    · cases member
    · rw [List.mem_singleton.1 member]
      rfl
  · exact ((proceeds_enter _ entity _).andThen (quiet_request _ .filterValues _).proceeds).andThen
      (quiet_fetchUserLists _).proceeds

theorem map_draw {α β γ : Type} (f : β → γ) (drawn : Drawn α) (next : α → Acted β) :
    (draw drawn next).map f = draw drawn fun value => (next value).map f := rfl

theorem map_fst_answered (acted : Acted Session) (answer : Except Error Answer) :
    (acted.map fun session => (session, answer)).map Prod.fst = acted := rfl

theorem proceeds_evaluate {session changed : Session} (unannounced : session.Unannounced changed)
    (userName : changed.userName = session.userName) : session.Proceeds changed.evaluate :=
  (Move.evaluation unannounced userName).moves

theorem proceeds_typed {session after : Session} (unannounced : session.Unannounced after)
    (userName : after.userName = session.userName)
    (debouncing : after.notifier.state = .debouncing) (armed : after.notifier.isPending = true) :
    session.Proceeds (.still after) :=
  (Move.typed unannounced userName debouncing armed).moves

theorem proceeds_unbindUserLists (session : Session) (name : Option String) (forced : Bool)
    (slots : RequestSlots) :
    session.Proceeds
      ({ session with userName := name, forceReload := forced, slots }.unbindUserLists.andThen
        republish) := by
  have renamed : session.Proceeds ((Traced.still
      { session with userName := name, forceReload := forced, slots }).andThen republish) :=
    Move.moves (.rename ⟨rfl, rfl, id, rfl, rfl, rfl⟩)
  unfold unbindUserLists
  split
  · exact renamed
  · rename_i bindings bound
    have bound : session.bindings = some bindings := bound
    rw [draw, Traced.andThen_assoc]
    apply proceeds_draw
    dsimp only
    split
    · have unannounced : session.Unannounced { session with
          userName := name
          forceReload := forced
          slots
          bindings := some (bindings.unbind .userList).result.1 } := by
        refine ⟨?_, ?_, rfl, rfl, rfl⟩
        · rw [entity?, entity?, bound]
          exact congrArg some (Bindings.entity_unbind .userList bindings)
        · rintro whole _ ⟨⟩
          exact Bindings.sound_unbind (whole bindings bound) .userList
      exact Move.moves (.succession unannounced)
    · exact renamed

theorem proceeds_setUserName (session : Session) (name : Option String) :
    session.Proceeds (session.setUserName name) := by
  unfold setUserName
  dsimp only
  split
  · exact proceeds_still (.refl session)
  · have again : ∀ next : Session, (next.publish next.context.expression).andThen fetchUserLists =
        next.republish.andThen fetchUserLists := fun _ => rfl
    simp only [again]
    rw [← Traced.andThen_assoc]
    exact (proceeds_unbindUserLists session _ _ _).andThen (quiet_fetchUserLists _).proceeds

theorem proceeds_noteChange {session : Session} {before after : Bindings}
    (bound : session.bindings = some before) (entity : after.entity = before.entity)
    (sound : before.Sound → after.Sound) (now : Nat) (change : Change) :
    session.Proceeds ({ session with bindings := some after }.noteChange now change) := by
  unfold noteChange
  cases change.commit with
  | debounced =>
      have unannounced := unannounced_of_bindings bound after entity sound
        (session.notifier.onChange now .debounced).2 rfl
      exact proceeds_typed unannounced rfl rfl rfl
  | immediate =>
      have unannounced := unannounced_of_bindings bound after entity sound
        (session.notifier.onChange now .immediate).2 rfl
      exact proceeds_evaluate unannounced rfl

theorem proceeds_edit {session : Session} (sound : session.Sound) (now : Nat)
    (filter : FilterName) (edit : Edit) :
    session.Proceeds ((session.edit now filter edit).map Prod.fst) := by
  unfold Session.edit
  split
  · exact proceeds_still (.refl session)
  · rename_i bindings bound
    split
    · exact proceeds_still (.refl session)
    · rename_i edited found
      obtain ⟨entity, kept, changes⟩ := Bindings.edit?_cases (sound bindings bound) found
      rw [map_draw]
      apply proceeds_draw
      rw [map_fst_answered]
      rcases changes with ⟨silent, same⟩ | told
      · rw [silent, same]
        exact proceeds_still (alike_of_bindings bound bindings rfl id rfl)
      · rw [told]
        exact (proceeds_noteChange bound entity (fun _ => kept) now _).andThen
          (proceeds_still (.refl _))

theorem proceeds_clearFilters (session : Session) :
    session.Proceeds (session.clearFilters.map Prod.fst) := by
  unfold clearFilters
  split
  · exact proceeds_still (.refl session)
  · rename_i bindings bound
    rw [map_draw]
    apply proceeds_draw
    rw [map_fst_answered]
    have unannounced : session.Unannounced { session with
        bindings := some bindings.clear.result.1 } :=
      unannounced_of_bindings bound bindings.clear.result.1 rfl Bindings.sound_clear
        session.notifier rfl
    exact proceeds_evaluate unannounced rfl

theorem proceeds_settle (session : Session) : session.Proceeds session.settle := by
  unfold settle Notifier.onDeadline
  dsimp only
  split
  · exact proceeds_evaluate ⟨rfl, id, rfl, rfl, rfl⟩ rfl
  · rename_i calm
    exact Move.moves (.lapse calm)

theorem quiet_lookUp {session : Session} {bindings : Bindings}
    (bound : session.bindings = some bindings) (filter : FilterName) (source : TypeaheadSource)
    (input : String) : session.Quiet (session.lookUp bindings filter source input) := by
  apply quiet_draw
  have alike : session.Alike { session with bindings := some (bindings.update filter fun widget =>
      widget.setLoading !(Text.trim input.toList).isEmpty).result } := by
    refine alike_of_bindings bound _ rfl ?_ ?_
    · intro sound
      exact Bindings.sound_update sound fun widget _ _ => (widget.agrees_setLoading _).toRemains
    · exact Bindings.build_update (fun widget => widget.agrees_setLoading _) bindings
  apply alike.quiet
  dsimp only
  split
  · exact quiet_still ⟨⟨rfl, rfl, id, rfl, rfl, rfl⟩, rfl⟩
  · exact quiet_request _ _ _

theorem quiet_queryYears {session : Session} {bindings : Bindings}
    (bound : session.bindings = some bindings) (input : String) :
    session.Quiet ((session.queryYears bindings input).map Prod.fst) := by
  unfold queryYears
  rw [map_draw]
  apply quiet_draw
  split
  · exact quiet_still (.refl session)
  · rw [map_fst_answered]
    refine quiet_emit (alike_of_bindings bound (bindings.offerYears input).result.1 rfl ?_ ?_)
      rfl
    · intro sound
      exact Bindings.sound_offer sound _ _
    · exact Bindings.build_offer _ _ bindings

theorem quiet_query (session : Session) (filter : FilterName) (input : String) :
    session.Quiet ((session.query filter input).map Prod.fst) := by
  unfold query
  split
  · exact quiet_still (.refl session)
  · rename_i bindings bound
    split
    · exact quiet_queryYears bound input
    split
    · exact quiet_still (.refl session)
    split
    · exact quiet_still (.refl session)
    · exact quiet_lookUp bound filter _ input

theorem quiet_setTagGrouping (session : Session) (grouping : TagGrouping) :
    session.Quiet (session.setTagGrouping grouping) := by
  have regrouped : session.Alike { session with grouping } := ⟨⟨rfl, rfl, id, rfl, rfl, rfl⟩, rfl⟩
  unfold setTagGrouping
  dsimp only
  split
  · exact quiet_still regrouped
  · rename_i bindings bound
    have bound : { session with grouping }.bindings = some bindings := bound
    apply quiet_draw
    apply regrouped.quiet
    apply quiet_emitAll
    · refine alike_of_bindings bound (bindings.setTagGrouping grouping).result.1 rfl ?_
        (Bindings.build_offer _ _ _)
      intro sound
      exact Bindings.sound_setTagGrouping sound grouping
    · intro event member
      obtain ⟨count, _, rfl⟩ := List.mem_map.1 member
      rfl

theorem proceeds_handle {session : Session} (sound : session.Sound) (now : Nat)
    (command : Command) : session.Proceeds ((session.handle now command).map Prod.fst) := by
  cases command with
  | switchEntity entity => exact proceeds_switchEntity session entity
  | setUserName name => exact proceeds_setUserName session name
  | reloadUserLists => exact (quiet_fetchUserLists session).proceeds
  | edit filter edit => exact proceeds_edit sound now filter edit
  | query filter input => exact (quiet_query session filter input).proceeds
  | setTagGrouping grouping => exact (quiet_setTagGrouping session grouping).proceeds
  | clearFilters => exact proceeds_clearFilters session
  | settle => exact proceeds_settle session

theorem proceeds_pending {session : Session} {before after : Bindings}
    (bound : session.bindings = some before) (entity : after.entity = before.entity)
    (sound : before.Sound → after.Sound) (armed : session.notifier.isPending = true) :
    session.Proceeds (.still { session with bindings := some after }) :=
  Move.moves (.pending (unannounced_of_bindings bound after entity sound session.notifier rfl) rfl
    rfl armed)

theorem proceeds_acceptChoices {session : Session} (sound : session.Sound)
    (reply : Except Error Choices) : session.Proceeds (session.acceptChoices reply) := by
  unfold acceptChoices
  split
  · exact proceeds_still (.refl session)
  · exact (quiet_emit (.refl session) rfl).proceeds
  · rename_i bindings choices bound
    have kept := Bindings.sound_accept (sound bindings bound) choices
    apply proceeds_draw
    apply proceeds_after
    · intro effect member
      obtain ⟨event, isEvent, rfl⟩ := List.mem_map.1 member
      obtain ⟨update, _, rfl⟩ := List.mem_map.1 isEvent
      rfl
    · dsimp only [emitAll]
      split
      · rename_i armed
        exact proceeds_pending bound rfl (fun _ => kept) armed
      · exact proceeds_adopt kept

theorem quiet_takeNotices (session : Session) (reply : UserListReply) :
    session.Quiet (session.takeNotices reply) := by
  refine ⟨⟨⟨rfl, rfl, id, rfl, rfl, rfl⟩, rfl⟩, ?_⟩
  intro effect member
  obtain ⟨event, isEvent, rfl⟩ := List.mem_map.1 member
  rcases List.mem_append.1 isEvent with isError | isWarning
  · obtain ⟨notice, _, rfl⟩ := List.mem_map.1 isError
    rfl
  · obtain ⟨notice, _, rfl⟩ := List.mem_map.1 isWarning
    rfl

theorem proceeds_bindUserLists {session : Session} (sound : session.Sound) {bindings : Bindings}
    (bound : session.bindings = some bindings) (userLists : List UserList) :
    session.Proceeds (session.bindUserLists bindings userLists) := by
  have entity := Bindings.entity_bindUserLists userLists session.restored true bindings
  have kept := Bindings.sound_bindUserLists (sound bindings bound) userLists session.restored
  apply proceeds_draw
  split
  · exact proceeds_still (.refl session)
  · apply proceeds_after
    · intro effect member
      rw [List.mem_singleton.1 member]
      rfl
    · unfold announceUserLists
      split
      · exact proceeds_evaluate (unannounced_of_bindings bound _ entity (fun _ => kept)
          session.notifier rfl) rfl
      split
      · rename_i armed
        exact proceeds_pending bound entity (fun _ => kept) armed
      · exact proceeds_restore kept

theorem proceeds_acceptUserLists {session : Session} (sound : session.Sound)
    (reply : Except Error UserListReply) : session.Proceeds (session.acceptUserLists reply) := by
  unfold acceptUserLists
  split
  · exact (quiet_emit (.refl session) rfl).proceeds
  · rename_i reply
    have noticed := quiet_takeNotices session reply
    apply noticed.proceeds.andThen
    split
    · exact proceeds_still (.refl _)
    · rename_i bindings bound
      exact proceeds_bindUserLists (noticed.alike.sound sound) bound _

theorem quiet_acceptSuggestions (session : Session) (filter : FilterName)
    (reply : Except Error (List WhitelistEntry)) :
    session.Quiet (session.acceptSuggestions filter reply) := by
  unfold acceptSuggestions
  split
  · exact quiet_still (.refl session)
  rename_i bindings bound
  split
  · exact quiet_still (.refl session)
  · apply quiet_draw
    generalize lowering : (bindings.update filter fun widget => widget.setLoading false).result =
      lowered
    have lowers : session.Alike { session with bindings := some lowered } := by
      subst lowering
      refine alike_of_bindings bound _ rfl ?_ ?_
      · intro sound
        exact Bindings.sound_update sound fun widget _ _ => (widget.agrees_setLoading _).toRemains
      · exact Bindings.build_update (fun widget => widget.agrees_setLoading _) bindings
    apply lowers.quiet
    split
    · exact quiet_emit (.refl _) rfl
    · rename_i entries
      have isLowered : { session with bindings := some lowered }.bindings = some lowered := rfl
      apply quiet_draw
      refine quiet_emit (alike_of_bindings isLowered (lowered.offer filter entries).result.1 rfl
        ?_ ?_) rfl
      · intro sound
        exact Bindings.sound_offer sound _ _
      · exact Bindings.build_offer _ _ _

theorem proceeds_complete {session : Session} (sound : session.Sound) (completion : Completion) :
    session.Proceeds (session.complete completion) := by
  unfold complete
  split
  · have finished : session.Alike { session with
        slots := session.slots.finish completion.ticket } := ⟨⟨rfl, rfl, id, rfl, rfl, rfl⟩, rfl⟩
    apply finished.proceeds
    have sound := finished.sound sound
    cases completion with
    | choices ticket reply => exact proceeds_acceptChoices sound reply
    | userLists ticket reply => exact proceeds_acceptUserLists sound reply
    | suggestions filter ticket reply => exact (quiet_acceptSuggestions _ filter reply).proceeds
  · exact proceeds_still (.refl session)

/-- What a session can do: every response is a chain of moves. -/
theorem proceeds_respond {session : Session} (sound : session.Sound) (input : Input) :
    session.Proceeds (session.respond input) := by
  cases input with
  | command now command => exact proceeds_handle sound now command
  | completion completion => exact proceeds_complete sound completion
  | deadline => exact proceeds_settle session
  | snapshot => exact proceeds_still (.refl session)
  | fault load save => exact proceeds_still ⟨⟨rfl, rfl, id, rfl, rfl, rfl⟩, rfl⟩

end Session

end MediaFilter
