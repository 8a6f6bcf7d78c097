import MediaFilter.Proofs.Bindings.Regularity
import MediaFilter.Proofs.Request.Tidiness
import MediaFilter.Proofs.Session.Evaluation

/-!
A response taken apart into its turns.  Moves tell what becomes of the published expression; turns
tell besides how an input comes to change the widgets, the user and the requests, which facts about
their values and their origin rest on.
-/

namespace MediaFilter

inductive Bindings.Revision (stored : Expression) : Input → Bindings → Bindings → Prop
  | edited {now : Nat} {name : FilterName} {edit : Edit} {bindings : Bindings}
      {edited : Bindings.Edited} (found : bindings.edit? name edit = some edited) :
      Revision stored (.command now (.edit name edit)) bindings edited.bindings
  | cleared {now : Nat} (bindings : Bindings) :
      Revision stored (.command now .clearFilters) bindings bindings.clear.result.1
  | awaited {now : Nat} {name : FilterName} {text : String} (loading : Bool)
      (bindings : Bindings) :
      Revision stored (.command now (.query name text)) bindings
        (bindings.update name fun widget => widget.setLoading loading).result
  | abridged {now : Nat} {text : String} (bindings : Bindings) :
      Revision stored (.command now (.query .year text)) bindings
        (bindings.offerYears text).result.1
  | regrouped {now : Nat} {grouping : TagGrouping} (bindings : Bindings) :
      Revision stored (.command now (.setTagGrouping grouping)) bindings
        (bindings.setTagGrouping grouping).result.1
  | accepted {ticket : Ticket} {choices : Choices} (bindings : Bindings) :
      Revision stored (.completion (.choices ticket (.ok choices))) bindings
        (bindings.accept choices).result.1
  | relaxed {ticket : Ticket} {name : FilterName} {reply : Except Error (List WhitelistEntry)}
      (bindings : Bindings) :
      Revision stored (.completion (.suggestions name ticket reply)) bindings
        (bindings.update name fun widget => widget.setLoading false).result
  | suggested {ticket : Ticket} {name : FilterName} {entries : List WhitelistEntry}
      (bindings : Bindings) :
      Revision stored (.completion (.suggestions name ticket (.ok entries))) bindings
        (bindings.offer name entries).result.1
  | listed {ticket : Ticket} {reply : UserListReply} (bindings : Bindings) :
      Revision stored (.completion (.userLists ticket (.ok reply))) bindings
        (bindings.bindUserLists reply.lists stored true).result.1

structure Request where
  ticket : Ticket
  call : BackendCall
  deriving DecidableEq

namespace Effect

def publication? : Effect → Option QueryContext
  | .published context => some context
  | _ => none

def request? : Effect → Option Request
  | .requested ticket call => some ⟨ticket, call⟩
  | _ => none

def event? : Effect → Option Event
  | .emitted event => some event
  | _ => none

/-- Whether an effect is for the eye alone. -/
def isShown : Effect → Bool
  | .drew _ => true
  | .emitted event => (Effect.emitted event).isQuiet
  | _ => false

theorem isQuiet_of_isShown {effect : Effect} (shown : effect.isShown = true) :
    effect.isQuiet = true := by
  cases effect with
  | drew call => rfl
  | emitted event => exact shown
  | _ => cases shown

theorem request?_of_isShown {effect : Effect} (shown : effect.isShown = true) :
    effect.request? = none := by
  cases effect with
  | requested ticket call => cases shown
  | _ => rfl

theorem publication?_of_isShown {effect : Effect} (shown : effect.isShown = true) :
    effect.publication? = none := by
  cases effect with
  | published context => cases shown
  | _ => rfl

end Effect

def Command.asks : Command → Bool
  | .switchEntity _ => true
  | .setUserName _ => true
  | .reloadUserLists => true
  | .query _ _ => true
  | _ => false

namespace Session

structure Unmoved (before after : Session) : Prop where
  slots : after.slots = before.slots
  bindings : after.bindings = before.bindings
  notifier : after.notifier = before.notifier
  restored : after.restored = before.restored
  userName : after.userName = before.userName
  context : after.context = before.context
  memory : after.store.memory = before.store.memory

theorem Unmoved.refl (session : Session) : session.Unmoved session :=
  ⟨rfl, rfl, rfl, rfl, rfl, rfl, rfl⟩

inductive Turn : Input → Session → List Effect → Session → Prop
  | shown {input : Input} {before after : Session} {effects : List Effect}
      (unmoved : before.Unmoved after) (silent : ∀ effect ∈ effects, effect.isShown = true) :
      Turn input before effects after
  | asked {now : Nat} {command : Command} (asks : command.asks = true) (before : Session)
      (cls : RequestClass) (call : BackendCall) :
      Turn (.command now command) before (before.request cls call).trace
        (before.request cls call).result
  | dismissed {now : Nat} {command : Command} (asks : command.asks = true) (before : Session)
      (gone : RequestClass → Bool) :
      Turn (.command now command) before [] { before with slots := before.slots.giveUp gone }
  | finished {completion : Completion} (before : Session) :
      Turn (.completion completion) before []
        { before with slots := before.slots.finish completion.ticket }
  | revised {input : Input} {before : Session} {bindings revised : Bindings}
      (bound : before.bindings = some bindings)
      (revision : Bindings.Revision before.restored input bindings revised) :
      Turn input before [] { before with bindings := some revised }
  /-- The timer is set or stopped. -/
  | noted {input : Input} {before : Session} {notifier : Notifier}
      (announced : notifier.announced = before.notifier.announced)
      (window : notifier.debouncer.window = before.notifier.debouncer.window) :
      Turn input before [] { before with notifier }
  | evaluated {input : Input} (before : Session) :
      Turn input before before.evaluate.trace before.evaluate.result
  | adopted {completion : Completion} {before : Session} {bindings : Bindings}
      (bound : before.bindings = some bindings) :
      Turn (.completion completion) before (before.adopt bindings).trace
        (before.adopt bindings).result
  /-- Another user, where no picker of user lists is bound. -/
  | renamed {now : Nat} {name : Option String} {before : Session}
      (unpicked : ∀ bindings ∈ before.bindings, bindings.get? .userList = none) :
      Turn (.command now (.setUserName name)) before
        { before with userName := effectiveName name }.republish.trace
        { before with userName := effectiveName name }.republish.result
  /-- Another user, who has not picked from the lists that are bound. -/
  | succeeded {now : Nat} {name : Option String} {before changed : Session} {bindings : Bindings}
      (bound : before.bindings = some bindings)
      (change : changed = { before with
        userName := effectiveName name
        bindings := some (bindings.unbind .userList).result.1 }) :
      Turn (.command now (.setUserName name)) before (changed.evaluate.andThen republish).trace
        (changed.evaluate.andThen republish).result
  /-- Another entity type, bound to what is stored for it. -/
  | switched {now : Nat} {entity : EntityType} {before opened : Session} {bindings : Bindings}
      (opening : opened = { before with restored := (before.load entity).result })
      (bind : bindings =
        (Bindings.bind entity (before.load entity).result before.grouping).result.subscribeAll) :
      Turn (.command now (.switchEntity entity)) before (opened.adopt bindings).trace
        (opened.adopt bindings).result

inductive Turns (input : Input) : Session → List Effect → Session → Prop
  | refl (session : Session) : Turns input session [] session
  | step {before middle after : Session} {effects more : List Effect}
      (turn : Turn input before effects middle) (turns : Turns input middle more after) :
      Turns input before (effects ++ more) after

/-- What every turn keeps, and what it tells by its effects, a whole response does. -/
theorem Turns.kept {input : Input} (holds : Session → Prop) (tells : Effect → Prop)
    (each : ∀ {before after : Session} {effects : List Effect}, holds before →
      Turn input before effects after → holds after ∧ ∀ effect ∈ effects, tells effect)
    {before after : Session} {effects : List Effect} (turns : Turns input before effects after)
    (initially : holds before) : holds after ∧ ∀ effect ∈ effects, tells effect := by
  induction turns with
  | refl session => exact ⟨initially, fun _ member => nomatch member⟩
  | step turn _ induction =>
      obtain ⟨kept, said⟩ := each initially turn
      obtain ⟨atLast, others⟩ := induction kept
      refine ⟨atLast, fun effect member => ?_⟩
      rcases List.mem_append.1 member with early | late
      · exact said effect early
      · exact others effect late

theorem Turns.trans {input : Input} {before middle after : Session} {effects more : List Effect}
    (first : Turns input before effects middle) (second : Turns input middle more after) :
    Turns input before (effects ++ more) after := by
  induction first with
  | refl session => exact second
  | step turn _ induction =>
      rw [List.append_assoc]
      exact .step turn (induction second)

theorem Turn.turns {input : Input} {before after : Session} {effects : List Effect}
    (turn : Turn input before effects after) : Turns input before effects after := by
  rw [← List.append_nil effects]
  exact .step turn (.refl after)

def Takes (input : Input) (session : Session) (acted : Acted Session) : Prop :=
  Turns input session acted.trace acted.result

section

variable {input : Input}

theorem Takes.andThen {session : Session} {acted : Acted Session} {next : Session → Acted Session}
    (first : Takes input session acted)
    (second : Takes input acted.result (next acted.result)) :
    Takes input session (acted.andThen next) :=
  Turns.trans first second

theorem takes_shown {session : Session} {acted : Acted Session}
    (unmoved : session.Unmoved acted.result)
    (silent : ∀ effect ∈ acted.trace, effect.isShown = true) : Takes input session acted :=
  (Turn.shown unmoved silent).turns

theorem takes_still {session after : Session} (unmoved : session.Unmoved after) :
    Takes input session (.still after) :=
  takes_shown unmoved fun _ member => nomatch member

theorem Takes.after {before middle : Session} {acted : Acted Session}
    (turn : Turn input before [] middle) (takes : Takes input middle acted) :
    Takes input before acted :=
  Turns.trans turn.turns takes

theorem Takes.of_unmoved {before middle : Session} {acted : Acted Session}
    (unmoved : before.Unmoved middle) (takes : Takes input middle acted) :
    Takes input before acted :=
  .after (.shown unmoved fun _ member => nomatch member) takes

theorem isShown_drew {α : Type} (drawn : Drawn α) :
    ∀ effect ∈ (drawn.relabel Effect.drew).trace, effect.isShown = true := by
  intro effect member
  obtain ⟨call, _, rfl⟩ := List.mem_map.1 member
  rfl

theorem takes_draw {α : Type} {session : Session} {drawn : Drawn α} {next : α → Acted Session}
    (takes : Takes input session (next drawn.result)) : Takes input session (draw drawn next) :=
  Turns.trans (Turn.shown (.refl session) (isShown_drew drawn)).turns takes

theorem takes_emit {session after : Session} (unmoved : session.Unmoved after) {event : Event}
    (silent : (Effect.emitted event).isShown = true) : Takes input session (after.emit event) := by
  refine takes_shown unmoved ?_
  intro effect member
  rw [List.mem_singleton.1 member]
  exact silent

theorem takes_emitAll {session after : Session} (unmoved : session.Unmoved after)
    {events : List Event} (silent : ∀ event ∈ events, (Effect.emitted event).isShown = true) :
    Takes input session (after.emitAll events) := by
  refine takes_shown unmoved ?_
  intro effect member
  obtain ⟨event, isEvent, rfl⟩ := List.mem_map.1 member
  exact silent event isEvent

theorem takes_evaluate (session : Session) : Takes input session session.evaluate :=
  (Turn.evaluated session).turns

theorem takes_noteChange (session : Session) (now : Nat) (change : Change) :
    Takes input session (session.noteChange now change) := by
  unfold noteChange
  cases change.commit with
  | debounced =>
      have announced : (session.notifier.onChange now .debounced).2.announced =
        session.notifier.announced := rfl
      exact .after (.noted announced rfl) (takes_still (.refl _))
  | immediate =>
      have announced : (session.notifier.onChange now .immediate).2.announced =
        session.notifier.announced := rfl
      exact .after (.noted announced rfl) (takes_evaluate _)

theorem takes_noteChanges (now : Nat) (changes : List Change) (session : Session) :
    Takes input session (noteChanges now changes session) := by
  induction changes generalizing session with
  | nil => exact takes_still (.refl session)
  | cons change changes induction =>
      exact (takes_noteChange session now change).andThen (induction _)

theorem takes_settle (session : Session) : Takes input session session.settle := by
  have kept : session.notifier.onDeadline.2.announced = session.notifier.announced ∧
      session.notifier.onDeadline.2.debouncer.window = session.notifier.debouncer.window := by
    unfold Notifier.onDeadline
    dsimp only
    split <;> exact ⟨rfl, rfl⟩
  unfold settle
  dsimp only
  split
  · exact .after (.noted kept.1 kept.2) (takes_evaluate _)
  · exact (Turn.noted kept.1 kept.2).turns

end

theorem takes_fetchUserLists (session : Session) (now : Nat) {command : Command}
    (asks : command.asks = true) :
    Takes (.command now command) session session.fetchUserLists := by
  unfold fetchUserLists
  split
  · split
    · have unforced : session.Unmoved { session with forceReload := false } :=
        ⟨rfl, rfl, rfl, rfl, rfl, rfl, rfl⟩
      exact .of_unmoved unforced (Turn.asked asks _ _ _).turns
    · exact takes_still (.refl session)
  · exact takes_still (.refl session)

theorem result_fetchUserLists (session : Session) :
    ∃ slots forceReload, session.fetchUserLists.result = { session with slots, forceReload } := by
  unfold fetchUserLists
  split
  · split <;> exact ⟨_, _, rfl⟩
  · exact ⟨_, _, rfl⟩

/-- How an entity type is chosen, with everything that happens before it is bound put first. -/
theorem switchEntity_eq (session : Session) (entity : EntityType) :
    session.switchEntity entity =
      ((((Traced.mk { session with slots := session.slots.cancelAll }
          (session.leave.trace ++ (session.load entity).trace ++
            (Bindings.bind entity (session.load entity).result
              session.grouping).trace.map .drew) : Acted Session).andThen fun cleared =>
        { cleared with restored := (session.load entity).result }.restore
          (Bindings.bind entity (session.load entity).result
            session.grouping).result.subscribeAll).andThen
        (fetchChoices entity)).andThen fetchUserLists) := by
  have loads : session.leave.result.load entity = session.load entity := rfl
  unfold switchEntity enter draw Traced.andThen
  dsimp only
  rw [loads]
  simp only [List.append_assoc]
  rfl

theorem result_switchEntity (session : Session) (entity : EntityType) :
    ∃ slots forceReload bindings,
      bindings = (Bindings.bind entity (session.load entity).result
        session.grouping).result.subscribeAll ∧
      (session.switchEntity entity).result = { session with
        slots
        forceReload
        notifier := session.notifier.adopt bindings.build
        bindings := some bindings
        restored := (session.load entity).result
        context := ⟨some entity, session.userName.getD "", bindings.build⟩ } := by
  rw [switchEntity_eq, Traced.result_andThen]
  obtain ⟨slots, forceReload, asked⟩ := result_fetchUserLists _
  rw [asked]
  exact ⟨slots, forceReload, _, rfl, rfl⟩

theorem bindings_switchEntity (session : Session) (entity : EntityType) :
    (session.switchEntity entity).result.bindings =
      some (Bindings.bind entity (session.load entity).result
        session.grouping).result.subscribeAll := by
  obtain ⟨slots, forceReload, _, rfl, opened⟩ := result_switchEntity session entity
  rw [opened]

theorem context_switchEntity (session : Session) (entity : EntityType) :
    (session.switchEntity entity).result.context =
      ⟨some entity, session.userName.getD "",
        (Bindings.bind entity (session.load entity).result
          session.grouping).result.subscribeAll.build⟩ := by
  obtain ⟨slots, forceReload, _, rfl, opened⟩ := result_switchEntity session entity
  rw [opened]

theorem isShown_load (session : Session) (entity : EntityType) :
    ∀ effect ∈ (session.load entity).trace, effect.isShown = true := by
  intro effect member
  unfold load at member
  split at member
  · cases member
  · cases member
  · rw [List.mem_singleton.1 member]
    rfl

theorem takes_switchEntity (session : Session) (now : Nat) (entity : EntityType) :
    Takes (.command now (.switchEntity entity)) session (session.switchEntity entity) := by
  rw [switchEntity_eq]
  refine Takes.andThen (Takes.andThen (Takes.andThen ?_ (Takes.andThen ?_ ?_)) ?_) ?_
  · rw [RequestSlots.cancelAll_eq]
    refine .after (.dismissed rfl session _) (takes_shown (.refl _) ?_)
    intro effect member
    rcases List.mem_append.1 member with early | drawn
    · rcases List.mem_append.1 early with left | loaded
      · obtain ⟨call, _, rfl⟩ := List.mem_map.1 left
        rfl
      · exact isShown_load session entity effect loaded
    · exact isShown_drew _ effect drawn
  · exact (Turn.switched rfl rfl).turns
  · exact takes_emit (.refl _) rfl
  · exact (Turn.asked rfl _ _ _).turns
  · exact takes_fetchUserLists _ now rfl

theorem takes_setUserName (session : Session) (now : Nat) (name : Option String) :
    Takes (.command now (.setUserName name)) session (session.setUserName name) := by
  unfold setUserName
  dsimp only
  split
  · exact takes_still (.refl session)
  · have again : ∀ next : Session, (next.publish next.context.expression).andThen fetchUserLists =
        next.republish.andThen fetchUserLists := fun _ => rfl
    simp only [again]
    rw [← Traced.andThen_assoc]
    have unforced : session.Unmoved { session with forceReload := false } :=
      ⟨rfl, rfl, rfl, rfl, rfl, rfl, rfl⟩
    rw [RequestSlots.cancel_eq]
    refine Takes.andThen (.of_unmoved unforced (.after (.dismissed rfl _ fun other =>
      other == .userLists) ?_)) (takes_fetchUserLists _ now rfl)
    unfold unbindUserLists
    split
    · rename_i nothing
      have nothing : session.bindings = none := nothing
      refine Turn.turns (.renamed ?_)
      rw [nothing]
      exact fun _ member => nomatch member
    · rename_i bindings bound
      have bound : session.bindings = some bindings := bound
      rw [draw, Traced.andThen_assoc]
      apply takes_draw
      dsimp only
      split
      · exact Turn.turns (.succeeded bound rfl)
      · rename_i kept
        rw [Bindings.snd_unbind, Bool.not_eq_true, Option.isSome_eq_false_iff,
          Option.isNone_iff_eq_none] at kept
        refine Turn.turns (.renamed ?_)
        rintro _ member
        rw [Option.mem_def.1 member] at bound
        cases bound
        exact kept

theorem takes_edit (session : Session) (now : Nat) (filter : FilterName) (edit : Edit) :
    Takes (.command now (.edit filter edit)) session
      ((session.edit now filter edit).map Prod.fst) := by
  unfold Session.edit
  split
  · exact takes_still (.refl session)
  · rename_i bindings bound
    split
    · exact takes_still (.refl session)
    · rename_i edited found
      rw [map_draw]
      apply takes_draw
      exact .after (.revised bound (.edited found)) (takes_noteChanges now edited.changes _)

theorem takes_clearFilters (session : Session) (now : Nat) :
    Takes (.command now .clearFilters) session (session.clearFilters.map Prod.fst) := by
  unfold clearFilters
  split
  · exact takes_still (.refl session)
  · rename_i bindings bound
    rw [map_draw]
    apply takes_draw
    exact .after (.revised bound (.cleared bindings)) (takes_evaluate _)

theorem takes_query (session : Session) (now : Nat) (filter : FilterName) (text : String) :
    Takes (.command now (.query filter text)) session
      ((session.query filter text).map Prod.fst) := by
  have asks : (Command.query filter text).asks = true := rfl
  unfold query
  split
  · exact takes_still (.refl session)
  · rename_i bindings bound
    split
    · rename_i isYear
      subst isYear
      unfold queryYears
      rw [map_draw]
      apply takes_draw
      split
      · exact takes_still (.refl session)
      · exact .after (.revised bound (.abridged bindings)) (takes_emit (.refl _) rfl)
    split
    · exact takes_still (.refl session)
    split
    · exact takes_still (.refl session)
    · rw [map_fst_answered]
      apply takes_draw
      apply Takes.after (.revised bound (.awaited _ bindings))
      dsimp only
      split
      · rw [RequestSlots.cancel_eq]
        exact (Turn.dismissed asks _ _).turns
      · exact (Turn.asked asks _ _ _).turns

theorem takes_setTagGrouping (session : Session) (now : Nat) (grouping : TagGrouping) :
    Takes (.command now (.setTagGrouping grouping)) session (session.setTagGrouping grouping) := by
  have regrouped : session.Unmoved { session with grouping } := ⟨rfl, rfl, rfl, rfl, rfl, rfl, rfl⟩
  unfold setTagGrouping
  dsimp only
  split
  · exact takes_still regrouped
  · rename_i bindings bound
    apply takes_draw
    apply Takes.of_unmoved regrouped
    have bound : { session with grouping }.bindings = some bindings := bound
    apply Takes.after (.revised bound (.regrouped bindings))
    refine takes_emitAll (.refl _) ?_
    intro event member
    obtain ⟨count, _, rfl⟩ := List.mem_map.1 member
    rfl

theorem takes_handle (session : Session) (now : Nat) (command : Command) :
    Takes (.command now command) session ((session.handle now command).map Prod.fst) := by
  cases command with
  | switchEntity entity => exact takes_switchEntity session now entity
  | setUserName name => exact takes_setUserName session now name
  | reloadUserLists => exact takes_fetchUserLists session now rfl
  | edit filter edit => exact takes_edit session now filter edit
  | query filter text => exact takes_query session now filter text
  | setTagGrouping grouping => exact takes_setTagGrouping session now grouping
  | clearFilters => exact takes_clearFilters session now
  | settle => exact takes_settle session

theorem takes_acceptChoices (session : Session) (ticket : Ticket)
    (reply : Except Error Choices) :
    Takes (.completion (.choices ticket reply)) session (session.acceptChoices reply) := by
  unfold acceptChoices
  split
  · exact takes_still (.refl session)
  · exact takes_emit (.refl session) rfl
  · rename_i bindings choices bound
    apply takes_draw
    apply Takes.after (.revised bound (.accepted bindings))
    apply Takes.andThen
    · refine takes_emitAll (.refl _) ?_
      intro event member
      obtain ⟨update, _, rfl⟩ := List.mem_map.1 member
      rfl
    · split
      · exact takes_still (.refl _)
      · exact (Turn.adopted rfl).turns

theorem takes_takeNotices {input : Input} (session : Session) (reply : UserListReply) :
    Takes input session (session.takeNotices reply) := by
  have forced : session.Unmoved { session with
      forceReload := session.forceReload || reply.warnings.any Notice.isTimeout } :=
    ⟨rfl, rfl, rfl, rfl, rfl, rfl, rfl⟩
  refine takes_emitAll forced ?_
  intro event member
  rcases List.mem_append.1 member with isError | isWarning
  · obtain ⟨notice, _, rfl⟩ := List.mem_map.1 isError
    rfl
  · obtain ⟨notice, _, rfl⟩ := List.mem_map.1 isWarning
    rfl

theorem takes_restore {completion : Completion} {session : Session} {bindings : Bindings}
    (bound : session.bindings = some bindings) :
    Takes (.completion completion) session (session.restore bindings) :=
  Takes.andThen (Turn.adopted bound).turns (takes_emit (.refl _) rfl)

theorem takes_announceUserLists {completion : Completion} {session : Session}
    {bindings : Bindings} (bound : session.bindings = some bindings) (isFirst : Bool) :
    Takes (.completion completion) session (announceUserLists isFirst bindings session) := by
  unfold announceUserLists
  split
  · exact takes_evaluate session
  split
  · exact takes_still (.refl session)
  · exact takes_restore bound

theorem takes_acceptUserLists (session : Session) (ticket : Ticket)
    (reply : Except Error UserListReply) :
    Takes (.completion (.userLists ticket reply)) session (session.acceptUserLists reply) := by
  unfold acceptUserLists
  split
  · exact takes_emit (.refl session) rfl
  · rename_i reply
    apply (takes_takeNotices session reply).andThen
    split
    · exact takes_still (.refl _)
    · rename_i bindings bound
      apply takes_draw
      split
      · exact takes_still (.refl _)
      · apply Takes.after (.revised bound (.listed bindings))
        exact Takes.andThen (takes_emit (.refl _) rfl) (takes_announceUserLists rfl _)

theorem takes_acceptSuggestions (session : Session) (filter : FilterName) (ticket : Ticket)
    (reply : Except Error (List WhitelistEntry)) :
    Takes (.completion (.suggestions filter ticket reply)) session
      (session.acceptSuggestions filter reply) := by
  unfold acceptSuggestions
  split
  · exact takes_still (.refl session)
  rename_i bindings bound
  split
  · exact takes_still (.refl session)
  · apply takes_draw
    apply Takes.after (.revised bound (.relaxed bindings))
    dsimp only
    split
    · exact takes_emit (.refl _) rfl
    · apply takes_draw
      exact .after (.revised rfl (.suggested _)) (takes_emit (.refl _) rfl)

theorem takes_complete (session : Session) (completion : Completion) :
    Takes (.completion completion) session (session.complete completion) := by
  unfold complete
  split
  · apply Takes.after (.finished session)
    cases completion with
    | choices ticket reply => exact takes_acceptChoices _ ticket reply
    | userLists ticket reply => exact takes_acceptUserLists _ ticket reply
    | suggestions filter ticket reply => exact takes_acceptSuggestions _ filter ticket reply
  · exact takes_still (.refl session)

theorem takes_respond (session : Session) (input : Input) :
    Takes input session (session.respond input) := by
  cases input with
  | command now command => exact takes_handle session now command
  | completion completion => exact takes_complete session completion
  | deadline => exact takes_settle session
  | snapshot => exact takes_still (.refl session)
  | fault load save => exact takes_still ⟨rfl, rfl, rfl, rfl, rfl, rfl, rfl⟩

/-- What no turn of a response changes, the response leaves as it was. -/
theorem respond_keeps {α : Type} (field : Session → α) {input : Input}
    (each : ∀ {before after : Session} {effects : List Effect},
      Turn input before effects after → field after = field before) (session : Session) :
    field (session.respond input).result = field session :=
  ((takes_respond session input).kept (fun after => field after = field session) (fun _ => True)
    (fun same turn => ⟨(each turn).trans same, fun _ _ => trivial⟩) rfl).1

end Session

end MediaFilter
