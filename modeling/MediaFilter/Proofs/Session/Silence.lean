import MediaFilter.Proofs.Session.Attribution
import MediaFilter.Proofs.Session.Succession

/-!
Filters that are restored are not announced as changes.  Until somebody edits a filter, clears the
filters, reloads the user lists or names another user while there is a picker, nothing is announced
and nothing is stored: no edit waits for its deadline, and the lists of a user are evaluated only
where a picker was bound before, for which they are not even asked.
-/

namespace MediaFilter

namespace Session

structure Tacit (session : Session) (acted : Acted Session) : Prop where
  changes : acted.trace.filterMap Effect.change? = []
  attempts : acted.trace.filterMap Effect.attempt? = []
  memory : acted.result.store.memory = session.store.memory

structure Rests (session : Session) (acted : Acted Session) : Prop extends
    Tacit session acted where
  idle : session.notifier.state = .idle → acted.result.notifier.state = .idle

theorem tacit_of_silent {session : Session} {acted : Acted Session}
    (silent : ∀ effect ∈ acted.trace, effect.isQuiet = true)
    (memory : acted.result.store.memory = session.store.memory) : session.Tacit acted where
  changes := List.filterMap_eq_nil_iff.2 fun effect member =>
    Effect.change?_of_isQuiet (silent effect member)
  attempts := List.filterMap_eq_nil_iff.2 fun effect member =>
    Effect.attempt?_of_isQuiet (silent effect member)
  memory := memory

theorem Tacit.andThen {session : Session} {acted : Acted Session} {next : Session → Acted Session}
    (first : session.Tacit acted) (second : acted.result.Tacit (next acted.result)) :
    session.Tacit (acted.andThen next) := by
  refine ⟨?_, ?_, second.memory.trans first.memory⟩
  · rw [Traced.trace_andThen, List.filterMap_append, first.changes, second.changes]
    rfl
  · rw [Traced.trace_andThen, List.filterMap_append, first.attempts, second.attempts]
    rfl

theorem Rests.andThen {session : Session} {acted : Acted Session} {next : Session → Acted Session}
    (first : session.Rests acted) (second : acted.result.Rests (next acted.result)) :
    session.Rests (acted.andThen next) :=
  ⟨first.toTacit.andThen second.toTacit, second.idle ∘ first.idle⟩

theorem Rests.of_same {before middle : Session} {acted : Acted Session} (rests : middle.Rests acted)
    (memory : middle.store.memory = before.store.memory)
    (state : middle.notifier.state = before.notifier.state) : before.Rests acted :=
  ⟨⟨rests.changes, rests.attempts, rests.memory.trans memory⟩, state ▸ rests.idle⟩

theorem Quiet.rests {session : Session} {acted : Acted Session} (quiet : session.Quiet acted) :
    session.Rests acted := by
  refine ⟨tacit_of_silent quiet.silent quiet.alike.memory, fun idle => ?_⟩
  rw [quiet.alike.notifier]
  exact idle

theorem Quiet.tacit {session : Session} {acted : Acted Session} (quiet : session.Quiet acted) :
    session.Tacit acted := quiet.rests.toTacit

theorem rests_still (session : Session) : session.Rests (.still session) :=
  (quiet_still (.refl session)).rests

theorem tacit_draw {α : Type} {session : Session} {drawn : Drawn α} {next : α → Acted Session}
    (tacit : session.Tacit (next drawn.result)) : session.Tacit (draw drawn next) := by
  have drew : session.Tacit ⟨session, (drawn.relabel Effect.drew).trace⟩ :=
    tacit_of_silent (isQuiet_drew drawn) rfl
  exact @Tacit.andThen _ _ (fun _ => next drawn.result) drew tacit

theorem rests_draw {α : Type} {session : Session} {drawn : Drawn α} {next : α → Acted Session}
    (rests : session.Rests (next drawn.result)) : session.Rests (draw drawn next) :=
  ⟨tacit_draw rests.toTacit, rests.idle⟩

theorem rests_adopt (session : Session) (bindings : Bindings) :
    session.Rests (session.adopt bindings) :=
  ⟨⟨rfl, rfl, rfl⟩, fun _ => rfl⟩

theorem rests_restore (session : Session) (bindings : Bindings) :
    session.Rests (session.restore bindings) :=
  (rests_adopt session bindings).andThen (quiet_emit (.refl _) rfl).rests

theorem rests_republish (session : Session) : session.Rests session.republish :=
  ⟨⟨rfl, rfl, rfl⟩, id⟩

theorem rests_switchEntity (session : Session) (entity : EntityType) :
    session.Rests (session.switchEntity entity) := by
  obtain ⟨slots, forceReload, bindings, _, opened⟩ := result_switchEntity session entity
  refine ⟨⟨?_, ?_, by rw [opened]⟩, fun _ => by rw [opened]; rfl⟩
  · rw [filterMap_switchEntity _ (fun _ => rfl) (fun _ _ => rfl) fun _ _ _ => rfl]
    rfl
  · rw [filterMap_switchEntity _ (fun _ => rfl) (fun _ _ => rfl) fun _ _ _ => rfl]
    rfl

def Unpicked (session : Session) : Prop :=
  ∀ bindings ∈ session.bindings, bindings.get? .userList = none

theorem rests_unbindUserLists {session : Session} (unpicked : session.Unpicked) :
    session.Rests session.unbindUserLists := by
  unfold unbindUserLists
  split
  · exact rests_still session
  · rename_i bindings bound
    apply rests_draw
    rw [if_neg]
    · exact rests_still session
    · rw [Bindings.snd_unbind, unpicked bindings bound]
      exact Bool.false_ne_true

theorem rests_setUserName {session : Session} {name : Option String}
    (calm : effectiveName name = session.userName ∨ session.Unpicked) :
    session.Rests (session.setUserName name) := by
  unfold setUserName
  dsimp only
  split
  · exact rests_still session
  · rename_i different
    rcases calm with same | unpicked
    · exact absurd same different
    · have again : ∀ next : Session, (next.publish next.context.expression).andThen fetchUserLists =
          next.republish.andThen fetchUserLists := fun _ => rfl
      simp only [again]
      refine Rests.andThen (Rests.of_same (rests_unbindUserLists unpicked) rfl rfl) ?_
      exact (rests_republish _).andThen (quiet_fetchUserLists _).rests

theorem rests_settle {session : Session} (idle : session.notifier.state = .idle) :
    session.Rests session.settle := by
  have calm : session.notifier.state ≠ .debouncing := by
    rw [idle]
    decide
  have untimed : session.notifier.onDeadline =
      (false, { session.notifier with debouncer := session.notifier.debouncer.cancel }) :=
    if_neg calm
  rw [settle, untimed]
  exact ⟨⟨rfl, rfl, rfl⟩, fun _ => idle⟩

theorem rests_acceptChoices (session : Session) (reply : Except Error Choices) :
    session.Rests (session.acceptChoices reply) := by
  unfold acceptChoices
  split
  · exact rests_still session
  · exact (quiet_emit (.refl session) rfl).rests
  · rename_i bindings choices bound
    apply rests_draw
    apply Rests.andThen
    · refine ⟨tacit_of_silent ?_ rfl, id⟩
      intro effect member
      obtain ⟨event, isEvent, rfl⟩ := List.mem_map.1 member
      obtain ⟨update, _, rfl⟩ := List.mem_map.1 isEvent
      rfl
    · split
      · exact rests_still _
      · exact rests_adopt _ _

theorem rests_acceptUserLists {session : Session} (unpicked : session.Unpicked)
    (reply : Except Error UserListReply) : session.Rests (session.acceptUserLists reply) := by
  unfold acceptUserLists
  split
  · exact (quiet_emit (.refl session) rfl).rests
  · rename_i reply
    apply (quiet_takeNotices session reply).rests.andThen
    split
    · exact rests_still _
    · rename_i bindings bound
      have absent : bindings.get? .userList = none := unpicked bindings bound
      apply rests_draw
      split
      · exact rests_still _
      · apply Rests.andThen
        · refine ⟨tacit_of_silent ?_ rfl, id⟩
          intro effect member
          rw [List.mem_singleton.1 member]
          rfl
        · unfold announceUserLists
          rw [absent, if_neg (by decide)]
          split
          · exact rests_still _
          · exact rests_restore _ _

theorem rests_complete {session : Session} {completion : Completion}
    (unpicked : ∀ ticket reply, completion = .userLists ticket reply →
      session.slots.isCurrent ticket = true → session.Unpicked) :
    session.Rests (session.complete completion) := by
  unfold complete
  split
  · rename_i current
    refine @Rests.of_same _ { session with slots := session.slots.finish completion.ticket } _ ?_
      rfl rfl
    cases completion with
    | choices ticket reply => exact rests_acceptChoices _ reply
    | userLists ticket reply =>
        have absent : { session with slots := session.slots.finish ticket }.Unpicked :=
          unpicked ticket reply rfl current
        exact rests_acceptUserLists absent reply
    | suggestions filter ticket reply => exact (quiet_acceptSuggestions _ filter reply).rests
  · exact rests_still session

theorem Turn.unpicked {input : Input} {before after : Session} {effects : List Effect}
    (turn : Turn input before effects after) (regular : before.Regular)
    (unlisted : ∀ ticket reply, input ≠ .completion (.userLists ticket reply))
    (apart : ∀ ticket reply, input ≠ .completion (.suggestions .userList ticket reply))
    (unpicked : before.Unpicked) : after.Unpicked := by
  cases turn with
  | shown unmoved silent =>
      rw [Unpicked, unmoved.bindings]
      exact unpicked
  | revised bound revision =>
      rintro _ ⟨⟩
      rcases revision.picker (regular _ bound) apart with keeps | ⟨ticket, reply, _, isListed, _⟩
      · rw [Option.eq_none_iff_forall_ne_some]
        intro picker found
        obtain ⟨old, isOld, _⟩ := keeps.2 picker found
        rw [unpicked _ bound] at isOld
        cases isOld
      · exact absurd isListed (unlisted ticket _)
  | evaluated =>
      rw [Unpicked, bindings_evaluate]
      exact unpicked
  | adopted bound =>
      rintro _ ⟨⟩
      exact unpicked _ bound
  | @succeeded now name _ changed bindings bound change =>
      have gone : changed.Unpicked := by
        rw [change]
        rintro _ ⟨⟩
        exact bindings.get?_unbind .userList
      have kept : changed.evaluate.result.Unpicked := by
        rw [Unpicked, bindings_evaluate]
        exact gone
      exact kept
  | switched opening bind =>
      rintro _ ⟨⟩
      rw [bind]
      exact Bindings.get?_userList_bind _ _ _
  | _ => exact unpicked

theorem unpicked_respond {session : Session} (regular : session.Regular)
    (unpicked : session.Unpicked) {input : Input}
    (unlisted : ∀ ticket reply, input ≠ .completion (.userLists ticket reply))
    (apart : ∀ ticket reply, input ≠ .completion (.suggestions .userList ticket reply)) :
    (session.respond input).result.Unpicked := by
  refine ((takes_respond session input).kept (fun after => after.Regular ∧ after.Unpicked)
    (fun _ => True) ?_ ⟨regular, unpicked⟩).1.2
  intro before after effects both turn
  exact ⟨⟨(turn.regular both.1).1, turn.unpicked both.1 unlisted apart both.2⟩,
    fun _ _ => trivial⟩

theorem held_query (session : Session) (filter : FilterName) (text : String) :
    ∀ ticket ∈ ((session.query filter text).map Prod.fst).result.slots.held,
      ticket ∈ session.slots.held ∨ ticket.cls = .typeahead filter := by
  unfold query
  split
  · exact fun ticket isHeld => .inl isHeld
  split
  · unfold queryYears
    rw [map_draw]
    dsimp only [draw, Traced.andThen]
    split <;> exact fun ticket isHeld => .inl isHeld
  split
  · exact fun ticket isHeld => .inl isHeld
  split
  · exact fun ticket isHeld => .inl isHeld
  · rw [map_fst_answered]
    intro ticket isHeld
    dsimp only [lookUp, draw, Traced.andThen] at isHeld
    split at isHeld
    · exact .inl (List.mem_filter.1 isHeld).1
    · rcases List.mem_cons.1 isHeld with rfl | before
      · exact .inr rfl
      · exact .inl (List.mem_filter.1 before).1

/-- Whether nothing waits to be announced, and the lists of a picker are not asked for anew. -/
structure Resting (session : Session) : Prop where
  idle : session.notifier.state = .idle
  listed : session.Unpicked ∨ ∀ ticket ∈ session.slots.held, ticket.cls ≠ .userLists

theorem resting_start (config : SessionConfig) (store : FaultyStore) :
    (start config store).Resting :=
  ⟨rfl, .inr fun _ isHeld => nomatch isHeld⟩

theorem unpicked_switchEntity (session : Session) (entity : EntityType) :
    (session.switchEntity entity).result.Unpicked := by
  intro bindings bound
  rw [bindings_switchEntity] at bound
  cases bound
  exact Bindings.get?_userList_bind _ _ _

theorem resting_switchEntity (session : Session) (entity : EntityType) :
    (session.switchEntity entity).result.Resting := by
  refine ⟨?_, .inl (unpicked_switchEntity session entity)⟩
  obtain ⟨slots, forceReload, _, _, opened⟩ := result_switchEntity session entity
  rw [opened]
  rfl

/-- Whether an input asks for no change: neither edits nor clears, nor has the lists of a picker
replaced or removed. -/
def Calm (session : Session) : Input → Prop
  | .command _ (.edit _ _) => False
  | .command _ .clearFilters => False
  | .command _ .reloadUserLists => False
  | .command _ (.setUserName name) => effectiveName name = session.userName ∨ session.Unpicked
  | _ => True

theorem Resting.respond {session : Session} (resting : session.Resting)
    (regular : session.Regular) {input : Input} (own : input.isOwn = true)
    (calm : session.Calm input) :
    session.Rests (session.respond input) ∧ (session.respond input).result.Resting := by
  have unpicked : session.Unpicked → (session.respond input).result.Unpicked := fun unpicked => by
    refine unpicked_respond regular unpicked ?_ ?_ <;>
    · rintro ticket reply rfl
      cases own
  have unasked : input.asks = false → (session.respond input).result.Unpicked ∨
      ∀ ticket ∈ (session.respond input).result.slots.held, ticket.cls ≠ .userLists := by
    intro none
    rw [(idle_respond own none).1]
    exact resting.listed.imp_left unpicked
  have rests : ∀ {acted : Acted Session}, session.Rests acted →
      (acted.result.Unpicked ∨ ∀ ticket ∈ acted.result.slots.held, ticket.cls ≠ .userLists) →
      session.Rests acted ∧ acted.result.Resting :=
    fun rests listed => ⟨rests, rests.idle resting.idle, listed⟩
  cases input with
  | command now command =>
      cases command with
      | switchEntity entity =>
          exact rests (rests_switchEntity session entity)
            (resting_switchEntity session entity).listed
      | setUserName name =>
          refine rests (rests_setUserName calm) ?_
          rcases calm with same | absent
          · have still : session.setUserName name = .still session := if_pos same
            rw [Session.respond, handle, finished, still]
            exact resting.listed
          · exact .inl (unpicked absent)
      | reloadUserLists => cases calm
      | edit filter edit => cases calm
      | query filter text =>
          refine rests (quiet_query session filter text).rests ?_
          refine resting.listed.imp unpicked fun listed ticket isHeld => ?_
          rcases held_query session filter text ticket isHeld with before | cls
          · exact listed ticket before
          · rw [cls]
            exact RequestClass.noConfusion
      | setTagGrouping grouping =>
          exact rests (quiet_setTagGrouping session grouping).rests (unasked rfl)
      | clearFilters => cases calm
      | settle => exact rests (rests_settle resting.idle) (unasked rfl)
  | completion completion => cases own
  | deadline => exact rests (rests_settle resting.idle) (unasked rfl)
  | snapshot => exact rests (rests_still session) (unasked rfl)
  | fault load save => exact rests ⟨⟨rfl, rfl, rfl⟩, id⟩ (unasked rfl)

end Session

namespace Occurrence

def Calm : Occurrence → Prop
  | .responded session input => session.Calm input
  | _ => True

/-- Whether what happens announces no change and stores nothing. -/
def Tacit (occurrence : Occurrence) : Prop :=
  occurrence.effects.filterMap Effect.change? = [] ∧
    occurrence.effects.filterMap Effect.attempt? = []

theorem Tacit.silent {occurrence : Occurrence} (tacit : occurrence.Tacit) :
    ∀ effect ∈ occurrence.effects, effect.change? = none ∧ effect.attempt? = none :=
  fun effect member => ⟨List.filterMap_eq_nil_iff.1 tacit.1 effect member,
    List.filterMap_eq_nil_iff.1 tacit.2 effect member⟩

end Occurrence

namespace World

theorem Orderly.listed {history : List Occurrence} {world : World}
    (orderly : world.Orderly history) {message : Message} (queued : message ∈ world.messages)
    {ticket : Ticket} {reply : Except Error UserListReply}
    (isListed : message.completion = .userLists ticket reply)
    (current : world.session.slots.isCurrent ticket = true) :
    ticket ∈ world.session.slots.held ∧ ticket.cls = .userLists := by
  have asked := orderly.asked queued (isListed ▸ current)
  obtain ⟨⟨own, call⟩, completion, yields⟩ := message
  cases isListed
  cases yields with
  | userLists isCall reply =>
      dsimp only at isCall
      subst isCall
      obtain ⟨isHeld, asks⟩ := asked
      cases asks with
      | userLists cls chosen user media => exact ⟨isHeld, cls⟩

theorem Reaches.resting_complete {config : SessionConfig} {store : FaultyStore}
    {history : List Occurrence} {world : World} (reached : Reaches config store history world)
    (resting : world.session.Resting) {message : Message} (queued : message ∈ world.messages) :
    world.session.Rests (world.session.complete message.completion) ∧
      (world.session.complete message.completion).result.Resting := by
  have orderly := reached.orderly
  have rests : world.session.Rests (world.session.complete message.completion) := by
    refine Session.rests_complete fun ticket reply isListed current => ?_
    obtain ⟨isHeld, cls⟩ := orderly.listed queued isListed current
    exact resting.listed.resolve_right fun listed => listed ticket isHeld cls
  refine ⟨rests, rests.idle resting.idle, ?_⟩
  by_cases current : world.session.slots.isCurrent message.completion.ticket = true
  · have slots := (Session.finish_complete world.session message.completion).1
    by_cases isListed : ∃ ticket reply, message.completion = .userLists ticket reply
    · obtain ⟨ticket, reply, isListed⟩ := isListed
      rw [isListed] at current slots
      obtain ⟨isHeld, cls⟩ := orderly.listed queued isListed current
      refine .inr fun other stillHeld same => ?_
      rw [isListed, slots, RequestSlots.finish, if_pos current] at stillHeld
      have different := (List.mem_filter.1 stillHeld).2
      simp [Completion.ticket, same, cls] at different
    · refine resting.listed.imp (fun unpicked => ?_) fun listed ticket stillHeld => ?_
      · have suits := orderly.suits queued (reached.guarded.answered message queued) current
        have kept : (world.session.respond (.completion message.completion)).result.Unpicked := by
          refine Session.unpicked_respond orderly.regular unpicked ?_ ?_
          · intro ticket reply same
            exact isListed ⟨ticket, reply, Input.completion.inj same⟩
          · intro ticket reply same
            rw [Input.completion.inj same] at suits
            exact suits rfl
        exact kept
      · rw [slots] at stillHeld
        exact listed ticket (RequestSlots.held_of_finish stillHeld)
  · have still : world.session.complete message.completion = .still world.session := if_neg current
    rw [still]
    exact resting.listed

theorem Reaches.resting_step {config : SessionConfig} {store : FaultyStore}
    {history : List Occurrence} {before after : World} {occurrence : Occurrence}
    (reached : Reaches config store history before) (resting : before.session.Resting)
    (step : Step before occurrence after) (calm : occurrence.Calm) :
    after.session.Resting ∧ occurrence.Tacit ∧
      after.session.store.memory = before.session.store.memory := by
  have orderly := reached.orderly
  cases step with
  | respond own =>
      obtain ⟨rests, atRest⟩ := resting.respond orderly.regular own calm
      exact ⟨atRest, ⟨rests.changes, rests.attempts⟩, rests.memory⟩
  | answer message sent => exact ⟨resting, ⟨rfl, rfl⟩, rfl⟩
  | abandon sent cancelled => exact ⟨resting, ⟨rfl, rfl⟩, rfl⟩
  | @deliver _ earlier later message queued =>
      have isQueued : message ∈ before.messages := by
        rw [queued]
        exact List.mem_append_right _ List.mem_cons_self
      obtain ⟨rests, atRest⟩ := reached.resting_complete resting isQueued
      exact ⟨atRest, ⟨rests.changes, rests.attempts⟩, rests.memory⟩

theorem Reaches.resting {config : SessionConfig} {store : FaultyStore}
    {earlier later : List Occurrence} {first world : World}
    (reached : Reaches config store earlier first) (resting : first.session.Resting)
    (steps : Steps first later world) (calm : ∀ occurrence ∈ later, occurrence.Calm) :
    world.session.Resting ∧ (∀ occurrence ∈ later, occurrence.Tacit) ∧
      world.session.store.memory = first.session.store.memory := by
  induction steps with
  | refl => exact ⟨resting, (fun _ member => nomatch member), rfl⟩
  | @step history before after occurrence steps step induction =>
      obtain ⟨atRest, tacit, memory⟩ :=
        induction fun other member => calm other (List.mem_append_left _ member)
      obtain ⟨stillAtRest, alsoTacit, kept⟩ := (reached.steps steps).resting_step atRest step
        (calm occurrence (List.mem_append_right _ List.mem_cons_self))
      refine ⟨stillAtRest, ?_, kept.trans memory⟩
      intro other member
      rcases List.mem_append.1 member with early | last
      · exact tacit other early
      · rw [List.mem_singleton.1 last]
        exact alsoTacit

/-- Until a filter is edited, the filters are cleared, the user lists are reloaded or another user
is named while a picker is bound, no change is announced, no text is to be stored, and the store
keeps what it held, whatever that is. -/
theorem restoring_is_silent (config : SessionConfig) (store : FaultyStore)
    {history : List Occurrence} {world : World} (reached : Reaches config store history world)
    (calm : ∀ occurrence ∈ history, occurrence.Calm) :
    (∀ occurrence ∈ history, ∀ effect ∈ occurrence.effects,
      effect.change? = none ∧ effect.attempt? = none) ∧
    world.session.store.memory = store.memory := by
  obtain ⟨_, tacit, memory⟩ := Reaches.start.resting (Session.resting_start config store)
    reached.from_start calm
  exact ⟨fun occurrence member => (tacit occurrence member).silent, memory⟩

def corruptStore : FaultyStore :=
  .sound (MemoryStore.empty.save EntityType.anime.storageKey "corrupt")

def animeRestored : Session :=
  ((Session.start (.initial []) corruptStore).respond (.command 0 (.switchEntity .anime))).result

def annRestored : Session :=
  (animeRestored.respond (.command 1 (.setUserName (some "ann")))).result

def listsRestored : World :=
  ⟨(annRestored.complete listsOfAnn.completion).result, [choicesOfAnime], []⟩

def restorationOfAnn : List Occurrence :=
  [.responded (.start (.initial []) corruptStore) (.command 0 (.switchEntity .anime)),
    .responded animeRestored (.command 1 (.setUserName (some "ann"))), .answered listsOfAnn,
    .delivered annRestored listsOfAnn]

/-- The picker starts with a selection that nobody made, and yet it is not announced. -/
theorem restoring_is_silent_of_ann :
    Reaches (.initial []) corruptStore restorationOfAnn listsRestored ∧
      (∀ occurrence ∈ restorationOfAnn, occurrence.Calm) ∧
      listsRestored.session.expression ≠ annRestored.expression ∧
      (∀ occurrence ∈ restorationOfAnn, ∀ effect ∈ occurrence.effects,
        effect.change? = none ∧ effect.attempt? = none) ∧
      listsRestored.session.store.memory = corruptStore.memory := by
  have asked : Reaches (.initial []) corruptStore
      [.responded (.start (.initial []) corruptStore) (.command 0 (.switchEntity .anime)),
        .responded animeRestored (.command 1 (.setUserName (some "ann")))]
      ⟨annRestored, [choicesOfAnime] ++ listsOfAnn.request :: [], []⟩ :=
    .step (.step .start (.respond rfl _)) (.respond rfl _)
  have answered := asked.step (.answer listsOfAnn rfl)
  have reached : Reaches (.initial []) corruptStore restorationOfAnn listsRestored :=
    answered.step (@Step.deliver _ [] [] listsOfAnn rfl)
  have calm : ∀ occurrence ∈ restorationOfAnn, occurrence.Calm := by
    intro occurrence member
    simp only [restorationOfAnn, List.mem_cons, List.not_mem_nil, or_false] at member
    rcases member with rfl | rfl | rfl | rfl
    · trivial
    · right
      intro bindings bound
      have opened : animeRestored.bindings = _ := Session.bindings_switchEntity _ .anime
      rw [opened] at bound
      cases bound
      exact Bindings.get?_userList_bind _ _ _
    · trivial
    · trivial
  have silent := restoring_is_silent _ _ reached calm
  exact ⟨reached, calm, by decide +kernel, silent⟩

end World

end MediaFilter
