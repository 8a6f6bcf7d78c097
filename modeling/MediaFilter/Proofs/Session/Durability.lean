import MediaFilter.Proofs.Session.Silence

/-!
How the selection of user lists outlasts the session.  A picker that is bound for the first time
takes its selection over in silence, so the store may not hold it: an edit that was stored before
the lists came has left it out.  The store holds it once a change was announced while the picker was
there; and if no change was announced, or nothing was stored for the user lists anyway, the same
lists lead to the same selection again.
-/

namespace MediaFilter

namespace Expression

theorem restore?_of_unlisted {stored : Expression}
    (unlisted : stored.get? FilterName.userList.wire = none) :
    stored.restore? FilterName.userList.definition = none := by
  unfold Expression.restore? Expression.restoreSelection?
  rw [FilterName.definition_name, unlisted]
  rfl

end Expression

namespace SetClause

variable {selection : Selection}

theorem isEmpty_toSelection (distinct : selection.values.Nodup) :
    (ofSelection selection).toSelection.isEmpty = selection.isEmpty := by
  have same : ofSelection (ofSelection selection).toSelection = ofSelection selection :=
    ofSelection_toSelection (Selection.nodup_included_append_excluded distinct)
  have included : (ofSelection selection).toSelection.included = selection.included :=
    congrArg values same
  have excluded : (ofSelection selection).toSelection.excluded = selection.excluded :=
    congrArg SetClause.excluded same
  rw [Bool.eq_iff_iff, Selection.isEmpty_iff, Selection.isEmpty_iff, included, excluded]

theorem restrict_toSelection (distinct : selection.values.Nodup) {allowed : String → Bool}
    (all : ∀ value ∈ selection.values, allowed value = true) :
    (ofSelection selection).toSelection.restrict allowed = (ofSelection selection).toSelection := by
  have form : (ofSelection selection).toSelection =
      ⟨selection.included.map .including ++ selection.excluded.map .excluding,
        selection.combinator⟩ :=
    toSelection_of_nodup (Selection.nodup_included_append_excluded distinct)
  have kept : ∀ entry ∈ (ofSelection selection).toSelection.entries,
      allowed entry.value = true := by
    rw [form]
    intro entry member
    refine all _ ((Selection.perm_included_append_excluded _).subset ?_)
    rcases List.mem_append.1 member with included | excluded
    · obtain ⟨value, isIncluded, rfl⟩ := List.mem_map.1 included
      exact List.mem_append_left _ isIncluded
    · obtain ⟨value, isExcluded, rfl⟩ := List.mem_map.1 excluded
      exact List.mem_append_right _ isExcluded
  rw [Selection.restrict, List.filter_eq_self.2 kept]

end SetClause

namespace Widget

theorem listedSelection_of_clause {entries : List WhitelistEntry} {selection : Selection}
    (distinct : selection.values.Nodup) (chosen : selection.isEmpty = false)
    (listed : ∀ value ∈ selection.values, lists entries value = true) {stored : Expression}
    (shown : stored.get? FilterName.userList.wire = some (.set (.ofSelection selection))) :
    ∃ again : Selection, listedSelection FilterName.userList.definition entries
        (stored.restore? FilterName.userList.definition) = .userList again ∧
      SetClause.ofSelection again = SetClause.ofSelection selection := by
  have restored : stored.restore? FilterName.userList.definition =
      some (.userList (SetClause.ofSelection selection).toSelection) := by
    unfold Expression.restore? Expression.restoreSelection?
    rw [FilterName.definition_name, shown]
    rfl
  refine ⟨(SetClause.ofSelection selection).toSelection, ?_,
    SetClause.ofSelection_toSelection (Selection.nodup_included_append_excluded distinct)⟩
  rw [restored]
  unfold listedSelection
  dsimp only
  rw [SetClause.restrict_toSelection distinct listed, SetClause.isEmpty_toSelection distinct,
    if_neg (Bool.eq_false_iff.1 chosen)]

end Widget

namespace Bindings

theorem Regular.userList_clause_accept {bindings : Bindings} (regular : bindings.Regular)
    (choices : Choices) :
    (bindings.accept choices).result.1.build.get? FilterName.userList.wire =
      bindings.build.get? FilterName.userList.wire := by
  rw [(regular_accept regular choices).get?_build_userList, regular.get?_build_userList,
    get?_accept]
  cases found : bindings.get? .userList with
  | none => rfl
  | some picker =>
      have source : picker.definition.source = some .userLists := by
        rw [regular.definition_of_get? found]
        rfl
      have same : (acceptOne choices bindings.grouping picker).result.1 = picker := by
        unfold acceptOne
        rw [source]
        rfl
      rw [Option.map_some, same]

theorem get?_bindUserLists {bindings : Bindings} (sound : bindings.Sound)
    {userLists : List UserList} {stored : Expression} {count : Nat}
    (binds : (bindings.bindUserLists userLists stored true).result.2 = some count)
    (unpicked : bindings.get? .userList = none) :
    ∃ picker, (bindings.bindUserLists userLists stored true).result.1.get? .userList =
        some picker ∧
      picker.whitelist = userLists.map UserList.toWhitelistEntry ∧
      picker.value = Widget.listedSelection FilterName.userList.definition picker.whitelist
        (stored.restore? FilterName.userList.definition) := by
  rcases bindUserLists_cases sound userLists stored with unbound | bound
  · rw [unbound] at binds
    cases binds
  · have picked : bindings.pickedLists stored =
        stored.restore? FilterName.userList.definition := by
      unfold pickedLists
      rw [unpicked]
    rw [picked] at bound
    exact bound

theorem snd_bindUserLists {bindings : Bindings} (media : bindings.entity.isMedia = true)
    {userLists : List UserList} (someLists : userLists ≠ []) (stored : Expression) :
    (bindings.bindUserLists userLists stored true).result.2 = some userLists.length := by
  rcases bindUserLists_eq bindings userLists stored true with
    ⟨foreign | noLists, _⟩ | ⟨_, _, _, _, _, bound⟩
  · exact absurd (EntityType.userList_mem_filterSet.2 media) foreign
  · exact absurd noLists someLists
  · rw [bound]

def reopened (entity : EntityType) (stored : Expression) (grouping : TagGrouping)
    (userLists : List UserList) : Bindings :=
  ((bind entity stored grouping).result.subscribeAll.bindUserLists userLists stored true).result.1

theorem get?_reopened {entity : EntityType} (media : entity.isMedia = true)
    {userLists : List UserList} (someLists : userLists ≠ []) (stored : Expression)
    (grouping : TagGrouping) :
    ∃ picker, (reopened entity stored grouping userLists).get? .userList = some picker ∧
      picker.value = Widget.listedSelection FilterName.userList.definition
        (userLists.map UserList.toWhitelistEntry)
        (stored.restore? FilterName.userList.definition) := by
  obtain ⟨picker, found, whitelist, value⟩ :=
    get?_bindUserLists (sound_bind entity stored grouping)
      (snd_bindUserLists media someLists stored) (get?_userList_bind entity stored grouping)
  rw [whitelist] at value
  exact ⟨picker, found, value⟩

end Bindings

namespace Session

def listClause (session : Session) : Option Clause :=
  session.context.expression.get? FilterName.userList.wire

/-- What is stored for an entity type; a text that is no expression counts as nothing. -/
def recorded (entity : EntityType) (session : Session) : Expression :=
  (session.store.memory.load entity.storageKey).elim .empty fun text =>
    (Expression.read? text).getD .empty

/-- How effects leave the clause of the user lists: without a change it stays, and after a change it
is also in the store, unless the store did not take a text. -/
inductive Carries (entity : EntityType) (before : Session) (effects : List Effect)
    (after : Session) : Prop
  | silent (changes : effects.filterMap Effect.change? = [])
      (memory : after.store.memory = before.store.memory)
      (clause : after.listClause = before.listClause)
  | announced (changes : effects.filterMap Effect.change? ≠ [])
      (stored : (∀ attempt ∈ effects.filterMap Effect.attempt?, attempt.2.2 = true) →
        (after.recorded entity).get? FilterName.userList.wire = after.listClause)

theorem recorded_congr {before after : Session} (entity : EntityType)
    (memory : after.store.memory = before.store.memory) :
    after.recorded entity = before.recorded entity := by
  rw [recorded, recorded, memory]

theorem Carries.trans {entity : EntityType} {before middle after : Session}
    {effects more : List Effect} (first : Carries entity before effects middle)
    (second : Carries entity middle more after) :
    Carries entity before (effects ++ more) after := by
  cases second with
  | announced changes stored =>
      refine .announced ?_ fun taken => stored fun attempt member => taken attempt ?_
      · rw [List.filterMap_append]
        exact List.append_ne_nil_of_right_ne_nil _ changes
      · rw [List.filterMap_append]
        exact List.mem_append_right _ member
  | silent noChanges memory clause =>
      cases first with
      | silent none sameMemory sameClause =>
          refine .silent ?_ (memory.trans sameMemory) (clause.trans sameClause)
          rw [List.filterMap_append, none, noChanges]
          rfl
      | announced changes stored =>
          refine .announced ?_ fun taken => ?_
          · rw [List.filterMap_append]
            exact List.append_ne_nil_of_left_ne_nil changes _
          · rw [recorded_congr entity memory, clause]
            refine stored fun attempt member => taken attempt ?_
            rw [List.filterMap_append]
            exact List.mem_append_left _ member

theorem Tacit.carries {session : Session} {acted : Acted Session} (tacit : session.Tacit acted)
    (entity : EntityType) (clause : acted.result.listClause = session.listClause) :
    Carries entity session acted.trace acted.result :=
  .silent tacit.changes tacit.memory clause

theorem Quiet.carries {session : Session} {acted : Acted Session} (quiet : session.Quiet acted)
    (entity : EntityType) : Carries entity session acted.trace acted.result :=
  quiet.tacit.carries entity (by rw [listClause, listClause, quiet.alike.context])

theorem carries_evaluate {session : Session} {entity : EntityType}
    (chosen : session.entity? = some entity) :
    Carries entity session session.evaluate.trace session.evaluate.result := by
  have outcome := evaluates session
  generalize session.evaluate = acted at outcome
  cases outcome with
  | unbound nothing => exact .silent rfl rfl rfl
  | unchanged bound same => exact .silent rfl rfl rfl
  | @changed bindings bound different =>
      have own : entity = bindings.entity := by
        rw [entity?, bound] at chosen
        exact (Option.some.inj chosen).symm
      subst own
      refine .announced ?_ fun taken => ?_
      · rw [filterMap_change?_announcement]
        exact List.cons_ne_nil _ _
      · rw [filterMap_attempt?_announcement] at taken
        have sound := Option.isNone_iff_eq_none.1 (taken _ List.mem_cons_self)
        unfold recorded stored
        rw [sound]
        dsimp only
        rw [MemoryStore.load_save_self, Option.elim_some, Expression.read?_print]
        rfl

theorem Turn.carries {input : Input} {before after : Session} {effects : List Effect}
    {entity : EntityType} (turn : Turn input before effects after) (own : input.isOwn = true)
    (stays : ∀ now other, input ≠ .command now (.switchEntity other))
    (chosen : before.entity? = some entity) : Carries entity before effects after := by
  cases turn with
  | shown unmoved silent =>
      have tacit : before.Tacit ⟨after, effects⟩ := tacit_of_silent
        (fun effect member => Effect.isQuiet_of_isShown (silent effect member)) unmoved.memory
      exact tacit.carries entity (congrArg
        (fun context : QueryContext => context.expression.get? FilterName.userList.wire)
        unmoved.context)
  | evaluated => exact carries_evaluate chosen
  | adopted bound => cases own
  | @succeeded now name _ changed bindings bound change =>
      have stayed : changed.entity? = some entity := by
        rw [Session.entity?, bound] at chosen
        rw [change, Session.entity?, Option.map_some, Bindings.entity_unbind]
        exact chosen
      have renamed : Carries entity before [] changed := by
        rw [change]
        exact .silent rfl rfl rfl
      have republished : Carries entity changed.evaluate.result
          changed.evaluate.result.republish.trace changed.evaluate.result.republish.result :=
        .silent rfl rfl rfl
      exact renamed.trans ((carries_evaluate stayed).trans republished)
  | switched opening bind => exact absurd rfl (stays _ _)
  | _ => exact .silent rfl rfl rfl

theorem Turns.carries {input : Input} {before after : Session} {effects : List Effect}
    {entity : EntityType} (turns : Turns input before effects after) (own : input.isOwn = true)
    (stays : ∀ now other, input ≠ .command now (.switchEntity other))
    (chosen : before.entity? = some entity) : Carries entity before effects after := by
  induction turns with
  | refl session => exact .silent rfl rfl rfl
  | step turn _ induction =>
      have stayed := turn.entity?.resolve_right fun ⟨now, other, same⟩ => stays now other same
      exact (turn.carries own stays chosen).trans (induction (stayed.trans chosen))

theorem carries_respond {session : Session} {input : Input} {entity : EntityType}
    (own : input.isOwn = true) (stays : ∀ now other, input ≠ .command now (.switchEntity other))
    (chosen : session.entity? = some entity) :
    Carries entity session (session.respond input).trace (session.respond input).result :=
  (takes_respond session input).carries own stays chosen

theorem Consistent.shown {session : Session} (consistent : session.Consistent)
    {bindings : Bindings} (bound : session.bindings = some bindings)
    (unarmed : session.notifier.isPending = false) :
    session.context.expression = bindings.build := by
  have coherent := consistent.coherent bindings.entity (by rw [entity?, bound]; rfl)
  have idle := coherent.idle_iff.2 (Option.not_isSome_iff_eq_none.1 (Bool.eq_false_iff.1 unarmed))
  rw [coherent.expression idle, expression, bound]
  rfl

theorem Consistent.listClause {session : Session} (consistent : session.Consistent)
    (regular : session.Regular) (unarmed : session.notifier.isPending = false)
    {bindings : Bindings} (bound : session.bindings = some bindings) {picker : Widget}
    (found : bindings.get? .userList = some picker) {selection : Selection}
    (selects : picker.value = .userList selection) (chosen : selection.isEmpty = false) :
    session.listClause = some (.set (.ofSelection selection)) := by
  rw [Session.listClause, consistent.shown bound unarmed,
    (regular bindings bound).get?_build_userList, found, Option.bind_some, selects,
    FilterValue.get?_clauses_userList, if_neg (Bool.eq_false_iff.1 chosen)]

theorem listClause_acceptChoices {session : Session} (consistent : session.Consistent)
    (regular : session.Regular) (reply : Except Error Choices) :
    (session.acceptChoices reply).result.listClause = session.listClause := by
  unfold acceptChoices
  split
  · rfl
  · rfl
  · rename_i bindings choices bound
    dsimp only [draw, Traced.andThen, emitAll]
    split
    · rfl
    · rename_i unarmed
      have shown := consistent.shown bound (Bool.eq_false_iff.2 unarmed)
      have before : session.listClause = bindings.build.get? FilterName.userList.wire := by
        rw [listClause, shown]
      rw [before]
      exact (regular bindings bound).userList_clause_accept choices

/-- Whether a picker is bound whose selection was taken over from what was stored. -/
def Picks (stored : Expression) (session : Session) : Prop :=
  ∃ bindings picker, session.bindings = some bindings ∧
    bindings.get? .userList = some picker ∧
    picker.value = Widget.listedSelection FilterName.userList.definition picker.whitelist
      (stored.restore? FilterName.userList.definition) ∧
    session.listClause = bindings.build.get? FilterName.userList.wire

theorem carries_draw {α : Type} {session : Session} {drawn : Drawn α} {next : α → Acted Session}
    {entity : EntityType}
    (carries : Carries entity session (next drawn.result).trace (next drawn.result).result) :
    Carries entity session (draw drawn next).trace (draw drawn next).result := by
  have drew : session.Tacit ⟨session, (drawn.relabel Effect.drew).trace⟩ :=
    tacit_of_silent (isQuiet_drew drawn) rfl
  exact (drew.carries entity rfl).trans carries

theorem carries_andThen {session : Session} {acted : Acted Session}
    {next : Session → Acted Session} {entity : EntityType}
    (first : Carries entity session acted.trace acted.result)
    (second : Carries entity acted.result (next acted.result).trace (next acted.result).result) :
    Carries entity session (acted.andThen next).trace (acted.andThen next).result :=
  first.trans second

theorem carries_relisted {session : Session} {bindings : Bindings}
    (bound : session.bindings = some bindings) {picker : Widget}
    (found : bindings.get? .userList = some picker) (reply : Except Error UserListReply) :
    Carries bindings.entity session (session.acceptUserLists reply).trace
      (session.acceptUserLists reply).result := by
  unfold acceptUserLists
  split
  · exact (quiet_emit (.refl session) rfl).carries _
  · rename_i reply
    apply carries_andThen ((quiet_takeNotices session reply).carries bindings.entity)
    have stillBound : (session.takeNotices reply).result.bindings = some bindings := bound
    rw [stillBound]
    apply carries_draw
    split
    · exact .silent rfl rfl rfl
    · apply carries_andThen
      · exact .silent rfl rfl rfl
      · unfold announceUserLists
        have again : (!(some picker).isNone) = true := rfl
        rw [found, if_pos again]
        refine carries_evaluate ?_
        exact congrArg some (Bindings.entity_bindUserLists _ _ true bindings)

theorem listClause_acceptUserLists {session : Session} (sound : session.Sound)
    (unpicked : session.Unpicked) (reply : Except Error UserListReply) :
    (session.acceptUserLists reply).result.listClause = session.listClause ∨
      (session.acceptUserLists reply).result.Picks session.restored := by
  unfold acceptUserLists
  split
  · exact .inl rfl
  · rename_i reply
    dsimp only [Traced.andThen]
    split
    · exact .inl rfl
    · rename_i bindings bound
      have bound : session.bindings = some bindings := bound
      have absent := unpicked bindings bound
      dsimp only [bindUserLists, draw, Traced.andThen]
      split
      · exact .inl rfl
      · rename_i count binds
        unfold announceUserLists
        rw [absent, if_neg (by decide)]
        split
        · exact .inl rfl
        · obtain ⟨picker, found, _, value⟩ :=
            Bindings.get?_bindUserLists (sound bindings bound) binds absent
          exact .inr ⟨_, picker, rfl, found, value, rfl⟩

theorem carries_complete {session : Session} (consistent : session.Consistent)
    (regular : session.Regular) {entity : EntityType} (chosen : session.entity? = some entity)
    (completion : Completion) :
    let acted := session.complete completion
    Carries entity session acted.trace acted.result ∨
      (session.Unpicked ∧ session.Tacit acted ∧ acted.result.Picks session.restored) := by
  unfold complete
  split
  · have finished : session.Quiet (.still { session with
        slots := session.slots.finish completion.ticket }) :=
      quiet_still ⟨⟨rfl, rfl, id, rfl, rfl, rfl⟩, rfl⟩
    have consistent : Consistent { session with slots := session.slots.finish completion.ticket } :=
      consistent.moves finished.proceeds
    cases completion with
    | choices ticket reply =>
        have tacit := (rests_acceptChoices { session with slots := session.slots.finish ticket }
          reply).toTacit
        exact .inl (.silent tacit.changes tacit.memory
          (listClause_acceptChoices consistent regular reply))
    | userLists ticket reply =>
        obtain ⟨bindings, bound, rfl⟩ := Option.map_eq_some_iff.1 chosen
        have isBound : { session with slots := session.slots.finish ticket }.bindings =
          some bindings := bound
        cases found : bindings.get? .userList with
        | some picker =>
            exact .inl ((finished.carries _).trans (carries_relisted isBound found reply))
        | none =>
            have unpicked : session.Unpicked := by
              intro other isBound
              rw [bound] at isBound
              cases isBound
              exact found
            have tacit := (@rests_acceptUserLists { session with
              slots := session.slots.finish ticket } unpicked reply).toTacit
            rcases listClause_acceptUserLists consistent.sound unpicked reply with same | picks
            · exact .inl (.silent tacit.changes tacit.memory same)
            · exact .inr ⟨unpicked, ⟨tacit.changes, tacit.attempts, tacit.memory⟩, picks⟩
    | suggestions filter ticket reply =>
        exact .inl ((finished.carries _).trans ((quiet_acceptSuggestions _ filter reply).carries _))
  · exact .inl (.silent rfl rfl rfl)

end Session

namespace Occurrence

def session? : Occurrence → Option Session
  | .responded session _ => some session
  | .delivered session _ => some session
  | _ => none

def switches : Occurrence → Bool
  | .responded _ (.command _ (.switchEntity _)) => true
  | _ => false

end Occurrence

namespace World

variable {config : SessionConfig} {store : FaultyStore} {history earlier later : List Occurrence}
  {before after middle world : World} {occurrence : Occurrence}

theorem Reaches.consistent (reached : Reaches config store history world) :
    world.session.Consistent := by
  have respond : ∀ {session : Session} (input : Input), session.Consistent →
      (session.respond input).result.Consistent := fun input consistent =>
    consistent.moves (Session.proceeds_respond consistent.sound input)
  refine reached.always (Session.consistent_start config store) ?_ ?_
  · intro _ _ _ consistent input _
    exact respond input consistent
  · intro _ _ _ consistent message _
    exact respond (.completion message.completion) consistent

theorem Step.told (step : Step before occurrence after) :
    occurrence.session? = some before.session ∨ after.session = before.session := by
  cases step with
  | respond own => exact .inl rfl
  | answer message sent => exact .inr rfl
  | abandon sent cancelled => exact .inr rfl
  | deliver queued => exact .inl rfl

theorem Step.held_before {P : Session → Prop} (step : Step before occurrence after)
    (told : ∀ session ∈ occurrence.session?, P session) (now : P after.session) :
    P before.session := by
  rcases step.told with isTold | same
  · exact told _ isTold
  · exact same ▸ now

theorem Step.unpicked (step : Step before occurrence after)
    (switches : occurrence.switches = true) : after.session.Unpicked := by
  unfold Occurrence.switches at switches
  split at switches
  · cases step with
    | respond own => exact Session.unpicked_switchEntity before.session _
  · cases switches

theorem Reaches.carries_step (reached : Reaches config store history before)
    (step : Step before occurrence after) (stays : occurrence.switches = false)
    {entity : EntityType} (chosen : before.session.entity? = some entity) :
    after.session.entity? = some entity ∧ after.session.restored = before.session.restored ∧
      (Session.Carries entity before.session occurrence.effects after.session ∨
        (before.session.Unpicked ∧ occurrence.Tacit ∧
          after.session.store.memory = before.session.store.memory ∧
          after.session.Picks before.session.restored)) := by
  cases step with
  | @respond input own world =>
      have other : ∀ now entity, input ≠ .command now (.switchEntity entity) := by
        rintro now entity rfl
        cases stays
      exact ⟨(Session.entity?_respond other).trans chosen, Session.restored_respond other,
        .inl (Session.carries_respond own other chosen)⟩
  | answer message sent => exact ⟨chosen, rfl, .inl (.silent rfl rfl rfl)⟩
  | abandon sent cancelled => exact ⟨chosen, rfl, .inl (.silent rfl rfl rfl)⟩
  | @deliver _ earlier later message queued =>
      have other : ∀ now entity,
          Input.completion message.completion ≠ .command now (.switchEntity entity) :=
        fun _ _ => nofun
      have stayed : (before.session.complete message.completion).result.entity? = some entity :=
        (Session.entity?_respond other).trans chosen
      have restored : (before.session.complete message.completion).result.restored =
          before.session.restored := Session.restored_respond other
      refine ⟨stayed, restored, ?_⟩
      rcases Session.carries_complete reached.consistent reached.orderly.regular chosen
        message.completion with carries | ⟨unpicked, tacit, picks⟩
      · exact .inl carries
      · exact .inr ⟨unpicked, ⟨tacit.changes, tacit.attempts⟩, tacit.memory, picks⟩

theorem Reaches.recorded_of_change (reached : Reaches config store earlier middle)
    (steps : Steps middle later world)
    (picked : ∀ occurrence ∈ later, ∀ session ∈ occurrence.session?, ¬ session.Unpicked)
    (isPicked : ¬ world.session.Unpicked)
    (taken : ∀ occurrence ∈ later, ∀ attempt ∈ occurrence.effects.filterMap Effect.attempt?,
      attempt.2.2 = true)
    (changed : ∃ occurrence ∈ later, occurrence.effects.filterMap Effect.change? ≠ [])
    {entity : EntityType} (chosen : world.session.entity? = some entity) :
    (world.session.recorded entity).get? FilterName.userList.wire = world.session.listClause := by
  induction steps with
  | refl =>
      obtain ⟨_, member, _⟩ := changed
      cases member
  | @step later before after occurrence steps step induction =>
      have isLast : occurrence ∈ later ++ [occurrence] :=
        List.mem_append_right _ List.mem_cons_self
      have wasPicked := step.held_before (picked occurrence isLast) isPicked
      have stays : occurrence.switches = false :=
        Bool.eq_false_iff.2 fun switches => isPicked (step.unpicked switches)
      have wasChosen : before.session.entity? = some entity := by
        cases was : before.session.entity? with
        | none =>
            refine absurd (fun bindings bound => ?_) wasPicked
            rw [Session.entity?, Option.mem_def.1 bound] at was
            cases was
        | some other =>
            have kept := ((reached.steps steps).carries_step step stays was).1
            exact kept.symm.trans chosen
      obtain ⟨_, _, outcome⟩ := (reached.steps steps).carries_step step stays wasChosen
      rcases outcome with carries | ⟨unpicked, _⟩
      · cases carries with
        | announced _ stored => exact stored (taken occurrence isLast)
        | silent noChanges memory clause =>
            -- The change was announced before.
            rw [Session.recorded_congr entity memory, clause]
            refine induction ?_ wasPicked ?_ ?_ wasChosen
            · exact fun other member => picked other (List.mem_append_left _ member)
            · exact fun other member => taken other (List.mem_append_left _ member)
            · obtain ⟨other, member, change⟩ := changed
              rcases List.mem_append.1 member with early | last
              · exact ⟨other, early, change⟩
              · rw [List.mem_singleton.1 last] at change
                exact absurd noChanges change
      · exact absurd unpicked wasPicked

end World

namespace Session

def Offers (entries : List WhitelistEntry) (session : Session) : Prop :=
  ∀ bindings ∈ session.bindings, ∀ picker ∈ bindings.get? .userList, picker.whitelist = entries

/-- Whether the clause of the user lists, if there is one, is what some entries make of what was
stored. -/
def Follows (entries : List WhitelistEntry) (stored : Expression) (session : Session) : Prop :=
  ∀ clause ∈ session.listClause, ∃ selection : Selection,
    Widget.listedSelection FilterName.userList.definition entries
      (stored.restore? FilterName.userList.definition) = .userList selection ∧
    clause = .set (.ofSelection selection)

theorem Picks.follows {session : Session} {stored : Expression} (picks : session.Picks stored)
    (regular : session.Regular) {entries : List WhitelistEntry} (offers : session.Offers entries) :
    session.Follows entries stored := by
  obtain ⟨bindings, picker, bound, found, value, shown⟩ := picks
  intro clause isClause
  rw [Option.mem_def, shown] at isClause
  obtain ⟨same, selection, get, selects, rfl⟩ :=
    (regular bindings bound).userList_clause isClause
  rw [found] at get
  cases get
  refine ⟨selection, ?_, rfl⟩
  rw [← offers bindings bound picker found, ← value, selects]

/-- Whether what is stored for the user lists is what is published, or is still what the picker
started from. -/
structure Keeps (entity : EntityType) (entries : List WhitelistEntry) (stored : Expression)
    (session : Session) : Prop where
  chosen : session.entity? = some entity
  restored : session.restored = stored
  clause : stored.get? FilterName.userList.wire = none ∧
      (session.recorded entity).get? FilterName.userList.wire = session.listClause ∨
    (session.recorded entity).restore? FilterName.userList.definition =
      stored.restore? FilterName.userList.definition ∧ session.Follows entries stored

end Session

namespace World

/-- From the choice of an entity type on, if no change is announced, or else nothing was stored for
the user lists, the picker can start again from what is stored. -/
theorem Reaches.keeps (reached : Reaches config store earlier middle)
    (steps : Steps middle later world) {entity : EntityType}
    (chosen : middle.session.entity? = some entity) (unpicked : middle.session.Unpicked)
    (restored : middle.session.restored = middle.session.recorded entity)
    {entries : List WhitelistEntry}
    (stays : ∀ occurrence ∈ later, occurrence.switches = false)
    (taken : ∀ occurrence ∈ later, ∀ attempt ∈ occurrence.effects.filterMap Effect.attempt?,
      attempt.2.2 = true)
    (unchanged : (∀ occurrence ∈ later, occurrence.effects.filterMap Effect.change? = []) ∨
      (middle.session.recorded entity).get? FilterName.userList.wire = none)
    (offered : ∀ occurrence ∈ later, ∀ session ∈ occurrence.session?, session.Offers entries)
    (offers : world.session.Offers entries) :
    world.session.Keeps entity entries middle.session.restored := by
  have unlisted : ∀ {history : List Occurrence} {world : World},
      Reaches config store history world → world.session.Unpicked →
        world.session.listClause = none := fun reached => reached.guarded.separate.unlisted
  induction steps with
  | refl =>
      refine ⟨chosen, rfl, .inr ⟨by rw [restored], fun clause isClause => ?_⟩⟩
      rw [unlisted reached unpicked] at isClause
      cases isClause
  | @step later before after occurrence steps step induction =>
      have isLast : occurrence ∈ later ++ [occurrence] :=
        List.mem_append_right _ List.mem_cons_self
      obtain ⟨wasChosen, wasRestored, kept⟩ := induction
        (fun other member => stays other (List.mem_append_left _ member))
        (fun other member => taken other (List.mem_append_left _ member))
        (unchanged.imp_left fun none other member => none other (List.mem_append_left _ member))
        (fun other member => offered other (List.mem_append_left _ member))
        (step.held_before (offered occurrence isLast) offers)
      have whole := reached.steps steps
      obtain ⟨stillChosen, sameRestored, outcome⟩ :=
        whole.carries_step step (stays occurrence isLast) wasChosen
      refine ⟨stillChosen, sameRestored.trans wasRestored, ?_⟩
      rcases outcome with carries | ⟨wasUnpicked, _, memory, picks⟩
      · cases carries with
        | announced changes stored =>
            have none := unchanged.resolve_left fun none => changes (none occurrence isLast)
            exact .inl ⟨restored ▸ none, stored (taken occurrence isLast)⟩
        | silent _ memory clause =>
            rw [Session.recorded_congr entity memory, Session.Follows, clause]
            exact kept
      · rw [wasRestored] at picks
        rw [Session.recorded_congr entity memory]
        have follows := picks.follows (whole.step step).orderly.regular offers
        refine .inr ⟨?_, follows⟩
        rcases kept with ⟨none, clause⟩ | ⟨same, _⟩
        · -- What was stored without a picker has no clause, and there was none to lose.
          rw [unlisted whole wasUnpicked] at clause
          rw [Expression.restore?_of_unlisted clause, Expression.restore?_of_unlisted none]
        · exact same

end World

namespace Session

theorem recorded_switchEntity {session : Session} (readable : session.store.loadFault = none)
    (entity : EntityType) :
    let opened := (session.switchEntity entity).result
    opened.entity? = some entity ∧ opened.Unpicked ∧
      opened.recorded entity = session.recorded entity ∧
      opened.restored = session.recorded entity := by
  have loaded : (session.load entity).result = session.recorded entity := by
    unfold load FaultyStore.load recorded
    rw [readable]
    cases session.store.memory.load entity.storageKey <;> rfl
  obtain ⟨slots, forceReload, bindings, rfl, opened⟩ := result_switchEntity session entity
  refine ⟨?_, unpicked_switchEntity session entity, ?_, ?_⟩ <;> rw [opened]
  · rfl
  · rfl
  · exact loaded

end Session

namespace Occurrence

/-- Whether what happened leaves the store with the selection of a picker that offers some entries.
Either a change was announced while there was a picker, and the picker stayed.  Or the picker has
offered the same since the entity type was chosen, and in between no change was announced, or there
was nothing stored for the user lists. -/
inductive Secures (entries : List WhitelistEntry) : List Occurrence → Prop
  | announced {earlier later : List Occurrence}
      (picked : ∀ occurrence ∈ later, ∀ session ∈ occurrence.session?, ¬ session.Unpicked)
      (changed : ∃ occurrence ∈ later, occurrence.effects.filterMap Effect.change? ≠ []) :
      Secures entries (earlier ++ later)
  | restored {earlier later : List Occurrence} {session : Session} {now : Nat}
      {entity : EntityType} (readable : session.store.loadFault = none)
      (stays : ∀ occurrence ∈ later, occurrence.switches = false)
      (unchanged : (∀ occurrence ∈ later, occurrence.effects.filterMap Effect.change? = []) ∨
        (session.recorded entity).get? FilterName.userList.wire = none)
      (offered : ∀ occurrence ∈ later, ∀ session ∈ occurrence.session?,
        session.Offers entries) :
      Secures entries
        (earlier ++ [.responded session (.command now (.switchEntity entity))] ++ later)

end Occurrence

namespace World

theorem Reaches.selection_again (reached : Reaches config store history world)
    {bindings : Bindings} (bound : world.session.bindings = some bindings) {picker : Widget}
    (found : bindings.get? .userList = some picker) {selection : Selection}
    (selects : picker.value = .userList selection) (chosen : selection.isEmpty = false)
    (unarmed : world.session.notifier.isPending = false)
    (taken : ∀ occurrence ∈ history, ∀ attempt ∈ occurrence.effects.filterMap Effect.attempt?,
      attempt.2.2 = true)
    (secured : Occurrence.Secures picker.whitelist history) :
    ∃ again : Selection, Widget.listedSelection FilterName.userList.definition picker.whitelist
        ((world.session.recorded bindings.entity).restore? FilterName.userList.definition) =
          .userList again ∧
      SetClause.ofSelection again = SetClause.ofSelection selection := by
  have regular := reached.orderly.regular bindings bound
  have distinct := (regular.fits_of_get? found).distinct selection (by rw [selects]; rfl)
  have listed := (reached.guarded.separate.owned bindings bound picker found).restrained selection
    (by rw [selects]; rfl)
  have clause := reached.consistent.listClause reached.orderly.regular unarmed bound found selects
    chosen
  have entity : world.session.entity? = some bindings.entity := by
    rw [Session.entity?, bound]
    rfl
  have of_recorded : (world.session.recorded bindings.entity).get? FilterName.userList.wire =
      world.session.listClause → _ := fun recorded =>
    Widget.listedSelection_of_clause distinct chosen listed (recorded.trans clause)
  cases secured with
  | @announced earlier later picked changed =>
      obtain ⟨middle, first, steps⟩ := reached.split
      refine of_recorded (first.recorded_of_change steps picked ?_ ?_ changed entity)
      · intro unpicked
        rw [unpicked bindings bound] at found
        cases found
      · exact fun occurrence member => taken occurrence (List.mem_append_right _ member)
  | @restored earlier later session now chosenEntity readable stays unchanged offered =>
      obtain ⟨middle, first, steps⟩ := reached.split
      obtain ⟨before, _, step⟩ := first.last
      cases step with
      | respond own =>
          obtain ⟨chosenNow, unpicked, recorded, restored⟩ :=
            Session.recorded_switchEntity readable chosenEntity
          have keeps := first.keeps steps chosenNow unpicked (restored.trans recorded.symm) stays
            (fun occurrence member => taken occurrence (List.mem_append_right _ member))
            (unchanged.imp_right fun none => recorded ▸ none) offered ?_
          · have same : chosenEntity = bindings.entity :=
              Option.some.inj (keeps.chosen.symm.trans entity)
            subst same
            rcases keeps.clause with ⟨_, isRecorded⟩ | ⟨same, follows⟩
            · exact of_recorded isRecorded
            · obtain ⟨again, selected, isAgain⟩ := follows _ clause
              rw [same]
              exact ⟨again, selected, (Clause.set.inj isAgain).symm⟩
          · intro other isBound another isFound
            rw [bound] at isBound
            cases isBound
            rw [found] at isFound
            cases isFound
            rfl

/-- A selection of user lists is secured, at a moment when no edit waits and after the store took
all that it was given: whoever starts again with the same lists has the same lists selected. -/
theorem selection_survives (config : SessionConfig) (store : FaultyStore)
    {history : List Occurrence} {world : World} (reached : Reaches config store history world)
    {bindings : Bindings} (bound : world.session.bindings = some bindings) {picker : Widget}
    (found : bindings.get? .userList = some picker) {selection : Selection}
    (selects : picker.value = .userList selection) (chosen : selection.isEmpty = false)
    (unarmed : world.session.notifier.isPending = false)
    (taken : ∀ occurrence ∈ history, ∀ attempt ∈ occurrence.effects.filterMap Effect.attempt?,
      attempt.2.2 = true)
    (secured : Occurrence.Secures picker.whitelist history) :
    let stored := world.session.recorded bindings.entity
    (∃ userLists : List UserList,
      picker.whitelist = userLists.map UserList.toWhitelistEntry) ∧
    ∀ userLists : List UserList, picker.whitelist = userLists.map UserList.toWhitelistEntry →
      ∀ grouping, ∃ fresh again,
        (Bindings.reopened bindings.entity stored grouping userLists).get? .userList = some fresh ∧
        fresh.value = .userList again ∧ again.combinator = selection.combinator ∧
        again.included = selection.included ∧ again.excluded = selection.excluded := by
  have owned := reached.guarded.separate.owned bindings bound picker found
  obtain ⟨_, _, lists, _, offered⟩ := owned.returned
  refine ⟨⟨lists, offered⟩, fun userLists whitelist grouping => ?_⟩
  have media := (reached.orderly.regular bindings bound).isMedia_of_picker found
  have someLists : userLists ≠ [] := by
    rintro rfl
    have none : selection.values = [] := List.eq_nil_iff_forall_not_mem.2 fun value member => by
      have listed := owned.restrained selection (by rw [selects]; rfl) value member
      rw [whitelist] at listed
      cases listed
    rw [Selection.isEmpty, List.map_eq_nil_iff.1 none] at chosen
    cases chosen
  obtain ⟨again, selected, same⟩ :=
    reached.selection_again bound found selects chosen unarmed taken secured
  rw [whitelist] at selected
  obtain ⟨fresh, isFresh, value⟩ := Bindings.get?_reopened media someLists
    (world.session.recorded bindings.entity) grouping
  exact ⟨fresh, again, isFresh, value.trans selected, congrArg SetClause.combinator same,
    congrArg SetClause.values same, congrArg SetClause.excluded same⟩

def completedStore : FaultyStore :=
  .sound ⟨[("filters-manga",
    "\x7b\"and\":\x7b\"userList\":\x7b\"and\":[\"11\"]\x7d\x7d\x7d")]⟩

def mangaLists : List UserList := [⟨"10", "Watching", none, 4⟩, ⟨"11", "Completed", none, 80⟩]

def listsOfAlice : Message where
  request := ⟨⟨.userLists, 1, 1⟩, .userLists "alice" .manga false⟩
  completion := .userLists ⟨.userLists, 1, 1⟩ (.ok ⟨mangaLists, [], []⟩)
  yields := .userLists rfl _

def choicesOfManga : Request := ⟨⟨.filterValues, 1, 0⟩, .choices .manga⟩

def aliceNamed : Session :=
  ((Session.start (.initial []) completedStore).respond
    (.command 0 (.setUserName (some "alice")))).result

def mangaRestored : Session := (aliceNamed.respond (.command 1 (.switchEntity .manga))).result

def scanlatedOnly : Input := .command 2 (.edit .onlyScanlated (.check true))

def mangaEdited : Session := (mangaRestored.respond scanlatedOnly).result

def aliceServed (session : Session) : World :=
  ⟨(session.complete listsOfAlice.completion).result, [choicesOfManga], []⟩

def mangaChosen : List Occurrence :=
  [.responded (.start (.initial []) completedStore) (.command 0 (.setUserName (some "alice"))),
    .responded aliceNamed (.command 1 (.switchEntity .manga))]

def listsDelivered (session : Session) : List Occurrence :=
  [.answered listsOfAlice, .delivered session listsOfAlice]

theorem reaches_mangaRestored : Reaches (.initial []) completedStore mangaChosen
    ⟨mangaRestored, [choicesOfManga, listsOfAlice.request], []⟩ := by
  have named : Reaches (.initial []) completedStore
      [.responded (.start (.initial []) completedStore)
        (.command 0 (.setUserName (some "alice")))] ⟨aliceNamed, [], []⟩ :=
    Reaches.start.respond rfl (by decide +kernel)
  exact named.respond rfl (by decide +kernel)

theorem Reaches.aliceServed {session : Session}
    (reached : Reaches (.initial []) completedStore history
      ⟨session, [choicesOfManga, listsOfAlice.request], []⟩) :
    Reaches (.initial []) completedStore (history ++ listsDelivered session)
      (aliceServed session) := by
  have answered := reached.step (@Step.answer _ [choicesOfManga] [] listsOfAlice rfl)
  have delivered := answered.step (@Step.deliver _ [] [] listsOfAlice rfl)
  rw [List.append_assoc] at delivered
  exact delivered

/-- Alice has edited nothing, and finds her list selected again. -/
theorem selection_survives_of_restored :
    let history := mangaChosen ++ listsDelivered mangaRestored
    let world := aliceServed mangaRestored
    let stored := world.session.recorded .manga
    Reaches (.initial []) completedStore history world ∧
      ∃ bindings picker, world.session.bindings = some bindings ∧
        bindings.get? .userList = some picker ∧
        picker.value = .userList ⟨[.including "11"], .and⟩ ∧
        world.session.notifier.isPending = false ∧
        Occurrence.Secures picker.whitelist history ∧
        ∃ fresh again, (Bindings.reopened .manga stored .alphabetical mangaLists).get? .userList =
            some fresh ∧
          fresh.value = .userList again ∧ again.combinator = .and ∧ again.included = ["11"] ∧
          again.excluded = [] := by
  intro history world stored
  have reached : Reaches (.initial []) completedStore history world :=
    reaches_mangaRestored.aliceServed
  have shown : (world.session.bindings.bind fun bindings =>
      (bindings.get? .userList).map fun picker =>
        (bindings.entity, picker.value, picker.whitelist)) =
      some (.manga, .userList ⟨[.including "11"], .and⟩,
        mangaLists.map UserList.toWhitelistEntry) := by decide +kernel
  obtain ⟨bindings, bound, shown⟩ := Option.bind_eq_some_iff.1 shown
  obtain ⟨picker, found, shown⟩ := Option.map_eq_some_iff.1 shown
  obtain ⟨entity, value, whitelist⟩ : bindings.entity = .manga ∧
      picker.value = .userList ⟨[.including "11"], .and⟩ ∧
      picker.whitelist = mangaLists.map UserList.toWhitelistEntry := by
    simpa only [Prod.mk.injEq] using shown
  have unarmed : world.session.notifier.isPending = false := by decide +kernel
  have unpicked : mangaRestored.Unpicked := Session.unpicked_switchEntity aliceNamed .manga
  have secured : Occurrence.Secures picker.whitelist history := by
    refine @Occurrence.Secures.restored _ [.responded (.start (.initial []) completedStore)
      (.command 0 (.setUserName (some "alice")))] (listsDelivered mangaRestored) aliceNamed 1
      .manga (by decide +kernel) ?_ (.inl ?_) ?_
    · decide +kernel
    · decide +kernel
    · intro occurrence member session told bindings bound other offered
      have isRestored : session = mangaRestored := by
        simp only [listsDelivered, List.mem_cons, List.not_mem_nil, or_false] at member
        rcases member with rfl | rfl
        · cases told
        · exact (Option.some.inj told).symm
      rw [isRestored] at bound
      rw [unpicked bindings bound] at offered
      cases offered
  have taken : ∀ occurrence ∈ history, ∀ attempt ∈ occurrence.effects.filterMap Effect.attempt?,
      attempt.2.2 = true := by decide +kernel
  obtain ⟨_, survives⟩ := selection_survives _ _ reached bound found value rfl unarmed taken secured
  rw [entity] at survives
  obtain ⟨fresh, again, isFresh, selects, combinator, included, excluded⟩ :=
    survives mangaLists whitelist .alphabetical
  exact ⟨reached, bindings, picker, bound, found, value, unarmed, secured, fresh, again, isFresh,
    selects, combinator, included, excluded⟩

/-- The edit is stored before the lists arrive, and the list that is selected thereafter is not
selected again. -/
theorem selection_lost_of_early_edit :
    let world := aliceServed mangaEdited
    let stored := world.session.recorded .manga
    let picked := fun bindings : Bindings => (bindings.get? .userList).map Widget.value
    Reaches (.initial []) completedStore
        (mangaChosen ++ [.responded mangaRestored scanlatedOnly] ++ listsDelivered mangaEdited)
        world ∧
      (mangaRestored.respond scanlatedOnly).trace.filterMap Effect.attempt? =
        [(.manga, mangaEdited.expression.print, true)] ∧
      world.session.notifier.isPending = false ∧
      world.session.bindings.bind picked = some (.userList ⟨[.including "11"], .and⟩) ∧
      picked (.reopened .manga stored .alphabetical mangaLists) =
        some (.userList ⟨[.including "10"], .and⟩) := by
  have edited : Reaches (.initial []) completedStore
      (mangaChosen ++ [.responded mangaRestored scanlatedOnly])
      ⟨mangaEdited, [choicesOfManga, listsOfAlice.request] ++ [], []⟩ :=
    reaches_mangaRestored.respond rfl
      (List.filterMap_eq_nil_iff.2 (Session.idle_respond rfl rfl).2)
  exact ⟨edited.aliceServed, by decide +kernel⟩

end World

end MediaFilter
