import MediaFilter.Proofs.Bindings.Picker
import MediaFilter.Proofs.Session.World

/-!
Lists are never mixed.  The picker offers lists that were returned for the present user and entity
type, and every published context that has a clause for the lists names the user and the entity
type for whom they were returned.
-/

namespace MediaFilter

/-- What tells which lists were returned for a user and an entity type. -/
abbrev Returns := String → EntityType → List UserList → Prop

/-- Whether all lists in the clause of the user lists belong to the user and the entity type. -/
def QueryContext.Attributed (returned : Returns) (context : QueryContext) : Prop :=
  ∀ clause ∈ context.expression.get? FilterName.userList.wire, ∃ (set : SetClause)
    (entity : EntityType), clause = .set set ∧ context.entity = some entity ∧
    context.userName ≠ "" ∧ ∀ value ∈ set.values ++ set.excluded, ∃ lists,
      returned context.userName entity lists ∧ value ∈ lists.map UserList.id

theorem QueryContext.Attributed.of_unlisted {returned : Returns} {context : QueryContext}
    (none : context.expression.get? FilterName.userList.wire = none) :
    context.Attributed returned := by
  intro clause found
  rw [Option.mem_def.1 found] at none
  cases none

theorem QueryContext.Attributed.mono {returned others : Returns}
    {context : QueryContext} (attributed : context.Attributed returned)
    (more : ∀ {name entity lists}, returned name entity lists → others name entity lists) :
    context.Attributed others := by
  intro clause found
  obtain ⟨set, entity, isSet, chosen, user, each⟩ := attributed clause found
  refine ⟨set, entity, isSet, chosen, user, fun value member => ?_⟩
  obtain ⟨lists, was, isId⟩ := each value member
  exact ⟨lists, more was, isId⟩

def Effect.Attributed (returned : Returns) (effect : Effect) : Prop :=
  ∀ context ∈ effect.publication?, context.Attributed returned

theorem Effect.attributed_published {returned : Returns} {context : QueryContext}
    (attributed : context.Attributed returned) :
    ∀ effect ∈ [published context], effect.Attributed returned := by
  intro effect member other isPublished
  cases List.mem_singleton.1 member
  cases isPublished
  exact attributed

theorem Effect.attributed_of_silent {returned : Returns} {effect : Effect}
    (silent : effect.publication? = none) : effect.Attributed returned := by
  intro context published
  rw [silent] at published
  cases published

theorem UserList.mem_ids {userLists : List UserList} {value : String}
    (listed : MediaFilter.lists (userLists.map UserList.toWhitelistEntry) value = true) :
    value ∈ userLists.map UserList.id := by
  obtain ⟨entry, isEntry, same⟩ := List.any_eq_true.1 listed
  obtain ⟨list, isList, rfl⟩ := List.mem_map.1 isEntry
  exact List.mem_map.2 ⟨list, isList, eq_of_beq same⟩

theorem FilterValue.get?_clauses_userList (selection : Selection) :
    Clauses.get? FilterName.userList.wire
        ((FilterValue.userList selection).clauses FilterName.userList.definition) =
      if selection.isEmpty then none else some (.set (.ofSelection selection)) := by
  unfold clauses selectionClauses
  dsimp only
  split
  · rfl
  · rw [Clauses.get?_cons, FilterName.definition_name, if_pos rfl]

namespace Bindings

theorem Regular.get?_build_userList {bindings : Bindings} (regular : bindings.Regular) :
    bindings.build.get? FilterName.userList.wire =
      (bindings.get? .userList).bind fun picker =>
        Clauses.get? FilterName.userList.wire
          (picker.value.clauses FilterName.userList.definition) := by
  cases found : bindings.get? .userList with
  | none =>
      exact regular.toSound.get?_build_of_absent (get?_eq_none_iff.1 found) List.mem_cons_self
  | some picker =>
      obtain ⟨isBound, named⟩ := mem_of_get? found
      rw [regular.toSound.get?_build_of_mem isBound (by rw [named]; decide)
        (by rw [named]; decide) (by rw [named]; exact List.mem_cons_self),
        regular.definition_of_get? found,
        Expression.contribution_eq (regular.fits_of_get? found).kind]
      rfl

theorem Regular.picker_selects {bindings : Bindings} (regular : bindings.Regular)
    {picker : Widget} (found : bindings.get? .userList = some picker) :
    ∃ selection, picker.value = .userList selection := by
  have kind := (regular.fits_of_get? found).kind
  cases value : picker.value with
  | userList selection => exact ⟨selection, rfl⟩
  | _ =>
      rw [value] at kind
      cases kind

theorem Regular.userList_clause {bindings : Bindings} (regular : bindings.Regular)
    {clause : Clause} (found : bindings.build.get? FilterName.userList.wire = some clause) :
    ∃ picker selection, bindings.get? .userList = some picker ∧
      picker.value = .userList selection ∧ clause = .set (.ofSelection selection) := by
  rw [regular.get?_build_userList] at found
  obtain ⟨picker, get, told⟩ := Option.bind_eq_some_iff.1 found
  obtain ⟨selection, value⟩ := regular.picker_selects get
  rw [value, FilterValue.get?_clauses_userList] at told
  split at told
  · cases told
  · exact ⟨picker, selection, get, value, (Option.some.inj told).symm⟩

theorem Regular.unlisted {bindings : Bindings} (regular : bindings.Regular)
    (unpicked : bindings.get? .userList = none) :
    bindings.build.get? FilterName.userList.wire = none := by
  rw [regular.get?_build_userList, unpicked]
  rfl

theorem Regular.isMedia_of_picker {bindings : Bindings} (regular : bindings.Regular)
    {picker : Widget} (found : bindings.get? .userList = some picker) :
    bindings.entity.isMedia = true :=
  EntityType.userList_mem_filterSet.1 (regular.offered_of_get? found)

theorem get?_userList_bind (entity : EntityType) (stored : Expression) (grouping : TagGrouping) :
    (bind entity stored grouping).result.subscribeAll.get? .userList = none := by
  rw [get?_eq_none_iff, mem_names]
  rintro ⟨widget, isBound, named⟩
  obtain ⟨name, _, different, rfl⟩ := mem_bind.1 isBound
  exact different ((name_boundFor entity stored name).symm.trans named)

end Bindings

namespace Session

structure Owns (returned : Returns) (userName : Option String) (entity : EntityType)
    (picker : Widget) : Prop where
  restrained : picker.Restrained
  returned : ∃ name ∈ userName, ∃ lists, returned name entity lists ∧
    picker.whitelist = lists.map UserList.toWhitelistEntry

/-- What keeps one user's lists from the context of another. -/
structure Separate (returned : Returns) (session : Session) : Prop where
  regular : session.Regular
  announced : ∀ entity ∈ session.entity?,
    session.notifier.announced = some session.context.expression.print
  named : ∀ name ∈ session.userName, name ≠ ""
  unlisted : (∀ bindings ∈ session.bindings, bindings.get? .userList = none) →
    session.context.expression.get? FilterName.userList.wire = none
  owned : ∀ bindings ∈ session.bindings, ∀ picker ∈ bindings.get? .userList,
    Owns returned session.userName bindings.entity picker

theorem separate_start (returned : Returns) (config : SessionConfig) (store : FaultyStore) :
    (start config store).Separate returned := by
  refine ⟨regular_start config store, ?_, ?_, fun _ => rfl, ?_⟩
  · rintro _ ⟨⟩
  · rintro _ ⟨⟩
  · rintro _ ⟨⟩

theorem Separate.mono {returned others : Returns} {session : Session}
    (separate : session.Separate returned)
    (more : ∀ {name entity lists}, returned name entity lists → others name entity lists) :
    session.Separate others := by
  refine ⟨separate.regular, separate.announced, separate.named, separate.unlisted, ?_⟩
  intro bindings bound picker found
  obtain ⟨restrained, name, user, lists, was, whitelist⟩ :=
    separate.owned bindings bound picker found
  exact ⟨restrained, name, user, lists, more was, whitelist⟩

theorem Separate.of_same {returned : Returns} {before : Session}
    (separate : before.Separate returned) (after : Session)
    (bindings : after.bindings = before.bindings)
    (announced : after.notifier.announced = before.notifier.announced)
    (userName : after.userName = before.userName) (context : after.context = before.context) :
    after.Separate returned := by
  refine ⟨?_, ?_, ?_, ?_, ?_⟩
  · rw [Regular, bindings]
    exact separate.regular
  · rw [announced, context, entity?, bindings]
    exact separate.announced
  · rw [userName]
    exact separate.named
  · rw [bindings, context]
    exact separate.unlisted
  · rw [bindings, userName]
    exact separate.owned

theorem separate_of_shows {returned : Returns} {session : Session} {bindings : Bindings}
    (bound : session.bindings = some bindings) (regular : bindings.Regular)
    (expression : session.context.expression = bindings.build)
    (announced : session.notifier.announced = some bindings.build.print)
    (named : ∀ name ∈ session.userName, name ≠ "")
    (owned : ∀ picker ∈ bindings.get? .userList,
      Owns returned session.userName bindings.entity picker) : session.Separate returned := by
  refine ⟨?_, ?_, named, ?_, ?_⟩
  · intro whole isBound
    rw [bound] at isBound
    cases isBound
    exact regular
  · intro _ _
    rw [announced, expression]
  · intro unpicked
    rw [expression]
    exact regular.unlisted (unpicked bindings bound)
  · intro whole isBound
    rw [bound] at isBound
    cases isBound
    exact owned

theorem separate_of_unpicked {returned : Returns} {session : Session} {bindings : Bindings}
    (bound : session.bindings = some bindings) (regular : bindings.Regular)
    (unpicked : bindings.get? .userList = none)
    (expression : session.context.expression = bindings.build)
    (announced : session.notifier.announced = some bindings.build.print)
    (named : ∀ name ∈ session.userName, name ≠ "") : session.Separate returned := by
  refine separate_of_shows bound regular expression announced named fun picker found => ?_
  rw [unpicked] at found
  cases found

theorem Separate.attributed {returned : Returns} {session : Session}
    (separate : session.Separate returned) {bindings : Bindings}
    (bound : session.bindings = some bindings) :
    QueryContext.Attributed returned
      ⟨some bindings.entity, session.userName.getD "", bindings.build⟩ := by
  intro clause found
  obtain ⟨picker, selection, get, value, rfl⟩ :=
    (separate.regular bindings bound).userList_clause found
  obtain ⟨restrained, name, user, lists, was, whitelist⟩ :=
    separate.owned bindings bound picker get
  have userName : session.userName.getD "" = name := by rw [Option.mem_def.1 user]; rfl
  refine ⟨_, bindings.entity, rfl, rfl, ?_, ?_⟩
  · exact userName ▸ separate.named name user
  · intro listed member
    refine ⟨lists, userName ▸ was, UserList.mem_ids ?_⟩
    have isSelected := (Selection.perm_included_append_excluded _).subset member
    rw [← whitelist]
    exact restrained selection (by rw [value]; rfl) listed isSelected

theorem expression_evaluate {session : Session} {bindings : Bindings}
    (bound : session.bindings = some bindings)
    (announced : session.notifier.announced = some session.context.expression.print) :
    session.evaluate.result.context.expression = bindings.build ∧
      session.evaluate.result.notifier.announced = some bindings.build.print := by
  have outcome := evaluates session
  generalize session.evaluate = acted at outcome
  cases outcome with
  | unbound nothing =>
      rw [bound] at nothing
      cases nothing
  | unchanged isBound same =>
      rw [bound] at isBound
      cases isBound
      refine ⟨?_, rfl⟩
      rw [announced] at same
      exact Expression.print_inj.1 (Option.some.inj same)
  | changed isBound different =>
      rw [bound] at isBound
      cases isBound
      exact ⟨rfl, rfl⟩

theorem publication?_evaluate {session : Session} {effect : Effect}
    (member : effect ∈ session.evaluate.trace) {context : QueryContext}
    (published : effect.publication? = some context) :
    ∃ bindings ∈ session.bindings,
      context = ⟨some bindings.entity, session.userName.getD "", bindings.build⟩ := by
  have outcome := evaluates session
  generalize session.evaluate = acted at outcome member
  cases outcome with
  | unbound nothing => cases member
  | unchanged bound same => cases member
  | @changed bindings bound different =>
      have once : (announcement bindings.entity (session.userName.getD "") bindings.build
          session.store.saveFault).filterMap Effect.publication? =
            [⟨some bindings.entity, session.userName.getD "", bindings.build⟩] := by
        cases session.store.saveFault <;> rfl
      have listed := List.mem_filterMap.2 ⟨effect, member, published⟩
      rw [once] at listed
      exact ⟨bindings, bound, List.mem_singleton.1 listed⟩

theorem Separate.evaluate {returned : Returns} {session : Session}
    (separate : session.Separate returned) : session.evaluate.result.Separate returned ∧
      ∀ effect ∈ session.evaluate.trace, effect.Attributed returned := by
  constructor
  · cases bound : session.bindings with
    | none =>
        have still : session.evaluate = .still session := by rw [Session.evaluate, bound]
        rw [still]
        exact separate
    | some bindings =>
        have userName := userName_evaluate session
        obtain ⟨expression, announced⟩ := expression_evaluate bound
          (separate.announced bindings.entity (by rw [entity?, bound]; rfl))
        refine separate_of_shows ((bindings_evaluate session).trans bound)
          (separate.regular bindings bound) expression announced ?_ ?_
        · rw [userName]
          exact separate.named
        · rw [userName]
          exact separate.owned bindings bound
  · intro effect member context published
    obtain ⟨bindings, bound, rfl⟩ := publication?_evaluate member published
    exact separate.attributed bound

theorem effective_ne_empty {name : Option String} {text : String}
    (effective : effectiveName name = some text) : text ≠ "" := by
  unfold effectiveName at effective
  have kept := (Option.filter_eq_some_iff.1 effective).2
  rintro rfl
  cases kept

/-- Whether a reply fits the session: it is for its user and its entity type, and suggestions are
not for the user lists. -/
def Suits (returned : Returns) (session : Session) : Input → Prop
  | .completion (.userLists _ (.ok reply)) => ∃ name ∈ session.userName,
    ∃ entity ∈ session.entity?, returned name entity reply.lists
  | .completion (.suggestions filter _ _) => filter ≠ .userList
  | _ => True

theorem Suits.turn {returned : Returns} {input : Input} {before after : Session}
    {effects : List Effect} (suits : before.Suits returned input)
    (turn : Turn input before effects after) : after.Suits returned input := by
  unfold Suits at suits ⊢
  split
  · rename_i ticket reply
    obtain ⟨name, user, entity, chosen, was⟩ := suits
    have userName : after.userName = before.userName := by
      rcases turn.userName with kept | ⟨_, _, isRename⟩
      · exact kept
      · cases isRename
    have same : after.entity? = before.entity? := by
      rcases turn.entity? with kept | ⟨_, _, isSwitch⟩
      · exact kept
      · cases isSwitch
    exact ⟨name, userName ▸ user, entity, same ▸ chosen, was⟩
  · exact suits
  · trivial

theorem Separate.revised {returned : Returns} {input : Input} {before : Session}
    {bindings revised : Bindings} (separate : before.Separate returned)
    (suits : before.Suits returned input) (bound : before.bindings = some bindings)
    (revision : Bindings.Revision before.restored input bindings revised) :
    Separate returned { before with bindings := some revised } := by
  have regular := separate.regular bindings bound
  have entity := revision.entity
  have apart : ∀ ticket reply, input ≠ .completion (.suggestions .userList ticket reply) := by
    rintro ticket reply rfl
    exact suits rfl
  have picker := revision.picker regular apart
  refine ⟨?_, ?_, separate.named, ?_, ?_⟩
  · rintro _ ⟨⟩
    exact revision.regular regular
  · rintro _ ⟨⟩
    exact separate.announced bindings.entity (by rw [entity?, bound]; rfl)
  · intro unpicked
    refine separate.unlisted fun other isBound => ?_
    rw [Option.mem_def.1 isBound] at bound
    cases bound
    have none := unpicked revised rfl
    rcases picker with keeps | ⟨_, _, _, _, found, _⟩
    · exact keeps.1 none
    · rw [none] at found
      cases found
  · rintro _ ⟨⟩ offered found
    rcases picker with keeps | ⟨ticket, reply, own, rfl, get, whitelist, restrained⟩
    · obtain ⟨old, wasFound, same, kept⟩ := keeps.2 offered found
      obtain ⟨wasRestrained, name, user, lists, was, whitelist⟩ :=
        separate.owned bindings bound old wasFound
      exact ⟨kept wasRestrained, name, user, lists, entity ▸ was, same.trans whitelist⟩
    · rw [Option.mem_def.1 found] at get
      cases get
      obtain ⟨name, user, chosen, isChosen, was⟩ := suits
      rw [entity?, bound] at isChosen
      cases isChosen
      exact ⟨restrained, name, user, reply.lists, entity ▸ was, whitelist⟩

theorem Separate.succeeded {returned : Returns} {before changed : Session}
    (separate : before.Separate returned) {bindings : Bindings}
    (bound : before.bindings = some bindings) {name : Option String}
    (change : changed = { before with
      userName := effectiveName name
      bindings := some (bindings.unbind .userList).result.1 }) :
    (changed.evaluate.andThen republish).result.Separate returned ∧
      ∀ effect ∈ (changed.evaluate.andThen republish).trace, effect.Attributed returned := by
  have regular := Bindings.regular_unbind (separate.regular bindings bound)
  have unpicked := Bindings.get?_unbind bindings .userList
  have unlisted := regular.unlisted unpicked
  have isBound : changed.bindings = some (bindings.unbind .userList).result.1 := by
    rw [change]
  have old := separate.announced bindings.entity (by rw [entity?, bound]; rfl)
  obtain ⟨expression, announced⟩ := expression_evaluate isBound (by rw [change]; exact old)
  have userName : changed.evaluate.result.userName = effectiveName name := by
    rw [userName_evaluate, change]
  constructor
  · refine separate_of_unpicked ((bindings_evaluate changed).trans isBound) regular unpicked
      expression announced fun text named => ?_
    exact effective_ne_empty (userName.symm.trans named)
  · intro effect member
    rcases List.mem_append.1 member with early | late
    · intro context published
      obtain ⟨whole, isWhole, rfl⟩ := publication?_evaluate early published
      rw [isBound] at isWhole
      cases isWhole
      exact .of_unlisted unlisted
    · refine Effect.attributed_published (.of_unlisted ?_) effect late
      rw [expression]
      exact unlisted

theorem Separate.turn {returned : Returns} {input : Input} {before after : Session}
    {effects : List Effect} (separate : before.Separate returned)
    (suits : before.Suits returned input) (turn : Turn input before effects after) :
    after.Separate returned ∧ ∀ effect ∈ effects, effect.Attributed returned := by
  cases turn with
  | shown unmoved silent =>
      refine ⟨separate.of_same after unmoved.bindings (congrArg _ unmoved.notifier)
        unmoved.userName unmoved.context, fun effect member => ?_⟩
      exact Effect.attributed_of_silent (Effect.publication?_of_isShown (silent effect member))
  | asked asks before cls call =>
      refine ⟨separate.of_same _ rfl rfl rfl rfl, fun effect member => ?_⟩
      cases List.mem_singleton.1 member
      exact Effect.attributed_of_silent rfl
  | dismissed asks before gone =>
      exact ⟨separate.of_same _ rfl rfl rfl rfl, fun _ member => nomatch member⟩
  | finished before =>
      exact ⟨separate.of_same _ rfl rfl rfl rfl, fun _ member => nomatch member⟩
  | revised bound revision =>
      exact ⟨separate.revised suits bound revision, fun _ member => nomatch member⟩
  | noted announced window =>
      exact ⟨separate.of_same _ rfl announced rfl rfl, fun _ member => nomatch member⟩
  | evaluated => exact separate.evaluate
  | @adopted _ _ bindings bound =>
      exact ⟨separate_of_shows rfl (separate.regular bindings bound) rfl rfl separate.named
        (separate.owned bindings bound),
        Effect.attributed_published (separate.attributed bound)⟩
  | renamed unpicked =>
      have unlisted := separate.unlisted unpicked
      refine ⟨⟨separate.regular, separate.announced, fun _ => effective_ne_empty,
        fun _ => unlisted, ?_⟩, Effect.attributed_published (.of_unlisted unlisted)⟩
      intro bindings bound picker found
      rw [unpicked bindings bound] at found
      cases found
  | succeeded bound change => exact separate.succeeded bound change
  | @switched now entity _ opened bindings opening bind =>
      have regular : bindings.Regular := bind ▸ Bindings.regular_bind _ _ _
      have unpicked : bindings.get? .userList = none := bind ▸ Bindings.get?_userList_bind _ _ _
      have named : ∀ name ∈ opened.userName, name ≠ "" := by
        rw [opening]
        exact separate.named
      exact ⟨separate_of_unpicked rfl regular unpicked rfl rfl named,
        Effect.attributed_published (.of_unlisted (regular.unlisted unpicked))⟩

theorem Separate.respond {returned : Returns} {session : Session}
    (separate : session.Separate returned) {input : Input}
    (suits : session.Suits returned input) :
    (session.respond input).result.Separate returned ∧
      ∀ effect ∈ (session.respond input).trace, effect.Attributed returned := by
  obtain ⟨⟨after, _⟩, contexts⟩ := (takes_respond session input).kept
    (fun after => after.Separate returned ∧ after.Suits returned input)
    (fun effect => effect.Attributed returned)
    (fun holds turn => ⟨⟨(holds.1.turn holds.2 turn).1, holds.2.turn turn⟩,
      (holds.1.turn holds.2 turn).2⟩) ⟨separate, suits⟩
  exact ⟨after, contexts⟩

end Session

namespace Occurrence

/-- Whether lists came in answer to a request for a user and an entity type. -/
def Returned (history : List Occurrence) : Returns := fun name entity lists =>
  ∃ message ticket forced reply, .answered message ∈ history ∧
    message.request = ⟨ticket, .userLists name entity forced⟩ ∧
    message.completion = .userLists ticket (.ok reply) ∧ reply.lists = lists

theorem Returned.append {history : List Occurrence} {name : String} {entity : EntityType}
    {lists : List UserList} (returned : Returned history name entity lists)
    (more : List Occurrence) : Returned (history ++ more) name entity lists := by
  obtain ⟨message, ticket, forced, reply, answered, rest⟩ := returned
  exact ⟨message, ticket, forced, reply, List.mem_append_left _ answered, rest⟩

/-- Whether all that was published on the way is attributed. -/
def Discreet (history : List Occurrence) : Prop :=
  ∀ occurrence ∈ history, ∀ effect ∈ occurrence.effects, effect.Attributed (Returned history)

theorem Discreet.append {history : List Occurrence} (discreet : Discreet history)
    {occurrence : Occurrence}
    (attributed : ∀ effect ∈ occurrence.effects, effect.Attributed (Returned history)) :
    Discreet (history ++ [occurrence]) := by
  intro other member effect isEffect context published
  have known : context.Attributed (Returned history) := by
    rcases List.mem_append.1 member with early | late
    · exact discreet other early effect isEffect context published
    · cases List.mem_singleton.1 late
      exact attributed effect isEffect context published
  exact known.mono fun returned => returned.append _

end Occurrence

namespace World

structure Guarded (history : List Occurrence) (world : World) : Prop where
  separate : world.session.Separate (Occurrence.Returned history)
  discreet : Occurrence.Discreet history
  answered : ∀ message ∈ world.messages, .answered message ∈ history

theorem Orderly.suits {history : List Occurrence} {world : World}
    (orderly : world.Orderly history) {message : Message} (queued : message ∈ world.messages)
    (answered : .answered message ∈ history)
    (current : world.session.slots.isCurrent message.completion.ticket = true) :
    world.session.Suits (Occurrence.Returned history) (.completion message.completion) := by
  have asks := (orderly.asked queued current).2
  obtain ⟨⟨ticket, call⟩, completion, yields⟩ := message
  cases yields with
  | choices isCall reply => trivial
  | @userLists name entity forced isCall reply =>
      dsimp only at isCall
      subst isCall
      cases reply with
      | error error => trivial
      | ok reply =>
          cases asks with
          | userLists cls chosen user media =>
              exact ⟨name, user, entity, chosen, _, ticket, forced, reply, answered, rfl, rfl, rfl⟩
  | @suggestions source text filter isCall cls reply =>
      dsimp only at isCall cls
      subst isCall
      rintro rfl
      cases asks with
      | suggestions own chosen offered looksUp =>
          cases own.symm.trans cls
          cases looksUp

theorem Guarded.step {history : List Occurrence} {before after : World}
    {occurrence : Occurrence} (guarded : before.Guarded history) (orderly : before.Orderly history)
    (step : Step before occurrence after) : after.Guarded (history ++ [occurrence]) := by
  obtain ⟨separate, discreet, answered⟩ := guarded
  have more : ∀ {name entity lists}, Occurrence.Returned history name entity lists →
      Occurrence.Returned (history ++ [occurrence]) name entity lists :=
    fun returned => returned.append _
  cases step with
  | @respond input own world =>
      have suits : before.session.Suits (Occurrence.Returned history) input := by
        unfold Session.Suits
        split
        · cases own
        · cases own
        · trivial
      obtain ⟨responded, attributed⟩ := separate.respond suits
      exact ⟨responded.mono more, discreet.append attributed, fun message queued =>
        List.mem_append_left _ (answered message queued)⟩
  | @answer _ earlier later message sent =>
      refine ⟨separate.mono more, discreet.append (fun _ member => nomatch member), ?_⟩
      intro other queued
      rcases List.mem_append.1 queued with early | new
      · exact List.mem_append_left _ (answered other early)
      · cases List.mem_singleton.1 new
        exact List.mem_append_right _ List.mem_cons_self
  | abandon sent cancelled =>
      exact ⟨separate.mono more, discreet.append (fun _ member => nomatch member),
        fun message queued => List.mem_append_left _ (answered message queued)⟩
  | @deliver _ earlier later message queued =>
      have isQueued : message ∈ before.messages := by
        rw [queued]
        exact List.mem_append_right _ List.mem_cons_self
      have completed : (before.session.complete message.completion).result.Separate
            (Occurrence.Returned history) ∧
          ∀ effect ∈ (before.session.complete message.completion).trace,
            effect.Attributed (Occurrence.Returned history) := by
        by_cases current : before.session.slots.isCurrent message.completion.ticket = true
        · have suits := orderly.suits isQueued (answered message isQueued) current
          exact separate.respond suits
        · have still : before.session.complete message.completion = .still before.session :=
            if_neg current
          rw [still]
          exact ⟨separate, fun _ member => nomatch member⟩
      refine ⟨completed.1.mono more, discreet.append completed.2, ?_⟩
      intro other member
      refine List.mem_append_left _ (answered other ?_)
      rw [queued]
      rcases List.mem_append.1 member with early | late
      · exact List.mem_append_left _ early
      · exact List.mem_append_right _ (List.mem_cons_of_mem _ late)

theorem Reaches.guarded {config : SessionConfig} {store : FaultyStore}
    {history : List Occurrence} {world : World} (reached : Reaches config store history world) :
    world.Guarded history := by
  induction reached with
  | start =>
      exact ⟨Session.separate_start _ config store, (fun _ member => nomatch member),
        fun _ member => nomatch member⟩
  | step reached step induction => exact induction.step reached.orderly step

/-- At any moment a bound picker offers lists that were returned for the present user and entity
type, and selects among them; and a context that was published with a clause of the user lists
names the user and the entity type for whom all lists in the clause were returned. -/
theorem lists_never_mixed (config : SessionConfig) (store : FaultyStore)
    {history : List Occurrence} {world : World} (reached : Reaches config store history world) :
    (∀ bindings ∈ world.session.bindings, ∀ picker ∈ bindings.get? .userList,
      bindings.entity.isMedia = true ∧ ∃ name lists selection,
        world.session.userName = some name ∧ name ≠ "" ∧
        Occurrence.Returned history name bindings.entity lists ∧
        picker.whitelist = lists.map UserList.toWhitelistEntry ∧
        picker.value = .userList selection ∧
        ∀ value ∈ selection.values, MediaFilter.lists picker.whitelist value = true) ∧
    ∀ occurrence ∈ history, ∀ effect ∈ occurrence.effects, ∀ context ∈ effect.publication?,
      context.Attributed (Occurrence.Returned history) := by
  obtain ⟨separate, discreet, _⟩ := reached.guarded
  refine ⟨?_, discreet⟩
  intro bindings bound picker found
  have regular := separate.regular bindings bound
  obtain ⟨restrained, name, user, lists, returned, whitelist⟩ :=
    separate.owned bindings bound picker found
  have kind := (regular.fits_of_get? found).kind
  refine ⟨regular.isMedia_of_picker found, ?_⟩
  cases value : picker.value with
  | userList selection =>
      exact ⟨name, lists, selection, user, separate.named name user, returned, whitelist, rfl,
        restrained selection (by rw [value]; rfl)⟩
  | _ =>
      rw [value] at kind
      cases kind

def listsOfAnn : Message where
  request := ⟨⟨.userLists, 1, 1⟩, .userLists "ann" .anime false⟩
  completion := .userLists ⟨.userLists, 1, 1⟩ (.ok ⟨[⟨"7", "Completed", none, 3⟩], [], []⟩)
  yields := .userLists rfl _

def choicesOfAnime : Request := ⟨⟨.filterValues, 1, 0⟩, .choices .anime⟩

def animeChosen : Session :=
  ((Session.start (.initial []) (.sound .empty)).respond
    (.command 0 (.switchEntity .anime))).result

def annNamed : Session := (animeChosen.respond (.command 1 (.setUserName (some "ann")))).result

def annServed : World :=
  ⟨(annNamed.complete listsOfAnn.completion).result, [choicesOfAnime], []⟩

def serviceOfAnn : List Occurrence :=
  [.responded (.start (.initial []) (.sound .empty)) (.command 0 (.switchEntity .anime)),
    .responded animeChosen (.command 1 (.setUserName (some "ann"))), .answered listsOfAnn,
    .delivered annNamed listsOfAnn]

theorem lists_never_mixed_of_ann :
    Reaches (.initial []) (.sound .empty) serviceOfAnn annServed ∧
      annServed.session.context.entity = some .anime ∧
      annServed.session.context.userName = "ann" ∧
      annServed.session.bindings.any
        (fun bindings => (bindings.get? FilterName.userList).isSome) = true ∧
      ∀ bindings ∈ annServed.session.bindings, ∀ picker ∈ bindings.get? .userList,
        ∃ name lists, annServed.session.userName = some name ∧
          Occurrence.Returned serviceOfAnn name bindings.entity lists ∧
          picker.whitelist = lists.map UserList.toWhitelistEntry := by
  have asked : Reaches (.initial []) (.sound .empty)
      [.responded (.start (.initial []) (.sound .empty)) (.command 0 (.switchEntity .anime)),
        .responded animeChosen (.command 1 (.setUserName (some "ann")))]
      ⟨annNamed, [choicesOfAnime] ++ listsOfAnn.request :: [], []⟩ :=
    .step (.step .start (.respond rfl _)) (.respond rfl _)
  have answered := asked.step (.answer listsOfAnn rfl)
  have reached : Reaches (.initial []) (.sound .empty) serviceOfAnn annServed :=
    answered.step (@Step.deliver _ [] [] listsOfAnn rfl)
  refine ⟨reached, by decide +kernel, by decide +kernel, by decide +kernel, ?_⟩
  intro bindings bound picker found
  obtain ⟨_, name, lists, _, user, _, returned, whitelist, _⟩ :=
    (lists_never_mixed _ _ reached).1 bindings bound picker found
  exact ⟨name, lists, user, returned, whitelist⟩

end World

end MediaFilter
