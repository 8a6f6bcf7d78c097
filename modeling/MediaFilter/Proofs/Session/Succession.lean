import MediaFilter.Proofs.Bindings.Rebinding
import MediaFilter.Proofs.Session.Regularity

/-!
What was announced and stored last for an entity type comes back when the entity type is chosen
again, in the same session or in a later one over the same store.  Only the user lists have to wait
for the lists of the user.
-/

namespace MediaFilter

namespace Effect

def restoration? : Effect → Option (EntityType × Expression)
  | .emitted (.filtersRestored entity expression) => some (entity, expression)
  | _ => none

def changesOf (entity : EntityType) (effects : List Effect) : List Expression :=
  ((effects.filterMap change?).filter fun change => change.1 = entity).map Prod.snd

def attemptsOf (entity : EntityType) (effects : List Effect) : List (String × Bool) :=
  ((effects.filterMap attempt?).filter fun attempt => attempt.1 = entity).map Prod.snd

end Effect

namespace Announcement

theorem latest?_append (entity : EntityType) (first second : List Announcement) :
    latest? entity (first ++ second) = (latest? entity second).or (latest? entity first) := by
  induction first with
  | nil => exact Option.or_none.symm
  | cons announcement first induction =>
      rw [List.cons_append, latest?_cons, induction, latest?_cons, Option.or_assoc]

theorem latest?_of_last {entity : EntityType} {announcements : List Announcement}
    {last : Announcement} (accepted : last.accepted = true)
    (isLast : (announcements.filter fun announcement =>
      announcement.entity = entity).getLast? = some last) :
    latest? entity announcements = some last.expression := by
  obtain ⟨earlier, whole⟩ := List.getLast?_eq_some_iff.1 isLast
  have both : (announcements.filter fun announcement =>
      announcement.entity = entity && announcement.accepted) =
        (announcements.filter fun announcement => announcement.entity = entity).filter
          fun announcement => announcement.accepted := by
    rw [List.filter_filter]
    exact List.filter_congr fun _ _ => Bool.and_comm _ _
  rw [latest?, both, whole, List.filter_append, List.filter_cons_of_pos accepted]
  simp

end Announcement

namespace Session

/-- A session and the ones before it over one store, with all their effects.  In between the store
may come to hold other texts, but not for the entity type. -/
inductive Successive (entity : EntityType) : List Effect → Session → Prop
  | start (config : SessionConfig) (store : FaultyStore) :
      Successive entity [] (.start config store)
  | respond {effects : List Effect} {session : Session} (input : Input)
      (successive : Successive entity effects session) :
      Successive entity (effects ++ (session.respond input).trace) (session.respond input).result
  | restart {effects : List Effect} {session : Session} (config : SessionConfig)
      (successive : Successive entity effects session) :
      Successive entity effects (.start config session.store)
  | stored {effects : List Effect} {session : Session} (store : FaultyStore)
      (kept : store.memory.load entity.storageKey = session.store.memory.load entity.storageKey)
      (successive : Successive entity effects session) :
      Successive entity effects { session with store }

theorem Successive.run {entity : EntityType} {effects : List Effect} {session : Session}
    (successive : Successive entity effects session) (inputs : List Input) :
    Successive entity (effects ++ (run inputs session).trace) (run inputs session).result := by
  induction inputs generalizing effects session with
  | nil =>
      rw [Session.run, Traced.trace_still, List.append_nil]
      exact successive
  | cons input inputs induction =>
      rw [Session.run, Traced.trace_andThen, ← List.append_assoc]
      exact induction (successive.respond input)

theorem successive_run (entity : EntityType) (config : SessionConfig) (store : FaultyStore)
    (inputs : List Input) :
    Successive entity (run inputs (start config store)).trace
      (run inputs (start config store)).result :=
  (Successive.start config store).run inputs

/-- What the effects so far tell of the text that is stored for an entity type. -/
structure Documented (entity : EntityType) (effects : List Effect) (session : Session) : Prop where
  consistent : session.Consistent
  regular : session.Regular
  settled : ∀ effect ∈ effects, ∀ change ∈ effect.change?, Settled change.1 change.2
  stored : ∃ (announcements : List Announcement) (initial : Option String),
    effects.filterMap Effect.change? = announcements.map Announcement.change ∧
    effects.filterMap Effect.attempt? = announcements.map Announcement.attempt ∧
    session.store.memory.load entity.storageKey =
      ((Announcement.latest? entity announcements).map Expression.print).or initial

theorem documented_start (entity : EntityType) (config : SessionConfig) (store : FaultyStore) :
    Documented entity [] (start config store) where
  consistent := consistent_start config store
  regular := regular_start config store
  settled := fun _ member => nomatch member
  stored := ⟨[], store.memory.load entity.storageKey, rfl, rfl, rfl⟩

theorem Documented.respond {entity : EntityType} {effects : List Effect} {session : Session}
    (documented : Documented entity effects session) (input : Input) :
    Documented entity (effects ++ (session.respond input).trace)
      (session.respond input).result := by
  obtain ⟨consistent, regular, settled, announcements, initial, changes, attempts, held⟩ :=
    documented
  have moves := proceeds_respond consistent.sound input
  obtain ⟨others, _, moreChanges, moreAttempts, _, loads⟩ := moves.balanced consistent
  obtain ⟨stillRegular, moreSettled⟩ := regular.respond input
  refine ⟨consistent.moves moves, stillRegular, ?_, announcements ++ others, initial, ?_, ?_, ?_⟩
  · intro effect member
    rcases List.mem_append.1 member with early | late
    · exact settled effect early
    · exact moreSettled effect late
  · rw [List.filterMap_append, changes, moreChanges, List.map_append]
  · rw [List.filterMap_append, attempts, moreAttempts, List.map_append]
  · rw [loads, held, Announcement.latest?_append]
    cases Announcement.latest? entity others <;> rfl

theorem Successive.documented {entity : EntityType} {effects : List Effect} {session : Session}
    (successive : Successive entity effects session) : Documented entity effects session := by
  induction successive with
  | start config store => exact documented_start entity config store
  | respond input _ induction => exact induction.respond input
  | restart config _ induction =>
      exact ⟨consistent_start config _, regular_start config _, induction.settled,
        induction.stored⟩
  | stored store kept _ induction =>
      obtain ⟨announcements, initial, changes, attempts, held⟩ := induction.stored
      refine ⟨⟨induction.consistent.sound, ?_⟩, induction.regular, induction.settled,
        announcements, initial, changes, attempts, kept.trans held⟩
      intro other bound
      obtain ⟨⟨announced, state, armed, expression⟩, chosen, userName⟩ :=
        induction.consistent.coherent other bound
      exact ⟨⟨announced, state, armed, expression⟩, chosen, userName⟩

section

variable {entity : EntityType} {effects : List Effect} {session : Session}
  (documented : Documented entity effects session) {expression : Expression}
  (changed : (Effect.changesOf entity effects).getLast? = some expression)

include documented changed

theorem Documented.last_settled : Settled entity expression := by
  have member := List.mem_of_getLast? changed
  obtain ⟨change, isChange, rfl⟩ := List.mem_map.1 member
  obtain ⟨announced, ofEntity⟩ := List.mem_filter.1 isChange
  obtain ⟨effect, isEffect, tells⟩ := List.mem_filterMap.1 announced
  have settled := documented.settled effect isEffect change tells
  rw [of_decide_eq_true ofEntity] at settled
  exact settled

theorem Documented.last_stored {text : String}
    (saved : (Effect.attemptsOf entity effects).getLast? = some (text, true)) :
    session.store.memory.load entity.storageKey = some expression.print := by
  obtain ⟨announcements, initial, changes, attempts, held⟩ := documented.stored
  rw [Effect.changesOf, changes, List.filter_map, List.map_map, List.getLast?_map] at changed
  rw [Effect.attemptsOf, attempts, List.filter_map, List.map_map, List.getLast?_map] at saved
  obtain ⟨last, isLast, rfl⟩ := Option.map_eq_some_iff.1 changed
  obtain ⟨same, isSame, accepted⟩ := Option.map_eq_some_iff.1 saved
  have agree : some last = some same := isLast.symm.trans isSame
  cases agree
  have latest := Announcement.latest?_of_last (congrArg Prod.snd accepted) isLast
  rw [held, latest]
  rfl

end

theorem load_of_stored {session : Session} {entity : EntityType} {expression : Expression}
    (readable : session.store.loadFault = none)
    (held : session.store.memory.load entity.storageKey = some expression.print) :
    session.load entity = .still expression := by
  unfold load FaultyStore.load
  rw [readable]
  dsimp only
  rw [held]
  dsimp only
  rw [Expression.read?_print]
  rfl

theorem filterMap_fetchUserLists {α : Type} (tell : Effect → Option α)
    (silent : ∀ ticket call, tell (.requested ticket call) = none) (session : Session) :
    session.fetchUserLists.trace.filterMap tell = [] := by
  unfold fetchUserLists
  split
  · split
    · exact List.filterMap_cons_none (silent _ _)
    · rfl
  · rfl

theorem filterMap_switchEntity {α : Type} (tell : Effect → Option α)
    (drew : ∀ call, tell (.drew call) = none)
    (requested : ∀ ticket call, tell (.requested ticket call) = none)
    (alerted : ∀ severity message hint, tell (.emitted (.alert severity message hint)) = none)
    (session : Session) (entity : EntityType) :
    (session.switchEntity entity).trace.filterMap tell =
      [Effect.published ⟨some entity, session.userName.getD "",
          (Bindings.bind entity (session.load entity).result
            session.grouping).result.subscribeAll.build⟩,
        .emitted (.filtersRestored entity (Bindings.bind entity (session.load entity).result
          session.grouping).result.subscribeAll.build)].filterMap tell := by
  have drawn : ∀ calls : List ViewCall, (calls.map Effect.drew).filterMap tell = [] := by
    intro calls
    rw [List.filterMap_map, List.filterMap_eq_nil_iff]
    exact fun call _ => drew call
  have left : session.leave.trace.filterMap tell = [] := drawn _
  have loaded : (session.load entity).trace.filterMap tell = [] := by
    unfold load
    split
    · rfl
    · rfl
    · exact List.filterMap_cons_none (alerted _ _ _)
  rw [switchEntity_eq]
  simp only [Traced.trace_andThen, List.filterMap_append, left, loaded, drawn, List.nil_append]
  rw [filterMap_fetchUserLists tell requested, List.append_nil]
  have asked : ∀ session : Session, (fetchChoices entity session).trace.filterMap tell = [] :=
    fun _ => List.filterMap_cons_none (requested _ _)
  rw [asked, List.append_nil]
  rfl

/-- If the last change announced for an entity type was stored, and the store can be read, then
the entity type is restored to it, whenever and in whatever later session it is chosen. -/
theorem settled_comes_back {entity : EntityType} {effects : List Effect} {session : Session}
    (successive : Successive entity effects session) {expression : Expression} {text : String}
    (changed : (Effect.changesOf entity effects).getLast? = some expression)
    (saved : (Effect.attemptsOf entity effects).getLast? = some (text, true))
    (readable : session.store.loadFault = none) (now : Nat) :
    let acted := session.respond (.command now (.switchEntity entity))
    let context : QueryContext := ⟨some entity, session.userName.getD "",
      expression.erase FilterName.userList.wire⟩
    acted.trace.filterMap Effect.restoration? =
        [(entity, expression.erase FilterName.userList.wire)] ∧
      acted.trace.filterMap Effect.publication? = [context] ∧ acted.result.context = context := by
  have documented := successive.documented
  obtain ⟨bindings, regular, rfl, rfl⟩ := documented.last_settled changed
  have loaded := load_of_stored readable (documented.last_stored changed saved)
  have rebound := Bindings.build_rebind regular session.grouping
  have choice : ∀ {α : Type} (tell : Effect → Option α), (∀ call, tell (.drew call) = none) →
      (∀ ticket call, tell (.requested ticket call) = none) →
      (∀ severity message hint, tell (.emitted (.alert severity message hint)) = none) →
      (session.switchEntity bindings.entity).trace.filterMap tell =
        [Effect.published ⟨some bindings.entity, session.userName.getD "",
            bindings.build.erase FilterName.userList.wire⟩,
          .emitted (.filtersRestored bindings.entity
            (bindings.build.erase FilterName.userList.wire))].filterMap tell := by
    intro α tell drew requested alerted
    rw [filterMap_switchEntity tell drew requested alerted, loaded, Traced.result_still, rebound]
  refine ⟨?_, ?_, ?_⟩
  · exact choice Effect.restoration? (fun _ => rfl) (fun _ _ => rfl) fun _ _ _ => rfl
  · exact choice Effect.publication? (fun _ => rfl) (fun _ _ => rfl) fun _ _ _ => rfl
  · have context := context_switchEntity session bindings.entity
    rw [loaded, Traced.result_still, rebound] at context
    exact context

def genrePicked : Acted Session :=
  run [.command 0 (.switchEntity .anime), .command 1 (.setUserName (some "ann")),
    .completion (.userLists ⟨.userLists, 1, 1⟩ (.ok ⟨[⟨"1", "Completed", none, 3⟩], [], []⟩)),
    .command 2 (.edit .genre (.add "Mystery"))] (start (.initial []) (.sound .empty))

theorem settled_comes_back_of_picked :
    let later := start (.initial []) genrePicked.result.store
    let acted := later.respond (.command 3 (.switchEntity .anime))
    let expression := genrePicked.result.expression
    let context : QueryContext := ⟨some .anime, "", expression.erase FilterName.userList.wire⟩
    expression.contains FilterName.userList.wire = true ∧
      Successive .anime genrePicked.trace later ∧
      (Effect.changesOf .anime genrePicked.trace).getLast? = some expression ∧
      (Effect.attemptsOf .anime genrePicked.trace).getLast? = some (expression.print, true) ∧
      later.store.loadFault = none ∧
      acted.trace.filterMap Effect.restoration? =
        [(.anime, expression.erase FilterName.userList.wire)] ∧
      acted.trace.filterMap Effect.publication? = [context] ∧ acted.result.context = context := by
  have successive : Successive .anime genrePicked.trace
      (start (.initial []) genrePicked.result.store) :=
    .restart _ (successive_run .anime _ _ _)
  obtain ⟨listed, readable, changed, saved⟩ :
      genrePicked.result.expression.contains FilterName.userList.wire = true ∧
        (start (.initial []) genrePicked.result.store).store.loadFault = none ∧
        (Effect.changesOf .anime genrePicked.trace).getLast? =
          some genrePicked.result.expression ∧
        (Effect.attemptsOf .anime genrePicked.trace).getLast? =
          some (genrePicked.result.expression.print, true) := by decide +kernel
  exact ⟨listed, successive, changed, saved, readable,
    settled_comes_back successive changed saved readable 3⟩

/-- A store that cannot be read gives nothing back. -/
theorem settled_lost_of_unreadable :
    let effects := womenChosen.trace ++
      (womenChosen.result.respond (.fault (some "disk gone") none)).trace
    let session := (womenChosen.result.respond (.fault (some "disk gone") none)).result
    let expression := womenChosen.result.expression
    let acted := session.respond (.command 6 (.switchEntity .character))
    Successive .character effects session ∧
      (Effect.changesOf .character effects).getLast? = some expression ∧
      (Effect.attemptsOf .character effects).getLast? = some (expression.print, true) ∧
      acted.trace.filterMap Effect.restoration? ≠
        [(.character, expression.erase FilterName.userList.wire)] ∧
      acted.result.context.expression ≠ expression.erase FilterName.userList.wire := by
  have successive : Successive .character womenChosen.trace womenChosen.result :=
    successive_run .character _ _ _
  exact ⟨successive.respond _, by decide +kernel, by decide +kernel, by decide +kernel,
    by decide +kernel⟩

end Session

end MediaFilter
