import MediaFilter.Proofs.Expression.RoundTrip
import MediaFilter.Proofs.Session.Evaluation

/-!
The widgets, the text announced last, the published context and the deadline of a session tell of
one expression.  While an edit waits for its deadline the widgets are ahead of the rest; at any
other time between two inputs all agree.
-/

namespace MediaFilter.Session

/-- The notifier knows what is published, and whether the widgets stand for it. -/
structure Faithful (session : Session) : Prop where
  announced : session.notifier.announced = some session.context.expression.print
  state : session.notifier.state = .idle ∨ session.notifier.state = .debouncing
  armed : session.notifier.state = .debouncing ↔ session.notifier.deadline.isSome = true
  expression : session.notifier.state = .idle → session.context.expression = session.expression

structure Coherent (entity : EntityType) (session : Session) : Prop extends Faithful session where
  entity : session.context.entity = some entity
  userName : session.context.userName = session.userName.getD ""

/-- What holds between two inputs. -/
structure Consistent (session : Session) : Prop where
  sound : session.Sound
  coherent : ∀ entity ∈ session.entity?, session.Coherent entity

theorem consistent_start (config : SessionConfig) (store : FaultyStore) :
    (start config store).Consistent := by
  constructor
  · rintro _ ⟨⟩
  · rintro _ ⟨⟩

theorem Faithful.idle_iff {session : Session} (faithful : session.Faithful) :
    session.notifier.state = .idle ↔ session.notifier.deadline = none := by
  rw [← Option.not_isSome_iff_eq_none, ← faithful.armed]
  constructor
  · intro idle debouncing
    rw [idle] at debouncing
    cases debouncing
  · exact faithful.state.resolve_right

theorem faithful_evaluate {session : Session} {entity : EntityType}
    (bound : session.entity? = some entity)
    (announced : session.notifier.announced = some session.context.expression.print) :
    session.evaluate.result.Faithful := by
  have outcome := evaluates session
  generalize session.evaluate = acted at outcome
  cases outcome with
  | unbound nothing =>
      rw [entity?, nothing] at bound
      cases bound
  | @unchanged bindings bound same =>
      have expression : session.context.expression = bindings.build := by
        rw [announced] at same
        exact Expression.print_inj.1 (Option.some.inj same)
      refine ⟨?_, .inl rfl, by simp, ?_⟩
      · exact congrArg (fun expression : Expression => some expression.print) expression.symm
      · intro _
        rw [Session.expression, bound]
        exact expression
  | changed bound different =>
      refine ⟨rfl, .inl rfl, by simp, ?_⟩
      intro _
      rw [Session.expression, bound]
      rfl

theorem Faithful.of_steady {before after : Session} (faithful : before.Faithful)
    (steady : before.Steady after) : after.Faithful := by
  constructor
  · rw [steady.notifier, steady.context]
    exact faithful.announced
  · rw [steady.notifier]
    exact faithful.state
  · rw [steady.notifier]
    exact faithful.armed
  · rw [steady.notifier, steady.context, steady.expression]
    exact faithful.expression

theorem coherent_quiet {before after : Session} {entity : EntityType}
    (coherent : before.Coherent entity) (alike : before.Alike after) : after.Coherent entity := by
  refine ⟨coherent.toFaithful.of_steady alike.toSteady, ?_, ?_⟩
  · rw [alike.context]
    exact coherent.entity
  · rw [alike.context, alike.userName]
    exact coherent.userName

theorem coherent_waiting {before after : Session} {entity : EntityType}
    (coherent : before.Coherent entity) (unannounced : before.Unannounced after)
    (userName : after.userName = before.userName)
    (debouncing : after.notifier.state = .debouncing) (armed : after.notifier.isPending = true) :
    after.Coherent entity := by
  refine ⟨⟨?_, .inr debouncing, ⟨fun _ => armed, fun _ => debouncing⟩, ?_⟩, ?_, ?_⟩
  · rw [unannounced.announced, unannounced.context]
    exact coherent.announced
  · intro idle
    rw [debouncing] at idle
    cases idle
  · rw [unannounced.context]
    exact coherent.entity
  · rw [unannounced.context, userName]
    exact coherent.userName

theorem coherent_lapse {before : Session} {entity : EntityType}
    (coherent : before.Coherent entity) (calm : before.notifier.state ≠ .debouncing) :
    { before with notifier := { before.notifier with
        debouncer := before.notifier.debouncer.cancel } }.Coherent entity := by
  refine ⟨⟨coherent.announced, coherent.state, ?_, coherent.expression⟩, coherent.entity,
    coherent.userName⟩
  constructor
  · intro debouncing
    exact absurd debouncing calm
  · intro armed
    cases armed

theorem coherent_evaluation {before changed : Session} {entity : EntityType}
    (coherent : before.Coherent entity) (bound : changed.entity? = some entity)
    (unannounced : before.Unannounced changed) (userName : changed.userName = before.userName) :
    changed.evaluate.result.Coherent entity := by
  have announced : changed.notifier.announced = some changed.context.expression.print := by
    rw [unannounced.announced, unannounced.context]
    exact coherent.announced
  refine ⟨faithful_evaluate bound announced, ?_, ?_⟩
  · rcases context_evaluate changed with same | ⟨expression, published⟩
    · rw [same, unannounced.context]
      exact coherent.entity
    · rw [published]
      exact bound
  · rw [userName_evaluate, userName]
    rcases context_evaluate changed with same | ⟨expression, published⟩
    · rw [same, unannounced.context]
      exact coherent.userName
    · rw [published, userName]

/-- To publish once more is enough for another user. -/
theorem coherent_republish {session : Session} {entity : EntityType} (faithful : session.Faithful)
    (bound : session.entity? = some entity) : session.republish.result.Coherent entity :=
  ⟨⟨faithful.announced, faithful.state, faithful.armed, faithful.expression⟩, bound, rfl⟩

theorem coherent_adopt (session : Session) (bindings : Bindings) :
    (session.adopt bindings).result.Coherent bindings.entity :=
  ⟨⟨rfl, .inl rfl, by simp [adopt, publish], fun _ => rfl⟩, rfl, rfl⟩

theorem Consistent.move {before after : Session} {effects : List Effect}
    (consistent : before.Consistent) (move : Move before effects after) : after.Consistent := by
  obtain ⟨sound, coherent⟩ := consistent
  cases move with
  | quiet alike silent =>
      refine ⟨alike.sound sound, fun entity bound => ?_⟩
      rw [alike.entity] at bound
      exact coherent_quiet (coherent entity bound) alike
  | typed unannounced userName debouncing armed =>
      refine ⟨unannounced.sound sound, fun entity bound => ?_⟩
      rw [unannounced.entity] at bound
      exact coherent_waiting (coherent entity bound) unannounced userName debouncing armed
  | pending unannounced userName notifier armed =>
      refine ⟨unannounced.sound sound, fun entity bound => ?_⟩
      rw [unannounced.entity] at bound
      have old := coherent entity bound
      have debouncing := old.armed.2 armed
      rw [← notifier] at debouncing armed
      exact coherent_waiting old unannounced userName debouncing armed
  | lapse calm =>
      exact ⟨sound, fun entity bound => coherent_lapse (coherent entity bound) calm⟩
  | evaluation unannounced userName =>
      rename_i changed
      refine ⟨?_, fun entity bound => ?_⟩
      · rw [Sound, bindings_evaluate]
        exact unannounced.sound sound
      · rw [entity?_evaluate] at bound
        have old := coherent entity (unannounced.entity ▸ bound)
        exact coherent_evaluation old bound unannounced userName
  | rename steady =>
      refine ⟨steady.sound sound, fun entity isBound => coherent_republish ?_ isBound⟩
      have old := coherent entity (steady.entity ▸ isBound)
      exact old.toFaithful.of_steady steady
  | succession unannounced =>
      rename_i changed
      refine ⟨?_, fun entity isBound => coherent_republish ?_ isBound⟩
      · have kept : changed.evaluate.result.Sound := by
          rw [Sound, bindings_evaluate]
          exact unannounced.sound sound
        exact kept
      · have bound : changed.entity? = some entity := (entity?_evaluate changed).symm.trans isBound
        have old := coherent entity (unannounced.entity ▸ bound)
        refine faithful_evaluate bound ?_
        rw [unannounced.announced, unannounced.context]
        exact old.announced
  | adoption bindings kept =>
      constructor
      · rintro _ ⟨⟩
        exact kept
      · rintro _ ⟨⟩
        exact coherent_adopt before bindings
  | departure =>
      constructor
      · rintro _ ⟨⟩
      · rintro _ ⟨⟩

theorem Consistent.moves {before after : Session} {effects : List Effect}
    (consistent : before.Consistent) (moves : Moves before effects after) : after.Consistent := by
  induction moves with
  | refl session => exact consistent
  | step move _ induction => exact induction (consistent.move move)

theorem proceeds_run {session : Session} (consistent : session.Consistent) (inputs : List Input) :
    session.Proceeds (run inputs session) := by
  induction inputs generalizing session with
  | nil => exact proceeds_still (.refl session)
  | cons input inputs induction =>
      have first := proceeds_respond consistent.sound input
      exact first.andThen (induction (consistent.moves first))

theorem consistent_run {session : Session} (consistent : session.Consistent)
    (inputs : List Input) : (run inputs session).result.Consistent :=
  consistent.moves (proceeds_run consistent inputs)

/-- Between any two inputs of a session in which an entity type is chosen, everything that tells of
the expression tells of the same one, except while an edit waits for its deadline. -/
theorem coherent_run (config : SessionConfig) (store : FaultyStore) (inputs : List Input)
    {entity : EntityType} (bound : (run inputs (start config store)).result.entity? = some entity) :
    (run inputs (start config store)).result.Coherent entity :=
  (consistent_run (consistent_start config store) inputs).coherent entity bound

theorem coherent_run_of_typed :
    let session := (run [.command 0 (.switchEntity .anime),
      .command 5 (.edit .titleLike (.write "Mushishi"))]
        (start (.initial []) (.sound .empty))).result
    session.entity? = some .anime ∧ session.notifier.state = .debouncing ∧
      session.Coherent .anime :=
  ⟨rfl, rfl, coherent_run (.initial []) (.sound .empty) _ rfl⟩

end MediaFilter.Session
