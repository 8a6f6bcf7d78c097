import MediaFilter.Proofs.Session.Moves

/-!
The three outcomes of an evaluation: no entity type is chosen, the expression is the one announced
last, or it is stored, published and announced.
-/

namespace MediaFilter.Session

def saveFailure (detail : String) : Event :=
  .failure ("Failed to save filters: " ++ (Error.storage detail).message)

/-- All that is done about a new expression, given what is wrong with the store. -/
def announcement (entity : EntityType) (userName : String) (expression : Expression)
    (fault : Option String) : List Effect :=
  .stored entity expression.print fault.isNone ::
    ((fault.map saveFailure).toList.map .emitted ++
      [.published ⟨some entity, userName, expression⟩,
        .emitted (.filterChanged entity expression)])

def stored (entity : EntityType) (text : String) (store : FaultyStore) : FaultyStore :=
  match store.saveFault with
  | some _ => store
  | none => { store with memory := store.memory.save entity.storageKey text }

inductive Evaluates (session : Session) : Acted Session → Prop
  | unbound (nothing : session.bindings = none) : Evaluates session (.still session)
  | unchanged {bindings : Bindings} (bound : session.bindings = some bindings)
      (same : session.notifier.announced = some bindings.build.print) :
      Evaluates session
        (.still { session with notifier := session.notifier.adopt bindings.build })
  | changed {bindings : Bindings} (bound : session.bindings = some bindings)
      (different : session.notifier.announced ≠ some bindings.build.print) :
      Evaluates session
        ⟨{ session with
            notifier := session.notifier.adopt bindings.build
            store := stored bindings.entity bindings.build.print session.store
            context := ⟨some bindings.entity, session.userName.getD "", bindings.build⟩ },
          announcement bindings.entity (session.userName.getD "") bindings.build
            session.store.saveFault⟩

theorem save_eq (entity : EntityType) (text : String) (session : Session) :
    session.save entity text =
      ⟨{ session with store := stored entity text session.store },
        .stored entity text session.store.saveFault.isNone ::
          (session.store.saveFault.map saveFailure).toList.map .emitted⟩ := by
  unfold save FaultyStore.save stored
  cases session.store.saveFault <;> rfl

theorem evaluates (session : Session) : session.Evaluates session.evaluate := by
  unfold evaluate
  split
  · rename_i nothing
    exact .unbound nothing
  · rename_i bindings bound
    by_cases same : session.notifier.announced = some bindings.build.print
    · rw [Notifier.evaluate_of_same same]
      exact .unchanged bound same
    · have entity : session.entity? = some bindings.entity := by rw [entity?, bound]; rfl
      have changed := Evaluates.changed bound same
      rw [announcement, ← entity] at changed
      rw [Notifier.evaluate_of_different same]
      dsimp only
      rw [save_eq]
      unfold Traced.andThen
      dsimp only
      rw [List.append_assoc]
      exact changed

theorem bindings_evaluate (session : Session) :
    session.evaluate.result.bindings = session.bindings := by
  have outcome := evaluates session
  generalize session.evaluate = acted at outcome
  cases outcome <;> rfl

theorem userName_evaluate (session : Session) :
    session.evaluate.result.userName = session.userName := by
  have outcome := evaluates session
  generalize session.evaluate = acted at outcome
  cases outcome <;> rfl

theorem entity?_evaluate (session : Session) :
    session.evaluate.result.entity? = session.entity? :=
  congrArg (Option.map Bindings.entity) (bindings_evaluate session)

theorem context_evaluate (session : Session) :
    session.evaluate.result.context = session.context ∨
      ∃ expression, session.evaluate.result.context =
        ⟨session.entity?, session.userName.getD "", expression⟩ := by
  have outcome := evaluates session
  generalize session.evaluate = acted at outcome
  cases outcome with
  | unbound nothing => exact .inl rfl
  | unchanged bound same => exact .inl rfl
  | @changed bindings bound different =>
      refine .inr ⟨bindings.build, ?_⟩
      rw [entity?, bound]
      rfl

end MediaFilter.Session
