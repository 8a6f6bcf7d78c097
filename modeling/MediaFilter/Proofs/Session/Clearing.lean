import MediaFilter.Proofs.Bindings.Clearing
import MediaFilter.Proofs.Session.Coalescing
import MediaFilter.Proofs.Session.Reloading

/-!
Clearing the filters of a session.  What the cleared widgets stand for is announced at once, unless
it was announced last, whatever edit was waiting for its deadline; requests go on, and clearing
once more does nothing.
-/

namespace MediaFilter.Session

/-- What clearing the filters does to a session with widgets bound. -/
structure Clears (before : Session) (bindings cleared : Bindings)
    (acted : Acted (Session × Except Error Answer)) : Prop where
  answer : acted.result.2 = .ok .done
  frame : acted.result.1 =
    { before with
      bindings := some cleared
      notifier := acted.result.1.notifier
      context := ⟨some bindings.entity, before.userName.getD "", cleared.build⟩
      store := acted.result.1.store }
  remembered : cleared = bindings.withWidgets cleared.widgets
  widgets : List.Forall₂ Widget.Cleared bindings.widgets cleared.widgets
  remaining : ∀ key clause,
    cleared.build.get? key = some clause ↔ bindings.Remaining key clause
  unasked : ∀ effect ∈ acted.trace, effect.request? = none
  idle : acted.result.1.notifier.state = .idle
  disarmed : acted.result.1.notifier.deadline = none
  changes : acted.trace.filterMap Effect.change? =
    if cleared.build = before.context.expression then [] else [(bindings.entity, cleared.build)]
  attempts : acted.trace.filterMap Effect.attempt? =
    if cleared.build = before.context.expression then []
    else [(bindings.entity, cleared.build.print, before.store.saveFault.isNone)]

def withCleared (session : Session) (bindings : Bindings) : Session :=
  { session with bindings := some bindings.clear.result.1 }

theorem clearFilters_eq {session : Session} {bindings : Bindings}
    (bound : session.bindings = some bindings) :
    session.clearFilters =
      ⟨((session.withCleared bindings).evaluate.result, .ok .done),
        bindings.clear.trace.map .drew ++ (session.withCleared bindings).evaluate.trace⟩ := by
  rw [clearFilters, bound]
  rfl

theorem filterMap_drew {α : Type} {observe : Effect → Option α}
    (unseen : ∀ call, observe (.drew call) = none) (calls : List ViewCall)
    (effects : List Effect) :
    (calls.map Effect.drew ++ effects).filterMap observe = effects.filterMap observe := by
  have nothing : (calls.map Effect.drew).filterMap observe = [] := by
    refine List.filterMap_eq_nil_iff.2 fun effect member => ?_
    obtain ⟨call, _, rfl⟩ := List.mem_map.1 member
    exact unseen call
  rw [List.filterMap_append, nothing, List.nil_append]

section

variable {session : Session} {bindings : Bindings} (bound : session.bindings = some bindings)

include bound

theorem clears_clearFilters (regular : session.Regular) (consistent : session.Consistent) :
    session.Clears bindings bindings.clear.result.1 session.clearFilters := by
  have own : bindings.Regular := regular bindings bound
  have entity : session.entity? = some bindings.entity := by rw [entity?, bound]; rfl
  have coherent := consistent.coherent _ entity
  have same_iff : session.notifier.announced = some bindings.clear.result.1.build.print ↔
      bindings.clear.result.1.build = session.context.expression := by
    rw [coherent.announced, Option.some_inj, Expression.print_inj, eq_comm]
  have asked : (bindings.clear.trace.map Effect.drew ++
      (session.withCleared bindings).evaluate.trace).filterMap Effect.request? = [] :=
    (filterMap_drew (fun _ => rfl) _ _).trans (List.filterMap_eq_nil_iff.2 (idle_evaluate _).2)
  have unasked := List.filterMap_eq_nil_iff.1 asked
  have outcome := evaluates (session.withCleared bindings)
  rw [clearFilters_eq bound]
  generalize (session.withCleared bindings).evaluate = acted at outcome unasked
  cases outcome with
  | unbound nothing => cases nothing
  | @unchanged cleared isBound announced =>
      cases isBound
      have same := same_iff.1 announced
      have published : session.context =
          ⟨some bindings.entity, session.userName.getD "", bindings.clear.result.1.build⟩ := by
        rw [same, ← coherent.entity, ← coherent.userName]
      refine ⟨rfl, ?_, rfl, Bindings.cleared_clear own, fun _ _ => Bindings.get?_build_clear own,
        unasked, rfl, rfl, ?_, ?_⟩
      · rw [← published]
        rfl
      · rw [filterMap_drew fun _ => rfl, if_pos same]
        rfl
      · rw [filterMap_drew fun _ => rfl, if_pos same]
        rfl
  | @changed cleared isBound different =>
      cases isBound
      have new := fun same => different (same_iff.2 same)
      refine ⟨rfl, rfl, rfl, Bindings.cleared_clear own, fun _ _ => Bindings.get?_build_clear own,
        unasked, rfl, rfl, ?_, ?_⟩
      · rw [filterMap_drew fun _ => rfl, if_neg new, filterMap_change?_announcement]
        rfl
      · rw [filterMap_drew fun _ => rfl, if_neg new, filterMap_attempt?_announcement]
        rfl

theorem clearFilters_of_cleared (cleared : bindings.clear = .still (bindings, 0))
    (announced : session.notifier = session.notifier.adopt bindings.build) :
    session.clearFilters = .still (session, .ok .done) := by
  have same : session.withCleared bindings = session := by
    rw [withCleared, cleared, Traced.result_still, ← bound]
  have still : session.evaluate = .still session := by
    have outcome := evaluates session
    generalize session.evaluate = acted at outcome
    cases outcome with
    | unbound nothing => rfl
    | unchanged isBound =>
        cases bound.symm.trans isBound
        rw [← announced]
    | changed isBound different =>
        cases bound.symm.trans isBound
        rw [announced] at different
        exact absurd rfl different
  rw [clearFilters_eq bound, same, still, cleared]
  rfl

end

/-- Clearing the filters leaves every widget but the picker of user lists neutral, ranges over what
they now offer, and nothing else changed.  No edit is left waiting for its deadline, what the
widgets stand for is announced once unless it was published already, requests go on, and clearing
once more does nothing at all. -/
theorem clearing_filters (config : SessionConfig) (store : FaultyStore) (inputs : List Input)
    {before : Session} (reached : (run inputs (start config store)).result = before)
    {bindings : Bindings} (bound : before.bindings = some bindings) (now later : Nat) :
    let acted := before.handle now .clearFilters
    let after := acted.result.1
    (∃ cleared, before.Clears bindings cleared acted) ∧
      after.handle later .clearFilters = .still (after, .ok .done) := by
  intro acted after
  have regular : before.Regular := by
    subst reached
    exact regular_run inputs (regular_start config store)
  have consistent : before.Consistent := by
    subst reached
    exact consistent_run (consistent_start config store) inputs
  refine ⟨⟨_, clears_clearFilters bound regular consistent⟩, ?_⟩
  have evaluated : after = (before.withCleared bindings).evaluate.result :=
    congrArg (fun acted => acted.result.1) (clearFilters_eq bound)
  have isCleared : after.bindings = some bindings.clear.result.1 := by
    rw [evaluated, bindings_evaluate]
    rfl
  have notifier : after.notifier = before.notifier.adopt bindings.clear.result.1.build := by
    rw [evaluated]
    exact notifier_evaluate rfl
  refine clearFilters_of_cleared isCleared (Bindings.clear_clear bindings) ?_
  rw [notifier]
  rfl

def halfTyped : Session :=
  (run [.command 0 (.switchEntity .staff), .command 5 (.edit .gender (.add "Female")),
    .command 9 (.edit .nameLike (.write "Uro"))] (start (.initial []) (.sound .empty))).result

theorem clearing_filters_of_halfTyped :
    ∃ bindings, halfTyped.bindings = some bindings ∧ halfTyped.notifier.state = .debouncing ∧
      (∃ cleared, halfTyped.Clears bindings cleared (halfTyped.handle 10 .clearFilters)) ∧
      (halfTyped.handle 10 .clearFilters).result.1.handle 11 .clearFilters =
        .still ((halfTyped.handle 10 .clearFilters).result.1, .ok .done) ∧
      (halfTyped.handle 10 .clearFilters).trace.filterMap Effect.change? = [(.staff, .empty)] := by
  obtain ⟨isBound, typing, changes⟩ : halfTyped.bindings.isSome = true ∧
      halfTyped.notifier.state = .debouncing ∧
      (halfTyped.handle 10 .clearFilters).trace.filterMap Effect.change? =
        [(.staff, .empty)] := by
    decide +kernel
  obtain ⟨bindings, bound⟩ := Option.isSome_iff_exists.1 isBound
  obtain ⟨clears, again⟩ := clearing_filters (.initial []) (.sound .empty) _ rfl bound 10 11
  exact ⟨bindings, bound, typing, clears, again, changes⟩

end MediaFilter.Session
