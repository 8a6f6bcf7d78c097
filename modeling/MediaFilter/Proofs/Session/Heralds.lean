import MediaFilter.Proofs.Session.Attribution

/-!
The entity type of the context changes only where an entity type is chosen, and the filters are
announced as restored right after.  So whoever listens hears of every entity type that the context
comes to.
-/

namespace MediaFilter

/-- What was done since the context had an entity type, with the one that it has now; one that is
new to it is announced at once. -/
inductive Effect.Heralded : Option EntityType → List Effect → Option EntityType → Prop
  | nil (entity : Option EntityType) : Heralded entity [] entity
  | other {first last : Option EntityType} {effect : Effect} {effects : List Effect}
      (silent : effect.publication? = none) (rest : Heralded first effects last) :
      Heralded first (effect :: effects) last
  | kept {last : Option EntityType} {context : QueryContext} {effects : List Effect}
      (rest : Heralded context.entity effects last) :
      Heralded context.entity (.published context :: effects) last
  | chosen {first last : Option EntityType} {context : QueryContext} {entity : EntityType}
      {expression : Expression} {effects : List Effect} (isChosen : context.entity = some entity)
      (rest : Heralded (some entity) effects last) :
      Heralded first
        (.published context :: .emitted (.filtersRestored entity expression) :: effects) last

namespace Effect

def contextAfter (first : QueryContext) (effects : List Effect) : QueryContext :=
  effects.foldl (fun context effect => effect.publication?.getD context) first

theorem contextAfter_append (first : QueryContext) (effects more : List Effect) :
    contextAfter first (effects ++ more) = contextAfter (contextAfter first effects) more :=
  List.foldl_append

theorem contextAfter_cons (first : QueryContext) (effect : Effect) (effects : List Effect) :
    contextAfter first (effect :: effects) =
      contextAfter (effect.publication?.getD first) effects := rfl

namespace Heralded

theorem append {first middle last : Option EntityType} {effects more : List Effect}
    (heralded : Heralded first effects middle) (others : Heralded middle more last) :
    Heralded first (effects ++ more) last := by
  induction heralded with
  | nil entity => exact others
  | other silent _ induction => exact .other silent (induction others)
  | kept _ induction => exact .kept (induction others)
  | chosen isChosen _ induction => exact .chosen isChosen (induction others)

theorem of_steady {entity : Option EntityType} {effects : List Effect}
    (steady : ∀ effect ∈ effects, ∀ context ∈ effect.publication?, context.entity = entity) :
    Heralded entity effects entity := by
  induction effects with
  | nil => exact .nil entity
  | cons effect effects induction =>
      have rest := induction fun other member => steady other (List.mem_cons_of_mem _ member)
      have first := steady effect List.mem_cons_self
      cases effect with
      | published context =>
          obtain rfl := first context rfl
          exact .kept rest
      | _ => exact .other rfl rest

theorem of_silent {entity : Option EntityType} {effects : List Effect}
    (silent : ∀ effect ∈ effects, effect.publication? = none) :
    Heralded entity effects entity :=
  of_steady fun effect member context published => by
    rw [silent effect member] at published
    cases published

theorem suffix {last : Option EntityType} {effects more : List Effect} {context : QueryContext}
    (heralded : Heralded context.entity (effects ++ more) last) :
    Heralded (contextAfter context effects).entity more last := by
  generalize whole : effects ++ more = all at heralded
  generalize now : context.entity = entity at heralded
  induction heralded generalizing effects context with
  | nil entity =>
      obtain ⟨rfl, rfl⟩ := List.append_eq_nil_iff.1 whole
      exact now ▸ .nil _
  | @other first last effect rest silent heralded induction =>
      cases effects with
      | nil =>
          cases whole
          exact now ▸ .other silent heralded
      | cons head effects =>
          cases whole
          rw [contextAfter_cons, silent, Option.getD_none]
          exact induction rfl now
  | @kept last published rest heralded induction =>
      cases effects with
      | nil =>
          cases whole
          exact now ▸ .kept heralded
      | cons head effects =>
          cases whole
          exact @induction effects published rfl rfl
  | @chosen first last published entity expression rest isChosen heralded induction =>
      rcases effects with _ | ⟨head, _ | ⟨second, effects⟩⟩
      · rw [List.nil_append] at whole
        rw [whole]
        exact .chosen isChosen heralded
      · obtain ⟨rfl, rfl⟩ := List.cons.inj whole
        exact .other rfl (isChosen ▸ heralded)
      · simp only [List.cons_append, List.cons.injEq] at whole
        obtain ⟨rfl, rfl, rfl⟩ := whole
        exact @induction effects published rfl isChosen

theorem restored {last : Option EntityType} {effects more : List Effect}
    {context : QueryContext} {entity : EntityType}
    (heralded : Heralded context.entity (effects ++ more) last)
    (elsewhere : context.entity ≠ some entity)
    (arrived : (contextAfter context effects).entity = some entity)
    (between : ∀ entity expression,
      more.head? ≠ some (.emitted (.filtersRestored entity expression))) :
    ∃ expression, .emitted (.filtersRestored entity expression) ∈ effects := by
  generalize whole : effects ++ more = all at heralded
  generalize now : context.entity = before at heralded
  induction heralded generalizing effects context with
  | nil before =>
      obtain ⟨rfl, rfl⟩ := List.append_eq_nil_iff.1 whole
      exact absurd arrived elsewhere
  | @other before last effect rest silent heralded induction =>
      cases effects with
      | nil => exact absurd arrived elsewhere
      | cons head effects =>
          obtain ⟨rfl, rest⟩ := List.cons.inj whole
          rw [contextAfter_cons, silent, Option.getD_none] at arrived
          obtain ⟨expression, member⟩ := induction elsewhere arrived rest now
          exact ⟨expression, List.mem_cons_of_mem _ member⟩
  | @kept last published rest heralded induction =>
      cases effects with
      | nil => exact absurd arrived elsewhere
      | cons head effects =>
          obtain ⟨rfl, rest⟩ := List.cons.inj whole
          rw [now] at elsewhere
          obtain ⟨expression, member⟩ := induction elsewhere arrived rest rfl
          exact ⟨expression, List.mem_cons_of_mem _ member⟩
  | @chosen before last published other expression rest isChosen heralded induction =>
      rcases effects with _ | ⟨head, _ | ⟨second, effects⟩⟩
      · exact absurd arrived elsewhere
      · obtain ⟨_, rfl⟩ := List.cons.inj whole
        exact absurd rfl (between other expression)
      · simp only [List.cons_append, List.cons.injEq] at whole
        obtain ⟨rfl, rfl, rest⟩ := whole
        by_cases same : other = entity
        · rw [← same]
          exact ⟨expression, List.mem_cons_of_mem _ List.mem_cons_self⟩
        · have elsewhere : published.entity ≠ some entity := by
            rw [isChosen]
            exact fun equal => same (Option.some.inj equal)
          obtain ⟨found, member⟩ := @induction effects published elsewhere arrived rest isChosen
          exact ⟨found, List.mem_cons_of_mem _ (List.mem_cons_of_mem _ member)⟩

end Heralded

end Effect

namespace Session

theorem Turn.publishes {input : Input} {before after : Session} {effects : List Effect}
    (turn : Turn input before effects after)
    (stays : ∀ now entity, input ≠ .command now (.switchEntity entity)) :
    ∀ effect ∈ effects, ∀ context ∈ effect.publication?, context.entity = before.entity? := by
  have evaluated : ∀ session : Session, ∀ effect ∈ session.evaluate.trace,
      ∀ context ∈ effect.publication?, context.entity = session.entity? := by
    intro session effect member context published
    obtain ⟨bindings, bound, rfl⟩ := publication?_evaluate member published
    rw [Session.entity?, bound, Option.map_some]
  intro effect member context published
  have same : after.entity? = before.entity? := turn.entity?.resolve_right <| by
    rintro ⟨now, entity, isSwitch⟩
    exact stays now entity isSwitch
  cases turn with
  | shown unmoved silent =>
      rw [Effect.publication?_of_isShown (silent effect member)] at published
      cases published
  | evaluated => exact evaluated before effect member context published
  | adopted bound =>
      cases List.mem_singleton.1 member
      cases published
      exact same
  | renamed unpicked =>
      cases List.mem_singleton.1 member
      cases published
      rfl
  | @succeeded now name _ changed bindings bound change =>
      have unchanged := entity?_evaluate changed
      rcases List.mem_append.1 member with early | late
      · exact (evaluated changed effect early context published).trans (unchanged.symm.trans same)
      · cases List.mem_singleton.1 late
        cases published
        exact same
  | switched => exact absurd rfl (stays _ _)
  | asked => cases List.mem_singleton.1 member; cases published
  | _ => cases member

theorem heralded_switchEntity (session : Session) (entity : EntityType) :
    Effect.Heralded session.entity? (session.switchEntity entity).trace (some entity) := by
  have drawn : ∀ calls : List ViewCall, ∀ effect ∈ calls.map Effect.drew,
      effect.publication? = none := by
    intro calls effect member
    obtain ⟨call, _, rfl⟩ := List.mem_map.1 member
    rfl
  have asked : ∀ session : Session, ∀ effect ∈ session.fetchUserLists.trace,
      effect.publication? = none := by
    intro session effect member
    unfold fetchUserLists at member
    split at member
    · split at member
      · cases List.mem_singleton.1 member
        rfl
      · cases member
    · cases member
  rw [switchEntity_eq]
  simp only [Traced.trace_andThen, List.append_assoc]
  refine .append (.of_silent (drawn _)) (.append (.of_silent ?_)
    (.append (.of_silent (drawn _)) ?_))
  · intro effect member
    exact Effect.publication?_of_isShown (isShown_load session entity effect member)
  · exact .chosen rfl (.other rfl (.of_silent (asked _)))

theorem heralded_respond (session : Session) (input : Input) :
    Effect.Heralded session.entity? (session.respond input).trace
      (session.respond input).result.entity? := by
  by_cases switches : ∃ now entity, input = .command now (.switchEntity entity)
  · obtain ⟨now, entity, rfl⟩ := switches
    have chosen : (session.switchEntity entity).result.entity? = some entity := by
      rw [entity?, bindings_switchEntity]
      rfl
    exact chosen ▸ heralded_switchEntity session entity
  · have stays : ∀ now entity, input ≠ .command now (.switchEntity entity) :=
      fun now entity isSwitch => switches ⟨now, entity, isSwitch⟩
    rw [entity?_respond stays]
    refine .of_steady ((takes_respond session input).kept
      (fun after => after.entity? = session.entity?)
      (fun effect => ∀ context ∈ effect.publication?, context.entity = session.entity?)
      (fun {before after effects} same turn => ⟨?_, ?_⟩) rfl).2
    · exact (turn.entity?.resolve_right switches).trans same
    · exact fun effect member context published =>
        (turn.publishes stays effect member context published).trans same

theorem heralded_run (inputs : List Input) (session : Session) :
    Effect.Heralded session.entity? (run inputs session).trace
      (run inputs session).result.entity? := by
  induction inputs generalizing session with
  | nil => exact .nil _
  | cons input inputs induction =>
      exact (heralded_respond session input).append (induction _)

/-- An entity type that the context of a session has come to since some moment was announced since
then, but for the moment between its choice and its announcement. -/
theorem restored_of_elsewhere {config : SessionConfig} {store : FaultyStore} {inputs : List Input}
    {before after rest : List Effect}
    (trace : (run inputs (start config store)).trace = before ++ (after ++ rest))
    (announced : ∀ entity expression,
      rest.head? ≠ some (.emitted (.filtersRestored entity expression)))
    {entity : EntityType} (elsewhere : (Effect.contextAfter .initial before).entity ≠ some entity)
    (arrived : (Effect.contextAfter .initial (before ++ after)).entity = some entity) :
    ∃ expression, .emitted (.filtersRestored entity expression) ∈ after := by
  have heralded := heralded_run inputs (start config store)
  rw [trace] at heralded
  rw [Effect.contextAfter_append] at arrived
  exact (Effect.Heralded.suffix heralded).restored elsewhere arrived announced

end Session

end MediaFilter
