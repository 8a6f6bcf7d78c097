import MediaFilter.Proofs.Session.Announcements
import MediaFilter.Proofs.Session.Turns

/-!
The widgets of a session are regular whatever it responds to, so every change that it announces is
an expression that regular widgets stood for.
-/

namespace MediaFilter

/-- Whether an expression is what some regular widgets of an entity type stand for. -/
def Settled (entity : EntityType) (expression : Expression) : Prop :=
  ∃ bindings : Bindings, bindings.Regular ∧ bindings.entity = entity ∧
    bindings.build = expression

namespace Bindings

theorem Revision.regular {stored : Expression} {input : Input} {before after : Bindings}
    (revision : Revision stored input before after) (regular : before.Regular) :
    after.Regular := by
  cases revision with
  | edited found => exact regular_edit? regular found
  | cleared => exact regular_clear regular
  | awaited loading => exact regular_setLoading regular _ loading
  | abridged => exact regular_offer regular .year _
  | regrouped => exact regular_setTagGrouping regular _
  | accepted => exact regular_accept regular _
  | relaxed => exact regular_setLoading regular _ false
  | suggested => exact regular_offer regular _ _
  | listed => exact regular_bindUserLists regular _ stored

theorem entity_edit? {bindings : Bindings} {name : FilterName} {edit : Edit}
    {edited : Bindings.Edited} (found : bindings.edit? name edit = some edited) :
    edited.bindings.entity = bindings.entity := by
  obtain ⟨widget, _, rfl⟩ := Option.map_eq_some_iff.1 found
  rfl

theorem Revision.entity {stored : Expression} {input : Input} {before after : Bindings}
    (revision : Revision stored input before after) : after.entity = before.entity := by
  cases revision with
  | edited found => exact entity_edit? found
  | listed => exact entity_bindUserLists _ stored true before
  | _ => rfl

end Bindings

namespace Session

def Regular (session : Session) : Prop := ∀ bindings ∈ session.bindings, bindings.Regular

theorem regular_start (config : SessionConfig) (store : FaultyStore) :
    (start config store).Regular := by
  rintro _ ⟨⟩

theorem change?_evaluate {session : Session} {effect : Effect}
    (member : effect ∈ session.evaluate.trace) {change : EntityType × Expression}
    (announced : effect.change? = some change) :
    ∃ bindings ∈ session.bindings, change = (bindings.entity, bindings.build) := by
  have outcome := evaluates session
  generalize session.evaluate = acted at outcome member
  cases outcome with
  | unbound nothing => cases member
  | unchanged bound same => cases member
  | @changed bindings bound different =>
      have listed : change ∈ (announcement bindings.entity (session.userName.getD "")
          bindings.build session.store.saveFault).filterMap Effect.change? :=
        List.mem_filterMap.2 ⟨effect, member, announced⟩
      rw [filterMap_change?_announcement] at listed
      exact ⟨bindings, bound, List.mem_singleton.1 listed⟩

theorem Turn.regular {input : Input} {before after : Session} {effects : List Effect}
    (regular : before.Regular) (turn : Turn input before effects after) :
    after.Regular ∧ ∀ effect ∈ effects, ∀ change ∈ effect.change?,
      Settled change.1 change.2 := by
  have settled : ∀ {session : Session}, session.Regular →
      ∀ effect ∈ session.evaluate.trace, ∀ change ∈ effect.change?,
        Settled change.1 change.2 := by
    intro session whole effect member change announced
    obtain ⟨bindings, bound, rfl⟩ := change?_evaluate member announced
    exact ⟨bindings, whole bindings bound, rfl, rfl⟩
  have nothing : ∀ {context : QueryContext}, ∀ effect ∈ [Effect.published context],
      ∀ change ∈ effect.change?, Settled change.1 change.2 := by
    intro context effect member change announced
    cases List.mem_singleton.1 member
    cases announced
  cases turn with
  | shown unmoved silent =>
      refine ⟨?_, ?_⟩
      · rw [Regular, unmoved.bindings]
        exact regular
      · intro effect member change announced
        have quiet := Effect.isQuiet_of_isShown (silent effect member)
        rw [Effect.change?_of_isQuiet quiet] at announced
        cases announced
  | asked asks before cls call =>
      refine ⟨regular, ?_⟩
      intro effect member change announced
      cases List.mem_singleton.1 member
      cases announced
  | dismissed asks before gone => exact ⟨regular, fun _ member => nomatch member⟩
  | finished before => exact ⟨regular, fun _ member => nomatch member⟩
  | revised bound revision =>
      refine ⟨?_, fun _ member => nomatch member⟩
      rintro _ ⟨⟩
      exact revision.regular (regular _ bound)
  | noted announced window => exact ⟨regular, fun _ member => nomatch member⟩
  | evaluated =>
      refine ⟨?_, settled regular⟩
      rw [Regular, bindings_evaluate]
      exact regular
  | adopted bound =>
      refine ⟨?_, nothing⟩
      rintro _ ⟨⟩
      exact regular _ bound
  | renamed unpicked => exact ⟨regular, nothing⟩
  | @succeeded now name _ changed bindings bound change =>
      have whole : changed.Regular := by
        rw [change]
        rintro _ ⟨⟩
        exact Bindings.regular_unbind (regular _ bound)
      refine ⟨?_, ?_⟩
      · have kept : changed.evaluate.result.Regular := by
          rw [Regular, bindings_evaluate]
          exact whole
        exact kept
      · intro effect member
        rcases List.mem_append.1 member with early | late
        · exact settled whole effect early
        · exact nothing effect late
  | switched opening bind =>
      refine ⟨?_, nothing⟩
      rintro _ ⟨⟩
      rw [bind]
      exact Bindings.regular_bind _ _ _

theorem Regular.respond {session : Session} (regular : session.Regular) (input : Input) :
    (session.respond input).result.Regular ∧ ∀ effect ∈ (session.respond input).trace,
      ∀ change ∈ effect.change?, Settled change.1 change.2 :=
  (takes_respond session input).kept Regular
    (fun effect => ∀ change ∈ effect.change?, Settled change.1 change.2) Turn.regular regular

end Session

end MediaFilter
