import MediaFilter.Proofs.Session.Heralds
import MediaFilter.Table.Follower

/-!
A table that follows a session.  The effects of the session, the steps of the follower and whatever
else is done with the table come in any order.  A follower that has heard all there is has asked
for a page since the last event that called for one, unless the bus dropped that event unheard.
-/

namespace MediaFilter

namespace EventBus

variable {α : Type} {bus : EventBus α} {position : Nat}

theorem history_emit (listened : bus.listeners ≠ 0) (event : α) :
    (bus.emit event).history.toList = bus.history.toList ++ [event] := by
  rw [emit, if_neg listened, Array.toList_push]

theorem size_le_of_receive (nothing : (bus.receive position).1 = .nothing) :
    bus.history.size ≤ position := by
  unfold receive at nothing
  split at nothing
  · cases nothing
  · split at nothing
    · cases nothing
    · rename_i absent
      exact Array.getElem?_eq_none_iff.1 absent

theorem receive_of_behind (behind : position + bus.capacity < bus.history.size) :
    bus.receive position =
      (.lagged (bus.history.size - bus.capacity - position), bus.history.size - bus.capacity) :=
  if_pos behind

theorem receive_of_kept (kept : ¬ position + bus.capacity < bus.history.size) {event : α}
    (next : bus.history[position]? = some event) :
    bus.receive position = (.event event, position + 1) := by
  rw [receive, if_neg kept, next]

end EventBus

namespace Follower

def position? : Follower → Option Nat
  | .listening position => some position
  | .loading position _ => some position
  | .stopped => none

def load? : Follower → Option PageLoad
  | .loading _ load => some load
  | _ => none

theorem begin_of_entity {context : QueryContext} {entity : EntityType}
    (chosen : context.entity = some entity) (start : Nat) (table : Table) :
    ∃ load began, table.begin context start = .ok (load, began) := by
  unfold Table.begin Table.request
  rw [chosen]
  exact ⟨_, _, rfl⟩

theorem entity_of_isCalled {context : QueryContext} {event : Event}
    (called : isCalled context event = true) :
    ∃ entity, event.entity? = some entity ∧ context.entity = some entity := by
  obtain ⟨redraw, same⟩ := Bool.and_eq_true_iff.1 called
  have entity := beq_iff_eq.1 same
  cases event with
  | filterChanged chosen expression => exact ⟨chosen, rfl, entity.symm⟩
  | filtersRestored chosen expression => exact ⟨chosen, rfl, entity.symm⟩
  | whitelistUpdated chosen filter count => cases redraw
  | alert severity message hint => cases redraw

/-- A follower that hears something either misses what the bus dropped or takes the next event, and
begins to load a page if that calls for one. -/
theorem hear?_eq_some {bus : EventBus Event} {context : QueryContext} {table next : Table}
    {position : Nat} {follower : Follower}
    (hears : hear? bus context table position = some (follower, next)) :
    (∃ missed, (bus.receive position).1 = .lagged missed ∧
      position + bus.capacity < bus.history.size ∧
      follower = .listening (bus.history.size - bus.capacity)) ∨
    ∃ event, (bus.receive position).1 = .event event ∧ bus.history[position]? = some event ∧
      follower.position? = some (position + 1) ∧
      (isCalled context event = true →
        ∃ load, table.begin context 0 = .ok (load, next) ∧ follower.load? = some load) := by
  by_cases behind : position + bus.capacity < bus.history.size
  · rw [hear?, EventBus.receive_of_behind behind] at hears
    cases hears
    exact .inl ⟨_, by rw [EventBus.receive_of_behind behind], behind, rfl⟩
  · cases found : bus.history[position]? with
    | none =>
        have nothing : bus.receive position = (.nothing, position) := by
          rw [EventBus.receive, if_neg behind, found]
        rw [hear?, nothing] at hears
        cases hears
    | some event =>
        have received := EventBus.receive_of_kept behind found
        refine .inr ⟨event, by rw [received], rfl, ?_⟩
        rw [hear?, received] at hears
        dsimp only at hears
        split at hears
        · rename_i called
          obtain ⟨entity, _, chosen⟩ := entity_of_isCalled called
          obtain ⟨load, began, asked⟩ := begin_of_entity chosen 0 table
          rw [asked] at hears
          cases hears
          exact ⟨rfl, fun _ => ⟨load, asked, rfl⟩⟩
        · rename_i passed
          cases hears
          exact ⟨rfl, fun called => absurd called passed⟩

end Follower

/-- A table that is followed, with the bus that it is told by and the context that it is shown
for. -/
structure Scene where
  bus : EventBus Event
  context : QueryContext
  table : Table
  follower : Follower

namespace Scene

inductive Beat where
  | acted (effect : Effect)
  /-- Others come to listen, or leave. -/
  | attended (others : Nat)
  /-- Others use the table. -/
  | used (table : Table)
  | heard (heard : Heard Event) (load? : Option PageLoad)
  | resumed (isTaken : Bool) (loaded : Loaded)

def Beat.effect? : Beat → Option Effect
  | .acted effect => some effect
  | _ => none

def effects (history : List Beat) : List Effect := history.filterMap Beat.effect?

def events (history : List Beat) : List Event := (effects history).filterMap Effect.event?

theorem effects_append (history later : List Beat) :
    effects (history ++ later) = effects history ++ effects later := List.filterMap_append

theorem events_append (history later : List Beat) :
    events (history ++ later) = events history ++ events later := by
  rw [events, effects_append, List.filterMap_append, events, events]

theorem mem_effects {history : List Beat} {effect : Effect} (member : effect ∈ effects history) :
    .acted effect ∈ history := by
  obtain ⟨beat, happened, is⟩ := List.mem_filterMap.1 member
  cases beat <;> cases is
  exact happened

def act (effect : Effect) (scene : Scene) : Scene :=
  { scene with
    context := effect.publication?.getD scene.context
    bus := effect.event?.elim scene.bus fun event => scene.bus.emit event }

inductive Step : Scene → Beat → Scene → Prop
  | act (effect : Effect) (scene : Scene) : Step scene (.acted effect) (scene.act effect)
  | attend (others : Nat) (scene : Scene) :
      Step scene (.attended others)
        { scene with bus := { scene.bus with listeners := others + 1 } }
  | use (table : Table) (scene : Scene) : Step scene (.used table) { scene with table }
  | hear {scene : Scene} {position : Nat} {follower : Follower} {table : Table}
      (listens : scene.follower = .listening position)
      (hears : Follower.hear? scene.bus scene.context scene.table position =
        some (follower, table)) :
      Step scene (.heard (scene.bus.receive position).1 follower.load?)
        { scene with follower, table }
  | finish {scene : Scene} {position : Nat} {load : PageLoad}
      (loads : scene.follower = .loading position load) (reply : Except Error Page)
      (isTaken : Bool) :
      Step scene (.resumed isTaken (scene.table.finish load reply).1)
        { scene with
          follower := .resume position isTaken (scene.table.finish load reply).1
          table := (scene.table.finish load reply).2 }
  | giveUp {scene : Scene} {position : Nat} {load : PageLoad}
      (loads : scene.follower = .loading position load)
      (cancelled : scene.table.slots.isCancelled load.ticket = true) (isTaken : Bool) :
      Step scene (.resumed isTaken .superseded)
        { scene with follower := .resume position isTaken .superseded }

inductive Follows (first : Scene) : List Beat → Scene → Prop
  | refl : Follows first [] first
  | step {history : List Beat} {before after : Scene} {beat : Beat}
      (follows : Follows first history before) (step : Step before beat after) :
      Follows first (history ++ [beat]) after

variable {first middle scene before after : Scene} {history later : List Beat} {beat : Beat}

theorem Follows.trans (follows : Follows first history middle)
    (others : Follows middle later scene) : Follows first (history ++ later) scene := by
  induction others with
  | refl =>
      rw [List.append_nil]
      exact follows
  | step _ step induction =>
      rw [← List.append_assoc]
      exact induction.step step

theorem Follows.split (follows : Follows first (history ++ later) scene) :
    ∃ middle, Follows first history middle ∧ Follows middle later scene := by
  generalize whole : history ++ later = all at follows
  induction follows generalizing later with
  | refl =>
      obtain ⟨rfl, rfl⟩ := List.append_eq_nil_iff.1 whole
      exact ⟨_, .refl, .refl⟩
  | @step past before after beat follows step induction =>
      rcases List.eq_nil_or_concat later with rfl | ⟨front, last, rfl⟩
      · rw [List.append_nil] at whole
        exact ⟨_, whole ▸ follows.step step, .refl⟩
      · rw [List.concat_eq_append, ← List.append_assoc] at whole
        obtain ⟨rfl, same⟩ := List.append_inj' whole rfl
        cases same
        obtain ⟨middle, reaches, others⟩ := induction rfl
        rw [List.concat_eq_append]
        exact ⟨middle, reaches, others.step step⟩

theorem Step.context (step : Step before beat after) :
    after.context = Effect.contextAfter before.context (effects [beat]) := by
  cases step <;> rfl

theorem Follows.context (follows : Follows first history scene) :
    scene.context = Effect.contextAfter first.context (effects history) := by
  induction follows with
  | refl => rfl
  | step _ step induction =>
      rw [effects_append, Effect.contextAfter_append, ← induction]
      exact step.context

structure Told (first scene : Scene) (events : List Event) : Prop where
  listened : scene.bus.listeners ≠ 0
  capacity : scene.bus.capacity = first.bus.capacity
  history : scene.bus.history.toList = first.bus.history.toList ++ events

theorem Step.told (step : Step before beat after) (listened : before.bus.listeners ≠ 0) :
    Told before after (events [beat]) := by
  cases step with
  | act effect =>
      cases effect with
      | emitted event =>
          refine ⟨?_, ?_, EventBus.history_emit listened event⟩
          · rw [Scene.act, Effect.event?, Option.elim_some, EventBus.emit, if_neg listened]
            exact listened
          · rw [Scene.act, Effect.event?, Option.elim_some, EventBus.emit, if_neg listened]
      | _ => exact ⟨listened, rfl, (List.append_nil _).symm⟩
  | attend others => exact ⟨Nat.succ_ne_zero others, rfl, (List.append_nil _).symm⟩
  | _ => exact ⟨listened, rfl, (List.append_nil _).symm⟩

theorem Follows.told (follows : Follows first history scene)
    (listened : first.bus.listeners ≠ 0) : Told first scene (events history) := by
  induction follows with
  | refl => exact ⟨listened, rfl, (List.append_nil _).symm⟩
  | step _ step induction =>
      obtain ⟨stays, capacity, told⟩ := induction
      obtain ⟨still, same, more⟩ := step.told stays
      refine ⟨still, same.trans capacity, ?_⟩
      rw [more, told, events_append, List.append_assoc]

theorem Told.size {told : List Event} (is : Told first scene told) :
    scene.bus.history.size = first.bus.history.size + told.length := by
  rw [← Array.length_toList, is.history, List.length_append, Array.length_toList]

/-- Whether the follower has not gone past a number of events. -/
def Within (bound : Nat) (scene : Scene) : Prop :=
  ∀ position ∈ scene.follower.position?, position ≤ bound

theorem position?_resume (position : Nat) (isTaken : Bool) (loaded : Loaded) :
    ∀ next ∈ (Follower.resume position isTaken loaded).position?, next = position := by
  intro next found
  cases loaded <;> cases isTaken <;> cases found <;> rfl

theorem Step.within {bound : Nat} (step : Step before beat after) (within : Within bound before)
    (deaf : ∀ heard load?, beat ≠ .heard heard load?) : Within bound after := by
  cases step with
  | hear => exact absurd rfl (deaf _ _)
  | @finish _ position load loads reply isTaken =>
      intro next found
      rw [position?_resume position isTaken _ next found]
      exact within position (by rw [loads]; rfl)
  | @giveUp _ position load loads cancelled isTaken =>
      intro next found
      rw [position?_resume position isTaken .superseded next found]
      exact within position (by rw [loads]; rfl)
  | _ => exact within

theorem Within.mono {bound more : Nat} (within : Within bound scene) (le : bound ≤ more) :
    Within more scene := fun position found => Nat.le_trans (within position found) le

theorem Follows.within (follows : Follows first history scene)
    (listened : first.bus.listeners ≠ 0) (within : Within first.bus.history.size first) :
    Within scene.bus.history.size scene := by
  induction follows with
  | refl => exact within
  | @step history before after beat follows step induction =>
      have grows : before.bus.history.size ≤ after.bus.history.size := by
        rw [(step.told (follows.told listened).listened).size]
        exact Nat.le_add_right _ _
      by_cases deaf : ∀ heard load?, beat ≠ .heard heard load?
      · exact (step.within induction deaf).mono grows
      · cases step with
        | @hear _ position follower table listens hears =>
            intro next found
            rcases Follower.hear?_eq_some hears with ⟨_, _, _, rfl⟩ | ⟨event, _, isNext, next', _⟩
            · cases found
              exact Nat.sub_le _ _
            · rw [next'] at found
              cases found
              exact (Array.getElem?_eq_some_iff.1 isNext).1
        | _ => exact absurd (fun _ _ => nofun) deaf

/-- What the follower does as it goes past an event: it missed the event, or it heard it. -/
theorem Step.passes {index : Nat} {event : Event} (step : Step before beat after)
    (within : Within index before) (passed : ¬ Within index after)
    (isNext : before.bus.history[index]? = some event) :
    (∃ missed, beat = .heard (.lagged missed) none ∧
      index + before.bus.capacity < before.bus.history.size) ∨
    ∃ load?, beat = .heard (.event event) load? ∧
      (Follower.isCalled before.context event = true → ∃ load began,
        before.table.begin before.context 0 = .ok (load, began) ∧ load? = some load) := by
  by_cases deaf : ∀ heard load?, beat ≠ .heard heard load?
  · exact absurd (step.within within deaf) passed
  · cases step with
    | @hear _ position follower table listens hears =>
        have le : position ≤ index := within position (by rw [listens]; rfl)
        rcases Follower.hear?_eq_some hears with
          ⟨missed, isLag, behind, rfl⟩ | ⟨heard, isEvent, found, next, loads⟩
        · refine .inl ⟨missed, by rw [isLag]; rfl, ?_⟩
          have lost : index < before.bus.history.size - before.bus.capacity := by
            rw [← Nat.not_le]
            intro reached
            exact passed fun next found => by
              cases found
              exact reached
          omega
        · have lost : index < position + 1 := by
            rw [← Nat.not_le]
            intro reached
            exact passed fun other is => by
              rw [next] at is
              cases is
              exact reached
          obtain rfl : position = index := Nat.le_antisymm le (Nat.le_of_lt_succ lost)
          rw [isNext] at found
          cases found
          refine .inr ⟨follower.load?, by rw [isEvent], fun called => ?_⟩
          obtain ⟨load, asked, isLoad⟩ := loads called
          exact ⟨load, table, asked, isLoad⟩
    | _ => exact absurd (fun _ _ => nofun) deaf

theorem Follows.crosses {index : Nat} (follows : Follows first later scene)
    (within : Within index first) (passed : ¬ Within index scene) :
    ∃ past beat rest before after, later = past ++ beat :: rest ∧ Follows first past before ∧
      Step before beat after ∧ Within index before ∧ ¬ Within index after := by
  induction follows with
  | refl => exact absurd within passed
  | @step history before after beat follows step induction =>
      by_cases still : Within index before
      · exact ⟨history, beat, [], before, after, rfl, follows, step, still, passed⟩
      · obtain ⟨past, other, rest, crossing, crossed, rfl, reaches, crosses, was, is⟩ :=
          induction still
        exact ⟨past, other, rest ++ [beat], crossing, crossed, by simp, reaches, crosses, was, is⟩

theorem Within.not_of_drained {position bound : Nat} (waits : scene.follower = .listening position)
    (drained : Follower.hear? scene.bus scene.context scene.table position = none)
    (less : bound < scene.bus.history.size) : ¬ Within bound scene := by
  intro within
  have nothing : (scene.bus.receive position).1 = .nothing := by
    unfold Follower.hear? at drained
    generalize scene.bus.receive position = received at drained
    obtain ⟨heard, next⟩ := received
    cases heard with
    | nothing => rfl
    | lagged missed => cases drained
    | event event =>
        dsimp only at drained
        split at drained
        · split at drained <;> cases drained
        · cases drained
  have reached := EventBus.size_le_of_receive nothing
  have position : position ≤ bound := within position (by rw [waits]; rfl)
  omega

theorem Follows.hears {event : Event} {position : Nat}
    (follows : Follows first (.acted (.emitted event) :: later) scene)
    (listened : first.bus.listeners ≠ 0) (within : Within first.bus.history.size first)
    (waits : scene.follower = .listening position)
    (drained : Follower.hear? scene.bus scene.context scene.table position = none) :
    ∃ past beat after crossing, later = past ++ beat :: after ∧
      Follows first (.acted (.emitted event) :: past) crossing ∧
      ((∃ missed, beat = .heard (.lagged missed) none ∧
          first.bus.capacity ≤ (events past).length) ∨
        ∃ load?, beat = .heard (.event event) load? ∧
          (Follower.isCalled crossing.context event = true → ∃ load began,
            crossing.table.begin crossing.context 0 = .ok (load, began) ∧ load? = some load)) := by
  have emits : ∀ past, events (.acted (.emitted event) :: past) = event :: events past :=
    fun _ => rfl
  have size := (follows.told listened).size
  rw [emits, List.length_cons] at size
  obtain ⟨past, beat, after, crossing, crossed, whole, arrives, step, was, passed⟩ :=
    follows.crosses within (Within.not_of_drained waits drained (by omega))
  cases past with
  | nil =>
      -- The event is not heard while it is emitted.
      obtain ⟨rfl, _⟩ := List.cons.inj whole
      exact absurd (step.within was fun _ _ => nofun) passed
  | cons head past =>
      simp only [List.cons_append, List.cons.injEq] at whole
      obtain ⟨rfl, split⟩ := whole
      have told := arrives.told listened
      have isNext : crossing.bus.history[first.bus.history.size]? = some event := by
        rw [← Array.getElem?_toList, told.history, emits, ← Array.length_toList,
          List.getElem?_append_right (Nat.le_refl _), Nat.sub_self]
        rfl
      refine ⟨past, beat, after, crossing, split, arrives, ?_⟩
      rcases step.passes was passed isNext with ⟨missed, isLag, dropped⟩ | isHeard
      · refine .inl ⟨missed, isLag, ?_⟩
        rw [told.size, told.capacity, emits, List.length_cons] at dropped
        omega
      · exact .inr isHeard

/-- A table follows a session from any moment on, on a bus of any size.  Whenever the follower
waits and there is nothing more to hear, the last event that called for a page of the context was
heard, and a first page was asked for from the context of that moment; or the follower lagged after
that event, and at least as many events came after it as the bus holds.  In the moment between the
choice of an entity type and its announcement the event to come is the last. -/
theorem last_redraw_followed (config : SessionConfig) (store : FaultyStore) (inputs : List Input)
    {done rest : List Effect} {bus : EventBus Event} {table : Table} {position : Nat}
    {event : Event} {earlier : List Beat}
    (trace : (Session.run inputs (.start config store)).trace = done ++ (effects history ++ rest))
    (follows : Follows ⟨bus.subscribe.2, Effect.contextAfter .initial done, table,
      .listening bus.subscribe.1⟩ history scene)
    (waits : scene.follower = .listening position)
    (drained : Follower.hear? scene.bus scene.context scene.table position = none)
    (announced : ∀ entity expression,
      rest.head? ≠ some (.emitted (.filtersRestored entity expression)))
    (emitted : history = earlier ++ .acted (.emitted event) :: later)
    (called : Follower.isCalled scene.context event = true)
    (last : ∀ other, .acted (.emitted other) ∈ later →
      Follower.isCalled scene.context other = false) :
    (∃ past after load, ∃ used began : Table,
      later = past ++ .heard (.event event) (some load) :: after ∧
      used.begin (Effect.contextAfter .initial
        (done ++ effects (earlier ++ .acted (.emitted event) :: past))) 0 = .ok (load, began)) ∨
    (bus.capacity ≤ (events later).length ∧ ∃ missed, .heard (.lagged missed) none ∈ later) := by
  have listened : bus.subscribe.2.listeners ≠ 0 := Nat.succ_ne_zero _
  have context := follows.context
  rw [emitted] at follows
  obtain ⟨start, reaches, follows⟩ := follows.split
  have told := reaches.told listened
  have within : Within start.bus.history.size start :=
    reaches.within listened fun position found => by cases found; exact Nat.le_refl _
  obtain ⟨past, beat, after, crossing, rfl, arrives, outcome⟩ :=
    follows.hears told.listened within waits drained
  rcases outcome with ⟨missed, rfl, dropped⟩ | ⟨load?, rfl, loads⟩
  · refine .inr ⟨?_, missed, List.mem_append_right _ List.mem_cons_self⟩
    rw [told.capacity] at dropped
    rw [events_append, List.length_append]
    exact Nat.le_trans dropped (Nat.le_add_right _ _)
  · refine .inl ?_
    have current := (reaches.trans arrives).context
    dsimp only at current context
    rw [← Effect.contextAfter_append] at current context
    by_cases isCalled : Follower.isCalled crossing.context event = true
    · obtain ⟨load, began, asked, rfl⟩ := loads isCalled
      rw [current] at asked
      exact ⟨past, after, load, _, began, rfl, asked⟩
    · -- The context has come to the entity type since, and that was announced.
      obtain ⟨entity, isEntity, chosen⟩ := Follower.entity_of_isCalled called
      have redraw := (Bool.and_eq_true_iff.1 called).1
      have elsewhere : crossing.context.entity ≠ some entity := by
        intro same
        rw [Follower.isCalled, redraw, isEntity, same] at isCalled
        exact isCalled (by simp)
      have whole : effects history = effects (earlier ++ .acted (.emitted event) :: past) ++
          effects (.heard (.event event) load? :: after) := by
        rw [← effects_append, emitted, List.append_assoc, List.cons_append]
      rw [whole, List.append_assoc, ← List.append_assoc done] at trace
      rw [whole, ← List.append_assoc] at context
      rw [current] at elsewhere
      rw [context] at chosen
      obtain ⟨expression, member⟩ :=
        Session.restored_of_elsewhere trace announced elsewhere chosen
      have silent := last (.filtersRestored entity expression)
        (List.mem_append_right _ (mem_effects member))
      rw [Follower.isCalled, context, chosen] at silent
      exact absurd silent (by simp [Event.isRedraw, Event.entity?])

def charactersChosen : Acted Session :=
  Session.run [.command 0 (.switchEntity .character)] (.start (.initial []) (.sound .empty))

def characterContext : QueryContext := ⟨some .character, "", .empty⟩

def charactersRestored : Event := .filtersRestored .character .empty

def narrowBus : EventBus Event := ⟨1, #[], 0⟩

def characterScene : Scene :=
  ⟨narrowBus.subscribe.2, characterContext, .initial, .listening narrowBus.subscribe.1⟩

def firstCharacters : PageLoad := ⟨⟨.tablePage, 1, 0⟩, ⟨1, 0, 100, [], [], .empty, "", .character⟩⟩

def charactersShown : List Beat :=
  [.acted (.requested ⟨.filterValues, 1, 0⟩ (.choices .character)),
    .heard (.event charactersRestored) (some firstCharacters),
    .resumed true (.page (Table.shown firstCharacters.request .empty))]

theorem last_redraw_followed_of_chosen :
    ∃ scene,
      Follows characterScene (.acted (.emitted charactersRestored) :: charactersShown) scene ∧
      scene.follower = .listening 1 ∧
      ∃ past after load, ∃ used began : Table,
        charactersShown = past ++ .heard (.event charactersRestored) (some load) :: after ∧
        used.begin (Effect.contextAfter .initial (charactersChosen.trace.take 11 ++
          effects (.acted (.emitted charactersRestored) :: past))) 0 = .ok (load, began) := by
  have emitted := Follows.refl.step (.act (.emitted charactersRestored) characterScene)
  have requested := emitted.step (.act (.requested ⟨.filterValues, 1, 0⟩ (.choices .character)) _)
  have heard := requested.step (.hear rfl rfl)
  have follows := heard.step (.finish rfl (.ok .empty) true)
  have trace : charactersChosen.trace = charactersChosen.trace.take 11 ++
      (effects (.acted (.emitted charactersRestored) :: charactersShown) ++ []) := rfl
  have last : ∀ other, .acted (.emitted other) ∈ charactersShown →
      Follower.isCalled characterContext other = false := by
    intro other member
    simp [charactersShown] at member
  refine ⟨_, follows, rfl, ?_⟩
  rcases last_redraw_followed (.initial []) (.sound .empty) _ trace follows rfl rfl
    (fun _ _ => nofun) (List.nil_append _).symm rfl last with asked | ⟨dropped, _⟩
  · exact asked
  · exact absurd dropped (by decide)

def charactersListed : Acted Session :=
  Session.run [.command 0 (.switchEntity .character),
    .completion (.choices ⟨.filterValues, 1, 0⟩ (.ok { Choices.empty with gender := ["Female"] }))]
    (.start (.initial []) (.sound .empty))

theorem Follows.acts (scene : Scene) (effects : List Effect) :
    Follows scene (effects.map .acted)
      (effects.foldl (fun scene effect => scene.act effect) scene) := by
  induction effects generalizing scene with
  | nil => exact .refl
  | cons effect effects induction =>
      have acted := Follows.refl.step (.act effect scene)
      exact acted.trans (induction (scene.act effect))

/-- The bus holds one event.  The follower hears nothing but the last, and asks for no page of the
entity type that was restored. -/
theorem redraw_lost_of_lag : ∃ history scene position,
    Follows ⟨narrowBus.subscribe.2, .initial, .initial, .listening narrowBus.subscribe.1⟩
      history scene ∧
    charactersListed.trace = effects history ∧ scene.follower = .listening position ∧
    Follower.hear? scene.bus scene.context scene.table position = none ∧
    (events history).any (Follower.isCalled scene.context) = true ∧
    ∀ heard load, .heard heard (some load) ∉ history := by
  have acted := Follows.acts
    ⟨narrowBus.subscribe.2, .initial, .initial, .listening narrowBus.subscribe.1⟩
    charactersListed.trace
  have lagged := acted.step (.hear rfl rfl)
  have follows := lagged.step (.hear rfl rfl)
  refine ⟨_, _, 3, follows, rfl, rfl, rfl, by decide +kernel, fun heard load member => ?_⟩
  rcases List.mem_append.1 member with earlier | last
  · rcases List.mem_append.1 earlier with told | lag
    · obtain ⟨effect, _, is⟩ := List.mem_map.1 told
      cases is
    · cases List.mem_singleton.1 lag
  · cases List.mem_singleton.1 last

end Scene

end MediaFilter
