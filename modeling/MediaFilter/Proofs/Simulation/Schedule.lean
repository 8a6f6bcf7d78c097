import MediaFilter.Proofs.Session.Coherence
import MediaFilter.Simulation

/-!
However a script, a clock and followers of the list work together, the session among them only ever
answers inputs one after the other.  So what holds between the inputs of every run holds of every
session that is observed at work.
-/

namespace MediaFilter

theorem Session.run_append (first second : List Input) (session : Session) :
    (run (first ++ second) session).result = (run second (run first session).result).result := by
  induction first generalizing session with
  | nil => rfl
  | cons input first induction => exact induction (session.respond input).result

namespace Simulation

@[simp] theorem session_perform (world : Simulation) (effect : Effect) :
    (world.perform effect).session = world.session := by
  cases effect <;> rfl

@[simp] theorem session_take (acted : Acted Session) (world : Simulation) :
    (world.take acted).session = acted.result := by
  have performed : ∀ (effects : List Effect) (world : Simulation),
      (effects.foldl perform world).session = world.session := by
    intro effects
    induction effects with
    | nil => exact fun _ => rfl
    | cons effect effects induction =>
        intro world
        rw [List.foldl_cons, induction, session_perform]
  exact performed acted.trace { world with session := acted.result }

@[simp] theorem session_makeCall (world : Simulation) (request : Ticket × BackendCall) :
    (world.makeCall request).2.session = world.session := by
  unfold makeCall
  dsimp only
  split <;> rfl

theorem session_makeCalls (requests : List (Ticket × BackendCall)) (world : Simulation) :
    (makeCalls requests world).2.session = world.session := by
  induction requests generalizing world with
  | nil => rfl
  | cons request requests induction => simp only [makeCalls, induction, session_makeCall]

@[simp] theorem session_deliver (owner : LoadOwner) (start : Nat) (loaded : Loaded)
    (world : Simulation) : (world.deliver owner start loaded).session = world.session := by
  cases owner <;> rfl

@[simp] theorem session_finishPage (page : PendingPage) (world : Simulation) :
    (world.finishPage page).session = world.session := by
  unfold finishPage
  split
  · rfl
  · rw [session_deliver]
    rfl

@[simp] theorem session_callForPage (owner : LoadOwner) (table : Nat) (load : PageLoad)
    (world : Simulation) : (world.callForPage owner table load).session = world.session := by
  unfold callForPage
  dsimp only
  split
  · rw [session_finishPage]
    rfl
  · rfl

theorem session_finishPages (pages : List PendingPage) (world : Simulation) :
    (pages.foldl (fun world page => world.finishPage page) world).session = world.session := by
  induction pages generalizing world with
  | nil => rfl
  | cons page pages induction => rw [List.foldl_cons, induction, session_finishPage]

@[simp] theorem session_dropSuperseded (world : Simulation) :
    world.dropSuperseded.session = world.session :=
  session_finishPages _ _

theorem session_hear? {index : Nat} {world heard : Simulation}
    (hears : world.hear? index = some heard) : heard.session = world.session := by
  unfold hear? at hears
  split at hears
  · split at hears
    · obtain ⟨found, _, rfl⟩ := Option.map_eq_some_iff.1 hears
      dsimp only
      split
      · rw [session_callForPage]
        rfl
      · rfl
    · cases hears
  · cases hears

@[simp] theorem session_hearAll (index fuel : Nat) (world : Simulation) :
    (world.hearAll index fuel).session = world.session := by
  induction fuel generalizing world with
  | zero => rfl
  | succ fuel induction =>
      unfold hearAll
      split
      · rename_i heard hears
        rw [induction, session_hear? hears, session_dropSuperseded]
      · exact session_dropSuperseded world

@[simp] theorem session_follow (world : Simulation) : world.follow.session = world.session := by
  have heard : ∀ (indices : List Nat) (world : Simulation),
      (indices.foldl (fun world index => world.hearAll index (world.bus.history.size + 1))
        world).session = world.session := by
    intro indices
    induction indices with
    | nil => exact fun _ => rfl
    | cons index indices induction =>
        intro world
        rw [List.foldl_cons, induction, session_hearAll]
  unfold follow
  rw [heard, session_dropSuperseded]

/-- Whether the session has come from one state of the world to another by answering inputs. -/
def Advances (before after : Simulation) : Prop :=
  ∃ inputs, after.session = (Session.run inputs before.session).result

theorem Advances.of_eq {before after : Simulation} (same : after.session = before.session) :
    before.Advances after := ⟨[], same⟩

theorem Advances.of_same {before middle after : Simulation}
    (same : middle.session = before.session) (advances : middle.Advances after) :
    before.Advances after := by
  obtain ⟨inputs, advances⟩ := advances
  exact ⟨inputs, same ▸ advances⟩

theorem Advances.trans {before middle after : Simulation} (first : before.Advances middle)
    (second : middle.Advances after) : before.Advances after := by
  obtain ⟨inputs, first⟩ := first
  obtain ⟨others, second⟩ := second
  refine ⟨inputs ++ others, ?_⟩
  rw [Session.run_append, ← first]
  exact second

theorem Advances.consistent {before after : Simulation} (advances : before.Advances after)
    (consistent : before.session.Consistent) : after.session.Consistent := by
  obtain ⟨inputs, advances⟩ := advances
  rw [advances]
  exact Session.consistent_run consistent inputs

theorem Advances.foldl {α : Type} {step : Simulation → α → Simulation}
    (advances : ∀ (world : Simulation) value, world.Advances (step world value)) (values : List α)
    (world : Simulation) : world.Advances (values.foldl step world) := by
  induction values generalizing world with
  | nil => exact .of_eq rfl
  | cons value values induction => exact (advances world value).trans (induction _)

theorem advances_complete (world : Simulation) (completion : Completion) :
    world.Advances (world.complete completion) :=
  ⟨[.completion completion], session_take _ _⟩

theorem advances_makeRequestedCalls (world : Simulation) :
    world.Advances world.makeRequestedCalls := by
  have called : world.Advances (makeCalls world.requests { world with requests := [] }).2 :=
    .of_eq (session_makeCalls _ _)
  exact called.trans (.foldl advances_complete _ _)

theorem advances_evaluateIfDue (world : Simulation) : world.Advances world.evaluateIfDue := by
  unfold evaluateIfDue
  split
  · exact ⟨[.deadline], session_take _ _⟩
  · exact .of_eq rfl

theorem advances_follow (world : Simulation) : world.Advances world.follow :=
  .of_eq (session_follow world)

theorem advances_settle (world : Simulation) : world.Advances world.settle :=
  (((advances_evaluateIfDue world).trans (advances_follow _)).trans
    (advances_makeRequestedCalls _)).trans (advances_follow _)

theorem advances_fire (time : Nat) (world : Simulation) : world.Advances (world.fire time) := by
  unfold fire
  dsimp only
  refine .trans ?_ (advances_settle _)
  refine .trans ?_ (.of_eq (session_finishPages _ _))
  exact .of_same rfl (.foldl (fun world arrival => advances_complete world _) _ _)

theorem advances_runUntil (isDone : Simulation → Bool) (target : Option Nat) (fuel : Nat)
    (world : Simulation) : world.Advances (world.runUntil isDone target fuel) := by
  induction fuel generalizing world with
  | zero => exact .of_eq rfl
  | succ fuel induction =>
      unfold runUntil
      split
      · exact .of_eq rfl
      split
      · exact (advances_fire _ world).trans (induction _)
      · exact .of_eq rfl

theorem advances_advance (milliseconds : Nat) (world : Simulation) :
    world.Advances (world.advance milliseconds) :=
  (advances_runUntil _ _ _ world).trans (.of_eq rfl)

theorem advances_command (command : Command) (world : Simulation) :
    world.Advances (world.command command).2 := by
  unfold Simulation.command
  split
  · refine .trans ⟨[.command world.now command], ?_⟩ (advances_settle _)
    exact session_take _ _
  · exact .of_eq rfl

theorem advances_setStoreFaults (load save : Option String) (world : Simulation) :
    world.Advances (world.setStoreFaults load save) :=
  ⟨[.fault load save], rfl⟩

theorem advances_emit (event : Event) (world : Simulation) :
    world.Advances (world.emit event) := by
  unfold emit
  exact .of_same rfl (advances_settle _)

theorem advances_load (owner : LoadOwner) (start : Nat) (world : Simulation) :
    world.Advances (world.load owner start) := by
  unfold load
  split
  · split
    · refine .of_same ?_ (advances_settle _)
      rw [session_callForPage]
      rfl
    · exact .of_eq (session_deliver _ _ _ _)
  · exact .of_eq rfl

theorem advances_loadAndWait (start : Nat) (world : Simulation) :
    world.Advances (world.loadAndWait start).2 := by
  unfold loadAndWait
  split
  · exact .of_eq rfl
  · have loaded := advances_load .waiting start { world with outcome := none }
    exact .of_same rfl (loaded.trans (advances_runUntil _ _ _ _))

end Simulation

end MediaFilter
