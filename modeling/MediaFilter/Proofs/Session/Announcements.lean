import MediaFilter.Proofs.Session.Coherence

/-!
What is announced is what was stored.  Only an evaluation writes to the store, and whenever it
announces a change it has tried once to store the text of the new expression and has published it.
-/

namespace MediaFilter

namespace Effect

def change? : Effect → Option (EntityType × Expression)
  | .emitted (.filterChanged entity expression) => some (entity, expression)
  | _ => none

/-- The attempt to store a text, and whether the store took it. -/
def attempt? : Effect → Option (EntityType × String × Bool)
  | .stored entity text accepted => some (entity, text, accepted)
  | _ => none

theorem change?_of_isQuiet {effect : Effect} (silent : effect.isQuiet = true) :
    effect.change? = none := by
  unfold change?
  split
  · cases silent
  · rfl

theorem attempt?_of_isQuiet {effect : Effect} (silent : effect.isQuiet = true) :
    effect.attempt? = none := by
  unfold attempt?
  split
  · cases silent
  · rfl

end Effect

structure Announcement where
  entity : EntityType
  expression : Expression
  accepted : Bool

namespace Announcement

def change (announcement : Announcement) : EntityType × Expression :=
  (announcement.entity, announcement.expression)

def attempt (announcement : Announcement) : EntityType × String × Bool :=
  (announcement.entity, announcement.expression.print, announcement.accepted)

def write (memory : MemoryStore) (announcement : Announcement) : MemoryStore :=
  if announcement.accepted then
    memory.save announcement.entity.storageKey announcement.expression.print
  else memory

/-- The last expression of an entity type that the store took. -/
def latest? (entity : EntityType) (announcements : List Announcement) : Option Expression :=
  (announcements.filter fun announcement =>
    announcement.entity = entity && announcement.accepted).getLast?.map Announcement.expression

theorem load_write (memory : MemoryStore) (announcement : Announcement) (entity : EntityType) :
    (write memory announcement).load entity.storageKey =
      if announcement.entity = entity ∧ announcement.accepted = true then
        some announcement.expression.print
      else memory.load entity.storageKey := by
  unfold write
  by_cases accepted : announcement.accepted = true
  · rw [if_pos accepted]
    by_cases same : announcement.entity = entity
    · rw [if_pos ⟨same, accepted⟩, same, MemoryStore.load_save_self]
    · rw [if_neg fun both => same both.1, MemoryStore.load_save_of_ne]
      intro keys
      exact same (EntityType.storageKey_injective keys).symm
  · rw [if_neg accepted, if_neg fun both => accepted both.2]

theorem latest?_cons (entity : EntityType) (first : Announcement)
    (announcements : List Announcement) :
    latest? entity (first :: announcements) =
      (latest? entity announcements).or
        (if first.entity = entity ∧ first.accepted = true then some first.expression
        else none) := by
  unfold latest?
  rw [List.filter_cons]
  by_cases counts : first.entity = entity ∧ first.accepted = true
  · rw [if_pos (by simpa using counts), if_pos counts, List.getLast?_cons]
    cases (announcements.filter fun announcement =>
      announcement.entity = entity && announcement.accepted).getLast? <;> rfl
  · rw [if_neg (by simpa using counts), if_neg counts, Option.or_none]

theorem load_foldl_write (announcements : List Announcement) (memory : MemoryStore)
    (entity : EntityType) :
    (announcements.foldl write memory).load entity.storageKey =
      ((latest? entity announcements).map Expression.print).or
        (memory.load entity.storageKey) := by
  induction announcements generalizing memory with
  | nil => rfl
  | cons first announcements induction =>
      rw [List.foldl_cons, induction, load_write, latest?_cons]
      cases latest? entity announcements with
      | some expression => rfl
      | none => by_cases counts : first.entity = entity ∧ first.accepted = true <;> simp [counts]

end Announcement

namespace Session

/-- Effects between two published expressions, with the announcements among them.  Each follows an
attempt to store the text of the new expression and its publication. -/
inductive Recorded : Expression → List Effect → List Announcement → Expression → Prop
  | nothing (shown : Expression) : Recorded shown [] [] shown
  | quiet {shown last : Expression} {effect : Effect} {effects : List Effect}
      {announcements : List Announcement} (silent : effect.isQuiet = true)
      (rest : Recorded shown effects announcements last) :
      Recorded shown (effect :: effects) announcements last
  | published {shown last : Expression} (context : QueryContext) {effects : List Effect}
      {announcements : List Announcement}
      (rest : Recorded context.expression effects announcements last) :
      Recorded shown (.published context :: effects) announcements last
  | announced {shown last expression : Expression} (entity : EntityType) (userName : String)
      (fault : Option String) {effects : List Effect} {announcements : List Announcement}
      (new : expression ≠ shown) (rest : Recorded expression effects announcements last) :
      Recorded shown (announcement entity userName expression fault ++ effects)
        (⟨entity, expression, fault.isNone⟩ :: announcements) last

theorem Recorded.append {shown middle last : Expression} {effects more : List Effect}
    {announcements others : List Announcement}
    (first : Recorded shown effects announcements middle)
    (second : Recorded middle more others last) :
    Recorded shown (effects ++ more) (announcements ++ others) last := by
  induction first with
  | nothing shown => exact second
  | quiet silent _ induction => exact .quiet silent (induction second)
  | published context _ induction => exact .published context (induction second)
  | announced entity userName fault new _ induction =>
      rw [List.append_assoc]
      exact .announced entity userName fault new (induction second)

theorem recorded_quiet {effects : List Effect} (shown : Expression)
    (silent : ∀ effect ∈ effects, effect.isQuiet = true) : Recorded shown effects [] shown := by
  induction effects with
  | nil => exact .nothing shown
  | cons effect effects induction =>
      refine .quiet (silent effect List.mem_cons_self) (induction ?_)
      intro other member
      exact silent other (List.mem_cons_of_mem _ member)

theorem filterMap_change?_announcement (entity : EntityType) (userName : String)
    (expression : Expression) (fault : Option String) :
    (announcement entity userName expression fault).filterMap Effect.change? =
      [(entity, expression)] := by
  cases fault <;> rfl

theorem filterMap_attempt?_announcement (entity : EntityType) (userName : String)
    (expression : Expression) (fault : Option String) :
    (announcement entity userName expression fault).filterMap Effect.attempt? =
      [(entity, expression.print, fault.isNone)] := by
  cases fault <;> rfl

theorem Recorded.lists {shown last : Expression} {effects : List Effect}
    {announcements : List Announcement} (recorded : Recorded shown effects announcements last) :
    effects.filterMap Effect.change? = announcements.map Announcement.change ∧
      effects.filterMap Effect.attempt? = announcements.map Announcement.attempt := by
  induction recorded with
  | nothing shown => exact ⟨rfl, rfl⟩
  | quiet silent _ induction =>
      rw [List.filterMap_cons_none (Effect.change?_of_isQuiet silent),
        List.filterMap_cons_none (Effect.attempt?_of_isQuiet silent)]
      exact induction
  | published context _ induction => exact induction
  | announced entity userName fault new _ induction =>
      rw [List.filterMap_append, List.filterMap_append, filterMap_change?_announcement,
        filterMap_attempt?_announcement, induction.1, induction.2]
      exact ⟨rfl, rfl⟩

theorem isQuiet_leave (session : Session) :
    ∀ effect ∈ session.leave.trace, effect.isQuiet = true := by
  intro effect member
  obtain ⟨call, _, rfl⟩ := List.mem_map.1 member
  rfl

theorem memory_stored (entity : EntityType) (expression : Expression) (store : FaultyStore) :
    (stored entity expression.print store).memory =
      Announcement.write store.memory ⟨entity, expression, store.saveFault.isNone⟩ := by
  unfold stored Announcement.write
  cases store.saveFault <;> rfl

structure Accounted (before : Session) (effects : List Effect) (after : Session)
    (announcements : List Announcement) : Prop where
  recorded :
    Recorded before.context.expression effects announcements after.context.expression
  memory : after.store.memory = announcements.foldl Announcement.write before.store.memory

theorem Accounted.trans {before middle after : Session} {effects more : List Effect}
    {announcements others : List Announcement}
    (first : Accounted before effects middle announcements)
    (second : Accounted middle more after others) :
    Accounted before (effects ++ more) after (announcements ++ others) := by
  refine ⟨first.recorded.append second.recorded, ?_⟩
  rw [second.memory, first.memory, List.foldl_append]

theorem accounted_republish (session : Session) :
    Accounted session session.republish.trace session.republish.result [] :=
  ⟨.published _ (.nothing _), rfl⟩

theorem accounted_evaluate {session : Session}
    (announced : ∀ entity ∈ session.entity?,
      session.notifier.announced = some session.context.expression.print) :
    ∃ announcements,
      Accounted session session.evaluate.trace session.evaluate.result announcements := by
  have outcome := evaluates session
  generalize session.evaluate = acted at outcome
  cases outcome with
  | unbound nothing => exact ⟨[], .nothing _, rfl⟩
  | unchanged bound same => exact ⟨[], .nothing _, rfl⟩
  | @changed bindings bound different =>
      refine ⟨[⟨bindings.entity, bindings.build, session.store.saveFault.isNone⟩], ?_,
        memory_stored bindings.entity bindings.build session.store⟩
      have new : bindings.build ≠ session.context.expression := by
        intro same
        have entity : session.entity? = some bindings.entity := by rw [entity?, bound]; rfl
        rw [announced _ entity, same] at different
        exact different rfl
      have recorded := Recorded.announced bindings.entity (session.userName.getD "")
        session.store.saveFault new (.nothing bindings.build)
      rw [List.append_nil] at recorded
      exact recorded

theorem Accounted.of_unannounced {before changed after : Session} {effects : List Effect}
    {announcements : List Announcement} (unannounced : before.Unannounced changed)
    (accounted : Accounted changed effects after announcements) :
    Accounted before effects after announcements := by
  obtain ⟨recorded, memory⟩ := accounted
  rw [unannounced.context] at recorded
  rw [unannounced.memory] at memory
  exact ⟨recorded, memory⟩

theorem Consistent.announced {before changed : Session} (consistent : before.Consistent)
    (unannounced : before.Unannounced changed) :
    ∀ entity ∈ changed.entity?,
      changed.notifier.announced = some changed.context.expression.print := by
  intro entity bound
  rw [unannounced.announced, unannounced.context]
  exact (consistent.coherent entity (unannounced.entity ▸ bound)).announced

theorem Move.accounted {before after : Session} {effects : List Effect}
    (consistent : before.Consistent) (move : Move before effects after) :
    ∃ announcements, Accounted before effects after announcements := by
  cases move with
  | quiet alike silent =>
      refine ⟨[], ?_, alike.memory⟩
      rw [alike.context]
      exact recorded_quiet _ silent
  | typed unannounced userName debouncing armed =>
      exact ⟨[], .of_unannounced unannounced ⟨.nothing _, rfl⟩⟩
  | pending unannounced userName notifier armed =>
      exact ⟨[], .of_unannounced unannounced ⟨.nothing _, rfl⟩⟩
  | lapse calm => exact ⟨[], .nothing _, rfl⟩
  | evaluation unannounced userName =>
      obtain ⟨announcements, accounted⟩ :=
        accounted_evaluate (consistent.announced unannounced)
      exact ⟨announcements, accounted.of_unannounced unannounced⟩
  | rename steady =>
      rename_i renamed
      have published := accounted_republish renamed
      exact ⟨[], steady.context ▸ published.recorded, steady.memory ▸ published.memory⟩
  | succession unannounced =>
      obtain ⟨announcements, accounted⟩ :=
        accounted_evaluate (consistent.announced unannounced)
      exact ⟨announcements ++ [],
        (accounted.of_unannounced unannounced).trans (accounted_republish _)⟩
  | adoption bindings sound => exact ⟨[], .published _ (.nothing _), rfl⟩
  | departure => exact ⟨[], recorded_quiet _ (isQuiet_leave before), rfl⟩

theorem Moves.accounted {before after : Session} {effects : List Effect}
    (moves : Moves before effects after) (consistent : before.Consistent) :
    ∃ announcements, Accounted before effects after announcements := by
  induction moves with
  | refl session => exact ⟨[], .nothing _, rfl⟩
  | step move _ induction =>
      obtain ⟨announcements, first⟩ := move.accounted consistent
      obtain ⟨others, second⟩ := induction (consistent.move move)
      exact ⟨announcements ++ others, first.trans second⟩

/-- Whether a move evaluates what the widgets stand for. -/
def Evaluating (before : Session) (effects : List Effect) (after : Session) : Prop :=
  ∃ changed rest, before.Unannounced changed ∧ effects = changed.evaluate.trace ++ rest ∧
    after.store = changed.evaluate.result.store ∧
    rest.filterMap Effect.change? = [] ∧ rest.filterMap Effect.attempt? = []

theorem Move.evaluating_or_silent {before after : Session} {effects : List Effect}
    (move : Move before effects after) :
    Evaluating before effects after ∨
      (after.store.memory = before.store.memory ∧
        effects.filterMap Effect.change? = [] ∧ effects.filterMap Effect.attempt? = []) := by
  cases move with
  | quiet alike silent =>
      have lists := (recorded_quiet before.context.expression silent).lists
      exact .inr ⟨alike.memory, lists⟩
  | typed unannounced userName debouncing armed => exact .inr ⟨unannounced.memory, rfl, rfl⟩
  | pending unannounced userName notifier armed => exact .inr ⟨unannounced.memory, rfl, rfl⟩
  | lapse calm => exact .inr ⟨rfl, rfl, rfl⟩
  | evaluation unannounced userName =>
      exact .inl ⟨_, [], unannounced, (List.append_nil _).symm, rfl, rfl, rfl⟩
  | rename steady => exact .inr ⟨steady.memory, rfl, rfl⟩
  | succession unannounced => exact .inl ⟨_, _, unannounced, rfl, rfl, rfl, rfl⟩
  | adoption bindings sound => exact .inr ⟨rfl, rfl, rfl⟩
  | departure =>
      have lists := (recorded_quiet before.context.expression (isQuiet_leave before)).lists
      exact .inr ⟨rfl, lists⟩

theorem evaluate_silent {session : Session}
    (announced : ∀ entity ∈ session.entity?,
      session.notifier.announced = some session.context.expression.print)
    (same : session.expression = session.context.expression) :
    session.evaluate.trace = [] ∧ session.evaluate.result.store = session.store := by
  have outcome := evaluates session
  generalize session.evaluate = acted at outcome
  cases outcome with
  | unbound nothing => exact ⟨rfl, rfl⟩
  | unchanged bound equal => exact ⟨rfl, rfl⟩
  | @changed bindings bound different =>
      have entity : session.entity? = some bindings.entity := by rw [entity?, bound]; rfl
      have build : session.expression = bindings.build := by rw [expression, bound]; rfl
      rw [announced _ entity, ← same, build] at different
      exact absurd rfl different

theorem evaluate_announces {session : Session} {entity : EntityType}
    (bound : session.entity? = some entity)
    (announced : session.notifier.announced = some session.context.expression.print)
    (new : session.expression ≠ session.context.expression) :
    session.evaluate.trace = announcement entity (session.userName.getD "") session.expression
      session.store.saveFault := by
  have outcome := evaluates session
  generalize session.evaluate = acted at outcome
  cases outcome with
  | unbound nothing =>
      rw [entity?, nothing] at bound
      cases bound
  | @unchanged bindings isBound same =>
      have build : session.expression = bindings.build := by rw [expression, isBound]; rfl
      rw [announced] at same
      rw [build] at new
      exact absurd (Expression.print_inj.1 (Option.some.inj same)).symm new
  | @changed bindings isBound different =>
      have build : session.expression = bindings.build := by rw [expression, isBound]; rfl
      rw [entity?, isBound] at bound
      cases bound
      rw [build]

/-- The announced changes are those whose texts were to be stored, and the store holds for each
entity type the text of the last one that it took. -/
def Balanced (before : Session) (effects : List Effect) (after : Session) : Prop :=
  ∃ announcements : List Announcement,
    Recorded before.context.expression effects announcements after.context.expression ∧
    effects.filterMap Effect.change? = announcements.map Announcement.change ∧
    effects.filterMap Effect.attempt? = announcements.map Announcement.attempt ∧
    after.store.memory = announcements.foldl Announcement.write before.store.memory ∧
    ∀ entity : EntityType, after.store.memory.load entity.storageKey =
      ((Announcement.latest? entity announcements).map Expression.print).or
        (before.store.memory.load entity.storageKey)

theorem Moves.balanced {before after : Session} {effects : List Effect}
    (moves : Moves before effects after) (consistent : before.Consistent) :
    Balanced before effects after := by
  obtain ⟨announcements, recorded, memory⟩ := moves.accounted consistent
  obtain ⟨changes, attempts⟩ := recorded.lists
  refine ⟨announcements, recorded, changes, attempts, memory, ?_⟩
  intro entity
  rw [memory, Announcement.load_foldl_write]

/-- At the end of a run, as at any moment of it, what was announced is what was to be stored.
Nothing but an evaluation stores or announces.  One that finds the published expression again does
neither, and one that finds another stores, publishes and announces it. -/
theorem announced_is_stored (config : SessionConfig) (store : FaultyStore) (inputs : List Input) :
    let before := start config store
    let acted := run inputs before
    Balanced before acted.trace acted.result ∧
    Moves before acted.trace acted.result ∧
    ∀ effects moment, Moves before effects moment →
      Balanced before effects moment ∧
      (∀ more after, Move moment more after → Evaluating moment more after ∨
        (after.store.memory = moment.store.memory ∧
          more.filterMap Effect.change? = [] ∧ more.filterMap Effect.attempt? = [])) ∧
      ∀ changed, moment.Unannounced changed →
        (changed.expression = moment.context.expression →
          changed.evaluate.trace = [] ∧ changed.evaluate.result.store = changed.store) ∧
        ∀ entity ∈ changed.entity?, changed.expression ≠ moment.context.expression →
          changed.evaluate.trace = announcement entity (changed.userName.getD "")
            changed.expression changed.store.saveFault := by
  intro before acted
  have consistent : before.Consistent := consistent_start config store
  have proceeds : Moves before acted.trace acted.result := proceeds_run consistent inputs
  refine ⟨proceeds.balanced consistent, proceeds, ?_⟩
  intro effects moment moves
  refine ⟨moves.balanced consistent, fun more after move => move.evaluating_or_silent, ?_⟩
  intro changed unannounced
  have announced := (consistent.moves moves).announced unannounced
  rw [← unannounced.context]
  refine ⟨evaluate_silent announced, ?_⟩
  intro entity bound
  exact evaluate_announces bound (announced entity bound)

def womenChosen : Acted Session :=
  run [.command 0 (.switchEntity .character), .command 5 (.edit .gender (.add "Female"))]
    (start (.initial []) (.sound .empty))

theorem announced_is_stored_of_chosen :
    womenChosen.trace.filterMap Effect.attempt? =
        [(.character, "\x7b\"and\":\x7b\"gender\":\x7b\"or\":[\"Female\"]\x7d\x7d\x7d", true)] ∧
      Moves (start (.initial []) (.sound .empty)) womenChosen.trace womenChosen.result ∧
      Balanced (start (.initial []) (.sound .empty)) womenChosen.trace womenChosen.result ∧
      womenChosen.result.Unannounced womenChosen.result ∧
      womenChosen.result.expression = womenChosen.result.context.expression ∧
      womenChosen.result.evaluate.trace = [] := by
  have attempts : womenChosen.trace.filterMap Effect.attempt? =
      [(.character, "\x7b\"and\":\x7b\"gender\":\x7b\"or\":[\"Female\"]\x7d\x7d\x7d", true)] := by
    decide +kernel
  have same : womenChosen.result.expression = womenChosen.result.context.expression := by
    decide +kernel
  have unannounced : womenChosen.result.Unannounced womenChosen.result :=
    ⟨rfl, id, rfl, rfl, rfl⟩
  obtain ⟨balanced, moves, facts⟩ := announced_is_stored (.initial []) (.sound .empty)
    [.command 0 (.switchEntity .character), .command 5 (.edit .gender (.add "Female"))]
  rw [← womenChosen] at balanced moves
  exact ⟨attempts, moves, balanced, unannounced, same,
    (((facts _ _ moves).2.2 _ unannounced).1 same).1⟩

end Session

end MediaFilter
