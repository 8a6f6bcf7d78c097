import MediaFilter.Proofs.History
import MediaFilter.Proofs.Session.Staleness

/-!
When the lists of a user are asked for with force: just if a reply that counted came too late since
they were last asked for, and the user is still the same.
-/

namespace MediaFilter

namespace Effect

/-- Whether lists are asked for, and if so with force or without. -/
def urgency? : Effect → Option Bool
  | .requested _ (.userLists _ _ forced) => some forced
  | _ => none

def urgencies (effects : List Effect) : List Bool := effects.filterMap urgency?

theorem urgencies_append (first second : List Effect) :
    urgencies (first ++ second) = urgencies first ++ urgencies second :=
  List.filterMap_append

theorem urgencies_eq_nil {effects : List Effect}
    (none : ∀ effect ∈ effects, effect.urgency? = none) : urgencies effects = [] :=
  List.filterMap_eq_nil_iff.2 none

theorem urgency?_of_unasked {effect : Effect} (unasked : effect.request? = none) :
    effect.urgency? = none := by
  cases effect with
  | requested ticket call => cases unasked
  | _ => rfl

theorem mem_urgencies {effects : List Effect} {forced : Bool} :
    forced ∈ urgencies effects ↔
      ∃ ticket name entity, .requested ticket (.userLists name entity forced) ∈ effects := by
  constructor
  · intro member
    obtain ⟨effect, isEffect, told⟩ := List.mem_filterMap.1 member
    match effect, told with
    | .requested ticket (.userLists name entity _), rfl => exact ⟨ticket, name, entity, isEffect⟩
  · rintro ⟨ticket, name, entity, isEffect⟩
    exact List.mem_filterMap.2 ⟨_, isEffect, rfl⟩

end Effect

def Completion.isOverdue : Completion → Bool
  | .userLists _ (.ok reply) => reply.warnings.any Notice.isTimeout
  | _ => false

namespace Session

def renames (session : Session) : Input → Bool
  | .command _ (.setUserName name) => effectiveName name != session.userName
  | _ => false

structure Unhurried (session : Session) (acted : Acted Session) : Prop where
  flag : acted.result.forceReload = session.forceReload
  silent : Effect.urgencies acted.trace = []

theorem unhurried_still {session after : Session}
    (flag : after.forceReload = session.forceReload) : session.Unhurried (.still after) :=
  ⟨flag, rfl⟩

theorem Unhurried.of_flag {before middle : Session} {acted : Acted Session}
    (unhurried : middle.Unhurried acted) (flag : middle.forceReload = before.forceReload) :
    before.Unhurried acted :=
  ⟨unhurried.flag.trans flag, unhurried.silent⟩

theorem Unhurried.andThen {session : Session} {acted : Acted Session}
    {next : Session → Acted Session} (first : session.Unhurried acted)
    (second : acted.result.Unhurried (next acted.result)) :
    session.Unhurried (acted.andThen next) := by
  refine ⟨second.flag.trans first.flag, ?_⟩
  rw [Traced.trace_andThen, Effect.urgencies_append, first.silent, second.silent]
  rfl

theorem urgencies_drew (calls : List ViewCall) :
    Effect.urgencies (calls.map Effect.drew) = [] := by
  apply Effect.urgencies_eq_nil
  intro effect member
  obtain ⟨call, _, rfl⟩ := List.mem_map.1 member
  rfl

theorem unhurried_draw {α : Type} {session : Session} {drawn : Drawn α}
    {next : α → Acted Session} (unhurried : session.Unhurried (next drawn.result)) :
    session.Unhurried (draw drawn next) := by
  refine ⟨unhurried.flag, ?_⟩
  rw [draw, Traced.trace_andThen, Effect.urgencies_append, Traced.trace_relabel, urgencies_drew]
  exact unhurried.silent

theorem unhurried_emitAll (events : List Event) (session : Session) :
    session.Unhurried (session.emitAll events) := by
  refine ⟨rfl, Effect.urgencies_eq_nil ?_⟩
  intro effect member
  obtain ⟨event, _, rfl⟩ := List.mem_map.1 member
  rfl

theorem unhurried_emit (event : Event) (session : Session) :
    session.Unhurried (session.emit event) :=
  ⟨rfl, rfl⟩

theorem unhurried_publish (session : Session) (expression : Expression) :
    session.Unhurried (session.publish expression) :=
  ⟨rfl, rfl⟩

theorem unhurried_evaluate (session : Session) : session.Unhurried session.evaluate := by
  refine ⟨?_, Effect.urgencies_eq_nil fun effect member =>
    Effect.urgency?_of_unasked ((idle_evaluate session).2 effect member)⟩
  have outcome := evaluates session
  generalize session.evaluate = acted at outcome
  cases outcome <;> rfl

theorem unhurried_restore (bindings : Bindings) (session : Session) :
    session.Unhurried (session.restore bindings) :=
  ⟨rfl, rfl⟩

theorem unhurried_noteChanges (now : Nat) (changes : List Change) (session : Session) :
    session.Unhurried (noteChanges now changes session) := by
  induction changes generalizing session with
  | nil => exact unhurried_still rfl
  | cons change changes induction =>
      refine Unhurried.andThen ?_ (induction _)
      unfold noteChange
      dsimp only
      split
      · exact (unhurried_evaluate _).of_flag rfl
      · exact unhurried_still rfl

theorem unhurried_settle (session : Session) : session.Unhurried session.settle := by
  unfold settle
  dsimp only
  split
  · exact (unhurried_evaluate _).of_flag rfl
  · exact unhurried_still rfl

theorem unhurried_edit (session : Session) (now : Nat) (filter : FilterName) (edit : Edit) :
    session.Unhurried ((session.edit now filter edit).map Prod.fst) := by
  unfold Session.edit
  split
  · exact unhurried_still rfl
  split
  · exact unhurried_still rfl
  · rw [map_draw]
    exact unhurried_draw ((unhurried_noteChanges now _ _).of_flag rfl)

theorem unhurried_clearFilters (session : Session) :
    session.Unhurried (session.clearFilters.map Prod.fst) := by
  unfold clearFilters
  split
  · exact unhurried_still rfl
  · rw [map_draw]
    apply unhurried_draw
    rw [map_fst_answered]
    exact (unhurried_evaluate _).of_flag rfl

theorem unhurried_query (session : Session) (filter : FilterName) (text : String) :
    session.Unhurried ((session.query filter text).map Prod.fst) := by
  unfold query
  split
  · exact unhurried_still rfl
  split
  · unfold queryYears
    rw [map_draw]
    apply unhurried_draw
    split
    · exact unhurried_still rfl
    · rw [map_fst_answered]
      exact (unhurried_emit _ _).of_flag rfl
  split
  · exact unhurried_still rfl
  split
  · exact unhurried_still rfl
  · rw [map_fst_answered]
    apply unhurried_draw
    dsimp only
    split
    · exact unhurried_still rfl
    · exact ⟨rfl, rfl⟩

theorem unhurried_setTagGrouping (session : Session) (grouping : TagGrouping) :
    session.Unhurried (session.setTagGrouping grouping) := by
  unfold setTagGrouping
  dsimp only
  split
  · exact unhurried_still rfl
  · exact unhurried_draw ((unhurried_emitAll _ _).of_flag rfl)

theorem unhurried_unbindUserLists (session : Session) :
    session.Unhurried session.unbindUserLists := by
  unfold unbindUserLists
  split
  · exact unhurried_still rfl
  · apply unhurried_draw
    split
    · exact (unhurried_evaluate _).of_flag rfl
    · exact unhurried_still rfl

theorem unhurried_acceptChoices (session : Session) (reply : Except Error Choices) :
    session.Unhurried (session.acceptChoices reply) := by
  unfold acceptChoices
  split
  · exact unhurried_still rfl
  · exact unhurried_emit _ session
  · apply unhurried_draw
    apply Unhurried.andThen
    · exact (unhurried_emitAll _ _).of_flag rfl
    · split
      · exact unhurried_still rfl
      · exact ⟨rfl, rfl⟩

theorem unhurried_acceptSuggestions (session : Session) (filter : FilterName)
    (reply : Except Error (List WhitelistEntry)) :
    session.Unhurried (session.acceptSuggestions filter reply) := by
  unfold acceptSuggestions
  split
  · exact unhurried_still rfl
  split
  · exact unhurried_still rfl
  · apply unhurried_draw
    dsimp only
    split
    · exact (unhurried_emit _ _).of_flag rfl
    · exact unhurried_draw ((unhurried_emit _ _).of_flag rfl)

theorem unhurried_bindUserLists (session : Session) (bindings : Bindings)
    (userLists : List UserList) : session.Unhurried (session.bindUserLists bindings userLists) := by
  apply unhurried_draw
  split
  · exact unhurried_still rfl
  · refine Unhurried.andThen ((unhurried_emit _ _).of_flag rfl) ?_
    unfold announceUserLists
    split
    · exact unhurried_evaluate _
    split
    · exact unhurried_still rfl
    · exact unhurried_restore _ _

theorem acceptUserLists_ok (session : Session) (reply : UserListReply) :
    (session.acceptUserLists (.ok reply)).result.forceReload =
        (session.forceReload || reply.warnings.any Notice.isTimeout) ∧
      Effect.urgencies (session.acceptUserLists (.ok reply)).trace = [] := by
  have noticed : Unhurried { session with
      forceReload := session.forceReload || reply.warnings.any Notice.isTimeout }
        (session.acceptUserLists (.ok reply)) := by
    unfold acceptUserLists
    apply Unhurried.andThen
    · exact ⟨rfl, (unhurried_emitAll _ session).silent⟩
    split
    · exact unhurried_still rfl
    · exact unhurried_bindUserLists _ _ _
  exact ⟨noticed.flag, noticed.silent⟩

theorem complete_urgency (session : Session) (completion : Completion) :
    (session.complete completion).result.forceReload =
        (session.forceReload ||
          (session.slots.isCurrent completion.ticket && completion.isOverdue)) ∧
      Effect.urgencies (session.complete completion).trace = [] := by
  unfold complete
  split
  · rename_i current
    rw [current, Bool.true_and]
    have calm : ∀ {acted : Acted Session}, Unhurried { session with
        slots := session.slots.finish completion.ticket } acted →
          acted.result.forceReload = (session.forceReload || false) ∧
            Effect.urgencies acted.trace = [] := by
      intro acted unhurried
      rw [Bool.or_false]
      exact ⟨unhurried.flag, unhurried.silent⟩
    cases completion with
    | choices ticket reply => exact calm (unhurried_acceptChoices _ reply)
    | suggestions filter ticket reply => exact calm (unhurried_acceptSuggestions _ filter reply)
    | userLists ticket reply =>
        cases reply with
        | error error => exact calm (unhurried_emit _ _)
        | ok reply => exact acceptUserLists_ok _ reply
  · rename_i passed
    rw [Bool.not_eq_true] at passed
    rw [passed, Bool.false_and, Bool.or_false]
    exact ⟨rfl, rfl⟩

/-- With the flag as it is held, either nobody asks for lists, or they are asked for once, just as
urgently as the flag says, which lowers it. -/
def Spends (held : Bool) (acted : Acted Session) : Prop :=
  (acted.result.forceReload = held ∧ Effect.urgencies acted.trace = []) ∨
    (acted.result.forceReload = false ∧ Effect.urgencies acted.trace = [held])

theorem Unhurried.spends {session : Session} {acted : Acted Session}
    (unhurried : session.Unhurried acted) : Spends session.forceReload acted :=
  .inl ⟨unhurried.flag, unhurried.silent⟩

theorem spends_fetchUserLists (session : Session) :
    Spends session.forceReload session.fetchUserLists := by
  unfold fetchUserLists
  split
  · split
    · exact .inr ⟨rfl, rfl⟩
    · exact .inl ⟨rfl, rfl⟩
  · exact .inl ⟨rfl, rfl⟩

theorem Unhurried.spends_after {session : Session} {acted : Acted Session}
    (unhurried : session.Unhurried acted) :
    Spends session.forceReload (acted.andThen fetchUserLists) := by
  have spends := spends_fetchUserLists acted.result
  rw [unhurried.flag] at spends
  rw [Spends, Traced.trace_andThen, Effect.urgencies_append, unhurried.silent, List.nil_append]
  exact spends

theorem spends_switchEntity (session : Session) (entity : EntityType) :
    Spends session.forceReload (session.switchEntity entity) := by
  rw [switchEntity_eq]
  refine Unhurried.spends_after (Unhurried.andThen (Unhurried.andThen ⟨rfl, ?_⟩ ?_) ⟨rfl, rfl⟩)
  · have loaded : Effect.urgencies (session.load entity).trace = [] :=
      Effect.urgencies_eq_nil fun effect member => Effect.urgency?_of_unasked
        (Effect.request?_of_isShown (isShown_load session entity effect member))
    rw [Effect.urgencies_append, Effect.urgencies_append, urgencies_drew, loaded, leave,
      urgencies_drew]
    rfl
  · exact (unhurried_restore _ _).of_flag rfl

theorem spends_setUserName (session : Session) (name : Option String) :
    Spends (session.forceReload && !(effectiveName name != session.userName))
      (session.setUserName name) := by
  unfold setUserName
  dsimp only
  split
  · rename_i same
    have kept : (effectiveName name != session.userName) = false := bne_eq_false_iff_eq.2 same
    rw [kept, Bool.not_false, Bool.and_true]
    exact (unhurried_still rfl).spends
  · rename_i changes
    have changed : (effectiveName name != session.userName) = true := bne_iff_ne.2 changes
    rw [changed, Bool.not_true, Bool.and_false, ← Traced.andThen_assoc]
    have unbound := unhurried_unbindUserLists { session with
      userName := effectiveName name
      forceReload := false
      slots := session.slots.cancel .userLists }
    exact (unbound.andThen (unhurried_publish _ _)).spends_after

theorem spends_respond {session : Session} {input : Input} (own : input.isOwn = true) :
    Spends (session.forceReload && !session.renames input) (session.respond input) := by
  have kept : Spends session.forceReload (session.respond input) →
      session.renames input = false →
        Spends (session.forceReload && !session.renames input) (session.respond input) := by
    intro spends stays
    rwa [stays, Bool.not_false, Bool.and_true]
  cases input with
  | command now command =>
      cases command with
      | setUserName name => exact spends_setUserName session name
      | switchEntity entity => exact kept (spends_switchEntity session entity) rfl
      | reloadUserLists => exact kept (spends_fetchUserLists session) rfl
      | edit filter edit => exact kept (unhurried_edit session now filter edit).spends rfl
      | query filter text => exact kept (unhurried_query session filter text).spends rfl
      | setTagGrouping grouping =>
          exact kept (unhurried_setTagGrouping session grouping).spends rfl
      | clearFilters => exact kept (unhurried_clearFilters session).spends rfl
      | settle => exact kept (unhurried_settle session).spends rfl
  | completion completion => cases own
  | deadline => exact kept (unhurried_settle session).spends rfl
  | snapshot => exact kept (unhurried_still rfl).spends rfl
  | fault load save => exact kept (unhurried_still rfl).spends rfl

end Session

namespace Occurrence

def renames : Occurrence → Bool
  | .responded session input => session.renames input
  | _ => false

def urgencies (occurrence : Occurrence) : List Bool := Effect.urgencies occurrence.effects

/-- After a history, whether an occurrence is a reply that counts and tells that lists came too
late. -/
def IsOverdue (history : List Occurrence) (occurrence : Occurrence) : Prop :=
  ∃ session message, occurrence = .delivered session message ∧
    Stands history message.request.ticket ∧ message.completion.isOverdue = true

/-- Whether lists came too late, and since then were not asked for and are still the same
user's. -/
def Overdue (history : List Occurrence) : Prop :=
  ∃ earlier late later, history = earlier ++ late :: later ∧ IsOverdue earlier late ∧
    ∀ other ∈ later, other.urgencies = [] ∧ other.renames = false

theorem not_overdue_nil : ¬ Overdue [] := by
  rintro ⟨earlier, late, later, whole, _⟩
  exact absurd whole.symm (List.append_ne_nil_of_right_ne_nil _ (List.cons_ne_nil _ _))

theorem overdue_append {history : List Occurrence} {occurrence : Occurrence} :
    Overdue (history ++ [occurrence]) ↔ IsOverdue history occurrence ∨
      (Overdue history ∧ occurrence.urgencies = [] ∧ occurrence.renames = false) := by
  constructor
  · rintro ⟨earlier, late, later, whole, overdue, calm⟩
    rcases append_singleton_eq_iff.1 whole with ⟨rfl, rfl, rfl⟩ | ⟨front, rfl, split⟩
    · exact .inl overdue
    · refine .inr ⟨⟨earlier, late, front, split, overdue, fun other member => ?_⟩, ?_⟩
      · exact calm other (List.mem_append_left _ member)
      · exact calm occurrence (List.mem_append_right _ List.mem_cons_self)
  · rintro (overdue | ⟨⟨earlier, late, later, rfl, overdue, calm⟩, kept⟩)
    · exact ⟨history, occurrence, [], rfl, overdue, fun other member => nomatch member⟩
    · refine ⟨earlier, late, later ++ [occurrence], by simp, overdue, fun other member => ?_⟩
      rcases List.mem_append.1 member with before | isLast
      · exact calm other before
      · rw [List.mem_singleton.1 isLast]
        exact kept

end Occurrence

namespace World

variable {config : SessionConfig} {store : FaultyStore} {history : List Occurrence}

theorem Orderly.isCurrent_iff_stands {world : World} (orderly : world.Orderly history)
    {message : Message} (queued : message ∈ world.messages) :
    world.session.slots.isCurrent message.completion.ticket = true ↔
      Occurrence.Stands history message.request.ticket := by
  have out : message.request.ticket ∈ world.requests.map Request.ticket :=
    List.mem_map.2 ⟨message.request, List.mem_append_right _
      (List.mem_map.2 ⟨message, queued, rfl⟩), rfl⟩
  rw [message.yields.ticket, orderly.tidy.isCurrent_iff out, Occurrence.latest?_eq_some_iff]

theorem Orderly.urgency_step {world after : World} (orderly : world.Orderly history)
    {occurrence : Occurrence} (step : Step world occurrence after) :
    (occurrence.urgencies = [] ∧ (after.session.forceReload = true ↔
      Occurrence.IsOverdue history occurrence ∨
        (world.session.forceReload = true ∧ occurrence.renames = false))) ∨
    (occurrence.urgencies = [world.session.forceReload && !occurrence.renames] ∧
      after.session.forceReload = false ∧ ¬ Occurrence.IsOverdue history occurrence) := by
  have never : ∀ other : Occurrence, (∀ session message, other ≠ .delivered session message) →
      ¬ Occurrence.IsOverdue history other :=
    fun _ apart ⟨session, message, isDelivery, _⟩ => apart session message isDelivery
  cases step with
  | @respond input own =>
      have unanswered := never (.responded world.session input) fun _ _ => nofun
      have spends := world.session.spends_respond own
      rcases spends with ⟨flag, silent⟩ | ⟨flag, asked⟩
      · refine .inl ⟨silent, ?_⟩
        rw [flag]
        simp [unanswered, Occurrence.renames]
      · exact .inr ⟨asked, flag, unanswered⟩
  | answer message =>
      have unanswered := never (.answered message) fun _ _ => nofun
      refine .inl ⟨rfl, ?_⟩
      simp [unanswered, Occurrence.renames]
  | @abandon _ _ _ request =>
      have unanswered := never (.abandoned request) fun _ _ => nofun
      refine .inl ⟨rfl, ?_⟩
      simp [unanswered, Occurrence.renames]
  | @deliver _ _ _ message queued =>
      have isQueued : message ∈ world.messages := by
        rw [queued]
        exact List.mem_append_right _ List.mem_cons_self
      obtain ⟨flag, silent⟩ := world.session.complete_urgency message.completion
      have overdue : Occurrence.IsOverdue history (.delivered world.session message) ↔
          Occurrence.Stands history message.request.ticket ∧
            message.completion.isOverdue = true := by
        constructor
        · rintro ⟨session, other, isDelivery, standing⟩
          cases isDelivery
          exact standing
        · exact fun standing => ⟨_, _, rfl, standing⟩
      refine .inl ⟨silent, ?_⟩
      rw [flag, overdue, Bool.or_eq_true, Bool.and_eq_true,
        orderly.isCurrent_iff_stands isQueued]
      simp [Occurrence.renames, or_comm]

theorem Reaches.forceReload_iff {world : World} (reached : Reaches config store history world) :
    world.session.forceReload = true ↔ Occurrence.Overdue history := by
  induction reached with
  | start => simp [Session.start, Occurrence.not_overdue_nil]
  | @step history before after occurrence reached step induction =>
      rw [Occurrence.overdue_append, ← induction]
      rcases reached.orderly.urgency_step step with ⟨silent, flag⟩ | ⟨asked, flag, unanswered⟩
      · rw [flag, silent]
        simp
      · rw [flag, asked]
        simp [unanswered]

/-- In every run lists are asked for at most once in a step, and then with force exactly if, since
they were last asked for, a reply that counted told that they came too late and no other user was
set after it, nor is in this step.  Whatever asks for no lists, sets no other user and is no such
reply leaves the flag as it is. -/
theorem forced_iff_overdue (config : SessionConfig) (store : FaultyStore)
    {history : List Occurrence} {world after : World} {occurrence : Occurrence}
    (reached : Reaches config store history world) (step : Step world occurrence after) :
    occurrence.urgencies.length ≤ 1 ∧
    (∀ ticket name entity forced,
      Effect.requested ticket (.userLists name entity forced) ∈ occurrence.effects →
        (forced = true ↔ Occurrence.Overdue history ∧ occurrence.renames = false)) ∧
    (occurrence.urgencies = [] → occurrence.renames = false →
      ¬ Occurrence.IsOverdue history occurrence →
        after.session.forceReload = world.session.forceReload) ∧
    (world.session.forceReload = true ↔ Occurrence.Overdue history) := by
  have flag := reached.forceReload_iff
  rcases reached.orderly.urgency_step step with ⟨silent, kept⟩ | ⟨asked, _, _⟩
  · refine ⟨by rw [silent]; exact Nat.zero_le 1, ?_, ?_, flag⟩
    · intro ticket name entity forced member
      have listed : forced ∈ occurrence.urgencies :=
        Effect.mem_urgencies.2 ⟨ticket, name, entity, member⟩
      rw [silent] at listed
      cases listed
    · intro _ stays calm
      rw [Bool.eq_iff_iff, kept]
      simp [calm, stays]
  · refine ⟨by rw [asked]; exact Nat.le_refl 1, ?_, ?_, flag⟩
    · intro ticket name entity forced member
      have listed : forced ∈ occurrence.urgencies :=
        Effect.mem_urgencies.2 ⟨ticket, name, entity, member⟩
      rw [asked, List.mem_singleton] at listed
      rw [listed, ← flag]
      simp
    · intro silent
      rw [asked] at silent
      cases silent

def tardyLists : Message where
  request := ⟨⟨.userLists, 1, 1⟩, .userLists "ben" .anime false⟩
  completion := .userLists ⟨.userLists, 1, 1⟩
    (.ok ⟨[⟨"3", "Paused", none, 12⟩], [], [⟨"Lists may be outdated.", some "timeout"⟩]⟩)
  yields := .userLists rfl _

def beforeBen : Session :=
  ((Session.start (.initial []) (.sound .empty)).respond
    (.command 0 (.switchEntity .anime))).result

def benNamed : Session := (beforeBen.respond (.command 1 (.setUserName (some "ben")))).result

def benServed : World :=
  ⟨(benNamed.complete tardyLists.completion).result,
    [⟨⟨.filterValues, 1, 0⟩, .choices .anime⟩], []⟩

def tardiness : List Occurrence :=
  [.responded (.start (.initial []) (.sound .empty)) (.command 0 (.switchEntity .anime)),
    .responded beforeBen (.command 1 (.setUserName (some "ben"))), .answered tardyLists,
    .delivered benNamed tardyLists]

def reloadOfBen : Input := .command 2 .reloadUserLists

def benReloaded : World :=
  ⟨(benServed.session.respond reloadOfBen).result,
    benServed.pending ++ Effect.requests (benServed.session.respond reloadOfBen).trace, []⟩

theorem forced_iff_overdue_of_tardy :
    let reload := Occurrence.responded benServed.session reloadOfBen
    Reaches (.initial []) (.sound .empty) tardiness benServed ∧
      Step benServed reload benReloaded ∧ reload.urgencies = [true] ∧
      Occurrence.Overdue tardiness ∧ reload.renames = false ∧
      benReloaded.session.forceReload = false := by
  intro reload
  have asked : Reaches (.initial []) (.sound .empty)
      [.responded (.start (.initial []) (.sound .empty)) (.command 0 (.switchEntity .anime)),
        .responded beforeBen (.command 1 (.setUserName (some "ben")))]
      ⟨benNamed, [⟨⟨.filterValues, 1, 0⟩, .choices .anime⟩] ++ tardyLists.request :: [], []⟩ :=
    .step (.step .start (.respond rfl _)) (.respond rfl _)
  have answered := asked.step (.answer tardyLists rfl)
  have reached : Reaches (.initial []) (.sound .empty) tardiness benServed :=
    answered.step (@Step.deliver _ [] [] tardyLists rfl)
  have step : Step benServed reload benReloaded := .respond rfl _
  have forced : reload.urgencies = [true] := by decide +kernel
  have listed : true ∈ reload.urgencies := by
    rw [forced]
    exact List.mem_singleton_self _
  obtain ⟨ticket, name, entity, isAsked⟩ := Effect.mem_urgencies.1 listed
  obtain ⟨_, urgent, _, _⟩ := forced_iff_overdue _ _ reached step
  obtain ⟨overdue, stays⟩ := (urgent ticket name entity true isAsked).1 rfl
  exact ⟨reached, step, forced, overdue, stays, by decide +kernel⟩

end World

end MediaFilter
