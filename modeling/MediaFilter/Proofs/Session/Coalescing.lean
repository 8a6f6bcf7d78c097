import Mathlib.Data.List.Chain
import MediaFilter.Proofs.Session.Silence

/-!
Typing on a clock.  What is typed with shorter pauses than the window of the session is announced
together, once the window has passed since the last of it, or before if the session is told to
settle.  The clock does not pass a deadline without the session meeting it.
-/

namespace MediaFilter

theorem Widget.changes_of_reported {widget : Widget} (subscribed : widget.subscribed = true)
    {edit : Edit} (reported : (widget.apply edit).outcome = .ok true) :
    (widget.apply edit).changes = [⟨widget.name, edit.commit⟩] := by
  unfold Widget.apply at reported ⊢
  split at reported
  · cases reported
  · cases reported
  · exact if_pos subscribed

theorem Bindings.changes_of_reported {bindings : Bindings} (sound : bindings.Sound)
    {name : FilterName} {edit : Edit} {edited : Bindings.Edited}
    (found : bindings.edit? name edit = some edited) (reported : edited.outcome = .ok true) :
    edited.changes = [⟨name, edit.commit⟩] := by
  obtain ⟨widget, get, rfl⟩ := Option.map_eq_some_iff.1 found
  obtain ⟨isBound, named⟩ := mem_of_get? get
  have changes := Widget.changes_of_reported (sound.subscribed widget isBound) reported
  rw [named] at changes
  exact changes

namespace Session

variable {session : Session}

def isReport : Except Error Answer → Bool
  | .ok (.edited changed) => changed
  | _ => false

theorem edit_of_typed (sound : session.Sound) {now : Nat} {filter : FilterName} {edit : Edit}
    (typed : edit.commit = .debounced)
    (reported : isReport (session.edit now filter edit).result.2 = true) :
    session.Tacit ((session.edit now filter edit).map Prod.fst) ∧
      ((session.edit now filter edit).map Prod.fst).result.notifier =
        (session.notifier.onChange now .debounced).2 := by
  unfold Session.edit at reported ⊢
  split at reported
  · cases reported
  rename_i bindings bound
  split at reported
  · cases reported
  rename_i edited found
  have outcome : edited.outcome = .ok true := by
    have reports : isReport ((edited.outcome.mapError Refusal.error).map .edited) = true := reported
    cases isOutcome : edited.outcome with
    | error refusal =>
        rw [isOutcome] at reports
        cases reports
    | ok changed =>
        rw [isOutcome] at reports
        exact congrArg Except.ok reports
  have changes := Bindings.changes_of_reported (sound bindings bound) found outcome
  rw [typed] at changes
  rw [map_draw, changes]
  exact ⟨tacit_draw ⟨rfl, rfl, rfl⟩, rfl⟩

theorem deadline_acceptChoices (reply : Except Error Choices) :
    (session.acceptChoices reply).result.notifier.deadline = session.notifier.deadline := by
  unfold acceptChoices
  split
  · rfl
  · rfl
  · dsimp only [draw, Traced.andThen, emitAll]
    split
    · rfl
    · rename_i unarmed
      rw [Notifier.isPending, Debouncer.isArmed, Bool.not_eq_true, Option.isSome_eq_false_iff,
        Option.isNone_iff_eq_none] at unarmed
      exact unarmed.symm

end Session

structure Moment where
  time : Nat
  input : Input

namespace Moment

def typed? (moment : Moment) : Option Nat :=
  match moment.input with
  | .command _ (.edit _ _) => some moment.time
  | _ => none

def typedTimes (moments : List Moment) : List Nat := moments.filterMap typed?

end Moment

namespace Session

/-- Whether a moment can come for a session.  A command is told the time, a deadline is met when it
has come and not later, and nothing else happens once it has passed. -/
def meets (session : Session) (moment : Moment) : Bool :=
  match moment.input with
  | .deadline => session.notifier.deadline = some moment.time
  | .command now _ => now = moment.time && session.notifier.deadline.all (moment.time ≤ ·)
  | _ => session.notifier.deadline.all (moment.time ≤ ·)

/-- Whether an input belongs to typing: an edit that waits and reports a change, or what may go on
beside it. -/
def types (session : Session) : Input → Bool
  | .command now (.edit filter edit) =>
    edit.commit = .debounced && isReport (session.edit now filter edit).result.2
  | .command _ (.query _ _) => true
  | .command _ (.setTagGrouping _) => true
  | .completion (.choices _ _) => true
  | .completion (.suggestions _ _ _) => true
  | .deadline => true
  | .snapshot => true
  | _ => false

def isTyping : List Moment → Session → Bool
  | [], _ => true
  | moment :: moments, session =>
    session.meets moment && session.types moment.input &&
      isTyping moments (session.respond moment.input).result

theorem mem_of_typedTimes {moments : List Moment} {time : Nat}
    (isTyped : time ∈ Moment.typedTimes moments) : time ∈ moments.map Moment.time := by
  obtain ⟨moment, member, typed⟩ := List.mem_filterMap.1 isTyped
  refine List.mem_map.2 ⟨moment, member, ?_⟩
  unfold Moment.typed? at typed
  split at typed
  · exact Option.some.inj typed
  · cases typed

theorem Turn.window {input : Input} {before after : Session} {effects : List Effect}
    (turn : Turn input before effects after) :
    after.notifier.debouncer.window = before.notifier.debouncer.window := by
  have evaluated : ∀ session : Session,
      session.evaluate.result.notifier.debouncer.window = session.notifier.debouncer.window := by
    intro session
    have outcome := evaluates session
    generalize session.evaluate = acted at outcome
    cases outcome <;> rfl
  cases turn with
  | shown unmoved silent => rw [unmoved.notifier]
  | noted announced window => exact window
  | evaluated => exact evaluated before
  | succeeded bound change =>
      rw [change]
      exact evaluated _
  | switched opening bind =>
      rw [opening]
      rfl
  | _ => rfl

theorem window_respond (session : Session) (input : Input) :
    (session.respond input).result.notifier.debouncer.window =
      session.notifier.debouncer.window :=
  respond_keeps (fun session => session.notifier.debouncer.window) (fun turn => turn.window) session

theorem window_run (inputs : List Input) (session : Session) :
    (run inputs session).result.notifier.debouncer.window = session.notifier.debouncer.window := by
  induction inputs generalizing session with
  | nil => rfl
  | cons input inputs induction => exact (induction _).trans (window_respond session input)

theorem tacit_typing {session : Session} (sound : session.Sound) {moment : Moment}
    (met : session.meets moment = true) (types : session.types moment.input = true)
    (undue : moment.input ≠ .deadline) :
    session.Tacit (session.respond moment.input) ∧
      (session.respond moment.input).result.notifier.deadline =
        (moment.typed?.map fun time => time + session.notifier.debouncer.window).or
          session.notifier.deadline := by
  obtain ⟨time, input⟩ := moment
  have quietly : ∀ {acted : Acted Session}, session.Quiet acted →
      session.Tacit acted ∧ acted.result.notifier.deadline = session.notifier.deadline :=
    fun quiet => ⟨quiet.tacit, congrArg Notifier.deadline quiet.alike.notifier⟩
  cases input with
  | command now command =>
      cases command with
      | edit filter edit =>
          obtain ⟨typed, reported⟩ := Bool.and_eq_true_iff.1 types
          obtain ⟨told, _⟩ := Bool.and_eq_true_iff.1 met
          obtain rfl : now = time := of_decide_eq_true told
          obtain ⟨tacit, noted⟩ := edit_of_typed sound (of_decide_eq_true typed) reported
          exact ⟨tacit, congrArg Notifier.deadline noted⟩
      | query filter text => exact quietly (quiet_query session filter text)
      | setTagGrouping grouping => exact quietly (quiet_setTagGrouping session grouping)
      | _ => cases types
  | completion completion =>
      refine ⟨(rests_complete ?_).toTacit, ?_⟩
      · rintro ticket reply rfl
        cases types
      · dsimp only [respond]
        unfold complete
        split
        · cases completion with
          | choices ticket reply => exact deadline_acceptChoices reply
          | userLists ticket reply => cases types
          | suggestions filter ticket reply =>
              exact congrArg Notifier.deadline
                (quiet_acceptSuggestions _ filter reply).alike.notifier
        · rfl
  | deadline => exact absurd rfl undue
  | snapshot => exact quietly (quiet_still (.refl session))
  | fault load save => cases types

/-- What is known between two moments of typing, given when something was typed last. -/
structure Awaits (entity : EntityType) (pause : Nat) (typed : Option Nat)
    (session : Session) : Prop where
  consistent : session.Consistent
  entity : session.entity? = some entity
  window : session.notifier.debouncer.window = pause
  deadline : session.notifier.deadline = typed.map fun time => time + pause

theorem Awaits.step {entity : EntityType} {pause : Nat} {typed : Option Nat} {session : Session}
    (awaits : session.Awaits entity pause typed) {moment : Moment}
    (met : session.meets moment = true)
    (types : session.types moment.input = true) (undue : moment.input ≠ .deadline) :
    session.Tacit (session.respond moment.input) ∧
      (session.respond moment.input).result.Awaits entity pause (moment.typed?.or typed) := by
  obtain ⟨consistent, isEntity, window, deadline⟩ := awaits
  obtain ⟨tacit, moved⟩ := tacit_typing consistent.sound met types undue
  refine ⟨tacit, ?_, ?_, ?_, ?_⟩
  · exact consistent.moves (proceeds_respond consistent.sound moment.input)
  · rw [entity?_respond, isEntity]
    intro now chosen isSwitch
    rw [isSwitch] at types
    cases types
  · rw [window_respond, window]
  · rw [moved, deadline, window]
    cases moment.typed? <;> rfl

def Soon (pause earlier later : Nat) : Prop := earlier < later ∧ later < earlier + pause

theorem Awaits.undue {entity : EntityType} {pause : Nat} {typed : Option Nat} {session : Session}
    (awaits : session.Awaits entity pause typed) {moment : Moment} {moments : List Moment}
    (met : session.meets moment = true)
    (ordered : ∀ time ∈ moments.map Moment.time, moment.time ≤ time)
    (soon : (typed.toList ++ Moment.typedTimes (moment :: moments)).IsChain (Soon pause))
    {last : Nat}
    (isLast : (typed.toList ++ Moment.typedTimes (moment :: moments)).getLast? = some last)
    (before : moment.input = .deadline → moment.time < last + pause) :
    moment.input ≠ .deadline := by
  intro due
  have untyped : Moment.typedTimes (moment :: moments) = Moment.typedTimes moments := by
    refine List.filterMap_cons_none ?_
    rw [Moment.typed?, due]
  rw [untyped] at soon isLast
  rw [meets, due] at met
  have met := of_decide_eq_true met
  rw [awaits.deadline] at met
  obtain ⟨time, rfl, comes⟩ := Option.map_eq_some_iff.1 met
  have early := before due
  cases later : Moment.typedTimes moments with
  | nil =>
      rw [later, List.append_nil] at isLast
      have same : some time = some last := isLast
      cases same
      omega
  | cons next others =>
      rw [later] at soon
      have isNext : next ∈ Moment.typedTimes moments := by
        rw [later]
        exact List.mem_cons_self
      have notBefore := ordered next (mem_of_typedTimes isNext)
      have inTime := (List.isChain_cons_cons.1 soon).1.2
      omega

theorem Awaits.run {entity : EntityType} {pause : Nat} {moments : List Moment}
    {typed : Option Nat} {session : Session} (awaits : session.Awaits entity pause typed)
    (typing : isTyping moments session = true)
    (ordered : (moments.map Moment.time).Pairwise (· ≤ ·))
    (soon : (typed.toList ++ Moment.typedTimes moments).IsChain (Soon pause)) {last : Nat}
    (isLast : (typed.toList ++ Moment.typedTimes moments).getLast? = some last)
    (before : ∀ moment ∈ moments, moment.input = .deadline → moment.time < last + pause) :
    session.Tacit (run (moments.map Moment.input) session) ∧
      (run (moments.map Moment.input) session).result.Awaits entity pause (some last) := by
  induction moments generalizing typed session with
  | nil =>
      refine ⟨⟨rfl, rfl, rfl⟩, ?_⟩
      cases typed with
      | none => cases isLast
      | some time =>
          cases isLast
          exact awaits
  | cons moment moments induction =>
      obtain ⟨both, rest⟩ := Bool.and_eq_true_iff.1 typing
      obtain ⟨met, types⟩ := Bool.and_eq_true_iff.1 both
      obtain ⟨first, ordered⟩ := List.pairwise_cons.1 ordered
      have undue := awaits.undue met first soon isLast (before moment List.mem_cons_self)
      obtain ⟨tacit, stillAwaits⟩ := awaits.step met types undue
      -- What was typed last is forgotten once more is typed.
      have suffix : ∃ forgotten, typed.toList ++ Moment.typedTimes (moment :: moments) =
            forgotten ++ ((moment.typed?.or typed).toList ++ Moment.typedTimes moments) ∧
          (typed.toList ++ Moment.typedTimes (moment :: moments)).getLast? =
            ((moment.typed?.or typed).toList ++ Moment.typedTimes moments).getLast? := by
        unfold Moment.typedTimes
        cases now : moment.typed? with
        | none =>
            rw [List.filterMap_cons_none now]
            exact ⟨[], rfl, rfl⟩
        | some time =>
            rw [List.filterMap_cons_some now]
            exact ⟨typed.toList, rfl, List.getLast?_append_of_ne_nil _ (List.cons_ne_nil _ _)⟩
      obtain ⟨forgotten, whole, sameLast⟩ := suffix
      rw [whole] at soon
      obtain ⟨laterTacit, atLast⟩ := induction stillAwaits rest ordered soon.right_of_append
        (sameLast.symm.trans isLast)
        fun other member => before other (List.mem_cons_of_mem _ member)
      exact ⟨tacit.andThen laterTacit, atLast⟩

theorem settle_of_debouncing {session : Session}
    (debouncing : session.notifier.state = .debouncing) :
    ∃ notifier : Notifier, notifier.announced = session.notifier.announced ∧
      session.settle = { session with notifier }.evaluate := by
  have due : session.notifier.onDeadline = (true, { session.notifier with
      debouncer := session.notifier.debouncer.cancel, state := .evaluating }) := if_pos debouncing
  rw [settle, due]
  exact ⟨{ session.notifier with
    debouncer := session.notifier.debouncer.cancel, state := .evaluating }, rfl, rfl⟩

theorem notifier_evaluate {session : Session} {bindings : Bindings}
    (bound : session.bindings = some bindings) :
    session.evaluate.result.notifier = session.notifier.adopt bindings.build := by
  have outcome := evaluates session
  generalize session.evaluate = acted at outcome
  cases outcome with
  | unbound nothing =>
      rw [bound] at nothing
      cases nothing
  | unchanged isBound same =>
      rw [bound] at isBound
      cases isBound
      rfl
  | changed isBound different =>
      rw [bound] at isBound
      cases isBound
      rfl

/-- What an announcement of typed text comes to: one change if the widgets stand for another
expression than the published one, and none otherwise; and nothing is left to announce. -/
structure Announces (entity : EntityType) (session : Session) (acted : Acted Session) : Prop where
  unchanged : session.expression = session.context.expression → acted.trace = []
  changed : session.expression ≠ session.context.expression → acted.trace =
    announcement entity (session.userName.getD "") session.expression session.store.saveFault
  published : acted.result.context.expression = session.expression
  bindings : acted.result.bindings = session.bindings
  idle : acted.result.notifier.state = .idle
  unarmed : acted.result.notifier.deadline = none

theorem Awaits.announces {entity : EntityType} {pause time : Nat} {session : Session}
    (awaits : session.Awaits entity pause (some time)) :
    session.Announces entity session.settle := by
  obtain ⟨consistent, isEntity, window, deadline⟩ := awaits
  obtain ⟨bindings, bound, rfl⟩ := Option.map_eq_some_iff.1 isEntity
  have coherent := consistent.coherent _ isEntity
  have debouncing : session.notifier.state = .debouncing :=
    coherent.armed.2 (by rw [deadline]; rfl)
  obtain ⟨notifier, kept, evaluates⟩ := settle_of_debouncing debouncing
  have isBound : { session with notifier }.bindings = some bindings := bound
  have announced : { session with notifier }.notifier.announced =
      some { session with notifier }.context.expression.print := kept.trans coherent.announced
  have expression : session.expression = bindings.build := by
    rw [Session.expression, bound]
    rfl
  rw [evaluates]
  refine ⟨fun same => ?_, fun different => ?_, ?_, bindings_evaluate _, ?_, ?_⟩
  · exact (evaluate_silent (fun _ _ => announced) same).1
  · exact evaluate_announces isEntity announced different
  · rw [expression]
    exact (expression_evaluate isBound announced).1
  · rw [notifier_evaluate isBound]
    rfl
  · rw [notifier_evaluate isBound]
    rfl

/-- Whatever is typed in time, with whatever going on beside it, is announced once, when the window
has passed since the last of it; and if the session is told to settle before, then all is announced
at once and the deadline does not come. -/
theorem typing_coalesces (config : SessionConfig) (store : FaultyStore) (inputs : List Input)
    {entity : EntityType} {moments : List Moment} {last : Nat} :
    let before := (run inputs (start config store)).result
    before.entity? = some entity → before.notifier.state = .idle →
    isTyping moments before = true →
    (moments.map Moment.time).Pairwise (· ≤ ·) →
    (Moment.typedTimes moments).IsChain (Soon config.debounce) →
    (Moment.typedTimes moments).getLast? = some last →
    (∀ moment ∈ moments, moment.input = .deadline → moment.time < last + config.debounce) →
    let acted := run (moments.map Moment.input) before
    let after := acted.result
    (∀ effect ∈ acted.trace, effect.change? = none ∧ effect.attempt? = none) ∧
    after.store.memory = before.store.memory ∧
    (∀ time, after.meets ⟨time, .deadline⟩ = true ↔ time = last + config.debounce) ∧
    after.Announces entity (after.respond .deadline) ∧
    (∀ now, after.respond (.command now .settle) = after.respond .deadline) ∧
    ∀ time, (after.respond .deadline).result.meets ⟨time, .deadline⟩ = false := by
  intro before bound idle typing ordered soon isLast undue acted after
  have consistent := consistent_run (consistent_start config store) inputs
  have unarmed : before.notifier.deadline = none :=
    (consistent.coherent entity bound).idle_iff.1 idle
  have awaits : before.Awaits entity config.debounce none :=
    ⟨consistent, bound, window_run inputs _, unarmed⟩
  obtain ⟨tacit, waits⟩ := awaits.run typing ordered soon isLast undue
  have announces := waits.announces
  refine ⟨fun effect member => ⟨List.filterMap_eq_nil_iff.1 tacit.changes effect member,
    List.filterMap_eq_nil_iff.1 tacit.attempts effect member⟩, tacit.memory, ?_, announces,
    fun _ => rfl, ?_⟩
  · intro time
    have met : after.meets ⟨time, .deadline⟩ = true ↔ after.notifier.deadline = some time :=
      decide_eq_true_iff
    rw [met, waits.deadline]
    simp [eq_comm]
  · intro time
    refine decide_eq_false fun met => ?_
    cases announces.unarmed.symm.trans met

def titleTyped : List Moment :=
  [⟨100, .command 100 (.edit .titleLike (.write "Mushi"))⟩,
    ⟨250, .completion (.choices ⟨.filterValues, 1, 0⟩ (.ok .empty))⟩,
    ⟨400, .command 400 (.edit .titleLike (.write "Mushishi"))⟩, ⟨900, .snapshot⟩]

theorem typing_coalesces_of_title :
    let before := (run [.command 0 (.switchEntity .anime)]
      (start (.initial []) (.sound .empty))).result
    let after := (run (titleTyped.map Moment.input) before).result
    before.entity? = some .anime ∧ before.notifier.state = .idle ∧
      isTyping titleTyped before = true ∧ Moment.typedTimes titleTyped = [100, 400] ∧
      after.expression ≠ after.context.expression ∧
      (∀ time, after.meets ⟨time, .deadline⟩ = true ↔ time = 900) ∧
      (after.respond .deadline).trace = announcement .anime "" after.expression none ∧
      after.respond (.command 600 .settle) = after.respond .deadline := by
  intro before after
  have typing : isTyping titleTyped before = true := by decide +kernel
  have soon : (Moment.typedTimes titleTyped).IsChain (Soon 500) :=
    List.isChain_cons_cons.2 ⟨⟨by decide, by decide⟩, .singleton _⟩
  have undue : ∀ moment ∈ titleTyped, moment.input = .deadline → moment.time < 400 + 500 := by
    intro moment member due
    simp only [titleTyped, List.mem_cons, List.not_mem_nil, or_false] at member
    rcases member with rfl | rfl | rfl | rfl <;> cases due
  obtain ⟨_, _, due, announces, settles, _⟩ := typing_coalesces (.initial []) (.sound .empty)
    [.command 0 (.switchEntity .anime)] rfl rfl typing (by decide) soon rfl undue
  have different : after.expression ≠ after.context.expression := by decide +kernel
  exact ⟨rfl, rfl, typing, rfl, different, due, announces.changed different, settles 600⟩

end Session

end MediaFilter
