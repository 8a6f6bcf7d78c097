import MediaFilter.Debouncer
import MediaFilter.Expression.Codec

/-!
When a changed expression is announced.  A typed change waits until its deadline; any other is
evaluated at once.  An evaluation compares texts with the one announced last, and only a different
one counts as a change.
-/

namespace MediaFilter

/-- How soon an edit is to be evaluated. -/
inductive Commit where
  | debounced
  | immediate
  deriving DecidableEq, Repr

def Commit.wire : Commit → String
  | .debounced => "debounced"
  | .immediate => "immediate"

inductive NotifierState where
  | idle
  | debouncing
  | evaluating
  deriving DecidableEq, Repr

def NotifierState.wire : NotifierState → String
  | .idle => "idle"
  | .debouncing => "debouncing"
  | .evaluating => "evaluating"

structure Notifier where
  state : NotifierState
  debouncer : Debouncer
  announced : Option String
  deriving DecidableEq, Repr

namespace Notifier

def start (window : Nat) : Notifier := ⟨.idle, .idle window, none⟩

def isPending (notifier : Notifier) : Bool := notifier.debouncer.isArmed

def deadline (notifier : Notifier) : Option Nat := notifier.debouncer.deadline

/-- Takes note of a change; the answer says whether it is to be evaluated now. -/
def onChange (now : Nat) (commit : Commit) (notifier : Notifier) : Bool × Notifier :=
  match commit with
  | .debounced =>
    (false, { notifier with state := .debouncing, debouncer := notifier.debouncer.arm now })
  | .immediate =>
    (true, { notifier with state := .evaluating, debouncer := notifier.debouncer.cancel })

/-- The deadline has come, or is not waited for; the answer says whether to evaluate. -/
def onDeadline (notifier : Notifier) : Bool × Notifier :=
  let notifier := { notifier with debouncer := notifier.debouncer.cancel }
  if notifier.state = .debouncing then (true, { notifier with state := .evaluating })
  else (false, notifier)

def settle (notifier : Notifier) : Notifier :=
  { notifier with state := .idle, debouncer := notifier.debouncer.cancel }

/-- The new text, if it differs from the one announced last. -/
def evaluate (expression : Expression) (notifier : Notifier) : Option String × Notifier :=
  let text := expression.print
  if notifier.announced = some text then (none, notifier.settle)
  else (some text, { notifier.settle with announced := some text })

/-- Takes an expression for announced. -/
def adopt (expression : Expression) (notifier : Notifier) : Notifier :=
  { notifier.settle with announced := some expression.print }

def reset (notifier : Notifier) : Notifier := { notifier.settle with announced := none }

@[simp] theorem state_settle (notifier : Notifier) : notifier.settle.state = .idle := rfl

@[simp] theorem deadline_settle (notifier : Notifier) : notifier.settle.deadline = none := rfl

@[simp] theorem announced_settle (notifier : Notifier) :
    notifier.settle.announced = notifier.announced := rfl

/-! Whether or not the text is new, it is the one announced last afterwards. -/

theorem evaluate_of_same {notifier : Notifier} {expression : Expression}
    (same : notifier.announced = some expression.print) :
    notifier.evaluate expression = (none, notifier.adopt expression) := by
  rw [evaluate, if_pos same, adopt, ← same]
  rfl

theorem evaluate_of_different {notifier : Notifier} {expression : Expression}
    (different : notifier.announced ≠ some expression.print) :
    notifier.evaluate expression = (some expression.print, notifier.adopt expression) := by
  rw [evaluate, if_neg different, adopt]

theorem evaluate_snd (notifier : Notifier) (expression : Expression) :
    (notifier.evaluate expression).2 = notifier.adopt expression := by
  by_cases same : notifier.announced = some expression.print
  · rw [evaluate_of_same same]
  · rw [evaluate_of_different same]

theorem evaluate_eq_none_iff (notifier : Notifier) (expression : Expression) :
    (notifier.evaluate expression).1 = none ↔ notifier.announced = some expression.print := by
  by_cases same : notifier.announced = some expression.print
  · simp [evaluate_of_same same, same]
  · simp [evaluate_of_different same, same]

@[simp] theorem state_adopt (notifier : Notifier) (expression : Expression) :
    (notifier.adopt expression).state = .idle := rfl

@[simp] theorem deadline_adopt (notifier : Notifier) (expression : Expression) :
    (notifier.adopt expression).deadline = none := rfl

@[simp] theorem announced_adopt (notifier : Notifier) (expression : Expression) :
    (notifier.adopt expression).announced = some expression.print := rfl

end Notifier

end MediaFilter
