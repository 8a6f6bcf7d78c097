import MediaFilter.Session.Command
import MediaFilter.Session.Completion

/-!
A session over time.  Commands, replies and deadlines come in any order, and in between the store
may begin or cease to fail.
-/

namespace MediaFilter

inductive Input where
  | command (now : Nat) (command : Command)
  | completion (completion : Completion)
  | deadline
  | snapshot
  /-- From now on the store fails, or not, to load and to save. -/
  | fault (load save : Option String)

namespace Session

def setFaults (load save : Option String) (session : Session) : Session :=
  { session with store := { session.store with loadFault := load, saveFault := save } }

def respond (input : Input) (session : Session) : Acted Session :=
  match input with
  | .command now command => (session.handle now command).map Prod.fst
  | .completion completion => session.complete completion
  | .deadline => session.onDeadline
  | .snapshot => .still session
  | .fault load save => .still (session.setFaults load save)

def run : List Input → Session → Acted Session
  | [], session => .still session
  | input :: inputs, session => (session.respond input).andThen (run inputs)

end Session

end MediaFilter
