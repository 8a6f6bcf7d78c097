import MediaFilter.Backend.Call
import MediaFilter.Session.Completion

/-!
A script for a backend: the replies it gives, each after a delay.  Replies of one kind are given in
the order of the script, and the last one over and over; lookups are answered by what is looked up.
-/

namespace MediaFilter

structure Scripted (α : Type) where
  delay : Nat
  reply : Except Error α

structure Script where
  choices : List (Scripted Choices)
  userLists : List (Scripted UserListReply)
  pages : List (Scripted Page)
  suggestions : List (String × Scripted (List WhitelistEntry))

namespace Script

def empty : Script := ⟨[], [], [], []⟩

def prompt (value : α) : Scripted α := ⟨0, .ok value⟩

/-- The next reply, or a usual one without a script, and the script that is left. -/
def next (usual : α) : List (Scripted α) → Scripted α × List (Scripted α)
  | [] => (prompt usual, [])
  | [last] => (last, [last])
  | first :: rest => (first, rest)

def nextChoices (script : Script) : Scripted Choices × Script :=
  let (reply, rest) := next .empty script.choices
  (reply, { script with choices := rest })

def nextUserLists (script : Script) : Scripted UserListReply × Script :=
  let (reply, rest) := next ⟨[], [], []⟩ script.userLists
  (reply, { script with userLists := rest })

def nextPage (script : Script) : Scripted Page × Script :=
  let (reply, rest) := next .empty script.pages
  (reply, { script with pages := rest })

def suggestionsFor (query : String) (script : Script) : Scripted (List WhitelistEntry) :=
  ((script.suggestions.find? fun entry => entry.1 == query).map Prod.snd).getD (prompt [])

/-- The reply to a call of a session, as it will come back to it.  A session asks for no pages. -/
def answer (ticket : Ticket) (call : BackendCall) (script : Script) :
    Option (Nat × Completion) × Script :=
  match call with
  | .choices _ =>
    let (reply, script) := script.nextChoices
    (some (reply.delay, .choices ticket reply.reply), script)
  | .userLists _ _ _ =>
    let (reply, script) := script.nextUserLists
    (some (reply.delay, .userLists ticket reply.reply), script)
  | .suggestions _ query =>
    match ticket.cls with
    | .typeahead filter =>
      let reply := script.suggestionsFor query
      (some (reply.delay, .suggestions filter ticket reply.reply), script)
    | _ => (none, script)
  | .page _ => (none, script)

end Script

end MediaFilter
