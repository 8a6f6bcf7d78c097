import MediaFilter.Proofs.History
import MediaFilter.Proofs.Request.Tidiness
import MediaFilter.Table

/-!
Pages that are asked for at the same time.  Calls begin, are answered and come to their end in any
order.  The call that began last is the one whose answer counts; any other comes to nothing, even if
its answer was there before it learned that it was cancelled.
-/

namespace MediaFilter

def PageLoad.outcome (load : PageLoad) : Except Error Page → Loaded
  | .ok page => .page (Table.shown load.request page)
  | .error error => .failed error

def Loaded.isResult : Loaded → Bool
  | .superseded => false
  | _ => true

namespace Table

theorem finish_of_current {load : PageLoad} {table : Table}
    (current : table.slots.isCurrent load.ticket = true) (reply : Except Error Page) :
    table.finish load reply =
      (load.outcome reply, { table with slots := table.slots.finish load.ticket }) := by
  unfold finish
  rw [if_pos current]
  cases reply <;> rfl

theorem finish_of_stale {load : PageLoad} {table : Table}
    (stale : table.slots.isCurrent load.ticket = false) (reply : Except Error Page) :
    table.finish load reply = (.superseded, table) := by
  unfold finish
  rw [stale, if_neg Bool.false_ne_true]

theorem slots_finish (load : PageLoad) (reply : Except Error Page) (table : Table) :
    (table.finish load reply).2 =
      { table with slots := table.slots.finish load.ticket } := by
  cases current : table.slots.isCurrent load.ticket with
  | true => rw [finish_of_current current]
  | false =>
      have unchanged : table.slots.finish load.ticket = table.slots := by
        rw [RequestSlots.finish, current, if_neg Bool.false_ne_true]
      rw [finish_of_stale current, unchanged]

theorem request_eq_ok {context : QueryContext} {start : Nat} {table after : Table}
    {request : SearchRequest} (asked : table.request context start = .ok (request, after)) :
    context.entity = some request.entity ∧ request.start = start ∧
      request.draw = table.draws + 1 ∧ after = { table with draws := table.draws + 1 } := by
  unfold Table.request at asked
  cases chosen : context.entity with
  | none =>
      rw [chosen] at asked
      cases asked
  | some entity =>
      rw [chosen] at asked
      cases asked
      exact ⟨rfl, rfl, rfl, rfl⟩

theorem begin_eq_ok {context : QueryContext} {start : Nat} {table after : Table} {load : PageLoad}
    (begun : table.begin context start = .ok (load, after)) :
    context.entity = some load.request.entity ∧ load.request.start = start ∧
      load.request.draw = table.draws + 1 ∧ load.ticket = table.slots.nextTicket .tablePage ∧
      after = { table with draws := table.draws + 1, slots := table.slots.start .tablePage } := by
  unfold Table.begin at begun
  cases asked : table.request context start with
  | error error =>
      rw [asked] at begun
      cases begun
  | ok made =>
      obtain ⟨request, next⟩ := made
      rw [asked] at begun
      cases begun
      obtain ⟨entity, isStart, draw, rfl⟩ := request_eq_ok asked
      exact ⟨entity, isStart, draw, rfl, rfl⟩

/-- A call that has begun and not come to its end, with the answer if there is one. -/
structure Call where
  load : PageLoad
  reply? : Option (Except Error Page)

/-- A table with the calls that are under way. -/
structure Traffic where
  table : Table
  calls : List Call

inductive Act where
  | searched (text : String)
  | requested (request : SearchRequest)
  | refused (error : Error)
  | started (context : QueryContext) (start : Nat) (load : PageLoad)
  | answered (load : PageLoad) (reply : Except Error Page)
  | returned (load : PageLoad) (loaded : Loaded)

namespace Act

def begun? : Act → Option PageLoad
  | started _ _ load => some load
  | _ => none

def ended? : Act → Option PageLoad
  | returned load _ => some load
  | _ => none

def result? : Act → Option PageLoad
  | returned load loaded => if loaded.isResult then some load else none
  | _ => none

end Act

namespace Traffic

def tickets (traffic : Traffic) : List Ticket := traffic.calls.map fun call => call.load.ticket

inductive Step : Traffic → Act → Traffic → Prop
  | search (text : String) (traffic : Traffic) :
      Step traffic (.searched text) { traffic with table := traffic.table.setSearch text }
  | request {traffic : Traffic} {context : QueryContext} {start : Nat} {request : SearchRequest}
      {table : Table} (asked : traffic.table.request context start = .ok (request, table)) :
      Step traffic (.requested request) { traffic with table }
  | refuse {traffic : Traffic} {context : QueryContext} {start : Nat} {error : Error}
      (refused : traffic.table.begin context start = .error error) :
      Step traffic (.refused error) traffic
  | start {traffic : Traffic} {context : QueryContext} {start : Nat} {load : PageLoad}
      {table : Table} (begun : traffic.table.begin context start = .ok (load, table)) :
      Step traffic (.started context start load) ⟨table, ⟨load, none⟩ :: traffic.calls⟩
  | answer {traffic : Traffic} {earlier later : List Call} {load : PageLoad}
      (waits : traffic.calls = earlier ++ ⟨load, none⟩ :: later) (reply : Except Error Page) :
      Step traffic (.answered load reply)
        { traffic with calls := earlier ++ ⟨load, some reply⟩ :: later }
  /-- A call that learns of its cancellation does not look for an answer. -/
  | giveUp {traffic : Traffic} {earlier later : List Call} {call : Call}
      (under : traffic.calls = earlier ++ call :: later)
      (cancelled : traffic.table.slots.isCancelled call.load.ticket = true) :
      Step traffic (.returned call.load .superseded) { traffic with calls := earlier ++ later }
  | finish {traffic : Traffic} {earlier later : List Call} {load : PageLoad}
      {reply : Except Error Page}
      (under : traffic.calls = earlier ++ ⟨load, some reply⟩ :: later) :
      Step traffic (.returned load (traffic.table.finish load reply).1)
        ⟨(traffic.table.finish load reply).2, earlier ++ later⟩

/-- What can come about from a table of which no page is under way. -/
inductive Reaches (table : Table) : List Act → Traffic → Prop
  | idle (free : table.slots = .empty) : Reaches table [] ⟨table, []⟩
  | step {history : List Act} {before after : Traffic} {act : Act}
      (reached : Reaches table history before) (step : Step before act after) :
      Reaches table (history ++ [act]) after

end Traffic

def begun (history : List Act) : List PageLoad := history.filterMap Act.begun?

def ended (history : List Act) : List PageLoad := history.filterMap Act.ended?

def results (history : List Act) : List PageLoad := history.filterMap Act.result?

theorem begun_append (history : List Act) (act : Act) :
    begun (history ++ [act]) = begun history ++ act.begun?.toList := by
  rw [begun, List.filterMap_append]
  cases is : act.begun? <;> simp [begun, is]

theorem begun_of_split {history earlier later : List Act} {context : QueryContext} {start : Nat}
    {load : PageLoad} (split : history = earlier ++ .started context start load :: later) :
    begun history = begun earlier ++ load :: begun later := by
  rw [split, begun, List.filterMap_append, List.filterMap_cons]
  rfl

theorem ended_append (history : List Act) (act : Act) :
    ended (history ++ [act]) = ended history ++ act.ended?.toList := by
  rw [ended, List.filterMap_append]
  cases is : act.ended? <;> simp [ended, is]

theorem results_append (history : List Act) (act : Act) :
    results (history ++ [act]) = results history ++ act.result?.toList := by
  rw [results, List.filterMap_append]
  cases is : act.result? <;> simp [results, is]

def latest (history : List Act) (cls : RequestClass) : Option Ticket :=
  if cls = .tablePage then (begun history).getLast?.map PageLoad.ticket else none

theorem latest_of_begun {act : Act} (history : List Act) (none : act.begun? = none) :
    latest (history ++ [act]) = latest history := by
  funext cls
  rw [latest, begun_append, none, Option.toList_none, List.append_nil, ← latest]

theorem latest_of_started (history : List Act) (context : QueryContext) (start : Nat)
    (load : PageLoad) : latest (history ++ [.started context start load]) =
      fun cls => if cls = .tablePage then some load.ticket else latest history cls := by
  funext cls
  by_cases same : cls = .tablePage <;> simp [latest, begun_append, Act.begun?, same]

namespace Traffic

theorem mem_tickets {traffic : Traffic} {call : Call} (under : call ∈ traffic.calls) :
    call.load.ticket ∈ traffic.tickets := List.mem_map.2 ⟨call, under, rfl⟩

/-- What holds between two steps. -/
structure Accounted (history : List Act) (traffic : Traffic) : Prop where
  tidy : RequestSlots.Tidy (latest history) traffic.tickets traffic.table.slots
  ordered : (begun history).Pairwise fun first second =>
    first.ticket.mark < second.ticket.mark ∧ first.request.draw < second.request.draw
  issued : ∀ load ∈ begun history, load.ticket.cls = .tablePage ∧
    load.ticket.mark < traffic.table.slots.nextMark ∧ load.request.draw ≤ traffic.table.draws
  balanced : (begun history).Perm (traffic.calls.map Call.load ++ ended history)
  asked : ∀ context start load, .started context start load ∈ history →
    context.entity = some load.request.entity ∧ load.request.start = start
  heard : ∀ call ∈ traffic.calls, ∀ reply, call.reply? = some reply →
    ∀ earlier context start between,
      history = earlier ++ .started context start call.load :: between →
        .answered call.load reply ∈ between

variable {history : List Act} {before after : Traffic} {act : Act}

theorem Step.tidy (step : Step before act after)
    (tidy : RequestSlots.Tidy (latest history) before.tickets before.table.slots) :
    RequestSlots.Tidy (latest (history ++ [act])) after.tickets after.table.slots := by
  cases step with
  | search text =>
      rw [latest_of_begun history rfl]
      exact tidy
  | request asked =>
      rw [latest_of_begun history rfl, (request_eq_ok asked).2.2.2]
      exact tidy
  | refuse refused =>
      rw [latest_of_begun history rfl]
      exact tidy
  | start begun =>
      obtain ⟨_, _, _, ticket, rfl⟩ := begin_eq_ok begun
      rw [latest_of_started, tickets, List.map_cons, ticket]
      exact tidy.start .tablePage
  | answer waits reply =>
      rw [latest_of_begun history rfl]
      rw [tickets, waits] at tidy
      simpa [tickets] using tidy
  | @giveUp _ earlier later call under cancelled =>
      rw [latest_of_begun history rfl]
      have unheld : call.load.ticket ∉ before.table.slots.held := fun isHeld =>
        (tidy.held _ isHeld).2.1 (RequestSlots.isCancelled_iff.1 cancelled)
      rw [tickets, under, List.map_append, List.map_cons] at tidy
      have rest := (tidy.perm List.perm_middle).forget unheld
      rwa [← List.map_append] at rest
  | @finish _ earlier later load reply under =>
      rw [latest_of_begun history rfl, slots_finish]
      rw [tickets, under, List.map_append, List.map_cons] at tidy
      have rest := (tidy.perm List.perm_middle).finish
      rwa [← List.map_append] at rest

theorem Step.next_le (step : Step before act after) :
    before.table.slots.nextMark ≤ after.table.slots.nextMark ∧
      before.table.draws ≤ after.table.draws := by
  cases step with
  | search text => exact ⟨Nat.le_refl _, Nat.le_refl _⟩
  | request asked =>
      rw [(request_eq_ok asked).2.2.2]
      exact ⟨Nat.le_refl _, Nat.le_succ _⟩
  | refuse refused => exact ⟨Nat.le_refl _, Nat.le_refl _⟩
  | start begun =>
      obtain ⟨_, _, _, _, rfl⟩ := begin_eq_ok begun
      exact ⟨Nat.le_succ _, Nat.le_succ _⟩
  | answer waits reply => exact ⟨Nat.le_refl _, Nat.le_refl _⟩
  | giveUp under cancelled => exact ⟨Nat.le_refl _, Nat.le_refl _⟩
  | finish under =>
      rw [slots_finish, RequestSlots.finish]
      split <;> exact ⟨Nat.le_refl _, Nat.le_refl _⟩

theorem Step.fresh {load : PageLoad} (step : Step before act after)
    (isNew : act.begun? = some load) : load.ticket.cls = .tablePage ∧
      (load.ticket.mark = before.table.slots.nextMark ∧
        load.request.draw = before.table.draws + 1) ∧
      load.ticket.mark < after.table.slots.nextMark ∧ load.request.draw ≤ after.table.draws := by
  cases step <;> cases isNew
  case start begun =>
      obtain ⟨_, _, draw, ticket, rfl⟩ := begin_eq_ok begun
      rw [ticket, draw]
      exact ⟨rfl, ⟨rfl, rfl⟩, Nat.lt_succ_self _, Nat.le_refl _⟩

theorem Step.balanced (step : Step before act after)
    (balanced : (begun history).Perm (before.calls.map Call.load ++ ended history)) :
    (begun (history ++ [act])).Perm
      (after.calls.map Call.load ++ ended (history ++ [act])) := by
  have removed : ∀ {earlier later : List Call} {call : Call},
      before.calls = earlier ++ call :: later →
        (begun history).Perm
          ((earlier ++ later).map Call.load ++ (ended history ++ [call.load])) := by
    intro earlier later call under
    rw [under, List.map_append, List.map_cons, List.append_assoc, List.cons_append] at balanced
    rw [← List.append_assoc, List.map_append, List.append_assoc (earlier.map _)]
    exact balanced.trans (List.perm_middle.trans (List.perm_append_singleton _ _).symm)
  rw [begun_append, ended_append]
  cases step with
  | search text => simpa [Act.begun?, Act.ended?] using balanced
  | request asked => simpa [Act.begun?, Act.ended?] using balanced
  | refuse refused => simpa [Act.begun?, Act.ended?] using balanced
  | start begun =>
      simp only [Act.begun?, Act.ended?, Option.toList_some, Option.toList_none, List.append_nil,
        List.map_cons, List.cons_append]
      exact (List.perm_append_singleton _ _).trans (balanced.cons _)
  | answer waits reply =>
      rw [waits] at balanced
      simpa [Act.begun?, Act.ended?] using balanced
  | giveUp under cancelled =>
      simpa [Act.begun?, Act.ended?] using removed under
  | finish under =>
      simpa [Act.begun?, Act.ended?] using removed under

theorem Accounted.heard_step (accounted : Accounted history before) (step : Step before act after) :
    ∀ call ∈ after.calls, ∀ reply, call.reply? = some reply → ∀ earlier context start between,
      history ++ [act] = earlier ++ .started context start call.load :: between →
        .answered call.load reply ∈ between := by
  have known : ∀ call ∈ before.calls, call.load ∈ begun history := fun call under =>
    accounted.balanced.mem_iff.2 (List.mem_append_left _ (List.mem_map.2 ⟨call, under, rfl⟩))
  -- A call that was under way before cannot begin now.
  have still : ∀ call ∈ before.calls, ∀ reply, call.reply? = some reply →
      ∀ earlier context start between,
        history ++ [act] = earlier ++ .started context start call.load :: between →
          .answered call.load reply ∈ between := by
    intro call under reply replied earlier context start between split
    rcases append_singleton_eq_iff.1 split with ⟨_, rfl, _⟩ | ⟨front, rfl, whole⟩
    · have before := (accounted.issued _ (known call under)).2.1
      exact absurd (step.fresh rfl).2.1.1 (Nat.ne_of_lt before)
    · exact List.mem_append_left _
        (accounted.heard call under reply replied earlier context start front whole)
  cases step with
  | search text => exact still
  | request asked => exact still
  | refuse refused => exact still
  | start begun =>
      intro call under reply replied
      rcases List.mem_cons.1 under with rfl | under
      · cases replied
      · exact still call under reply replied
  | @answer _ earlier later load waits reply =>
      intro call under other replied
      rcases List.mem_append.1 under with under | under
      · exact still call (waits ▸ List.mem_append_left _ under) other replied
      · rcases List.mem_cons.1 under with rfl | under
        · cases replied
          intro earlier context start between split
          rcases append_singleton_eq_iff.1 split with ⟨_, isStart, _⟩ | ⟨front, rfl, _⟩
          · cases isStart
          · exact List.mem_append_right _ List.mem_cons_self
        · exact still call (waits ▸ List.mem_append_right _ (List.mem_cons_of_mem _ under)) other
            replied
  | giveUp under cancelled =>
      intro call member
      exact still call (under ▸ List.mem_append.2 ((List.mem_append.1 member).imp_right
        (List.mem_cons_of_mem _)))
  | finish under =>
      intro call member
      exact still call (under ▸ List.mem_append.2 ((List.mem_append.1 member).imp_right
        (List.mem_cons_of_mem _)))

theorem Accounted.step (accounted : Accounted history before) (step : Step before act after) :
    Accounted (history ++ [act]) after where
  tidy := step.tidy accounted.tidy
  ordered := by
    rw [begun_append]
    refine List.pairwise_append.2 ⟨accounted.ordered, ?_, fun first isFirst second isSecond => ?_⟩
    · cases act.begun? <;> simp
    · obtain ⟨_, ⟨mark, draw⟩, _⟩ := step.fresh (Option.mem_toList.1 isSecond)
      obtain ⟨_, marked, drawn⟩ := accounted.issued first isFirst
      rw [mark, draw]
      exact ⟨marked, Nat.lt_succ_of_le drawn⟩
  issued := by
    intro load member
    rw [begun_append] at member
    rcases List.mem_append.1 member with earlier | isNew
    · obtain ⟨cls, marked, drawn⟩ := accounted.issued load earlier
      exact ⟨cls, Nat.lt_of_lt_of_le marked step.next_le.1, Nat.le_trans drawn step.next_le.2⟩
    · obtain ⟨cls, _, bounds⟩ := step.fresh (Option.mem_toList.1 isNew)
      exact ⟨cls, bounds⟩
  balanced := step.balanced accounted.balanced
  asked := by
    intro context start load member
    rcases List.mem_append.1 member with earlier | now
    · exact accounted.asked context start load earlier
    · cases List.mem_singleton.1 now
      cases step with
      | start begun =>
          obtain ⟨entity, isStart, _⟩ := begin_eq_ok begun
          exact ⟨entity, isStart⟩
  heard := accounted.heard_step step

theorem Reaches.accounted {table : Table} {traffic : Traffic}
    (reached : Reaches table history traffic) : Accounted history traffic := by
  induction reached with
  | idle free =>
      have tidy := RequestSlots.tidy_empty
      rw [← free] at tidy
      refine ⟨?_, ?_, ?_, ?_, ?_, ?_⟩
      · have nothing : latest [] = fun _ => none := by
          funext cls
          simp [latest, begun]
        rw [nothing]
        exact tidy
      all_goals simp [begun, ended]
  | step _ step induction => exact induction.step step

namespace Accounted

variable {traffic : Traffic} {call : Call}

theorem begun_of_mem (accounted : Accounted history traffic) (under : call ∈ traffic.calls) :
    call.load ∈ begun history :=
  accounted.balanced.mem_iff.2 (List.mem_append_left _ (List.mem_map.2 ⟨call, under, rfl⟩))

theorem exists_start (accounted : Accounted history traffic) (under : call ∈ traffic.calls) :
    ∃ earlier context start later,
      history = earlier ++ .started context start call.load :: later := by
  obtain ⟨act, member, is⟩ := List.mem_filterMap.1 (accounted.begun_of_mem under)
  cases act <;> cases is
  case started context start =>
      obtain ⟨earlier, later, rfl⟩ := List.append_of_mem member
      exact ⟨earlier, context, start, later, rfl⟩

theorem isCurrent_iff (accounted : Accounted history traffic) (under : call ∈ traffic.calls)
    {earlier later : List Act} {context : QueryContext} {start : Nat}
    (split : history = earlier ++ .started context start call.load :: later) :
    traffic.table.slots.isCurrent call.load.ticket = true ↔ begun later = [] := by
  have cls := (accounted.issued _ (accounted.begun_of_mem under)).1
  have whole := begun_of_split split
  rw [accounted.tidy.isCurrent_iff (mem_tickets under), latest, if_pos cls, whole,
    List.getLast?_append, List.getLast?_cons, Option.some_or]
  cases last : (begun later).getLast? with
  | none => simp [List.getLast?_eq_none_iff.1 last]
  | some other =>
      have later : other ∈ begun later := List.mem_of_getLast? last
      have ordered := accounted.ordered
      rw [whole] at ordered
      have marks := (List.rel_of_pairwise_cons (List.pairwise_append.1 ordered).2.1 later).1
      refine iff_of_false (fun same => ?_) (List.ne_nil_of_mem later)
      have equal : other.ticket = call.load.ticket := Option.some.inj same
      rw [equal] at marks
      exact Nat.lt_irrefl _ marks

theorem isCancelled_eq (accounted : Accounted history traffic) (under : call ∈ traffic.calls) :
    traffic.table.slots.isCancelled call.load.ticket =
      !traffic.table.slots.isCurrent call.load.ticket := by
  have out := mem_tickets under
  by_cases isHeld : call.load.ticket ∈ traffic.table.slots.held
  · rw [accounted.tidy.isCurrent_of_held isHeld, Bool.not_true, Bool.eq_false_iff]
    exact fun cancelled => (accounted.tidy.held _ isHeld).2.1
      (RequestSlots.isCancelled_iff.1 cancelled)
  · have stale : traffic.table.slots.isCurrent call.load.ticket = false := by
      rw [Bool.eq_false_iff]
      exact fun current => isHeld (accounted.tidy.held_of_isCurrent out current)
    rw [stale]
    exact RequestSlots.isCancelled_iff.2 (accounted.tidy.stale _ out isHeld).1

/-- No call began after one that is current. -/
theorem draw_lt_of_isCurrent (accounted : Accounted history traffic)
    (under : call ∈ traffic.calls)
    (current : traffic.table.slots.isCurrent call.load.ticket = true) :
    ∀ load ∈ ended history, load.request.draw < call.load.request.draw := by
  intro load isEnded
  obtain ⟨earlier, context, start, later, split⟩ := accounted.exists_start under
  have alone := (accounted.isCurrent_iff under split).1 current
  have whole := begun_of_split split
  rw [alone] at whole
  have ordered := accounted.ordered
  have member : load ∈ begun history :=
    accounted.balanced.mem_iff.2 (List.mem_append_right _ isEnded)
  rw [whole] at ordered member
  rcases List.mem_append.1 member with before | isCall
  · exact ((List.pairwise_append.1 ordered).2.2 load before _ List.mem_cons_self).2
  · -- A call that came to its end is not under way.
    have distinct : (begun history).Nodup :=
      accounted.ordered.imp fun {first second} lower equal => by
        rw [equal] at lower
        exact Nat.lt_irrefl _ lower.1
    have apart := (List.nodup_append.1 (accounted.balanced.nodup_iff.1 distinct)).2.2
    exact absurd (List.mem_singleton.1 isCall).symm
      (apart call.load (List.mem_map.2 ⟨call, under, rfl⟩) load isEnded)

end Accounted

theorem Step.ends {load : PageLoad} {loaded : Loaded}
    (step : Step before (.returned load loaded) after) :
    ∃ call ∈ before.calls, call.load = load ∧
      (before.table.slots.isCurrent load.ticket = true →
        before.table.slots.isCancelled load.ticket = true ∨
          ∃ reply, call.reply? = some reply ∧ loaded = load.outcome reply) ∧
      (before.table.slots.isCurrent load.ticket = false → loaded = .superseded) := by
  cases step with
  | @giveUp _ earlier later call under cancelled =>
      have member : call ∈ before.calls := under ▸ List.mem_append_right _ List.mem_cons_self
      exact ⟨call, member, rfl, fun _ => .inl cancelled, fun _ => rfl⟩
  | @finish _ earlier later load reply under =>
      have member : ⟨load, some reply⟩ ∈ before.calls :=
        under ▸ List.mem_append_right _ List.mem_cons_self
      refine ⟨_, member, rfl, fun current => .inr ⟨reply, rfl, ?_⟩, fun stale => ?_⟩
      · rw [finish_of_current current]
      · rw [finish_of_stale stale]

theorem Reaches.returned {table : Table} {traffic : Traffic}
    (reached : Reaches table history traffic) : ∀ past later load loaded,
      history = past ++ .returned load loaded :: later →
      ∃ earlier context start between, past = earlier ++ .started context start load :: between ∧
        context.entity = some load.request.entity ∧ load.request.start = start ∧
        (begun between = [] →
          ∃ reply, .answered load reply ∈ between ∧ loaded = load.outcome reply) ∧
        (begun between ≠ [] → loaded = .superseded) := by
  induction reached with
  | idle free => simp
  | @step history before after act reached step induction =>
      intro past later load loaded split
      rcases append_singleton_eq_iff.1 split with ⟨rfl, rfl, _⟩ | ⟨front, _, whole⟩
      · have accounted := reached.accounted
        obtain ⟨call, under, rfl, answered, stale⟩ := step.ends
        obtain ⟨earlier, context, start, between, rfl⟩ := accounted.exists_start under
        obtain ⟨entity, isStart⟩ := accounted.asked context start call.load
          (List.mem_append_right _ List.mem_cons_self)
        have current := accounted.isCurrent_iff under rfl
        refine ⟨earlier, context, start, between, rfl, entity, isStart, fun alone => ?_,
          fun followed => stale (Bool.eq_false_iff.2 (mt current.1 followed))⟩
        rcases answered (current.2 alone) with cancelled | ⟨reply, replied, outcome⟩
        · rw [accounted.isCancelled_eq under, current.2 alone] at cancelled
          cases cancelled
        · exact ⟨reply, accounted.heard call under reply replied _ _ _ _ rfl, outcome⟩
      · exact induction past front load loaded whole

theorem mem_ended_of_results {load : PageLoad} (member : load ∈ results history) :
    load ∈ ended history := by
  obtain ⟨act, happened, is⟩ := List.mem_filterMap.1 member
  refine List.mem_filterMap.2 ⟨act, happened, ?_⟩
  cases act <;> simp_all [Act.result?, Act.ended?]

theorem Reaches.results_ordered {table : Table} {traffic : Traffic}
    (reached : Reaches table history traffic) : (results history).Pairwise fun first second =>
      first.request.draw < second.request.draw := by
  induction reached with
  | idle free => exact .nil
  | @step history before after act reached step induction =>
      rw [results_append]
      refine List.pairwise_append.2 ⟨induction, ?_, fun first isFirst second isSecond => ?_⟩
      · cases act.result? <;> simp
      · have isResult := Option.mem_toList.1 isSecond
        cases act <;> try cases isResult
        case returned load loaded =>
          obtain ⟨call, under, rfl, _, stale⟩ := step.ends
          cases current : before.table.slots.isCurrent call.load.ticket with
          | false =>
              rw [stale current] at isResult
              cases isResult
          | true =>
              have lower := reached.accounted.draw_lt_of_isCurrent under current first
                (mem_ended_of_results isFirst)
              cases loaded <;> cases isResult <;> exact lower

/-- Of the calls on one table, in any interleaving, those that were started are those that came to
their end and those that are under way.  One that came to its end brought back its own answer if
no other had begun in between, and nothing if one had; one under way will do just the same.  What
is brought back comes in the order of the draws. -/
theorem latest_page_wins {table : Table} {traffic : Traffic}
    (reached : Reaches table history traffic) :
    (begun history).Perm (traffic.calls.map Call.load ++ ended history) ∧
    (begun history).Pairwise (fun first second => first.request.draw < second.request.draw) ∧
    (∀ past later load loaded, history = past ++ .returned load loaded :: later →
      ∃ earlier context start between, past = earlier ++ .started context start load :: between ∧
        context.entity = some load.request.entity ∧
        (begun between = [] → ∃ reply, .answered load reply ∈ between ∧
          loaded = match reply with
            | .ok page =>
              .page ⟨load.request.draw, start, page, page.describe? load.request.entity⟩
            | .error error => .failed error) ∧
        (begun between ≠ [] → loaded = .superseded)) ∧
    (∀ call ∈ traffic.calls, ∃ earlier context start later,
      history = earlier ++ .started context start call.load :: later ∧
        (begun later = [] → ∀ reply,
          (traffic.table.finish call.load reply).1 = call.load.outcome reply) ∧
        (begun later ≠ [] → traffic.table.slots.isCancelled call.load.ticket = true ∧ ∀ reply,
          (traffic.table.finish call.load reply).1 = .superseded)) ∧
    (results history).Pairwise fun first second => first.request.draw < second.request.draw := by
  have accounted := reached.accounted
  refine ⟨accounted.balanced, accounted.ordered.imp fun lower => lower.2, ?_, ?_,
    reached.results_ordered⟩
  · intro past later load loaded split
    obtain ⟨earlier, context, start, between, before, entity, rfl, alone, followed⟩ :=
      reached.returned past later load loaded split
    refine ⟨earlier, context, _, between, before, entity, fun isAlone => ?_, followed⟩
    obtain ⟨reply, answered, rfl⟩ := alone isAlone
    refine ⟨reply, answered, ?_⟩
    cases reply <;> rfl
  · intro call under
    obtain ⟨earlier, context, start, later, split⟩ := accounted.exists_start under
    have current := accounted.isCurrent_iff under split
    refine ⟨earlier, context, start, later, split, fun alone reply => ?_, fun followed => ?_⟩
    · rw [finish_of_current (current.2 alone)]
    · have stale := Bool.eq_false_iff.2 (mt current.1 followed)
      refine ⟨by rw [accounted.isCancelled_eq under, stale]; rfl, fun reply => ?_⟩
      rw [finish_of_stale stale]

def animeContext : QueryContext := ⟨some .anime, "", .empty⟩

def slowLoad : PageLoad := ⟨⟨.tablePage, 1, 0⟩, ⟨1, 0, 100, [], [], .empty, "", .anime⟩⟩

def overtakingLoad : PageLoad := ⟨⟨.tablePage, 2, 1⟩, ⟨2, 100, 100, [], [], .empty, "", .anime⟩⟩

/-- The answer to the first call is an error, and it is there before the second call is answered. -/
def overtaken : List Act :=
  [.started animeContext 0 slowLoad, .started animeContext 100 overtakingLoad,
    .answered slowLoad (.error .noEntity), .answered overtakingLoad (.ok .empty),
    .returned overtakingLoad (overtakingLoad.outcome (.ok .empty)), .returned slowLoad .superseded]

theorem latest_page_wins_of_overtaken : ∃ traffic : Traffic,
    Reaches .initial overtaken traffic ∧ traffic.calls = [] ∧
      (begun overtaken).Perm (ended overtaken) ∧ results overtaken = [overtakingLoad] := by
  have started : Reaches .initial
      [.started animeContext 0 slowLoad, .started animeContext 100 overtakingLoad]
      ⟨_, [⟨overtakingLoad, none⟩, ⟨slowLoad, none⟩]⟩ :=
    .step (.step (.idle rfl) (.start rfl)) (.start rfl)
  have failed := started.step
    (@Step.answer _ [⟨overtakingLoad, none⟩] [] slowLoad rfl (.error .noEntity))
  have answered := failed.step
    (@Step.answer _ [] [⟨slowLoad, some (.error .noEntity)⟩] overtakingLoad rfl (.ok .empty))
  have reached := (answered.step (.finish (List.nil_append _).symm)).step
    (.finish (List.nil_append _).symm)
  exact ⟨_, reached, rfl, (latest_page_wins reached).1, rfl⟩

end Traffic

end Table

end MediaFilter
