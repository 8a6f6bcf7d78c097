import MediaFilter.Request.Slots

/-!
Tickets that are out, with the slots that they were given out by.  A ticket holds its slot from its
beginning until it is finished or given up, and a ticket that no longer holds its slot while it is
out was cancelled.  So a ticket that is out is current just if it is the latest of its class, even
though the generations of a slot start anew whenever the slot is empty.
-/

namespace MediaFilter.RequestSlots

def giveUp (gone : RequestClass → Bool) (slots : RequestSlots) : RequestSlots :=
  { slots with
    held := slots.held.filter fun ticket => !gone ticket.cls
    cancelled :=
      (slots.held.filter fun ticket => gone ticket.cls).map Ticket.mark ++ slots.cancelled }

theorem cancel_eq (cls : RequestClass) (slots : RequestSlots) :
    slots.cancel cls = slots.giveUp fun other => other == cls := rfl

theorem cancelAll_eq (slots : RequestSlots) :
    slots.cancelAll = slots.giveUp fun _ => true := by
  have all : slots.held.filter (fun _ => true) = slots.held :=
    List.filter_eq_self.2 fun _ _ => rfl
  have none : slots.held.filter (fun _ => !true) = [] :=
    List.filter_eq_nil_iff.2 fun _ _ => Bool.false_ne_true
  rw [giveUp, all, none, cancelAll]

theorem giveUp_of_unheld {gone : RequestClass → Bool} {slots : RequestSlots}
    (unheld : ∀ ticket ∈ slots.held, gone ticket.cls = false) : slots.giveUp gone = slots := by
  have all : slots.held.filter (fun ticket => !gone ticket.cls) = slots.held :=
    List.filter_eq_self.2 fun ticket member => by rw [unheld ticket member]; rfl
  have none : slots.held.filter (fun ticket => gone ticket.cls) = [] :=
    List.filter_eq_nil_iff.2 fun ticket member => by rw [unheld ticket member]; decide
  rw [giveUp, all, none]
  rfl

theorem mem_giveUp {gone : RequestClass → Bool} {slots : RequestSlots} {ticket : Ticket} :
    ticket ∈ (slots.giveUp gone).held ↔ ticket ∈ slots.held ∧ gone ticket.cls = false := by
  simp [giveUp]

theorem isCancelled_iff {slots : RequestSlots} {ticket : Ticket} :
    slots.isCancelled ticket = true ↔ ticket.mark ∈ slots.cancelled := by
  rw [isCancelled, List.contains_iff_mem]

/-- The tickets that are out, and the latest of each class unless it was given up. -/
structure Tidy (latest : RequestClass → Option Ticket) (tickets : List Ticket)
    (slots : RequestSlots) : Prop where
  nodup : tickets.Nodup
  marked : ∀ first ∈ tickets, ∀ second ∈ tickets, first.mark = second.mark → first = second
  issued : ∀ ticket ∈ tickets, ticket.mark < slots.nextMark
  spent : ∀ mark ∈ slots.cancelled, mark < slots.nextMark
  single : (slots.held.map Ticket.cls).Nodup
  held : ∀ ticket ∈ slots.held, ticket ∈ tickets ∧ ticket.mark ∉ slots.cancelled ∧
    latest ticket.cls = some ticket
  stale : ∀ ticket ∈ tickets, ticket ∉ slots.held → ticket.mark ∈ slots.cancelled ∧
    latest ticket.cls ≠ some ticket

theorem tidy_empty : Tidy (fun _ => none) [] empty := by
  constructor <;> simp [empty]

theorem holder?_of_mem {slots : RequestSlots} (single : (slots.held.map Ticket.cls).Nodup)
    {ticket : Ticket} (member : ticket ∈ slots.held) : slots.holder? ticket.cls = some ticket := by
  unfold holder?
  generalize slots.held = tickets at single member
  induction tickets with
  | nil => cases member
  | cons first tickets induction =>
      obtain ⟨fresh, single⟩ := List.nodup_cons.1 single
      rcases List.mem_cons.1 member with rfl | later
      · simp
      · have different : first.cls ≠ ticket.cls := by
          intro equal
          exact fresh (List.mem_map.2 ⟨ticket, later, equal.symm⟩)
        rw [List.find?_cons_of_neg (by simpa using different)]
        exact induction single later

section

variable {latest : RequestClass → Option Ticket} {tickets : List Ticket} {slots : RequestSlots}

theorem Tidy.eq_of_cls (tidy : Tidy latest tickets slots) {first second : Ticket}
    (firstHeld : first ∈ slots.held) (secondHeld : second ∈ slots.held)
    (same : first.cls = second.cls) : first = second := by
  have found := holder?_of_mem tidy.single firstHeld
  rw [same, holder?_of_mem tidy.single secondHeld] at found
  exact (Option.some.inj found).symm

theorem Tidy.isCurrent_of_held (tidy : Tidy latest tickets slots) {ticket : Ticket}
    (isHeld : ticket ∈ slots.held) : slots.isCurrent ticket = true := by
  have kept : slots.isCancelled ticket = false := by
    rw [Bool.eq_false_iff]
    exact fun cancelled => (tidy.held ticket isHeld).2.1 (isCancelled_iff.1 cancelled)
  rw [isCurrent, kept, holder?_of_mem tidy.single isHeld]
  simp

theorem Tidy.held_of_isCurrent (tidy : Tidy latest tickets slots) {ticket : Ticket}
    (out : ticket ∈ tickets) (current : slots.isCurrent ticket = true) : ticket ∈ slots.held := by
  apply Decidable.byContradiction
  intro unheld
  have cancelled := isCancelled_iff.2 (tidy.stale ticket out unheld).1
  rw [isCurrent, cancelled] at current
  cases current

/-- A ticket that is out is current just if it is the latest of its class. -/
theorem Tidy.isCurrent_iff (tidy : Tidy latest tickets slots) {ticket : Ticket}
    (out : ticket ∈ tickets) :
    slots.isCurrent ticket = true ↔ latest ticket.cls = some ticket := by
  constructor
  · intro current
    exact (tidy.held ticket (tidy.held_of_isCurrent out current)).2.2
  · intro isLatest
    refine tidy.isCurrent_of_held (Decidable.byContradiction fun unheld => ?_)
    exact (tidy.stale ticket out unheld).2 isLatest

theorem Tidy.perm (tidy : Tidy latest tickets slots) {others : List Ticket}
    (perm : tickets.Perm others) : Tidy latest others slots := by
  refine ⟨perm.nodup_iff.1 tidy.nodup, ?_, ?_, tidy.spent, tidy.single, ?_, ?_⟩
  · intro first isFirst second isSecond
    exact tidy.marked first (perm.mem_iff.2 isFirst) second (perm.mem_iff.2 isSecond)
  · intro ticket out
    exact tidy.issued ticket (perm.mem_iff.2 out)
  · intro ticket isHeld
    obtain ⟨out, rest⟩ := tidy.held ticket isHeld
    exact ⟨perm.mem_iff.1 out, rest⟩
  · intro ticket out
    exact tidy.stale ticket (perm.mem_iff.2 out)

theorem Tidy.giveUp (tidy : Tidy latest tickets slots) (gone : RequestClass → Bool) :
    Tidy (fun cls => if gone cls then none else latest cls) tickets (slots.giveUp gone) := by
  have cancelled : ∀ {mark : Nat}, mark ∈ (slots.giveUp gone).cancelled →
      (∃ ticket ∈ slots.held, gone ticket.cls = true ∧ ticket.mark = mark) ∨
        mark ∈ slots.cancelled := by
    intro mark member
    rcases List.mem_append.1 member with given | before
    · obtain ⟨ticket, isGone, marked⟩ := List.mem_map.1 given
      obtain ⟨isHeld, gives⟩ := List.mem_filter.1 isGone
      exact .inl ⟨ticket, isHeld, gives, marked⟩
    · exact .inr before
  refine ⟨tidy.nodup, tidy.marked, tidy.issued, ?_, ?_, ?_, ?_⟩
  · intro mark member
    rcases cancelled member with ⟨ticket, isHeld, _, rfl⟩ | before
    · exact tidy.issued ticket (tidy.held ticket isHeld).1
    · exact tidy.spent mark before
  · exact List.Nodup.sublist (List.filter_sublist.map Ticket.cls) tidy.single
  · intro ticket member
    obtain ⟨isHeld, stays⟩ := mem_giveUp.1 member
    obtain ⟨out, kept, isLatest⟩ := tidy.held ticket isHeld
    refine ⟨out, ?_, by rw [stays]; exact isLatest⟩
    intro member
    rcases cancelled member with ⟨other, otherHeld, isGone, same⟩ | before
    · have equal := tidy.marked other (tidy.held other otherHeld).1 ticket out same
      rw [equal, stays] at isGone
      cases isGone
    · exact kept before
  · intro ticket out unheld
    by_cases isHeld : ticket ∈ slots.held
    · have isGone : gone ticket.cls = true := by
        rw [← Bool.not_eq_false]
        exact fun stays => unheld (mem_giveUp.2 ⟨isHeld, stays⟩)
      refine ⟨List.mem_append_left _ (List.mem_map.2 ⟨ticket, List.mem_filter.2
        ⟨isHeld, isGone⟩, rfl⟩), ?_⟩
      rw [isGone]
      exact fun equal => nomatch equal
    · obtain ⟨was, different⟩ := tidy.stale ticket out isHeld
      refine ⟨List.mem_append_right _ was, ?_⟩
      split
      · exact fun equal => nomatch equal
      · exact different

theorem Tidy.start (tidy : Tidy latest tickets slots) (cls : RequestClass) :
    Tidy (fun other => if other = cls then some (slots.nextTicket cls) else latest other)
      (slots.nextTicket cls :: tickets) (slots.start cls) := by
  have rest := tidy.giveUp fun other => other == cls
  have fresh : ∀ ticket ∈ tickets, ticket.mark ≠ slots.nextMark := fun ticket out =>
    Nat.ne_of_lt (tidy.issued ticket out)
  have unheld : ∀ ticket ∈ (slots.giveUp fun other => other == cls).held, ticket.cls ≠ cls := by
    intro ticket member
    simpa using (mem_giveUp.1 member).2
  refine ⟨?_, ?_, ?_, ?_, ?_, ?_, ?_⟩
  · refine List.nodup_cons.2 ⟨?_, tidy.nodup⟩
    exact fun out => fresh _ out rfl
  · intro first isFirst second isSecond same
    rcases List.mem_cons.1 isFirst with rfl | firstOut <;>
      rcases List.mem_cons.1 isSecond with rfl | secondOut
    · rfl
    · exact absurd same.symm (fresh second secondOut)
    · exact absurd same (fresh first firstOut)
    · exact tidy.marked first firstOut second secondOut same
  · intro ticket out
    rcases List.mem_cons.1 out with rfl | before
    · exact Nat.lt_succ_self _
    · exact Nat.lt_succ_of_lt (tidy.issued ticket before)
  · intro mark member
    exact Nat.lt_succ_of_lt (rest.spent mark member)
  · refine List.nodup_cons.2 ⟨?_, rest.single⟩
    intro member
    obtain ⟨ticket, isHeld, same⟩ := List.mem_map.1 member
    exact unheld ticket isHeld same
  · intro ticket member
    rcases List.mem_cons.1 member with rfl | isHeld
    · refine ⟨List.mem_cons_self, ?_, if_pos rfl⟩
      exact fun cancelled => Nat.lt_irrefl _ (rest.spent _ cancelled)
    · obtain ⟨out, kept, isLatest⟩ := rest.held ticket isHeld
      have other := unheld ticket isHeld
      refine ⟨List.mem_cons_of_mem _ out, kept, ?_⟩
      rw [if_neg (by simpa using other)] at isLatest
      rw [if_neg other]
      exact isLatest
  · intro ticket member unheldNow
    rcases List.mem_cons.1 member with rfl | out
    · exact absurd List.mem_cons_self unheldNow
    · obtain ⟨cancelled, different⟩ := rest.stale ticket out fun isHeld =>
        unheldNow (List.mem_cons_of_mem _ isHeld)
      refine ⟨cancelled, ?_⟩
      by_cases same : ticket.cls = cls
      · rw [if_pos same]
        intro equal
        exact fresh ticket out (congrArg Ticket.mark (Option.some.inj equal)).symm
      · rw [if_neg (by simpa using same)] at different
        rw [if_neg same]
        exact different

theorem Tidy.forget {ticket : Ticket} (tidy : Tidy latest (ticket :: tickets) slots)
    (unheld : ticket ∉ slots.held) : Tidy latest tickets slots := by
  refine ⟨(List.nodup_cons.1 tidy.nodup).2, ?_, ?_, tidy.spent, tidy.single, ?_, ?_⟩
  · intro first isFirst second isSecond
    exact tidy.marked first (List.mem_cons_of_mem _ isFirst) second
      (List.mem_cons_of_mem _ isSecond)
  · intro other out
    exact tidy.issued other (List.mem_cons_of_mem _ out)
  · intro other isHeld
    obtain ⟨out, rest⟩ := tidy.held other isHeld
    rcases List.mem_cons.1 out with rfl | out
    · exact absurd isHeld unheld
    · exact ⟨out, rest⟩
  · intro other out
    exact tidy.stale other (List.mem_cons_of_mem _ out)

theorem Tidy.finish {ticket : Ticket} (tidy : Tidy latest (ticket :: tickets) slots) :
    Tidy latest tickets (slots.finish ticket) := by
  unfold RequestSlots.finish
  split
  · rename_i current
    have isHeld := tidy.held_of_isCurrent List.mem_cons_self current
    obtain ⟨fresh, nodup⟩ := List.nodup_cons.1 tidy.nodup
    have released : ∀ {other : Ticket}, other ∈ (slots.release ticket.cls).held ↔
        other ∈ slots.held ∧ other.cls ≠ ticket.cls := by
      intro other
      simp [release]
    refine ⟨nodup, ?_, ?_, tidy.spent, ?_, ?_, ?_⟩
    · intro first isFirst second isSecond
      exact tidy.marked first (List.mem_cons_of_mem _ isFirst) second
        (List.mem_cons_of_mem _ isSecond)
    · intro other out
      exact tidy.issued other (List.mem_cons_of_mem _ out)
    · exact List.Nodup.sublist (List.filter_sublist.map Ticket.cls) tidy.single
    · intro other member
      obtain ⟨otherHeld, different⟩ := released.1 member
      obtain ⟨out, rest⟩ := tidy.held other otherHeld
      rcases List.mem_cons.1 out with rfl | out
      · exact absurd rfl different
      · exact ⟨out, rest⟩
    · intro other out gone
      refine tidy.stale other (List.mem_cons_of_mem _ out) fun otherHeld => ?_
      by_cases same : other.cls = ticket.cls
      · -- Only the finished ticket held the slot, and no other ticket that is out equals it.
        have equal := tidy.eq_of_cls otherHeld isHeld same
        exact fresh (equal ▸ out)
      · exact gone (released.2 ⟨otherHeld, same⟩)
  · rename_i passed
    exact tidy.forget fun isHeld => passed (tidy.isCurrent_of_held isHeld)

end

inductive Begun : RequestSlots → List Ticket → RequestSlots → Prop
  | nothing (slots : RequestSlots) : Begun slots [] slots
  | start {slots after : RequestSlots} {tickets : List Ticket} (cls : RequestClass)
      (begun : Begun (slots.start cls) tickets after) :
      Begun slots (slots.nextTicket cls :: tickets) after

theorem Begun.append {before middle after : RequestSlots} {tickets others : List Ticket}
    (first : Begun before tickets middle) (second : Begun middle others after) :
    Begun before (tickets ++ others) after := by
  induction first with
  | nothing slots => exact second
  | start cls _ induction => exact .start cls (induction second)

def lastOf? (cls : RequestClass) (tickets : List Ticket) : Option Ticket :=
  (tickets.filter fun ticket => ticket.cls == cls).getLast?

theorem lastOf?_cons (cls : RequestClass) (ticket : Ticket) (tickets : List Ticket) :
    lastOf? cls (ticket :: tickets) =
      (lastOf? cls tickets).or (if cls = ticket.cls then some ticket else none) := by
  unfold lastOf?
  by_cases same : cls = ticket.cls
  · rw [List.filter_cons_of_pos (by simp [same]), if_pos same, List.getLast?_cons]
    cases (tickets.filter fun ticket => ticket.cls == cls).getLast? <;> rfl
  · rw [List.filter_cons_of_neg (by simpa using Ne.symm same), if_neg same, Option.or_none]

theorem Tidy.begun {latest : RequestClass → Option Ticket} {tickets others : List Ticket}
    {before after : RequestSlots} (tidy : Tidy latest tickets before)
    (begun : Begun before others after) :
    Tidy (fun cls => (lastOf? cls others).or (latest cls)) (tickets ++ others) after := by
  induction begun generalizing latest tickets with
  | nothing slots =>
      rw [List.append_nil]
      exact tidy
  | @start slots after others cls _ induction =>
      have next := induction (tidy.start cls)
      have same : (fun other => (lastOf? other others).or
          (if other = cls then some (slots.nextTicket cls) else latest other)) =
            fun other => (lastOf? other (slots.nextTicket cls :: others)).or (latest other) := by
        have own : (slots.nextTicket cls).cls = cls := rfl
        funext other
        rw [lastOf?_cons, Option.or_assoc, own]
        by_cases isNew : other = cls
        · rw [if_pos isNew, if_pos isNew]
          rfl
        · rw [if_neg isNew, if_neg isNew]
          rfl
      rw [same] at next
      exact next.perm List.perm_middle.symm

end MediaFilter.RequestSlots
