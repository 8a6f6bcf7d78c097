import MediaFilter.Proofs.History
import MediaFilter.Proofs.Request.Tidiness

/-!
Whose slot a ticket speaks for, after any use of the slots.  A slot that is finished is emptied
while its ticket stays valid, and the next ticket of the class is counted from one again.  So a
ticket that was let go in this way is taken for a later holder of its number; a ticket that is
handed in once, as the latest of its class, speaks only for itself.
-/

namespace MediaFilter.RequestSlots

inductive Deed where
  | begun (ticket : Ticket)
  | handedIn (ticket : Ticket) (accepted : Bool)
  | cancelled (cls : RequestClass)
  | cancelledAll
  deriving DecidableEq, Repr

namespace Deed

/-- Whether the holder of a class loses its slot and is cancelled. -/
def givesUp (cls : RequestClass) : Deed → Bool
  | begun ticket => cls == ticket.cls
  | handedIn _ _ => false
  | cancelled other => cls == other
  | cancelledAll => true

/-- Whether the holder of a class loses its slot and is not cancelled. -/
def empties (cls : RequestClass) : Deed → Bool
  | handedIn ticket accepted => accepted && cls == ticket.cls
  | _ => false

theorem givesUp_of_empties {cls : RequestClass} {deed : Deed} (empties : deed.empties cls = true) :
    deed.givesUp cls = false := by
  cases deed <;> first | rfl | cases empties

def ends (cls : RequestClass) (deed : Deed) : Bool :=
  deed.givesUp cls || deed.empties cls

def handedIn? : Deed → Option Ticket
  | handedIn ticket _ => some ticket
  | _ => none

/-- Whether a ticket is no longer the latest of its class, or was handed in or cancelled. -/
def outdates (ticket : Ticket) (deed : Deed) : Bool :=
  deed.givesUp ticket.cls || deed.handedIn? == some ticket

end Deed

inductive Step : RequestSlots → Deed → RequestSlots → Prop
  | start (cls : RequestClass) (slots : RequestSlots) :
      Step slots (.begun (slots.nextTicket cls)) (slots.start cls)
  | finish (ticket : Ticket) (slots : RequestSlots) :
      Step slots (.handedIn ticket (slots.isCurrent ticket)) (slots.finish ticket)
  | cancel (cls : RequestClass) (slots : RequestSlots) :
      Step slots (.cancelled cls) (slots.cancel cls)
  | cancelAll (slots : RequestSlots) : Step slots .cancelledAll slots.cancelAll

/-- Any use of slots that were empty, with any ticket handed in that was given out, at any time and
as often as one likes. -/
inductive Uses : List Deed → RequestSlots → Prop
  | nothing : Uses [] empty
  | step {history : List Deed} {before after : RequestSlots} {deed : Deed}
      (uses : Uses history before) (step : Step before deed after)
      (issued : ∀ ticket, deed.handedIn? = some ticket → .begun ticket ∈ history) :
      Uses (history ++ [deed]) after

/-- The ticket was begun, and its slot was neither emptied nor given to another since. -/
def Holds (history : List Deed) (ticket : Ticket) : Prop :=
  Lasts (Deed.ends ticket.cls) history (.begun ticket)

/-- The ticket was begun, and since no other of its class was; it was neither handed in nor
cancelled. -/
def Stands (history : List Deed) (ticket : Ticket) : Prop :=
  Lasts (Deed.outdates ticket) history (.begun ticket)

/-- The slot of the ticket was emptied, and the ticket was not cancelled. -/
def Loose (history : List Deed) (ticket : Ticket) : Prop :=
  ∃ earlier deed later, history = earlier ++ deed :: later ∧ Holds earlier ticket ∧
    deed.empties ticket.cls = true

theorem holds_append {history : List Deed} {deed : Deed} {ticket : Ticket} :
    Holds (history ++ [deed]) ticket ↔
      .begun ticket = deed ∨ (Holds history ticket ∧ deed.ends ticket.cls = false) :=
  lasts_append

theorem stands_append {history : List Deed} {deed : Deed} {ticket : Ticket} :
    Stands (history ++ [deed]) ticket ↔
      .begun ticket = deed ∨ (Stands history ticket ∧ deed.outdates ticket = false) :=
  lasts_append

theorem loose_append {history : List Deed} {deed : Deed} {ticket : Ticket} :
    Loose (history ++ [deed]) ticket ↔
      Loose history ticket ∨ (Holds history ticket ∧ deed.empties ticket.cls = true) := by
  constructor
  · intro ⟨earlier, other, later, whole, holds, empties⟩
    rcases append_singleton_eq_iff.1 whole with ⟨rfl, rfl, _⟩ | ⟨front, _, split⟩
    · exact .inr ⟨holds, empties⟩
    · exact .inl ⟨earlier, other, front, split, holds, empties⟩
  · rintro (⟨earlier, other, later, rfl, holds, empties⟩ | ⟨holds, empties⟩)
    · exact ⟨earlier, other, later ++ [deed], by simp, holds, empties⟩
    · exact ⟨history, deed, [], rfl, holds, empties⟩

theorem Loose.begun {history : List Deed} {ticket : Ticket} (loose : Loose history ticket) :
    .begun ticket ∈ history := by
  obtain ⟨earlier, deed, later, rfl, holds, _⟩ := loose
  exact List.mem_append_left _ holds.mem

namespace Step

variable {before after : RequestSlots} {deed : Deed}

theorem mem_held (step : Step before deed after) {ticket : Ticket} :
    ticket ∈ after.held ↔
      .begun ticket = deed ∨ (ticket ∈ before.held ∧ deed.ends ticket.cls = false) := by
  cases step with
  | start cls =>
      simp [RequestSlots.start, RequestSlots.cancel, release, Deed.ends, Deed.givesUp,
        Deed.empties, nextTicket]
  | finish other =>
      cases current : before.isCurrent other <;>
        simp [RequestSlots.finish, current, release, Deed.ends, Deed.givesUp, Deed.empties]
  | cancel cls => simp [RequestSlots.cancel, release, Deed.ends, Deed.givesUp, Deed.empties]
  | cancelAll => simp [RequestSlots.cancelAll, Deed.ends, Deed.givesUp]

theorem mem_cancelled (step : Step before deed after) {mark : Nat} :
    mark ∈ after.cancelled ↔ mark ∈ before.cancelled ∨
      ∃ ticket ∈ before.held, deed.givesUp ticket.cls = true ∧ ticket.mark = mark := by
  cases step with
  | start cls =>
      simp [RequestSlots.start, RequestSlots.cancel, Deed.givesUp, nextTicket, and_assoc, or_comm]
  | finish other =>
      cases current : before.isCurrent other <;>
        simp [RequestSlots.finish, current, release, Deed.givesUp]
  | cancel cls => simp [RequestSlots.cancel, Deed.givesUp, and_assoc, or_comm]
  | cancelAll => simp [RequestSlots.cancelAll, Deed.givesUp, or_comm]

theorem single (step : Step before deed after) (single : (before.held.map Ticket.cls).Nodup) :
    (after.held.map Ticket.cls).Nodup := by
  have filtered : ∀ keeps : Ticket → Bool, ((before.held.filter keeps).map Ticket.cls).Nodup :=
    fun keeps => List.Nodup.sublist (List.filter_sublist.map Ticket.cls) single
  cases step with
  | start cls =>
      refine List.nodup_cons.2 ⟨fun member => ?_, filtered _⟩
      obtain ⟨ticket, isHeld, same⟩ := List.mem_map.1 member
      have other : ticket.cls ≠ cls := by simpa using (List.mem_filter.1 isHeld).2
      exact other same
  | finish ticket =>
      unfold RequestSlots.finish
      split
      · exact filtered _
      · exact single
  | cancel cls => exact filtered _
  | cancelAll => exact List.nodup_nil

theorem nextMark_le (step : Step before deed after) : before.nextMark ≤ after.nextMark := by
  cases step with
  | start cls => exact Nat.le_succ _
  | finish ticket =>
      unfold RequestSlots.finish
      split <;> exact Nat.le_refl _
  | cancel cls => exact Nat.le_refl _
  | cancelAll => exact Nat.le_refl _

theorem begun {ticket : Ticket} (step : Step before (.begun ticket) after) :
    ticket.mark = before.nextMark ∧ ticket.mark < after.nextMark := by
  cases step
  exact ⟨rfl, Nat.lt_succ_self _⟩

end Step

structure Ledger (history : List Deed) (slots : RequestSlots) : Prop where
  single : (slots.held.map Ticket.cls).Nodup
  marked : ∀ first second, .begun first ∈ history → .begun second ∈ history →
    first.mark = second.mark → first = second
  issued : ∀ ticket, .begun ticket ∈ history → ticket.mark < slots.nextMark
  spent : ∀ mark ∈ slots.cancelled, mark < slots.nextMark
  held : ∀ ticket, ticket ∈ slots.held ↔ Holds history ticket
  valid : ∀ ticket, .begun ticket ∈ history →
    (ticket.mark ∉ slots.cancelled ↔ Holds history ticket ∨ Loose history ticket)
  apart : ∀ ticket, Loose history ticket → ¬ Holds history ticket

theorem ledger_empty : Ledger [] empty where
  single := List.nodup_nil
  marked := by simp
  issued := by simp
  spent := by simp [empty]
  held := by simp [empty, Holds, Lasts]
  valid := by simp
  apart := by simp [Holds, Lasts]

theorem Ledger.step {history : List Deed} {before after : RequestSlots} {deed : Deed}
    (ledger : Ledger history before) (step : Step before deed after) :
    Ledger (history ++ [deed]) after := by
  have given : ∀ ticket, .begun ticket ∈ history ++ [deed] →
      .begun ticket ∈ history ∨ .begun ticket = deed := by
    intro ticket member
    rcases List.mem_append.1 member with earlier | now
    · exact .inl earlier
    · exact .inr (List.mem_singleton.1 now)
  have fresh : ∀ ticket, .begun ticket = deed → ticket.mark = before.nextMark := by
    rintro ticket rfl
    exact step.begun.1
  have unknown : ∀ ticket, .begun ticket = deed → .begun ticket ∉ history := by
    intro ticket isNew known
    exact Nat.ne_of_lt (ledger.issued ticket known) (fresh ticket isNew)
  -- A ticket that is cancelled by this step held its slot, for no other has its mark.
  have cancels : ∀ ticket, .begun ticket ∈ history →
      (ticket.mark ∈ after.cancelled ↔ ticket.mark ∈ before.cancelled ∨
        (Holds history ticket ∧ deed.givesUp ticket.cls = true)) := by
    intro ticket known
    rw [step.mem_cancelled]
    refine or_congr_right ⟨?_, ?_⟩
    · rintro ⟨other, isHeld, gives, same⟩
      have holds := (ledger.held other).1 isHeld
      obtain rfl := ledger.marked other ticket holds.mem known same
      exact ⟨holds, gives⟩
    · rintro ⟨holds, gives⟩
      exact ⟨ticket, (ledger.held ticket).2 holds, gives, rfl⟩
  refine ⟨step.single ledger.single, ?_, ?_, ?_, ?_, ?_, ?_⟩
  · intro first second isFirst isSecond same
    rcases given first isFirst with firstKnown | firstNew <;>
      rcases given second isSecond with secondKnown | secondNew
    · exact ledger.marked first second firstKnown secondKnown same
    · rw [fresh second secondNew] at same
      exact absurd same (Nat.ne_of_lt (ledger.issued first firstKnown))
    · rw [fresh first firstNew] at same
      exact absurd same.symm (Nat.ne_of_lt (ledger.issued second secondKnown))
    · exact Deed.begun.inj (firstNew.trans secondNew.symm)
  · intro ticket member
    rcases given ticket member with known | rfl
    · exact Nat.lt_of_lt_of_le (ledger.issued ticket known) step.nextMark_le
    · exact step.begun.2
  · intro mark member
    rcases step.mem_cancelled.1 member with cancelled | ⟨ticket, isHeld, _, rfl⟩
    · exact Nat.lt_of_lt_of_le (ledger.spent mark cancelled) step.nextMark_le
    · have known := ((ledger.held ticket).1 isHeld).mem
      exact Nat.lt_of_lt_of_le (ledger.issued ticket known) step.nextMark_le
  · intro ticket
    rw [step.mem_held, holds_append, ledger.held]
  · intro ticket member
    rcases given ticket member with known | rfl
    · have notNew : .begun ticket ≠ deed := fun isNew => unknown ticket isNew known
      rw [cancels ticket known, holds_append, loose_append, not_or, ledger.valid ticket known]
      by_cases holds : Holds history ticket
      · have tight : ¬ Loose history ticket := fun loose => ledger.apart ticket loose holds
        cases empties : deed.empties ticket.cls with
        | false => simp [holds, tight, notNew, Deed.ends, empties]
        | true => simp [holds, Deed.givesUp_of_empties empties]
      · simp [holds, notNew]
    · refine iff_of_true (fun cancelled => ?_) (.inl (holds_append.2 (.inl rfl)))
      rcases step.mem_cancelled.1 cancelled with before | ⟨other, isHeld, _, same⟩
      · exact Nat.ne_of_lt (ledger.spent _ before) step.begun.1
      · have known := ((ledger.held other).1 isHeld).mem
        exact Nat.ne_of_lt (ledger.issued other known) (same.trans step.begun.1)
  · intro ticket loose holds
    rcases holds_append.1 holds with isNew | ⟨held, still⟩
    · rcases loose_append.1 loose with before | ⟨held, _⟩
      · exact unknown ticket isNew before.begun
      · exact unknown ticket isNew held.mem
    · rcases loose_append.1 loose with before | ⟨_, empties⟩
      · exact ledger.apart ticket before held
      · rw [Deed.ends, empties, Bool.or_true] at still
        cases still

theorem Uses.ledger {history : List Deed} {slots : RequestSlots} (uses : Uses history slots) :
    Ledger history slots := by
  induction uses with
  | nothing => exact ledger_empty
  | step _ step _ induction => exact induction.step step

theorem isCurrent_iff {slots : RequestSlots} (single : (slots.held.map Ticket.cls).Nodup)
    {ticket : Ticket} :
    slots.isCurrent ticket = true ↔ ticket.mark ∉ slots.cancelled ∧
      ∃ holder ∈ slots.held, holder.cls = ticket.cls ∧ holder.generation = ticket.generation := by
  have valid : (!slots.isCancelled ticket) = true ↔ ticket.mark ∉ slots.cancelled := by
    rw [Bool.not_eq_true', ← Bool.not_eq_true, isCancelled_iff]
  have numbered : ((slots.holder? ticket.cls).any fun held =>
      held.generation == ticket.generation) = true ↔
        ∃ holder ∈ slots.held, holder.cls = ticket.cls ∧
          holder.generation = ticket.generation := by
    rw [Option.any_eq_true]
    constructor
    · rintro ⟨holder, found, same⟩
      have cls : holder.cls = ticket.cls := by simpa using List.find?_some found
      exact ⟨holder, List.mem_of_find?_eq_some found, cls, by simpa using same⟩
    · rintro ⟨holder, isHeld, cls, same⟩
      refine ⟨holder, ?_, by simpa using same⟩
      rw [← cls]
      exact holder?_of_mem single isHeld
  rw [isCurrent, Bool.and_eq_true, valid, numbered]

namespace Ledger

variable {history : List Deed} {slots : RequestSlots} {ticket other : Ticket}

theorem eq_of_cls (ledger : Ledger history slots) (holds : Holds history ticket)
    (otherHolds : Holds history other) (same : ticket.cls = other.cls) : ticket = other := by
  have found := holder?_of_mem ledger.single ((ledger.held ticket).2 holds)
  rw [same, holder?_of_mem ledger.single ((ledger.held other).2 otherHolds)] at found
  exact (Option.some.inj found).symm

/-- A ticket is current just if it holds its slot, or if it was let go and has the number of the
ticket that does. -/
theorem isCurrent_iff (ledger : Ledger history slots) (issued : .begun ticket ∈ history) :
    slots.isCurrent ticket = true ↔ ∃ holder, Holds history holder ∧ holder.cls = ticket.cls ∧
      holder.generation = ticket.generation ∧ (holder = ticket ∨ Loose history ticket) := by
  rw [RequestSlots.isCurrent_iff ledger.single, ledger.valid ticket issued]
  constructor
  · rintro ⟨isValid, holder, isHeld, cls, number⟩
    have holds := (ledger.held holder).1 isHeld
    refine ⟨holder, holds, cls, number, ?_⟩
    rcases isValid with own | loose
    · exact .inl (ledger.eq_of_cls holds own cls)
    · exact .inr loose
  · rintro ⟨holder, holds, cls, number, rfl | loose⟩
    · exact ⟨.inl holds, holder, (ledger.held holder).2 holds, cls, number⟩
    · exact ⟨.inr loose, holder, (ledger.held holder).2 holds, cls, number⟩

theorem isCurrent_of_holds (ledger : Ledger history slots) (holds : Holds history ticket) :
    slots.isCurrent ticket = true :=
  (ledger.isCurrent_iff holds.mem).2 ⟨ticket, holds, rfl, rfl, .inl rfl⟩

end Ledger

theorem Step.ends_of_handedIn {history : List Deed} {before after : RequestSlots} {deed : Deed}
    {ticket : Ticket} (ledger : Ledger history before) (step : Step before deed after)
    (holds : Holds history ticket) (handedIn : deed.handedIn? = some ticket) :
    deed.ends ticket.cls = true := by
  cases step with
  | start cls => cases handedIn
  | finish other =>
      cases handedIn
      simp [Deed.ends, Deed.givesUp, Deed.empties, ledger.isCurrent_of_holds holds]
  | cancel cls => cases handedIn
  | cancelAll => cases handedIn

theorem Uses.stands_of_holds {history : List Deed} {slots : RequestSlots}
    (uses : Uses history slots) {ticket : Ticket} (holds : Holds history ticket) :
    Stands history ticket := by
  induction uses with
  | nothing => exact absurd holds.mem List.not_mem_nil
  | @step history before after deed uses step _ induction =>
      rcases holds_append.1 holds with isNew | ⟨held, still⟩
      · exact stands_append.2 (.inl isNew)
      · have kept : deed.givesUp ticket.cls = false := (Bool.or_eq_false_iff.1 still).1
        have own : deed.handedIn? ≠ some ticket := by
          intro handedIn
          rw [step.ends_of_handedIn uses.ledger held handedIn] at still
          cases still
        refine stands_append.2 (.inr ⟨induction held, ?_⟩)
        rw [Deed.outdates, kept, Bool.false_or, beq_eq_false_iff_ne]
        exact own

def handedIn (history : List Deed) : List Ticket := history.filterMap Deed.handedIn?

theorem handedIn_append (history : List Deed) (deed : Deed) :
    handedIn (history ++ [deed]) = handedIn history ++ deed.handedIn?.toList := by
  rw [handedIn, List.filterMap_append]
  cases handed : deed.handedIn? <;> simp [handedIn, handed]

theorem nodup_handedIn {history : List Deed} {deed : Deed}
    (once : (handedIn (history ++ [deed])).Nodup) : (handedIn history).Nodup := by
  rw [handedIn_append] at once
  exact (List.nodup_append.1 once).1

theorem Step.handedIn_of_empties {history : List Deed} {before after : RequestSlots} {deed : Deed}
    {ticket : Ticket} (ledger : Ledger history before) (step : Step before deed after)
    (issued : ∀ ticket, deed.handedIn? = some ticket → .begun ticket ∈ history)
    (once : (handedIn (history ++ [deed])).Nodup)
    (spent : ∀ ticket, Loose history ticket → ticket ∈ handedIn history)
    (holds : Holds history ticket) (empties : deed.empties ticket.cls = true) :
    deed.handedIn? = some ticket := by
  cases step with
  | start cls => cases empties
  | finish other =>
      obtain ⟨current, cls⟩ := Bool.and_eq_true_iff.1 empties
      obtain ⟨holder, isHolder, same, _, own | loose⟩ :=
        (ledger.isCurrent_iff (issued other rfl)).1 current
      · have equal := ledger.eq_of_cls holds isHolder ((beq_iff_eq.1 cls).trans same.symm)
        rw [Deed.handedIn?, equal, own]
      · rw [handedIn_append] at once
        have distinct := (List.nodup_append.1 once).2.2
        exact absurd rfl (distinct other (spent other loose) other List.mem_cons_self)
  | cancel cls => cases empties
  | cancelAll => cases empties

theorem Uses.handedIn_of_loose {history : List Deed} {slots : RequestSlots}
    (uses : Uses history slots) (once : (handedIn history).Nodup) :
    ∀ ticket, Loose history ticket → ticket ∈ handedIn history := by
  induction uses with
  | nothing =>
      intro ticket loose
      exact absurd loose.begun List.not_mem_nil
  | @step history before after deed uses step issued induction =>
      have before := nodup_handedIn once
      intro ticket loose
      rw [handedIn_append]
      rcases loose_append.1 loose with earlier | ⟨holds, empties⟩
      · exact List.mem_append_left _ (induction before ticket earlier)
      · have own := step.handedIn_of_empties uses.ledger issued once (induction before) holds
          empties
        rw [own]
        exact List.mem_append_right _ List.mem_cons_self

theorem Uses.holds_of_stands {history : List Deed} {slots : RequestSlots}
    (uses : Uses history slots) (once : (handedIn history).Nodup) {ticket : Ticket}
    (stands : Stands history ticket) : Holds history ticket := by
  induction uses with
  | nothing => exact absurd stands.mem List.not_mem_nil
  | @step history before after deed uses step issued induction =>
      have before := nodup_handedIn once
      rcases stands_append.1 stands with isNew | ⟨stood, still⟩
      · exact holds_append.2 (.inl isNew)
      · obtain ⟨kept, notOwn⟩ := Bool.or_eq_false_iff.1 still
        have holds := induction before stood
        have full : deed.empties ticket.cls = false := by
          rw [Bool.eq_false_iff]
          intro empties
          have own := step.handedIn_of_empties uses.ledger issued once
            (uses.handedIn_of_loose before) holds empties
          exact beq_eq_false_iff_ne.1 notOwn own
        exact holds_append.2 (.inr ⟨holds, Bool.or_eq_false_iff.2 ⟨kept, full⟩⟩)

/-- After any use of the slots a ticket is current just if it holds its slot, or if it was let go
and the holder has its number; a ticket that is not current leaves the slots as they are.  While no
ticket is handed in twice, one that was not handed in is current just if it stands, and hands in no
slot but its own. -/
theorem current_iff_holds {history : List Deed} {slots : RequestSlots} (uses : Uses history slots)
    {ticket : Ticket} (issued : .begun ticket ∈ history) :
    (slots.isCurrent ticket = true ↔ ∃ holder, Holds history holder ∧ holder.cls = ticket.cls ∧
      holder.generation = ticket.generation ∧ (holder = ticket ∨ Loose history ticket)) ∧
    (Holds history ticket → Stands history ticket) ∧
    (slots.isCurrent ticket = false → slots.finish ticket = slots) ∧
    ((handedIn history).Nodup → ticket ∉ handedIn history →
      (slots.isCurrent ticket = true ↔ Stands history ticket) ∧
      ∀ other ∈ slots.held, other ≠ ticket → other ∈ (slots.finish ticket).held) := by
  have ledger := uses.ledger
  have current := ledger.isCurrent_iff issued
  refine ⟨current, uses.stands_of_holds, fun passed => ?_, fun once unused => ?_⟩
  · rw [finish, passed, if_neg Bool.false_ne_true]
  have holds : slots.isCurrent ticket = true → Holds history ticket := by
    intro isCurrent
    obtain ⟨holder, isHolder, _, _, rfl | loose⟩ := current.1 isCurrent
    · exact isHolder
    · exact absurd (uses.handedIn_of_loose once ticket loose) unused
  refine ⟨⟨fun isCurrent => uses.stands_of_holds (holds isCurrent), fun stands => ?_⟩, ?_⟩
  · exact ledger.isCurrent_of_holds (uses.holds_of_stands once stands)
  · intro other isHeld different
    refine (Step.finish ticket slots).mem_held.2 (.inr ⟨isHeld, ?_⟩)
    rw [Deed.ends, Deed.givesUp, Deed.empties, Bool.false_or, Bool.and_eq_false_iff]
    by_cases isCurrent : slots.isCurrent ticket = true
    · refine .inr (beq_eq_false_iff_ne.2 fun same => ?_)
      exact different (ledger.eq_of_cls ((ledger.held other).1 isHeld) (holds isCurrent) same)
    · exact .inl (Bool.eq_false_iff.2 isCurrent)

def firstPage : Ticket := ⟨.tablePage, 1, 0⟩

def secondPage : Ticket := ⟨.tablePage, 2, 1⟩

def superseded : List Deed := [.begun firstPage, .begun secondPage, .handedIn firstPage false]

theorem current_iff_holds_of_superseded : ∃ slots, Uses superseded slots ∧
    slots.isCurrent firstPage = false ∧ slots.isCurrent secondPage = true ∧
      Stands superseded secondPage := by
  have uses : Uses superseded
      (((empty.start .tablePage).start .tablePage).finish firstPage) := by
    refine .step (.step (.step .nothing (.start .tablePage _) ?_) (.start .tablePage _) ?_)
      (.finish firstPage _) ?_
    · exact fun ticket handedIn => nomatch handedIn
    · exact fun ticket handedIn => nomatch handedIn
    · intro ticket handedIn
      cases handedIn
      exact List.mem_cons_self
  have issued : .begun secondPage ∈ superseded := List.mem_cons_of_mem _ List.mem_cons_self
  obtain ⟨_, _, _, once⟩ := current_iff_holds uses issued
  exact ⟨_, uses, by decide, by decide, (once (by decide) (by decide)).1.1 (by decide)⟩

def laterPage : Ticket := ⟨.tablePage, 1, 1⟩

def renumbered : List Deed := [.begun firstPage, .handedIn firstPage true, .begun laterPage]

/-- A ticket that was handed in is current again when its number is, and gives back the slot of
another. -/
theorem current_of_finished : ∃ slots, Uses renumbered slots ∧
    slots.isCurrent firstPage = true ∧ ¬ Stands renumbered firstPage ∧
      slots.held = [laterPage] ∧ (slots.finish firstPage).held = [] := by
  have uses : Uses renumbered (((empty.start .tablePage).finish firstPage).start .tablePage) := by
    refine .step (.step (.step .nothing (.start .tablePage _) ?_) (.finish firstPage _) ?_)
      (.start .tablePage _) ?_
    · exact fun ticket handedIn => nomatch handedIn
    · intro ticket handedIn
      cases handedIn
      exact List.mem_cons_self
    · exact fun ticket handedIn => nomatch handedIn
  have fallen : ¬ Stands ([.begun firstPage, .handedIn firstPage true] ++ [.begun laterPage])
      firstPage := by
    rw [stands_append]
    rintro (isNew | ⟨_, still⟩)
    · cases isNew
    · cases still
  exact ⟨_, uses, by decide, fallen, by decide, by decide⟩

end MediaFilter.RequestSlots
