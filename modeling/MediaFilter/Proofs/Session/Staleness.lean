import MediaFilter.Proofs.Session.World

/-!
Of all replies only those to the latest requests count.  A reply to a request that another of its
class has followed, or that was given up, changes nothing at all, whenever it comes.
-/

namespace MediaFilter

namespace Occurrence

/-- Whether a request is the one of its class that was begun last, and not given up since. -/
def Stands (history : List Occurrence) (ticket : Ticket) : Prop :=
  ∃ earlier begun later, history = earlier ++ begun :: later ∧
    RequestSlots.lastOf? ticket.cls (Effect.tickets begun.effects) = some ticket ∧
    ∀ other ∈ later, RequestSlots.lastOf? ticket.cls (Effect.tickets other.effects) = none ∧
      other.givesUp ticket.cls = false

theorem standing?_eq_some_iff {cls : RequestClass} {before : Option Ticket}
    {occurrence : Occurrence} {ticket : Ticket} :
    standing? cls before occurrence = some ticket ↔
      RequestSlots.lastOf? cls (Effect.tickets occurrence.effects) = some ticket ∨
        (before = some ticket ∧
          RequestSlots.lastOf? cls (Effect.tickets occurrence.effects) = none ∧
          occurrence.givesUp cls = false) := by
  unfold standing?
  cases RequestSlots.lastOf? cls (Effect.tickets occurrence.effects) with
  | some last => simp
  | none => cases occurrence.givesUp cls <;> simp

theorem foldl_standing?_eq_some_iff (history : List Occurrence) (before : Option Ticket)
    {ticket : Ticket} :
    history.foldl (standing? ticket.cls) before = some ticket ↔
      Stands history ticket ∨ (before = some ticket ∧ ∀ other ∈ history,
        RequestSlots.lastOf? ticket.cls (Effect.tickets other.effects) = none ∧
          other.givesUp ticket.cls = false) := by
  induction history generalizing before with
  | nil =>
      have nothing : ¬ Stands [] ticket := by
        rintro ⟨earlier, begun, later, whole, _⟩
        simp at whole
      simp [nothing]
  | cons occurrence history induction =>
      rw [List.foldl_cons, induction, standing?_eq_some_iff]
      constructor
      · rintro (⟨earlier, begun, later, rfl, last, calm⟩ | ⟨last | ⟨same, none, kept⟩, calm⟩)
        · exact .inl ⟨occurrence :: earlier, begun, later, rfl, last, calm⟩
        · exact .inl ⟨[], occurrence, history, rfl, last, calm⟩
        · refine .inr ⟨same, fun other member => ?_⟩
          rcases List.mem_cons.1 member with rfl | later
          · exact ⟨none, kept⟩
          · exact calm other later
      · rintro (⟨earlier, begun, later, whole, last, calm⟩ | ⟨same, calm⟩)
        · cases earlier with
          | nil =>
              cases whole
              exact .inr ⟨.inl last, calm⟩
          | cons first earlier =>
              cases whole
              exact .inl ⟨earlier, begun, later, rfl, last, calm⟩
        · obtain ⟨none, kept⟩ := calm occurrence List.mem_cons_self
          exact .inr ⟨.inr ⟨same, none, kept⟩, fun other member =>
            calm other (List.mem_cons_of_mem _ member)⟩

theorem latest?_eq_some_iff {history : List Occurrence} {ticket : Ticket} :
    latest? history ticket.cls = some ticket ↔ Stands history ticket := by
  rw [latest?, foldl_standing?_eq_some_iff]
  simp

end Occurrence

namespace World

/-- Whatever happened before, a reply is taken just if its request stands; the delivery of any
other leaves the session as it is and has no effects. -/
theorem stale_inert (config : SessionConfig) (store : FaultyStore) {history : List Occurrence}
    {world : World} (reached : Reaches config store history world) {message : Message}
    (queued : message ∈ world.messages) :
    (¬ Occurrence.Stands history message.request.ticket →
      world.session.complete message.completion = .still world.session) ∧
    (Occurrence.Stands history message.request.ticket →
      world.session.complete message.completion =
        { world.session with
          slots := world.session.slots.finish message.request.ticket }.accept
            message.completion) := by
  have out : message.request.ticket ∈ world.requests.map Request.ticket :=
    List.mem_map.2 ⟨message.request, List.mem_append_right _
      (List.mem_map.2 ⟨message, queued, rfl⟩), rfl⟩
  have current := reached.orderly.tidy.isCurrent_iff out
  rw [Occurrence.latest?_eq_some_iff, ← message.yields.ticket] at current
  rw [← message.yields.ticket]
  constructor
  · intro stale
    exact if_neg fun isCurrent => stale (current.1 isCurrent)
  · intro stands
    exact if_pos (current.2 stands)

def characterChoices : Message where
  request := ⟨⟨.filterValues, 1, 0⟩, .choices .character⟩
  completion := .choices ⟨.filterValues, 1, 0⟩ (.ok { Choices.empty with gender := ["Female"] })
  yields := .choices rfl _

def staffChosen : World :=
  let first := (Session.start (.initial []) (.sound .empty)).respond
    (.command 0 (.switchEntity .character))
  let second := first.result.respond (.command 1 (.switchEntity .staff))
  ⟨second.result, Effect.requests second.trace, [characterChoices]⟩

def choiceOfStaff : List Occurrence :=
  let session := Session.start (.initial []) (.sound .empty)
  let choice := Input.command 0 (.switchEntity .character)
  [.responded session choice, .answered characterChoices,
    .responded (session.respond choice).result (.command 1 (.switchEntity .staff))]

/-- The slot is held by a ticket of the same generation, and yet the late choices are inert. -/
theorem stale_inert_of_switched :
    Reaches (.initial []) (.sound .empty) choiceOfStaff staffChosen ∧
      characterChoices ∈ staffChosen.messages ∧
      (staffChosen.session.slots.holder? .filterValues).map Ticket.generation =
        some characterChoices.request.ticket.generation ∧
      ¬ Occurrence.Stands choiceOfStaff characterChoices.request.ticket ∧
      staffChosen.session.complete characterChoices.completion = .still staffChosen.session := by
  have reached : Reaches (.initial []) (.sound .empty) choiceOfStaff staffChosen :=
    .step (.step (.step .start (.respond rfl _)) (.answer characterChoices rfl)) (.respond rfl _)
  have queued : characterChoices ∈ staffChosen.messages := List.mem_singleton_self _
  have stale : ¬ Occurrence.Stands choiceOfStaff characterChoices.request.ticket := by
    rw [← Occurrence.latest?_eq_some_iff]
    decide +kernel
  exact ⟨reached, queued, by decide +kernel, stale, (stale_inert _ _ reached queued).1 stale⟩

end World

end MediaFilter
