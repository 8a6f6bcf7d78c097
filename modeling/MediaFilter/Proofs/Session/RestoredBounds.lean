import MediaFilter.Proofs.Bindings.Picker
import MediaFilter.Proofs.Bindings.Rebinding
import MediaFilter.Proofs.Widget.StoredRange

/-!
A stored range whose domain the backend sends.  Until the domain has come the filter offers the
placeholder, widened so that it holds the range; what spans it then counts as full, also where the
user chose it.
-/

namespace MediaFilter

namespace RangeValue

theorem isFull_iff {domain : RangeDomain} {range : RangeValue} :
    range.isFull domain = true ↔
      range.min.val = domain.lo.val ∧ range.max.val = domain.hi.val := by
  rw [isFull, Bool.and_eq_true, decide_eq_true_eq, decide_eq_true_eq, Bound.ext_iff,
    Bound.ext_iff]

theorem isFull_extend {domain : RangeDomain} {range : RangeValue} :
    range.isFull (domain.extend range) = true ↔
      range.min.val ≤ domain.lo.val ∧ domain.hi.val ≤ range.max.val := by
  have whole := domain.lo_le_hi
  have ordered := range.min_le_max
  rw [isFull_iff]
  simp only [RangeDomain.extend, RangeDomain.between, Bound.val_lesser, Bound.val_greater]
  omega

end RangeValue

namespace Widget

/-- A range that spans the domain before is lost to the domain after, even where it was only
widened to hold the range. -/
theorem fitted_extend (before after : RangeDomain) (range : RangeValue) :
    fitted (before.extend range) after range =
      if range.min.val ≤ before.lo.val ∧ before.hi.val ≤ range.max.val then .full after
      else .within after range.min range.max := by
  rw [fitted]
  exact ite_congr (propext RangeValue.isFull_extend) (fun _ => rfl) fun _ => rfl

end Widget

namespace Choices

theorem lo_le_of_domain? {choices : Choices} {field : BoundsField} {domain : RangeDomain}
    (sent : choices.domain? field = some domain) : domain.lo.val ≤ 0 := by
  obtain ⟨last, _, rfl⟩ := Option.map_eq_some_iff.1 sent
  simp only [RangeDomain.between, RangeDomain.placeholder, Bound.val_lesser]
  omega

end Choices

namespace Bindings

theorem get?_bind {entity : EntityType} {name : FilterName} (offered : name ∈ entity.filterSet)
    (different : name ≠ .userList) (stored : Expression) (grouping : TagGrouping) :
    (bind entity stored grouping).result.subscribeAll.get? name =
      some (boundFor entity stored name) := by
  have isBound : boundFor entity stored name ∈
      (bind entity stored grouping).result.subscribeAll.widgets :=
    mem_bind.2 ⟨name, offered, different, rfl⟩
  have found := (sound_bind entity stored grouping).get?_of_mem isBound
  rwa [name_boundFor] at found

theorem acceptOne_of_bounds {choices : Choices} {field : BoundsField} {domain : RangeDomain}
    (sent : choices.domain? field = some domain) (grouping : TagGrouping) {widget : Widget}
    (bounded : widget.definition.source = some (.bounds field)) {range : RangeValue}
    (held : widget.value = .range range) :
    (acceptOne choices grouping widget).result.1 =
      { widget with value := .range (Widget.fitted widget.domain domain range), domain } := by
  unfold acceptOne Widget.setDomain
  rw [bounded]
  dsimp only
  rw [sent, held]
  rfl

theorem Regular.bound?_build {bindings : Bindings} (regular : bindings.Regular)
    {name : FilterName} {widget : Widget} (found : bindings.get? name = some widget)
    {field : BoundsField} (bounded : name.definition.source = some (.bounds field))
    {range : RangeValue} (held : widget.value = .range range) :
    bindings.build.bound? name.minKey = some range.min ∧
      bindings.build.bound? name.maxKey = some range.max := by
  have own := regular.definition_of_get? found
  obtain ⟨isBound, rfl⟩ := mem_of_get? found
  have notTag : widget.name ≠ .tag := by
    intro isTag
    rw [isTag] at bounded
    cases bounded
  have notPercentage : widget.name ≠ .tagPercentage := by
    intro isPercentage
    rw [isPercentage] at bounded
    cases bounded
  have clauses : Expression.contribution (widget.definition, widget.value) =
      [(widget.name.minKey, .bound range.min), (widget.name.maxKey, .bound range.max)] := by
    have kind := (FilterName.definition_of_bounds bounded).1
    have same : (FilterValue.range range).kind = widget.name.definition.kind := kind.symm
    rw [own, held, Expression.contribution, if_pos same, FilterValue.clauses,
      FilterName.definition_name]
  have owned : ∀ key ∈ [widget.name.minKey, widget.name.maxKey],
      bindings.build.get? key = Clauses.get? key
        [(widget.name.minKey, .bound range.min), (widget.name.maxKey, .bound range.max)] := by
    intro key member
    rw [regular.toSound.get?_build_of_mem isBound notTag notPercentage
      (List.mem_cons_of_mem _ member), clauses]
  constructor
  · rw [Expression.bound?, owned _ (by simp), Clauses.get?_cons, if_pos rfl]
  · rw [Expression.bound?, owned _ (by simp), Clauses.get?_cons,
      if_neg (FilterName.minKey_ne_maxKey _ _), Clauses.get?_cons, if_pos rfl]

end Bindings

namespace Expression

theorem restore?_of_bounds {name : FilterName} {field : BoundsField}
    (bounded : name.definition.source = some (.bounds field)) {stored : Expression}
    {range : RangeValue} (low : stored.bound? name.minKey = some range.min)
    (high : stored.bound? name.maxKey = some range.max) :
    stored.restore? name.definition = some (.range range) := by
  obtain ⟨kind, isOpen⟩ := FilterName.definition_of_bounds bounded
  have fits : (FilterValue.range range).Fits name.definition := by
    refine FilterValue.fits_range kind fun domain fixed => ?_
    rw [isOpen] at fixed
    cases fixed
  have ends : rangeEnds? name.definition.name stored = some (range.min, range.max) := by
    rw [FilterName.definition_name, rangeEnds?, low, high]
    rfl
  rw [restore?, kind]
  dsimp only
  rw [restoreRange?_of_ends fits ends]
  rfl

end Expression

namespace Session

theorem bindings_complete_choices {session : Session} {bindings : Bindings}
    (bound : session.bindings = some bindings) {ticket : Ticket}
    (current : session.slots.isCurrent ticket = true) (choices : Choices) :
    (session.complete (.choices ticket (.ok choices))).result.bindings =
      some (bindings.accept choices).result.1 := by
  have taken : session.complete (.choices ticket (.ok choices)) =
      { session with slots := session.slots.finish ticket }.acceptChoices (.ok choices) :=
    if_pos current
  rw [taken]
  unfold acceptChoices draw
  rw [bound]
  dsimp only [Traced.result_andThen]
  split <;> rfl

section

variable {session : Session} {entity : EntityType} {name : FilterName} {field : BoundsField}
  (offered : name ∈ entity.filterSet)
  (bounded : name.definition.source = some (.bounds field))
  {range : RangeValue}
  (low : (session.load entity).result.bound? name.minKey = some range.min)
  (high : (session.load entity).result.bound? name.maxKey = some range.max)
  {choices : Choices} {domain : RangeDomain} (sent : choices.domain? field = some domain)

include offered bounded low high sent

theorem range_served {ticket : Ticket}
    (current : (session.switchEntity entity).result.slots.isCurrent ticket = true) :
    ∃ bindings widget, ((session.switchEntity entity).result.complete
        (.choices ticket (.ok choices))).result.bindings = some bindings ∧
      bindings.Regular ∧ bindings.get? name = some widget ∧ widget.domain = domain ∧
      widget.value = .range
        (Widget.fitted (RangeDomain.placeholder.extend range) domain range) := by
  have different : name ≠ .userList := by
    rintro rfl
    cases bounded
  obtain ⟨kind, isOpen⟩ := FilterName.definition_of_bounds bounded
  have initial : name.definition.initialDomain = .placeholder := by
    rw [Definition.initialDomain, isOpen]
    rfl
  have bound := bindings_switchEntity session entity
  have regular := Bindings.regular_bind entity (session.load entity).result session.grouping
  have found := Bindings.get?_bind offered different (session.load entity).result session.grouping
  rw [Bindings.boundFor, Expression.restore?_of_bounds bounded low high, Widget.bind_range kind,
    initial] at found
  have served := Bindings.get?_accept (Bindings.bind entity (session.load entity).result
    session.grouping).result.subscribeAll choices name
  rw [found, Option.map_some, Bindings.acceptOne_of_bounds sent _ bounded rfl] at served
  exact ⟨_, _, bindings_complete_choices bound current choices,
    Bindings.regular_accept regular choices, served, rfl, rfl⟩

/-- A stored range within the domain that is sent is kept, unless it starts at zero and ends at the
end of the placeholder or behind it: then it becomes the whole domain. -/
theorem range_kept_unless_spanning (positive : 0 ≤ range.min.val)
    (within : range.max.val ≤ domain.hi.val) (now : Nat) {ticket : Ticket}
    (current : (session.respond
      (.command now (.switchEntity entity))).result.slots.isCurrent ticket = true) :
    let chosen := (session.respond (.command now (.switchEntity entity))).result
    let served := (chosen.respond (.completion (.choices ticket (.ok choices)))).result
    let kept := if range.min.val = 0 ∧ 9999 ≤ range.max.val then RangeValue.full domain else range
    ∃ bindings widget, served.bindings = some bindings ∧ bindings.get? name = some widget ∧
      widget.value = .range kept ∧ widget.domain = domain ∧
      bindings.build.bound? name.minKey = some kept.min ∧
      bindings.build.bound? name.maxKey = some kept.max := by
  intro chosen served kept
  obtain ⟨bindings, widget, bound, regular, found, offers, held⟩ :=
    range_served offered bounded low high sent current
  have fitted : Widget.fitted (RangeDomain.placeholder.extend range) domain range = kept := by
    have low := Choices.lo_le_of_domain? sent
    have same : (range.min.val ≤ RangeDomain.placeholder.lo.val ∧
        RangeDomain.placeholder.hi.val ≤ range.max.val) =
          (range.min.val = 0 ∧ 9999 ≤ range.max.val) := by
      simp only [RangeDomain.placeholder, eq_iff_iff]
      omega
    rw [Widget.fitted_extend]
    exact ite_congr same (fun _ => rfl) fun _ =>
      RangeValue.within_eq_self (by omega) within
  rw [fitted] at held
  obtain ⟨min, max⟩ := regular.bound?_build found bounded held
  exact ⟨bindings, widget, bound, found, held, offers, min, max⟩

end

def runtimeStored (least : String) : Session :=
  start (.initial []) (.sound ⟨[("filters-anime", "\x7b\"and\":\x7b\"totalRuntimeMax\":12000," ++
    "\"totalRuntimeMin\":" ++ least ++ "\x7d\x7d")]⟩)

def longest : Bound := { val := 20000 }

def longRuntimes : Choices :=
  { Choices.empty with totalRuntime := [RangeDomain.placeholder.lo, longest] }

def wholeRuntime : RangeDomain := .between RangeDomain.placeholder.lo longest

def laterStart : RangeValue := ⟨{ val := 10 }, { val := 12000 }, by decide⟩

theorem range_kept_of_later_start :
    let chosen := ((runtimeStored "10").respond (.command 0 (.switchEntity .anime))).result
    let served := (chosen.respond
      (.completion (.choices ⟨.filterValues, 1, 0⟩ (.ok longRuntimes)))).result
    ∃ bindings widget, served.bindings = some bindings ∧
      bindings.get? .totalRuntime = some widget ∧ widget.value = .range laterStart ∧
      widget.domain = wholeRuntime ∧
      bindings.build.bound? FilterName.totalRuntime.minKey = some { val := 10 } ∧
      bindings.build.bound? FilterName.totalRuntime.maxKey = some { val := 12000 } := by
  have offered : FilterName.totalRuntime ∈ EntityType.anime.filterSet := by decide
  have low : ((runtimeStored "10").load .anime).result.bound? FilterName.totalRuntime.minKey =
      some laterStart.min := by decide +kernel
  have high : ((runtimeStored "10").load .anime).result.bound? FilterName.totalRuntime.maxKey =
      some laterStart.max := by decide +kernel
  have sent : longRuntimes.domain? .totalRuntime = some wholeRuntime := by decide +kernel
  have current : ((runtimeStored "10").respond
      (.command 0 (.switchEntity .anime))).result.slots.isCurrent ⟨.filterValues, 1, 0⟩ = true := by
    decide +kernel
  exact range_kept_unless_spanning offered rfl low high sent (by decide) (by decide) 0 current

/-- The range from the start of the placeholder to the 12000th minute becomes the whole domain. -/
theorem range_lost_of_spanning :
    let stored := ((runtimeStored "0").load .anime).result
    let chosen := ((runtimeStored "0").respond (.command 0 (.switchEntity .anime))).result
    let served := (chosen.respond
      (.completion (.choices ⟨.filterValues, 1, 0⟩ (.ok longRuntimes)))).result
    stored.bound? FilterName.totalRuntime.minKey = some { val := 0 } ∧
      stored.bound? FilterName.totalRuntime.maxKey = some { val := 12000 } ∧
      chosen.slots.isCurrent ⟨.filterValues, 1, 0⟩ = true ∧
      longRuntimes.domain? .totalRuntime = some wholeRuntime ∧
      (chosen.bindings.bind fun bindings => bindings.get? .totalRuntime).map Widget.value =
        some (.range ⟨{ val := 0 }, { val := 12000 }, by decide⟩) ∧
      (served.bindings.bind fun bindings => bindings.get? .totalRuntime).map Widget.value =
        some (.range (.full wholeRuntime)) ∧
      served.expression.bound? FilterName.totalRuntime.maxKey = some longest := by
  decide +kernel

end Session

end MediaFilter
