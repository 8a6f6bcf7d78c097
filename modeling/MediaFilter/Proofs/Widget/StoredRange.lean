import MediaFilter.Proofs.Expression.Relocation
import MediaFilter.Proofs.Expression.Restoration
import MediaFilter.Widget

/-!
A stored range of a filter without a fixed domain.  Its two ends come back as they were stored, in
order, and the widget that is bound to them offers them; but the domain that they are fitted into
is widened before the ends are put in order, so a pair that was stored the wrong way round loses
the end that lies outside the placeholder.
-/

namespace MediaFilter

namespace Widget

theorem bind_range {definition : Definition} (kind : definition.kind = .range)
    (entity : EntityType) (range : RangeValue) :
    (bind definition entity (some (.range range))).result =
      fresh definition entity (.range range) (definition.initialDomain.extend range) := by
  have kept : (some (FilterValue.range range)).filter
      (fun value => value.kind = definition.kind) = some (.range range) := by
    rw [Option.filter_some, if_pos (by simp [kind, FilterValue.kind])]
  rw [bind, kept]
  rfl

end Widget

namespace RangeValue

def Within (domain : RangeDomain) (range : RangeValue) : Prop :=
  domain.lo.val ≤ range.min.val ∧ range.max.val ≤ domain.hi.val

theorem full_within (domain : RangeDomain) : (full domain).Within domain :=
  ⟨Int.le_refl _, Int.le_refl _⟩

theorem within_extend (domain : RangeDomain) (range : RangeValue) :
    range.Within (domain.extend range) := by
  simp only [Within, RangeDomain.extend, RangeDomain.between, Bound.val_lesser, Bound.val_greater]
  omega

end RangeValue

namespace RangeDomain

/-- The placeholder, widened to hold a pair of ends that are taken to be in order. -/
def widened (least greatest : Bound) : RangeDomain :=
  between (least.lesser placeholder.lo) (greatest.greater placeholder.hi)

theorem lo_widened (least greatest : Bound) :
    (widened least greatest).lo.val = Min.min least.val 0 := by
  simp only [widened, placeholder, between, Bound.val_lesser, Bound.val_greater]
  omega

theorem hi_widened (least greatest : Bound) :
    (widened least greatest).hi.val = Max.max greatest.val 9999 := by
  simp only [widened, placeholder, between, Bound.val_lesser, Bound.val_greater]
  omega

end RangeDomain

namespace RangeValue

theorem min_within_widened (least greatest : Bound) :
    (within (.widened least greatest) least greatest).min.val =
      Max.max (Min.min least.val greatest.val) (Min.min least.val 0) := by
  simp only [within, between, RangeDomain.val_clamp, RangeDomain.lo_widened,
    RangeDomain.hi_widened, Bound.val_lesser]
  omega

theorem max_within_widened (least greatest : Bound) :
    (within (.widened least greatest) least greatest).max.val =
      Min.min (Max.max least.val greatest.val) (Max.max greatest.val 9999) := by
  simp only [within, between, RangeDomain.val_clamp, RangeDomain.lo_widened,
    RangeDomain.hi_widened, Bound.val_greater]
  omega

/-- Ends in order are kept wherever they lie, inverted ones only within the placeholder. -/
theorem within_widened_eq_iff {least greatest : Bound} :
    within (.widened least greatest) least greatest = between least greatest ↔
      least.val ≤ greatest.val ∨ (0 ≤ greatest.val ∧ least.val ≤ 9999) := by
  rw [RangeValue.ext_iff, Bound.ext_iff, Bound.ext_iff, min_within_widened, max_within_widened]
  simp only [between, Bound.val_lesser, Bound.val_greater]
  omega

end RangeValue

namespace Expression

theorem restore?_of_open {definition : Definition} (kind : definition.kind = .range)
    (isOpen : definition.fixedDomain = none) {stored : Expression} {least greatest : Bound}
    (min : stored.get? definition.name.minKey = some (.bound least))
    (max : stored.get? definition.name.maxKey = some (.bound greatest)) :
    stored.restore? definition =
      some (.range (.within (.widened least greatest) least greatest)) := by
  have initial : definition.initialDomain = .placeholder := by
    simp [Definition.initialDomain, isOpen]
  simp [restore?, kind, restoreRange?, rangeEnds?_of_bounds min max, isOpen, initial,
    RangeDomain.widened]

/-- Two stored ends are restored to the interval between them exactly if they are stored in order or
both lie in the placeholder; an inverted pair is cut off where the placeholder ends.  Whatever is
restored, the widget that is bound to it keeps it, in a domain that holds it. -/
theorem stored_ends_kept_iff {definition : Definition} (kind : definition.kind = .range)
    (isOpen : definition.fixedDomain = none) {stored : Expression} {least greatest : Bound}
    (min : stored.get? definition.name.minKey = some (.bound least))
    (max : stored.get? definition.name.maxKey = some (.bound greatest)) (entity : EntityType) :
    ∃ range, stored.restore? definition = some (.range range) ∧
      range.min.val = Max.max (Min.min least.val greatest.val) (Min.min least.val 0) ∧
      range.max.val = Min.min (Max.max least.val greatest.val) (Max.max greatest.val 9999) ∧
      (range = .between least greatest ↔
        least.val ≤ greatest.val ∨ (0 ≤ greatest.val ∧ least.val ≤ 9999)) ∧
      (Widget.bind definition entity (stored.restore? definition)).result.value = .range range ∧
      range.Within (Widget.bind definition entity (stored.restore? definition)).result.domain := by
  have restored := restore?_of_open kind isOpen min max
  refine ⟨_, restored, RangeValue.min_within_widened least greatest,
    RangeValue.max_within_widened least greatest, RangeValue.within_widened_eq_iff, ?_⟩
  rw [restored, Widget.bind_range kind]
  exact ⟨rfl, RangeValue.within_extend definition.initialDomain _⟩

def storedRuntime (least greatest : Bound) : Expression :=
  ofList [("totalRuntimeMax", .bound greatest), ("totalRuntimeMin", .bound least)]

theorem get?_storedRuntime (least greatest : Bound) :
    (storedRuntime least greatest).get? FilterName.totalRuntime.definition.name.minKey =
        some (.bound least) ∧
      (storedRuntime least greatest).get? FilterName.totalRuntime.definition.name.maxKey =
        some (.bound greatest) := by
  simp [storedRuntime, ofList, get?_insert, FilterName.minKey, FilterName.maxKey, FilterName.wire]

theorem stored_ends_kept_of_inverted :
    ∃ range, (storedRuntime { val := 500 } { val := 20 }).restore?
        FilterName.totalRuntime.definition = some (.range range) ∧
      range.min.val = 20 ∧ range.max.val = 500 := by
  obtain ⟨min, max⟩ := get?_storedRuntime { val := 500 } { val := 20 }
  obtain ⟨range, restored, low, high, _⟩ := stored_ends_kept_iff rfl rfl min max .anime
  exact ⟨range, restored, low, high⟩

/-- The end that lies outside the placeholder is lost from an inverted pair, the upper one of 5 and
20000 and the lower one of −7 and 5. -/
theorem stored_ends_lost_of_inverted :
    let definition := FilterName.totalRuntime.definition
    let stored := storedRuntime { val := 20000 } { val := 5 }
    let cut : RangeValue := { min := { val := 5 }, max := { val := 9999 } }
    definition.kind = .range ∧ definition.fixedDomain = none ∧
      stored.get? definition.name.minKey = some (.bound { val := 20000 }) ∧
      stored.get? definition.name.maxKey = some (.bound { val := 5 }) ∧
      stored.restore? definition = some (.range cut) ∧
      (Widget.bind definition .anime (stored.restore? definition)).result.value = .range cut ∧
      (storedRuntime { val := 5 } { val := -7 }).restore? definition =
        some (.range { min := { val := 0 }, max := { val := 5 } }) := by
  intro definition stored cut
  obtain ⟨min, max⟩ := get?_storedRuntime { val := 20000 } { val := 5 }
  exact ⟨rfl, rfl, min, max, by decide +kernel, by decide +kernel, by decide +kernel⟩

end Expression

end MediaFilter
