import MediaFilter.Proofs.Session.Alteration
import MediaFilter.Proofs.Session.Attribution
import MediaFilter.Proofs.Widget.StoredRange

/-!
What a bound widget is like, whatever was stored for it and whatever the backend sent: its value is
of the kind of its filter, a range lies in the domain it is chosen from, no value is selected twice,
and where only listed values may be selected no others are.
-/

namespace MediaFilter

namespace FilterName

theorem eq_userList_of_enforced {name : FilterName} (enforced : name.definition.enforced = true) :
    name = .userList := by
  revert enforced
  cases name <;> decide

end FilterName

namespace RangeValue

theorem fitted_within (before after : RangeDomain) (range : RangeValue) :
    (Widget.fitted before after range).Within after := by
  unfold Widget.fitted
  split
  · exact full_within after
  · exact within_mem after range.min range.max

end RangeValue

namespace Widget

def Contained (widget : Widget) : Prop :=
  ∀ range ∈ widget.value.range?, range.Within widget.domain

theorem range?_neutral {definition : Definition} (other : definition.kind ≠ .range) :
    (FilterValue.neutral definition).range? = none := by
  unfold FilterValue.neutral
  split
  · rfl
  · rfl
  · rename_i isRange
    exact absurd isRange other
  · rfl
  · rfl

theorem contained_neutral (definition : Definition) :
    ∀ range ∈ (FilterValue.neutral definition).range?,
      range.Within definition.initialDomain := by
  intro range isRange
  by_cases kind : definition.kind = .range
  · rw [FilterValue.neutral, kind] at isRange
    cases isRange
    exact RangeValue.full_within _
  · rw [range?_neutral kind] at isRange
    cases isRange

theorem Contained.edited {widget : Widget} (contained : widget.Contained) {edit : Edit}
    {value : FilterValue} (edited : widget.editedValue edit = .ok (some value)) :
    Contained { widget with value := value } := by
  rw [eq_of_editedValue edited]
  intro next isNext
  dsimp only at isNext ⊢
  cases held : widget.value with
  | range range =>
      rw [held] at isNext
      cases isNext
      exact mem_edited (contained range (by rw [held]; rfl)) edit
  | _ =>
      rw [held] at isNext
      cases isNext

theorem Contained.reset {widget : Widget} (contained : widget.Contained) :
    widget.reset.result.1.Contained := by
  unfold Widget.reset
  split
  · exact contained
  · intro range isRange
    have cleared : range ∈ widget.clearedValue.range? := isRange
    unfold clearedValue at cleared
    split at cleared
    · cases cleared
      exact RangeValue.full_within widget.domain
    · cases cleared
    · rename_i notRange _
      rw [range?_neutral notRange] at cleared
      cases cleared

theorem Contained.setDomain {widget : Widget} (contained : widget.Contained)
    (domain : RangeDomain) : (widget.setDomain domain).result.Contained := by
  unfold Widget.setDomain
  split
  · rintro _ ⟨⟩
    exact RangeValue.fitted_within _ _ _
  · exact contained

theorem Contained.altered {before after : Widget} {input : Input} (contained : before.Contained)
    (altered : before.Altered input after) : after.Contained := by
  cases altered with
  | kept => exact contained
  | edited edited => exact contained.edited edited
  | cleared => exact contained.reset
  | offered entries => exact contained
  | resized domain => exact contained.setDomain domain
  | awaited looksUp loading =>
      rw [result_setLoading]
      exact contained

theorem contained_bind (definition : Definition) (entity : EntityType)
    (restored : Option FilterValue) : (bind definition entity restored).result.Contained := by
  unfold bind
  split
  · rename_i value kept
    intro range isRange
    cases value with
    | range stored =>
        cases isRange
        exact RangeValue.within_extend _ _
    | _ => cases isRange
  · exact contained_neutral definition

end Widget

theorem Bindings.contained_newPicker (bindings : Bindings) (userLists : List UserList)
    (stored : Expression) : (bindings.newPicker userLists stored).Contained := by
  have listed : ∀ definition entries restored,
      (Widget.listedSelection definition entries restored).range? = none := by
    intro definition entries restored
    unfold Widget.listedSelection
    dsimp only
    split <;> split <;> rfl
  intro range isRange
  have picked : range ∈ (Widget.listedSelection FilterName.userList.definition
    (userLists.map UserList.toWhitelistEntry) (bindings.pickedLists stored)).range? := isRange
  rw [listed] at picked
  cases picked

namespace World

variable {config : SessionConfig} {store : FaultyStore} {history : List Occurrence}
  {world : World}

theorem Reaches.contained (reached : Reaches config store history world) :
    world.session.Every Widget.Contained := by
  have respond : ∀ {session : Session} (input : Input), session.Regular →
      session.Every Widget.Contained → (session.respond input).result.Every Widget.Contained := by
    intro session input regular every
    refine every.respond Widget.Contained.altered Bindings.contained_newPicker ?_ regular
    intro now entity isSwitch stored name
    exact Widget.contained_bind name.definition entity _
  refine reached.always (Session.every_start _ config store) ?_ ?_
  · intro _ _ reached every input own
    exact respond input reached.orderly.regular every
  · intro _ _ reached every message queued
    exact respond (.completion message.completion) reached.orderly.regular every

end World

/-- What a bound widget is always like. -/
structure Widget.WellFormed (widget : Widget) : Prop where
  kind : widget.value.kind = widget.definition.kind
  ordered : widget.domain.lo.val ≤ widget.domain.hi.val
  range : widget.definition.kind = .range → ∃ range, widget.value = .range range ∧
    widget.domain.lo.val ≤ range.min.val ∧ range.min.val ≤ range.max.val ∧
    range.max.val ≤ widget.domain.hi.val
  fixed : ∀ domain ∈ widget.definition.fixedDomain, widget.domain = domain
  distinct : ∀ selection, widget.value = .picker selection ∨ widget.value = .userList selection →
    selection.values.Nodup
  listed : widget.definition.enforced = true → ∀ selection,
    widget.value = .picker selection ∨ widget.value = .userList selection →
      ∀ value ∈ selection.values, lists widget.whitelist value = true

namespace World

/-- Whatever was stored and whatever came from the backend, every bound widget is well-formed. -/
theorem widgets_wellFormed (config : SessionConfig) (store : FaultyStore)
    {history : List Occurrence} {world : World} (reached : Reaches config store history world) :
    ∀ bindings ∈ world.session.bindings, ∀ widget ∈ bindings.widgets, widget.WellFormed := by
  intro bindings bound widget isBound
  have regular := reached.orderly.regular bindings bound
  have own := regular.widgets widget isBound
  have selects : ∀ selection, widget.value = .picker selection ∨
      widget.value = .userList selection → selection ∈ widget.value.selection? := by
    rintro selection (held | held) <;> rw [held] <;> rfl
  refine ⟨own.fits.kind, widget.domain.lo_le_hi, ?_, own.domain, ?_, ?_⟩
  · intro isRange
    have kind := own.fits.kind
    cases held : widget.value with
    | range range =>
        obtain ⟨low, high⟩ := reached.contained bindings bound widget isBound range
          (by rw [held]; rfl)
        exact ⟨range, rfl, low, range.min_le_max, high⟩
    | _ =>
        rw [held, isRange] at kind
        cases kind
  · intro selection held
    exact own.fits.distinct selection (selects selection held)
  · intro enforced selection held
    -- The one filter that insists on its list has the picker that keeps to the lists returned.
    rw [own.definition] at enforced
    have named := FilterName.eq_userList_of_enforced enforced
    have found := regular.toSound.get?_of_mem isBound
    rw [named] at found
    have restrained := (reached.guarded.separate.owned bindings bound widget found).restrained
    exact restrained selection (selects selection held)

def mixedUp : FaultyStore :=
  .sound ⟨[("filters-anime",
    "\x7b\"and\":\x7b\"totalRuntimeMax\":-40,\"totalRuntimeMin\":500\x7d\x7d")]⟩

def negativeRuntimes : Message where
  request := ⟨⟨.filterValues, 1, 0⟩, .choices .anime⟩
  completion := .choices ⟨.filterValues, 1, 0⟩
    (.ok { Choices.empty with totalRuntime := [{ val := -5 }] })
  yields := .choices rfl _

def mixedUpChosen : Session :=
  ((Session.start (.initial []) mixedUp).respond (.command 0 (.switchEntity .anime))).result

def negativeServed : World :=
  ⟨(mixedUpChosen.complete negativeRuntimes.completion).result, [], []⟩

def serviceOfNegative : List Occurrence :=
  [.responded (.start (.initial []) mixedUp) (.command 0 (.switchEntity .anime)),
    .answered negativeRuntimes, .delivered mixedUpChosen negativeRuntimes]

theorem widgets_wellFormed_of_negative :
    Reaches (.initial []) mixedUp serviceOfNegative negativeServed ∧
      ∃ bindings ∈ negativeServed.session.bindings, ∃ widget ∈ bindings.widgets,
        widget.name = .totalRuntime ∧ widget.WellFormed ∧
        widget.domain = ⟨{ val := -5 }, { val := 0 }, by decide⟩ ∧
        widget.value = .range ⟨{ val := 0 }, { val := 0 }, by decide⟩ := by
  have chosen : Reaches (.initial []) mixedUp
      [.responded (.start (.initial []) mixedUp) (.command 0 (.switchEntity .anime))]
      ⟨mixedUpChosen, [] ++ negativeRuntimes.request :: [], []⟩ :=
    Reaches.start.respond rfl (by decide +kernel)
  have reached : Reaches (.initial []) mixedUp serviceOfNegative negativeServed :=
    (chosen.step (.answer negativeRuntimes rfl)).step (@Step.deliver _ [] [] negativeRuntimes rfl)
  have shown : (negativeServed.session.bindings.bind fun bindings =>
      (bindings.get? .totalRuntime).map fun widget => (widget.domain, widget.value)) =
        some (⟨{ val := -5 }, { val := 0 }, by decide⟩,
          .range ⟨{ val := 0 }, { val := 0 }, by decide⟩) := by decide +kernel
  obtain ⟨bindings, bound, found⟩ := Option.bind_eq_some_iff.1 shown
  obtain ⟨widget, get, pair⟩ := Option.map_eq_some_iff.1 found
  obtain ⟨isBound, named⟩ := Bindings.mem_of_get? get
  obtain ⟨domain, value⟩ := Prod.mk.inj pair
  exact ⟨reached, bindings, bound, widget, isBound, named,
    widgets_wellFormed _ _ reached bindings bound widget isBound, domain, value⟩

end World

end MediaFilter
