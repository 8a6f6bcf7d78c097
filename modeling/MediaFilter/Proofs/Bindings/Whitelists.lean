import Mathlib.Data.List.DropRight
import Mathlib.Data.List.Pairwise
import MediaFilter.Proofs.Bindings.Regularity
import MediaFilter.Proofs.Text.ByteOrder
import MediaFilter.Proofs.YearShorthand

/-!
What the pickers of tags and of years offer, told from everything that was done with the widgets:
the tags of the choices that came last, in the grouping that was set last, and the years of those
choices with what the shorthand adds that was typed last since they came.
-/

namespace MediaFilter

namespace TagCatalog

/-- The same entries in the order of the bytes of their values; equal values keep their order. -/
structure Alphabetizes (entries listed : List WhitelistEntry) : Prop where
  perm : listed.Perm entries
  ordered : listed.Pairwise fun first second =>
    Text.bytes first.value ≤ Text.bytes second.value
  stable : ∀ value, listed.filter (fun entry => entry.value = value) =
    entries.filter fun entry => entry.value = value

theorem alphabetizes_entries (catalog : TagCatalog) :
    Alphabetizes (catalog.entries .grouped) (catalog.entries .alphabetical) := by
  have transitive : ∀ first second third : WhitelistEntry,
      decide (first.value ≤ second.value) = true → decide (second.value ≤ third.value) = true →
        decide (first.value ≤ third.value) = true := by
    simp only [decide_eq_true_eq]
    exact fun _ _ _ => le_trans
  have total : ∀ first second : WhitelistEntry,
      (decide (first.value ≤ second.value) || decide (second.value ≤ first.value)) = true := by
    simp only [Bool.or_eq_true, decide_eq_true_eq]
    exact fun first second => le_total first.value second.value
  have perm := List.mergeSort_perm catalog.groupedEntries
    fun first second => decide (first.value ≤ second.value)
  refine ⟨perm, ?_, ?_⟩
  · refine (List.pairwise_mergeSort transitive total catalog.groupedEntries).imp ?_
    intro first second le
    exact Text.bytes_le_iff.2 (of_decide_eq_true le)
  · intro value
    have alike : (catalog.groupedEntries.filter fun entry => entry.value = value).Pairwise
        fun first second => decide (first.value ≤ second.value) = true := by
      apply List.pairwise_of_forall_mem_list
      simp only [List.mem_filter, decide_eq_true_eq]
      rintro first ⟨_, rfl⟩ second ⟨_, same⟩
      exact le_of_eq same.symm
    have kept := (List.sublist_mergeSort transitive total alike List.filter_sublist).filter
      fun entry => entry.value = value
    rw [List.filter_filter] at kept
    simp only [Bool.and_self] at kept
    exact (kept.eq_of_length (perm.filter _).length_eq.symm).symm

end TagCatalog

namespace Widget

theorem whitelist_apply (edit : Edit) (widget : Widget) :
    (widget.apply edit).widget.whitelist = widget.whitelist := by
  unfold apply
  split <;> rfl

theorem definition_apply (edit : Edit) (widget : Widget) :
    (widget.apply edit).widget.definition = widget.definition := by
  unfold apply
  split <;> rfl

theorem whitelist_reset (widget : Widget) :
    widget.reset.result.1.whitelist = widget.whitelist := by
  unfold reset
  split <;> rfl

theorem whitelist_setDomain (domain : RangeDomain) (widget : Widget) :
    (widget.setDomain domain).result.whitelist = widget.whitelist := by
  unfold setDomain
  split <;> rfl

end Widget

namespace Bindings

def offers? (bindings : Bindings) (name : FilterName) : Option (List WhitelistEntry) :=
  (bindings.get? name).map Widget.whitelist

def Proper (bindings : Bindings) : Prop :=
  ∀ widget ∈ bindings.widgets, widget.definition = widget.name.definition

inductive Use where
  | accept (choices : Choices)
  | regroup (grouping : TagGrouping)
  | offerYears (input : String)
  | change (name : FilterName) (edit : Edit)
  | clear
  | subscribe
  | bindUserLists (userLists : List UserList) (stored : Expression) (subscribed : Bool)
  | unbind (name : FilterName)

namespace Use

def apply (bindings : Bindings) : Use → Bindings
  | .accept choices => (bindings.accept choices).result.1
  | .regroup grouping => (bindings.setTagGrouping grouping).result.1
  | .offerYears input => (bindings.offerYears input).result.1
  | .change name edit => ((bindings.edit? name edit).map Edited.bindings).getD bindings
  | .clear => bindings.clear.result.1
  | .subscribe => bindings.subscribeAll
  | .bindUserLists userLists stored subscribed =>
    (bindings.bindUserLists userLists stored subscribed).result.1
  | .unbind name => (bindings.unbind name).result.1

def choices? : Use → Option Choices
  | .accept choices => some choices
  | _ => none

def grouping? : Use → Option TagGrouping
  | .regroup grouping => some grouping
  | _ => none

def input? : Use → Option String
  | .offerYears input => some input
  | _ => none

def unbinds (name : FilterName) : Use → Bool
  | .unbind other => other = name
  | _ => false

/-- What a filter offers after a use that does not unbind it, given what it offered before. -/
def offered (bindings : Bindings) (name : FilterName) (before : List WhitelistEntry) :
    Use → List WhitelistEntry
  | .accept choices =>
    match name.definition.source with
    | some (.values field) => choices.whitelist field bindings.grouping
    | _ => before
  | .regroup grouping => if name = .tag then bindings.catalog.entries grouping else before
  | .offerYears input =>
    if name = .year then YearShorthand.expand input bindings.years else before
  | _ => before

end Use

def after (bindings : Bindings) (uses : List Use) : Bindings := uses.foldl Use.apply bindings

structure Maps (change : Widget → Widget) (before after : Bindings) : Prop where
  widgets : after.widgets = before.widgets.map change
  definition : ∀ widget ∈ before.widgets, (change widget).definition = widget.definition

section

variable {before after : Bindings} {change : Widget → Widget} (maps : Maps change before after)

include maps

theorem Maps.name : ∀ widget ∈ before.widgets, (change widget).name = widget.name :=
  fun widget isBound => congrArg Definition.name (maps.definition widget isBound)

theorem Maps.names : after.names = before.names := names_of_map maps.widgets maps.name

theorem Maps.get? (name : FilterName) : after.get? name = (before.get? name).map change :=
  get?_of_map change maps.widgets maps.name name

theorem Maps.offers? {name : FilterName} {offered : List WhitelistEntry → List WhitelistEntry}
    (kept : ∀ widget, before.get? name = some widget →
      (change widget).whitelist = offered widget.whitelist) :
    after.offers? name = (before.offers? name).map offered := by
  unfold Bindings.offers?
  rw [maps.get? name]
  cases found : before.get? name with
  | none => rfl
  | some widget => exact congrArg some (kept widget found)

theorem Maps.proper (proper : before.Proper) : after.Proper := by
  intro widget member
  rw [maps.widgets] at member
  obtain ⟨old, isBound, rfl⟩ := List.mem_map.1 member
  rw [Widget.name, maps.definition old isBound]
  exact proper old isBound

end

theorem maps_update (bindings : Bindings) (name : FilterName) {change : Widget → Drawn Widget}
    (definition : ∀ widget ∈ bindings.widgets, widget.name = name →
      (change widget).result.definition = widget.definition) :
    Maps (fun widget => if widget.name = name then (change widget).result else widget) bindings
      (bindings.update name change).result := by
  constructor
  · unfold update
    simp only [Traced.result_map, Traced.result_each, withWidgets]
    apply List.map_congr_left
    intro widget _
    split <;> rfl
  · intro widget isBound
    split
    · rename_i named
      exact definition widget isBound named
    · rfl

theorem maps_accept (bindings : Bindings) (choices : Choices) :
    Maps (fun widget => (acceptOne choices bindings.grouping widget).result.1) bindings
      (bindings.accept choices).result.1 :=
  ⟨by simp [accept], fun widget _ => (remains_acceptOne choices _ widget).definition⟩

theorem maps_clear (bindings : Bindings) :
    Maps (fun widget => (clearOne widget).result.1) bindings bindings.clear.result.1 :=
  ⟨by simp [clear, withWidgets, clearOne], fun widget _ => (remains_clearOne widget).definition⟩

theorem maps_subscribeAll (bindings : Bindings) :
    Maps Widget.subscribe bindings bindings.subscribeAll :=
  ⟨rfl, fun _ _ => rfl⟩

theorem maps_offer (bindings : Bindings) (name : FilterName) (entries : List WhitelistEntry) :
    Maps (fun widget => if widget.name = name then (widget.setWhitelist entries).result else widget)
      bindings (bindings.offer name entries).result.1 :=
  maps_update bindings name fun _ _ _ => rfl

theorem offers?_offer (bindings : Bindings) (name other : FilterName)
    (entries : List WhitelistEntry) :
    (bindings.offer name entries).result.1.offers? other =
      (bindings.offers? other).map fun before => if other = name then entries else before := by
  apply (maps_offer bindings name entries).offers?
  intro widget found
  rw [(mem_of_get? found).2]
  split <;> rfl

theorem Proper.offers?_accept {bindings : Bindings} (proper : bindings.Proper)
    (choices : Choices) (name : FilterName) :
    (bindings.accept choices).result.1.offers? name = (bindings.offers? name).map fun before =>
      Use.offered bindings name before (.accept choices) := by
  apply (maps_accept bindings choices).offers?
  intro widget found
  obtain ⟨isBound, named⟩ := mem_of_get? found
  have own := proper widget isBound
  rw [named] at own
  unfold acceptOne Use.offered
  rw [own]
  cases name.definition.source with
  | none => rfl
  | some source =>
      cases source with
      | values field => rfl
      | bounds field =>
          dsimp only
          split
          · exact widget.whitelist_setDomain _
          · rfl
      | _ => rfl

theorem apply_change_of_absent {bindings : Bindings} {name : FilterName}
    (absent : bindings.get? name = none) (edit : Edit) :
    (Use.change name edit).apply bindings = bindings := by
  simp [Use.apply, edit?, absent]

theorem maps_change {bindings : Bindings} {name : FilterName} {widget : Widget}
    (found : bindings.get? name = some widget) (proper : bindings.Proper) (edit : Edit) :
    Maps (fun other => if other.name = name then (widget.apply edit).widget else other) bindings
      ((Use.change name edit).apply bindings) := by
  have edited : (Use.change name edit).apply bindings =
      (bindings.update name fun _ => .still (widget.apply edit).widget).result := by
    simp [Use.apply, edit?, found]
  rw [edited]
  refine @maps_update bindings name (fun _ => .still (widget.apply edit).widget) ?_
  intro other isBound named
  obtain ⟨wasBound, ownName⟩ := mem_of_get? found
  rw [Traced.result_still, Widget.definition_apply, proper widget wasBound, proper other isBound,
    named, ownName]

theorem Proper.offers?_change {bindings : Bindings} (proper : bindings.Proper)
    (name other : FilterName) (edit : Edit) :
    ((Use.change name edit).apply bindings).offers? other = bindings.offers? other := by
  cases found : bindings.get? name with
  | none => rw [apply_change_of_absent found]
  | some widget =>
      refine ((maps_change found proper edit).offers? ?_).trans (congrFun Option.map_id _)
      intro old isOld
      split
      · rename_i named
        rw [(mem_of_get? isOld).2] at named
        rw [named, found] at isOld
        rw [Widget.whitelist_apply, Option.some.inj isOld]
        rfl
      · rfl

theorem get?_place_of_ne {bindings : Bindings} {added : Widget} {name : FilterName}
    (other : added.name ≠ name) : (bindings.place added).get? name = bindings.get? name := by
  obtain ⟨front, back, parted, placed⟩ := bindings.exists_place added
  rw [get?, get?, placed, parted, List.find?_append, List.find?_append,
    List.find?_cons_of_neg (by simpa using other)]

theorem get?_unbind_of_ne {bindings : Bindings} {name removed : FilterName}
    (other : name ≠ removed) :
    (bindings.unbind removed).result.1.get? name = bindings.get? name := by
  rw [get?, get?, widgets_unbind, List.find?_filter]
  congr 1
  funext widget
  by_cases named : widget.name = name
  · simp [named, other]
  · simp [named]

theorem get?_bindUserLists_of_ne {bindings : Bindings} {name : FilterName}
    (other : name ≠ .userList) (userLists : List UserList) (stored : Expression)
    (subscribed : Bool) :
    (bindings.bindUserLists userLists stored subscribed).result.1.get? name =
      bindings.get? name := by
  rcases bindUserLists_eq bindings userLists stored subscribed with
    ⟨_, unchanged⟩ | ⟨_, _, picker, definition, _, bound⟩
  · rw [unchanged]
    rfl
  · have isPicker : picker.name = .userList := congrArg Definition.name definition
    rw [bound, get?_place_of_ne (by rw [isPicker]; exact other.symm), get?_unbind_of_ne other]

theorem Proper.unbind {bindings : Bindings} (proper : bindings.Proper) (name : FilterName) :
    (bindings.unbind name).result.1.Proper :=
  fun widget isBound => proper widget (mem_unbind.1 isBound).1

theorem Proper.bindUserLists {bindings : Bindings} (proper : bindings.Proper)
    (userLists : List UserList) (stored : Expression) (subscribed : Bool) :
    (bindings.bindUserLists userLists stored subscribed).result.1.Proper := by
  rcases bindUserLists_eq bindings userLists stored subscribed with
    ⟨_, unchanged⟩ | ⟨_, _, picker, definition, _, bound⟩
  · rw [unchanged]
    exact proper
  · rw [bound]
    intro widget isBound
    rcases mem_place.1 isBound with rfl | isBound
    · rw [Widget.name, definition]
      rfl
    · exact proper.unbind .userList widget isBound

theorem Proper.apply {bindings : Bindings} (proper : bindings.Proper) (use : Use) :
    (use.apply bindings).Proper := by
  cases use with
  | accept choices => exact (maps_accept bindings choices).proper proper
  | regroup grouping => exact (maps_offer { bindings with grouping } _ _).proper proper
  | offerYears input => exact (maps_offer bindings _ _).proper proper
  | change name edit =>
      cases found : bindings.get? name with
      | none => rwa [apply_change_of_absent found]
      | some widget => exact (maps_change found proper edit).proper proper
  | clear => exact (maps_clear bindings).proper proper
  | subscribe => exact (maps_subscribeAll bindings).proper proper
  | bindUserLists userLists stored subscribed => exact proper.bindUserLists _ _ _
  | unbind name => exact proper.unbind name

theorem Proper.offers?_apply {bindings : Bindings} (proper : bindings.Proper) (use : Use)
    {name : FilterName} (other : name ≠ .userList) :
    (use.apply bindings).offers? name =
      if use.unbinds name then none
      else (bindings.offers? name).map fun before => use.offered bindings name before := by
  have kept : ∀ after : Bindings, after.get? name = bindings.get? name →
      after.offers? name = (bindings.offers? name).map fun before => before := by
    intro after same
    rw [offers?, same, Option.map_id']
    rfl
  cases use with
  | accept choices => exact proper.offers?_accept choices name
  | regroup grouping => exact offers?_offer { bindings with grouping } .tag name _
  | offerYears input => exact offers?_offer bindings .year name _
  | change edited edit =>
      rw [proper.offers?_change edited name edit]
      exact (Option.map_id' (x := bindings.offers? name)).symm
  | clear =>
      refine (maps_clear bindings).offers? fun widget _ => ?_
      unfold clearOne
      split
      · rfl
      · exact widget.whitelist_reset
  | subscribe => exact (maps_subscribeAll bindings).offers? fun _ _ => rfl
  | bindUserLists userLists stored subscribed =>
      exact kept _ (get?_bindUserLists_of_ne other userLists stored subscribed)
  | unbind removed =>
      by_cases same : removed = name
      · rw [Use.unbinds, if_pos (by simpa using same), Use.apply, offers?, same, get?_unbind]
        rfl
      · rw [Use.unbinds, if_neg (by simpa using same)]
        exact kept _ (get?_unbind_of_ne fun isRemoved => same isRemoved.symm)

structure Remembers (before after : Bindings) : Prop where
  grouping : after.grouping = before.grouping
  catalog : after.catalog = before.catalog
  years : after.years = before.years

theorem remembers_unbind (bindings : Bindings) (name : FilterName) :
    bindings.Remembers (bindings.unbind name).result.1 := by
  unfold unbind
  split <;> exact ⟨rfl, rfl, rfl⟩

theorem remembers_bindUserLists (bindings : Bindings) (userLists : List UserList)
    (stored : Expression) (subscribed : Bool) :
    bindings.Remembers (bindings.bindUserLists userLists stored subscribed).result.1 := by
  rcases bindUserLists_eq bindings userLists stored subscribed with
    ⟨_, unchanged⟩ | ⟨_, _, _, _, _, bound⟩
  · rw [unchanged]
    exact ⟨rfl, rfl, rfl⟩
  · have unbound := remembers_unbind bindings .userList
    rw [bound]
    exact ⟨unbound.grouping, unbound.catalog, unbound.years⟩

theorem remembers_change (bindings : Bindings) (name : FilterName) (edit : Edit) :
    bindings.Remembers ((Use.change name edit).apply bindings) := by
  cases found : bindings.get? name with
  | none =>
      rw [apply_change_of_absent found]
      exact ⟨rfl, rfl, rfl⟩
  | some widget =>
      simp only [Use.apply, edit?, found, Option.map_some, Option.getD_some]
      exact ⟨rfl, rfl, rfl⟩

def latest? {α : Type} (told : Use → Option α) (uses : List Use) : Option α :=
  (uses.filterMap told).getLast?

def latestChoices (uses : List Use) : Choices := (latest? Use.choices? uses).getD .empty

def latestGrouping (first : TagGrouping) (uses : List Use) : TagGrouping :=
  (latest? Use.grouping? uses).getD first

/-- The shorthand that was typed last since choices came. -/
def latestInput? (uses : List Use) : Option String :=
  latest? Use.input? (uses.rtakeWhile fun use => use.choices?.isNone)

def knownYears (choices : Choices) : List WhitelistEntry :=
  choices.seasonYear.map WhitelistEntry.plain

/-- The years that came last, with what the shorthand adds if one was typed since. -/
def latestYears (uses : List Use) : List WhitelistEntry :=
  match latestInput? uses with
  | none => knownYears (latestChoices uses)
  | some input => YearShorthand.expand input (knownYears (latestChoices uses))

def StaysBound (entity : EntityType) (uses : List Use) (name : FilterName) : Prop :=
  name ∈ entity.filterSet ∧ ∀ use ∈ uses, use.unbinds name = false

section

variable (uses : List Use) (use : Use)

theorem latest?_append {α : Type} (told : Use → Option α) :
    latest? told (uses ++ [use]) = (told use).or (latest? told uses) := by
  unfold latest?
  rw [List.filterMap_append, List.getLast?_append]
  cases tells : told use with
  | none => simp [tells]
  | some value => simp [tells]

theorem latestChoices_append :
    latestChoices (uses ++ [use]) = use.choices?.getD (latestChoices uses) := by
  rw [latestChoices, latest?_append, Option.getD_or]
  rfl

theorem latestGrouping_append (first : TagGrouping) :
    latestGrouping first (uses ++ [use]) = use.grouping?.getD (latestGrouping first uses) := by
  rw [latestGrouping, latest?_append, Option.getD_or]
  rfl

theorem latestInput?_append : latestInput? (uses ++ [use]) =
    if use.choices?.isNone then use.input?.or (latestInput? uses) else none := by
  rw [latestInput?, List.rtakeWhile_concat]
  split
  · rw [latest?_append]
    rfl
  · rfl

end

/-- Widgets that were bound for an entity type, after some uses. -/
structure Recalls (entity : EntityType) (first : TagGrouping) (uses : List Use)
    (bindings : Bindings) : Prop where
  proper : bindings.Proper
  grouping : bindings.grouping = latestGrouping first uses
  catalog : bindings.catalog = (latestChoices uses).tags
  years : bindings.years = knownYears (latestChoices uses)
  keeps : ∀ name, name ≠ .userList →
    ((bindings.offers? name).isSome = true ↔ StaysBound entity uses name)
  tags : ∀ listed ∈ bindings.offers? .tag,
    listed = (latestChoices uses).tags.entries (latestGrouping first uses)
  expanded : ∀ listed ∈ bindings.offers? .year, listed = latestYears uses

section

variable {entity : EntityType} {grouping : TagGrouping} {uses : List Use} {bindings : Bindings}
  (recalls : Recalls entity grouping uses bindings) (use : Use)

include recalls

theorem Recalls.grouping_apply :
    (use.apply bindings).grouping = latestGrouping grouping (uses ++ [use]) := by
  rw [latestGrouping_append, ← recalls.grouping]
  cases use with
  | change name edit => exact (remembers_change bindings name edit).grouping
  | bindUserLists userLists stored subscribed =>
      exact (remembers_bindUserLists bindings userLists stored subscribed).grouping
  | unbind name => exact (remembers_unbind bindings name).grouping
  | _ => rfl

theorem Recalls.catalog_apply :
    (use.apply bindings).catalog = (latestChoices (uses ++ [use])).tags := by
  have kept := recalls.catalog
  rw [latestChoices_append]
  cases use with
  | accept choices => rfl
  | change name edit => exact (remembers_change bindings name edit).catalog.trans kept
  | bindUserLists userLists stored subscribed =>
      exact (remembers_bindUserLists bindings userLists stored subscribed).catalog.trans kept
  | unbind name => exact (remembers_unbind bindings name).catalog.trans kept
  | _ => exact kept

theorem Recalls.years_apply :
    (use.apply bindings).years = knownYears (latestChoices (uses ++ [use])) := by
  have kept := recalls.years
  rw [latestChoices_append]
  cases use with
  | accept choices => rfl
  | change name edit => exact (remembers_change bindings name edit).years.trans kept
  | bindUserLists userLists stored subscribed =>
      exact (remembers_bindUserLists bindings userLists stored subscribed).years.trans kept
  | unbind name => exact (remembers_unbind bindings name).years.trans kept
  | _ => exact kept

theorem Recalls.keeps_apply (name : FilterName) (other : name ≠ .userList) :
    ((use.apply bindings).offers? name).isSome = true ↔ StaysBound entity (uses ++ [use]) name := by
  rw [recalls.proper.offers?_apply use other]
  have before := recalls.keeps name other
  unfold StaysBound at before ⊢
  rw [List.forall_mem_append, List.forall_mem_singleton, ← and_assoc, ← before]
  cases use.unbinds name <;> simp

theorem Recalls.offered_tag : use.offered bindings .tag
      ((latestChoices uses).tags.entries (latestGrouping grouping uses)) =
    (latestChoices (uses ++ [use])).tags.entries (latestGrouping grouping (uses ++ [use])) := by
  rw [latestChoices_append, latestGrouping_append]
  cases use with
  | accept choices => exact congrArg choices.tags.entries recalls.grouping
  | regroup grouping =>
      exact congrArg (fun catalog : TagCatalog => catalog.entries grouping) recalls.catalog
  | _ => rfl

theorem Recalls.offered_year :
    use.offered bindings .year (latestYears uses) = latestYears (uses ++ [use]) := by
  unfold latestYears
  rw [latestChoices_append, latestInput?_append]
  cases use with
  | accept choices => rfl
  | offerYears input => exact congrArg (YearShorthand.expand input) recalls.years
  | _ => rfl

theorem Recalls.apply : Recalls entity grouping (uses ++ [use]) (use.apply bindings) := by
  have offered : ∀ name, name ≠ .userList → ∀ listed ∈ (use.apply bindings).offers? name,
      ∃ before ∈ bindings.offers? name, use.offered bindings name before = listed := by
    intro name other listed
    rw [recalls.proper.offers?_apply use other]
    split
    · rintro ⟨⟩
    · exact Option.map_eq_some_iff.1
  refine ⟨recalls.proper.apply use, recalls.grouping_apply use, recalls.catalog_apply use,
    recalls.years_apply use, recalls.keeps_apply use, ?_, ?_⟩
  · intro listed isOffered
    obtain ⟨before, was, rfl⟩ := offered .tag (by decide) listed isOffered
    rw [recalls.tags before was]
    exact recalls.offered_tag use
  · intro listed isOffered
    obtain ⟨before, was, rfl⟩ := offered .year (by decide) listed isOffered
    rw [recalls.expanded before was]
    exact recalls.offered_year use

end

theorem whitelist_bindOne (entity : EntityType) (stored : Expression) (definition : Definition) :
    (bindOne entity stored definition).result.whitelist = [] := by
  unfold bindOne Widget.bind
  split <;> rfl

theorem offers?_bind {entity : EntityType} {stored : Expression} {grouping : TagGrouping}
    {name : FilterName} {listed : List WhitelistEntry}
    (isOffered : (bind entity stored grouping).result.offers? name = some listed) :
    listed = [] := by
  obtain ⟨widget, found, rfl⟩ := Option.map_eq_some_iff.1 isOffered
  obtain ⟨other, _, _, rfl⟩ := mem_widgets_bind.1 (mem_of_get? found).1
  exact whitelist_bindOne entity stored _

theorem recalls_bind (entity : EntityType) (stored : Expression) (grouping : TagGrouping) :
    Recalls entity grouping [] (bind entity stored grouping).result := by
  refine ⟨?_, rfl, rfl, rfl, ?_, ?_, fun _ => offers?_bind⟩
  · intro widget isBound
    obtain ⟨name, _, _, rfl⟩ := mem_widgets_bind.1 isBound
    rw [name_bindOne, definition_bindOne]
  · intro name other
    rw [offers?, Option.isSome_map, ← Option.ne_none_iff_isSome, ne_eq, get?_eq_none_iff, not_not,
      names_bind, List.mem_filter, decide_eq_true_eq]
    exact and_congr_right' ⟨fun _ _ member => absurd member List.not_mem_nil, fun _ => other⟩
  · intro listed isOffered
    rw [offers?_bind isOffered]
    cases grouping with
    | grouped => rfl
    | alphabetical => exact List.mergeSort_nil.symm

theorem recalls_after (entity : EntityType) (stored : Expression) (grouping : TagGrouping)
    (uses : List Use) :
    Recalls entity grouping uses ((bind entity stored grouping).result.after uses) := by
  induction uses using List.reverseRecOn with
  | nil => exact recalls_bind entity stored grouping
  | append_singleton uses use recalls =>
      rw [after, List.foldl_append]
      exact recalls.apply use

/-- Whatever was done with the widgets, the picker of tags lists the catalog that came last as the
grouping now has it: as it was sent, or sorted by the bytes of the tags with nothing lost, doubled
or put elsewhere.  The picker of years lists the years that came last, with what the shorthand adds
that was typed last since.  Both are bound unless the filter is unknown for the entity type or was
unbound, and what brings no choices, no grouping and no shorthand leaves them as they are. -/
theorem whitelists_of_history (entity : EntityType) (stored : Expression) (grouping : TagGrouping)
    (uses : List Use) :
    let bindings := (bind entity stored grouping).result.after uses
    let tags := (latestChoices uses).tags
    (∀ picker ∈ bindings.get? .tag,
      picker.whitelist = tags.entries (latestGrouping grouping uses)) ∧
    (tags.entries .grouped = tags.groups.flatMap fun group =>
      group.2.map fun tag => ⟨tag, tag, some group.1⟩) ∧
    TagCatalog.Alphabetizes (tags.entries .grouped) (tags.entries .alphabetical) ∧
    (∀ picker ∈ bindings.get? .year, picker.whitelist = latestYears uses) ∧
    (∀ name ∈ [FilterName.tag, .year],
      ((bindings.get? name).isSome = true ↔ StaysBound entity uses name) ∧
      ∀ use : Use, use.choices? = none → use.grouping? = none → use.input? = none →
        use.unbinds name = false →
          (use.apply bindings).offers? name = bindings.offers? name) := by
  intro bindings tags
  have recalls : Recalls entity grouping uses bindings := recalls_after entity stored grouping uses
  refine ⟨?_, rfl, tags.alphabetizes_entries, ?_, ?_⟩
  · intro picker found
    exact recalls.tags _ (Option.map_eq_some_iff.2 ⟨picker, found, rfl⟩)
  · intro picker found
    exact recalls.expanded _ (Option.map_eq_some_iff.2 ⟨picker, found, rfl⟩)
  · intro name isEither
    have other : name ≠ .userList := by
      rintro rfl
      exact absurd isEither (by decide)
    refine ⟨?_, ?_⟩
    · have keeps := recalls.keeps name other
      rwa [offers?, Option.isSome_map] at keeps
    · intro use unaccepted ungrouped untyped stays
      rw [recalls.proper.offers?_apply use other, stays]
      have same : use.offered bindings name = id := by
        cases use with
        | accept choices => cases unaccepted
        | regroup grouping => cases ungrouped
        | offerYears input => cases untyped
        | _ => rfl
      rw [same, Option.map_id]
      rfl

/-- The picker of years lists the known years and then what the shorthand adds, told from its form;
where none was typed since the years came, nothing is added. -/
theorem years_of_history (entity : EntityType) (stored : Expression) (grouping : TagGrouping)
    (uses : List Use) {picker : Widget}
    (found : ((bind entity stored grouping).result.after uses).get? .year = some picker) :
    ∃ added, picker.whitelist = knownYears (latestChoices uses) ++ added ∧
      (latestInput? uses = none → added = []) ∧
      ∀ input ∈ latestInput? uses,
        YearShorthand.Adds input (knownYears (latestChoices uses)) added := by
  have recalls := recalls_after entity stored grouping uses
  have listed : picker.whitelist = latestYears uses :=
    recalls.expanded _ (Option.map_eq_some_iff.2 ⟨picker, found, rfl⟩)
  rw [listed, latestYears]
  cases latestInput? uses with
  | none => exact ⟨[], (List.append_nil _).symm, fun _ => rfl, fun _ => nofun⟩
  | some input =>
      refine ⟨_, rfl, nofun, ?_⟩
      rintro _ ⟨⟩
      exact YearShorthand.adds_ranges input _

end Bindings

end MediaFilter
