import Mathlib.Data.List.Induction
import MediaFilter.Proofs.Bindings.Whitelists

/-!
The order of the bound widgets.  Their filters are a part of those shown for the entity type, in
the order in which these are shown, whatever is bound and unbound: a widget is placed in front of
the first one that is shown behind it, which is its own place in any such part.
-/

namespace MediaFilter

section

variable {α : Type} [DecidableEq α] {part whole earlier later : List α} {element : α}

theorem filter_mem_of_sublist (sublist : part.Sublist whole) (distinct : whole.Nodup) :
    whole.filter (fun other => other ∈ part) = part := by
  induction sublist with
  | slnil => rfl
  | cons other sublist induction =>
      rw [List.nodup_cons] at distinct
      have absent : other ∉ _ := fun member => distinct.1 (sublist.subset member)
      rw [List.filter_cons_of_neg (by simpa using absent)]
      exact induction distinct.2
  | @cons_cons part whole other sublist induction =>
      rw [List.nodup_cons] at distinct
      rw [List.filter_cons_of_pos (by simp)]
      refine congrArg (other :: ·) (Eq.trans ?_ (induction distinct.2))
      apply List.filter_congr
      intro another member
      have different : another ≠ other := by
        rintro rfl
        exact distinct.1 member
      simp [different]

theorem placed_eq_filter (distinct : (earlier ++ element :: later).Nodup)
    (sublist : part.Sublist (earlier ++ element :: later)) (absent : element ∉ part) :
    part.takeWhile (fun other => !later.contains other) ++
        element :: part.dropWhile (fun other => !later.contains other) =
      (earlier ++ element :: later).filter fun other => other = element ∨ other ∈ part := by
  obtain ⟨front, back, rfl, ofEarlier, ofRest⟩ := List.sublist_append_iff.1 sublist
  have ofLater : back.Sublist later := by
    rcases List.sublist_cons_iff.1 ofRest with ofLater | ⟨rest, rfl, _⟩
    · exact ofLater
    · exact absurd (List.mem_append_right _ List.mem_cons_self) absent
  have passed : ∀ other ∈ front, (!later.contains other) = true := by
    intro other member
    have apart := (List.nodup_append.1 distinct).2.2 other (ofEarlier.subset member)
    simpa using fun behind : other ∈ later => apart other (List.mem_cons_of_mem _ behind) rfl
  have stops : back.takeWhile (fun other => !later.contains other) = [] ∧
      back.dropWhile (fun other => !later.contains other) = back := by
    cases back with
    | nil => exact ⟨rfl, rfl⟩
    | cons other back =>
        have behind : other ∈ later := ofLater.subset List.mem_cons_self
        simp [behind]
  rw [List.takeWhile_append_of_pos passed, List.dropWhile_append_of_pos passed, stops.1, stops.2,
    List.append_nil]
  have placed : (front ++ element :: back).Sublist (earlier ++ element :: later) :=
    ofEarlier.append (ofLater.cons_cons element)
  refine (filter_mem_of_sublist placed distinct).symm.trans (List.filter_congr fun other _ => ?_)
  simp only [List.mem_append, List.mem_cons, decide_eq_decide]
  tauto

end

namespace Bindings

/-- Whether the bound filters are among those of an entity type, in the order in which these are
shown. -/
structure Ordered (entity : EntityType) (bindings : Bindings) : Prop where
  ofEntity : bindings.entity = entity
  names : bindings.names.Sublist entity.filterSet

theorem laterThan_of_eq {entity : EntityType} {name : FilterName} {earlier later : List FilterName}
    (shown : entity.filterSet = earlier ++ name :: later) : laterThan entity name = later := by
  have distinct := entity.filterSet_nodup
  rw [shown] at distinct
  have before : ∀ other ∈ earlier, decide (other ≠ name) = true := by
    intro other member
    exact decide_eq_true ((List.nodup_append.1 distinct).2.2 other member name List.mem_cons_self)
  rw [laterThan, shown, List.dropWhile_append_of_pos before, List.dropWhile_cons_of_neg (by simp)]
  rfl

theorem filter_widgets_place {bindings : Bindings} {added : Widget} {keep : Widget → Bool}
    (passed : keep added = false) :
    (bindings.place added).widgets.filter keep = bindings.widgets.filter keep := by
  obtain ⟨front, back, parted, placed⟩ := bindings.exists_place added
  rw [placed, parted, List.filter_append, List.filter_append,
    List.filter_cons_of_neg (by simp [passed])]

section

variable {entity : EntityType} {bindings : Bindings} (ordered : bindings.Ordered entity)

include ordered

theorem Ordered.distinct : bindings.names.Nodup := ordered.names.nodup entity.filterSet_nodup

theorem Ordered.names_place {added : Widget} (offered : added.name ∈ entity.filterSet)
    (absent : added.name ∉ bindings.names) :
    (bindings.place added).names =
      entity.filterSet.filter fun name => name = added.name ∨ name ∈ bindings.names := by
  obtain ⟨earlier, later, shown⟩ := List.append_of_mem offered
  have distinct := entity.filterSet_nodup
  have sublist := ordered.names
  rw [shown] at distinct sublist
  rw [shown, ← placed_eq_filter distinct sublist absent]
  simp only [place, Bindings.names, withWidgets, List.map_append, List.map_cons, List.takeWhile_map,
    List.dropWhile_map, ordered.ofEntity, laterThan_of_eq shown]
  rfl

theorem Ordered.unbind (name : FilterName) : (bindings.unbind name).result.1.Ordered entity := by
  refine ⟨by rw [entity_unbind, ordered.ofEntity], ?_⟩
  rw [names_unbind]
  exact List.filter_sublist.trans ordered.names

theorem Ordered.names_place_unbind {picker : Widget} (isPicker : picker.name = .userList)
    (offered : .userList ∈ entity.filterSet) :
    ((bindings.unbind .userList).result.1.place picker).names =
      entity.filterSet.filter fun name => name = .userList ∨ name ∈ bindings.names := by
  have absent : picker.name ∉ (bindings.unbind .userList).result.1.names := by
    rw [isPicker]
    exact not_mem_names_unbind bindings .userList
  rw [(ordered.unbind .userList).names_place (by rwa [isPicker]) absent, isPicker, names_unbind]
  apply List.filter_congr
  intro name _
  by_cases same : name = .userList <;> simp [same]

theorem Ordered.bindUserLists (userLists : List UserList) (stored : Expression)
    (subscribed : Bool) :
    (bindings.bindUserLists userLists stored subscribed).result.1.Ordered entity := by
  rcases bindUserLists_eq bindings userLists stored subscribed with
    ⟨_, unchanged⟩ | ⟨offered, _, picker, definition, _, bound⟩
  · rw [unchanged]
    exact ordered
  · have isPicker : picker.name = .userList := congrArg Definition.name definition
    refine ⟨by rw [entity_bindUserLists, ordered.ofEntity], ?_⟩
    rw [ordered.ofEntity] at offered
    rw [bound, ordered.names_place_unbind isPicker offered]
    exact List.filter_sublist

theorem Ordered.of_maps {after : Bindings} {change : Widget → Widget}
    (maps : Maps change bindings after) (same : after.entity = bindings.entity) :
    after.Ordered entity := by
  refine ⟨same.trans ordered.ofEntity, ?_⟩
  rw [maps.names]
  exact ordered.names

theorem Ordered.apply (proper : bindings.Proper) (use : Use) :
    (use.apply bindings).Ordered entity := by
  cases use with
  | accept choices => exact ordered.of_maps (maps_accept bindings choices) rfl
  | regroup grouping =>
      have regrouped : { bindings with grouping }.Ordered entity :=
        ⟨ordered.ofEntity, ordered.names⟩
      exact regrouped.of_maps (maps_offer { bindings with grouping } _ _) rfl
  | offerYears input => exact ordered.of_maps (maps_offer bindings _ _) rfl
  | change name edit =>
      cases found : bindings.get? name with
      | none => rwa [apply_change_of_absent found]
      | some widget =>
          refine ordered.of_maps (maps_change found proper edit) ?_
          simp only [Use.apply, edit?, found, Option.map_some, Option.getD_some]
          rfl
  | clear => exact ordered.of_maps (maps_clear bindings) rfl
  | subscribe => exact ordered.of_maps (maps_subscribeAll bindings) rfl
  | bindUserLists userLists stored subscribed => exact ordered.bindUserLists _ _ _
  | unbind name => exact ordered.unbind name

end

theorem ordered_after (entity : EntityType) (stored : Expression) (grouping : TagGrouping)
    (uses : List Use) : ((bind entity stored grouping).result.after uses).Ordered entity := by
  induction uses using List.reverseRecOn with
  | nil =>
      refine ⟨rfl, ?_⟩
      rw [after, List.foldl_nil, names_bind]
      exact List.filter_sublist
  | append_singleton uses use ordered =>
      rw [after, List.foldl_append]
      exact ordered.apply (recalls_after entity stored grouping uses).proper use

/-- Whatever is bound and unbound, the widgets stand in the order in which their filters are shown
for the entity type, one for a filter at most.  Binding the lists of a user either does nothing at
all or puts a single picker in its place among the others, which stay as they are. -/
theorem display_order (entity : EntityType) (stored : Expression) (grouping : TagGrouping)
    (uses : List Use) :
    let bound := (bind entity stored grouping).result
    let bindings := bound.after uses
    bound.names = entity.filterSet.filter (fun name => name ≠ .userList) ∧
    bindings.names.Sublist entity.filterSet ∧ bindings.names.Nodup ∧
    ∀ (userLists : List UserList) (restored : Expression) (subscribed : Bool),
      let rebound := bindings.bindUserLists userLists restored subscribed
      (rebound.result.2 = none ↔ .userList ∉ entity.filterSet ∨ userLists = []) ∧
      (rebound.result.2 = none → rebound = .still (bindings, none)) ∧
      (rebound.result.2 ≠ none →
        rebound.result.1.names =
          entity.filterSet.filter (fun name => name = .userList ∨ name ∈ bindings.names) ∧
        rebound.result.1.widgets.filter (fun widget => widget.name ≠ .userList) =
          bindings.widgets.filter fun widget => widget.name ≠ .userList) := by
  intro bound bindings
  have ordered : bindings.Ordered entity := ordered_after entity stored grouping uses
  refine ⟨names_bind entity stored grouping, ordered.names, ordered.distinct, ?_⟩
  intro userLists restored subscribed rebound
  rcases bindUserLists_eq bindings userLists restored subscribed with
    ⟨unbindable, unchanged⟩ | ⟨offered, someLists, picker, definition, _, placed⟩
  · rw [ordered.ofEntity] at unbindable
    have none : rebound.result.2 = none := congrArg (fun acted => acted.result.2) unchanged
    exact ⟨⟨fun _ => unbindable, fun _ => none⟩, fun _ => unchanged, fun some => absurd none some⟩
  · rw [ordered.ofEntity] at offered
    have isPicker : picker.name = .userList := congrArg Definition.name definition
    have some : rebound.result.2 ≠ none := by
      rw [show rebound.result.2 = some userLists.length from congrArg Prod.snd placed]
      exact Option.some_ne_none _
    refine ⟨⟨fun none => absurd none some, ?_⟩, fun none => absurd none some, fun _ => ?_⟩
    · rintro (foreign | rfl)
      · exact absurd offered foreign
      · exact absurd rfl someLists
    · have after : rebound.result.1 = (bindings.unbind .userList).result.1.place picker :=
        congrArg Prod.fst placed
      rw [after, ordered.names_place_unbind isPicker offered,
        filter_widgets_place (by simp [isPicker]), widgets_unbind, List.filter_filter]
      simp

end Bindings

end MediaFilter
