import MediaFilter.Proofs.Session.Durability

/-!
User lists that come where a picker is bound already.  The new picker takes over what the old one
selected, as far as the lists are still there, and the first list if nothing is left of it; that is
announced as an edit would be, unless it comes to the same expression.
-/

namespace MediaFilter

def UserListReply.has (reply : UserListReply) (id : String) : Bool :=
  reply.lists.any fun list => list.id == id

theorem UserListReply.lists_eq (reply : UserListReply) :
    MediaFilter.lists (reply.lists.map UserList.toWhitelistEntry) = reply.has := by
  funext id
  rw [MediaFilter.lists, List.any_map]
  rfl

namespace Bindings

theorem build_congr {before after : Bindings} (sound : before.Sound) (kept : after.Sound)
    (same : ∀ pair, pair ∈ after.pairs ↔ pair ∈ before.pairs) : after.build = before.build := by
  rw [build_eq, build_eq]
  refine Expression.build_congr kept.distinct_pairs sound.distinct_pairs fun key => ?_
  apply Option.ext
  intro clause
  rw [Expression.gathered?_eq_some_iff kept.distinct_pairs,
    Expression.gathered?_eq_some_iff sound.distinct_pairs]
  exact exists_congr fun pair => and_congr_left' (same pair)

/-- What lists in place of those of a picker lead to. -/
def relisted (bindings : Bindings) (reply : UserListReply) (stored : Expression) : Bindings :=
  (bindings.bindUserLists reply.lists stored true).result.1

def reselected (selection : Selection) (reply : UserListReply) : Selection :=
  if (selection.restrict reply.has).isEmpty then
    ⟨(reply.lists.head?.map fun list => SelectedValue.including list.id).toList,
      FilterName.userList.definition.combinator⟩
  else selection.restrict reply.has

theorem reselected_of_listed {selection : Selection} {reply : UserListReply}
    (chosen : selection.entries ≠ [])
    (listed : ∀ entry ∈ selection.entries, reply.has entry.value = true) :
    reselected selection reply = selection := by
  have whole : selection.restrict reply.has = selection := by
    rw [Selection.restrict, List.filter_eq_self.2 listed]
  have isChosen : selection.isEmpty = false := List.isEmpty_eq_false_iff.2 chosen
  rw [reselected, whole, isChosen, if_neg Bool.false_ne_true]

section

variable {bindings : Bindings} (regular : bindings.Regular) {picker : Widget}
  (found : bindings.get? .userList = some picker) {selection : Selection}
  (selects : picker.value = .userList selection) {reply : UserListReply}
  (someLists : reply.lists ≠ []) (stored : Expression)

include regular found someLists

theorem widgets_relisted : ∃ next : Widget, next.definition = picker.definition ∧
    next.whitelist = reply.lists.map UserList.toWhitelistEntry ∧
    next.value = Widget.listedSelection FilterName.userList.definition next.whitelist
      (some picker.value) ∧
    ∀ widget, widget ∈ (bindings.relisted reply stored).widgets ↔
      widget = next ∨ (widget ∈ bindings.widgets ∧ widget.name ≠ .userList) := by
  have picked : bindings.pickedLists stored = some picker.value := by
    unfold pickedLists
    rw [found]
  rcases bindUserLists_eq bindings reply.lists stored true with
    ⟨foreign | noLists, _⟩ | ⟨_, _, next, _, isNew, bound⟩
  · exact absurd (regular.offered_of_get? found) foreign
  · exact absurd noLists someLists
  · refine ⟨bindings.newPicker reply.lists stored, (regular.definition_of_get? found).symm, rfl,
      congrArg (Widget.listedSelection _ _) picked, fun widget => ?_⟩
    rw [relisted, bound, isNew rfl]
    exact mem_place.trans (or_congr_right mem_unbind)

theorem get?_relisted (selects : picker.value = .userList selection) :
    ∃ next, (bindings.relisted reply stored).get? .userList = some next ∧
      next.whitelist = reply.lists.map UserList.toWhitelistEntry ∧
      next.value = .userList (reselected selection reply) := by
  obtain ⟨next, definition, whitelist, value, widgets⟩ :=
    widgets_relisted regular found someLists stored
  have sound := sound_bindUserLists regular.toSound reply.lists stored
  have name : next.name = .userList := by
    rw [Widget.name, definition]
    exact (mem_of_get? found).2
  have bound := sound.get?_of_mem ((widgets next).2 (.inl rfl))
  rw [name] at bound
  refine ⟨next, bound, whitelist, ?_⟩
  rw [value, whitelist, selects, Widget.listedSelection]
  rw [UserListReply.lists_eq, reselected, Widget.firstListed]
  split
  · rw [List.head?_map, Option.map_map]
    rfl
  · rfl

theorem get?_relisted_of_ne {name : FilterName} (other : name ≠ .userList) :
    (bindings.relisted reply stored).get? name = bindings.get? name := by
  obtain ⟨next, definition, _, _, widgets⟩ := widgets_relisted regular found someLists stored
  have sound := sound_bindUserLists regular.toSound reply.lists stored
  have isPicker : next.name = .userList := by
    rw [Widget.name, definition]
    exact (mem_of_get? found).2
  cases bound : bindings.get? name with
  | some widget =>
      obtain ⟨member, named⟩ := mem_of_get? bound
      rw [← named] at other ⊢
      exact sound.get?_of_mem ((widgets widget).2 (.inr ⟨member, other⟩))
  | none =>
      refine get?_eq_none_iff.2 fun member => ?_
      obtain ⟨widget, isBound, named⟩ := mem_names.1 member
      rcases (widgets widget).1 isBound with rfl | ⟨before, _⟩
      · exact other (named.symm.trans isPicker)
      · exact get?_eq_none_iff.1 bound (mem_names.2 ⟨widget, before, named⟩)

theorem build_relisted (selects : picker.value = .userList selection)
    (same : reselected selection reply = selection) :
    (bindings.relisted reply stored).build = bindings.build := by
  obtain ⟨next, definition, _, _, widgets⟩ := widgets_relisted regular found someLists stored
  obtain ⟨bound, get, _, value⟩ := get?_relisted regular found someLists stored selects
  have sound := sound_bindUserLists regular.toSound reply.lists stored
  obtain ⟨isBound, ofLists⟩ := mem_of_get? found
  have isNext : bound = next := by
    obtain ⟨member, named⟩ := mem_of_get? get
    exact ((widgets bound).1 member).resolve_right fun ⟨_, other⟩ => other named
  rw [same, ← selects, isNext] at value
  have pair : (next.definition, next.value) = (picker.definition, picker.value) := by
    rw [definition, value]
  refine build_congr regular.toSound sound fun other => ?_
  simp only [pairs, List.mem_map]
  constructor
  · rintro ⟨widget, member, rfl⟩
    rcases (widgets widget).1 member with rfl | ⟨before, _⟩
    · exact ⟨picker, isBound, pair.symm⟩
    · exact ⟨widget, before, rfl⟩
  · rintro ⟨widget, member, rfl⟩
    by_cases named : widget.name = .userList
    · have equal := regular.toSound.eq_of_get? found member named
      exact ⟨next, (widgets next).2 (.inl rfl), by rw [pair, equal]⟩
    · exact ⟨widget, (widgets widget).2 (.inr ⟨member, named⟩), rfl⟩

end

end Bindings

namespace Session

theorem changes_evaluate {session : Session} {bindings : Bindings}
    (bound : session.bindings = some bindings) :
    session.evaluate.trace.filterMap Effect.change? =
      if session.notifier.announced = some bindings.build.print then []
      else [(bindings.entity, bindings.build)] := by
  have outcome := evaluates session
  generalize session.evaluate = acted at outcome
  cases outcome with
  | unbound nothing =>
      rw [nothing] at bound
      cases bound
  | unchanged isBound same =>
      rw [isBound] at bound
      cases bound
      rw [if_pos same]
      rfl
  | changed isBound different =>
      rw [isBound] at bound
      cases bound
      rw [if_neg different]
      exact filterMap_change?_announcement _ _ _ _

theorem bindUserLists_relisted (session : Session) {bindings : Bindings}
    (regular : bindings.Regular) {picker : Widget} (found : bindings.get? .userList = some picker)
    {reply : UserListReply} (someLists : reply.lists ≠ []) :
    session.bindUserLists bindings reply.lists =
      (Traced.mk { session with bindings := some (bindings.relisted reply session.restored) }
        ((bindings.bindUserLists reply.lists session.restored true).trace.map .drew ++
          [.emitted (.whitelistUpdated bindings.entity .userList reply.lists.length)])).andThen
        evaluate := by
  have counted := Bindings.snd_bindUserLists (regular.isMedia_of_picker found) someLists
    session.restored
  have notFirst : (bindings.get? .userList).isNone = false := by rw [found]; rfl
  have evaluates : ∀ next, announceUserLists false next = evaluate := fun _ => rfl
  unfold bindUserLists draw
  rw [notFirst]
  simp only [evaluates]
  unfold Traced.andThen
  dsimp only [Traced.result_relabel]
  rw [counted]
  simp only [emit, Traced.trace_relabel, List.append_assoc]
  rfl

theorem complete_relisted {session : Session} {bindings : Bindings}
    (bound : session.bindings = some bindings) (regular : bindings.Regular) {picker : Widget}
    (found : bindings.get? .userList = some picker) {ticket : Ticket} {reply : UserListReply}
    (someLists : reply.lists ≠ []) (current : session.slots.isCurrent ticket = true) :
    let acted := session.complete (.userLists ticket (.ok reply))
    let next := bindings.relisted reply session.restored
    acted.result.bindings = some next ∧
      acted.trace.filterMap Effect.change? =
        if session.notifier.announced = some next.build.print then []
        else [(next.entity, next.build)] := by
  have noticed := quiet_takeNotices { session with slots := session.slots.finish ticket } reply
  have stillBound : ({ session with slots := session.slots.finish ticket }.takeNotices
    reply).result.bindings = some bindings := bound
  have opened : session.complete (.userLists ticket (.ok reply)) =
      ({ session with slots := session.slots.finish ticket }.takeNotices reply).andThen
        fun session => session.bindUserLists bindings reply.lists := by
    rw [complete, Completion.ticket, if_pos current, accept, acceptUserLists]
    unfold Traced.andThen
    dsimp only
    rw [stillBound]
  dsimp only
  rw [opened, Traced.result_andThen, Traced.trace_andThen,
    bindUserLists_relisted _ regular found someLists]
  refine ⟨bindings_evaluate _, ?_⟩
  rw [List.filterMap_append, noticed.tacit.changes, Traced.trace_andThen, List.filterMap_append,
    List.filterMap_append, List.filterMap_map]
  have drew : ∀ calls : List ViewCall, calls.filterMap (Effect.change? ∘ .drew) = [] :=
    fun calls => List.filterMap_eq_nil_iff.2 fun _ _ => rfl
  rw [drew]
  exact changes_evaluate rfl

theorem regular_run (inputs : List Input) {session : Session} (regular : session.Regular) :
    (run inputs session).result.Regular := by
  induction inputs generalizing session with
  | nil => exact regular
  | cons input inputs induction => exact induction (regular.respond input).1

/-- Whatever a session went through, user lists that it takes while a picker is bound leave the
other widgets alone.  The picker offers them and keeps of its selection, in its order, what is
still there; if nothing is, it selects the first list.  If all that was selected is still there,
the selection stays with its expression, and no change is announced that an evaluation would not
announce without the lists, so none at all unless an edit waits for its deadline. -/
theorem reload_keeps_listed (config : SessionConfig) (store : FaultyStore) (inputs : List Input)
    {session : Session} (reached : (run inputs (start config store)).result = session)
    {bindings : Bindings} (bound : session.bindings = some bindings) {picker : Widget}
    (found : bindings.get? .userList = some picker) {selection : Selection}
    (selects : picker.value = .userList selection) {ticket : Ticket} {reply : UserListReply}
    (someLists : reply.lists ≠ []) (current : session.slots.isCurrent ticket = true) :
    let acted := session.complete (.userLists ticket (.ok reply))
    let kept := selection.restrict reply.has
    ∃ next relisted, acted.result.bindings = some next ∧ next.get? .userList = some relisted ∧
      (∀ name, name ≠ .userList → next.get? name = bindings.get? name) ∧
      relisted.whitelist = reply.lists.map UserList.toWhitelistEntry ∧
      (kept.entries ≠ [] → relisted.value = .userList kept) ∧
      (kept.entries = [] → ∃ first rest, reply.lists = first :: rest ∧ relisted.value =
        .userList ⟨[.including first.id], FilterName.userList.definition.combinator⟩) ∧
      (selection.entries ≠ [] → (∀ entry ∈ selection.entries, reply.has entry.value = true) →
        relisted.value = picker.value ∧ next.build = bindings.build ∧
        acted.trace.filterMap Effect.change? = session.evaluate.trace.filterMap Effect.change? ∧
        (session.notifier.state = .idle → acted.trace.filterMap Effect.change? = [])) := by
  have regular : bindings.Regular := by
    subst reached
    exact regular_run inputs (regular_start config store) bindings bound
  have consistent : session.Consistent := by
    rw [← reached]
    exact consistent_run (consistent_start config store) inputs
  obtain ⟨taken, changes⟩ := complete_relisted bound regular found someLists current
  obtain ⟨relisted, isRelisted, whitelist, value⟩ :=
    Bindings.get?_relisted regular found someLists session.restored selects
  refine ⟨_, relisted, taken, isRelisted, fun name other =>
    Bindings.get?_relisted_of_ne regular found someLists session.restored other, whitelist,
    fun someKept => ?_, fun noneKept => ?_, fun chosen listed => ?_⟩
  · rw [value, Bindings.reselected, if_neg]
    exact fun isEmpty => someKept (List.isEmpty_iff.1 isEmpty)
  · obtain ⟨first, rest, lists⟩ := List.exists_cons_of_ne_nil someLists
    refine ⟨first, rest, lists, ?_⟩
    have isEmpty : (selection.restrict reply.has).isEmpty = true := List.isEmpty_iff.2 noneKept
    rw [value, Bindings.reselected, if_pos isEmpty, lists]
    rfl
  · have same := Bindings.reselected_of_listed chosen listed
    have build := Bindings.build_relisted regular found someLists session.restored selects same
    have entity : (bindings.relisted reply session.restored).entity = bindings.entity :=
      Bindings.entity_bindUserLists _ _ true bindings
    have evaluated := changes_evaluate bound
    rw [build, entity, ← evaluated] at changes
    refine ⟨by rw [value, same, selects], build, changes, fun idle => ?_⟩
    have isEntity : session.entity? = some bindings.entity := by rw [entity?, bound]; rfl
    have coherent := consistent.coherent _ isEntity
    rw [changes, (evaluate_silent (fun _ _ => coherent.announced)
      (coherent.expression idle).symm).1]
    rfl

def watching : UserList := ⟨"10", "Watching", none, 4⟩

def completed : UserList := ⟨"11", "Completed", none, 80⟩

def dropped : UserList := ⟨"12", "Dropped", none, 1⟩

def relisting (edits : List Input) : List Input :=
  [.command 0 (.switchEntity .manga), .command 1 (.setUserName (some "ann")),
    .completion (.userLists ⟨.userLists, 1, 1⟩ (.ok ⟨[watching, completed], [], []⟩))] ++
    edits ++ [.command 1000 .reloadUserLists]

def excluding : List Input :=
  relisting [.command 2 (.edit .userList (.add "11")),
    .command 3 (.edit .userList (.toggleExcluded "11"))]

def excluded : Acted Session := run excluding (start (.initial []) (.sound .empty))

theorem reload_keeps_listed_of_excluded :
    let acted := excluded.result.complete
      (.userLists ⟨.userLists, 1, 2⟩ (.ok ⟨[completed, dropped], [], []⟩))
    ∃ bindings picker next relisted, excluded.result.bindings = some bindings ∧
      bindings.get? .userList = some picker ∧
      picker.value = .userList ⟨[.including "10", ⟨"11", true⟩], .and⟩ ∧
      acted.result.bindings = some next ∧ next.get? .userList = some relisted ∧
      relisted.value = .userList ⟨[⟨"11", true⟩], .and⟩ ∧
      (∀ name, name ≠ .userList → next.get? name = bindings.get? name) := by
  have reached : (run excluding (start (.initial []) (.sound .empty))).result =
      excluded.result := rfl
  obtain ⟨current, selected⟩ : excluded.result.slots.isCurrent ⟨.userLists, 1, 2⟩ = true ∧
      (excluded.result.bindings.bind (·.get? .userList)).map Widget.value =
        some (.userList ⟨[.including "10", ⟨"11", true⟩], .and⟩) := by decide +kernel
  obtain ⟨picker, isPicker, selects⟩ := Option.map_eq_some_iff.1 selected
  obtain ⟨bindings, bound, found⟩ := Option.bind_eq_some_iff.1 isPicker
  have someLists : (UserListReply.mk [completed, dropped] [] []).lists ≠ [] := by decide
  have left : (Selection.mk [.including "10", ⟨"11", true⟩] .and).restrict
      (UserListReply.has ⟨[completed, dropped], [], []⟩) = ⟨[⟨"11", true⟩], .and⟩ := by
    decide +kernel
  obtain ⟨next, relisted, taken, isRelisted, others, _, kept, _⟩ :=
    reload_keeps_listed _ _ excluding reached bound found selects someLists current
  rw [left] at kept
  exact ⟨bindings, picker, next, relisted, bound, found, selects, taken, isRelisted,
    kept (List.cons_ne_nil _ _), others⟩

def emptied : Acted Session :=
  run (relisting [.command 2 (.edit .userList (.remove "10"))])
    (start (.initial []) (.sound .empty))

/-- Lists that are all still there select the first one where none was selected. -/
theorem first_list_of_emptied :
    let acted := emptied.result.complete
      (.userLists ⟨.userLists, 1, 2⟩ (.ok ⟨[watching, completed], [], []⟩))
    emptied.result.slots.isCurrent ⟨.userLists, 1, 2⟩ = true ∧
      emptied.result.notifier.state = .idle ∧
      (emptied.result.bindings.bind (·.get? .userList)).map Widget.value =
        some (.userList ⟨[], .and⟩) ∧
      (acted.result.bindings.bind (·.get? .userList)).map Widget.value =
        some (.userList ⟨[.including "10"], .and⟩) ∧
      acted.trace.filterMap Effect.change? = [(.manga, acted.result.expression)] := by
  decide +kernel

end Session

end MediaFilter
