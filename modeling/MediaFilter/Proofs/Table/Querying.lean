import Mathlib.Data.List.Induction
import MediaFilter.Proofs.Expression.Build
import MediaFilter.Proofs.Table.Supersession

/-!
What a table asks for.  Contexts are published, the text in the search box changes and pages are
asked for, in any order.  Each request is about the context that was published last and the text
that was typed last, whatever was asked for before.  The text has a key of its own, which is none of
the filters'.
-/

namespace MediaFilter

theorem FilterName.searchKey_notMem_keys (name : FilterName) : Table.searchKey ∉ name.keys := by
  cases name <;> decide

namespace Expression

theorem get?_withSearch (key other text : String) (expression : Expression) :
    (expression.withSearch key text).get? other =
      if other = key ∧ text ≠ "" then some (.text text) else expression.get? other := by
  unfold withSearch
  by_cases blank : text = ""
  · simp [blank]
  · simp [blank, get?_insert, @eq_comm _ key]

section Unowned

variable {key : String} (unowned : ∀ name : FilterName, key ∉ name.keys)

include unowned

theorem get?_foldl_append_of_unowned (pairs : List (Definition × FilterValue))
    (expression : Expression) :
    (pairs.foldl append expression).get? key = expression.get? key := by
  induction pairs generalizing expression with
  | nil => rfl
  | cons pair pairs induction =>
      have missing : Clauses.get? key (contribution pair) = none :=
        Option.eq_none_iff_forall_ne_some.2 fun clause found =>
          unowned pair.1.name (mem_keys_of_contribution found)
      rw [List.foldl_cons, induction, get?_append, missing, Option.none_or]

theorem get?_build_of_unowned (pairs : List (Definition × FilterValue)) :
    (build pairs).get? key = none := by
  have isNoBound : ¬(FilterName.tagPercentage.minKey = key ∨
      FilterName.tagPercentage.maxKey = key) := by
    rintro (rfl | rfl) <;> exact unowned .tagPercentage (by simp [FilterName.keys])
  have isNoTag : FilterName.tag.wire ≠ key := by
    rintro rfl
    exact unowned .tag (by simp [FilterName.keys])
  rw [build, get?_relocateTagPercentage, if_neg isNoBound, if_neg isNoTag,
    get?_foldl_append_of_unowned unowned, get?_empty]

end Unowned

end Expression

namespace Table

theorem request_of_entity {context : QueryContext} {entity : EntityType}
    (chosen : context.entity = some entity) (start : Nat) (table : Table) :
    table.request context start =
      .ok (⟨table.draws + 1, start, table.length, table.columns, table.order,
          context.expression.withSearch searchKey table.search, context.userName, entity⟩,
        { table with draws := table.draws + 1 }) := by
  simp [request, chosen]

theorem request_of_nothing {context : QueryContext} (nothing : context.entity = none)
    (start : Nat) (table : Table) : table.request context start = .error .noEntity := by
  simp [request, nothing]

end Table

/-- A table with the context that it watches. -/
structure Watched where
  context : QueryContext
  table : Table

namespace Watched

inductive Use where
  | publish (context : QueryContext)
  | search (text : String)
  | request (start : Nat)
  | load (start : Nat)
  /-- A load comes to its end, and nothing is said of when it began. -/
  | finish (load : PageLoad) (reply : Except Error Page)

namespace Use

def context? : Use → Option QueryContext
  | publish context => some context
  | _ => none

def text? : Use → Option String
  | search text => some text
  | _ => none

def start? : Use → Option Nat
  | request start => some start
  | load start => some start
  | _ => none

end Use

def answer (watched : Watched) :
    Except Error (SearchRequest × Table) → Option (Except Error SearchRequest) × Watched
  | .ok (request, table) => (some (.ok request), { watched with table })
  | .error error => (some (.error error), watched)

def use (watched : Watched) : Use → Option (Except Error SearchRequest) × Watched
  | .publish context => (none, { watched with context })
  | .search text => (none, { watched with table := watched.table.setSearch text })
  | .request start => watched.answer (watched.table.request watched.context start)
  | .load start =>
    watched.answer ((watched.table.begin watched.context start).map fun (load, table) =>
      (load.request, table))
  | .finish load reply => (none, { watched with table := (watched.table.finish load reply).2 })

def made (watched : Watched) (use : Use) : List SearchRequest :=
  ((watched.use use).1.bind Except.toOption).toList

def after (watched : Watched) (uses : List Use) : Watched :=
  uses.foldl (fun watched use => (watched.use use).2) watched

def requests (watched : Watched) : List Use → List SearchRequest
  | [] => []
  | use :: uses => watched.made use ++ requests (watched.use use).2 uses

def latest {α : Type} (choice? : Use → Option α) (initially : α) (uses : List Use) : α :=
  (uses.filterMap choice?).getLast?.getD initially

variable {watched : Watched} {use : Use} {start : Nat}

theorem latest_append {α : Type} (choice? : Use → Option α) (initially : α) (uses : List Use)
    (use : Use) : latest choice? initially (uses ++ [use]) =
      (choice? use).getD (latest choice? initially uses) := by
  cases chosen : choice? use <;> simp [latest, chosen]

theorem after_append (watched : Watched) (uses : List Use) (use : Use) :
    watched.after (uses ++ [use]) = ((watched.after uses).use use).2 := by
  simp [after]

theorem requests_append (watched : Watched) (earlier later : List Use) :
    watched.requests (earlier ++ later) =
      watched.requests earlier ++ (watched.after earlier).requests later := by
  induction earlier generalizing watched with
  | nil => rfl
  | cons use earlier induction =>
      rw [List.cons_append, requests, requests, induction, List.append_assoc]
      rfl

/-! One use.  A load begins with the very request that is made without one, so whether a page is
asked for in the one way or the other makes no difference but to the slots. -/

theorem use_of_nothing (asks : use.start? = some start) (nothing : watched.context.entity = none) :
    watched.use use = (some (.error .noEntity), watched) := by
  cases use <;> cases asks <;>
    simp [Watched.use, Table.begin, Table.request_of_nothing nothing, Except.map, answer]

theorem use_of_entity (asks : use.start? = some start) {entity : EntityType}
    (chosen : watched.context.entity = some entity) :
    ∃ slots, watched.use use =
      (some (.ok ⟨watched.table.draws + 1, start, watched.table.length, watched.table.columns,
          watched.table.order,
          watched.context.expression.withSearch Table.searchKey watched.table.search,
          watched.context.userName, entity⟩),
        { watched with
          table := { watched.table with draws := watched.table.draws + 1, slots } }) := by
  cases use <;> cases asks <;>
    simp [Watched.use, Table.begin, Table.request_of_entity chosen, Except.map, answer]

/-- A use changes nothing but the context, the text, the number of draws and the slots, and the
request that it makes has the next number. -/
theorem use_eq (watched : Watched) (use : Use) :
    (∃ slots, (watched.use use).2 =
      ⟨use.context?.getD watched.context,
        { watched.table with
          search := use.text?.getD watched.table.search
          draws := watched.table.draws + (watched.made use).length
          slots }⟩) ∧
    (watched.made use).map SearchRequest.draw =
      List.range' (watched.table.draws + 1) (watched.made use).length := by
  cases asks : use.start? with
  | none =>
      cases use with
      | publish context => exact ⟨⟨_, rfl⟩, rfl⟩
      | search text => exact ⟨⟨_, rfl⟩, rfl⟩
      | finish load reply =>
          refine ⟨⟨watched.table.slots.finish load.ticket, ?_⟩, rfl⟩
          rw [Watched.use, Table.slots_finish]
          rfl
      | _ => cases asks
  | some start =>
      -- A use that asks for a page neither publishes nor types.
      have quiet : use.context? = none ∧ use.text? = none := by
        cases use <;> cases asks <;> exact ⟨rfl, rfl⟩
      cases chosen : watched.context.entity with
      | none =>
          simp only [made, use_of_nothing asks chosen, quiet]
          exact ⟨⟨_, rfl⟩, rfl⟩
      | some entity =>
          obtain ⟨slots, used⟩ := use_of_entity asks chosen
          simp [made, used, quiet, Except.toOption]

theorem after_eq (watched : Watched) (uses : List Use) :
    (∃ slots, watched.after uses =
      ⟨latest Use.context? watched.context uses,
        { watched.table with
          search := latest Use.text? watched.table.search uses
          draws := watched.table.draws + (watched.requests uses).length
          slots }⟩) ∧
    (watched.requests uses).map SearchRequest.draw =
      List.range' (watched.table.draws + 1) (watched.requests uses).length := by
  induction uses using List.reverseRecOn with
  | nil => exact ⟨⟨_, rfl⟩, rfl⟩
  | append_singleton uses use induction =>
      obtain ⟨⟨slots, reached⟩, numbered⟩ := induction
      obtain ⟨⟨others, used⟩, next⟩ := (watched.after uses).use_eq use
      have made : watched.requests (uses ++ [use]) =
          watched.requests uses ++ (watched.after uses).made use := by
        rw [requests_append, requests, requests, List.append_nil]
      refine ⟨⟨others, ?_⟩, ?_⟩
      · rw [after_append, used, latest_append, latest_append, made, List.length_append,
          ← Nat.add_assoc, reached]
      · rw [made, List.map_append, numbered, next, List.length_append, ← List.range'_append_1,
          reached, Nat.add_right_comm]

/-- What a request carries, told by the context that is current and the text in the box. -/
structure Carries (context : QueryContext) (text : String) (request : SearchRequest) : Prop where
  entity : context.entity = some request.entity
  userName : request.userName = context.userName
  clauses : ∀ key, request.filter.get? key =
    if key = "title_like" ∧ text ≠ "" then some (.text text) else context.expression.get? key
  blank : text = "" → request.filter = context.expression
  kept : ∀ pairs, context.expression = .build pairs → ∀ key clause,
    context.expression.get? key = some clause → request.filter.get? key = some clause
  searched : ∀ pairs, context.expression = .build pairs →
    request.filter.get? "title_like" = if text = "" then none else some (.text text)

theorem carries {context : QueryContext} {entity : EntityType}
    (chosen : context.entity = some entity) (text : String) (draw start length : Nat)
    (columns : List Column) (order : List ColumnOrder) :
    Carries context text ⟨draw, start, length, columns, order,
      context.expression.withSearch Table.searchKey text, context.userName, entity⟩ := by
  have free : ∀ pairs, context.expression = .build pairs →
      context.expression.get? Table.searchKey = none := by
    intro pairs built
    rw [built, Expression.get?_build_of_unowned FilterName.searchKey_notMem_keys]
  have clauses : ∀ key, (context.expression.withSearch Table.searchKey text).get? key =
      if key = Table.searchKey ∧ text ≠ "" then some (.text text)
      else context.expression.get? key :=
    fun key => Expression.get?_withSearch _ key text context.expression
  refine ⟨chosen, rfl, clauses, ?_, ?_, ?_⟩
  · rintro rfl
    rfl
  · intro pairs built key clause found
    have foreign : key ≠ Table.searchKey := by
      rintro rfl
      rw [free pairs built] at found
      cases found
    rw [clauses, if_neg fun isSearch => foreign isSearch.1, found]
  · intro pairs built
    refine (clauses Table.searchKey).trans ?_
    by_cases isBlank : text = "" <;> simp [isBlank, free pairs built]

/-- Whatever is done with a new table, the requests are numbered from one on without a gap, and the
context is the one that was published last.  Where a page is asked for, either there is no entity
type, and then there is no request and nothing has changed; or there is one request more, about the
context that was published last and the text that was typed last.  The text stands under
`title_like`, which is no key of a filter. -/
theorem requests_follow_latest {first : Watched} (isNew : first.table.draws = 0)
    (isBlank : first.table.search = "") (uses : List Use) :
    (first.requests uses).map SearchRequest.draw = List.range' 1 (first.requests uses).length ∧
    (first.after uses).context = latest Use.context? first.context uses ∧
    (∀ name : FilterName, "title_like" ∉ name.keys) ∧
    ∀ earlier use later start, uses = earlier ++ use :: later → use.start? = some start →
      ((latest Use.context? first.context earlier).entity = none →
        (first.after earlier).use use = (some (.error .noEntity), first.after earlier)) ∧
      ((latest Use.context? first.context earlier).entity ≠ none → ∃ request,
        ((first.after earlier).use use).1 = some (.ok request) ∧
        first.requests uses = first.requests earlier ++
          request :: (first.after (earlier ++ [use])).requests later ∧
        request.draw = (first.requests earlier).length + 1 ∧ request.start = start ∧
        request.length = first.table.length ∧ request.columns = first.table.columns ∧
        request.order = first.table.order ∧
        Carries (latest Use.context? first.context earlier) (latest Use.text? "" earlier)
          request) := by
  obtain ⟨⟨_, reached⟩, numbered⟩ := first.after_eq uses
  rw [isNew] at numbered
  refine ⟨numbered, congrArg Watched.context reached, FilterName.searchKey_notMem_keys, ?_⟩
  intro earlier use later start split asks
  obtain ⟨⟨slots, before⟩, _⟩ := first.after_eq earlier
  rw [isNew, isBlank, Nat.zero_add] at before
  have current : (first.after earlier).context = latest Use.context? first.context earlier :=
    congrArg Watched.context before
  rw [← current]
  refine ⟨use_of_nothing asks, fun something => ?_⟩
  obtain ⟨entity, chosen⟩ := Option.ne_none_iff_exists'.1 something
  obtain ⟨_, used⟩ := use_of_entity asks chosen
  have whole : first.requests uses = first.requests earlier ++
      ((first.after earlier).made use ++ (first.after (earlier ++ [use])).requests later) := by
    rw [split, requests_append, requests, after_append]
  rw [made, used] at whole
  rw [used]
  refine ⟨_, rfl, whole, ?_⟩
  rw [before] at chosen ⊢
  exact ⟨rfl, rfl, rfl, rfl, rfl, carries chosen ..⟩

def idle : Watched := ⟨.initial, .initial⟩

def annsTitles : QueryContext :=
  ⟨some .anime, "ann", .build [(FilterName.titleLike.definition, .text ⟨"mushi", false⟩)]⟩

def annSearches : List Use :=
  [.request 0, .publish annsTitles, .search "shi", .load 0, .search "", .request 100]

theorem requests_follow_latest_of_annSearches :
    (idle.requests annSearches).map SearchRequest.draw = [1, 2] ∧
      idle.use (.request 0) = (some (.error .noEntity), idle) ∧
      (∃ request, ((idle.after (annSearches.take 3)).use (.load 0)).1 = some (.ok request) ∧
        request.userName = "ann" ∧ request.filter.get? "title_like" = some (.text "shi")) ∧
      ∃ request, ((idle.after (annSearches.take 5)).use (.request 100)).1 = some (.ok request) ∧
        request.filter = annsTitles.expression := by
  have isNew : idle.table.draws = 0 := rfl
  obtain ⟨numbered, _, _, asked⟩ := requests_follow_latest isNew rfl annSearches
  have chosen : annsTitles.entity ≠ none := nofun
  obtain ⟨first, answered, _, _, _, _, _, _, carries⟩ :=
    (asked (annSearches.take 3) (.load 0) _ 0 rfl rfl).2 chosen
  obtain ⟨second, answeredToo, _, _, _, _, _, _, carriesToo⟩ :=
    (asked (annSearches.take 5) (.request 100) [] 100 rfl rfl).2 chosen
  refine ⟨numbered, (asked [] (.request 0) _ 0 rfl rfl).1 rfl, ?_, ?_⟩
  · exact ⟨first, answered, carries.userName, carries.clauses "title_like"⟩
  · exact ⟨second, answeredToo, carriesToo.blank rfl⟩

end Watched

end MediaFilter
