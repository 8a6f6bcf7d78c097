import MediaFilter.Expression.Build
import MediaFilter.Proofs.Expression.Keys
import MediaFilter.Proofs.Expression.Lookup

/-!
What an expression that is built from values holds under each key: the clause of the one filter
that the key belongs to, except that the bounds of the tag percentage have moved to the tags.
-/

namespace MediaFilter

namespace FilterValue

theorem textClauses_eq (definition : Definition) (value : TextValue) :
    textClauses definition value = [] ∨
      ∃ clause, textClauses definition value = [(definition.name.wire, clause)] := by
  unfold textClauses
  split
  · exact .inl rfl
  split
  · exact .inr ⟨_, rfl⟩
  · exact .inr ⟨_, rfl⟩

theorem selectionClauses_eq (definition : Definition) (selection : Selection) :
    selectionClauses definition selection = [] ∨
      ∃ clause, selectionClauses definition selection = [(definition.name.wire, clause)] := by
  unfold selectionClauses
  split
  · exact .inl rfl
  · exact .inr ⟨_, rfl⟩

theorem clauses_eq (definition : Definition) (value : FilterValue) :
    value.clauses definition = [] ∨
      (∃ clause, value.clauses definition = [(definition.name.wire, clause)]) ∨
      ∃ min max, value.clauses definition =
        [(definition.name.minKey, min), (definition.name.maxKey, max)] := by
  cases value with
  | text value => exact (textClauses_eq definition value).imp_right .inl
  | picker selection => exact (selectionClauses_eq definition selection).imp_right .inl
  | range value => exact .inr (.inr ⟨_, _, rfl⟩)
  | checkbox checked =>
      cases checked with
      | false => exact .inl rfl
      | true => exact .inr (.inl ⟨_, rfl⟩)
  | userList selection => exact (selectionClauses_eq definition selection).imp_right .inl

theorem nodup_clauses (definition : Definition) (value : FilterValue) :
    ((value.clauses definition).map Prod.fst).Nodup := by
  rcases clauses_eq definition value with equal | ⟨clause, equal⟩ | ⟨min, max, equal⟩
  · simp [equal]
  · simp [equal]
  · simp [equal, FilterName.minKey_ne_maxKey]

theorem mem_keys_of_get? {definition : Definition} {value : FilterValue} {key : String}
    {clause : Clause} (found : Clauses.get? key (value.clauses definition) = some clause) :
    key ∈ definition.name.keys := by
  have member := (Clauses.get?_eq_some_iff (nodup_clauses definition value)).1 found
  rcases clauses_eq definition value with equal | ⟨clause, equal⟩ | ⟨min, max, equal⟩
  · rw [equal] at member
    cases member
  · rw [equal] at member
    simp_all [FilterName.keys]
  · rw [equal] at member
    simp only [List.mem_cons, Prod.mk.injEq, List.not_mem_nil, or_false] at member
    rcases member with ⟨rfl, _⟩ | ⟨rfl, _⟩ <;> simp [FilterName.keys]

end FilterValue

namespace Expression

def contribution (pair : Definition × FilterValue) : Clauses :=
  if pair.2.kind = pair.1.kind then pair.2.clauses pair.1 else []

theorem append_eq (expression : Expression) (pair : Definition × FilterValue) :
    expression.append pair = expression.insertAll (contribution pair) := by
  unfold append contribution
  split <;> rfl

theorem mem_keys_of_contribution {pair : Definition × FilterValue} {key : String}
    {clause : Clause} (found : Clauses.get? key (contribution pair) = some clause) :
    key ∈ pair.1.name.keys := by
  unfold contribution at found
  split at found
  · exact FilterValue.mem_keys_of_get? found
  · cases found

theorem get?_append (expression : Expression) (pair : Definition × FilterValue) (key : String) :
    (expression.append pair).get? key =
      (Clauses.get? key (contribution pair)).or (expression.get? key) := by
  rw [append_eq]
  refine get?_foldl_insert _ expression ?_ key
  unfold contribution
  split
  · exact FilterValue.nodup_clauses pair.1 pair.2
  · exact List.nodup_nil

/-- What the filters hold under a key, if no two of them are the same. -/
def gathered? (pairs : List (Definition × FilterValue)) (key : String) : Option Clause :=
  pairs.findSome? fun pair => Clauses.get? key (contribution pair)

def Distinct (pairs : List (Definition × FilterValue)) : Prop :=
  (pairs.map fun pair => pair.1.name).Nodup

theorem gathered?_eq_none {pairs : List (Definition × FilterValue)} {name : FilterName}
    (absent : name ∉ pairs.map fun pair => pair.1.name) {key : String} (owned : key ∈ name.keys) :
    gathered? pairs key = none := by
  unfold gathered?
  rw [List.findSome?_eq_none_iff]
  intro pair member
  rw [Option.eq_none_iff_forall_ne_some]
  intro clause found
  have same := FilterName.eq_of_mem_keys owned (mem_keys_of_contribution found)
  exact absent (List.mem_map.2 ⟨pair, member, same.symm⟩)

theorem gathered?_eq_of_mem {pairs : List (Definition × FilterValue)} (distinct : Distinct pairs)
    {pair : Definition × FilterValue} (member : pair ∈ pairs) {key : String}
    (owned : key ∈ pair.1.name.keys) :
    gathered? pairs key = Clauses.get? key (contribution pair) := by
  induction pairs with
  | nil => cases member
  | cons first pairs induction =>
      obtain ⟨fresh, distinct⟩ := List.nodup_cons.1 distinct
      rw [gathered?, List.findSome?_cons]
      rcases List.mem_cons.1 member with rfl | later
      · cases found : Clauses.get? key (contribution pair) with
        | some clause => rfl
        | none => exact gathered?_eq_none fresh owned
      · cases found : Clauses.get? key (contribution first) with
        | none => exact induction distinct later
        | some clause =>
            have same := FilterName.eq_of_mem_keys (mem_keys_of_contribution found) owned
            exact absurd (List.mem_map.2 ⟨pair, later, same.symm⟩) fresh

theorem gathered?_eq_some_iff {pairs : List (Definition × FilterValue)}
    (distinct : Distinct pairs) {key : String} {clause : Clause} :
    gathered? pairs key = some clause ↔
      ∃ pair ∈ pairs, Clauses.get? key (contribution pair) = some clause := by
  constructor
  · intro found
    obtain ⟨_, pair, _, whole, found, _⟩ := List.findSome?_eq_some_iff.1 found
    exact ⟨pair, by simp [whole], found⟩
  · rintro ⟨pair, member, found⟩
    rw [gathered?_eq_of_mem distinct member (mem_keys_of_contribution found), found]

theorem get?_foldl_append {pairs : List (Definition × FilterValue)} (distinct : Distinct pairs)
    (expression : Expression) (key : String) :
    (pairs.foldl append expression).get? key =
      (gathered? pairs key).or (expression.get? key) := by
  induction pairs generalizing expression with
  | nil => rfl
  | cons pair pairs induction =>
      obtain ⟨fresh, distinct⟩ := List.nodup_cons.1 distinct
      have joined : gathered? (pair :: pairs) key =
          (Clauses.get? key (contribution pair)).or (gathered? pairs key) := by
        rw [gathered?, List.findSome?_cons]
        cases Clauses.get? key (contribution pair) <;> rfl
      rw [List.foldl_cons, induction distinct, get?_append, joined]
      cases found : Clauses.get? key (contribution pair) with
      | none => rw [Option.none_or, Option.none_or]
      | some clause =>
          -- No later filter has the key, so the order of the insertions does not matter.
          rw [gathered?_eq_none fresh (mem_keys_of_contribution found)]
          rfl

theorem build_congr {first second : List (Definition × FilterValue)} (distinct : Distinct first)
    (otherDistinct : Distinct second)
    (same : ∀ key, gathered? first key = gathered? second key) : build first = build second := by
  have whole : first.foldl append empty = second.foldl append empty := by
    apply ext_get?
    intro key
    rw [get?_foldl_append distinct, get?_foldl_append otherDistinct, same]
  rw [build, whole, build]

def hasTagPercentage (expression : Expression) : Bool :=
  expression.contains FilterName.tagPercentage.minKey ||
    expression.contains FilterName.tagPercentage.maxKey

/-- The clause of the tags once the bounds beside it have moved into it. -/
def withBounds (expression : Expression) : Clause → Clause
  | .set clause =>
    if expression.hasTagPercentage then
      .set (clause.withTagPercentage (expression.bound? FilterName.tagPercentage.minKey)
        (expression.bound? FilterName.tagPercentage.maxKey))
    else .set clause
  | clause => clause

theorem withBounds_set (expression : Expression) (clause : SetClause) :
    ∃ min max, expression.withBounds (.set clause) = .set (clause.withTagPercentage min max) := by
  unfold withBounds
  dsimp only
  split
  · exact ⟨_, _, rfl⟩
  · exact ⟨clause.tagPercentageMin, clause.tagPercentageMax, rfl⟩

theorem get?_withoutTagPercentage (expression : Expression) (key : String) :
    expression.withoutTagPercentage.get? key =
      if FilterName.tagPercentage.minKey = key ∨ FilterName.tagPercentage.maxKey = key then none
      else expression.get? key := by
  rw [withoutTagPercentage, get?_erase, get?_erase]
  by_cases isMin : FilterName.tagPercentage.minKey = key
  · simp [isMin]
  · by_cases isMax : FilterName.tagPercentage.maxKey = key <;> simp [isMin, isMax]

theorem hasTagPercentage_eq_false {expression : Expression}
    (nowhere : expression.hasTagPercentage = false) :
    expression.get? FilterName.tagPercentage.minKey = none ∧
      expression.get? FilterName.tagPercentage.maxKey = none := by
  unfold hasTagPercentage contains at nowhere
  simpa using nowhere

theorem wire_ne_tagPercentage (name : FilterName) :
    ¬(FilterName.tagPercentage.minKey = name.wire ∨
      FilterName.tagPercentage.maxKey = name.wire) := by
  rintro (equal | equal)
  · exact FilterName.wire_ne_minKey _ _ equal.symm
  · exact FilterName.wire_ne_maxKey _ _ equal.symm

theorem tags?_withoutTagPercentage (expression : Expression) :
    expression.withoutTagPercentage.tags? = expression.tags? := by
  unfold tags?
  rw [get?_withoutTagPercentage, if_neg (wire_ne_tagPercentage _)]

theorem get?_tag_eq_some {expression : Expression} {clause : SetClause}
    (tags : expression.tags? = some clause) :
    expression.get? FilterName.tag.wire = some (.set clause) := by
  unfold tags? at tags
  split at tags
  · cases tags
    assumption
  · cases tags

theorem withBounds_of_not_set {expression : Expression} {clause : Clause}
    (other : ∀ set, clause ≠ .set set) : expression.withBounds clause = clause := by
  cases clause with
  | set clause => exact absurd rfl (other clause)
  | _ => rfl

theorem get?_relocateTagPercentage (expression : Expression) (key : String) :
    expression.relocateTagPercentage.get? key =
      if FilterName.tagPercentage.minKey = key ∨ FilterName.tagPercentage.maxKey = key then none
      else if FilterName.tag.wire = key then (expression.get? key).map expression.withBounds
      else expression.get? key := by
  unfold relocateTagPercentage
  cases stands : expression.hasTagPercentage with
  | false =>
      have plain : expression.withBounds = id := by
        funext clause
        cases clause <;> simp [withBounds, stands]
      obtain ⟨noMin, noMax⟩ := hasTagPercentage_eq_false stands
      unfold hasTagPercentage at stands
      rw [if_neg (Bool.eq_false_iff.1 stands), plain, Option.map_id]
      split
      · rename_i isBound
        rcases isBound with rfl | rfl
        · exact noMin
        · exact noMax
      · split <;> rfl
  | true =>
      have moves := stands
      unfold hasTagPercentage at moves
      rw [if_pos moves]
      dsimp only
      rw [tags?_withoutTagPercentage]
      by_cases isTag : FilterName.tag.wire = key
      · subst isTag
        rw [if_neg (wire_ne_tagPercentage _), if_pos rfl]
        cases tags : expression.tags? with
        | some clause =>
            rw [get?_insert, if_pos rfl, get?_tag_eq_some tags]
            simp [withBounds, stands]
        | none =>
            rw [get?_withoutTagPercentage, if_neg (wire_ne_tagPercentage _)]
            cases found : expression.get? FilterName.tag.wire with
            | none => rfl
            | some clause =>
                rw [Option.map_some, withBounds_of_not_set]
                rintro set rfl
                simp [tags?, found] at tags
      · rw [if_neg isTag, ← get?_withoutTagPercentage]
        cases expression.tags? with
        | none => rfl
        | some clause => rw [get?_insert, if_neg isTag]

end Expression

end MediaFilter
