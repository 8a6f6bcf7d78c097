import MediaFilter.Proofs.Expression.Normalization

/-!
What an expression means, told from the filters and their values alone.  It holds the clause of
every filter that adds something, under keys that no two filters share, so it does not matter in
which order the filters come; only the tag percentage has no place of its own and weighs the tags.
-/

namespace MediaFilter.Expression

/-- The clause that a value of its filter's kind has under the filter's name.  Nothing is told by
empty text or text that its mask refuses, by a selection of nothing, or by an open box. -/
inductive Tells : Definition × FilterValue → Clause → Prop
  | pattern {definition : Definition} {value : TextValue} (kind : definition.kind = .text)
      (filled : value.text ≠ "")
      (admitted : ∀ mask ∈ definition.mask, mask.accepts value.text = true)
      (regex : definition.regexCapable = true) :
      Tells (definition, .text value) (.pattern ⟨value.regexMode, value.text⟩)
  | text {definition : Definition} {value : TextValue} (kind : definition.kind = .text)
      (filled : value.text ≠ "")
      (admitted : ∀ mask ∈ definition.mask, mask.accepts value.text = true)
      (plain : definition.regexCapable = false) :
      Tells (definition, .text value) (.text value.text)
  | set {definition : Definition} {value : FilterValue} {selection : Selection}
      (kind : value.kind = definition.kind) (selects : value.selection? = some selection)
      (filled : selection.entries ≠ []) :
      Tells (definition, value)
        (.set ⟨selection.combinator, selection.included, selection.excluded, none, none⟩)
  | checked {definition : Definition} (kind : definition.kind = .checkbox) :
      Tells (definition, .checkbox true) (.flag true)

/-- A range of its filter's kind; it always tells its two ends. -/
inductive Spans : Definition × FilterValue → RangeValue → Prop
  | range {definition : Definition} (kind : definition.kind = .range) (range : RangeValue) :
      Spans (definition, .range range) range

def Weighs (pairs : List (Definition × FilterValue)) (range : RangeValue) : Prop :=
  ∃ pair ∈ pairs, pair.1.name = .tagPercentage ∧ Spans pair range

/-- The range of the tag percentage, or none if it is not among the filters. -/
inductive Weight (pairs : List (Definition × FilterValue)) : Option RangeValue → Prop
  | given {range : RangeValue} (weighs : Weighs pairs range) : Weight pairs (some range)
  | none (unweighed : ∀ range, ¬ Weighs pairs range) : Weight pairs none

/-- Which clause filters with values say under which key. -/
inductive Says (pairs : List (Definition × FilterValue)) : String → Clause → Prop
  | told {pair : Definition × FilterValue} {clause : Clause} (listed : pair ∈ pairs)
      (tells : Tells pair clause) (apart : pair.1.name = .tag → ∀ set, clause ≠ .set set) :
      Says pairs pair.1.name.wire clause
  | tags {pair : Definition × FilterValue} {set : SetClause} {weight : Option RangeValue}
      (listed : pair ∈ pairs) (tells : Tells pair (.set set)) (ofTags : pair.1.name = .tag)
      (weighed : Weight pairs weight) :
      Says pairs pair.1.name.wire (.set { set with
        tagPercentageMin := weight.map RangeValue.min
        tagPercentageMax := weight.map RangeValue.max })
  | min {pair : Definition × FilterValue} {range : RangeValue} (listed : pair ∈ pairs)
      (spans : Spans pair range) (placed : pair.1.name ≠ .tagPercentage) :
      Says pairs pair.1.name.minKey (.bound range.min)
  | max {pair : Definition × FilterValue} {range : RangeValue} (listed : pair ∈ pairs)
      (spans : Spans pair range) (placed : pair.1.name ≠ .tagPercentage) :
      Says pairs pair.1.name.maxKey (.bound range.max)

theorem exists_weight (pairs : List (Definition × FilterValue)) :
    ∃ weight, Weight pairs weight := by
  by_cases weighed : ∃ range, Weighs pairs range
  · obtain ⟨range, weighs⟩ := weighed
    exact ⟨_, .given weighs⟩
  · exact ⟨_, .none (not_exists.1 weighed)⟩

theorem Tells.kind_ne_range {pair : Definition × FilterValue} {clause : Clause}
    (tells : Tells pair clause) : pair.1.kind ≠ .range := by
  intro isRange
  cases tells with
  | pattern kind => cases kind.symm.trans isRange
  | text kind => cases kind.symm.trans isRange
  | checked kind => cases kind.symm.trans isRange
  | @set definition value selection kind selects =>
      cases value with
      | picker => cases kind.trans isRange
      | userList => cases kind.trans isRange
      | _ => cases selects

theorem admits_iff {definition : Definition} {text : String} :
    definition.admits text = true ↔ ∀ mask ∈ definition.mask, mask.accepts text = true := by
  unfold Definition.admits
  cases definition.mask with
  | none => simp
  | some mask =>
      refine ⟨fun admitted other isMask => ?_, fun admitted => admitted mask rfl⟩
      cases isMask
      exact admitted

theorem mem_textClauses_iff {definition : Definition} (kind : definition.kind = .text)
    {value : TextValue} {key : String} {clause : Clause} :
    (key, clause) ∈ FilterValue.textClauses definition value ↔
      key = definition.name.wire ∧ Tells (definition, .text value) clause := by
  unfold FilterValue.textClauses
  constructor
  · intro member
    split at member
    · cases member
    · rename_i shown
      rw [Bool.or_eq_true, not_or, Bool.not_eq_true', Bool.not_eq_false, admits_iff] at shown
      have filled : value.text ≠ "" := by simpa using shown.1
      split at member
      · cases List.mem_singleton.1 member
        exact ⟨rfl, .pattern kind filled shown.2 ‹_›⟩
      · rename_i plain
        cases List.mem_singleton.1 member
        exact ⟨rfl, .text kind filled shown.2 (Bool.not_eq_true _ ▸ plain)⟩
  · rintro ⟨rfl, tells⟩
    cases tells with
    | pattern _ filled admitted regex =>
        rw [← admits_iff] at admitted
        simp [filled, admitted, regex]
    | text _ filled admitted plain =>
        rw [← admits_iff] at admitted
        simp [filled, admitted, plain]
    | set _ selects => cases selects

theorem mem_selectionClauses_iff {definition : Definition} {value : FilterValue}
    (kind : value.kind = definition.kind) {selection : Selection}
    (selects : value.selection? = some selection) {key : String} {clause : Clause} :
    (key, clause) ∈ FilterValue.selectionClauses definition selection ↔
      key = definition.name.wire ∧ Tells (definition, value) clause := by
  unfold FilterValue.selectionClauses
  constructor
  · intro member
    split at member
    · cases member
    · rename_i shown
      cases List.mem_singleton.1 member
      exact ⟨rfl, .set kind selects fun none => shown (List.isEmpty_iff.2 none)⟩
  · rintro ⟨rfl, tells⟩
    cases tells with
    | set _ selected filled =>
        cases selects.symm.trans selected
        have shown : ¬ selection.isEmpty = true := fun none => filled (List.isEmpty_iff.1 none)
        rw [if_neg shown]
        exact List.mem_singleton_self _
    | _ => cases selects

theorem mem_contribution_iff {pair : Definition × FilterValue} {key : String} {clause : Clause} :
    (key, clause) ∈ contribution pair ↔
      (key = pair.1.name.wire ∧ Tells pair clause) ∨ ∃ range, Spans pair range ∧
        ((key = pair.1.name.minKey ∧ clause = .bound range.min) ∨
          (key = pair.1.name.maxKey ∧ clause = .bound range.max)) := by
  obtain ⟨definition, value⟩ := pair
  unfold contribution
  dsimp only
  split
  · rename_i kind
    cases value with
    | text value =>
        rw [FilterValue.clauses, mem_textClauses_iff kind.symm, or_iff_left]
        rintro ⟨range, ⟨⟩, _⟩
    | picker selection =>
        rw [FilterValue.clauses, mem_selectionClauses_iff kind rfl, or_iff_left]
        rintro ⟨range, ⟨⟩, _⟩
    | userList selection =>
        rw [FilterValue.clauses, mem_selectionClauses_iff kind rfl, or_iff_left]
        rintro ⟨range, ⟨⟩, _⟩
    | range range =>
        constructor
        · intro member
          refine .inr ⟨range, .range kind.symm range, ?_⟩
          simpa [FilterValue.clauses] using member
        · rintro (⟨_, tells⟩ | ⟨other, ⟨⟩, ends⟩)
          · cases tells with
            | set _ selects => cases selects
          · simpa [FilterValue.clauses] using ends
    | checkbox checked =>
        cases checked with
        | false =>
            constructor
            · intro member
              cases member
            · rintro (⟨_, tells⟩ | ⟨range, ⟨⟩, _⟩)
              cases tells with
              | set _ selects => cases selects
        | true =>
            constructor
            · intro member
              cases List.mem_singleton.1 member
              exact .inl ⟨rfl, .checked kind.symm⟩
            · rintro (⟨rfl, tells⟩ | ⟨range, ⟨⟩, _⟩)
              cases tells with
              | set _ selects => cases selects
              | checked => exact List.mem_singleton_self _
  · rename_i mismatched
    constructor
    · intro member
      cases member
    · rintro (⟨_, tells⟩ | ⟨range, ⟨own⟩, _⟩)
      · cases tells with
        | set own => exact absurd own mismatched
        | pattern own => exact absurd own.symm mismatched
        | text own => exact absurd own.symm mismatched
        | checked own => exact absurd own.symm mismatched
      · exact absurd own.symm mismatched

section

variable {pairs : List (Definition × FilterValue)} (distinct : Distinct pairs)

include distinct

theorem gathered?_eq_some_iff_mem {key : String} {clause : Clause} :
    gathered? pairs key = some clause ↔ ∃ pair ∈ pairs, (key, clause) ∈ contribution pair := by
  rw [gathered?_eq_some_iff distinct]
  refine exists_congr fun pair => and_congr_right fun _ => Clauses.get?_eq_some_iff ?_
  unfold contribution
  split
  · exact FilterValue.nodup_clauses pair.1 pair.2
  · exact List.nodup_nil

theorem get?_foldl_append_empty (key : String) :
    (pairs.foldl append empty).get? key = gathered? pairs key := by
  rw [get?_foldl_append distinct, get?_empty, Option.or_none]

theorem weighs_of_gathered? {key : String} {clause : Clause}
    (isEnd : FilterName.tagPercentage.minKey = key ∨ FilterName.tagPercentage.maxKey = key)
    (found : gathered? pairs key = some clause) : ∃ range, Weighs pairs range := by
  obtain ⟨pair, listed, member⟩ := (gathered?_eq_some_iff_mem distinct).1 found
  have ofPercentage : key ∈ FilterName.tagPercentage.keys := by
    rcases isEnd with rfl | rfl <;> simp [FilterName.keys]
  rcases mem_contribution_iff.1 member with ⟨rfl, _⟩ | ⟨range, spans, ends⟩
  · exact absurd isEnd (wire_ne_tagPercentage pair.1.name)
  · refine ⟨range, pair, listed, FilterName.eq_of_mem_keys ?_ ofPercentage, spans⟩
    rcases ends with ⟨rfl, _⟩ | ⟨rfl, _⟩ <;> simp [FilterName.keys]

theorem withBounds_of_weight {weight : Option RangeValue} (weighed : Weight pairs weight)
    {pair : Definition × FilterValue} {set : SetClause} (tells : Tells pair (.set set)) :
    (pairs.foldl append empty).withBounds (.set set) = .set { set with
      tagPercentageMin := weight.map RangeValue.min
      tagPercentageMax := weight.map RangeValue.max } := by
  cases weighed with
  | @given range weighs =>
      obtain ⟨pair, listed, named, spans⟩ := weighs
      have min : (pairs.foldl append empty).get? FilterName.tagPercentage.minKey =
          some (.bound range.min) := by
        rw [get?_foldl_append_empty distinct, gathered?_eq_some_iff_mem distinct]
        refine ⟨pair, listed, mem_contribution_iff.2 (.inr ⟨range, spans, .inl ⟨?_, rfl⟩⟩)⟩
        rw [named]
      have max : (pairs.foldl append empty).get? FilterName.tagPercentage.maxKey =
          some (.bound range.max) := by
        rw [get?_foldl_append_empty distinct, gathered?_eq_some_iff_mem distinct]
        refine ⟨pair, listed, mem_contribution_iff.2 (.inr ⟨range, spans, .inr ⟨?_, rfl⟩⟩)⟩
        rw [named]
      simp [withBounds, hasTagPercentage, contains, bound?, min, max, SetClause.withTagPercentage]
  | none unweighed =>
      have nowhere : ∀ key, FilterName.tagPercentage.minKey = key ∨
          FilterName.tagPercentage.maxKey = key → (pairs.foldl append empty).get? key = none := by
        intro key isEnd
        rw [get?_foldl_append_empty distinct, Option.eq_none_iff_forall_ne_some]
        intro clause found
        obtain ⟨range, weighs⟩ := weighs_of_gathered? distinct isEnd found
        exact unweighed range weighs
      have unbounded : set = { set with tagPercentageMin := none, tagPercentageMax := none } := by
        cases tells with
        | set => rfl
      simpa [withBounds, hasTagPercentage, contains, nowhere] using unbounded

theorem says_of_get?_build {key : String} {clause : Clause}
    (found : (build pairs).get? key = some clause) : Says pairs key clause := by
  rw [get?_build distinct] at found
  split at found
  · cases found
  rename_i notEnd
  split at found
  · rename_i isTag
    obtain ⟨plain, gathered, rfl⟩ := Option.map_eq_some_iff.1 found
    obtain ⟨pair, listed, member⟩ := (gathered?_eq_some_iff_mem distinct).1 gathered
    rcases mem_contribution_iff.1 member with ⟨rfl, tells⟩ | ⟨_, _, ⟨rfl, _⟩ | ⟨rfl, _⟩⟩
    · have ofTags : pair.1.name = .tag := (FilterName.wire_inj isTag).symm
      cases plain with
      | set set =>
          obtain ⟨weight, weighed⟩ := exists_weight pairs
          rw [withBounds_of_weight distinct weighed tells]
          exact .tags listed tells ofTags weighed
      | _ => exact .told listed tells fun _ _ => nofun
    · exact absurd isTag (FilterName.wire_ne_minKey _ _)
    · exact absurd isTag (FilterName.wire_ne_maxKey _ _)
  · rename_i notTag
    obtain ⟨pair, listed, member⟩ := (gathered?_eq_some_iff_mem distinct).1 found
    rcases mem_contribution_iff.1 member with
      ⟨rfl, tells⟩ | ⟨range, spans, ⟨rfl, rfl⟩ | ⟨rfl, rfl⟩⟩
    · exact .told listed tells fun ofTags => absurd (congrArg FilterName.wire ofTags.symm) notTag
    · exact .min listed spans fun named => notEnd (.inl (congrArg FilterName.minKey named.symm))
    · exact .max listed spans fun named => notEnd (.inr (congrArg FilterName.maxKey named.symm))

theorem get?_build_of_meaning {key : String} {clause : Clause} (told : Says pairs key clause) :
    (build pairs).get? key = some clause := by
  have gathered : ∀ {pair : Definition × FilterValue} {key : String} {clause : Clause},
      pair ∈ pairs → (key, clause) ∈ contribution pair → gathered? pairs key = some clause :=
    fun listed member => (gathered?_eq_some_iff_mem distinct).2 ⟨_, listed, member⟩
  rw [get?_build distinct]
  cases told with
  | @told pair _ listed tells apart =>
      have found := gathered listed (mem_contribution_iff.2 (.inl ⟨rfl, tells⟩))
      rw [if_neg (wire_ne_tagPercentage _), found]
      split
      · rename_i isTag
        rw [Option.map_some, withBounds_of_not_set (apart (FilterName.wire_inj isTag).symm)]
      · rfl
  | tags listed tells ofTags weighed =>
      have found := gathered listed (mem_contribution_iff.2 (.inl ⟨rfl, tells⟩))
      rw [if_neg (wire_ne_tagPercentage _), found, if_pos (by rw [ofTags]), Option.map_some,
        withBounds_of_weight distinct weighed tells]
  | @min pair range listed spans placed =>
      have found := gathered listed (mem_contribution_iff.2
        (.inr ⟨range, spans, .inl ⟨rfl, rfl⟩⟩))
      rw [if_neg, if_neg (FilterName.wire_ne_minKey _ _), found]
      rintro (isMin | isMax)
      · exact placed (FilterName.minKey_inj isMin).symm
      · exact FilterName.minKey_ne_maxKey _ _ isMax.symm
  | @max pair range listed spans placed =>
      have found := gathered listed (mem_contribution_iff.2
        (.inr ⟨range, spans, .inr ⟨rfl, rfl⟩⟩))
      rw [if_neg, if_neg (FilterName.wire_ne_maxKey _ _), found]
      rintro (isMin | isMax)
      · exact FilterName.minKey_ne_maxKey _ _ isMin
      · exact placed (FilterName.maxKey_inj isMax).symm

end

/-! Neither relation asks for the order of the filters. -/

theorem Weight.of_same {pairs others : List (Definition × FilterValue)}
    {weight : Option RangeValue} (weighed : Weight pairs weight)
    (same : ∀ pair, pair ∈ pairs ↔ pair ∈ others) : Weight others weight := by
  have weighs : ∀ range, Weighs pairs range ↔ Weighs others range := fun range =>
    exists_congr fun pair => and_congr_left fun _ => same pair
  cases weighed with
  | given given => exact .given ((weighs _).1 given)
  | none unweighed => exact .none fun range given => unweighed range ((weighs range).2 given)

theorem Says.of_same {pairs others : List (Definition × FilterValue)} {key : String}
    {clause : Clause} (told : Says pairs key clause) (same : ∀ pair, pair ∈ pairs ↔ pair ∈ others) :
    Says others key clause := by
  cases told with
  | told listed tells apart => exact .told ((same _).1 listed) tells apart
  | tags listed tells ofTags weighed =>
      exact .tags ((same _).1 listed) tells ofTags (weighed.of_same same)
  | min listed spans placed => exact .min ((same _).1 listed) spans placed
  | max listed spans placed => exact .max ((same _).1 listed) spans placed

theorem exists_says_iff {pairs : List (Definition × FilterValue)} {key : String} :
    (∃ clause, Says pairs key clause) ↔
      (∃ pair ∈ pairs, (∃ clause, Tells pair clause) ∧ key = pair.1.name.wire) ∨
        ∃ pair ∈ pairs, (∃ range, Spans pair range) ∧ pair.1.name ≠ .tagPercentage ∧
          (key = pair.1.name.minKey ∨ key = pair.1.name.maxKey) := by
  constructor
  · rintro ⟨clause, told⟩
    cases told with
    | told listed tells apart => exact .inl ⟨_, listed, ⟨_, tells⟩, rfl⟩
    | tags listed tells ofTags weighed => exact .inl ⟨_, listed, ⟨_, tells⟩, rfl⟩
    | min listed spans placed => exact .inr ⟨_, listed, ⟨_, spans⟩, placed, .inl rfl⟩
    | max listed spans placed => exact .inr ⟨_, listed, ⟨_, spans⟩, placed, .inr rfl⟩
  · rintro (⟨pair, listed, ⟨clause, tells⟩, rfl⟩ |
      ⟨pair, listed, ⟨range, spans⟩, placed, rfl | rfl⟩)
    · by_cases ofTags : pair.1.name = .tag
      · cases clause with
        | set set =>
            obtain ⟨weight, weighed⟩ := exists_weight pairs
            exact ⟨_, .tags listed tells ofTags weighed⟩
        | _ => exact ⟨_, .told listed tells fun _ _ => nofun⟩
      · exact ⟨_, .told listed tells fun named => absurd named ofTags⟩
    · exact ⟨_, .min listed spans placed⟩
    · exact ⟨_, .max listed spans placed⟩

/-- An expression that is built from filters of different names holds just what they say: a clause
under the name of each that tells one and under the two ends of each range, but of the tag
percentage nothing except in the clause of the tags.  The order of the filters does not matter. -/
theorem build_meaning {pairs : List (Definition × FilterValue)} (distinct : Distinct pairs) :
    (∀ key, (build pairs).contains key = true ↔
      (∃ pair ∈ pairs, (∃ clause, Tells pair clause) ∧ key = pair.1.name.wire) ∨
        ∃ pair ∈ pairs, (∃ range, Spans pair range) ∧ pair.1.name ≠ .tagPercentage ∧
          (key = pair.1.name.minKey ∨ key = pair.1.name.maxKey)) ∧
    (∀ key clause, (build pairs).get? key = some clause ↔ Says pairs key clause) ∧
    (build pairs).contains FilterName.tagPercentage.minKey = false ∧
    (build pairs).contains FilterName.tagPercentage.maxKey = false ∧
    ((∀ pair ∈ pairs, pair.1.name = .tagPercentage → pair.1.kind = .range) →
      (build pairs).contains FilterName.tagPercentage.wire = false) ∧
    ∀ others : List (Definition × FilterValue), others.Perm pairs → build others = build pairs := by
  have told : ∀ key clause, (build pairs).get? key = some clause ↔ Says pairs key clause :=
    fun key clause => ⟨says_of_get?_build distinct, get?_build_of_meaning distinct⟩
  refine ⟨fun key => ?_, told, ?_, ?_, fun ranged => ?_, fun others perm => ?_⟩
  · rw [contains, Option.isSome_iff_exists, ← exists_says_iff]
    exact exists_congr (told key)
  · rw [contains, get?_build distinct, if_pos (.inl rfl)]
    rfl
  · rw [contains, get?_build distinct, if_pos (.inr rfl)]
    rfl
  · rw [contains, Option.isSome_eq_false_iff, Option.isNone_iff_eq_none, get?_build distinct,
      if_neg (wire_ne_tagPercentage _), if_neg (by decide), Option.eq_none_iff_forall_ne_some]
    intro clause found
    obtain ⟨pair, listed, member⟩ := (gathered?_eq_some_iff_mem distinct).1 found
    rcases mem_contribution_iff.1 member with ⟨named, tells⟩ | ⟨_, _, ⟨named, _⟩ | ⟨named, _⟩⟩
    · exact tells.kind_ne_range (ranged pair listed (FilterName.wire_inj named).symm)
    · exact FilterName.wire_ne_minKey _ _ named
    · exact FilterName.wire_ne_maxKey _ _ named
  · have names := perm.map fun pair : Definition × FilterValue => pair.1.name
    have otherDistinct : Distinct others := names.nodup_iff.2 distinct
    apply ext_get?
    intro key
    apply Option.ext
    intro clause
    constructor
    · intro found
      exact get?_build_of_meaning distinct
        ((says_of_get?_build otherDistinct found).of_same fun _ => perm.mem_iff)
    · intro found
      exact get?_build_of_meaning otherDistinct
        ((says_of_get?_build distinct found).of_same fun _ => perm.mem_iff.symm)

def weighedTags : List (Definition × FilterValue) :=
  [(FilterName.tagPercentage.definition, .range { min := { val := 35 }, max := { val := 65 } }),
    (FilterName.airingStart.definition, .text ⟨"1991-13-*", false⟩),
    (FilterName.titleLike.definition, .text ⟨"Mushi.*", true⟩),
    (FilterName.tag.definition,
      .picker ⟨[.excluding "Gore", .including "Iyashikei"], .and⟩)]

theorem build_meaning_of_weighedTags :
    Distinct weighedTags ∧
      (build weighedTags).get? "tag" = some (.set ⟨.and, ["Iyashikei"], ["Gore"],
        some { val := 35 }, some { val := 65 }⟩) ∧
      (build weighedTags).contains "airingStart" = false ∧
      build weighedTags.reverse = build weighedTags := by
  have distinct : Distinct weighedTags := by
    unfold Distinct
    decide
  have weighs : Weighs weighedTags { min := { val := 35 }, max := { val := 65 } } :=
    ⟨_, List.mem_cons_self, rfl, .range rfl _⟩
  have listed : (FilterName.tag.definition,
      FilterValue.picker ⟨[.excluding "Gore", .including "Iyashikei"], .and⟩) ∈ weighedTags := by
    simp [weighedTags]
  obtain ⟨_, told, _, _, _, ordered⟩ := build_meaning distinct
  refine ⟨distinct, (told _ _).2 ?_, by decide +kernel, ordered _ weighedTags.reverse_perm⟩
  exact .tags listed (.set rfl rfl (List.cons_ne_nil _ _)) rfl (.given weighs)

end MediaFilter.Expression
