import MediaFilter.DateMask
import MediaFilter.Proofs.Expression.Relocation
import MediaFilter.Proofs.Text.Regex

/-!
The mask of dates.  A text passes it exactly if it is made of a year, a month and a day with dashes
between them, and it is so in one way only.  That is what the pattern shown to users says, and what
filters with the mask let through.
-/

namespace MediaFilter

open Text (Piece Span isDecimalDigit)

namespace DateMask

inductive IsYear : List Char → Prop
  | any : IsYear ['*']
  | digits {year : List Char} (four : year.length = 4)
      (all : ∀ c ∈ year, isDecimalDigit c = true) : IsYear year

inductive IsMonth : List Char → Prop
  | any : IsMonth ['*']
  | early {ones : Char} (digit : isDecimalDigit ones = true) : IsMonth ['0', ones]
  | late {ones : Char} (listed : ones ∈ ['0', '1', '2']) : IsMonth ['1', ones]

inductive IsDay : List Char → Prop
  | any : IsDay ['*']
  | early {tens ones : Char} (listed : tens ∈ ['0', '1', '2'])
      (digit : isDecimalDigit ones = true) : IsDay [tens, ones]
  | late {ones : Char} (listed : ones ∈ ['0', '1']) : IsDay ['3', ones]

structure PartialDate where
  year : List Char
  month : List Char
  day : List Char
  deriving DecidableEq

namespace PartialDate

def spelling (date : PartialDate) : List Char :=
  date.year ++ '-' :: (date.month ++ '-' :: date.day)

structure Valid (date : PartialDate) : Prop where
  year : IsYear date.year
  month : IsMonth date.month
  day : IsDay date.day

end PartialDate

/-! Reading part by part.  A part is told from the front of the text, however the text goes on. -/

/-- Whether a reader takes parts of one form off the front of a text. -/
def Takes (read : List Char → Option (List Char)) (IsPart : List Char → Prop) : Prop :=
  ∀ text rest, read text = some rest ↔ ∃ part, IsPart part ∧ text = part ++ rest

theorem Takes.unique {read : List Char → Option (List Char)} {IsPart : List Char → Prop}
    (takes : Takes read IsPart) {first second rest other : List Char} (ofFirst : IsPart first)
    (ofSecond : IsPart second) (same : first ++ rest = second ++ other) :
    first = second ∧ rest = other := by
  have read := (takes (first ++ rest) rest).2 ⟨first, ofFirst, rfl⟩
  have again := (takes (first ++ rest) other).2 ⟨second, ofSecond, same⟩
  obtain rfl : rest = other := Option.some.inj (read.symm.trans again)
  exact ⟨List.append_cancel_right same, rfl⟩

theorem takes_afterYear? : Takes afterYear? IsYear := by
  intro text rest
  constructor
  · intro read
    unfold afterYear? at read
    split at read
    · cases read
      exact ⟨['*'], .any, rfl⟩
    · rename_i a b c d _ _
      split at read
      · rename_i all
        cases read
        exact ⟨[a, b, c, d], .digits rfl (List.all_eq_true.1 all), rfl⟩
      · cases read
    · cases read
  · rintro ⟨year, any | ⟨four, all⟩, rfl⟩
    · rfl
    · match year, four with
      | [a, b, c, d], _ =>
        have noStar : a ≠ '*' := by
          rintro rfl
          exact absurd (all '*' List.mem_cons_self) (by decide)
        simp [afterYear?, List.all_eq_true.2 all]

theorem isMonth_iff {tens ones : Char} : isMonth tens ones = true ↔ IsMonth [tens, ones] := by
  simp only [isMonth, Bool.or_eq_true, Bool.and_eq_true, decide_eq_true_eq,
    List.contains_iff_mem]
  constructor
  · rintro (⟨rfl, digit⟩ | ⟨rfl, listed⟩)
    · exact .early digit
    · exact .late listed
  · rintro (_ | digit | listed)
    · exact .inl ⟨rfl, digit⟩
    · exact .inr ⟨rfl, listed⟩

theorem isDay_iff {tens ones : Char} : isDay tens ones = true ↔ IsDay [tens, ones] := by
  simp only [isDay, Bool.or_eq_true, Bool.and_eq_true, decide_eq_true_eq,
    List.contains_iff_mem]
  constructor
  · rintro (⟨listed, digit⟩ | ⟨rfl, listed⟩)
    · exact .early listed digit
    · exact .late listed
  · rintro (_ | ⟨listed, digit⟩ | listed)
    · exact .inl ⟨listed, digit⟩
    · exact .inr ⟨rfl, listed⟩

theorem takes_afterMonth? : Takes afterMonth? IsMonth := by
  intro text rest
  constructor
  · intro read
    unfold afterMonth? at read
    split at read
    · cases read
      exact ⟨['*'], .any, rfl⟩
    · rename_i tens ones _ _
      split at read
      · rename_i isMonth
        cases read
        exact ⟨[tens, ones], isMonth_iff.1 isMonth, rfl⟩
      · cases read
    · cases read
  · rintro ⟨month, isPart, rfl⟩
    cases isPart with
    | any => rfl
    | early digit => simp [afterMonth?, isMonth_iff.2 (.early digit)]
    | late listed => simp [afterMonth?, isMonth_iff.2 (.late listed)]

theorem takes_afterDay? : Takes afterDay? IsDay := by
  intro text rest
  constructor
  · intro read
    unfold afterDay? at read
    split at read
    · cases read
      exact ⟨['*'], .any, rfl⟩
    · rename_i tens ones _ _
      split at read
      · rename_i isDay
        cases read
        exact ⟨[tens, ones], isDay_iff.1 isDay, rfl⟩
      · cases read
    · cases read
  · rintro ⟨day, isPart, rfl⟩
    cases isPart with
    | any => rfl
    | @early tens ones listed digit =>
        have noStar : tens ≠ '*' := by
          rintro rfl
          exact absurd listed (by decide)
        simp [afterDay?, isDay_iff.2 (.early listed digit)]
    | late listed => simp [afterDay?, isDay_iff.2 (.late listed)]

theorem afterDash?_eq_some_iff {text rest : List Char} :
    afterDash? text = some rest ↔ text = '-' :: rest := by
  unfold afterDash?
  split <;> simp_all

theorem accepts_iff {text : List Char} :
    accepts text = true ↔ ∃ date : PartialDate, date.Valid ∧ date.spelling = text := by
  have steps : accepts text = true ↔ ∃ afterYear, afterYear? text = some afterYear ∧
      ∃ beforeMonth, afterDash? afterYear = some beforeMonth ∧
      ∃ afterMonth, afterMonth? beforeMonth = some afterMonth ∧
      ∃ beforeDay, afterDash? afterMonth = some beforeDay ∧ afterDay? beforeDay = some [] := by
    simp [accepts, Option.bind_eq_some_iff]
  rw [steps]
  constructor
  · rintro ⟨_, readYear, _, readDash, _, readMonth, _, readSecond, readDay⟩
    obtain ⟨year, isYear, rfl⟩ := (takes_afterYear? _ _).1 readYear
    obtain rfl := afterDash?_eq_some_iff.1 readDash
    obtain ⟨month, isMonth, rfl⟩ := (takes_afterMonth? _ _).1 readMonth
    obtain rfl := afterDash?_eq_some_iff.1 readSecond
    obtain ⟨day, isDay, rfl⟩ := (takes_afterDay? _ _).1 readDay
    exact ⟨⟨year, month, day⟩, ⟨isYear, isMonth, isDay⟩, by simp [PartialDate.spelling]⟩
  · rintro ⟨⟨year, month, day⟩, ⟨isYear, isMonth, isDay⟩, rfl⟩
    exact ⟨_, (takes_afterYear? _ _).2 ⟨year, isYear, rfl⟩, _, afterDash?_eq_some_iff.2 rfl, _,
      (takes_afterMonth? _ _).2 ⟨month, isMonth, rfl⟩, _, afterDash?_eq_some_iff.2 rfl,
      (takes_afterDay? _ _).2 ⟨day, isDay, by simp⟩⟩

theorem PartialDate.Valid.unique {first second : PartialDate} (ofFirst : first.Valid)
    (ofSecond : second.Valid) (same : first.spelling = second.spelling) : first = second := by
  obtain ⟨year, rest⟩ := takes_afterYear?.unique ofFirst.year ofSecond.year same
  obtain ⟨month, rest⟩ := takes_afterMonth?.unique ofFirst.month ofSecond.month
    (List.cons.inj rest).2
  cases first
  cases second
  simp_all

def yearPiece : Piece := .group [[.times 4 .digit], [.char '*']]

def monthPiece : Piece :=
  .group [[.oneOf [('0', '0')], .digit], [.char '1', .oneOf [('0', '2')]], [.char '*']]

def dayPiece : Piece :=
  .group [[.oneOf [('0', '2')], .digit], [.char '3', .oneOf [('0', '0'), ('1', '1')]],
    [.char '*']]

def regex : List Piece :=
  [.start, yearPiece, .char '-', monthPiece, .char '-', dayPiece, .stop]

theorem spelling_regex : Text.spellAll regex = pattern.toList := by decide

theorem mem_run_zero {c : Char} : (∃ run ∈ [('0', '0')], run.1 ≤ c ∧ c ≤ run.2) ↔ c = '0' := by
  simp [Char.le_def, UInt32.le_iff_toNat_le, ← Char.toNat_inj]
  omega

theorem mem_run_zero_two {c : Char} :
    (∃ run ∈ [('0', '2')], run.1 ≤ c ∧ c ≤ run.2) ↔ c ∈ ['0', '1', '2'] := by
  simp [Char.le_def, UInt32.le_iff_toNat_le, ← Char.toNat_inj]
  omega

theorem mem_runs_zero_one {c : Char} :
    (∃ run ∈ [('0', '0'), ('1', '1')], run.1 ≤ c ∧ c ≤ run.2) ↔ c ∈ ['0', '1'] := by
  simp [Char.le_def, UInt32.le_iff_toNat_le, ← Char.toNat_inj]
  omega

section

variable {before middle after : List Char}

theorem spans_yearPiece : yearPiece.Spans before middle after ↔ IsYear middle := by
  simp only [yearPiece, Piece.Spans, Text.spansAny, Text.spansAll, Span.followed_nothing,
    Span.repeated_single, or_false]
  constructor
  · rintro (⟨four, all⟩ | ⟨_, rfl, rfl⟩)
    · exact .digits four all
    · exact .any
  · rintro (_ | ⟨four, all⟩)
    · exact .inr ⟨_, rfl, rfl⟩
    · exact .inl ⟨four, all⟩

theorem spans_monthPiece : monthPiece.Spans before middle after ↔ IsMonth middle := by
  simp only [monthPiece, Piece.Spans, Text.spansAny, Text.spansAll, Span.followed_nothing,
    Span.followed_single_single, mem_run_zero, mem_run_zero_two, or_false]
  constructor
  · rintro (⟨_, _, rfl, rfl, digit⟩ | ⟨_, _, rfl, rfl, listed⟩ | ⟨_, rfl, rfl⟩)
    · exact .early digit
    · exact .late listed
    · exact .any
  · rintro (_ | digit | listed)
    · exact .inr (.inr ⟨_, rfl, rfl⟩)
    · exact .inl ⟨_, _, rfl, rfl, digit⟩
    · exact .inr (.inl ⟨_, _, rfl, rfl, listed⟩)

theorem spans_dayPiece : dayPiece.Spans before middle after ↔ IsDay middle := by
  simp only [dayPiece, Piece.Spans, Text.spansAny, Text.spansAll, Span.followed_nothing,
    Span.followed_single_single, mem_run_zero_two, mem_runs_zero_one, or_false]
  constructor
  · rintro (⟨_, _, rfl, listed, digit⟩ | ⟨_, _, rfl, rfl, listed⟩ | ⟨_, rfl, rfl⟩)
    · exact .early listed digit
    · exact .late listed
    · exact .any
  · rintro (_ | ⟨listed, digit⟩ | listed)
    · exact .inr (.inr ⟨_, rfl, rfl⟩)
    · exact .inl ⟨_, _, rfl, listed, digit⟩
    · exact .inr (.inl ⟨_, _, rfl, rfl, listed⟩)

end

theorem found_regex_iff {text : List Char} :
    Text.Found regex text ↔ ∃ date : PartialDate, date.Valid ∧ date.spelling = text := by
  constructor
  · rintro ⟨before, middle, after, rfl, spanned⟩
    obtain ⟨rfl, year, _, rfl, isYear, spanned⟩ := Text.followed_start.1 spanned
    obtain ⟨_, _, rfl, rfl, month, _, rfl, isMonth, spanned⟩ := Span.followed_single.1 spanned
    obtain ⟨_, _, rfl, rfl, day, _, rfl, isDay, spanned⟩ := Span.followed_single.1 spanned
    simp only [Text.spansAll, Span.followed_nothing] at spanned
    obtain ⟨rfl, rfl⟩ := spanned
    exact ⟨⟨year, month, day⟩, ⟨spans_yearPiece.1 isYear, spans_monthPiece.1 isMonth,
      spans_dayPiece.1 isDay⟩, by simp [PartialDate.spelling]⟩
  · rintro ⟨⟨year, month, day⟩, ⟨isYear, isMonth, isDay⟩, rfl⟩
    refine ⟨[], _, [], (List.append_nil _).symm, Text.followed_start.2 ⟨rfl, ?_⟩⟩
    refine ⟨year, _, rfl, spans_yearPiece.2 isYear, Span.followed_single.2 ⟨_, _, rfl, rfl, ?_⟩⟩
    refine ⟨month, _, rfl, spans_monthPiece.2 isMonth,
      Span.followed_single.2 ⟨_, _, rfl, rfl, ?_⟩⟩
    refine ⟨day, [], by simp, spans_dayPiece.2 isDay, ?_⟩
    simp only [Text.spansAll, Span.followed_nothing]
    exact ⟨rfl, rfl⟩

end DateMask

namespace FilterName

theorem definition_of_masked {name : FilterName} (masked : name.definition.mask.isSome = true) :
    name.definition.mask = some .date ∧ name.definition.kind = .text ∧
      name.definition.regexCapable = false := by
  have table : ∀ name ∈ all, name.definition.mask.isSome = true →
      name.definition.mask = some .date ∧ name.definition.kind = .text ∧
        name.definition.regexCapable = false := by decide
  exact table name (mem_all name) masked

end FilterName

namespace Expression

theorem build_singleton_text {definition : Definition} (kind : definition.kind = .text)
    (value : TextValue) :
    build [(definition, .text value)] =
      insertAll (FilterValue.textClauses definition value) empty := by
  have own : (FilterValue.text value).kind = definition.kind := kind.symm
  have absent : (insertAll (FilterValue.textClauses definition value) empty).hasTagPercentage =
      false := by
    rcases FilterValue.textClauses_eq definition value with none | ⟨clause, one⟩
    · simp [none, insertAll, hasTagPercentage, contains]
    · simp [one, insertAll, hasTagPercentage, contains, get?_insert,
        FilterName.wire_ne_minKey, FilterName.wire_ne_maxKey]
  rw [build, List.foldl_cons, List.foldl_nil, append, if_pos own, FilterValue.clauses,
    relocateTagPercentage_of_absent absent]

/-- What a masked filter lets through: the texts that are made of a year, a month and a day, which
are those that the pattern is found in.  Each is so made in one way, and it alone has a clause when
it is built, the plain text whatever the mode. -/
theorem mask_exact {name : FilterName} (masked : name.definition.mask.isSome = true)
    (text : String) :
    Text.spellAll DateMask.regex = DateMask.pattern.toList ∧
    (name.definition.admits text = true ↔ Text.Found DateMask.regex text.toList) ∧
    (name.definition.admits text = true ↔
      ∃ date : DateMask.PartialDate, date.Valid ∧ date.spelling = text.toList) ∧
    (∀ first second : DateMask.PartialDate, first.Valid → second.Valid →
      first.spelling = text.toList → second.spelling = text.toList → first = second) ∧
    ∀ regexMode, build [(name.definition, .text ⟨text, regexMode⟩)] =
      if name.definition.admits text then empty.insert name.wire (.text text) else empty := by
  obtain ⟨mask, kind, noRegex⟩ := FilterName.definition_of_masked masked
  have accepted : name.definition.admits text = DateMask.accepts text.toList := by
    rw [Definition.admits, mask]
    rfl
  refine ⟨DateMask.spelling_regex, ?_, ?_, ?_, fun regexMode => ?_⟩
  · rw [accepted, DateMask.accepts_iff, DateMask.found_regex_iff]
  · rw [accepted, DateMask.accepts_iff]
  · intro first second ofFirst ofSecond spelled again
    exact ofFirst.unique ofSecond (spelled.trans again.symm)
  · rw [build_singleton_text kind, FilterValue.textClauses, noRegex]
    by_cases admitted : name.definition.admits text = true
    · have nonempty : text.isEmpty = false := by
        refine Bool.eq_false_iff.2 fun isEmpty => ?_
        rw [accepted, String.isEmpty_iff.1 isEmpty] at admitted
        cases admitted
      simp [admitted, nonempty, insertAll]
    · simp [admitted, insertAll]

def arabicMonth : String := "\u0662\u0660\u0661\u0669-0\u0667-*"

theorem mask_exact_of_arabicMonth :
    FilterName.airingStart.definition.mask.isSome = true ∧
      FilterName.airingStart.definition.admits arabicMonth = true ∧
      Text.Found DateMask.regex arabicMonth.toList ∧
      build [(FilterName.airingStart.definition, .text ⟨arabicMonth, true⟩)] =
        empty.insert "airingStart" (.text arabicMonth) := by
  have masked : FilterName.airingStart.definition.mask.isSome = true := rfl
  obtain ⟨_, found, dated, _, built⟩ := mask_exact masked arabicMonth
  have valid : DateMask.PartialDate.Valid
      ⟨['\u0662', '\u0660', '\u0661', '\u0669'], ['0', '\u0667'], ['*']⟩ :=
    ⟨.digits rfl (List.all_eq_true.1 (by decide)), .early (by decide), .any⟩
  have admitted := dated.2 ⟨_, valid, by decide⟩
  exact ⟨masked, admitted, found.1 admitted, (built true).trans (if_pos admitted)⟩

end Expression

end MediaFilter
