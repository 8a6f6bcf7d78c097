import MediaFilter.Proofs.Text.Numerals
import MediaFilter.Proofs.Text.Trimming
import MediaFilter.YearShorthand

/-!
What the shorthand of years adds to the years that are known.  An input opens a range if it has a
year in front of its first dash.  Nothing behind that dash leads to every later year that is known,
a later year behind it to that one, and anything else adds nothing.
-/

namespace MediaFilter.YearShorthand

open Text (Canonical IsInt64 Trims)

def IsYear (text : List Char) (year : Int) : Prop :=
  ∃ numeral, Trims text numeral ∧ IsInt64 numeral year

/-- Whether an input has a year in front of its first dash, and this behind it. -/
def Opens (input : String) (first : Int) (rest : List Char) : Prop :=
  ∃ text front, Trims input.toList text ∧ text = front ++ '-' :: rest ∧ '-' ∉ front ∧
    IsYear front first

inductive IsRange (first last : Int) : WhitelistEntry → Prop
  | shown {earlier later : List Char} (isFirst : Canonical earlier first)
      (isLast : Canonical later last) :
      IsRange first last (.plain (String.ofList (earlier ++ '-' :: later)))

/-- Whether the added entries are the ranges to the later ones of the known years, one for each in
the same order. -/
inductive Later (first : Int) : List WhitelistEntry → List WhitelistEntry → Prop
  | none : Later first [] []
  | offered {entry range : WhitelistEntry} {known added : List WhitelistEntry} {year : Int}
      (isYear : IsInt64 entry.value.toList year) (isLater : first < year)
      (isRange : IsRange first year range) (others : Later first known added) :
      Later first (entry :: known) (range :: added)
  | passed {entry : WhitelistEntry} {known added : List WhitelistEntry}
      (isEarlier : ∀ year, IsInt64 entry.value.toList year → year ≤ first)
      (others : Later first known added) : Later first (entry :: known) added

theorem isRange_iff {first last : Int} {entry : WhitelistEntry} :
    IsRange first last entry ↔ entry = .plain (rangeText first last) := by
  have text : rangeText first last =
      String.ofList (Text.intDigits first ++ '-' :: Text.intDigits last) := by
    rw [← String.toList_inj]
    simp [rangeText, Text.intText]
  rw [text]
  constructor
  · rintro ⟨isFirst, isLast⟩
    rw [Text.canonical_iff.1 isFirst, Text.canonical_iff.1 isLast]
  · rintro rfl
    exact .shown (Text.canonical_intDigits first) (Text.canonical_intDigits last)

theorem later_openRanges (first : Int) (known : List WhitelistEntry) :
    Later first known (openRanges first known) := by
  induction known with
  | nil => exact .none
  | cons entry known induction =>
      cases read : Text.readInt64? entry.value.toList with
      | none =>
          have others : openRanges first (entry :: known) = openRanges first known := by
            simp [openRanges, read]
          rw [others]
          refine .passed (fun year isYear => ?_) induction
          rw [Text.readInt64?_eq_some_iff.2 isYear] at read
          cases read
      | some year =>
          have isYear := Text.readInt64?_eq_some_iff.1 read
          by_cases isLater : first < year
          · have others : openRanges first (entry :: known) =
                .plain (rangeText first year) :: openRanges first known := by
              simp [openRanges, read, isLater]
            rw [others]
            exact .offered isYear isLater (isRange_iff.2 rfl) induction
          · have others : openRanges first (entry :: known) = openRanges first known := by
              simp [openRanges, read, isLater]
            rw [others]
            refine .passed (fun other isOther => ?_) induction
            obtain rfl : year = other := Option.some.inj
              (read.symm.trans (Text.readInt64?_eq_some_iff.2 isOther))
            exact Int.not_lt.1 isLater

theorem splitDash?_eq_some_iff {text front rest : List Char} :
    splitDash? text = some (front, rest) ↔ text = front ++ '-' :: rest ∧ '-' ∉ front := by
  unfold splitDash?
  constructor
  · intro split
    cases found : text.dropWhile (· ≠ '-') with
    | nil =>
        rw [found] at split
        cases split
    | cons c behind =>
        rw [found] at split
        cases split
        obtain ⟨_, _, _, isDash⟩ := Text.dropWhile_eq_iff.1 found
        obtain rfl : c = '-' := by simpa using isDash c rfl
        refine ⟨?_, fun member => by simpa using List.mem_takeWhile_imp member⟩
        rw [← found, List.takeWhile_append_dropWhile]
  · rintro ⟨rfl, noDash⟩
    have before : ∀ c ∈ front, (decide (c ≠ '-')) = true := fun c member =>
      decide_eq_true fun isDash => noDash (isDash ▸ member)
    rw [List.dropWhile_append_of_pos before, List.takeWhile_append_of_pos before]
    simp

theorem isYear_iff {text : List Char} {year : Int} :
    IsYear text year ↔ Text.readInt64? (Text.trim text) = some year := by
  rw [Text.readInt64?_eq_some_iff]
  constructor
  · rintro ⟨numeral, trims, isInt64⟩
    rwa [Text.trim_eq_iff.2 trims]
  · intro isInt64
    exact ⟨_, Text.trim_eq_iff.1 rfl, isInt64⟩

theorem opens_iff {input : String} {first : Int} {rest : List Char} :
    Opens input first rest ↔ ∃ front, splitDash? (Text.trim input.toList) = some (front, rest) ∧
      Text.readInt64? (Text.trim front) = some first := by
  constructor
  · rintro ⟨text, front, trims, split, noDash, isYear⟩
    rw [Text.trim_eq_iff.2 trims]
    exact ⟨front, splitDash?_eq_some_iff.2 ⟨split, noDash⟩, isYear_iff.1 isYear⟩
  · rintro ⟨front, split, read⟩
    obtain ⟨whole, noDash⟩ := splitDash?_eq_some_iff.1 split
    exact ⟨_, front, Text.trim_eq_iff.1 rfl, whole, noDash, isYear_iff.2 read⟩

theorem not_isYear_of_blank {text : List Char} (blank : ∀ c ∈ text, Text.isBlank c = true)
    (year : Int) : ¬IsYear text year := by
  rw [isYear_iff, Text.trim_eq_nil_iff.2 blank]
  nofun

theorem IsYear.nonneg {text : List Char} {year : Int} (isYear : IsYear text year)
    (noDash : '-' ∉ text) : 0 ≤ year := by
  obtain ⟨numeral, trims, isInt64⟩ := isYear
  rw [← List.count_eq_zero, trims.count_eq (by decide), List.count_eq_zero] at noDash
  exact isInt64.spells.nonneg noDash

theorem IsYear.nonpos {text : List Char} {year : Int} (isYear : IsYear text year)
    (dash : '-' ∈ text) : year ≤ 0 := by
  obtain ⟨numeral, trims, isInt64⟩ := isYear
  rw [← List.count_pos_iff, trims.count_eq (by decide), List.count_pos_iff] at dash
  exact isInt64.spells.nonpos dash

theorem Opens.nonneg {input : String} {first : Int} {rest : List Char}
    (opens : Opens input first rest) : 0 ≤ first := by
  obtain ⟨_, _, _, _, noDash, isYear⟩ := opens
  exact isYear.nonneg noDash

theorem Opens.count_eq {input : String} {first : Int} {rest : List Char}
    (opens : Opens input first rest) : input.toList.count '-' = rest.count '-' + 1 := by
  obtain ⟨text, front, trims, rfl, noDash, _⟩ := opens
  simp [trims.count_eq (show Text.isBlank '-' = false by decide), List.count_eq_zero.2 noDash]

theorem not_opens_of_leading {input : String} {text : List Char}
    (trims : Trims input.toList text) (leading : text.head? = some '-') (first : Int)
    (rest : List Char) : ¬Opens input first rest := by
  rintro ⟨_, front, others, rfl, noDash, isYear⟩
  rw [← Text.trim_eq_iff.2 trims, Text.trim_eq_iff.2 others] at leading
  cases front with
  | nil => exact not_isYear_of_blank (List.forall_mem_nil _) first isYear
  | cons c front =>
      obtain rfl := Option.some.inj leading
      exact noDash List.mem_cons_self

section

variable {input : String} {first : Int} {rest : List Char} {known : List WhitelistEntry}

theorem ranges_of_open (opens : Opens input first rest)
    (blank : ∀ c ∈ rest, Text.isBlank c = true) : ranges input known = openRanges first known := by
  obtain ⟨front, split, read⟩ := opens_iff.1 opens
  simp [ranges, split, read, Text.trim_eq_nil_iff.2 blank]

theorem ranges_of_closed (opens : Opens input first rest) {last : Int} (isYear : IsYear rest last) :
    ranges input known = closedRange first last := by
  obtain ⟨front, split, read⟩ := opens_iff.1 opens
  have closed := isYear_iff.1 isYear
  simp only [ranges, split, read]
  split
  · rename_i empty
    rw [empty] at closed
    cases closed
  · rw [closed, Option.map_some, Option.getD_some]

theorem ranges_of_unclosed (opens : Opens input first rest)
    (notBlank : ¬∀ c ∈ rest, Text.isBlank c = true) (noYear : ∀ last, ¬IsYear rest last) :
    ranges input known = [] := by
  obtain ⟨front, split, read⟩ := opens_iff.1 opens
  have unread : Text.readInt64? (Text.trim rest) = none :=
    Option.eq_none_iff_forall_ne_some.2 fun last closed => noYear last (isYear_iff.2 closed)
  simp only [ranges, split, read]
  split
  · rename_i empty
    exact absurd (Text.trim_eq_nil_iff.1 empty) notBlank
  · rw [unread, Option.map_none, Option.getD_none]

theorem ranges_of_unopened (unopened : ∀ first rest, ¬Opens input first rest) :
    ranges input known = [] := by
  unfold ranges
  split
  · rfl
  · rename_i front rest split
    split
    · rfl
    · rename_i first read
      exact absurd (opens_iff.2 ⟨front, split, read⟩) (unopened first rest)

end

/-- What an input adds to the known years, told from its form. -/
structure Adds (input : String) (known added : List WhitelistEntry) : Prop where
  opened : ∀ first rest, Opens input first rest → (∀ c ∈ rest, Text.isBlank c = true) →
    Later first known added
  closed : ∀ first rest last, Opens input first rest → IsYear rest last → first < last →
    ∃ range, IsRange first last range ∧ added = [range]
  unclosed : ∀ first rest, Opens input first rest → (∃ c ∈ rest, Text.isBlank c = false) →
    (∀ last, IsYear rest last → last ≤ first) → added = []
  unopened : (∀ first rest, ¬Opens input first rest) → added = []

theorem adds_ranges (input : String) (known : List WhitelistEntry) :
    Adds input known (ranges input known) where
  opened first rest opens blank := by
    rw [ranges_of_open opens blank]
    exact later_openRanges first known
  closed first rest last opens isYear isLater := by
    rw [ranges_of_closed opens isYear, closedRange, if_pos isLater]
    exact ⟨_, isRange_iff.2 rfl, rfl⟩
  unclosed first rest opens notBlank noLater := by
    by_cases closed : ∃ last, IsYear rest last
    · obtain ⟨last, isYear⟩ := closed
      rw [ranges_of_closed opens isYear, closedRange, if_neg (Int.not_lt.2 (noLater last isYear))]
    · refine ranges_of_unclosed opens (fun blank => ?_) (not_exists.1 closed)
      obtain ⟨c, member, isText⟩ := notBlank
      simp [blank c member] at isText
  unopened := ranges_of_unopened

/-- Behind a second dash there is no year, and before the first one none is negative. -/
theorem Adds.eq_nil_of_several {input : String} {known added : List WhitelistEntry}
    (adds : Adds input known added) (several : 2 ≤ input.toList.count '-') : added = [] := by
  by_cases opened : ∃ first rest, Opens input first rest
  · obtain ⟨first, rest, opens⟩ := opened
    have dash : '-' ∈ rest := List.count_pos_iff.1 (by have := opens.count_eq; omega)
    exact adds.unclosed first rest opens ⟨'-', dash, by decide⟩ fun last isYear =>
      Int.le_trans (isYear.nonpos dash) opens.nonneg
  · exact adds.unopened fun first rest opens => opened ⟨first, rest, opens⟩

/-- The known years stay as they are, in their order, and what comes behind them is told by the
input.  If it is a year and a dash, one range is added for each later year that is known; if a
later year follows the dash, the range to that one; and nothing is added to any other input, such
as one that begins with a dash or that has several. -/
theorem expand_exact (input : String) (known : List WhitelistEntry) :
    ∃ added, expand input known = known ++ added ∧
      (∀ first rest, Opens input first rest →
        ((∀ c ∈ rest, Text.isBlank c = true) → Later first known added) ∧
        (∀ last, IsYear rest last → first < last →
          ∃ range, IsRange first last range ∧ added = [range]) ∧
        ((∃ c ∈ rest, Text.isBlank c = false) → (∀ last, IsYear rest last → last ≤ first) →
          added = [])) ∧
      ((∀ first rest, ¬Opens input first rest) → added = []) ∧
      (∀ text, Trims input.toList text → text.head? = some '-' → added = []) ∧
      (2 ≤ input.toList.count '-' → added = []) := by
  have adds := adds_ranges input known
  refine ⟨ranges input known, rfl, fun first rest opens => ⟨adds.opened first rest opens,
    fun last => adds.closed first rest last opens, adds.unclosed first rest opens⟩,
    adds.unopened, fun text trims leading => ?_, adds.eq_nil_of_several⟩
  exact adds.unopened (not_opens_of_leading trims leading)

example : expand " +2010 - " [.plain "2009", .plain "2012", .plain "x", .plain "2011"] =
    [.plain "2009", .plain "2012", .plain "x", .plain "2011", .plain "2010-2012",
      .plain "2010-2011"] := by decide

end MediaFilter.YearShorthand
