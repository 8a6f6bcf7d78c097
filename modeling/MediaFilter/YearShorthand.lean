import MediaFilter.Backend.Whitelist

/-!
Ranges of years in short.  A year and a dash offer a range to each later year that is known; two
years with a dash between them offer that one range, if it is in order.  The known years are always
offered, and text of any other form adds nothing.
-/

namespace MediaFilter.YearShorthand

/-- The parts before and behind the first dash. -/
def splitDash? (cs : List Char) : Option (List Char × List Char) :=
  match cs.dropWhile (· ≠ '-') with
  | [] => none
  | _ :: rest => some (cs.takeWhile (· ≠ '-'), rest)

def rangeText (first last : Int) : String := Text.intText first ++ "-" ++ Text.intText last

/-- A range from a year to each later one of those known. -/
def openRanges (first : Int) (known : List WhitelistEntry) : List WhitelistEntry :=
  (known.filterMap fun entry => Text.readInt64? entry.value.toList).filter (first < ·)
    |>.map fun year => .plain (rangeText first year)

def closedRange (first last : Int) : List WhitelistEntry :=
  if first < last then [.plain (rangeText first last)] else []

/-- What the shorthand adds to the known years. -/
def ranges (input : String) (known : List WhitelistEntry) : List WhitelistEntry :=
  match splitDash? (Text.trim input.toList) with
  | none => []
  | some (first, last) =>
    match Text.readInt64? (Text.trim first) with
    | none => []
    | some first =>
      match Text.trim last with
      | [] => openRanges first known
      | last => ((Text.readInt64? last).map (closedRange first)).getD []

def expand (input : String) (known : List WhitelistEntry) : List WhitelistEntry :=
  known ++ ranges input known

end MediaFilter.YearShorthand
