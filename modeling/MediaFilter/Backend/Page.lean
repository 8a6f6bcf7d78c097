import MediaFilter.Decimal.Fixed
import MediaFilter.EntityType

/-!
Pages of search results, with the figures that sum up the whole list.
-/

namespace MediaFilter

structure PageStats where
  totalCompleted : Option Decimal.Double
  totalEpisodes : Option Int
  filteredEpisodes : Option Int
  totalRuntime : Option Int
  filteredRuntime : Option Int
  totalVolumes : Option Int
  filteredVolumes : Option Int

structure Page where
  draw : Option Nat
  rows : List Json
  recordsTotal : Nat
  recordsFiltered : Nat
  stats : PageStats

namespace Page

def empty : Page := ⟨none, [], 0, 0, ⟨none, none, none, none, none, none, none⟩⟩

def fieldNames : List String :=
  ["draw", "data", "recordsTotal", "recordsFiltered", "total_completed", "total_episodes",
    "filtered_episodes", "total_runtime", "filtered_runtime", "total_volumes", "filtered_volumes"]

def double? : Json → Option Decimal.Double
  | .double value => some value
  | .integer value => some (.ofInt value)
  | _ => none

def figure? (field : Option Json) : Option (Option Int) := Json.optional Json.int64? field

def ofFields? : List (Option Json) → Option Page
  | [draw, rows, recordsTotal, recordsFiltered, totalCompleted, totalEpisodes, filteredEpisodes,
      totalRuntime, filteredRuntime, totalVolumes, filteredVolumes] => do
    let draw ← Json.optional Json.uint64? draw
    let rows ← Json.defaulting [] (Json.listOf some) rows
    let recordsTotal ← Json.defaulting 0 Json.uint64? recordsTotal
    let recordsFiltered ← Json.defaulting 0 Json.uint64? recordsFiltered
    let totalCompleted ← Json.optional double? totalCompleted
    let totalEpisodes ← figure? totalEpisodes
    let filteredEpisodes ← figure? filteredEpisodes
    let totalRuntime ← figure? totalRuntime
    let filteredRuntime ← figure? filteredRuntime
    let totalVolumes ← figure? totalVolumes
    let filteredVolumes ← figure? filteredVolumes
    let stats : PageStats := { totalCompleted, totalEpisodes, filteredEpisodes, totalRuntime,
                               filteredRuntime, totalVolumes, filteredVolumes }
    some { draw, rows, recordsTotal, recordsFiltered, stats }
  | _ => none

/-- A page is a record by names only, and it is kept whole. -/
def ofJson? (value : Json) : Option Page := do
  match ← value.kept? with
  | .record fields =>
    let found ← Json.namedFields? fieldNames .ignored fields
    ofFields? found
  | _ => none

/-- The share of completed records, in percent. -/
def completion (page : Page) : Decimal.Double :=
  if page.recordsTotal = 0 then .zero false
  else
    let completed := (page.stats.totalCompleted.getD (.zero false)).floor
    (completed.div (.ofNat page.recordsTotal)).mul (.ofNat 100)

def minutes (stats : PageStats) : String :=
  let filtered := stats.filteredRuntime.getD 0
  let total := stats.totalRuntime.getD 0
  Text.intText filtered ++ " minutes" ++
    if filtered < total then " (filtered from " ++ Text.intText total ++ " minutes)" else ""

def chapters (stats : PageStats) : String :=
  let episodes := stats.filteredEpisodes.getD 0
  let totalEpisodes := stats.totalEpisodes.getD 0
  Text.intText episodes ++ " chapters, " ++ Text.intText (stats.filteredVolumes.getD 0) ++
    " volumes" ++
    if episodes < totalEpisodes then
      " (filtered from " ++ Text.intText totalEpisodes ++ " chapters, " ++
        Text.intText (stats.totalVolumes.getD 0) ++ " volumes)"
    else ""

/-- The line below the list; only media have figures to sum up. -/
def describe? (page : Page) (entity : EntityType) : Option String :=
  let completed := String.ofList page.completion.twoPlaces ++ "% Completed, "
  match entity with
  | .anime => some (completed ++ minutes page.stats)
  | .manga => some (completed ++ chapters page.stats)
  | .character => none
  | .staff => none

/-- What the figures of a list come to; where not all of it is shown, those of the whole follow. -/
inductive Tells (stats : PageStats) : EntityType → String → Prop
  | minutes (whole : stats.totalRuntime.getD 0 ≤ stats.filteredRuntime.getD 0) :
      Tells stats .anime (Text.intText (stats.filteredRuntime.getD 0) ++ " minutes")
  | someMinutes (part : stats.filteredRuntime.getD 0 < stats.totalRuntime.getD 0) :
      Tells stats .anime (Text.intText (stats.filteredRuntime.getD 0) ++ " minutes" ++
        (" (filtered from " ++ Text.intText (stats.totalRuntime.getD 0) ++ " minutes)"))
  | chapters (whole : stats.totalEpisodes.getD 0 ≤ stats.filteredEpisodes.getD 0) :
      Tells stats .manga (Text.intText (stats.filteredEpisodes.getD 0) ++ " chapters, " ++
        Text.intText (stats.filteredVolumes.getD 0) ++ " volumes")
  | someChapters (part : stats.filteredEpisodes.getD 0 < stats.totalEpisodes.getD 0) :
      Tells stats .manga (Text.intText (stats.filteredEpisodes.getD 0) ++ " chapters, " ++
        Text.intText (stats.filteredVolumes.getD 0) ++ " volumes" ++
        (" (filtered from " ++ Text.intText (stats.totalEpisodes.getD 0) ++ " chapters, " ++
          Text.intText (stats.totalVolumes.getD 0) ++ " volumes)"))

theorem tells_minutes (stats : PageStats) : Tells stats .anime (minutes stats) := by
  unfold minutes
  dsimp only
  split
  · exact .someMinutes ‹_›
  · rw [String.append_empty]
    exact .minutes (Int.not_lt.1 ‹_›)

theorem tells_chapters (stats : PageStats) : Tells stats .manga (chapters stats) := by
  unfold chapters
  dsimp only
  split
  · exact .someChapters ‹_›
  · rw [String.append_empty]
    exact .chapters (Int.not_lt.1 ‹_›)

theorem Tells.unique {stats : PageStats} {entity : EntityType} {first second : String}
    (tells : Tells stats entity first) (other : Tells stats entity second) : first = second := by
  cases tells <;> cases other <;> first | rfl | omega

/-- A list of media is summed up by the share of what is completed and by its figures. -/
theorem describe?_eq_some_iff {page : Page} {entity : EntityType} {line : String} :
    page.describe? entity = some line ↔ ∃ figures, Tells page.stats entity figures ∧
      line = String.ofList page.completion.twoPlaces ++ "% Completed, " ++ figures := by
  constructor
  · intro described
    cases entity with
    | anime => exact ⟨_, tells_minutes page.stats, (Option.some.inj described).symm⟩
    | manga => exact ⟨_, tells_chapters page.stats, (Option.some.inj described).symm⟩
    | character => cases described
    | staff => cases described
  · rintro ⟨figures, tells, rfl⟩
    cases entity with
    | anime => rw [tells.unique (tells_minutes page.stats)]; rfl
    | manga => rw [tells.unique (tells_chapters page.stats)]; rfl
    | character => cases tells
    | staff => cases tells

/-- Characters and staff are not summed up. -/
theorem describe?_eq_none_iff {page : Page} {entity : EntityType} :
    page.describe? entity = none ↔ entity.isMedia = false := by
  cases entity <;> simp [describe?, EntityType.isMedia]

end Page

end MediaFilter
