import MediaFilter.Backend.TagCatalog
import MediaFilter.Definition

/-!
The choices for one entity type: the values of its pickers and the bounds of its ranges.  Bounds
are steps, of which the last is the greatest number offered.
-/

namespace MediaFilter

structure Choices where
  format : List String
  genres : List String
  countryOfOrigin : List String
  externalLinks : List String
  season : List String
  seasonYear : List String
  source : List String
  status : List String
  awcCommunityLists : List String
  bloodType : List String
  gender : List String
  tags : TagCatalog
  totalRuntime : List Bound
  episodes : List Bound
  volumes : List Bound
  mcCount : List Bound
  deriving DecidableEq

namespace Choices

def empty : Choices :=
  { format := [], genres := [], countryOfOrigin := [], externalLinks := [], season := []
    seasonYear := [], source := [], status := [], awcCommunityLists := [], bloodType := []
    gender := [], tags := .empty, totalRuntime := [], episodes := [], volumes := []
    mcCount := [] }

def values (choices : Choices) : ValuesField → List String
  | .format => choices.format
  | .genres => choices.genres
  | .countryOfOrigin => choices.countryOfOrigin
  | .externalLinks => choices.externalLinks
  | .season => choices.season
  | .seasonYear => choices.seasonYear
  | .source => choices.source
  | .status => choices.status
  | .awcCommunityLists => choices.awcCommunityLists
  | .tags => (choices.tags.entries .grouped).map WhitelistEntry.value
  | .bloodType => choices.bloodType
  | .gender => choices.gender

def whitelist (choices : Choices) (field : ValuesField) (grouping : TagGrouping) :
    List WhitelistEntry :=
  match field with
  | .tags => choices.tags.entries grouping
  | field => (choices.values field).map WhitelistEntry.plain

def bounds (choices : Choices) : BoundsField → List Bound
  | .totalRuntime => choices.totalRuntime
  | .episodes => choices.episodes
  | .volumes => choices.volumes
  | .mcCount => choices.mcCount

/-- From zero to the last step, if there are any. -/
def domain? (choices : Choices) (field : BoundsField) : Option RangeDomain :=
  (choices.bounds field).getLast?.map fun last =>
    RangeDomain.between RangeDomain.placeholder.lo last

def fieldNames : List String :=
  ["format", "genres", "country_of_origin", "external_links", "season", "season_year", "source",
    "status", "awc_community_lists", "blood_type", "gender", "tags", "total_runtime", "episodes",
    "volumes", "mcCount"]

def texts? (field : Option Json) : Option (List String) :=
  Json.defaulting [] Scalar.texts? field

def bounds? (field : Option Json) : Option (List Bound) :=
  Json.defaulting [] Scalar.bounds? field

def ofJson? (value : Json) : Option Choices :=
  match value.fields? fieldNames .ignored with
  | some [format, genres, countryOfOrigin, externalLinks, season, seasonYear, source, status,
      awcCommunityLists, bloodType, gender, tags, totalRuntime, episodes, volumes, mcCount] => do
    let format ← texts? format
    let genres ← texts? genres
    let countryOfOrigin ← texts? countryOfOrigin
    let externalLinks ← texts? externalLinks
    let season ← texts? season
    let seasonYear ← texts? seasonYear
    let source ← texts? source
    let status ← texts? status
    let awcCommunityLists ← texts? awcCommunityLists
    let bloodType ← texts? bloodType
    let gender ← texts? gender
    let tags ← Json.defaulting TagCatalog.empty TagCatalog.ofJson? tags
    let totalRuntime ← bounds? totalRuntime
    let episodes ← bounds? episodes
    let volumes ← bounds? volumes
    let mcCount ← bounds? mcCount
    some { format, genres, countryOfOrigin, externalLinks, season, seasonYear, source, status,
           awcCommunityLists, bloodType, gender, tags, totalRuntime, episodes, volumes, mcCount }
  | _ => none

end Choices

end MediaFilter
