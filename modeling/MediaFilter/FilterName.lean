import MediaFilter.Error
import MediaFilter.Json.Fields

/-!
The names of all filters.  A name is also the key of the filter's clause in an expression; a range
filter has two keys, one for each end.
-/

namespace MediaFilter

inductive FilterName where
  | titleLike
  | notesLike
  | userList
  | format
  | source
  | country
  | airStatus
  | genre
  | tag
  | tagPercentage
  | season
  | year
  | airingStart
  | airingFinish
  | userStartFrom
  | userFinishUntil
  | externalLink
  | voiceActor
  | staff
  | studio
  | producer
  | awcCommunityList
  | episodes
  | totalRuntime
  | volumes
  | meanScore
  | avgScore
  | mcCount
  | showAdult
  | muPublisher
  | muPublication
  | onlyScanlated
  | nameLike
  | bloodType
  | gender
  | birthdayFrom
  | birthdayUntil
  | deathdayFrom
  | deathdayUntil
  deriving DecidableEq, Repr

namespace FilterName

def all : List FilterName :=
  [.titleLike, .notesLike, .userList, .format, .source, .country, .airStatus, .genre, .tag,
    .tagPercentage, .season, .year, .airingStart, .airingFinish, .userStartFrom,
    .userFinishUntil, .externalLink, .voiceActor, .staff, .studio, .producer, .awcCommunityList,
    .episodes, .totalRuntime, .volumes, .meanScore, .avgScore, .mcCount, .showAdult,
    .muPublisher, .muPublication, .onlyScanlated, .nameLike, .bloodType, .gender, .birthdayFrom,
    .birthdayUntil, .deathdayFrom, .deathdayUntil]

def wire : FilterName → String
  | .titleLike => "titleLike"
  | .notesLike => "notesLike"
  | .userList => "userList"
  | .format => "format"
  | .source => "source"
  | .country => "country"
  | .airStatus => "airStatus"
  | .genre => "genre"
  | .tag => "tag"
  | .tagPercentage => "tagPercentage"
  | .season => "season"
  | .year => "year"
  | .airingStart => "airingStart"
  | .airingFinish => "airingFinish"
  | .userStartFrom => "userStartFrom"
  | .userFinishUntil => "userFinishUntil"
  | .externalLink => "externalLink"
  | .voiceActor => "voiceActor"
  | .staff => "staff"
  | .studio => "studio"
  | .producer => "producer"
  | .awcCommunityList => "awcCommunityList"
  | .episodes => "episodes"
  | .totalRuntime => "totalRuntime"
  | .volumes => "volumes"
  | .meanScore => "meanScore"
  | .avgScore => "avgScore"
  | .mcCount => "mcCount"
  | .showAdult => "showAdult"
  | .muPublisher => "muPublisher"
  | .muPublication => "muPublication"
  | .onlyScanlated => "onlyScanlated"
  | .nameLike => "nameLike"
  | .bloodType => "bloodType"
  | .gender => "gender"
  | .birthdayFrom => "birthdayFrom"
  | .birthdayUntil => "birthdayUntil"
  | .deathdayFrom => "deathdayFrom"
  | .deathdayUntil => "deathdayUntil"

/-- The name with a capital letter, as it is shown in descriptions. -/
def title : FilterName → String
  | .titleLike => "TitleLike"
  | .notesLike => "NotesLike"
  | .userList => "UserList"
  | .format => "Format"
  | .source => "Source"
  | .country => "Country"
  | .airStatus => "AirStatus"
  | .genre => "Genre"
  | .tag => "Tag"
  | .tagPercentage => "TagPercentage"
  | .season => "Season"
  | .year => "Year"
  | .airingStart => "AiringStart"
  | .airingFinish => "AiringFinish"
  | .userStartFrom => "UserStartFrom"
  | .userFinishUntil => "UserFinishUntil"
  | .externalLink => "ExternalLink"
  | .voiceActor => "VoiceActor"
  | .staff => "Staff"
  | .studio => "Studio"
  | .producer => "Producer"
  | .awcCommunityList => "AwcCommunityList"
  | .episodes => "Episodes"
  | .totalRuntime => "TotalRuntime"
  | .volumes => "Volumes"
  | .meanScore => "MeanScore"
  | .avgScore => "AvgScore"
  | .mcCount => "McCount"
  | .showAdult => "ShowAdult"
  | .muPublisher => "MuPublisher"
  | .muPublication => "MuPublication"
  | .onlyScanlated => "OnlyScanlated"
  | .nameLike => "NameLike"
  | .bloodType => "BloodType"
  | .gender => "Gender"
  | .birthdayFrom => "BirthdayFrom"
  | .birthdayUntil => "BirthdayUntil"
  | .deathdayFrom => "DeathdayFrom"
  | .deathdayUntil => "DeathdayUntil"

def minKey (name : FilterName) : String := name.wire ++ "Min"

def maxKey (name : FilterName) : String := name.wire ++ "Max"

def ofWire? (text : String) : Option FilterName := all.find? fun name => name.wire == text

def parse (text : String) : Except Error FilterName :=
  match ofWire? text with
  | some name => .ok name
  | none => .error (.invalidInput ("unknown filter: " ++ text))

def toJson (name : FilterName) : Json := .text name.wire

def ofJson? (value : Json) : Option FilterName := value.alternative? >>= ofWire?

theorem mem_all (name : FilterName) : name ∈ all := by
  cases name <;> decide

end FilterName

end MediaFilter
