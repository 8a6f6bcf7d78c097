import MediaFilter.Definition

/-!
The filters offered for each kind of record, in the order in which they are shown.
-/

namespace MediaFilter

def EntityType.filterSet : EntityType → List FilterName
  | .anime =>
    [.titleLike, .notesLike, .userList, .format, .source, .country, .airStatus, .genre, .tag,
      .tagPercentage, .season, .year, .airingStart, .airingFinish, .userStartFrom,
      .userFinishUntil, .externalLink, .voiceActor, .staff, .studio, .producer,
      .awcCommunityList, .episodes, .totalRuntime, .meanScore, .avgScore, .mcCount, .showAdult]
  | .manga =>
    [.titleLike, .notesLike, .userList, .format, .source, .country, .airStatus, .genre, .tag,
      .tagPercentage, .year, .airingStart, .airingFinish, .userStartFrom, .userFinishUntil,
      .externalLink, .staff, .episodes, .volumes, .meanScore, .avgScore, .mcCount, .muPublisher,
      .muPublication, .onlyScanlated, .showAdult]
  | .character => [.nameLike, .bloodType, .gender, .birthdayFrom, .birthdayUntil]
  | .staff =>
    [.nameLike, .bloodType, .gender, .birthdayFrom, .birthdayUntil, .deathdayFrom,
      .deathdayUntil]

def EntityType.definitions (entity : EntityType) : List Definition :=
  entity.filterSet.map FilterName.definition

theorem EntityType.filterSet_nodup (entity : EntityType) : entity.filterSet.Nodup := by
  cases entity <;> decide

end MediaFilter
