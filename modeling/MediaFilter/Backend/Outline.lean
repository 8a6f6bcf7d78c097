import MediaFilter.Backend.Call
import MediaFilter.Definition.Codec

/-!
Short accounts of what the backend sent, as JSON.
-/

namespace MediaFilter

namespace Choices

def valuesFields : List ValuesField :=
  [.format, .genres, .countryOfOrigin, .externalLinks, .season, .seasonYear, .source, .status,
    .awcCommunityLists, .tags, .bloodType, .gender]

def boundsFields : List BoundsField := [.totalRuntime, .episodes, .volumes, .mcCount]

/-- The values of a field, where there are some; tags are told with their categories. -/
def valuesOutline (choices : Choices) (grouping : TagGrouping) (field : ValuesField) :
    Option (String × Json) :=
  match field, choices.whitelist field grouping with
  | _, [] => none
  | .tags, entries => some (field.wire, .list (entries.map WhitelistEntry.toJson))
  | _, entries => some (field.wire, Json.texts (entries.map WhitelistEntry.value))

def boundsOutline (choices : Choices) (field : BoundsField) : Option (String × Json) :=
  (choices.domain? field).map fun domain =>
    (field.wire, .record [("steps", .list ((choices.bounds field).map Bound.toJson)),
      ("domain", domain.toJson)])

def outline (grouping : TagGrouping) (choices : Choices) : Json :=
  .record
    [("lists", .record (valuesFields.filterMap (choices.valuesOutline grouping))),
      ("bounds", .record (boundsFields.filterMap choices.boundsOutline)),
      ("tags_empty", .truth choices.tags.isEmpty)]

end Choices

def Notice.outline (notice : Notice) : Json :=
  .record [("message", .text notice.message), ("kind", Json.orNull .text notice.kind),
    ("timeout", .truth notice.isTimeout)]

def UserList.outline (list : UserList) : Json :=
  .record
    [("id", .text list.id),
      ("name", .text list.name),
      ("amount_completed", Json.orNull (fun amount => .integer amount) list.amountCompleted),
      ("amount_total", .integer list.amountTotal),
      ("label", .text list.completionLabel),
      ("entry", list.toWhitelistEntry.toJson)]

def UserListReply.outline (reply : UserListReply) : Json :=
  .record
    [("lists", .list (reply.lists.map UserList.outline)),
      ("errors", .list (reply.errors.map Notice.outline)),
      ("warnings", .list (reply.warnings.map Notice.outline))]

def PageStats.outline (stats : PageStats) : Json :=
  .record
    [("has_total_completed", .truth stats.totalCompleted.isSome),
      ("total_episodes", Json.orNull .integer stats.totalEpisodes),
      ("filtered_episodes", Json.orNull .integer stats.filteredEpisodes),
      ("total_runtime", Json.orNull .integer stats.totalRuntime),
      ("filtered_runtime", Json.orNull .integer stats.filteredRuntime),
      ("total_volumes", Json.orNull .integer stats.totalVolumes),
      ("filtered_volumes", Json.orNull .integer stats.filteredVolumes)]

/-- The rows of a page are only counted. -/
def Page.fields (page : Page) : List (String × Json) :=
  [("draw", Json.orNull (fun draw => .integer draw) page.draw),
    ("data", .integer page.rows.length),
    ("recordsTotal", .integer page.recordsTotal),
    ("recordsFiltered", .integer page.recordsFiltered),
    ("stats", page.stats.outline)]

def Page.outline (page : Page) : Json := .record page.fields

end MediaFilter
