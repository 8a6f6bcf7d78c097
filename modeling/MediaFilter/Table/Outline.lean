import MediaFilter.Backend.Outline
import MediaFilter.Table

/-!
Short accounts of what a table works from and what it shows, as JSON.
-/

namespace MediaFilter

def QueryContext.toJson (context : QueryContext) : Json :=
  .record
    [("entityType", Json.orNull EntityType.toJson context.entity),
      ("userName", .text context.userName),
      ("expression", .text context.expression.print)]

def TablePage.outline (page : TablePage) : Json :=
  .record
    [("draw", .integer page.draw),
      ("start", .integer page.start),
      ("page", page.page.outline),
      ("summary", Json.orNull .text page.summary)]

end MediaFilter
