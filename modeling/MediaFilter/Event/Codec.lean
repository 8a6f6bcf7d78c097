import MediaFilter.Event
import MediaFilter.EventBus
import MediaFilter.Expression.Codec

/-!
Events as JSON, the way they are sent to hosts.  An expression is sent as its text.
-/

namespace MediaFilter

namespace Event

def details : Event → List (String × Json)
  | .filterChanged entity expression =>
    [("entity_type", entity.toJson), ("expression", .text expression.print)]
  | .filtersRestored entity expression =>
    [("entity_type", entity.toJson), ("expression", .text expression.print)]
  | .whitelistUpdated entity filter count =>
    [("entity_type", entity.toJson), ("filter", filter.toJson), ("count", .integer count)]
  | .alert severity message hint =>
    [("severity", .text severity.wire), ("message", .text message)] ++
      Json.fieldIf "retry_hint" .text hint

def payload (event : Event) : Json :=
  .record (("type", .text event.payloadName) :: event.details)

def toJson (event : Event) : Json :=
  .record (("event_type", .text event.topic) ::
    Json.fieldIf "entity_type" EntityType.toJson event.entity? ++
      [("payload_version", .integer payloadVersion), ("payload", event.payload)])

end Event

def Heard.toJson : Heard Event → Json
  | .event sent => sent.toJson
  | .lagged missed => .record [("lagged", .integer missed)]
  | .nothing => .text "empty"

end MediaFilter
