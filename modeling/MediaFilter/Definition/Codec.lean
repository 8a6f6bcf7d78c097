import MediaFilter.DateMask
import MediaFilter.FilterValue.Codec

/-!
Definitions as JSON, for whoever draws the widgets.
-/

namespace MediaFilter

def RangeDomain.toJson (domain : RangeDomain) : Json := .list [domain.lo.toJson, domain.hi.toJson]

def ChoiceSource.toJson : ChoiceSource → Json
  | .values field => Json.texts ["values", field.wire]
  | .bounds field => Json.texts ["bounds", field.wire]
  | .typeahead source => Json.texts ["typeahead", source.path]
  | .userLists => Json.texts ["userLists"]

def Mask.toJson : Mask → Json
  | .date => .text DateMask.pattern

namespace Definition

def labels (definition : Definition) : List String :=
  EntityType.all.map definition.labelFor

def toJson (definition : Definition) : Json :=
  let neutral := FilterValue.neutral definition
  .record
    [("name", definition.name.toJson),
      ("kind", definition.kind.toJson),
      ("label", .text definition.label),
      ("labels", Json.texts definition.labels),
      ("combinator", definition.combinator.toJson),
      ("combinator_key", .text definition.combinator.key),
      ("exclude", .truth definition.excludable),
      ("regex", .truth definition.regexCapable),
      ("enforced", .truth definition.enforced),
      ("remote", Json.orNull ChoiceSource.toJson definition.source),
      ("typeahead", Json.orNull .text (definition.typeahead?.map TypeaheadSource.path)),
      ("fixed_domain", Json.orNull RangeDomain.toJson definition.fixedDomain),
      ("initial_domain", definition.initialDomain.toJson),
      ("mask", Json.orNull Mask.toJson definition.mask),
      ("tooltip", Json.orNull .text definition.tooltip),
      ("switchable", .truth definition.allowsCombinatorSwitch),
      ("neutral", neutral.toJson),
      ("neutral_empty", .truth neutral.isEmpty),
      ("neutral_kind", neutral.kind.toJson)]

end Definition

end MediaFilter
