import MediaFilter.Combinator
import MediaFilter.EntityType
import MediaFilter.FilterKind
import MediaFilter.FilterName
import MediaFilter.Range

/-!
What is known about each filter before a session starts: the widget that sets it, the label it is
shown with, where its choices come from, and what may be done with it.
-/

namespace MediaFilter

/-- The parts of the payload of choices that hold lists. -/
inductive ValuesField where
  | format
  | genres
  | countryOfOrigin
  | externalLinks
  | season
  | seasonYear
  | source
  | status
  | awcCommunityLists
  | tags
  | bloodType
  | gender
  deriving DecidableEq, Repr

/-- The parts of the payload of choices that hold the bounds of a range. -/
inductive BoundsField where
  | totalRuntime
  | episodes
  | volumes
  | mcCount
  deriving DecidableEq, Repr

/-- The lookups that answer while the user types. -/
inductive TypeaheadSource where
  | staff
  | studio
  | muPublisher
  | muPublication
  deriving DecidableEq, Repr

inductive ChoiceSource where
  | values (field : ValuesField)
  | bounds (field : BoundsField)
  | typeahead (source : TypeaheadSource)
  | userLists
  deriving DecidableEq, Repr

inductive Mask where
  | date
  deriving DecidableEq, Repr

structure Definition where
  name : FilterName
  kind : FilterKind
  label : String
  combinator : Combinator
  excludable : Bool
  regexCapable : Bool
  /-- Whether only listed values may be selected. -/
  enforced : Bool
  source : Option ChoiceSource
  fixedDomain : Option RangeDomain
  mask : Option Mask
  tooltip : Option String
  deriving DecidableEq, Repr

def ValuesField.wire : ValuesField → String
  | .format => "format"
  | .genres => "genres"
  | .countryOfOrigin => "country_of_origin"
  | .externalLinks => "external_links"
  | .season => "season"
  | .seasonYear => "season_year"
  | .source => "source"
  | .status => "status"
  | .awcCommunityLists => "awc_community_lists"
  | .tags => "tags"
  | .bloodType => "blood_type"
  | .gender => "gender"

def BoundsField.wire : BoundsField → String
  | .totalRuntime => "total_runtime"
  | .episodes => "episodes"
  | .volumes => "volumes"
  | .mcCount => "mcCount"

def TypeaheadSource.path : TypeaheadSource → String
  | .staff => "/staff"
  | .studio => "/searchForFilter/studio"
  | .muPublisher => "/searchForFilter/muPublisher"
  | .muPublication => "/searchForFilter/muPublication"

namespace Definition

def plain (name : FilterName) (kind : FilterKind) (label : String) : Definition :=
  { name, kind, label, combinator := .and, excludable := false, regexCapable := false,
    enforced := false, source := none, fixedDomain := none, mask := none, tooltip := none }

def picker (name : FilterName) (label : String) (combinator : Combinator)
    (source : ChoiceSource) : Definition :=
  { plain name .picker label with combinator, excludable := true, source := some source }

def date (name : FilterName) (label : String) (combinator : Combinator) : Definition :=
  { plain name .text label with
    combinator
    mask := some .date
    tooltip := some
      "You can use \"*\" instead of numbers as wildcards (1991-*-*, 199*-01-01 however won't work)" }

def bounded (name : FilterName) (label : String) (field : BoundsField) : Definition :=
  { plain name .range label with source := some (.bounds field) }

def percentage (name : FilterName) (label : String) : Definition :=
  { plain name .range label with fixedDomain := some .percent }

def withTooltip (tooltip : String) (definition : Definition) : Definition :=
  { definition with tooltip := some tooltip }

/-- Said of the filters whose data cover only part of the list. -/
def experimental : String :=
  "Experimental (Only a third of AL manga is currently covered with data for this)"

end Definition

def FilterName.definition (name : FilterName) : Definition :=
  match name with
  | .titleLike => { Definition.plain name .text "Title" with regexCapable := true }
  | .notesLike => .plain name .text "Notes"
  | .nameLike => { Definition.plain name .text "Name" with regexCapable := true }
  | .userList =>
    { Definition.plain name .userList "List" with
      source := some .userLists, excludable := true, enforced := true }
  | .format => .picker name "Format" .or (.values .format)
  | .source => .picker name "Source" .or (.values .source)
  | .country => .picker name "Country" .or (.values .countryOfOrigin)
  | .airStatus => .picker name "Airing Status" .or (.values .status)
  | .genre => .picker name "Genres" .and (.values .genres)
  | .tag =>
    (Definition.picker name "Tags" .and (.values .tags)).withTooltip
      "You can enable/disable grouping tags by their categories in the settings"
  | .season => .picker name "Season" .or (.values .season)
  | .year =>
    (Definition.picker name "Season Year" .or (.values .seasonYear)).withTooltip
      "For easy range selection you can enter them like \"2010-2015\""
  | .externalLink => .picker name "Available On" .and (.values .externalLinks)
  | .awcCommunityList => .picker name "Community List" .and (.values .awcCommunityLists)
  | .bloodType => .picker name "Blood Type" .or (.values .bloodType)
  | .gender => .picker name "Gender" .or (.values .gender)
  | .voiceActor => .picker name "Voice Actor (ID)" .and (.typeahead .staff)
  | .staff => .picker name "Staff (ID)" .and (.typeahead .staff)
  | .studio => .picker name "Studio" .and (.typeahead .studio)
  | .producer => .picker name "Producer" .and (.typeahead .studio)
  | .muPublisher =>
    (Definition.picker name "Publisher" .and (.typeahead .muPublisher)).withTooltip
      Definition.experimental
  | .muPublication =>
    (Definition.picker name "Publication" .and (.typeahead .muPublication)).withTooltip
      Definition.experimental
  | .tagPercentage => .percentage name "Tag Percentage"
  | .meanScore => .percentage name "Mean Score"
  | .avgScore => .percentage name "Average Score"
  | .episodes => .bounded name "Episodes" .episodes
  | .totalRuntime => .bounded name "Total Runtime" .totalRuntime
  | .volumes => .bounded name "Volumes" .volumes
  | .mcCount => .bounded name "Main Characters" .mcCount
  | .showAdult => .plain name .checkbox "Show Adult entries"
  | .onlyScanlated =>
    (Definition.plain name .checkbox "Only fully scanlated").withTooltip Definition.experimental
  | .airingStart => .date name "Started Airing" .and
  | .airingFinish => .date name "Finished Airing" .and
  | .userStartFrom => .date name "Started on" .or
  | .userFinishUntil => .date name "Completed on" .or
  | .birthdayFrom => .date name "Birthday from" .or
  | .birthdayUntil => .date name "Birthday until" .or
  | .deathdayFrom => .date name "Deathday from" .or
  | .deathdayUntil => .date name "Deathday until" .or

namespace Definition

/-- The label in the list of one kind of record: manga have chapters where others have episodes. -/
def labelFor (definition : Definition) (entity : EntityType) : String :=
  if definition.name = .episodes ∧ entity = .manga then "Chapters" else definition.label

/-- Only a picker that combines with AND at first lets the user change that. -/
def allowsCombinatorSwitch (definition : Definition) : Bool :=
  (definition.kind = .picker || definition.kind = .userList) && definition.combinator = .and

def typeahead? (definition : Definition) : Option TypeaheadSource :=
  match definition.source with
  | some (.typeahead source) => some source
  | _ => none

def initialDomain (definition : Definition) : RangeDomain :=
  definition.fixedDomain.getD .placeholder

end Definition

@[simp] theorem FilterName.definition_name (name : FilterName) : name.definition.name = name := by
  cases name <;> rfl

end MediaFilter
