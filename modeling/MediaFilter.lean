import MediaFilter.Backend.Call
import MediaFilter.Backend.Choices
import MediaFilter.Backend.Config
import MediaFilter.Backend.Outline
import MediaFilter.Backend.Page
import MediaFilter.Backend.Scalar
import MediaFilter.Backend.SearchRequest
import MediaFilter.Backend.TagCatalog
import MediaFilter.Backend.UserList
import MediaFilter.Backend.Whitelist
import MediaFilter.Bindings
import MediaFilter.Bound
import MediaFilter.Clause
import MediaFilter.Combinator
import MediaFilter.DateMask
import MediaFilter.Debouncer
import MediaFilter.Decimal.Double
import MediaFilter.Decimal.Fixed
import MediaFilter.Decimal.Shortest
import MediaFilter.Definition
import MediaFilter.Definition.Codec
import MediaFilter.EntityType
import MediaFilter.Environment
import MediaFilter.Error
import MediaFilter.Error.Codec
import MediaFilter.Event
import MediaFilter.Event.Codec
import MediaFilter.EventBus
import MediaFilter.Expression
import MediaFilter.Expression.Build
import MediaFilter.Expression.Codec
import MediaFilter.Expression.Restore
import MediaFilter.Expression.TagPercentage
import MediaFilter.FilterKind
import MediaFilter.FilterName
import MediaFilter.FilterSet
import MediaFilter.FilterValue
import MediaFilter.FilterValue.Codec
import MediaFilter.Http.Address
import MediaFilter.Http.Exchange
import MediaFilter.Http.PercentEncoding
import MediaFilter.Http.Request
import MediaFilter.Http.Response
import MediaFilter.Http.Status
import MediaFilter.Json.Fields
import MediaFilter.Json.Numeral
import MediaFilter.Json.Printer
import MediaFilter.Json.Reader
import MediaFilter.Json.Token
import MediaFilter.Json.Value
import MediaFilter.LogField
import MediaFilter.Notifier
import MediaFilter.Proofs.Backend.BaseUrl
import MediaFilter.Proofs.Bindings.Building
import MediaFilter.Proofs.Bindings.Clearing
import MediaFilter.Proofs.Bindings.DisplayOrder
import MediaFilter.Proofs.Bindings.Frame
import MediaFilter.Proofs.Bindings.Picker
import MediaFilter.Proofs.Bindings.Rebinding
import MediaFilter.Proofs.Bindings.Refusal
import MediaFilter.Proofs.Bindings.Regularity
import MediaFilter.Proofs.Bindings.Whitelists
import MediaFilter.Proofs.Expression.Build
import MediaFilter.Proofs.Expression.Forms
import MediaFilter.Proofs.Expression.Keys
import MediaFilter.Proofs.Expression.Lookup
import MediaFilter.Proofs.Expression.Meaning
import MediaFilter.Proofs.Expression.Normalization
import MediaFilter.Proofs.Expression.Relocation
import MediaFilter.Proofs.Expression.Restoration
import MediaFilter.Proofs.Expression.RoundTrip
import MediaFilter.Proofs.FilterValue.Reading
import MediaFilter.Proofs.History
import MediaFilter.Proofs.Http.Explanation
import MediaFilter.Proofs.Json.Records
import MediaFilter.Proofs.Json.RoundTrip
import MediaFilter.Proofs.Json.Scanning
import MediaFilter.Proofs.Request.Ownership
import MediaFilter.Proofs.Request.Tidiness
import MediaFilter.Proofs.Selection.EditHistory
import MediaFilter.Proofs.Selection.Partition
import MediaFilter.Proofs.Session.Alteration
import MediaFilter.Proofs.Session.Announcements
import MediaFilter.Proofs.Session.Attribution
import MediaFilter.Proofs.Session.Clearing
import MediaFilter.Proofs.Session.Coalescing
import MediaFilter.Proofs.Session.Coherence
import MediaFilter.Proofs.Session.Durability
import MediaFilter.Proofs.Session.Evaluation
import MediaFilter.Proofs.Session.Failure
import MediaFilter.Proofs.Session.FreshStart
import MediaFilter.Proofs.Session.Heralds
import MediaFilter.Proofs.Session.Loading
import MediaFilter.Proofs.Session.Moves
import MediaFilter.Proofs.Session.Regularity
import MediaFilter.Proofs.Session.Reloading
import MediaFilter.Proofs.Session.Representation
import MediaFilter.Proofs.Session.Requests
import MediaFilter.Proofs.Session.RestoredBounds
import MediaFilter.Proofs.Session.Silence
import MediaFilter.Proofs.Session.Staleness
import MediaFilter.Proofs.Session.Succession
import MediaFilter.Proofs.Session.Turns
import MediaFilter.Proofs.Session.Urgency
import MediaFilter.Proofs.Session.World
import MediaFilter.Proofs.Simulation.Schedule
import MediaFilter.Proofs.Store.Atomicity
import MediaFilter.Proofs.Store.Directories
import MediaFilter.Proofs.Store.Naming
import MediaFilter.Proofs.Store.Refinement
import MediaFilter.Proofs.Store.Tree
import MediaFilter.Proofs.Table.Following
import MediaFilter.Proofs.Table.Querying
import MediaFilter.Proofs.Table.Supersession
import MediaFilter.Proofs.Text.ByteOrder
import MediaFilter.Proofs.Text.DateMask
import MediaFilter.Proofs.Text.Numerals
import MediaFilter.Proofs.Text.Regex
import MediaFilter.Proofs.Text.Trimming
import MediaFilter.Proofs.Widget.Edits
import MediaFilter.Proofs.Widget.Exclusion
import MediaFilter.Proofs.Widget.Reporting
import MediaFilter.Proofs.Widget.StoredRange
import MediaFilter.Proofs.YearShorthand
import MediaFilter.QueryContext
import MediaFilter.Range
import MediaFilter.Request.Slots
import MediaFilter.Selection
import MediaFilter.Session
import MediaFilter.Session.Command
import MediaFilter.Session.Completion
import MediaFilter.Session.Config
import MediaFilter.Session.Run
import MediaFilter.Simulation
import MediaFilter.Simulation.Codec
import MediaFilter.Simulation.Script
import MediaFilter.Store.File
import MediaFilter.Store.FileSystem
import MediaFilter.Store.Memory
import MediaFilter.Store.Path
import MediaFilter.Table
import MediaFilter.Table.Follower
import MediaFilter.Table.Outline
import MediaFilter.Text.Blank
import MediaFilter.Text.Digit
import MediaFilter.Text.Hidden
import MediaFilter.Text.Numeral
import MediaFilter.Text.Quoted
import MediaFilter.Text.Uppercase
import MediaFilter.Traced
import MediaFilter.Widget
import MediaFilter.Widget.Codec
import MediaFilter.Widget.Description
import MediaFilter.Widget.Edit
import MediaFilter.Widget.View
import MediaFilter.YearShorthand
