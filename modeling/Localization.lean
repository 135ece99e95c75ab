import Localization.Calendar.Date
import Localization.Calendar.DateTime
import Localization.Calendar.Iso
import Localization.Catalog.Folder
import Localization.Catalog.Loader
import Localization.Catalog.Merge
import Localization.Catalog.Path
import Localization.Failure
import Localization.Format.Date
import Localization.Format.Kind
import Localization.Format.List
import Localization.Format.Locale
import Localization.Format.Number
import Localization.Json.Reader
import Localization.Json.Writer
import Localization.Locale.Code
import Localization.Locale.Conventions
import Localization.Locale.Table
import Localization.Locale.Tag
import Localization.Log.Basic
import Localization.Log.Configuration
import Localization.Markup.Allowlist
import Localization.Markup.Attribute
import Localization.Markup.Cache
import Localization.Markup.Parse
import Localization.Markup.Reference
import Localization.Markup.ReferenceName
import Localization.Markup.Rich
import Localization.Markup.Scan
import Localization.Markup.Segment
import Localization.Markup.Url
import Localization.Negotiation.Preference
import Localization.Negotiation.Ranking
import Localization.Negotiation.Resolver
import Localization.Number.Binary64
import Localization.Number.Decimal
import Localization.Number.Rounding
import Localization.Number.Shortest
import Localization.Plural.Category
import Localization.Plural.Rule
import Localization.Proofs.Catalog.Clean
import Localization.Proofs.Catalog.Codes
import Localization.Proofs.Catalog.Failures
import Localization.Proofs.Catalog.Folder
import Localization.Proofs.Catalog.Loading
import Localization.Proofs.Catalog.Merge
import Localization.Proofs.Catalog.Precedence
import Localization.Proofs.Catalog.Repetition
import Localization.Proofs.Catalog.Site
import Localization.Proofs.Catalog.Snapshot
import Localization.Proofs.Catalog.Wrapper
import Localization.Proofs.Format.Kind
import Localization.Proofs.Format.Number
import Localization.Proofs.Locale.Code
import Localization.Proofs.Locale.Form
import Localization.Proofs.Markup.ClosingIndex
import Localization.Proofs.Markup.Duplicates
import Localization.Proofs.Markup.Escape
import Localization.Proofs.Markup.GivenSegments
import Localization.Proofs.Markup.Layout
import Localization.Proofs.Markup.Printing
import Localization.Proofs.Markup.Quotation
import Localization.Proofs.Markup.Recency
import Localization.Proofs.Markup.Reference
import Localization.Proofs.Markup.SafeAttributes
import Localization.Proofs.Markup.SafeOutput
import Localization.Proofs.Markup.Scan
import Localization.Proofs.Markup.Scheme
import Localization.Proofs.Markup.Segmenter
import Localization.Proofs.Markup.Stability
import Localization.Proofs.Markup.Tag
import Localization.Proofs.Markup.Tiling
import Localization.Proofs.Markup.Transparency
import Localization.Proofs.Negotiation.Best
import Localization.Proofs.Negotiation.Matching
import Localization.Proofs.Negotiation.Preference
import Localization.Proofs.Negotiation.Ranking
import Localization.Proofs.Negotiation.SingleTag
import Localization.Proofs.Number.Order
import Localization.Proofs.Plural.Magnitude
import Localization.Proofs.Settings.Acceptance
import Localization.Proofs.Settings.Translations
import Localization.Proofs.Store.Agreement
import Localization.Proofs.Store.Apart
import Localization.Proofs.Store.CallStep
import Localization.Proofs.Store.Cancellation
import Localization.Proofs.Store.Completions
import Localization.Proofs.Store.Delivery
import Localization.Proofs.Store.Failing
import Localization.Proofs.Store.Flight
import Localization.Proofs.Store.History
import Localization.Proofs.Store.JobStep
import Localization.Proofs.Store.Joining
import Localization.Proofs.Store.LoadStep
import Localization.Proofs.Store.Lockstep
import Localization.Proofs.Store.Namespaces
import Localization.Proofs.Store.Presence
import Localization.Proofs.Store.Requests
import Localization.Proofs.Store.SafeKeys
import Localization.Proofs.Store.Scheduling
import Localization.Proofs.Store.Settling
import Localization.Proofs.Store.Sharing
import Localization.Proofs.Store.Turns
import Localization.Proofs.Store.Wrapping
import Localization.Proofs.Template.Grammar
import Localization.Proofs.Template.OnePass
import Localization.Proofs.Template.Pieces
import Localization.Proofs.Text.Casing
import Localization.Proofs.Text.Folding
import Localization.Proofs.Text.Span
import Localization.Proofs.Trace
import Localization.Proofs.Translation.Calls
import Localization.Proofs.Translation.Failures
import Localization.Proofs.Translation.Markup
import Localization.Proofs.Translation.Presence
import Localization.Proofs.Translation.Resolution
import Localization.Proofs.Translation.Sanitized
import Localization.Proofs.Translation.Setup
import Localization.Proofs.Value.Key
import Localization.Proofs.Yaml.Cause
import Localization.Proofs.Yaml.Documents
import Localization.Proofs.Yaml.Nodes
import Localization.Proofs.Yaml.Scalars
import Localization.Proofs.Yaml.Stream
import Localization.Proofs.Yaml.Tokens
import Localization.Settings.Application
import Localization.Settings.Field
import Localization.Settings.Issue
import Localization.Settings.Translations
import Localization.Store.Report
import Localization.Store.Run
import Localization.Store.State
import Localization.Store.Step
import Localization.Template.Interpolate
import Localization.Template.Placeholder
import Localization.Text.Alphanumeric
import Localization.Text.CaseTable
import Localization.Text.Casing
import Localization.Text.Digit
import Localization.Text.Printable
import Localization.Text.Quoted
import Localization.Text.Split
import Localization.Text.Table
import Localization.Text.Utf8
import Localization.Trace
import Localization.Translation.Service
import Localization.Translation.Setup
import Localization.Translation.Translate
import Localization.Translation.Translator
import Localization.Value.Basic
import Localization.Value.Display
import Localization.Yaml.Cursor
import Localization.Yaml.Document
import Localization.Yaml.Fault
import Localization.Yaml.Node.Basic
import Localization.Yaml.Node.Reader
import Localization.Yaml.Scalar
import Localization.Yaml.Token.Basic
import Localization.Yaml.Token.Scalar
import Localization.Yaml.Token.Stream
