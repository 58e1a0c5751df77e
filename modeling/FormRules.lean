import FormRules.Color
import FormRules.Criterion
import FormRules.Date.Check
import FormRules.Email
import FormRules.Field
import FormRules.Form.Basic
import FormRules.Form.OfOutline
import FormRules.Form.Session
import FormRules.Form.Snapshot
import FormRules.Json.Basic
import FormRules.Number.Numeral
import FormRules.Number.Rendering
import FormRules.Outline.Basic
import FormRules.Pattern.Delimited
import FormRules.Plain
import FormRules.Rules.Rules
import FormRules.Toml.Reader
import FormRules.Url
import FormRules.Value.OfJson
import FormRules.Proofs.Pattern.Spans
import FormRules.Proofs.Pattern.Positions
import FormRules.Proofs.Pattern.Program
import FormRules.Proofs.Pattern.Search
import FormRules.Proofs.Pattern.Reader
import FormRules.Proofs.Pattern.Body
import FormRules.Proofs.Pattern.Anchors
import FormRules.Proofs.Pattern.Whole
import FormRules.Proofs.Date.Pattern
import FormRules.Proofs.Json.Reading
import FormRules.Proofs.Number.Literal
import FormRules.Proofs.Date.Gregorian
import FormRules.Proofs.Date.Digits
import FormRules.Proofs.Date.Layout
import FormRules.Proofs.Date.RoundTrip
import FormRules.Proofs.Date.Writing
import FormRules.Proofs.Date.Standard
import FormRules.Proofs.Rules.Pairs
import FormRules.Proofs.Rules.Delimited
import FormRules.Proofs.Rules.Bounds
import FormRules.Proofs.Criterion.Blank
import FormRules.Proofs.Value.OfJson
import FormRules.Proofs.Form.Reachable
import FormRules.Proofs.Form.Lookup
import FormRules.Proofs.Form.Required
import FormRules.Proofs.Form.OfOutline
import FormRules.Proofs.Form.Session
import FormRules.Proofs.Form.Admission
import FormRules.Proofs.Form.Equality
import FormRules.Proofs.Form.Verdicts
import FormRules.Proofs.Form.Document
import FormRules.Proofs.Form.Bounds
import FormRules.Proofs.Date.DayNumber
import FormRules.Proofs.Date.Mark
import FormRules.Proofs.Date.Timestamp
import FormRules.Proofs.Date.SignedYear
import FormRules.Proofs.Date.Fitting
import FormRules.Proofs.Email.Address
import FormRules.Proofs.Url.Parts
import FormRules.Proofs.Color.Notation
import FormRules.Proofs.Color.Separation
import FormRules.Proofs.Pattern.Nesting
import FormRules.Proofs.Pattern.Modifiers
import FormRules.Proofs.Rules.Spacing
import FormRules.Proofs.Pattern.Memory
import FormRules.Proofs.Pattern.Preference
import FormRules.Proofs.Pattern.FirstWay
import FormRules.Proofs.Rules.Scanning
import FormRules.Proofs.Rules.Grammar
import FormRules.Proofs.Rules.Order
import FormRules.Proofs.Number.Rounding
import FormRules.Proofs.Number.Shortest
import FormRules.Proofs.Number.Sign
import FormRules.Proofs.Number.Recognition
import FormRules.Proofs.Criterion.Number
import FormRules.Proofs.Number.Nearest
import FormRules.Proofs.Form.Range
import FormRules.Proofs.Number.Rendering
import FormRules.Proofs.Value.Number
import FormRules.Proofs.Pattern.Verbose
import FormRules.Proofs.Pattern.Chain
import FormRules.Proofs.Pattern.Escape
