import ApiOutline.CommandLine.Host
import ApiOutline.CommandLine.Invocation
import ApiOutline.CommandLine.Memory
import ApiOutline.CommandLine.Options
import ApiOutline.CommandLine.Run
import ApiOutline.Cycle.Basic
import ApiOutline.Cycle.Reach
import ApiOutline.Decimal.Reading
import ApiOutline.Decimal.Shortest
import ApiOutline.Dict
import ApiOutline.Digest.Checksum
import ApiOutline.Digest.Sha256
import ApiOutline.Document.Basic
import ApiOutline.Document.Codec
import ApiOutline.Document.Schema
import ApiOutline.Document.Verb
import ApiOutline.Json.Basic
import ApiOutline.Json.Decoder
import ApiOutline.Json.Fault
import ApiOutline.Json.Node
import ApiOutline.Json.Numeral
import ApiOutline.Json.Printer
import ApiOutline.Json.Record
import ApiOutline.Json.Token
import ApiOutline.Main
import ApiOutline.Model.Basic
import ApiOutline.Model.Codec
import ApiOutline.Model.Registry
import ApiOutline.NameMap
import ApiOutline.Naming.Path
import ApiOutline.Naming.Words
import ApiOutline.Outline.Basic
import ApiOutline.Outline.Build
import ApiOutline.Outline.Codec
import ApiOutline.Outline.Diagnostic
import ApiOutline.Outline.Endpoint
import ApiOutline.Outline.Listing
import ApiOutline.Outline.Request
import ApiOutline.Proofs.CommandLine.Memory
import ApiOutline.Proofs.CommandLine.Saving
import ApiOutline.Proofs.Cycle.Followed
import ApiOutline.Proofs.Cycle.Groups
import ApiOutline.Proofs.Cycle.Links
import ApiOutline.Proofs.Cycle.Reach
import ApiOutline.Proofs.Decimal.Digits
import ApiOutline.Proofs.Document.RoundTrip
import ApiOutline.Proofs.Except
import ApiOutline.Proofs.Json.Accepts
import ApiOutline.Proofs.Json.Decoded
import ApiOutline.Proofs.Json.Printed
import ApiOutline.Proofs.Json.Reading
import ApiOutline.Proofs.Json.Record
import ApiOutline.Proofs.Json.Stable
import ApiOutline.Proofs.Model.Registry
import ApiOutline.Proofs.Naming.FullName
import ApiOutline.Proofs.Naming.Words
import ApiOutline.Proofs.Outline.Accounting
import ApiOutline.Proofs.Outline.Arrangement
import ApiOutline.Proofs.Outline.Build
import ApiOutline.Proofs.Outline.Collisions
import ApiOutline.Proofs.Outline.CycleSafety
import ApiOutline.Proofs.Outline.Definitions
import ApiOutline.Proofs.Outline.Growth
import ApiOutline.Proofs.Outline.History
import ApiOutline.Proofs.Outline.Models
import ApiOutline.Proofs.Outline.Payloads
import ApiOutline.Proofs.Outline.Qualified
import ApiOutline.Proofs.Outline.Restriction
import ApiOutline.Proofs.Outline.RoundTrip
import ApiOutline.Proofs.Outline.Types
import ApiOutline.Proofs.Resolution.Account
import ApiOutline.Proofs.Resolution.Asks
import ApiOutline.Proofs.Resolution.Growth
import ApiOutline.Proofs.Resolution.Losses
import ApiOutline.Proofs.Resolution.Mentions
import ApiOutline.Proofs.Resolution.Moments
import ApiOutline.Proofs.Resolution.Order
import ApiOutline.Proofs.Resolution.Parametric
import ApiOutline.Proofs.Resolution.Payloads
import ApiOutline.Proofs.Resolution.Reachable
import ApiOutline.Proofs.Resolution.Run
import ApiOutline.Proofs.Resolution.Uniform
import ApiOutline.Proofs.Resolution.Walk
import ApiOutline.Proofs.Settings.Layer
import ApiOutline.Proofs.Settings.Overlay
import ApiOutline.Proofs.Settings.Reload
import ApiOutline.Proofs.Settings.Saved
import ApiOutline.Proofs.Text.Blank
import ApiOutline.Proofs.Text.ByteOrder
import ApiOutline.Proofs.Text.Case
import ApiOutline.Proofs.Text.Utf8
import ApiOutline.Proofs.Toml.Reading
import ApiOutline.Proofs.Toml.Table
import ApiOutline.Proofs.Toml.Token
import ApiOutline.Proofs.TypeExpr.Abstraction
import ApiOutline.Proofs.TypeExpr.Canonical
import ApiOutline.Proofs.TypeExpr.KeyNames
import ApiOutline.Proofs.TypeExpr.Lenient
import ApiOutline.Proofs.TypeExpr.Names
import ApiOutline.Proofs.TypeExpr.Namespace
import ApiOutline.Proofs.TypeExpr.Placeholder
import ApiOutline.Proofs.TypeExpr.Qualified
import ApiOutline.Proofs.TypeExpr.Reading
import ApiOutline.Proofs.TypeExpr.RegularKeys
import ApiOutline.Proofs.TypeExpr.RoundTrip
import ApiOutline.Proofs.TypeExpr.Settled
import ApiOutline.Proofs.TypeExpr.Token
import ApiOutline.Resolution.References
import ApiOutline.Resolution.Run
import ApiOutline.Resolution.Types
import ApiOutline.Resolution.Walk
import ApiOutline.Settings.Basic
import ApiOutline.Settings.Codec
import ApiOutline.Settings.KeyPath
import ApiOutline.Settings.Layer
import ApiOutline.Settings.Load
import ApiOutline.Settings.Loose
import ApiOutline.Settings.Save
import ApiOutline.Settings.Value
import ApiOutline.Text.Blank
import ApiOutline.Text.Case
import ApiOutline.Text.Letter
import ApiOutline.Text.Quoted
import ApiOutline.Text.Run
import ApiOutline.Text.Split
import ApiOutline.Text.Utf8
import ApiOutline.Toml.Basic
import ApiOutline.Toml.Moment
import ApiOutline.Toml.Printer
import ApiOutline.Toml.Reading
import ApiOutline.Toml.Scalar
import ApiOutline.Toml.Table
import ApiOutline.Toml.Token
import ApiOutline.TypeExpr.Basic
import ApiOutline.TypeExpr.Builtin
import ApiOutline.TypeExpr.GenericKey
import ApiOutline.TypeExpr.Spelling
import ApiOutline.TypeExpr.Token
