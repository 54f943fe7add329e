import GamePack.Agreement
import GamePack.Allowlist
import GamePack.Balance
import GamePack.Cache
import GamePack.Command.Arguments
import GamePack.Command.Run
import GamePack.Compatibility
import GamePack.Config
import GamePack.Content.Achievement
import GamePack.Content.Automation
import GamePack.Content.Condition
import GamePack.Content.DisplayText
import GamePack.Content.Entity
import GamePack.Content.Formula
import GamePack.Content.Generator
import GamePack.Content.Kind
import GamePack.Content.Metadata
import GamePack.Content.Metric
import GamePack.Content.Pack
import GamePack.Content.PrestigeLayer
import GamePack.Content.Resource
import GamePack.Content.RuntimeEvent
import GamePack.Content.Transform
import GamePack.Content.Upgrade
import GamePack.Decimal.Double
import GamePack.Decimal.Notation
import GamePack.Decimal.Shortest
import GamePack.Decode.Basic
import GamePack.Decode.Error
import GamePack.Decode.Fields
import GamePack.Decode.Tagged
import GamePack.Dict
import GamePack.Digest
import GamePack.Encode
import GamePack.Expectation
import GamePack.Files.Basic
import GamePack.Files.Load
import GamePack.Files.Tree
import GamePack.Finding
import GamePack.Fnv
import GamePack.Frozen
import GamePack.Graph.Basic
import GamePack.Graph.Cycle
import GamePack.Graph.Dependency
import GamePack.Graph.Transform
import GamePack.Graph.Unlock
import GamePack.Id
import GamePack.Index
import GamePack.Json.Basic
import GamePack.Json.Lexeme
import GamePack.Json.Reader
import GamePack.Json.Writer
import GamePack.Log
import GamePack.Main
import GamePack.Parse
import GamePack.Path
import GamePack.Proofs.Alike
import GamePack.Proofs.Allowlist
import GamePack.Proofs.Alone
import GamePack.Proofs.Cache
import GamePack.Proofs.Chain.Accepted
import GamePack.Proofs.Chain.Links
import GamePack.Proofs.Codec
import GamePack.Proofs.Compact
import GamePack.Proofs.Companion
import GamePack.Proofs.Compatibility
import GamePack.Proofs.Decode.Fields
import GamePack.Proofs.Decode.Locates
import GamePack.Proofs.Decode.Reads
import GamePack.Proofs.Decode.Restores
import GamePack.Proofs.Decode.Structure
import GamePack.Proofs.Decode.Tracks
import GamePack.Proofs.Dependency
import GamePack.Proofs.Dict
import GamePack.Proofs.Digest
import GamePack.Proofs.DigestLine
import GamePack.Proofs.Finding
import GamePack.Proofs.Fnv
import GamePack.Proofs.Frozen
import GamePack.Proofs.Graph.Acyclic
import GamePack.Proofs.Graph.Behind
import GamePack.Proofs.Graph.Bounded
import GamePack.Proofs.Graph.Canonical
import GamePack.Proofs.Graph.Closed
import GamePack.Proofs.Graph.Cyclic
import GamePack.Proofs.Graph.Found
import GamePack.Proofs.Graph.History
import GamePack.Proofs.Graph.Ledger
import GamePack.Proofs.Graph.Origin
import GamePack.Proofs.Graph.Rotation
import GamePack.Proofs.Graph.Search
import GamePack.Proofs.Graph.Searched
import GamePack.Proofs.Graph.Transform
import GamePack.Proofs.Graph.Unlock
import GamePack.Proofs.Id
import GamePack.Proofs.Keys
import GamePack.Proofs.Locale
import GamePack.Proofs.Obstacles
import GamePack.Proofs.Order.Batch
import GamePack.Proofs.Order.Cycles
import GamePack.Proofs.Order.Documents
import GamePack.Proofs.Order.PackCycle
import GamePack.Proofs.Order.References
import GamePack.Proofs.Order.Structure
import GamePack.Proofs.Parse
import GamePack.Proofs.Path
import GamePack.Proofs.Pin
import GamePack.Proofs.Places
import GamePack.Proofs.RangeText
import GamePack.Proofs.Reference
import GamePack.Proofs.Revalidation
import GamePack.Proofs.Run
import GamePack.Proofs.Schema.Faults
import GamePack.Proofs.Schema.Form
import GamePack.Proofs.Schema.Mentions
import GamePack.Proofs.Schema.Occurrence
import GamePack.Proofs.Schema.Places
import GamePack.Proofs.Schema.Readers
import GamePack.Proofs.Schema.Trim
import GamePack.Proofs.Schema.Walk
import GamePack.Proofs.Schema.Writers
import GamePack.Proofs.Settings
import GamePack.Proofs.Shape
import GamePack.Proofs.Shorthand
import GamePack.Proofs.Siblings
import GamePack.Proofs.Sorted
import GamePack.Proofs.Soundness
import GamePack.Proofs.Text
import GamePack.Proofs.Validation
import GamePack.Proofs.Verdict
import GamePack.Proofs.Version
import GamePack.Proofs.VersionRange
import GamePack.Proofs.VersionText
import GamePack.Proofs.WellFormed
import GamePack.Reference.Mention
import GamePack.Reference.Resolve
import GamePack.Report
import GamePack.Ron.Lexeme
import GamePack.Ron.Reader
import GamePack.Sample.Builder
import GamePack.Sample.Packs
import GamePack.Sample.Pieces
import GamePack.Structure
import GamePack.Text.Hex
import GamePack.Text.Invisible
import GamePack.Text.Quoted
import GamePack.Text.Split
import GamePack.Text.Units
import GamePack.Validation
import GamePack.Version
import GamePack.VersionRange
