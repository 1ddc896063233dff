import ConversionRelay.Address.Flaw
import ConversionRelay.Address.Form
import ConversionRelay.Address.Host
import ConversionRelay.Address.Label
import ConversionRelay.Address.LabelTable
import ConversionRelay.Address.Punycode
import ConversionRelay.Address.Target
import ConversionRelay.Clock
import ConversionRelay.Command.Execution
import ConversionRelay.Command.Invocation
import ConversionRelay.Command.Words
import ConversionRelay.Config.Basic
import ConversionRelay.Config.Codec
import ConversionRelay.Config.Document
import ConversionRelay.Config.Generation
import ConversionRelay.Container.Analysis
import ConversionRelay.Container.Binding
import ConversionRelay.Container.Column
import ConversionRelay.Container.ColumnText
import ConversionRelay.Container.Compilation
import ConversionRelay.Container.Coverage
import ConversionRelay.Container.CoverageTable
import ConversionRelay.Container.Export
import ConversionRelay.Container.NamePath
import ConversionRelay.Container.Reference
import ConversionRelay.DataLayer
import ConversionRelay.Digest
import ConversionRelay.Engine
import ConversionRelay.Event
import ConversionRelay.Fault
import ConversionRelay.FileTree
import ConversionRelay.Http
import ConversionRelay.Json.Bytes
import ConversionRelay.Json.Error
import ConversionRelay.Json.Parser
import ConversionRelay.Json.Printer
import ConversionRelay.Log
import ConversionRelay.Main
import ConversionRelay.Number.Binary64
import ConversionRelay.Number.Decimal
import ConversionRelay.OrderedMap
import ConversionRelay.Sender.Basic
import ConversionRelay.Sender.Directory
import ConversionRelay.Sender.Log
import ConversionRelay.Sender.Measurement
import ConversionRelay.Sender.Meta
import ConversionRelay.Session
import ConversionRelay.Settings
import ConversionRelay.Store
import ConversionRelay.Text.Blank
import ConversionRelay.Text.Case
import ConversionRelay.Text.CaseTable
import ConversionRelay.Text.CodePoint
import ConversionRelay.Text.Composition
import ConversionRelay.Text.CompositionTable
import ConversionRelay.Text.Digit
import ConversionRelay.Text.DigitTable
import ConversionRelay.Text.Encoding
import ConversionRelay.Text.MarkTable
import ConversionRelay.Text.Numeral
import ConversionRelay.Text.Pieces
import ConversionRelay.Text.PrintableTable
import ConversionRelay.Text.Quoted
import ConversionRelay.Text.ScriptTable
import ConversionRelay.Text.Table
import ConversionRelay.Tools
import ConversionRelay.Value
import ConversionRelay.Value.Text
import ConversionRelay.Walkthrough
import ConversionRelay.Proofs.Command.Extraction
import ConversionRelay.Proofs.Config.Generation
import ConversionRelay.Proofs.Config.Grammar
import ConversionRelay.Proofs.Config.RoundTrip
import ConversionRelay.Proofs.Config.Stability
import ConversionRelay.Proofs.Container.Analysis
import ConversionRelay.Proofs.Container.Binding
import ConversionRelay.Proofs.Container.CamelCase
import ConversionRelay.Proofs.Container.Compilation
import ConversionRelay.Proofs.Container.Coverage
import ConversionRelay.Proofs.Container.Inspection
import ConversionRelay.Proofs.Container.Inventory
import ConversionRelay.Proofs.Container.LastBinding
import ConversionRelay.Proofs.Container.Loading
import ConversionRelay.Proofs.Container.Mentions
import ConversionRelay.Proofs.Container.NamePath
import ConversionRelay.Proofs.Container.PathStability
import ConversionRelay.Proofs.Container.Provenance
import ConversionRelay.Proofs.Container.Reference
import ConversionRelay.Proofs.Container.Rendering
import ConversionRelay.Proofs.Container.Reordering
import ConversionRelay.Proofs.Container.Resolution
import ConversionRelay.Proofs.Container.Scanning
import ConversionRelay.Proofs.Container.Shape
import ConversionRelay.Proofs.DataLayer
import ConversionRelay.Proofs.DataLayer.Addresses
import ConversionRelay.Proofs.DataLayer.Totality
import ConversionRelay.Proofs.Engine.Agreement
import ConversionRelay.Proofs.Engine.Branching
import ConversionRelay.Proofs.Engine.Echoes
import ConversionRelay.Proofs.Engine.Endings
import ConversionRelay.Proofs.Engine.ExactlyOnce
import ConversionRelay.Proofs.Engine.Handover
import ConversionRelay.Proofs.Engine.Isolation
import ConversionRelay.Proofs.Engine.LastWrite
import ConversionRelay.Proofs.Engine.LogDelivery
import ConversionRelay.Proofs.Engine.Minimisation
import ConversionRelay.Proofs.Engine.Outcomes
import ConversionRelay.Proofs.Engine.Outside
import ConversionRelay.Proofs.Engine.Replies
import ConversionRelay.Proofs.Engine.Status
import ConversionRelay.Proofs.Exchange
import ConversionRelay.Proofs.FileTree
import ConversionRelay.Proofs.Json.Canonical
import ConversionRelay.Proofs.Json.Characters
import ConversionRelay.Proofs.Json.Document
import ConversionRelay.Proofs.Json.Limits
import ConversionRelay.Proofs.Json.LineBreaks
import ConversionRelay.Proofs.Json.Number
import ConversionRelay.Proofs.Json.Printed
import ConversionRelay.Proofs.Json.Reading
import ConversionRelay.Proofs.Json.RoundTrip
import ConversionRelay.Proofs.Json.Spelling
import ConversionRelay.Proofs.Number.Decimal
import ConversionRelay.Proofs.Number.Rounding
import ConversionRelay.Proofs.Pipeline
import ConversionRelay.Proofs.Sender.Currency
import ConversionRelay.Proofs.Sender.Digests
import ConversionRelay.Proofs.Sender.Identifiers
import ConversionRelay.Proofs.Sender.LogLine
import ConversionRelay.Proofs.Sender.PersonalData
import ConversionRelay.Proofs.Sender.Service
import ConversionRelay.Proofs.Sender.Vocabulary
import ConversionRelay.Proofs.Store
import ConversionRelay.Proofs.Text.Encoding
import ConversionRelay.Proofs.Text.Order
import ConversionRelay.Proofs.Tools
import ConversionRelay.Proofs.Value.Rearrangement
