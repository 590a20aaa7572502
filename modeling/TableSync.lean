import TableSync.Text.CodePoint
import TableSync.Text.Blank
import TableSync.Text.Split
import TableSync.Text.Digit
import TableSync.Text.Hex
import TableSync.Text.Utf8
import TableSync.Text.Pages
import TableSync.Text.Percent
import TableSync.Text.Base64
import TableSync.Text.LowerCase
import TableSync.Text.Printable
import TableSync.Text.Quoted
import TableSync.Text.Json
import TableSync.Text.JsonReading
import TableSync.Text.Numeral
import TableSync.Text.Integer
import TableSync.Decimal.Binary64
import TableSync.Decimal.Shortest
import TableSync.Decimal.Notation
import TableSync.Calendar.Date
import TableSync.Calendar.Moment
import TableSync.PropertyBag
import TableSync.Partition.Path
import TableSync.Partition.Strategy
import TableSync.Partition.Extractor
import TableSync.Partition.Registry
import TableSync.Partition.Batch
import TableSync.Partition.Pool
import TableSync.Config.Error
import TableSync.Config.Text
import TableSync.Config.Inference
import TableSync.Config.Catalog
import TableSync.Config.SyncProperties
import TableSync.Config.Reading
import TableSync.Config.Resolver
import TableSync.Config.SyncConfig
import TableSync.Config.Session
import TableSync.Notice
import TableSync.Document.Value
import TableSync.Document.SetOrder
import TableSync.Document.Literal
import TableSync.Document.Flatten
import TableSync.Yaml.Source
import TableSync.Yaml.Problem
import TableSync.Yaml.Token
import TableSync.Yaml.Token.Property
import TableSync.Yaml.Token.Lexer
import TableSync.Yaml.Scalar.Plain
import TableSync.Yaml.Scalar.Quoted
import TableSync.Yaml.Scalar.Block
import TableSync.Yaml.Scalar.Timestamp
import TableSync.Yaml.Scalar.Number
import TableSync.Yaml.Scalar.Value
import TableSync.Yaml.Tag
import TableSync.Yaml.Node
import TableSync.Yaml.Composition
import TableSync.Yaml.Merge
import TableSync.Yaml.Data
import TableSync.Yaml.Tree
import TableSync.Document.PropertiesFile
import TableSync.Files.Path
import TableSync.Files.Lookup
import TableSync.CommandLine.Option
import TableSync.CommandLine.Arguments
import TableSync.CommandLine.Fault
import TableSync.CommandLine.Collect
import TableSync.CommandLine.Console
import TableSync.CommandLine.Run
import TableSync.Main
import TableSync.Proofs.Resolution.Simulation
import TableSync.Proofs.Resolution.Requests
import TableSync.Proofs.Resolution.History
import TableSync.Proofs.Resolution.Ranked
import TableSync.Proofs.Text.Pieces
import TableSync.Proofs.Text.Spelling
import TableSync.Proofs.Resolution.SyncValues
import TableSync.Proofs.Resolution.Course
import TableSync.Proofs.Resolution.Cycles
import TableSync.Proofs.Resolution.Discipline
import TableSync.Proofs.Resolution.Record
import TableSync.Proofs.Resolution.Settings
import TableSync.Proofs.Partition.Fault
import TableSync.Proofs.Partition.Execution
import TableSync.Proofs.Partition.Workers
import TableSync.Proofs.Partition.FieldCount
import TableSync.Proofs.Partition.Skipping
import TableSync.Proofs.Text.Escaping
import TableSync.Proofs.Text.Lines
import TableSync.Proofs.Text.JsonRoundTrip
import TableSync.Proofs.Partition.Segments
import TableSync.Proofs.Partition.NamedPath
import TableSync.Proofs.Partition.WrittenPath
import TableSync.Proofs.CommandLine.Sources
import TableSync.Proofs.CommandLine.Stages
import TableSync.Proofs.CommandLine.AllOrNothing
import TableSync.Proofs.CommandLine.Framing
import TableSync.Proofs.Partition.Modes
import TableSync.Proofs.Text.Numerals
import TableSync.Proofs.Calendar.Gregorian
import TableSync.Proofs.Partition.DayPath
import TableSync.Proofs.Partition.DayText
import TableSync.Proofs.Occurrences
import TableSync.Proofs.Partition.DayFailure
import TableSync.Proofs.PropertyBag
import TableSync.Proofs.Document.LeafPaths
import TableSync.Proofs.CommandLine.Layers
import TableSync.Proofs.CommandLine.ListValues
import TableSync.Proofs.CommandLine.Endings
import TableSync.Proofs.Partition.JoinedPath
import TableSync.Proofs.Partition.DecodedValue
import TableSync.Proofs.Partition.Registrations
