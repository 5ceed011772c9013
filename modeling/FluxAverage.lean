import FluxAverage.Accumulator.Basic
import FluxAverage.Accumulator.Select
import FluxAverage.Accumulator.Summary
import FluxAverage.Cli.Failure
import FluxAverage.Cli.Run
import FluxAverage.Cli.Stream
import FluxAverage.Codec.Model
import FluxAverage.Codec.Units
import FluxAverage.Config
import FluxAverage.Decimal.Binary
import FluxAverage.Decimal.Layout
import FluxAverage.Decimal.Read
import FluxAverage.Decimal.Shortest
import FluxAverage.Error
import FluxAverage.Json.Parse
import FluxAverage.Json.Print
import FluxAverage.Json.Value
import FluxAverage.Ledger.Balance
import FluxAverage.Ledger.Basic
import FluxAverage.Ledger.KahanSum
import FluxAverage.Metadata.Event
import FluxAverage.Metadata.Migrate
import FluxAverage.Metadata.Run
import FluxAverage.Metadata.Typed
import FluxAverage.Model.Attributes
import FluxAverage.Model.Event
import FluxAverage.Model.Run
import FluxAverage.Report
import FluxAverage.Rescale
import FluxAverage.Scalar
import FluxAverage.Species
import FluxAverage.Strategy
import FluxAverage.Text.Blank
import FluxAverage.Text.Printable
import FluxAverage.Text.Quoted
import FluxAverage.Units
import FluxAverage.Yaml.Node
import FluxAverage.Yaml.Document
import FluxAverage.Yaml.Lexer
import FluxAverage.Yaml.Token
import FluxAverage.Yaml.Scalar
import FluxAverage.Main
import FluxAverage.Proofs.Ledger
import FluxAverage.Proofs.Process
import FluxAverage.Proofs.Estimate
import FluxAverage.Proofs.Conversion
import FluxAverage.Proofs.Request
import FluxAverage.Proofs.Exact
import FluxAverage.Proofs.ConversionStyles
import FluxAverage.Proofs.RatioFrame
import FluxAverage.Proofs.Binary64
import FluxAverage.Proofs.SingleSpecies
import FluxAverage.Proofs.Migration
import FluxAverage.Proofs.MigrationOnce
import FluxAverage.Proofs.Stream
import FluxAverage.Proofs.NuclearCodes
import FluxAverage.Proofs.Composition
import FluxAverage.Proofs.WholeNumbers
import FluxAverage.Proofs.Counting
import FluxAverage.Proofs.Selection
import FluxAverage.Proofs.RatioLockstep
