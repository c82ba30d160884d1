import WitBridge.Build
import WitBridge.CommandLine.Arguments
import WitBridge.CommandLine.Help
import WitBridge.CommandLine.Session
import WitBridge.CommandLine.Switch
import WitBridge.CommandLine.Workspace
import WitBridge.DataFormat
import WitBridge.Diagnostic
import WitBridge.Documentation
import WitBridge.Files.Path
import WitBridge.Files.Tree
import WitBridge.Ir.Codec
import WitBridge.Ir.Module
import WitBridge.Ir.Name
import WitBridge.Ir.QualifiedName
import WitBridge.Json.Printer
import WitBridge.Json.Reader
import WitBridge.Json.Record
import WitBridge.Json.Value
import WitBridge.Lowering
import WitBridge.Main
import WitBridge.Mapping.Basic
import WitBridge.Mapping.Builder
import WitBridge.Mapping.Config
import WitBridge.Mapping.Defaults
import WitBridge.Mapping.Manager
import WitBridge.Mapping.Registry
import WitBridge.Name
import WitBridge.Numeral
import WitBridge.Package
import WitBridge.Package.Comparison
import WitBridge.Package.Parser
import WitBridge.Package.Printer
import WitBridge.Parser
import WitBridge.Position
import WitBridge.Raising
import WitBridge.SourceFault
import WitBridge.Text.Blank
import WitBridge.Text.Case
import WitBridge.Text.CaseTable
import WitBridge.Text.Pieces
import WitBridge.Text.Printable
import WitBridge.Text.Quoted
import WitBridge.Token
import WitBridge.Token.Kind
import WitBridge.Token.Lexeme
import WitBridge.Token.Trivia
import WitBridge.Toml.Literal
import WitBridge.Toml.Reader
import WitBridge.Toml.Table
import WitBridge.Toml.Value
import WitBridge.Type.Basic
import WitBridge.Type.Parser
import WitBridge.Type.Primitive
import WitBridge.Type.Printer
import WitBridge.Type.Traversal
import WitBridge.Version
import WitBridge.Proofs.Package.RoundTrip
import WitBridge.Proofs.Raising
import WitBridge.Proofs.Returning
import WitBridge.Proofs.Survival
import WitBridge.Proofs.Lowering.Notes
import WitBridge.Proofs.Lowering.Losses
import WitBridge.Proofs.Strictness
import WitBridge.Proofs.Failure
import WitBridge.Proofs.Package.Idempotence
import WitBridge.Proofs.Package.Outline
import WitBridge.Proofs.Convergence
import WitBridge.Proofs.Raising.Silence
import WitBridge.Proofs.Building
import WitBridge.Proofs.Signatures
import WitBridge.Proofs.Mapping.Winners
import WitBridge.Proofs.Mapping.Resolution
import WitBridge.Proofs.Mapping.Reverse
import WitBridge.Proofs.Raising.Aliases
import WitBridge.Proofs.Raising.Containers
import WitBridge.Proofs.Raising.Members
import WitBridge.Proofs.Token.Exactness
import WitBridge.Proofs.Package.Insertion
import WitBridge.Proofs.Ir.Codec
import WitBridge.Proofs.Package.Refusal
import WitBridge.Proofs.Parser.Recognition
import WitBridge.Proofs.Type.Grammar
import WitBridge.Proofs.Type.Acceptance
import WitBridge.Proofs.Package.Location
import WitBridge.Proofs.Raising.Vacancies
import WitBridge.Proofs.Package.Consumption
import WitBridge.Proofs.Ir.Kebab
import WitBridge.Proofs.Mapping.References
import WitBridge.Proofs.Documentation
import WitBridge.Proofs.Type.Visiting
import WitBridge.Proofs.Type.Substitution
import WitBridge.Proofs.Mapping.Directions
import WitBridge.Proofs.Package.Revision
import WitBridge.Proofs.Token.Comments
import WitBridge.Proofs.Package.WellFormed
import WitBridge.Proofs.Ir.Readback
import WitBridge.Proofs.Token.Word
