import ProviderBindings.Code.Json
import ProviderBindings.Configuration.Document
import ProviderBindings.Configuration.TypedReference
import ProviderBindings.Main
import ProviderBindings.Number.Decimal
import ProviderBindings.Proofs.Bindings.Agreement
import ProviderBindings.Proofs.Bindings.Defaults
import ProviderBindings.Proofs.Bindings.Identifiers
import ProviderBindings.Proofs.Bindings.Navigation
import ProviderBindings.Proofs.Bindings.TypeNames
import ProviderBindings.Proofs.Code.Lexeme
import ProviderBindings.Proofs.CommandLine.Rejection
import ProviderBindings.Proofs.Configuration.Document
import ProviderBindings.Proofs.Configuration.KeyLiteral
import ProviderBindings.Proofs.Configuration.Traversal
import ProviderBindings.Proofs.Disambiguation.CheckedRun
import ProviderBindings.Proofs.Disambiguation.Spelling
import ProviderBindings.Proofs.Generation.Contents
import ProviderBindings.Proofs.Generation.Interleaving
import ProviderBindings.Proofs.Generation.ModuleLookup
import ProviderBindings.Proofs.Graph.Failure
import ProviderBindings.Proofs.Graph.Flags
import ProviderBindings.Proofs.Graph.Reservation
import ProviderBindings.Proofs.Json.Places
import ProviderBindings.Proofs.ModulePath
import ProviderBindings.Proofs.Naming.Composition
import ProviderBindings.Proofs.Naming.Unescaping
import ProviderBindings.Proofs.Provider.Calls
import ProviderBindings.Proofs.Provider.Declaration
import ProviderBindings.Proofs.Provider.Omission
import ProviderBindings.Proofs.ProviderSpec
import ProviderBindings.Proofs.Schema.Writing
import ProviderBindings.Proofs.State.Decoding
import ProviderBindings.Proofs.ValueType.Expression
import ProviderBindings.Proofs.ValueType.Projection
import ProviderBindings.Proofs.Wire.Places
import ProviderBindings.Proofs.Wire.Trimming
import ProviderBindings.State
