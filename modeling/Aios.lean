import Aios.Artifacts.Converged
import Aios.Artifacts.Fencing
import Aios.Artifacts.Findings
import Aios.Artifacts.Labels
import Aios.Artifacts.Lineage
import Aios.Contracts.Diagnostics
import Aios.Contracts.Ir
import Aios.Contracts.Provider
import Aios.Contracts.Registry
import Aios.Ir.Accepted
import Aios.Ir.Authoring
import Aios.Ir.Canonical
import Aios.Ir.Capabilities
import Aios.Ir.Diagnostics
import Aios.Ir.Documents
import Aios.Ir.Effects
import Aios.Ir.Fallbacks
import Aios.Ir.Graph
import Aios.Ir.Guarantees
import Aios.Ir.Identity
import Aios.Ir.Invariance
import Aios.Ir.Issued
import Aios.Ir.Limits
import Aios.Ir.Normalize
import Aios.Ir.Parse
import Aios.Ir.Pipeline
import Aios.Ir.Recomputed
import Aios.Ir.Sanitized
import Aios.Ir.Satisfiable
import Aios.Ir.Scanner
import Aios.Ir.Schema
import Aios.Ir.Semantics
import Aios.Ir.Unused
import Aios.Ir.Validator
import Aios.Lib.Decimal
import Aios.Lib.HashChain
import Aios.Lib.Index
import Aios.Lib.Json
import Aios.Lib.JsonCount
import Aios.Lib.JsonLexemes
import Aios.Lib.JsonSchema
import Aios.Lib.JsonShape
import Aios.Lib.JsonText
import Aios.Lib.JsonUnique
import Aios.Lib.JsonValue
import Aios.Lib.Keyed
import Aios.Lib.Lexeme
import Aios.Lib.Order
import Aios.Lib.Paging
import Aios.Lib.Sha256
import Aios.Lib.Spelling
import Aios.Policy.Approve
import Aios.Policy.Atomic
import Aios.Policy.Backed
import Aios.Policy.Consumed
import Aios.Policy.Deadline
import Aios.Policy.Evaluate
import Aios.Policy.Evaluated
import Aios.Policy.Exclusive
import Aios.Policy.Facts
import Aios.Policy.Finalize
import Aios.Policy.History
import Aios.Policy.Issue
import Aios.Policy.Loaded
import Aios.Policy.Overrides
import Aios.Policy.Replay
import Aios.Policy.Reserve
import Aios.Policy.Reserved
import Aios.Policy.Run
import Aios.Policy.Tables
import Aios.Policy.Written
import Aios.Programs.Admitted
import Aios.Programs.Coherent
import Aios.Programs.Initial
import Aios.Programs.Stored
import Aios.Provenance.Append
import Aios.Provenance.Bundle
import Aios.Provenance.Chain
import Aios.Provenance.Decoded
import Aios.Provenance.Details
import Aios.Provenance.Event
import Aios.Provenance.Journal
import Aios.Provenance.Paths
import Aios.Provenance.Pinned
import Aios.Provenance.Readback
import Aios.Provenance.Stored
import Aios.Providers.Binding
import Aios.Providers.Clock
import Aios.Providers.Current
import Aios.Providers.Documents
import Aios.Providers.Evolved
import Aios.Providers.Launch
import Aios.Providers.Lifecycle
import Aios.Providers.Newest
import Aios.Providers.Run
import Aios.Providers.Seconds
import Aios.Providers.Store
import Aios.Providers.Tables
import Aios.Providers.Withdrawal
import Aios.Registry.Build
import Aios.Registry.Certified
import Aios.Registry.Conformance
import Aios.Registry.Contract
import Aios.Registry.Evolved
import Aios.Registry.Hash
import Aios.Registry.Numbers
import Aios.Registry.Prepared
import Aios.Registry.Records
import Aios.Registry.Reopened
import Aios.Registry.SelfCertifying
import Aios.Registry.SemanticRegistry
import Aios.Registry.Snapshots
import Aios.Registry.Store
import Aios.Registry.StrictJson
import Aios.Registry.Tables
import Aios.Registry.Version
import Aios.Registry.View
import Aios.Tasks.Admission
import Aios.Tasks.Authority
import Aios.Tasks.Backed
import Aios.Tasks.Completion
import Aios.Tasks.Deadline
import Aios.Tasks.Effect
import Aios.Tasks.Event
import Aios.Tasks.Execution
import Aios.Tasks.Expiry
import Aios.Tasks.Fence
import Aios.Tasks.Flight
import Aios.Tasks.Guard
import Aios.Tasks.Lifecycle
import Aios.Tasks.Marker
import Aios.Tasks.Outputs
import Aios.Tasks.Protected
import Aios.Tasks.Receipt
import Aios.Tasks.Recovery
import Aios.Tasks.Replay
import Aios.Tasks.Run
import Aios.Tasks.Serde
import Aios.Tasks.Steps
import Aios.Tasks.Store
import Aios.Tasks.System
import Aios.Tasks.Time
import Aios.Tasks.Transition
import Aios.Tasks.Trust
