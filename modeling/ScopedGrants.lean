import ScopedGrants.Access.Codec
import ScopedGrants.Cluster.Endpoint
import ScopedGrants.Cluster.Memory
import ScopedGrants.Disk
import ScopedGrants.Main
import ScopedGrants.Proofs.Except
import ScopedGrants.Proofs.Role
import ScopedGrants.Proofs.RoleMap
import ScopedGrants.Proofs.SortedMap
import ScopedGrants.Proofs.Json.Numeral
import ScopedGrants.Proofs.Json.Grammar
import ScopedGrants.Proofs.Json.Quoted
import ScopedGrants.Proofs.Json.Lexer
import ScopedGrants.Proofs.Json.Reader
import ScopedGrants.Proofs.Json.Decode
import ScopedGrants.Proofs.Json.Shape
import ScopedGrants.Proofs.Grant.Deduplicate
import ScopedGrants.Proofs.Grant.Live
import ScopedGrants.Proofs.Grant.Edit
import ScopedGrants.Proofs.Grant.Canonical
import ScopedGrants.Proofs.Grant.Register
import ScopedGrants.Proofs.Grant.HighestLive
import ScopedGrants.Proofs.Grant.Ledger
import ScopedGrants.Proofs.Grant.History
import ScopedGrants.Proofs.Grant.Codec
import ScopedGrants.Proofs.Grant.Language
import ScopedGrants.Proofs.Grant.Session
import ScopedGrants.Proofs.Grant.Annotations
import ScopedGrants.Proofs.Access.Permit
import ScopedGrants.Proofs.Access.Check
import ScopedGrants.Proofs.Access.Authorizer
import ScopedGrants.Proofs.Access.BestMatch
import ScopedGrants.Proofs.Access.Revocation
import ScopedGrants.Proofs.Access.Dominance
import ScopedGrants.Proofs.Access.History
import ScopedGrants.Proofs.Config.Validation
import ScopedGrants.Proofs.Config.Precedence
import ScopedGrants.Proofs.Grant.Separation
import ScopedGrants.Proofs.Cluster.Program
import ScopedGrants.Proofs.Cluster.Memory
import ScopedGrants.Proofs.Cluster.Snapshot
import ScopedGrants.Proofs.Cluster.FailClosed
import ScopedGrants.Proofs.Cluster.Alike
import ScopedGrants.Proofs.Cluster.Saving
import ScopedGrants.Proofs.Fixture
import ScopedGrants.Proofs.Cluster.Rehearsal
import ScopedGrants.Proofs.CommandLine.FailClosed
import ScopedGrants.Proofs.Access.Lookups
import ScopedGrants.Proofs.Cluster.Interleaving
import ScopedGrants.Proofs.Cluster.Overwriting
import ScopedGrants.Proofs.Json.MergePatch
import ScopedGrants.Proofs.Cluster.Manifest
import ScopedGrants.Proofs.Cluster.Server
import ScopedGrants.Proofs.Cluster.Interchange
import ScopedGrants.Proofs.Access.Pruning
import ScopedGrants.Proofs.Grant.Concatenation
import ScopedGrants.Proofs.Json.TornTokens
import ScopedGrants.Proofs.Json.TornTrees
import ScopedGrants.Proofs.Grant.Truncation
import ScopedGrants.Proofs.Cluster.Intact
import ScopedGrants.Proofs.Text.ByteOrder
import ScopedGrants.Proofs.RoleMap.Filling
import ScopedGrants.Proofs.Principal
