import SchemaClosure.Declaration.Edit
import SchemaClosure.Depth
import SchemaClosure.Main
import SchemaClosure.Proofs.Closure.Designation
import SchemaClosure.Proofs.Closure.Expansion
import SchemaClosure.Proofs.Closure.Extension
import SchemaClosure.Proofs.Closure.Instantiation
import SchemaClosure.Proofs.Closure.Optional
import SchemaClosure.Proofs.Closure.Overrides
import SchemaClosure.Proofs.Closure.RootOrder
import SchemaClosure.Proofs.Closure.Scheduling
import SchemaClosure.Proofs.Closure.Scoping
import SchemaClosure.Proofs.Closure.UnionCases
import SchemaClosure.Proofs.Closure.UnmarkedBases
import SchemaClosure.Proofs.Closure.Visibility
import SchemaClosure.Proofs.CommandLine.Arguments
import SchemaClosure.Proofs.Report.Reuse
import SchemaClosure.Proofs.Snapshot.Reloading
import SchemaClosure.Proofs.Snapshot.Subtyping
import SchemaClosure.Proofs.TypeRef.Composition
import SchemaClosure.Proofs.TypeRef.FirstOffense
import SchemaClosure.Proofs.TypeRef.Packing
import SchemaClosure.Proofs.TypeRef.Rendering
