import FilterAlgebra.Session.Run
import FilterAlgebra.Proofs.Calls
import FilterAlgebra.Proofs.Readability
import FilterAlgebra.Proofs.Dispatch
import FilterAlgebra.Proofs.Order
import FilterAlgebra.Proofs.Extension
import FilterAlgebra.Proofs.Parallel
import FilterAlgebra.Proofs.Restyling
import FilterAlgebra.Proofs.Styles
import FilterAlgebra.Proofs.Collection
import FilterAlgebra.Proofs.Definitions
import FilterAlgebra.Proofs.Listing
import FilterAlgebra.Proofs.Walk
import FilterAlgebra.Proofs.RawComparison
import FilterAlgebra.Proofs.Symmetry
import FilterAlgebra.Proofs.Blame
import FilterAlgebra.Proofs.DistinctNames
import FilterAlgebra.Proofs.Integers
import FilterAlgebra.Proofs.Nesting
import FilterAlgebra.Proofs.Records
import FilterAlgebra.Proofs.ScriptBuilds
