import LoadPlan.Compile.Stepwise
import LoadPlan.Main
import LoadPlan.Proofs.CommandLine.OutputName
import LoadPlan.Proofs.CommandLine.Overriding
import LoadPlan.Proofs.Compile.Success
import LoadPlan.Proofs.Compile.Suspension
import LoadPlan.Proofs.Compile.Totality
import LoadPlan.Proofs.Compile.Verdict
import LoadPlan.Proofs.Config.Checking
import LoadPlan.Proofs.Diagnostic.Recorder
import LoadPlan.Proofs.Operation.Independence
import LoadPlan.Proofs.Plan.Body
import LoadPlan.Proofs.Plan.Census
import LoadPlan.Proofs.Plan.Headers
import LoadPlan.Proofs.Plan.Keys
import LoadPlan.Proofs.Plan.Neighbours
import LoadPlan.Proofs.Plan.Query
import LoadPlan.Proofs.Plan.Recovery
import LoadPlan.Proofs.Plan.Rendering
import LoadPlan.Proofs.Plan.Schemes
import LoadPlan.Proofs.Plan.Server
import LoadPlan.Proofs.Plan.Stripping
import LoadPlan.Proofs.Plan.Switches
import LoadPlan.Proofs.Plan.TestStrings
import LoadPlan.Proofs.Plan.Titles
import LoadPlan.Proofs.Schema.Conforming
import LoadPlan.Proofs.Schema.Depth
import LoadPlan.Proofs.Schema.Hinting
import LoadPlan.Proofs.Schema.Reporting
import LoadPlan.Proofs.Schema.Wrapping
import LoadPlan.Proofs.Specification.Declaring
