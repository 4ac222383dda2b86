import Remediation.Main
import Remediation.Proofs.Web.Cycle
import Remediation.Proofs.Schedule.Sort
import Remediation.Proofs.Expansion.Precedence
import Remediation.Proofs.Expansion.Sortable
import Remediation.Proofs.Expansion.Handover
import Remediation.Proofs.Plan.Validation
import Remediation.Proofs.Expansion.Capture
import Remediation.Proofs.Expansion.PathId
import Remediation.Proofs.Expansion.Failure
import Remediation.Proofs.Expansion.Flattening
import Remediation.Proofs.Fault
import Remediation.Proofs.Expansion.Inclusion
import Remediation.Proofs.Execution.Turn
import Remediation.Proofs.Expansion.Override
import Remediation.Proofs.Json.Number
import Remediation.Proofs.Json.Quoted
import Remediation.Proofs.Json.RoundTrip
import Remediation.Proofs.Checked
import Remediation.Proofs.Json.Data
import Remediation.Proofs.Plan.Document
import Remediation.Proofs.Rule
import Remediation.Proofs.Alias
import Remediation.Proofs.Expansion.Reordering
import Remediation.Proofs.Alias.Detour
import Remediation.Proofs.Expansion.Mention
import Remediation.Proofs.Expansion.Opening
import Remediation.Proofs.Expansion.Silence
import Remediation.Proofs.Expansion.Insertion
import Remediation.Proofs.Expansion.Provenance
import Remediation.Proofs.Building.Documents
import Remediation.Proofs.Expansion.Demand
import Remediation.Proofs.Building.Missing
import Remediation.Proofs.Schedule.Stable
import Remediation.Proofs.Building.Sound
import Remediation.Proofs.Execution.Rehearsal
import Remediation.Proofs.Expansion.Chain
import Remediation.Proofs.Work
import Remediation.Proofs.Json.Reading
import Remediation.Proofs.Execution.Stored
import Remediation.Proofs.Toml
import Remediation.Proofs.Repository
import Remediation.Proofs.Building.Failure
import Remediation.Proofs.CommandLine.Escape
import Remediation.Proofs.CommandLine.Run
import Remediation.Proofs.Parameters.Prediction
import Remediation.Proofs.Action.Command
import Remediation.Proofs.Parameters.Typed
import Remediation.Proofs.Parameters.Refilling
import Remediation.Proofs.Execution.Frame
import Remediation.Proofs.Action.Outputs
import Remediation.Proofs.Action.Catalogue
import Remediation.Proofs.Building.Facts
import Remediation.Proofs.Plan.CriticalPath
import Remediation.Proofs.Condition.Decision
import Remediation.Proofs.Repository.Address
import Remediation.Proofs.Json.Path
