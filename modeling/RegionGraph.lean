import RegionGraph.Inspect
import RegionGraph.Logging.Start
import RegionGraph.Scripted
import RegionGraph.Settings.Search
import RegionGraph.Settings.Validity
import RegionGraph.Proofs.Coherence
import RegionGraph.Proofs.Endings
import RegionGraph.Proofs.Files
import RegionGraph.Proofs.Diaries
import RegionGraph.Proofs.Transparency
import RegionGraph.Proofs.Independence
import RegionGraph.Proofs.Survival
import RegionGraph.Proofs.Faultless
import RegionGraph.Proofs.Splitting
import RegionGraph.Proofs.Completion
import RegionGraph.Proofs.Phases
import RegionGraph.Proofs.Entanglement
import RegionGraph.Proofs.LeastLengths
import RegionGraph.Proofs.Failures
import RegionGraph.Proofs.Refusals
import RegionGraph.Proofs.Removal
import RegionGraph.Proofs.Corruption
import RegionGraph.Proofs.Casting
import RegionGraph.Proofs.Supplies
import RegionGraph.Proofs.Approval
import RegionGraph.Proofs.Restoring
import RegionGraph.Proofs.Reloading
import RegionGraph.Proofs.Gathering
import RegionGraph.Proofs.Recycling
import RegionGraph.Proofs.PhaseMarks
import RegionGraph.Proofs.Annals
import RegionGraph.Proofs.Arithmetic
import RegionGraph.Proofs.Delimiting
