import SourceEmitter.CommandLine
import SourceEmitter.Java.Op
import SourceEmitter.Main
import SourceEmitter.Proofs.Outlet
import SourceEmitter.Proofs.ErrorLatch
import SourceEmitter.Proofs.Arrangement
import SourceEmitter.Proofs.Interleaving
import SourceEmitter.Proofs.Construct
import SourceEmitter.Proofs.ConstructText
import SourceEmitter.Proofs.UnitText
import SourceEmitter.Proofs.FileGrowth
import SourceEmitter.Proofs.StoredPlan
import SourceEmitter.Proofs.Confinement
import SourceEmitter.Proofs.FailedPlan
import SourceEmitter.Proofs.UnitHistory
import SourceEmitter.Proofs.Outline
import SourceEmitter.Proofs.Offers
import SourceEmitter.Proofs.ClassLayout
import SourceEmitter.Proofs.SourcePlace
import SourceEmitter.Proofs.RenderedPlan
import SourceEmitter.Proofs.Template
import SourceEmitter.Proofs.ExpansionRule
import SourceEmitter.Proofs.Expansion
import SourceEmitter.Proofs.Reports
import SourceEmitter.Proofs.WholeMargin
import SourceEmitter.Proofs.MemoryText
import SourceEmitter.Proofs.DistinctSources
import SourceEmitter.Proofs.PackagedResources
import SourceEmitter.Proofs.FoundAgain
import SourceEmitter.Proofs.GivenPackage
import SourceEmitter.Proofs.Utf8Order
import SourceEmitter.Proofs.LastKinds
import SourceEmitter.Proofs.FragmentCustody
import SourceEmitter.Proofs.PlanRoundTrip
