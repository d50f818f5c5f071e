import BatchTree.Config.Document
import BatchTree.Encoding.Batch
import BatchTree.Proofs.Accounting
import BatchTree.Proofs.Aftermath
import BatchTree.Proofs.Batching
import BatchTree.Proofs.Bookkeeping
import BatchTree.Proofs.Commuting
import BatchTree.Proofs.Cuts
import BatchTree.Proofs.FanOut
import BatchTree.Proofs.Gate
import BatchTree.Proofs.Grammar
import BatchTree.Proofs.Guards
import BatchTree.Proofs.Imprint
import BatchTree.Proofs.InPlace
import BatchTree.Proofs.Recording
import BatchTree.Proofs.Refinement
import BatchTree.Proofs.Responses
import BatchTree.Proofs.RoundTrips
import BatchTree.Proofs.Routes
import BatchTree.Proofs.Sequences
import BatchTree.Proofs.Serial
import BatchTree.Proofs.Singles
import BatchTree.Proofs.Stems
import BatchTree.Proofs.Sufficiency
import BatchTree.Proofs.Teardown
import BatchTree.Proofs.Verdicts
import BatchTree.Proofs.Versions
import BatchTree.Proofs.Writes
import BatchTree.Scenario.Run
import BatchTree.Session.Host
