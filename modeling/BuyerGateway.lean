import BuyerGateway.Gateway.Handler
import BuyerGateway.Gateway.Session
import BuyerGateway.Proofs.PlanRun
import BuyerGateway.Proofs.Addressing
import BuyerGateway.Proofs.Replies
import BuyerGateway.Proofs.Submission
import BuyerGateway.Proofs.Visit
import BuyerGateway.Proofs.Footprint
import BuyerGateway.Proofs.Transcript
import BuyerGateway.Proofs.LedgerHistory
import BuyerGateway.Proofs.Arrivals
import BuyerGateway.Proofs.Correlation
import BuyerGateway.Proofs.Growth
import BuyerGateway.Proofs.Destinations
import BuyerGateway.Proofs.Independence
import BuyerGateway.Proofs.Pool
import BuyerGateway.Proofs.Interleaving
import BuyerGateway.Proofs.PollGate
import BuyerGateway.Proofs.Acknowledgements
import BuyerGateway.Proofs.Json.Numbers
import BuyerGateway.Proofs.Json.Texts
import BuyerGateway.Proofs.PartialPayloads
import BuyerGateway.Proofs.PollFold
import BuyerGateway.Proofs.RemoteRegistry
import BuyerGateway.Proofs.Shape.Presence
import BuyerGateway.Proofs.OutgoingBodies
import BuyerGateway.Proofs.RequestTexts
import BuyerGateway.Proofs.Amounts
import BuyerGateway.Proofs.Orders
import BuyerGateway.Proofs.RequestBuilding
import BuyerGateway.Proofs.Json.Trailing
import BuyerGateway.Proofs.Shape.Faults
import BuyerGateway.Proofs.ReplyClassification
import BuyerGateway.Proofs.RegistryReplies
import BuyerGateway.Proofs.DirectoryHistory
import BuyerGateway.Proofs.Ingestion
import BuyerGateway.Proofs.BlankIds
import BuyerGateway.Proofs.Configuration
import BuyerGateway.Proofs.StorageHistory
import BuyerGateway.Proofs.SupportFallback
