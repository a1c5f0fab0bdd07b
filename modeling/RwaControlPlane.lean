import RwaControlPlane.Merkle.Equivalence
import RwaControlPlane.Gate.NoInflation
import RwaControlPlane.Gate.Prepare
import RwaControlPlane.Storage.StateHistory
import RwaControlPlane.Storage.Migrations
import RwaControlPlane.ControlPlane.Conservation
import RwaControlPlane.ControlPlane.Holdings
import RwaControlPlane.ControlPlane.Rejections
import RwaControlPlane.ControlPlane.History
import RwaControlPlane.Durable.HoldingLimit
import RwaControlPlane.Durable.CurrentNav
import RwaControlPlane.Catalog.EvidenceSource
import RwaControlPlane.Audit.TamperEvidence
import RwaControlPlane.Outbox.ExactlyOnce
import RwaControlPlane.Outbox.PayloadHashes
import RwaControlPlane.Outbox.Order
import RwaControlPlane.Audit.HashChain
import RwaControlPlane.Storage.CanonicalEncoding
import RwaControlPlane.ControlPlane.EvidencePackage
import RwaControlPlane.Durable.Conflicts
import RwaControlPlane.Prover.Stranded
import RwaControlPlane.Security.SingleUse
import RwaControlPlane.Approvals.FourEyes
import RwaControlPlane.ReadModel.InvestorIndex
import RwaControlPlane.ReadModel.Redaction
import RwaControlPlane.Merkle.Capacity
import RwaControlPlane.Circuit.HonestWitness
import RwaControlPlane.Callbacks.Receive
import RwaControlPlane.Callbacks.Authority
import RwaControlPlane.Outbox.Accounting
import RwaControlPlane.Callbacks.Accepted
import RwaControlPlane.Callbacks.Applied
import RwaControlPlane.Callbacks.Committers
import RwaControlPlane.Callbacks.Connector
import RwaControlPlane.Callbacks.Grammar
import RwaControlPlane.Catalog.AuditExport
import RwaControlPlane.ControlPlane.OwnKeys
import RwaControlPlane.ControlPlane.Reconciliation
import RwaControlPlane.Durable.Loading
import RwaControlPlane.Durable.Opening
import RwaControlPlane.Gate.Preparation
import RwaControlPlane.Gate.PrepareReplay
import RwaControlPlane.Library.FixedWindow
import RwaControlPlane.ReadModel.Supervision
import RwaControlPlane.Security.RateLimiter
import RwaControlPlane.Security.Requests
import RwaControlPlane.Security.LocalKey
import RwaControlPlane.Security.VerifierProcess
import RwaControlPlane.Catalog.EvidenceSignatures
