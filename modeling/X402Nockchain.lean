import X402Nockchain.Foundation.Digits
import X402Nockchain.Foundation.Decimal
import X402Nockchain.Foundation.Base58
import X402Nockchain.Foundation.Serde
import X402Nockchain.Foundation.Outcome
import X402Nockchain.Foundation.JsonSchema
import X402Nockchain.X402Types.Payment
import X402Nockchain.X402Types.Nockchain
import X402Nockchain.X402Types.WireFormat
import X402Nockchain.Foundation.Text
import X402Nockchain.Foundation.Clock
import X402Nockchain.Foundation.Machine
import X402Nockchain.Foundation.ReplayCache
import X402Nockchain.Crypto.Vesl
import X402Nockchain.Crypto.SignMessage
import X402Nockchain.Crypto.Belts
import X402Nockchain.Crypto.DigestCodec
import X402Nockchain.Crypto.Packing
import X402Nockchain.Crypto.Message
import X402Nockchain.Crypto.Verifier
import X402Nockchain.Crypto.Binding
import X402Nockchain.Foundation.Sorting
import X402Nockchain.Foundation.Positional
import X402Nockchain.Crypto.NoteOrder
import X402Nockchain.X402Types.Facilitator
import X402Nockchain.Facilitator.Error
import X402Nockchain.Facilitator.Chain
import X402Nockchain.Facilitator.Scheme
import X402Nockchain.Facilitator.State
import X402Nockchain.Facilitator.Verify
import X402Nockchain.Facilitator.VerifyCalls
import X402Nockchain.Facilitator.Honest
import X402Nockchain.Facilitator.Acceptance
import X402Nockchain.Facilitator.ReplayOnce
import X402Nockchain.Facilitator.ReplayWindow
import X402Nockchain.Facilitator.Rejections
import X402Nockchain.Facilitator.Amount
import X402Nockchain.Storage.Agreement
import X402Nockchain.Facilitator.Bazaar
import X402Nockchain.Advertiser.SelfDescribing
import X402Nockchain.Facilitator.SettlementBinding
import X402Nockchain.Facilitator.SettleRuns
import X402Nockchain.Client.Builder
import X402Nockchain.Client.ChangeLock
import X402Nockchain.Client.Fetch
import X402Nockchain.Client.Flow
import X402Nockchain.Client.SecondChallenge
import X402Nockchain.Facilitator.VerifyThenSettle
import X402Nockchain.Facilitator.NonceIndependence
import X402Nockchain.Facilitator.CatalogProvenance
import X402Nockchain.Facilitator.VerifyAfterSettle
import X402Nockchain.Client.DiscoveryQuery
import X402Nockchain.Client.ExtensionHeader
import X402Nockchain.Facilitator.PendingSettlement
import X402Nockchain.Facilitator.PageWalk
import X402Nockchain.Facilitator.HeaderTruth
import X402Nockchain.Storage.Pages
import X402Nockchain.Wallet.Conservation
import X402Nockchain.Wallet.FeeDomain
import X402Nockchain.Facilitator.SurrogateReaders
import X402Nockchain.Mcp.AdvertisedOptions
import X402Nockchain.Client.HonestPayment
import X402Nockchain.Mcp.PaymentHeader
import X402Nockchain.Mcp.ToolArguments
import X402Nockchain.Mcp.ToolCalls
import X402Nockchain.Mcp.PaidRuns
import X402Nockchain.Facilitator.Linearization
import X402Nockchain.Client.WalletPayment
import X402Nockchain.Facilitator.Observability
import X402Nockchain.Client.Policy
import X402Nockchain.Client.Discovery
import X402Nockchain.Client.ReadYourWrites
import X402Nockchain.Client.KeyPossession
import X402Nockchain.Mcp.ToolSales
import X402Nockchain.Facilitator.StubSettlement
import X402Nockchain.Facilitator.SubmissionLog
