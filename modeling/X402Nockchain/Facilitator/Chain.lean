import X402Nockchain.X402Types.Facilitator

/-! The chain interface behind `/settle`, and its stub. A chain client acts on
the state `Chain` of the chain it talks to. -/

namespace X402Nockchain.Facilitator

open Foundation.Serde X402Types

inductive ChainStatus where
  | broadcast
  | processing
  | accepted
  deriving DecidableEq

def ChainStatus.asWireStr : ChainStatus → String
  | .broadcast => "broadcast"
  | .processing => "processing"
  | .accepted => "accepted"

structure ChainSettle where
  txId : String
  blockHeight : Option UInt64
  status : ChainStatus
  deriving DecidableEq

inductive ChainError where
  | transport (message : String)
  | rejected (message : String)
  | txConstructionUnavailable (message : String)
  deriving DecidableEq

structure ChainClient (Chain : Type) where
  settle : Chain → SettleRequest → Except ChainError ChainSettle × Chain

/-- `stub_tx_id`. -/
def stubTxId (req : SettleRequest) : String :=
  match ((req.payload.payload.get "authorization").bind (·.get "nonce")).bind Value.asStr with
  | some nonce => "stub-tx-" ++ nonce
  | none => "stub-tx-unknown-nonce"

/-- `StubChainClient` keeps no chain. -/
def stubChainClient : ChainClient Unit where
  settle _ req := (.ok { txId := stubTxId req, blockHeight := none, status := .broadcast }, ())

end X402Nockchain.Facilitator
