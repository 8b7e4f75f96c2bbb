import X402Nockchain.Foundation.Machine
import X402Nockchain.Facilitator.SettlementBinding

/-! Runs of `/settle` over one chain, and how many authorizations a transaction
settles in them. -/

namespace X402Nockchain.Facilitator

open Foundation Foundation.Serde X402Types Crypto Wallet

variable {Chain Cache : Type}

/-- What the chain promises of the transactions it has `included`: it keeps them,
and an id that it has is accepted again. -/
structure IncludesOnce [Nockchain] (inner : NockChainClient Chain)
    (included : Chain → String → Prop) : Prop where
  keeps : ∀ {chain raw txId id}, included chain id → included (inner.submitAndWait chain raw txId).2 id
  accepts : ∀ {chain raw txId}, (inner.submitAndWait chain raw txId).1 = .ok true →
    included (inner.submitAndWait chain raw txId).2 txId
  again : ∀ {chain raw txId}, included chain txId → (inner.submitAndWait chain raw txId).1 = .ok true

structure SettleServer (Chain Cache : Type) where
  clock : UInt64
  cache : Cache
  chain : Chain
  answered : List (SettleRequest × SettleResponse) := []

inductive SettleLabel [Nockchain] where
  | tick (now : UInt64)
  /-- Somebody else submits to the chain. -/
  | submit (raw : RawTx) (txId : String)
  | settle (req : SettleRequest)

section Runs

variable [Vesl] [ErrorText] [Nockchain] [Base64] [ReplayCache Cache]

def settleStep (state : AppState Chain) (inner : NockChainClient Chain) :
    Machine (SettleServer Chain Cache) SettleLabel
  | server, .tick now => if server.clock ≤ now then some { server with clock := now } else none
  | server, .submit raw txId =>
    some { server with chain := (inner.submitAndWait server.chain raw txId).2 }
  | server, .settle req =>
    let (body, chain) := settleBody state server.clock server.cache server.chain req
    some { server with chain, answered := server.answered ++ [(req, body)] }

/-- The answer says that this transaction was accepted. -/
def AcceptedAs (body : SettleResponse) (txId : String) : Prop :=
  body.success = true ∧ ∃ tx, body.transaction = some tx ∧ tx.txId = txId ∧ tx.status = "accepted"

/-- Accepted answers that report one transaction were given for one nonce. -/
def OneNonceEach (state : AppState Chain) (server : SettleServer Chain Cache) : Prop :=
  ∀ left ∈ server.answered, ∀ right ∈ server.answered, ∀ txId auth auth',
    AcceptedAs left.2 txId → AcceptedAs right.2 txId →
    Shows state left.1 auth → Shows state right.1 auth' → auth.nonce = auth'.nonce

/-- A verified request brings a transaction of its own: not one that was already
accepted for another nonce. -/
def BringsOwn (state : AppState Chain) (server : SettleServer Chain Cache) : SettleLabel → Prop
  | .settle req =>
    (verifyEnvelopeForSettle state server.clock server.cache req).1 = .ok () →
      ∀ auth raw txId, Shows state req auth → submission req = .ok (raw, txId) →
      ∀ earlier ∈ server.answered, AcceptedAs earlier.2 txId →
      ∀ auth', Shows state earlier.1 auth' → auth'.nonce = auth.nonce
  | _ => True

variable {state : AppState Chain} {inner : NockChainClient Chain} {included : Chain → String → Prop}
  {server next : SettleServer Chain Cache}

omit [Vesl] [ErrorText] [Nockchain] [Base64] in
theorem acceptedAs_settled : AcceptedAs (settled txId accepted) txId' ↔
    txId = txId' ∧ accepted = true := by
  cases accepted <;> simp [AcceptedAs, settled, ChainStatus.asWireStr]

/-- Exactly the verified requests whose transaction the chain accepts are answered so. -/
theorem acceptedAs_iff {cache : Cache} {chain : Chain} {req : SettleRequest}
    (registry : state.schemeRegistry = .withDefaultHandlers)
    (client : state.chain = grpcChainClient inner) :
    AcceptedAs (settleBody state now cache chain req).1 txId ↔
      (verifyEnvelopeForSettle state now cache req).1 = .ok () ∧ ∃ raw,
        submission req = .ok (raw, txId) ∧ (inner.submitAndWait chain raw txId).1 = .ok true := by
  constructor
  · intro accepted
    obtain ⟨passed, raw, id, verdict, after, submitted, outcome, answer⟩ :=
      settleBody_success registry client accepted.1
    rw [answer] at accepted
    obtain ⟨rfl, rfl⟩ := acceptedAs_settled.mp accepted
    exact ⟨passed, raw, submitted, by rw [outcome]⟩
  · rintro ⟨passed, raw, submitted, verdict⟩
    rw [settleBody_submitted registry client passed submitted]
    cases outcome : inner.submitAndWait chain raw txId with
    | mk result after =>
      rw [outcome] at verdict
      subst verdict
      exact acceptedAs_settled.mpr ⟨rfl, rfl⟩

/-- The chain still has every transaction that was answered as accepted. -/
def Backed (included : Chain → String → Prop) (server : SettleServer Chain Cache) : Prop :=
  ∀ answer ∈ server.answered, ∀ txId, AcceptedAs answer.2 txId → included server.chain txId

theorem settleBody_keeps {cache : Cache} {chain : Chain} {req : SettleRequest}
    (registry : state.schemeRegistry = .withDefaultHandlers)
    (client : state.chain = grpcChainClient inner) (promises : IncludesOnce inner included)
    (before : included chain txId) : included (settleBody state now cache chain req).2 txId := by
  obtain ⟨error, answer⟩ | ⟨_, raw, txId, _, answer⟩ :=
    settleBody_cases now cache chain req registry client
  · rw [answer]
    exact before
  · rw [answer, submittedAnswer_chain]
    exact promises.keeps before

/-- An answer says accepted only of a transaction that the chain now has. -/
theorem settleBody_includes {cache : Cache} {chain : Chain} {req : SettleRequest}
    (registry : state.schemeRegistry = .withDefaultHandlers)
    (client : state.chain = grpcChainClient inner) (promises : IncludesOnce inner included)
    (accepted : AcceptedAs (settleBody state now cache chain req).1 txId) :
    included (settleBody state now cache chain req).2 txId := by
  obtain ⟨passed, raw, submitted, verdict⟩ := (acceptedAs_iff registry client).mp accepted
  rw [settleBody_submitted registry client passed submitted, submittedAnswer_chain]
  exact promises.accepts verdict

theorem backed_step (registry : state.schemeRegistry = .withDefaultHandlers)
    (client : state.chain = grpcChainClient inner) (promises : IncludesOnce inner included)
    (backed : Backed included server) (taken : settleStep state inner server label = some next) :
    Backed included next := by
  cases label with
  | tick now =>
    obtain ⟨_, same⟩ := Option.ite_none_right_eq_some.mp taken
    obtain rfl := Option.some.inj same
    exact backed
  | submit raw txId =>
    obtain rfl := Option.some.inj taken
    intro answer member txId' accepted
    exact promises.keeps (backed answer member txId' accepted)
  | settle req =>
    obtain rfl := Option.some.inj taken
    intro answer member txId accepted
    obtain old | new := List.mem_append.mp member
    · exact settleBody_keeps registry client promises (backed answer old txId accepted)
    · obtain rfl := List.mem_singleton.mp new
      exact settleBody_includes registry client promises accepted

/-- What was accepted before is accepted again. -/
theorem accepted_again {req : SettleRequest} {raw : RawTx}
    (registry : state.schemeRegistry = .withDefaultHandlers)
    (client : state.chain = grpcChainClient inner) (promises : IncludesOnce inner included)
    (backed : Backed included server) (member : earlier ∈ server.answered)
    (accepted : AcceptedAs earlier.2 txId)
    (passed : (verifyEnvelopeForSettle state server.clock server.cache req).1 = .ok ())
    (submitted : submission req = .ok (raw, txId)) :
    AcceptedAs (settleBody state server.clock server.cache server.chain req).1 txId :=
  (acceptedAs_iff registry client).mpr
    ⟨passed, raw, submitted, promises.again (backed earlier member txId accepted)⟩

/-- A request that brings its own transaction is accepted beside no other nonce. -/
theorem nonce_of_own {req : SettleRequest} (registry : state.schemeRegistry = .withDefaultHandlers)
    (client : state.chain = grpcChainClient inner) (own : BringsOwn state server (.settle req))
    (member : earlier ∈ server.answered) (accepted : AcceptedAs earlier.2 txId)
    (new : AcceptedAs (settleBody state server.clock server.cache server.chain req).1 txId)
    (shows : Shows state earlier.1 auth) (shows' : Shows state req auth') :
    auth.nonce = auth'.nonce := by
  obtain ⟨passed, raw, submitted, _⟩ := (acceptedAs_iff registry client).mp new
  exact own passed auth' raw txId shows' submitted earlier member accepted auth shows

theorem oneNonceEach_step (registry : state.schemeRegistry = .withDefaultHandlers)
    (client : state.chain = grpcChainClient inner) (promises : IncludesOnce inner included)
    (backed : Backed included server) (single : OneNonceEach state server)
    (taken : settleStep state inner server label = some next) :
    OneNonceEach state next ↔ BringsOwn state server label := by
  cases label with
  | tick now =>
    obtain ⟨_, same⟩ := Option.ite_none_right_eq_some.mp taken
    obtain rfl := Option.some.inj same
    exact iff_of_true single trivial
  | submit raw txId =>
    obtain rfl := Option.some.inj taken
    exact iff_of_true single trivial
  | settle req =>
    obtain rfl := Option.some.inj taken
    constructor
    · -- the new answer joins the old one under the same transaction
      intro single passed auth raw txId shows submitted earlier member accepted auth' shows'
      have again := accepted_again registry client promises backed member accepted passed submitted
      exact single earlier (List.mem_append_left _ member) (req, _)
        (List.mem_append_right _ (List.mem_singleton_self _)) txId auth' auth accepted again shows' shows
    · intro own left inLeft right inRight txId auth auth' accepted accepted' shows shows'
      obtain oldLeft | newLeft := List.mem_append.mp inLeft <;>
        obtain oldRight | newRight := List.mem_append.mp inRight
      · exact single left oldLeft right oldRight txId auth auth' accepted accepted' shows shows'
      · obtain rfl := List.mem_singleton.mp newRight
        exact nonce_of_own registry client own oldLeft accepted accepted' shows shows'
      · obtain rfl := List.mem_singleton.mp newLeft
        exact (nonce_of_own registry client own oldRight accepted' accepted shows' shows).symm
      · obtain rfl := List.mem_singleton.mp newLeft
        obtain rfl := List.mem_singleton.mp newRight
        rw [shows.unique shows']

omit [ErrorText] [Base64] in
/-- Answers are never taken back. -/
theorem oneNonceEach_lost (taken : settleStep state inner server label = some next)
    (single : OneNonceEach state next) : OneNonceEach state server := by
  have grows : ∀ answer ∈ server.answered, answer ∈ next.answered := by
    cases label with
    | tick now =>
      obtain ⟨_, same⟩ := Option.ite_none_right_eq_some.mp taken
      obtain rfl := Option.some.inj same
      exact fun _ => id
    | submit raw txId =>
      obtain rfl := Option.some.inj taken
      exact fun _ => id
    | settle req =>
      obtain rfl := Option.some.inj taken
      exact fun _ => List.mem_append_left _
  intro left inLeft right inRight
  exact single left (grows left inLeft) right (grows right inRight)

/-- Accepted answers that report one transaction were given for one nonce, in
exactly the runs whose verified requests bring transactions of their own. -/
theorem one_nonce_each_iff (registry : state.schemeRegistry = .withDefaultHandlers)
    (client : state.chain = grpcChainClient inner) (promises : IncludesOnce inner included)
    (fresh : server.answered = [])
    (reached : Machine.run (settleStep state inner) server labels = some next) :
    OneNonceEach state next ↔ Machine.Within (settleStep state inner) (BringsOwn state) server labels := by
  refine Machine.holds_iff_within (Backed included) (backed_step registry client promises)
    (oneNonceEach_step registry client promises) oneNonceEach_lost ?_ ?_ reached
  · simp [Backed, fresh]
  · simp [OneNonceEach, fresh]

end Runs

/-! ### One transaction beside two authorizations -/

namespace Transparent

open Crypto.Transparent Wallet.Transparent

attribute [local instance] transparent transparent_lawful plainErrors transparentChain
  transparentChain_lawful spelledBase64 spelledBase64_lawful spelledSeeds

theorem ledger_includes_once : IncludesOnce ledger fun included txId => txId ∈ included where
  keeps := by
    intro included raw txId id member
    by_cases known : txId ∈ included
    · simpa only [ledger, if_pos known] using member
    · simpa only [ledger, if_neg known] using List.mem_append_left _ member
  accepts := by
    intro included raw txId _
    by_cases known : txId ∈ included
    · simpa only [ledger, if_pos known] using known
    · simp [ledger, known]
  again := fun _ => rfl

def start : SettleServer (List String) RecordLog where
  clock := 1000
  cache := {}
  chain := []

/-- Another authorization of the same payment. -/
def reauthorized : Authorization := { spending with nonce := "5" }

/-- `reauthorized` beside the transaction that settles `spending`. -/
def reusing : SettleRequest :=
  request (payment reauthorized (some (walletPayment spending).signedRawTx))

theorem start_answered : start.answered = [] := rfl

theorem reauthorized_signable : Signable reauthorized :=
  { spending_signable with nonce := ⟨4, rfl, by decide⟩ }

theorem reusing_honest :
    Honest payer (payment reauthorized (some (walletPayment spending).signedRawTx)) reusing :=
  honest reauthorized_signable rfl rfl rfl _

theorem reusing_verified :
    (verifyEnvelopeForSettle chainFacilitator 1000 ({} : RecordLog) reusing).1 = .ok () :=
  reusing_honest.settles rfl (in_window rfl rfl rfl 1000 (by decide) (by decide))

theorem reusing_submission : submission reusing = submission (carrying spending) := by
  have reused : extractSignedRawTx reusing = .ok (walletPayment spending).signedRawTx :=
    extractSignedRawTx_toValue rfl rfl
  have carried : extractSignedRawTx (carrying spending) = .ok (walletPayment spending).signedRawTx :=
    extractSignedRawTx_toValue rfl rfl
  rw [submission, submission, reused, carried]

/-- Two requests, one after the other. -/
theorem settles_both (first second : SettleRequest) : ∃ final chain,
    Machine.run (settleStep chainFacilitator ledger) start [.settle first, .settle second] = some final ∧
    final.answered = [(first, (settleBody chainFacilitator 1000 ({} : RecordLog) [] first).1),
      (second, (settleBody chainFacilitator 1000 ({} : RecordLog) chain second).1)] :=
  ⟨_, _, rfl, rfl⟩

theorem answered_first {middle : SettleServer (List String) RecordLog}
    (taken : settleStep chainFacilitator ledger start (.settle req) = some middle) :
    ∃ body, middle.answered = [(req, body)] := by
  obtain rfl := Option.some.inj taken
  exact ⟨_, rfl⟩

/-- A request that was answered before brings its own transaction again. -/
theorem bringsOwn_again {server : SettleServer (List String) RecordLog} {body : SettleResponse}
    (answered : server.answered = [(carrying spending, body)]) :
    BringsOwn chainFacilitator server (.settle (carrying spending)) := by
  intro _ auth raw txId shows _ earlier member _ auth' shows'
  rw [answered] at member
  obtain rfl := List.mem_singleton.mp member
  rw [shows'.unique shows]

/-- The same request settled twice. -/
theorem one_nonce_each_resent : ∃ final,
    Machine.run (settleStep chainFacilitator ledger) start
      [.settle (carrying spending), .settle (carrying spending)] = some final ∧
    OneNonceEach chainFacilitator final := by
  obtain ⟨final, _, reached, _⟩ := settles_both (carrying spending) (carrying spending)
  refine ⟨final, reached, (one_nonce_each_iff rfl chainFacilitator_chain ledger_includes_once
    start_answered reached).mpr ⟨?_, fun middle taken => ⟨?_, fun _ _ => trivial⟩⟩⟩
  · intro _ _ _ _ _ _ earlier member
    cases member
  · obtain ⟨body, answered⟩ := answered_first taken
    exact bringsOwn_again answered

/-- Accepted answers to both requests report one transaction for two nonces. -/
theorem not_oneNonceEach {final : SettleServer (List String) RecordLog} {first second : SettleResponse}
    (answered : final.answered = [(carrying spending, first), (reusing, second)])
    (paid : AcceptedAs first (walletPayment spending).signedRawTx.txId)
    (paid' : AcceptedAs second (walletPayment spending).signedRawTx.txId) :
    ¬ OneNonceEach chainFacilitator final := by
  intro single
  have shows : Shows chainFacilitator (carrying spending) spending :=
    ⟨_, (carrying_honest spending).dispatched rfl⟩
  have shows' : Shows chainFacilitator reusing reauthorized :=
    ⟨_, reusing_honest.dispatched rfl⟩
  have inFirst : (carrying spending, first) ∈ final.answered := by
    rw [answered]
    exact List.mem_cons_self
  have inSecond : (reusing, second) ∈ final.answered := by
    rw [answered]
    exact List.mem_cons_of_mem _ List.mem_cons_self
  have same : spending.nonce = reauthorized.nonce :=
    single _ inFirst _ inSecond _ _ _ paid paid' shows shows'
  exact absurd same (by decide)

/-- Two authorizations are settled by one transaction. -/
theorem transaction_settles_two_nonces : ∃ final,
    Machine.run (settleStep chainFacilitator ledger) start
      [.settle (carrying spending), .settle reusing] = some final ∧
    ¬ OneNonceEach chainFacilitator final := by
  obtain ⟨raw, submitted⟩ := spending_submitted
  have accepted (chain : List String) :
      AcceptedAs (settleBody chainFacilitator 1000 ({} : RecordLog) chain (carrying spending)).1
        (walletPayment spending).signedRawTx.txId :=
    (acceptedAs_iff rfl chainFacilitator_chain).mpr ⟨carrying_verified spending, raw, submitted, rfl⟩
  have accepted' (chain : List String) :
      AcceptedAs (settleBody chainFacilitator 1000 ({} : RecordLog) chain reusing).1
        (walletPayment spending).signedRawTx.txId :=
    (acceptedAs_iff rfl chainFacilitator_chain).mpr
      ⟨reusing_verified, raw, reusing_submission.trans submitted, rfl⟩
  obtain ⟨final, chain, reached, answered⟩ := settles_both (carrying spending) reusing
  exact ⟨final, reached, not_oneNonceEach answered (accepted []) (accepted' chain)⟩

end Transparent

end X402Nockchain.Facilitator
