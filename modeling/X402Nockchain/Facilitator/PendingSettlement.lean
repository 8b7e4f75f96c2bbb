import X402Nockchain.Client.ExtensionHeader
import X402Nockchain.Facilitator.CatalogProvenance
import X402Nockchain.Facilitator.SettlementBinding

/-! What `/settle` reports in its header about a settlement that the chain has
not accepted yet. The header is made before the chain is asked. -/

namespace X402Nockchain.Facilitator

open Foundation Foundation.Serde X402Types Crypto Storage Wallet
open Client (Legible Reports reports_iff)

variable {Chain Cache Store : Type}

section Pending

variable [Vesl] [ErrorText] [JsonSchema] [JsonText] [Base64] [ReplayCache Cache] [CatalogStore Store]
  {state : AppState Chain} {service : Service Chain Cache Store} {req : SettleRequest}
  {now : UInt64} {lastUpdated : String}

/-- The chain's answer to the settlement is that acceptance was not seen in time. -/
def Pending (state : AppState Chain) (chain : Chain) (req : SettleRequest) : Prop :=
  ∃ handler settle, state.schemeRegistry.handlerFor req.requirements.scheme req.requirements.network =
    some handler ∧ (handler.settle state.chain chain req).1 = .ok settle ∧ settle.status = .processing

/-- The answer's header reports this status. -/
def HeaderReports (state : AppState Chain) (now : UInt64) (lastUpdated : String)
    (service : Service Chain Cache Store) (req : SettleRequest) (status : BazaarExtensionStatus) : Prop :=
  ∃ response, Reports (settleHandler state now lastUpdated service req).1.1 response ∧
    response.status = status

/-- A header is there for a request that passes the check, and comes from `process`
alone. -/
theorem settleHandler_header :
    (settleHandler state now lastUpdated service req).1.1 =
      match (verifyEnvelopeForSettle state now service.cache req).1 with
      | .ok () => (process service.catalog lastUpdated req).1.map encodeHeaderValue
      | .error _ => none := by
  rw [settleHandler_eq]
  cases (verifyEnvelopeForSettle state now service.cache req).1 <;> rfl

/-- A pending settlement is reported as processing, and a success is not pending. -/
def ReportsPending (state : AppState Chain) (now : UInt64) (lastUpdated : String)
    (service : Service Chain Cache Store) (req : SettleRequest) : Prop :=
  ((verifyEnvelopeForSettle state now service.cache req).1 = .ok () →
    Catalogs service.catalog lastUpdated req → Pending state service.chain req →
      HeaderReports state now lastUpdated service req .processing) ∧
  (HeaderReports state now lastUpdated service req .success → ¬ Pending state service.chain req)

/-- The header of a request that passes the check reports what `process` came to. -/
theorem reports_of_passed [LawfulBase64]
    (legible : ∀ response, (process service.catalog lastUpdated req).1 = some response → Legible response)
    (passed : (verifyEnvelopeForSettle state now service.cache req).1 = .ok ()) :
    Reports (settleHandler state now lastUpdated service req).1.1 response ↔
      (process service.catalog lastUpdated req).1 = some response := by
  rw [settleHandler_header, passed]
  exact reports_iff legible

/-- A request that passes and catalogs is reported as a success, whatever the chain answers. -/
theorem headerReports_of_catalogs [LawfulBase64]
    (legible : ∀ response, (process service.catalog lastUpdated req).1 = some response → Legible response)
    (passed : (verifyEnvelopeForSettle state now service.cache req).1 = .ok ())
    (cataloged : Catalogs service.catalog lastUpdated req) :
    HeaderReports state now lastUpdated service req status ↔ status = .success := by
  have processed := process_catalogs cataloged
  constructor
  · rintro ⟨response, reports, rfl⟩
    obtain rfl := Option.some.inj (processed.symm.trans ((reports_of_passed legible passed).mp reports))
    rfl
  · rintro rfl
    exact ⟨_, (reports_of_passed legible passed).mpr processed, rfl⟩

/-- A success is reported for requests that pass and catalog only. -/
theorem catalogs_of_headerReports [LawfulBase64]
    (legible : ∀ response, (process service.catalog lastUpdated req).1 = some response → Legible response)
    (reports : HeaderReports state now lastUpdated service req .success) :
    (verifyEnvelopeForSettle state now service.cache req).1 = .ok () ∧
      Catalogs service.catalog lastUpdated req := by
  obtain ⟨response, reports, success⟩ := reports
  cases passed : (verifyEnvelopeForSettle state now service.cache req).1 with
  | error error =>
    rw [settleHandler_header, passed] at reports
    obtain ⟨_, _, absent, _⟩ := reports
    cases absent
  | ok done =>
    have processed := (reports_of_passed legible passed).mp reports
    obtain ⟨_, cataloged⟩ | ⟨rejects, _⟩ := process_status processed
    · exact ⟨rfl, cataloged⟩
    · cases success.symm.trans rejects

/-- A pending settlement of a request that passes and catalogs is not reported. -/
theorem unreported_of_pending [LawfulBase64]
    (legible : ∀ response, (process service.catalog lastUpdated req).1 = some response → Legible response)
    (passed : (verifyEnvelopeForSettle state now service.cache req).1 = .ok ())
    (cataloged : Catalogs service.catalog lastUpdated req) (pending : Pending state service.chain req) :
    ¬ ReportsPending state now lastUpdated service req := by
  rintro ⟨reported, _⟩
  have processing := reported passed cataloged pending
  cases (headerReports_of_catalogs legible passed cataloged).mp processing

/-- The header tells the truth about pending settlements exactly where there are
none: of a request that passes and catalogs, it reports a success. -/
theorem pending_reported_iff [LawfulBase64]
    (legible : ∀ response, (process service.catalog lastUpdated req).1 = some response → Legible response) :
    ReportsPending state now lastUpdated service req ↔
      ¬ ((verifyEnvelopeForSettle state now service.cache req).1 = .ok () ∧
        Catalogs service.catalog lastUpdated req ∧ Pending state service.chain req) := by
  constructor
  · rintro reported ⟨passed, cataloged, pending⟩
    exact unreported_of_pending legible passed cataloged pending reported
  · intro none
    constructor
    · exact fun passed cataloged pending => absurd ⟨passed, cataloged, pending⟩ none
    · intro success pending
      obtain ⟨passed, cataloged⟩ := catalogs_of_headerReports legible success
      exact none ⟨passed, cataloged, pending⟩

omit [JsonSchema] [JsonText] in
/-- Behind the shipped client, a settlement is pending when the node was waited for in vain. -/
theorem pending_grpc_iff [Nockchain] {inner : NockChainClient Chain} {cache : Cache}
    (registry : state.schemeRegistry = .withDefaultHandlers) (client : state.chain = grpcChainClient inner)
    (passed : (verifyEnvelopeForSettle state now cache req).1 = .ok ()) (chain : Chain) :
    Pending state chain req ↔ ∃ raw txId, submission req = .ok (raw, txId) ∧
      (inner.submitAndWait chain raw txId).1 = .ok false := by
  obtain ⟨_, _, _, ⟨handler, dispatched⟩, _⟩ := verifyEnvelopeForSettle_ok registry passed
  obtain ⟨_, _, _, found, _⟩ := preDispatch_ok_iff.mp dispatched
  obtain ⟨_, _, settles⟩ := shared_methods (registry ▸ found)
  simp only [Pending, found, Option.some.injEq, exists_and_left, exists_eq_left', settles, client, grpcChainClient]
  cases submitted : submission req with
  | error error => simp
  | ok sent =>
    obtain ⟨raw, txId⟩ := sent
    rcases waited : inner.submitAndWait chain raw txId with ⟨e | _ | _, after⟩ <;> simp [waited]

end Pending

/-! ### A node that does not see the block in time -/

namespace Transparent

open Crypto.Transparent Wallet.Transparent NockchainWalletClient

attribute [local instance] transparent transparent_lawful plainErrors plainSchemas plainSchemas_lawful
  transparentChain transparentChain_lawful spelledBase64 spelledBase64_lawful spelledSeeds

/-- Compact text, read back for the report of a success. -/
@[reducible] def successText : JsonText where
  print := compact
  parse text := [toValue (Client.envelopeOf { status := .success })].find? fun value => compact value = text

attribute [local instance] successText

theorem success_legible : Legible { status := .success } := by
  simp [Legible, JsonText.parse, JsonText.print]

/-- A node that broadcasts, and that waits for the block in vain. -/
def slow : NockChainClient (List String) where
  submitAndWait included _ _ := (.ok false, included)

/-- The default facilitator over a node. -/
def facilitatorOver (node : NockChainClient (List String)) : AppState (List String) := .new (grpcChainClient node)

theorem facilitatorOver_chain (node : NockChainClient (List String)) :
    (facilitatorOver node).chain = grpcChainClient node := rfl

def started : Service (List String) RecordLog InMemoryCatalogStore where
  cache := {}
  chain := []
  catalog := .new

/-- The settlement of `spending`, with the extension of `weather` echoed. -/
def listed : SettleRequest :=
  { carrying spending with
    payload := { (carrying spending).payload with extensions := some [("bazaar", toValue weather)] } }

theorem listed_honest :
    Honest payer (payment spending (some (walletPayment spending).signedRawTx)) listed := by
  have honest := carrying_honest spending
  exact ⟨rfl, rfl, rfl, rfl, fakenet_nockchain, honest.carried, honest.own, honest.signed, rfl,
    honest.capped, rfl⟩

theorem listed_passes (node : NockChainClient (List String)) :
    (verifyEnvelopeForSettle (facilitatorOver node) 1000 started.cache listed).1 = .ok () :=
  listed_honest.settles rfl (in_window rfl rfl rfl 1000 (by decide) (by decide))

theorem listed_catalogs : Catalogs started.catalog "now" listed := by
  refine ⟨weather, _, readExtension_ok_iff.mpr ⟨_, _, rfl, rfl, ?_, ?_⟩, rfl⟩
  · exact BazaarExtension.fromValue_toValue_withoutNulls weather
  · exact (validateInfoAgainstSchema_ok_iff rfl).mpr rfl

theorem listed_submitted : ∃ raw txId, submission listed = .ok (raw, txId) := by
  obtain ⟨raw, submitted⟩ := spending_submitted
  exact ⟨raw, _, submitted⟩

theorem listed_legible (response : BazaarExtensionResponse)
    (processed : (process started.catalog "now" listed).1 = some response) : Legible response := by
  obtain rfl := Option.some.inj ((process_catalogs listed_catalogs).symm.trans processed)
  exact success_legible

/-- Over a node that includes what it is given. -/
theorem pending_reported_when_accepted : ReportsPending (facilitatorOver ledger) 1000 "now" started listed := by
  refine (pending_reported_iff listed_legible).mpr ?_
  rintro ⟨passed, _, pending⟩
  obtain ⟨_, _, _, waited⟩ := (pending_grpc_iff rfl (facilitatorOver_chain _) passed _).mp pending
  cases waited

/-- Over a slow node, the body of the answer says `processing` and its header `success`. -/
theorem pending_reported_as_success : ∃ txId,
    ¬ ReportsPending (facilitatorOver slow) 1000 "now" started listed ∧
    HeaderReports (facilitatorOver slow) 1000 "now" started listed .success ∧
    (settleBody (facilitatorOver slow) 1000 started.cache started.chain listed).1 = settled txId false := by
  obtain ⟨raw, txId, submitted⟩ := listed_submitted
  have passed := listed_passes slow
  refine ⟨txId, ?_, (headerReports_of_catalogs listed_legible passed listed_catalogs).mpr rfl, ?_⟩
  · have pending := (pending_grpc_iff rfl (facilitatorOver_chain slow) passed started.chain).mpr
      ⟨raw, txId, submitted, rfl⟩
    exact unreported_of_pending listed_legible passed listed_catalogs pending
  · rw [settleBody_submitted rfl (facilitatorOver_chain _) passed submitted]
    rfl

end Transparent

end X402Nockchain.Facilitator
