import X402Nockchain.X402Types.Facilitator

/-! The typed rejections of `verify_envelope` and their wire form. -/

namespace X402Nockchain.Facilitator

open X402Types

inductive VerifyError where
  | outsideTimeWindow (now validAfter validBefore : UInt64)
  | nonceReplayed (nonce : String)
  | overMaxAmount (value maxAmountRequired : String)
  | assetMismatch (expected actual : String)
  | unknownScheme (scheme network : String)
  | specCoded (code message : String)
  deriving DecidableEq

namespace VerifyError

def rejectionLabel : VerifyError → String
  | outsideTimeWindow .. => "outside_time_window"
  | nonceReplayed _ => "nonce_replayed"
  | overMaxAmount .. => "over_max_amount"
  | assetMismatch .. => "asset_mismatch"
  | unknownScheme .. => "unknown_scheme"
  | specCoded code _ => code

/-- `From<VerifyError> for FacilitatorError`. -/
def toFacilitatorError : VerifyError → FacilitatorError
  | outsideTimeWindow now validAfter validBefore => {
      code := "outside_time_window"
      message := s!"authorization outside time window: now={now} valid_after={validAfter} valid_before={validBefore}" }
  | nonceReplayed nonce => {
      code := "nonce_replayed"
      message := s!"authorization nonce already seen: {nonce}" }
  | overMaxAmount value maxAmountRequired => {
      code := "over_max_amount"
      message := s!"authorization value {value} exceeds max_amount_required {maxAmountRequired}" }
  | assetMismatch expected actual => {
      code := "asset_mismatch"
      message := s!"asset mismatch: requirements.asset={expected}, payload asset={actual}" }
  | unknownScheme scheme network => {
      code := "unknown_scheme"
      message := s!"unknown scheme/network pair: scheme={scheme} network={network}" }
  | specCoded code message => { code, message }

/-- The metric label of a rejection is its wire code. -/
theorem toFacilitatorError_code (error : VerifyError) :
    error.toFacilitatorError.code = error.rejectionLabel := by
  cases error <;> rfl

end VerifyError

/-- A rejection under a §6.6 code. -/
def spec (code message : String) : VerifyError := .specCoded code message

end X402Nockchain.Facilitator
