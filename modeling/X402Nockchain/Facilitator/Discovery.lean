import X402Nockchain.Storage.Contract

/-! `GET /discovery/resources`. -/

namespace X402Nockchain.Facilitator

open Foundation.Serde X402Types Storage

inductive AppError where
  | internal (message : String)
  deriving DecidableEq

def discoveryVersion : UInt32 := 2

def defaultLimit : UInt32 := 50

/-- The query of a request. -/
structure ListParams where
  kind : Option String := none
  limit : Option UInt32 := none
  offset : Option UInt32 := none
  network : Option String := none
  scheme : Option String := none
  deriving DecidableEq

def listResources [CatalogStore Store] (catalog : Store) (params : ListParams) :
    Except AppError DiscoveryResourcesResponse := do
  let limit := params.limit.getD defaultLimit
  let offset := params.offset.getD 0
  let storeParams : ListDiscoveryResourcesParams := {
    kind := params.kind
    limit := some limit
    offset := some offset
    network := params.network
    scheme := params.scheme }
  let (items, total) ← (CatalogStore.list catalog storeParams).mapError .internal
  return { x402Version := discoveryVersion, items, pagination := { limit, offset, total } }

/-- A response, as it is on the wire: its status, and the text of its body. -/
structure HttpResponse where
  status : Nat
  body : String

/-- `IntoResponse for AppError`. -/
def AppError.intoResponse [JsonText] : AppError → HttpResponse
  | internal message => {
      status := 500
      body := toText (Value.object [("error", .object
        [("code", .string "facilitator_internal_error"), ("message", .string message)])]) }

end X402Nockchain.Facilitator
