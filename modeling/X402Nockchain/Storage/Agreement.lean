import X402Nockchain.Storage.Memory
import X402Nockchain.Storage.Sqlite

/-! Both backends implement the same store. -/

namespace X402Nockchain.Storage

open Foundation X402Types Serde

/-- Over every sequence of calls, both backends give the answers of the
reference, and so each other's. -/
theorem backends_agree [JsonText] {calls : List CatalogCall}
    (givenBack : ∀ resource, .upsert resource ∈ calls → GivenBack resource) :
    serve.answers InMemoryCatalogStore.new calls = Reference.serve.answers [] calls ∧
      serve.answers SqliteCatalogStore.new calls = Reference.serve.answers [] calls :=
  ⟨InMemoryCatalogStore.answers calls, SqliteCatalogStore.answers givenBack⟩

namespace Sample

def option : PaymentRequirements where
  scheme := "exact"
  network := "nockchain:mainnet"
  maxAmountRequired := "1000"
  resource := "https://shop.test/paid"
  asset := "NOCK"
  payTo := "3"
  maxTimeoutSeconds := 60

def listing : DiscoveryResource where
  resource := "https://shop.test/paid"
  kind := "http"
  x402Version := 2
  accepts := [option]
  lastUpdated := "2026-01-01T00:00:00Z"
  metadata := some (.bool true)

/-- Compact text, read back for the documents of `listing`. -/
@[reducible] def text : JsonText where
  print := compact
  parse text := [toValue [option], .bool true].find? fun value => compact value = text

def calls : List CatalogCall :=
  [.upsert listing, .upsert { listing with kind := "mcp" },
    .upsert { listing with lastUpdated := "2026-01-02T00:00:00Z" },
    .list { network := some "nockchain:mainnet", limit := some 1 }]

attribute [local instance] text

theorem givenBack (resource : DiscoveryResource) (upserted : .upsert resource ∈ calls) :
    GivenBack resource := by
  have documents : resource.accepts = [option] ∧ resource.metadata = some (.bool true) := by
    simp [calls] at upserted
    obtain rfl | rfl | rfl := upserted <;> exact ⟨rfl, rfl⟩
  have different : compact (toValue [option]) ≠ compact (.bool true) := by decide
  refine ⟨?_, ?_, ?_⟩
  · simp [documents, JsonText.parse, JsonText.print]
  · simp [documents, JsonText.parse, JsonText.print, different]
  · simp [documents, PaymentRequirements.Explicit, option]

theorem backends_agree_relisted :
    serve.answers InMemoryCatalogStore.new calls = Reference.serve.answers [] calls ∧
      serve.answers SqliteCatalogStore.new calls = Reference.serve.answers [] calls :=
  backends_agree givenBack

end Sample

end X402Nockchain.Storage
