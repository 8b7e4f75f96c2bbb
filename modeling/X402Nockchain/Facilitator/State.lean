import X402Nockchain.Foundation.ReplayCache
import X402Nockchain.Facilitator.Scheme

/-! `AppState`: the configuration of a facilitator. The replay cache and the chain
change while it runs and are passed beside it; the clock is the time at which a
check is made. -/

namespace X402Nockchain.Facilitator

open Foundation Foundation.Serde X402Types Crypto

def defaultClockSkewTolerance : Duration := .fromSecs 60

def defaultReplayTtl : Duration := .fromSecs (15 * 60)

structure AppState (Chain : Type) where
  chain : ChainClient Chain
  clockSkewTolerance : Duration
  replayTtl : Duration
  schemeRegistry : SchemeHandlerRegistry Chain

namespace AppState

variable {Chain : Type}

def new [Vesl] [ErrorText] (chain : ChainClient Chain) : AppState Chain where
  chain
  clockSkewTolerance := defaultClockSkewTolerance
  replayTtl := defaultReplayTtl
  schemeRegistry := .withDefaultHandlers

def withClockSkewTolerance (state : AppState Chain) (tolerance : Duration) : AppState Chain :=
  { state with clockSkewTolerance := tolerance }

def withReplayTtl (state : AppState Chain) (ttl : Duration) : AppState Chain :=
  { state with replayTtl := ttl }

def withSchemeRegistry (state : AppState Chain) (registry : SchemeHandlerRegistry Chain) :
    AppState Chain := { state with schemeRegistry := registry }

end AppState

end X402Nockchain.Facilitator
