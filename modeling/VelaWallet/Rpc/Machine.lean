import Mathlib.Data.Finset.Basic
import VelaWallet.Rpc.Endpoints

/-!
# The endpoint pool machine

The model of `rpc_pool.rs`: the pools of every chain, the bans, the races for the fastest
endpoint and the calls in flight, and what each event does to them.
-/

namespace VelaWallet.RpcPool

open Utf8 (CaseTable)

/-! ## The model -/

inductive PendingWork where
  | call (callId : String)
  | base (callId : String) (chainId : UInt32)
  | bestRpc (callId : String) (chainId : UInt32)

structure ChainPool where
  rpc : List RpcEndpointStats
  bundler : List RpcEndpointStats
  loadedAtMs : Option Float
  loading : Bool
  pending : List PendingWork

/-- `ChainPool::default` -/
def ChainPool.empty : ChainPool := ⟨[], [], none, false, []⟩

def ChainPool.list (pool : ChainPool) : RpcKind → List RpcEndpointStats
  | .rpc => pool.rpc
  | .bundler => pool.bundler

/-- `ChainPool::list_mut` -/
def ChainPool.changeList (pool : ChainPool) (kind : RpcKind)
    (change : List RpcEndpointStats → List RpcEndpointStats) : ChainPool :=
  match kind with
  | .rpc => { pool with rpc := change pool.rpc }
  | .bundler => { pool with bundler := change pool.bundler }

inductive SessionState where
  | waitingPool
  | waitingProbe
  | waitingPost (url : String)
  | waitingJitter
  | waitingBackoff
  deriving DecidableEq

structure CallSession where
  chainId : UInt32
  kind : RpcKind
  method : String
  pass : Nat
  queue : List String
  sawRateLimit : Bool
  sawUnreached : Bool
  xRpcUrl : Option String
  state : SessionState
  maybeDelivered : Bool
  firstPassTried : Nat
  firstPassAllTransport : Bool

/-- A call that was just asked for. -/
def CallSession.new (chainId : UInt32) (kind : RpcKind) (method : String) : CallSession where
  chainId
  kind
  method
  pass := 0
  queue := []
  sawRateLimit := false
  sawUnreached := false
  xRpcUrl := none
  state := .waitingPool
  maybeDelivered := false
  firstPassTried := 0
  firstPassAllTransport := true

structure ProbeRace where
  outstanding : Finset String
  found : List (String × Float)
  wrongChain : Finset String
  ranked : List String
  waiters : List String

structure FastestPick where
  url : String
  atMs : Float

structure Model where
  pools : List (UInt32 × ChainPool)
  bans : List (String × RpcBanEntry)
  bansLoaded : Bool
  lastBanPruneMs : Option Float
  failedChains : Finset UInt32
  rateLimitedChains : Finset UInt32
  unreachedChains : Finset UInt32
  fastest : List (UInt32 × FastestPick)
  wrongChain : List (UInt32 × Finset String)
  probes : List (UInt32 × ProbeRace)
  calls : List (String × CallSession)

/-- `Model::default` -/
def Model.fresh : Model := ⟨[], [], false, none, ∅, ∅, ∅, [], [], [], []⟩

namespace Model

def pool? (model : Model) (chainId : UInt32) : Option ChainPool := Keyed.get? chainId model.pools

def call? (model : Model) (callId : String) : Option CallSession := Keyed.get? callId model.calls

def race? (model : Model) (chainId : UInt32) : Option ProbeRace := Keyed.get? chainId model.probes

/-- The urls of a chain that answered with another chain's id. -/
def wrongChains (model : Model) (chainId : UInt32) : Finset String :=
  (Keyed.get? chainId model.wrongChain).getD ∅

def banEntries (model : Model) : List RpcBanEntry := model.bans.map Prod.snd

def setPool (model : Model) (chainId : UInt32) (pool : ChainPool) : Model :=
  { model with pools := Keyed.set chainId pool model.pools }

def setCall (model : Model) (callId : String) (session : CallSession) : Model :=
  { model with calls := Keyed.set callId session model.calls }

def dropCall (model : Model) (callId : String) : Model :=
  { model with calls := Keyed.erase callId model.calls }

def setRace (model : Model) (chainId : UInt32) (race : ProbeRace) : Model :=
  { model with probes := Keyed.set chainId race model.probes }

def dropRace (model : Model) (chainId : UInt32) : Model :=
  { model with probes := Keyed.erase chainId model.probes }

/-- `if let Some(session) = model.calls.get_mut(call_id)` -/
def changeCall (model : Model) (callId : String) (change : CallSession → CallSession) : Model :=
  match model.call? callId with
  | none => model
  | some session => model.setCall callId (change session)

end Model

inductive RpcCallVerdict where
  | respond (url : String) (maybeDelivered : Bool)
  | rangeCap (url : String) (maxSpan : Float)
  | failed (rateLimited maybeDelivered : Bool)
  | bundlerBase (baseUrl : Option String)
  | bestRpcUrl (url : Option String)

inductive RpcOperation where
  | loadPoolConfig (chainId : UInt32)
  | jsonRpcPost (callId url method : String) (xRpcUrl : Option String) (timeoutMs : Nat)
  | probeChainId (chainId : UInt32) (url : String) (timeoutMs : Nat)
  | drawJitter (callId : String)
  | startBackoff (callId : String) (delayMs : Nat)
  | persistBans (entries : List RpcBanEntry)
  | conclude (callId : String) (verdict : RpcCallVerdict)

inductive RpcShellResult where
  | poolConfig (chainId : UInt32) (rpcEndpoints bundlerEndpoints : List RpcEndpointSeed)
      (nowMs : Float)
  | postOutcome (callId url : String) (outcome : RpcTransportOutcome) (latencyMs nowMs : Float)
  | chainIdProbed (chainId : UInt32) (url : String) (reported : Option UInt32)
      (latencyMs nowMs : Float)
  | jitter (callId : String) (value : Float)
  | backoffElapsed (callId : String) (nowMs : Float)
  | persisted
  | concluded

inductive Event where
  | bansLoaded (entries : List RpcBanEntry)
  | callRequested (callId : String) (chainId : UInt32) (kind : RpcKind) (method : String)
      (nowMs : Float)
  | bundlerBaseRequested (callId : String) (chainId : UInt32) (nowMs : Float)
  | bestRpcUrlRequested (callId : String) (chainId : UInt32) (nowMs : Float)
  | invalidateAll
  | refreshChain (chainId : UInt32)
  | shellCompleted (result : RpcShellResult)

/-- What a handler comes to: the model, and what it asks of the shell. -/
abbrev Turn := Model × List RpcOperation

def bundlerEligibleUrls (model : Model) (chainId : UInt32) (nowMs : Float) : List String :=
  match model.pool? chainId with
  | none => []
  | some pool =>
    (selectUrls (pool.list .rpc) model.banEntries nowMs).filter
      fun candidate => candidate ∉ model.wrongChains chainId

def revalidatedXRpcUrl (model : Model) (callId : String) (chainId : UInt32) (nowMs : Float) :
    Model × Option String :=
  match (model.call? callId).bind CallSession.xRpcUrl with
  -- A header left out on purpose stays out.
  | none => (model, none)
  | some held =>
    let eligible := bundlerEligibleUrls model chainId nowMs
    let next := if held ∈ eligible then some held else eligible.head?
    (model.changeCall callId fun session => { session with xRpcUrl := next }, next)

def hasRpcEndpoints (model : Model) (chainId : UInt32) : Bool :=
  (model.pool? chainId).any fun pool => !pool.rpc.isEmpty

/-- A call is failed: the chain is classified, and the caller told. -/
def failCall (model : Model) (callId : String) (session : CallSession) : Turn :=
  let throttled := session.sawRateLimit && !session.sawUnreached
  let model := model.dropCall callId
  let (model, rateLimited) :=
    match session.kind with
    | .bundler => (model, false)
    | .rpc =>
      if isOptionalMethod session.method then (model, throttled)
      else if !hasRpcEndpoints model session.chainId then (model, false)
      else
        ({ model with
          failedChains := insert session.chainId model.failedChains
          rateLimitedChains :=
            if throttled then insert session.chainId model.rateLimitedChains
            else model.rateLimitedChains.erase session.chainId }, throttled)
  (model, [.conclude callId (.failed rateLimited session.maybeDelivered)])

def concludeFailed (model : Model) (callId : String) : Turn :=
  match model.call? callId with
  | none => (model, [])
  | some session => failCall model callId session

/-- A pass in which nothing on the chain answered, though something was tried. -/
def CallSession.sweptUnreached (session : CallSession) : Bool :=
  session.pass == 0 && session.kind == .rpc && decide (0 < session.firstPassTried) &&
    session.firstPassAllTransport && !session.sawRateLimit && !isOptionalMethod session.method

/-- `next_endpoint`, where the pass is swept clean. -/
def closePass (model : Model) (callId : String) (session : CallSession) : Turn :=
  let model :=
    if session.sweptUnreached then
      { model with unreachedChains := insert session.chainId model.unreachedChains }
    else model
  -- A chain with no node to ask is not swept again.
  if session.kind == .rpc && !hasRpcEndpoints model session.chainId then concludeFailed model callId
  else if session.pass + 1 < maxPasses session.kind then
    (model.setCall callId { session with state := .waitingJitter }, [.drawJitter callId])
  else concludeFailed model callId

def nextEndpoint (model : Model) (callId : String) (nowMs : Float) : Turn :=
  match model.call? callId with
  | none => (model, [])
  | some session =>
    match session.queue with
    | [] => closePass model callId session
    | url :: queue =>
      let model := model.setCall callId { session with queue, state := .waitingPost url }
      match session.kind with
      | .rpc => (model, [.jsonRpcPost callId url session.method none rpcReadTimeoutMs])
      | .bundler =>
        let (model, xRpcUrl) := revalidatedXRpcUrl model callId session.chainId nowMs
        (model, [.jsonRpcPost callId url session.method xRpcUrl bundlerRpcTimeoutMs])

/-- `prune_expired_bans`: the model, and whether a ban went. -/
def pruneExpiredBans (model : Model) (nowMs : Float) : Model × Bool :=
  if model.lastBanPruneMs.all fun last => decide (banPruneIntervalMs ≤ nowMs - last) then
    let kept := model.bans.filter fun entry => isBanActive entry.2 nowMs
    ({ model with lastBanPruneMs := some nowMs, bans := kept },
      kept.length != model.bans.length)
  else (model, false)

/-- `select_with_rescue`: a pool that is banned whole is swept over its bans. -/
def selectWithRescue (model : Model) (chainId : UInt32) (kind : RpcKind) (nowMs : Float) :
    Model × List String :=
  match model.pool? chainId with
  | none => (model, [])
  | some pool =>
    let selected := selectUrls (pool.list kind) model.banEntries nowMs
    if !selected.isEmpty || (pool.list kind).isEmpty then (model, selected)
    else
      let pool := pool.changeList kind fun endpoints =>
        endpoints.map fun endpoint => { endpoint with consecutiveFailures := 0 }
      (model.setPool chainId pool, selectUrls (pool.list kind) [] nowMs)

def startPass (model : Model) (callId : String) (nowMs : Float) : Turn :=
  match model.call? callId with
  | none => (model, [])
  | some session =>
    let (model, pruned) := pruneExpiredBans model nowMs
    let (model, selected) := selectWithRescue model session.chainId session.kind nowMs
    let model := model.changeCall callId fun session =>
      { session with queue := selected, sawRateLimit := false, sawUnreached := false }
    let persists := if pruned then [.persistBans model.banEntries] else []
    let (model, asked) := nextEndpoint model callId nowMs
    (model, persists ++ asked)

def setXAndSweep (model : Model) (callId : String) (xRpcUrl : Option String) (nowMs : Float) :
    Turn :=
  startPass (model.changeCall callId fun session => { session with xRpcUrl }) callId nowMs

/-- The call joins the chain's race, or starts one among the candidates. -/
def joinRace (model : Model) (callId : String) (chainId : UInt32) (ranked : List String) : Turn :=
  match model.race? chainId with
  | some race =>
    ((model.setRace chainId { race with waiters := race.waiters ++ [callId] }).changeCall callId
      fun session => { session with state := .waitingProbe }, [])
  | none =>
    ((model.setRace chainId ⟨ranked.toFinset, [], ∅, ranked, [callId]⟩).changeCall callId
      fun session => { session with state := .waitingProbe },
      ranked.map fun url => .probeChainId chainId url pingTimeoutMs)

def beginBundlerCall (model : Model) (callId : String) (nowMs : Float) : Turn :=
  match model.call? callId with
  | none => (model, [])
  | some session =>
    match bundlerEligibleUrls model session.chainId nowMs with
    | [] => setXAndSweep model callId none nowMs
    | [only] => setXAndSweep model callId (some only) nowMs
    | ranked =>
      match (Keyed.get? session.chainId model.fastest).filter fun pick =>
          decide (nowMs - pick.atMs < fastestRpcTtlMs) && decide (pick.url ∈ ranked) with
      | some pick => setXAndSweep model callId (some pick.url) nowMs
      | none => joinRace model callId session.chainId ranked

/-- The one with the lowest latency, of two the first. -/
def quickest : List (String × Float) → Option (String × Float)
  | [] => none
  | entry :: entries => some (entries.foldl (fun best entry =>
    if best.2 ≤ entry.2 then best else entry) entry)

/-- The winner of a race that is over, among the candidates eligible now. -/
def ProbeRace.winner (race : ProbeRace) (eligible : List String) : Option String :=
  if race.found.isEmpty then
    race.ranked.find? fun candidate =>
      decide (candidate ∉ race.wrongChain) && decide (candidate ∈ eligible)
  else (quickest (race.found.filter fun entry => entry.1 ∈ eligible)).map Prod.fst

def inTurn {Work : Type} (step : Model → Work → Turn) : Model → List Work → Turn
  | model, [] => (model, [])
  | model, work :: works =>
    ((inTurn step (step model work).1 works).1,
      (step model work).2 ++ (inTurn step (step model work).1 works).2)

/-- `handle_probe`, once the race is over. -/
def endRace (model : Model) (chainId : UInt32) (race : ProbeRace) (nowMs : Float) : Turn :=
  let model := model.dropRace chainId
  let winner := race.winner (bundlerEligibleUrls model chainId nowMs)
  let model := match winner with
    | some url =>
      if race.found.isEmpty then model
      else { model with fastest := Keyed.set chainId ⟨url, nowMs⟩ model.fastest }
    | none => model
  inTurn (fun model waiter => setXAndSweep model waiter winner nowMs) model race.waiters

def handleProbe (model : Model) (chainId : UInt32) (url : String) (reported : Option UInt32)
    (latencyMs nowMs : Float) : Turn :=
  match model.race? chainId with
  | none => (model, [])
  | some race =>
    if url ∉ race.outstanding then (model, [])
    else
      let race := { race with outstanding := race.outstanding.erase url }
      let (race, model) := match reported with
        | none => (race, model)
        | some id =>
          if id = chainId then ({ race with found := race.found ++ [(url, latencyMs)] }, model)
          else
            ({ race with wrongChain := insert url race.wrongChain },
              { model with
                wrongChain :=
                  Keyed.set chainId (insert url (model.wrongChains chainId)) model.wrongChain })
      if race.outstanding = ∅ then endRace (model.setRace chainId race) chainId race nowMs
      else (model.setRace chainId race, [])

def answerBundlerBase (model : Model) (callId : String) (chainId : UInt32) (nowMs : Float) : Turn :=
  let best := (model.pool? chainId).bind fun pool =>
    (selectUrls (pool.list .bundler) model.banEntries nowMs).head?
  (model, [.conclude callId (.bundlerBase (best.map (stripChainSuffix · chainId)))])

def answerBestRpcUrl (model : Model) (callId : String) (chainId : UInt32) (nowMs : Float) : Turn :=
  (model, [.conclude callId (.bestRpcUrl (bundlerEligibleUrls model chainId nowMs).head?)])

def startCall (model : Model) (callId : String) (nowMs : Float) : Turn :=
  match model.call? callId with
  | none => (model, [])
  | some session =>
    match session.kind with
    | .rpc => startPass model callId nowMs
    | .bundler => beginBundlerCall model callId nowMs

def startWork (nowMs : Float) (model : Model) : PendingWork → Turn
  | .call callId => startCall model callId nowMs
  | .base callId chainId => answerBundlerBase model callId chainId nowMs
  | .bestRpc callId chainId => answerBestRpcUrl model callId chainId nowMs

def ensurePoolThen (model : Model) (chainId : UInt32) (work : PendingWork) (nowMs : Float) : Turn :=
  let pool := (model.pool? chainId).getD .empty
  if pool.loadedAtMs.any fun loaded => decide (nowMs - loaded < poolRefreshMs) then
    startWork nowMs model work
  else
    (model.setPool chainId { pool with pending := pool.pending ++ [work], loading := true },
      if pool.loading then [] else [.loadPoolConfig chainId])

/-- `stats_mut`: the record of a url in a list, changed. -/
def Model.changeStats (model : Model) (chainId : UInt32) (kind : RpcKind) (url : String)
    (change : RpcEndpointStats → RpcEndpointStats) : Model :=
  match model.pool? chainId with
  | none => model
  | some pool =>
    model.setPool chainId (pool.changeList kind fun endpoints =>
      endpoints.modify (endpoints.findIdx fun endpoint => endpoint.url == url) change)

def touchSuccess (model : Model) (chainId : UInt32) (kind : RpcKind) (url : String)
    (latencyMs : Float) : Model :=
  model.changeStats chainId kind url (recordSuccess latencyMs)

def touchFailure (model : Model) (chainId : UInt32) (kind : RpcKind) (url : String)
    (nowMs : Float) : Model :=
  model.changeStats chainId kind url (recordFailure nowMs)

def banUrl (model : Model) (chainId : UInt32) (kind : RpcKind) (url : String) (nowMs : Float) :
    Model :=
  let stats := (model.pool? chainId).bind fun pool =>
    (pool.list kind).find? fun endpoint => endpoint.url == url
  let permanent := stats.any fun stats =>
    qualifiesForPermaBan stats.totalCalls stats.totalFailures
  { model with bans := Keyed.set url ⟨url, nowMs, permanent⟩ model.bans }

def clearChainFailure (model : Model) (chainId : UInt32) : RpcKind → Model
  | .bundler => model
  | .rpc =>
    { model with
      failedChains := model.failedChains.erase chainId
      rateLimitedChains := model.rateLimitedChains.erase chainId
      unreachedChains := model.unreachedChains.erase chainId }

def conclude (model : Model) (callId : String) (verdict : RpcCallVerdict) : Turn :=
  (model.dropCall callId, [.conclude callId verdict])

/-- What a post's outcome leaves on its call, whichever way it is routed. -/
def CallSession.told (session : CallSession) (outcome : RpcTransportOutcome) : CallSession :=
  { session with
    maybeDelivered := session.maybeDelivered || mayHaveDelivered outcome
    sawUnreached := session.sawUnreached || isTransportFailure outcome
    firstPassTried :=
      if session.pass = 0 then saturatingNext 32 session.firstPassTried
      else session.firstPassTried
    firstPassAllTransport :=
      if session.pass = 0 then session.firstPassAllTransport && isTransportFailure outcome
      else session.firstPassAllTransport }

/-- A rate-limit signal is remembered of an RPC call, for the pass. -/
def CallSession.throttledBy (session : CallSession) (signal : Bool) : CallSession :=
  { session with sawRateLimit := session.sawRateLimit || (session.kind == .rpc && signal) }

variable [CaseTable]

/-- `handle_outcome`, of the post the call waits for. -/
def routeOutcome (model : Model) (callId url : String) (session : CallSession)
    (outcome : RpcTransportOutcome) (latencyMs nowMs : Float) : Turn :=
  let (chainId, kind) := (session.chainId, session.kind)
  let session := session.told outcome
  let model := model.setCall callId session
  let failsOver (signal : Bool) : Model :=
    touchFailure (model.setCall callId (session.throttledBy signal)) chainId kind url nowMs
  match routeOf kind session.method outcome with
  | .success =>
    conclude (clearChainFailure (touchSuccess model chainId kind url latencyMs) chainId kind)
      callId (.respond url session.maybeDelivered)
  | .notServed =>
    conclude (clearChainFailure model chainId kind) callId (.respond url session.maybeDelivered)
  | .rangeCap maxSpan =>
    -- The endpoint is healthy: its limit goes back to the caller.
    conclude (clearChainFailure (touchSuccess model chainId kind url latencyMs) chainId kind)
      callId (.rangeCap url maxSpan)
  | .ban signal =>
    let model := banUrl (failsOver signal) chainId kind url nowMs
    let (next, asked) := nextEndpoint model callId nowMs
    (next, .persistBans model.banEntries :: asked)
  | .transient signal => nextEndpoint (failsOver signal) callId nowMs
  | .rateLimited429 => nextEndpoint (failsOver true) callId nowMs
  | .plainFailure => nextEndpoint (failsOver false) callId nowMs

def handleOutcome (model : Model) (callId url : String) (outcome : RpcTransportOutcome)
    (latencyMs nowMs : Float) : Turn :=
  match model.call? callId with
  | none => (model, [])
  | some session =>
    if session.state = .waitingPost url then
      routeOutcome model callId url session outcome latencyMs nowMs
    else (model, [])

/-- The configuration of `accept`. -/
def acceptConfig (model : Model) (chainId : UInt32)
    (rpcEndpoints bundlerEndpoints : List RpcEndpointSeed) (nowMs : Float) : Turn :=
  match model.pool? chainId with
  | none => (model, [])
  | some pool =>
    if !pool.loading then (model, [])
    else
      inTurn (startWork nowMs)
        (model.setPool chainId {
          rpc := mergeEndpoints pool.rpc rpcEndpoints
          bundler := mergeEndpoints pool.bundler bundlerEndpoints
          loadedAtMs := some nowMs
          loading := false
          pending := [] }) pool.pending

/-- The jitter of `accept`. -/
def acceptJitter (model : Model) (callId : String) (value : Float) : Turn :=
  match model.call? callId with
  | none => (model, [])
  | some session =>
    if session.state = .waitingJitter then
      let (baseMs, capMs) := backoffParams session.kind
      (model.setCall callId { session with state := .waitingBackoff },
        [.startBackoff callId (backoffWithJitterMs session.pass baseMs capMs value)])
    else (model, [])

/-- The backoff of `accept`. -/
def acceptBackoff (model : Model) (callId : String) (nowMs : Float) : Turn :=
  match model.call? callId with
  | none => (model, [])
  | some session =>
    if session.state = .waitingBackoff then
      startPass (model.setCall callId { session with pass := saturatingNext 32 session.pass })
        callId nowMs
    else (model, [])

def accept (model : Model) : RpcShellResult → Turn
  | .poolConfig chainId rpcEndpoints bundlerEndpoints nowMs =>
    acceptConfig model chainId rpcEndpoints bundlerEndpoints nowMs
  | .postOutcome callId url outcome latencyMs nowMs =>
    handleOutcome model callId url outcome latencyMs nowMs
  | .chainIdProbed chainId url reported latencyMs nowMs =>
    handleProbe model chainId url reported latencyMs nowMs
  | .jitter callId value => acceptJitter model callId value
  | .backoffElapsed callId nowMs => acceptBackoff model callId nowMs
  | .persisted | .concluded => (model, [])

/-- `CallRequested`: an id in use is dropped. -/
def callRequested (model : Model) (callId : String) (chainId : UInt32) (kind : RpcKind)
    (method : String) (nowMs : Float) : Turn :=
  if (model.call? callId).isSome then (model, [])
  else
    ensurePoolThen (model.setCall callId (.new chainId kind method)) chainId (.call callId) nowMs

/-- `BansLoaded`: heard once. -/
def loadBans (model : Model) (entries : List RpcBanEntry) : Model :=
  if model.bansLoaded then model
  else
    { model with
      bansLoaded := true
      bans := entries.foldl (fun bans entry => Keyed.set entry.url entry bans) model.bans }

def invalidateAll (model : Model) : Model :=
  { model with
    pools := Keyed.mapValues (fun _ pool => { pool with loadedAtMs := none }) model.pools
    fastest := []
    wrongChain := [] }

def refreshChain (model : Model) (chainId : UInt32) : Turn :=
  let pool := (model.pool? chainId).getD .empty
  ({ model with
      fastest := Keyed.erase chainId model.fastest
      wrongChain := Keyed.erase chainId model.wrongChain
      pools := Keyed.set chainId { pool with loadedAtMs := none, loading := true } model.pools },
    if pool.loading then [] else [.loadPoolConfig chainId])

def update (event : Event) (model : Model) : Turn :=
  match event with
  | .bansLoaded entries => (loadBans model entries, [])
  | .callRequested callId chainId kind method nowMs =>
    callRequested model callId chainId kind method nowMs
  | .bundlerBaseRequested callId chainId nowMs =>
    ensurePoolThen model chainId (.base callId chainId) nowMs
  | .bestRpcUrlRequested callId chainId nowMs =>
    ensurePoolThen model chainId (.bestRpc callId chainId) nowMs
  | .invalidateAll => (invalidateAll model, [])
  | .refreshChain chainId => refreshChain model chainId
  | .shellCompleted result => accept model result

end VelaWallet.RpcPool
