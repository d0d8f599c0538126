import Mathlib.Algebra.Group.Nat.Defs
import Mathlib.Data.List.Sort
import VelaWallet.Base.Chars
import VelaWallet.Base.Keyed
import VelaWallet.Rpc.Classify

/-!
# The endpoints of a pool

An endpoint's record and its score, the bans, the choice among endpoints, and what a pool keeps
when its configuration is read again (`rpc_pool.rs`).
-/

namespace VelaWallet.RpcPool

def poolRefreshMs : Float := 600000
def tempBanTtlMs : Float := 3600000
def permaBanTtlMs : Float := 86400000
def permaBanMinFailures : Nat := 6
def banPruneIntervalMs : Float := 300000
def maxRpcAttempts : Nat := 3
def maxBundlerAttempts : Nat := 2
def rpcReadTimeoutMs : Nat := 8000
def bundlerRpcTimeoutMs : Nat := 15000
def pingTimeoutMs : Nat := 3000
def fastestRpcTtlMs : Float := 3600000

inductive RpcSource where
  | user
  | provider
  | default
  | «public»
  | builtin
  | fallback
  deriving DecidableEq

def sourcePriority : RpcSource → Float
  | .user => 10000
  | .provider => 9000
  | .default => 1000
  | .«public» => 500
  | .builtin => 100
  | .fallback => 10

structure RpcEndpointSeed where
  url : String
  source : RpcSource

structure RpcBanEntry where
  url : String
  bannedAtMs : Float
  permanent : Bool

def isBanActive (entry : RpcBanEntry) (nowMs : Float) : Bool :=
  decide (nowMs - entry.bannedAtMs < if entry.permanent then permaBanTtlMs else tempBanTtlMs)

structure RpcEndpointStats where
  url : String
  source : RpcSource
  avgLatencyMs : Float
  consecutiveFailures : Nat
  lastFailureAtMs : Float
  totalCalls : Nat
  totalFailures : Nat

def RpcEndpointStats.new (url : String) (source : RpcSource) : RpcEndpointStats :=
  ⟨url, source, 0, 0, 0, 0, 0⟩

/-- `saturating_add(1)` of a counter of the given width. -/
def saturatingNext (width value : Nat) : Nat := min (value + 1) (2 ^ width - 1)

def recordSuccess (latencyMs : Float) (stats : RpcEndpointStats) : RpcEndpointStats :=
  { stats with
    totalCalls := saturatingNext 64 stats.totalCalls
    consecutiveFailures := 0
    avgLatencyMs :=
      if stats.avgLatencyMs == 0 then latencyMs
      else stats.avgLatencyMs * 0.7 + latencyMs * 0.3 }

def recordFailure (nowMs : Float) (stats : RpcEndpointStats) : RpcEndpointStats :=
  { stats with
    totalCalls := saturatingNext 64 stats.totalCalls
    totalFailures := saturatingNext 64 stats.totalFailures
    consecutiveFailures := saturatingNext 32 stats.consecutiveFailures
    lastFailureAtMs := nowMs }

def qualifiesForPermaBan (totalCalls totalFailures : Nat) : Bool :=
  totalCalls - totalFailures == 0 && decide (permaBanMinFailures ≤ totalFailures)

/-- `cooldown_ms`: a power of two of 30 s, at most 300 s. -/
def cooldownMs : Nat → Float
  | 0 => 0
  | failures + 1 => Float.ofNat (min (30000 * 2 ^ failures) 300000)

/-- `f64::min`, of values that are numbers. -/
def smaller (left right : Float) : Float := if right < left then right else left

def endpointScore (stats : RpcEndpointStats) (nowMs : Float) : Float :=
  let latency := if stats.avgLatencyMs.isFinite then stats.avgLatencyMs else 0
  let score := sourcePriority stats.source
  let score := if 200 < latency then score - smaller ((latency - 200) / 10) 200 else score
  let score := score + Float.ofNat (min (stats.totalCalls - stats.totalFailures) 50)
  if stats.consecutiveFailures = 0 then score
  else if nowMs - stats.lastFailureAtMs < cooldownMs stats.consecutiveFailures then score - 50000
  else score - Float.ofNat stats.consecutiveFailures * 200

/-- The place of a double in the order of `f64::total_cmp`. -/
def totalPlace (value : Float) : Int :=
  let bits := value.toBits.toNat
  if bits < 2 ^ 63 then bits else -1 - ((bits - 2 ^ 63 : Nat) : Int)

def isBanned (bans : List RpcBanEntry) (nowMs : Float) (url : String) : Bool :=
  bans.any fun ban => ban.url == url && isBanActive ban nowMs

/-- `select_urls`: the urls with no ban in force, the best score first, and equal scores in the
order they were collected. -/
def selectUrls (endpoints : List RpcEndpointStats) (bans : List RpcBanEntry) (nowMs : Float) :
    List String :=
  ((endpoints.filter fun endpoint => !isBanned bans nowMs endpoint.url).insertionSort
    fun left right => totalPlace (endpointScore right nowMs) ≤
      totalPlace (endpointScore left nowMs)).map RpcEndpointStats.url

def urls (endpoints : List RpcEndpointStats) : List String := endpoints.map RpcEndpointStats.url

theorem selectUrls_perm (endpoints : List RpcEndpointStats) (bans : List RpcBanEntry)
    (nowMs : Float) :
    (selectUrls endpoints bans nowMs).Perm
      ((urls endpoints).filter fun url => !isBanned bans nowMs url) := by
  rw [urls, List.filter_map]
  exact (List.perm_insertionSort _ _).map _

@[simp] theorem mem_selectUrls {endpoints : List RpcEndpointStats} {bans : List RpcBanEntry}
    {nowMs : Float} {url : String} :
    url ∈ selectUrls endpoints bans nowMs ↔
      url ∈ urls endpoints ∧ isBanned bans nowMs url = false := by
  rw [(selectUrls_perm endpoints bans nowMs).mem_iff, List.mem_filter, Bool.not_eq_true']

theorem selectUrls_nodup {endpoints : List RpcEndpointStats} (distinct : (urls endpoints).Nodup)
    (bans : List RpcBanEntry) (nowMs : Float) : (selectUrls endpoints bans nowMs).Nodup :=
  (selectUrls_perm endpoints bans nowMs).nodup_iff.mpr (distinct.filter _)

def isDeadRpcHost (url : String) : Bool :=
  let rest := ((Chars.splitOnce "://".toList url.toList).map Prod.snd).getD url.toList
  let authority := rest.takeWhile fun letter => !(['/', '?', '#'].contains letter)
  let host := ((Chars.rsplitOnce '@' authority).map Prod.snd).getD authority
  let host := Chars.lower (host.takeWhile (· != ':'))
  ["1rpc.io".toList].any fun dead => host == dead || ('.' :: dead).isSuffixOf host

/-- The seed is on a dead host, and nobody chose it. -/
def isDropped (seed : RpcEndpointSeed) : Bool :=
  seed.source != .user && seed.source != .provider && isDeadRpcHost seed.url

def withoutDeadHosts (seeds : List RpcEndpointSeed) : List RpcEndpointSeed :=
  if seeds.all fun seed => seed.url == "" || isDropped seed then seeds
  else seeds.filter fun seed => !isDropped seed

def firstSeeds : List String → List RpcEndpointSeed → List RpcEndpointSeed
  | _, [] => []
  | seen, seed :: seeds =>
    if seed.url = "" ∨ seed.url ∈ seen then firstSeeds seen seeds
    else seed :: firstSeeds (seed.url :: seen) seeds

/-- The record of a url among `existing`; the last of two. -/
def recordOf (existing : List RpcEndpointStats) (url : String) : Option RpcEndpointStats :=
  existing.reverse.find? fun stats => stats.url == url

/-- `merge_endpoints`: a url that stays keeps its record, under its new source. -/
def mergeEndpoints (existing : List RpcEndpointStats) (seeds : List RpcEndpointSeed) :
    List RpcEndpointStats :=
  (firstSeeds [] (withoutDeadHosts seeds)).map fun seed =>
    match recordOf existing seed.url with
    | some stats => { stats with source := seed.source }
    | none => .new seed.url seed.source

theorem firstSeeds_urls (seen : List String) (seeds : List RpcEndpointSeed) :
    ((firstSeeds seen seeds).map RpcEndpointSeed.url).Nodup ∧
      ∀ seed ∈ firstSeeds seen seeds, seed.url ∉ seen := by
  induction seeds generalizing seen with
  | nil => exact ⟨List.nodup_nil, nofun⟩
  | cons seed _ ih =>
    unfold firstSeeds
    split
    case isTrue => exact ih seen
    case isFalse fresh =>
      have ⟨distinct, apart⟩ := ih (seed.url :: seen)
      constructor
      · rw [List.map_cons, List.nodup_cons]
        refine ⟨?_, distinct⟩
        intro member
        have ⟨other, inside, same⟩ := List.mem_map.mp member
        exact apart other inside (same ▸ List.mem_cons_self)
      · intro other member
        rcases List.mem_cons.mp member with first | inside
        · rw [first]
          exact fun known => fresh (Or.inr known)
        · exact fun known => apart other inside (List.mem_cons_of_mem _ known)

theorem recordOf_url {existing : List RpcEndpointStats} {url : String} {stats : RpcEndpointStats}
    (found : recordOf existing url = some stats) : stats.url = url := by
  rw [recordOf] at found
  exact beq_iff_eq.mp (List.find?_some found :)

theorem urls_mergeEndpoints (existing : List RpcEndpointStats) (seeds : List RpcEndpointSeed) :
    urls (mergeEndpoints existing seeds) =
      (firstSeeds [] (withoutDeadHosts seeds)).map RpcEndpointSeed.url := by
  rw [urls, mergeEndpoints, List.map_map]
  apply List.map_congr_left
  intro seed _
  simp only [Function.comp_apply]
  split
  · next stats found =>
      have same : stats.url = seed.url := recordOf_url found
      exact same
  · rfl

theorem mergeEndpoints_nodup (existing : List RpcEndpointStats) (seeds : List RpcEndpointSeed) :
    (urls (mergeEndpoints existing seeds)).Nodup := by
  rw [urls_mergeEndpoints]
  exact (firstSeeds_urls [] _).1

def backoffWithJitterMs (attempt baseMs capMs : Nat) (random01 : Float) : Nat :=
  let ceiling := Float.ofNat (min capMs (baseMs * 2 ^ attempt))
  let random :=
    if random01.isFinite then
      if random01 < 0 then 0 else if 1 < random01 then 1 else random01
    else 0
  let delay := Floating.floor (random * ceiling)
  if delay.isFinite ∧ 0 < delay then min delay.toUInt64.toNat (2 ^ 32 - 1) else 0

def backoffParams : RpcKind → Nat × Nat
  | .rpc => (300, 1500)
  | .bundler => (1000, 1000)

def maxPasses : RpcKind → Nat
  | .rpc => maxRpcAttempts
  | .bundler => maxBundlerAttempts

def stripChainSuffix (url : String) (chainId : UInt32) : String :=
  let mark := '/' :: (toString chainId.toNat).toList
  let text := url.toList
  if (mark ++ ['/']).isSuffixOf text then
    String.ofList (text.take (text.length - (mark.length + 1)))
  else if mark.isSuffixOf text then String.ofList (text.take (text.length - mark.length))
  else url

end VelaWallet.RpcPool
