import VelaWallet.Base.Json
import VelaWallet.Codec.Primitives
import VelaWallet.Signer.Address

/-!
# Looking up a wallet's name

The name registered for a wallet, found by its address: the founding key from the chain, then
the units that key founded and their metadata, from the index or from the registry contract
itself (`registry_lookup.rs`).
-/

namespace VelaWallet.RegistryLookup

open TrustedSigner (isAsciiHexdigit)
open Utf8 (CaseTable toLowercase trim)

inductive LookupRequest where
  | ethCall (id : String) (chainId : Nat) (contract : String) (data : String)
  | indexGet (id : String) (path : String)
  deriving DecidableEq

def LookupRequest.id : LookupRequest → String
  | ethCall id _ _ _ | indexGet id _ => id

inductive LookupOutcome where
  | ok
  | notFound
  | failed
  deriving DecidableEq

structure LookupAnswer where
  id : String
  outcome : LookupOutcome
  body : Option String
  deriving DecidableEq

/-- `LookupRemember`: how long a verdict may be kept. -/
inductive LookupRemember where
  | forever
  | briefly
  | no
  deriving DecidableEq

structure WalletName where
  name : String
  publicKey : String
  deriving DecidableEq

inductive LookupStep where
  | ask (requests : List LookupRequest)
  | done (found : Option WalletName) (remember : LookupRemember)
  deriving DecidableEq

def answer (answers : List LookupAnswer) (id : String) : Option LookupAnswer :=
  answers.find? (·.id == id)

/-! ## What is read -/

structure RegistryMetadata where
  version : Nat
  address : String
  walletVersion : String
  keyNames : List String
  createdAtIso : String

/-- The values of a contract call. -/
inductive DynSolValue where
  | bool (value : Bool)
  | uint (value : Nat)
  | fixedBytes (value : List UInt8)
  | bytes (value : List UInt8)
  | string (value : String)
  | array (values : List DynSolValue)
  | tuple (values : List DynSolValue)

def DynSolValue.asArray : DynSolValue → Option (List DynSolValue)
  | .array values => some values
  | _ => none

def DynSolValue.asTuple : DynSolValue → Option (List DynSolValue)
  | .tuple values => some values
  | _ => none

def DynSolValue.asUint : DynSolValue → Option Nat
  | .uint value => some value
  | _ => none

def DynSolValue.asBytes : DynSolValue → Option (List UInt8)
  | .bytes value => some value
  | _ => none

/-- The typed JSON readers and the contract codec of the libraries: a key's profile as the unit
ids it lists, a unit as the metadata it holds. -/
class LookupRuntime extends CaseTable where
  keyProfile : String → Option (Option (List Json.Value))
  unitResponse : String → Option String
  metadataFromSlice : List UInt8 → Option RegistryMetadata
  encodeParams : List DynSolValue → List UInt8
  decodeParams : String → List UInt8 → Option (List DynSolValue)

def getConfiguration : String := "getConfiguration(address)"

def homeChain : Nat := 100

def otherChains : List Nat := [8453, 56, 42161, 10, 137, 1]

def maxUnits : Nat := 8

def backupChain : Nat := 1

def webauthnSigner : String := "0x94a4F6affBd8975951142c3999aEAB7ecee555c2"

def registry : String := "0x94fD1A891EB6c5F340622Baf2F3A0cb70A941EA9"

def sigGroupsOfKey : String := "getGroupsOfKey(bytes,uint256,uint256,bool)"

def sigGetUnit : String := "getUnit(uint256)"

def unitTuple : String := "(string,bytes,bytes,bytes32,uint32,uint256)"

/-- `is_askable`: the zero address is no wallet. -/
def isAskable (address : String) : Bool :=
  match address.toList with
  | '0' :: 'x' :: hex => hex.length == 40 && hex.all isAsciiHexdigit && hex.any (· != '0')
  | _ => false

def cfgId (chain : Nat) : String := "cfg:" ++ toString chain

def configurationRequest (addressLower : String) (chainId : Nat) : LookupRequest :=
  let selector := match functionSelector getConfiguration with
    | .ok selector => toHex selector true
    | .error _ => ""
  let hex := addressLower.toList.drop 2
  let padded := List.replicate (64 - hex.length) '0' ++ hex
  .ethCall (cfgId chainId) chainId webauthnSigner (selector ++ String.ofList padded)

/-- `Configured`: what one chain said. -/
inductive Configured where
  | key (publicKey : String)
  | notHere
  | unknown
  deriving DecidableEq

/-- A body's text without its mark. -/
def unmarked (body : String) : List Char :=
  match body.toList with
  | '0' :: 'x' :: hex => hex
  | text => text

def readConfiguration [CaseTable] (answer : LookupAnswer) : Configured :=
  if answer.outcome ≠ .ok then .unknown
  else
    match answer.body with
    | none => .unknown
    | some body =>
      let hex := unmarked body
      if !hex.all isAsciiHexdigit then .unknown
      else if hex.length < 128 then .notHere
      else
        let x := hex.take 64
        let y := (hex.drop 64).take 64
        if x.all (· == '0') || y.all (· == '0') then .notHere
        else .key (toLowercase (String.ofList ("04".toList ++ x ++ y)))

/-- `Source`: who can say which units a key founded. -/
inductive Source where
  | index
  | chain (chainId : Nat)
  deriving DecidableEq

/-- `SOURCES`, in the order they are asked. -/
def sources : List Source := [.index, .chain homeChain, .chain backupChain]

inductive UnitSays where
  | named (name : String)
  | notThisWallet
  | silent

def Source.id (source : Source) (base : String) : String :=
  match source with
  | .index => base
  | .chain chainId => base ++ "@" ++ toString chainId

def Source.unitKey (source : Source) (unitId : Nat) : String :=
  source.id ("unit:" ++ toString unitId)

def returned (answer : LookupAnswer) : Option (List UInt8) :=
  if answer.outcome ≠ .ok then none
  else
    match answer.body with
    | none => none
    | some body => (fromHex body).toOption

def publicKeyBytes (publicKeyHex : String) : Option (List UInt8) :=
  match fromHex publicKeyHex with
  | .error _ => none
  | .ok bytes =>
    if bytes.length = 65 ∧ bytes.head? = some 0x04 then some bytes
    else if bytes.length = 64 then some (0x04 :: bytes)
    else none

section Sources

variable [LookupRuntime]

def callData (signature : String) (args : List DynSolValue) : Option String :=
  match functionSelector signature with
  | .error _ => none
  | .ok selector => some (toHex (selector ++ LookupRuntime.encodeParams args) true)

def Source.keyRequest (source : Source) (id publicKey : String) : LookupRequest :=
  match source with
  | .index => .indexGet id ("/api/query?publicKey=" ++ publicKey)
  | .chain chainId =>
    let key := (publicKeyBytes publicKey).getD []
    .ethCall id chainId registry
      ((callData sigGroupsOfKey [.bytes key, .uint 0, .uint maxUnits, .bool true]).getD "")

def Source.unitRequest (source : Source) (id : String) (unitId : Nat) : LookupRequest :=
  match source with
  | .index => .indexGet id ("/api/query?unitId=" ++ toString unitId ++ "&pageSize=1")
  | .chain chainId => .ethCall id chainId registry ((callData sigGetUnit [.uint unitId]).getD "")

def asU64 : Json.Value → Option Nat
  | .number (.posInt value) => some value.toNat
  | _ => none

/-- `Source::unit_ids`: the units a key founded, newest first. -/
def Source.unitIds (source : Source) (answer : LookupAnswer) : Option (List Nat) :=
  match source with
  | .index =>
    match answer.outcome with
    | .failed => none
    | .notFound => some []
    | .ok => do
        let body ← answer.body
        let groups ← LookupRuntime.keyProfile body
        return (groups.getD []).filterMap asU64
  | .chain _ => do
      let bytes ← returned answer
      if bytes.isEmpty then none
      else
        let values ← LookupRuntime.decodeParams "(uint256,uint256[])" bytes
        let second ← values[1]?
        let ids ← second.asArray
        return ids.filterMap fun id => id.asUint.filter (· < 2 ^ 64)

def decodeHex (metadataHex : String) : Option RegistryMetadata :=
  match fromHex metadataHex with
  | .error _ => none
  | .ok bytes => LookupRuntime.metadataFromSlice bytes

def nameInMetadata (metadataHex addressLower : String) : Option String := do
  let metadata ← decodeHex metadataHex
  if toLowercase metadata.address ≠ addressLower then none
  else
    let first ← metadata.keyNames.head?
    let name := trim first
    if name ≠ "" then some name else none

def nameInUnit (body addressLower : String) : Option String := do
  let metadata ← LookupRuntime.unitResponse body
  nameInMetadata metadata addressLower

/-- `registry_backup::unit_from`, of which the metadata is read. -/
def unitFrom (value : DynSolValue) : Option (List UInt8) := do
  let fields ← value.asTuple
  let metadata ← (← fields[1]?).asBytes
  let _ ← (← fields[2]?).asBytes
  return metadata

def UnitSays.ofName : Option String → UnitSays
  | some name => .named name
  | none => .notThisWallet

def Source.nameIn (source : Source) (answer : LookupAnswer) (addressLower : String) : UnitSays :=
  match source with
  | .index =>
    match answer.outcome with
    | .failed => .silent
    | .notFound => .notThisWallet
    | .ok => .ofName (answer.body.bind (nameInUnit · addressLower))
  | .chain _ =>
    match (returned answer).filter (! ·.isEmpty) with
    | none => .silent
    | some bytes =>
      let unit := do
        let values ← LookupRuntime.decodeParams ("(" ++ unitTuple ++ ")") bytes
        unitFrom (← values.head?)
      match unit with
      | none => .silent
      | some metadata => .ofName (nameInMetadata (toHex metadata false) addressLower)

/-- What the first hop comes to. -/
inductive KeyWalk where
  | key (publicKey : String)
  | ask (requests : List LookupRequest)
  | nobody
  | unanswered

/-- The founding key among what the chains said. -/
def Configured.key? : Configured → Option String
  | .key publicKey => some publicKey
  | _ => none

/-- The first hop of `step`: the founding key, from the chain. -/
def foundingKey (address : String) (answers : List LookupAnswer) : KeyWalk :=
  match answer answers (cfgId homeChain) with
  | none => .ask [configurationRequest address homeChain]
  | some home =>
    match readConfiguration home with
    | .key publicKey => .key publicKey
    | homeSaid =>
      let missing := otherChains.filter fun chain => (answer answers (cfgId chain)).isNone
      if missing ≠ [] then .ask (missing.map (configurationRequest address))
      else
        let said := otherChains.map fun chain =>
          ((answer answers (cfgId chain)).map readConfiguration).getD .unknown
        match said.findSome? Configured.key? with
        | some publicKey => .key publicKey
        | none =>
          if homeSaid ≠ .unknown ∧ Configured.unknown ∉ said then .nobody else .unanswered

/-- What one source's units come to. -/
inductive UnitWalk where
  | ask (request : LookupRequest)
  | silent
  | named (name : String)
  | nobody

/-- The units of a source, newest first, one at a time. -/
def walkUnits (source : Source) (address : String) (answers : List LookupAnswer) :
    List Nat → UnitWalk
  | [] => .nobody
  | unitId :: rest =>
    match answer answers (source.unitKey unitId) with
    | none => .ask (source.unitRequest (source.unitKey unitId) unitId)
    | some unit =>
      match source.nameIn unit address with
      | .silent => .silent
      | .notThisWallet => walkUnits source address answers rest
      | .named name => .named name

/-- The second and third hops of `step`, from the first source that answers. -/
def walkSources (address publicKey : String) (answers : List LookupAnswer) :
    List Source → LookupStep
  | [] => .done none .no
  | source :: rest =>
    match answer answers (source.id "key") with
    | none => .ask [source.keyRequest (source.id "key") publicKey]
    | some profile =>
      match source.unitIds profile with
      | none => walkSources address publicKey answers rest
      | some listed =>
        match walkUnits source address answers (listed.take maxUnits) with
        | .ask request => .ask [request]
        | .silent => walkSources address publicKey answers rest
        | .named name => .done (some ⟨name, publicKey⟩) .forever
        | .nobody => .done none (if source = .chain backupChain then .no else .briefly)

def step (address : String) (answers : List LookupAnswer) : LookupStep :=
  if !isAskable address then .done none .no
  else
    let address := toLowercase address
    match foundingKey address answers with
    | .ask requests => .ask requests
    | .nobody => .done none .briefly
    | .unanswered => .done none .no
    | .key publicKey => walkSources address publicKey answers sources

end Sources

end VelaWallet.RegistryLookup
