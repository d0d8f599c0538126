import VelaWallet.Codec.CallData

/-!
# The address of a Safe

The counterfactual account of one or several passkeys, as `safe.rs` assembles it:
the setup calldata, the salt over the keys in their canonical order, and the
CREATE2 address behind both.
-/

namespace VelaWallet

open Utf8 (ofAscii)

structure P256PublicKey where
  x : List UInt8
  y : List UInt8
  deriving DecidableEq

structure SafeAddressInfo where
  address : String
  saltNonce : List UInt8
  setupData : List UInt8
  initCodeHash : List UInt8

/-- `u8::to_ascii_uppercase`. -/
def asciiUpper (byte : UInt8) : UInt8 :=
  if 97 ≤ byte.toNat ∧ byte.toNat ≤ 122 then byte - 32 else byte

/-- The digits of a checksummed address: a letter is raised where the digest of
the lower-case digits has an eight or more. -/
def checksumDigits (address : Address) : List UInt8 :=
  let digits := Hex.spell address.bytes
  List.zipWith (fun digit mark => if 56 ≤ mark.toNat then asciiUpper digit else digit) digits
    (Hex.spell (Keccak.keccak256 digits))

/-- `Address::to_checksum`, with no chain id. -/
def toChecksum (address : Address) : String := ofAscii (hexMark ++ checksumDigits address)

/-- The string behind a CREATE2 address. -/
def create2Input (deployer : Address) (salt initCodeHash : List UInt8) : List UInt8 :=
  0xff :: deployer.bytes ++ salt ++ initCodeHash

def Address.create2 (deployer : Address) (salt initCodeHash : List UInt8) : Address where
  bytes := (Keccak.keccak256 (create2Input deployer salt initCodeHash)).drop 12
  length_eq := by simp

def create2Address (deployerHex : String) (salt initCodeHash : List UInt8) :
    Except CoreError String := do
  let deployer ← parseAddress deployerHex
  if salt.length ≠ 32 then
    .error (.invalidAddress ("salt must be 32 bytes, got " ++ toString salt.length))
  else if initCodeHash.length ≠ 32 then
    .error (.invalidAddress
      ("init_code_hash must be 32 bytes, got " ++ toString initCodeHash.length))
  else
    return toChecksum (deployer.create2 salt initCodeHash)

def abiEncodeBytes32 (data : List UInt8) : Except CoreError (List UInt8) :=
  if 32 < data.length then
    .error (.invalidHex ("bytes32 data too long: " ++ toString data.length ++ " bytes (max 32)"))
  else .ok (data ++ List.replicate (32 - data.length) 0)

namespace Safe

def safeProxyFactory : String := "0x4e1DCf7AD4e460CfD30791CCC4F9c8a4f820ec67"

def safeSingleton : String := "0x29fcB43b46531BcA003ddC8FCB67FFE91900C762"

def safeModuleSetup : String := "0x2dd68b007B46fBe91B9A7c3EDa5A7a1063cB5b47"

def webauthnSigner : String := "0x94a4F6affBd8975951142c3999aEAB7ecee555c2"

def webauthnSignerFactory : String := "0x1d31F259eE307358a26dFb23EB365939E8641195"

def webauthnSignerSingleton : String := "0x4E27b51350e6c2083EE19011120F50DAfEc5CA50"

def zeroAddress : String := "0x0000000000000000000000000000000000000000"

def maxMultiKeys : Nat := 7

/-- `WEBAUTHN_VERIFIERS_HEX`: the RIP-7212 precompile. -/
def webauthnVerifiersHex : String := "100"

@[irreducible] def webauthnSignerProxyCreationCode : String :=
  "610100346100ad57601f6101b538819003918201601f19168301916001600160401b038311848410176100b2578084926080946040528339810103126100ad578051906001600160a01b03821682036100ad5760208101516040820151606090920151926001600160b01b03841684036100ad5760805260a05260c05260e05260405160ec90816100c98239608051816082015260a05181604d015260c051816027015260e0518160010152f35b600080fd5b634e487b7160e01b600052604160045260246000fdfe7f000000000000000000000000000000000000000000000000000000000000000060b63601527f000000000000000000000000000000000000000000000000000000000000000060a03601527f000000000000000000000000000000000000000000000000000000000000000036608001523660006080376000806056360160807f00000000000000000000000000000000000000000000000000000000000000005af43d600060803e60b1573d6080fd5b3d6080f3fea26469706673582212201660515548d15702d720bbc046b457ca85e941a4559ab9f9518488e4c82e5ee964736f6c634300081a0033"

@[irreducible] def proxyCreationCode : String :=
  "608060405234801561001057600080fd5b506040516101e63803806101e68339818101604052602081101561003357600080fd5b8101908080519060200190929190505050600073ffffffffffffffffffffffffffffffffffffffff168173ffffffffffffffffffffffffffffffffffffffff1614156100ca576040517f08c379a00000000000000000000000000000000000000000000000000000000081526004018080602001828103825260228152602001806101c46022913960400191505060405180910390fd5b806000806101000a81548173ffffffffffffffffffffffffffffffffffffffff021916908373ffffffffffffffffffffffffffffffffffffffff1602179055505060ab806101196000396000f3fe608060405273ffffffffffffffffffffffffffffffffffffffff600054167fa619486e0000000000000000000000000000000000000000000000000000000060003514156050578060005260206000f35b3660008037600080366000845af43d6000803e60008114156070573d6000fd5b3d6000f3fea264697066735822122003d1488ee65e08fa41e58e888a9865554c535f2c77126a82cb4c0f917f31441364736f6c63430007060033496e76616c69642073696e676c65746f6e20616464726573732070726f7669646564"

variable [RadixErrors]

def encodeMultisendTx (target : String) (data : List UInt8) (operation : UInt8) :
    Except CoreError (List UInt8) := do
  let address ← parseAddress target
  let length ← abiEncodeUint256 (hexDigits data.length)
  return [operation] ++ address.bytes ++ List.replicate 32 0 ++ length ++ data

def requireCoords (x y : List UInt8) : Except CoreError Unit :=
  Fallible.require (x.length = 32 ∧ y.length = 32)
    (.invalidPublicKey ("coordinates must be 32 bytes each, got " ++ toString x.length ++ "/" ++
      toString y.length))

def computeWebauthnSignerAddress (x y : List UInt8) : Except CoreError String := do
  requireCoords x y
  let code ← (fromHex webauthnSignerProxyCreationCode).mapError fun _ =>
    .internal "WEBAUTHN_SIGNER_PROXY_CREATION_CODE not hex"
  let singleton ← abiEncodeAddress webauthnSignerSingleton
  let xWord ← abiEncodeBytes32 x
  let yWord ← abiEncodeBytes32 y
  let verifiers ← abiEncodeUint256 webauthnVerifiersHex
  create2Address webauthnSignerFactory (List.replicate 32 0)
    (Keccak.keccak256 (code ++ singleton ++ xWord ++ yWord ++ verifiers))

/-- A call that takes a key and the verifiers word. -/
def keyCall (signature : String) (x y : List UInt8) : Except CoreError (List UInt8) := do
  let selector ← functionSelector signature
  let xWord ← abiEncodeBytes32 x
  let yWord ← abiEncodeBytes32 y
  let verifiers ← abiEncodeUint256 webauthnVerifiersHex
  return selector ++ xWord ++ yWord ++ verifiers

def enableModules : Except CoreError (List UInt8) := do
  let selector ← functionSelector "enableModules(address[])"
  let offset ← abiEncodeUint256 "0x20"
  let count ← abiEncodeUint256 "0x1"
  let moduleWord ← abiEncodeAddress safe4337Module
  return selector ++ offset ++ count ++ moduleWord

/-- One turn of the loop over the extra keys: the key's owner and the call that
deploys its signer, a plain CALL. -/
def extraSigner (key : P256PublicKey) : Except CoreError (String × List UInt8) := do
  let owner ← computeWebauthnSignerAddress key.x key.y
  let createSigner ← keyCall "createSigner(uint256,uint256,uint176)" key.x key.y
  let call ← encodeMultisendTx webauthnSignerFactory createSigner 0
  return (owner, call)

/-- `multiSend(packed)`. -/
def multiSendData (packed : List UInt8) : Except CoreError (List UInt8) := do
  let selector ← functionSelector "multiSend(bytes)"
  let offset ← abiEncodeUint256 "0x20"
  let length ← abiEncodeUint256 (hexDigits packed.length)
  return selector ++ offset ++ length ++ packed ++
    List.replicate (Bytes.wordPadding packed.length) 0

def encodeSetupData (x y : List UInt8) (extraKeys : List P256PublicKey) :
    Except CoreError (List UInt8) := do
  let modules ← enableModules
  let configure ← keyCall "configure((uint256,uint256,uint176))" x y
  let setupCall ← encodeMultisendTx safeModuleSetup modules 1
  let configureCall ← encodeMultisendTx webauthnSigner configure 1
  let extras ← extraKeys.mapM extraSigner
  let sendData ← multiSendData (setupCall ++ configureCall ++ extras.flatMap Prod.snd)
  let ownerCount := 1 + extras.length
  let selector ← functionSelector
    "setup(address[],uint256,address,bytes,address,address,uint256,address)"
  let ownersOffset ← abiEncodeUint256 "0x100"
  let threshold ← abiEncodeUint256 "0x1"
  let setupTarget ← abiEncodeAddress multiSend
  let dataOffset ← abiEncodeUint256 (hexDigits (0x120 + ownerCount * 0x20))
  let fallbackHandler ← abiEncodeAddress safe4337Module
  let paymentToken ← abiEncodeAddress zeroAddress
  let payment ← abiEncodeUint256 "0x0"
  let paymentReceiver ← abiEncodeAddress zeroAddress
  let ownersLength ← abiEncodeUint256 (hexDigits ownerCount)
  let signer ← abiEncodeAddress webauthnSigner
  let owners ← extras.mapM fun extra => abiEncodeAddress extra.1
  let dataLength ← abiEncodeUint256 (hexDigits sendData.length)
  return selector ++ ownersOffset ++ threshold ++ setupTarget ++ dataOffset ++ fallbackHandler ++
    paymentToken ++ payment ++ paymentReceiver ++ ownersLength ++ signer ++ owners.flatten ++
    dataLength ++ sendData ++ List.replicate (Bytes.wordPadding sendData.length) 0

/-- The string behind a Safe's CREATE2 salt. -/
def saltInput (saltNonce setupData : List UInt8) : List UInt8 :=
  Keccak.keccak256 setupData ++ saltNonce

def assembleSafeAddress (saltNonce setupData : List UInt8) : Except CoreError SafeAddressInfo := do
  let code ← (fromHex proxyCreationCode).mapError fun _ => .internal "PROXY_CREATION_CODE not hex"
  let singleton ← abiEncodeAddress safeSingleton
  let initCodeHash := Keccak.keccak256 (code ++ singleton)
  let address ← create2Address safeProxyFactory (Keccak.keccak256 (saltInput saltNonce setupData))
    initCodeHash
  return { address, saltNonce, setupData, initCodeHash }

def keyWords (key : P256PublicKey) : Except CoreError (List UInt8) := do
  let xWord ← abiEncodeBytes32 key.x
  let yWord ← abiEncodeBytes32 key.y
  return xWord ++ yWord

def computeSafeAddress (x y : List UInt8) : Except CoreError SafeAddressInfo := do
  requireCoords x y
  let xy ← keyWords ⟨x, y⟩
  let setupData ← encodeSetupData x y []
  assembleSafeAddress (Keccak.keccak256 xy) setupData

/-- The order of the later keys: by `x`, then by `y`. -/
def keyOrder (left right : P256PublicKey) : Ordering :=
  (compare left.x right.x).then (compare left.y right.y)

/-- The later keys in their canonical order. -/
def sortKeys (keys : List P256PublicKey) : List P256PublicKey :=
  keys.mergeSort fun left right => (keyOrder left right).isLE

/-- Two neighbours of a row are the same key. -/
def repeatsNeighbour : List P256PublicKey → Bool
  | first :: second :: rest =>
    (first.x == second.x && first.y == second.y) || repeatsNeighbour (second :: rest)
  | _ => false

def computeSafeAddressMulti (keys : List P256PublicKey) : Except CoreError SafeAddressInfo :=
  if maxMultiKeys < keys.length then
    .error (.invalidPublicKey ("at most " ++ toString maxMultiKeys ++ " keys per wallet, got " ++
      toString keys.length))
  else
    match keys with
    | [] => .error (.invalidPublicKey "at least one key required")
    | first :: rest => do
        let _ ← (first :: rest).mapM fun key => requireCoords key.x key.y
        let sorted := sortKeys rest
        if repeatsNeighbour sorted ||
            sorted.any (fun key => key.x == first.x && key.y == first.y) then
          .error (.invalidPublicKey "duplicate public key in owner set")
        else
          let allXy ← (first :: sorted).mapM keyWords
          let setupData ← encodeSetupData first.x first.y sorted
          assembleSafeAddress (Keccak.keccak256 allXy.flatten) setupData

end Safe

end VelaWallet
