import VelaWallet.Wallet.SafeAddress

/-!
# Init code and signers

The factory call that deploys a founding key set, and the verifier a signature names
(`user_op.rs`).
-/

namespace VelaWallet

open Utf8 (bytes stripPrefix toAsciiLowercase)

/-- `WalletKey`: one founding key of a wallet. -/
structure WalletKey where
  credentialId : String
  publicKeyHex : String

/-- The bytes of `04`, the tag of an uncompressed point. -/
def pointTag : List UInt8 := [48, 52]

def parsePublicKey (hex : String) : Except CoreError P256PublicKey :=
  let clean := stripPrefix pointTag (stripPrefix hexMark (bytes hex))
  if clean.length ≠ 128 then
    .error (.invalidPublicKey ("expected 128 hex chars of x‖y, got " ++ toString clean.length))
  else
    match fromHexBytes clean with
    | .error _ => .error (.invalidPublicKey "not valid hex")
    | .ok data => .ok ⟨data.take 32, data.drop 32⟩

namespace Safe

/-- The signature the proxy factory is called by. -/
def createProxySignature : String := "createProxyWithNonce(address,bytes,uint256)"

def assembleInitCode (setupData saltNonce : List UInt8) : Except CoreError (List UInt8) := do
  let selector ← functionSelector createProxySignature
  let singleton ← abiEncodeAddress safeSingleton
  let nonce ← abiEncodeBytes32 saltNonce
  let factory ← parseAddress safeProxyFactory
  return factory.bytes ++ (selector ++ singleton ++ wordU128 96 ++ nonce ++
    wordUsize setupData.length ++ setupData ++ padToWord setupData.length)

variable [RadixErrors]

/-- The wallet of a founding key set: a lone key takes the single-key path. -/
def foundingWallet (publicKeyHexes : List String) : Except CoreError SafeAddressInfo :=
  match publicKeyHexes with
  | [] => .error (.invalidPublicKey "a wallet has at least one founding key")
  | [only] => do
      let key ← parsePublicKey only
      computeSafeAddress key.x key.y
  | many => do
      let keys ← many.mapM parsePublicKey
      computeSafeAddressMulti keys

def buildInitCodeForKeys (publicKeyHexes : List String) : Except CoreError (List UInt8) := do
  let info ← foundingWallet publicKeyHexes
  assembleInitCode info.setupData info.saltNonce

/-- `normalize`: a credential id without its mark, in lower case. -/
def normalizeCredential (id : String) : List UInt8 :=
  toAsciiLowercase (stripPrefix hexMark (bytes id))

def signerAddressFor (keys : List WalletKey) (credentialId : Option String) :
    Except CoreError String :=
  if keys.length ≤ 1 then .ok webauthnSigner
  else
    match credentialId with
    | none => .ok webauthnSigner
    | some credentialId =>
      let wanted := normalizeCredential credentialId
      match keys.findFinIdx? fun key => normalizeCredential key.credentialId == wanted with
      | none => .error (.invalidSignature "signing credential does not belong to this wallet")
      | some index =>
        if index.val = 0 then .ok webauthnSigner
        else do
          let key ← parsePublicKey keys[index].publicKeyHex
          computeWebauthnSignerAddress key.x key.y

end Safe

end VelaWallet
