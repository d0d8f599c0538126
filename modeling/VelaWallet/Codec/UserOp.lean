import VelaWallet.Base.Decimal
import VelaWallet.Codec.Primitives

/-!
# User operations

The call codec between a request and the operation that is signed
(`user_op.rs`): decimal base units and hex data onto a MultiSend call, and the
two call-data shapes an operation is built in.
-/

namespace VelaWallet

open Utf8 (bytes ofAscii stripPrefix)

/-- One sub-call of a MultiSend batch; `valueHex` is hex with an optional `0x`,
empty meaning zero. -/
structure MultiSendCall where
  target : String
  valueHex : String
  data : List UInt8
  deriving DecidableEq

/-- `format!("0x{value:x}")`. -/
def lowerHex (value : Nat) : String := "0x" ++ String.ofList (Nat.toDigits 16 value)

def toMultiSendCall (target value data : String) : Except CoreError MultiSendCall :=
  match Decimal.parseU128 (bytes (Utf8.trim value)) with
  | none => .error (.invalidQuantity
      ("call value is not a base-unit integer: `" ++ value ++ "`"))
  | some parsed =>
    if data = "" ∨ data = "0x" then .ok ⟨target, lowerHex parsed, []⟩
    else (fromHex data).map fun decoded => ⟨target, lowerHex parsed, decoded⟩

/-- What `to_multi_send_call` keeps: the target as written and the decoded
data. -/
theorem toMultiSendCall_ok {target value data : String} {call : MultiSendCall}
    (accepted : toMultiSendCall target value data = .ok call) :
    call.target = target ∧ fromHex data = .ok call.data := by
  unfold toMultiSendCall at accepted
  split at accepted
  · cases accepted
  · split at accepted
    case isTrue blank =>
      cases accepted
      refine ⟨rfl, ?_⟩
      rcases blank with rfl | rfl <;> rfl
    case isFalse =>
      cases read : fromHex data with
      | error => rw [read] at accepted; cases accepted
      | ok =>
        rw [read] at accepted
        cases accepted
        exact ⟨rfl, rfl⟩

def wordU128 (value : Nat) : List UInt8 := List.replicate 16 0 ++ Bytes.beBytes 16 value

def wordUsize (value : Nat) : List UInt8 := wordU128 value

def padToWord (length : Nat) : List UInt8 := List.replicate (Bytes.wordPadding length) 0

/-- The signature `executeUserOp` is called by. -/
def executeUserOpSignature : String := "executeUserOp(address,uint256,bytes,uint8)"

/-- The signature `multiSend` is called by. -/
def multiSendSignature : String := "multiSend(bytes)"

/-- The signature a token's `transfer` is called by. -/
def transferSignature : String := "transfer(address,uint256)"

def encodeErc20Transfer (target : String) (amount : Nat) : Except CoreError (List UInt8) := do
  let selector ← functionSelector transferSignature
  let address ← abiEncodeAddress target
  return selector ++ address ++ wordU128 amount

/-- `build_execute_call_data`: a lone CALL. -/
def buildExecuteCallData [RadixErrors] (target valueHex : String) (data : List UInt8) :
    Except CoreError (List UInt8) := do
  let selector ← functionSelector executeUserOpSignature
  let address ← abiEncodeAddress target
  let value ← abiEncodeUint256 valueHex
  return selector ++ address ++ value ++ wordU128 128 ++ wordU128 0 ++ wordUsize data.length ++
    data ++ padToWord data.length

/-- `str::strip_prefix("0x")`, on the text itself. -/
def stripMark (text : String) : String :=
  match text.toList with
  | '0' :: 'x' :: rest => String.ofList rest
  | _ => text

/-- `encode_multi_send_call`: one packed record, always a CALL. -/
def encodeMultiSendCall [RadixErrors] (call : MultiSendCall) : Except CoreError (List UInt8) := do
  let value := stripMark call.valueHex
  let value := if value = "" then "0" else value
  let target ← parseAddress call.target
  let word ← abiEncodeUint256 value
  return [0] ++ target.bytes ++ word ++ wordUsize call.data.length ++ call.data

/-- `build_multi_send_execute_call_data`: a DELEGATECALL of the MultiSend
contract. -/
def buildMultiSendExecuteCallData [RadixErrors] (calls : List MultiSendCall) :
    Except CoreError (List UInt8) := do
  let packed := (← calls.mapM encodeMultiSendCall).flatten
  let multiSelector ← functionSelector multiSendSignature
  let payload := multiSelector ++ wordU128 32 ++ wordUsize packed.length ++ packed ++
    padToWord packed.length
  let selector ← functionSelector executeUserOpSignature
  let address ← abiEncodeAddress Safe.multiSend
  return selector ++ address ++ wordU128 0 ++ wordU128 128 ++ wordU128 1 ++
    wordUsize payload.length ++ payload ++ padToWord payload.length

/-- `build_native_call_data`: a lone call stays single unless told otherwise. -/
def buildNativeCallData [RadixErrors] (calls : List MultiSendCall) (alwaysMultiSend : Bool) :
    Except CoreError (List UInt8) :=
  match calls, alwaysMultiSend with
  | [only], false => buildExecuteCallData only.target only.valueHex only.data
  | _, _ => buildMultiSendExecuteCallData calls

def buildInBandFeeLeg (gasFeeToken : Option String) (recipient : String) (amount : Nat) :
    Except CoreError MultiSendCall :=
  match gasFeeToken with
  | some token => do
      let data ← encodeErc20Transfer recipient amount
      return ⟨token, "0", data⟩
  | none => .ok ⟨recipient, lowerHex amount, []⟩

/-- `in_band_batch`: the person's calls and the fee leg behind them. -/
def inBandBatch (inner : List MultiSendCall) (gasFeeToken : Option String) (recipient : String)
    (amount : Nat) : Except CoreError (List MultiSendCall) := do
  let leg ← buildInBandFeeLeg gasFeeToken recipient amount
  return inner ++ [leg]

/-- A byte vector held in memory. -/
structure ByteVec where
  bytes : List UInt8
  length_lt : bytes.length < 2 ^ 63

theorem ByteVec.nil_lt : ([] : List UInt8).length < 2 ^ 63 := by decide

structure UserOperation where
  sender : String
  nonce : String
  initCode : ByteVec
  callData : ByteVec
  verificationGasLimit : Nat
  callGasLimit : Nat
  preVerificationGas : Nat
  maxFeePerGas : Nat
  maxPriorityFeePerGas : Nat
  paymasterAndData : ByteVec

def safeOpType : String :=
  "SafeOp(address safe,uint256 nonce,bytes initCode,bytes callData," ++
    "uint128 verificationGasLimit,uint128 callGasLimit,uint256 preVerificationGas," ++
    "uint128 maxPriorityFeePerGas,uint128 maxFeePerGas,bytes paymasterAndData," ++
    "uint48 validAfter,uint48 validUntil,address entryPoint)"

def domainType : String := "EIP712Domain(uint256 chainId,address verifyingContract)"

def domainSeparator (chainId : UInt64) (verifyingContract : String) :
    Except CoreError (List UInt8) := do
  let address ← abiEncodeAddress verifyingContract
  return Keccak.keccak256
    (Keccak.keccak256 (bytes domainType) ++ wordU128 chainId.toNat ++ address)

def eip712Digest (separator structHash : List UInt8) : List UInt8 :=
  Keccak.keccak256 ([0x19, 0x01] ++ separator ++ structHash)

def calculateSafeOpHash [RadixErrors] (op : UserOperation) (chainId : UInt64) :
    Except CoreError (List UInt8) := do
  let sender ← abiEncodeAddress op.sender
  let nonce ← abiEncodeUint256 op.nonce
  let entryPoint ← abiEncodeAddress Safe.entryPoint
  let preimage := Keccak.keccak256 (bytes safeOpType) ++ sender ++ nonce ++
    Keccak.keccak256 op.initCode.bytes ++ Keccak.keccak256 op.callData.bytes ++
    wordU128 op.verificationGasLimit ++ wordU128 op.callGasLimit ++
    wordU128 op.preVerificationGas ++ wordU128 op.maxPriorityFeePerGas ++
    wordU128 op.maxFeePerGas ++ Keccak.keccak256 op.paymasterAndData.bytes ++ wordU128 0 ++
    wordU128 0 ++ entryPoint
  let separator ← domainSeparator chainId Safe.safe4337Module
  return eip712Digest separator (Keccak.keccak256 preimage)

end VelaWallet
