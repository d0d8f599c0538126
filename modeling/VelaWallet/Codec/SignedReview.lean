import VelaWallet.Base.Abi
import VelaWallet.Codec.UserOp

/-!
# The signed review

The review a person confirmed, and the decoder that reads the calls of an
operation back out of its call data before the operation is hashed
(`signed_review.rs`).
-/

namespace VelaWallet.SignedReview

open Utf8 (bytes)
open Bytes (slice? beNat)
open Fallible (require orFail)

structure ReviewedTransfer where
  target : String
  token : Option String
  amount : String
  deriving DecidableEq

structure ReviewedFee where
  recipient : String
  token : Option String
  amount : String
  deriving DecidableEq

/-- The review the person confirmed. -/
structure Review where
  chainId : UInt32
  account : String
  transfers : List ReviewedTransfer
  fee : Option ReviewedFee
  deriving DecidableEq

/-- A transfer as it is compared. -/
structure Leg where
  target : String
  token : Option String
  amount : Nat
  deriving DecidableEq

/-- `Display` of a leg. -/
def Leg.show (leg : Leg) : String :=
  match leg.token with
  | none => toString leg.amount ++ " native to " ++ leg.target
  | some token => toString leg.amount ++ " of " ++ token ++ " to " ++ leg.target

/-- `address`: the lower-case spelling of an address text. -/
def address (value : String) : Except CoreError String := do
  let parsed ← parseAddress (Utf8.trim value)
  return toHex parsed.bytes true

def amount [RadixErrors] (value : String) : Except CoreError Nat :=
  let digits := bytes (Utf8.trim value)
  orFail (Decimal.fromStrRadix10 digits)
    (.invalidQuantity ("`" ++ value ++ "`: " ++ RadixErrors.describe digits 10))

def leg [RadixErrors] (target : String) (token : Option String) (value : String) :
    Except CoreError Leg := do
  let target ← address target
  let token ← token.mapM address
  let amount ← amount value
  return ⟨target, token, amount⟩

/-- `legs`: the transfers in order, then the fee. -/
def Review.legs [RadixErrors] (review : Review) : Except CoreError (List Leg) := do
  let legs ← review.transfers.mapM fun transfer => leg transfer.target transfer.token transfer.amount
  match review.fee with
  | some fee => do
      let feeLeg ← leg fee.recipient fee.token fee.amount
      return legs ++ [feeLeg]
  | none => return legs

/-- One call the operation makes, decoded. -/
structure Call where
  target : String
  value : Nat
  data : List UInt8

def decodeError (why : String) : CoreError :=
  .abiDecode ("not an operation this wallet builds: " ++ why)

def word (input : List UInt8) (start : Nat) : Except CoreError (List UInt8) :=
  orFail (slice? input start 32) (decodeError "cut short")

def wordAddress (input : List UInt8) (start : Nat) : Except CoreError String := do
  let word ← word input start
  require (∀ byte ∈ word.take 12, byte = 0) (decodeError "an address word with high bytes set")
  return toHex (word.drop 12) true

/-- `word_small`: a word that fits the machine's `usize`. -/
def wordSmall (input : List UInt8) (start : Nat) : Except CoreError Nat := do
  let word ← word input start
  require (beNat word < 2 ^ 64) (decodeError "a length out of range")
  return beNat word

/-- `tail`: the data at `start`, zero padding to the word, and nothing after it. -/
def tail (input : List UInt8) (start length : Nat) : Except CoreError (List UInt8) := do
  require (start + length < 2 ^ 64) (decodeError "a length out of range")
  let data ← orFail (slice? input start length) (decodeError "data cut short")
  require (input.length = start + length + Bytes.wordPadding length ∧
    ∀ byte ∈ input.drop (start + length), byte = 0) (decodeError "bytes after the data")
  return data

/-- `execute_user_op`: the target, value, data and operation. -/
def executeUserOp (callData : List UInt8) :
    Except CoreError (String × Nat × List UInt8 × UInt8) := do
  let selector ← functionSelector executeUserOpSignature
  require (slice? callData 0 4 = some selector) (decodeError "not executeUserOp")
  let body := callData.drop 4
  let target ← wordAddress body 0
  let value ← word body 32
  let offset ← wordSmall body 64
  require (offset = 128) (decodeError "data not where executeUserOp puts it")
  let operation ← wordSmall body 96
  require (operation ≤ 1) (decodeError "an operation that is neither CALL nor DELEGATECALL")
  let length ← wordSmall body 128
  let data ← tail body 160 length
  return (target, beNat value, data, UInt8.ofNat operation)

/-- The loop of `multi_send` over the rest of the packed bytes; every round takes
at least 85 of them, so `rounds` bounds them. -/
def packedCalls : (rounds : Nat) → List UInt8 → Except CoreError (List Call)
  | 0, _ => .ok []
  | rounds + 1, packed =>
    if packed.isEmpty then .ok []
    else do
      let head ← orFail (slice? packed 0 85) (decodeError "a packed call cut short")
      require (head.headD 0 = 0) (decodeError "a DELEGATECALL inside the batch")
      let length := beNat ((head.drop 53).take 32)
      require (length < 2 ^ 64) (decodeError "a length out of range")
      let data ← orFail (slice? packed 85 length) (decodeError "a packed call's data cut short")
      let rest ← packedCalls rounds (packed.drop (85 + length))
      return ⟨toHex ((head.drop 1).take 20) true, beNat ((head.drop 21).take 32), data⟩ :: rest

def multiSend (payload : List UInt8) : Except CoreError (List Call) := do
  let selector ← functionSelector multiSendSignature
  require (slice? payload 0 4 = some selector) (decodeError "a DELEGATECALL that is not multiSend")
  let body := payload.drop 4
  let offset ← wordSmall body 0
  require (offset = 32) (decodeError "multiSend's bytes not where it puts them")
  let length ← wordSmall body 32
  let packed ← tail body 64 length
  packedCalls packed.length packed

/-- `calls`: every call the operation makes. -/
def calls (callData : List UInt8) : Except CoreError (List Call) := do
  let (target, value, data, operation) ← executeUserOp callData
  if operation = 0 then return [⟨target, value, data⟩]
  else do
    let contract ← address Safe.multiSend
    require (target = contract ∧ value = 0)
      (decodeError "a DELEGATECALL to something other than MultiSend")
    multiSend data

/-- `as_leg`: a call as a transfer. -/
def asLeg (call : Call) : Except CoreError Leg :=
  if call.data.isEmpty then .ok ⟨call.target, none, call.value⟩
  else do
    let transfer ← functionSelector transferSignature
    if call.data.length = 68 ∧ call.data.take 4 = transfer ∧ call.value = 0 then do
      let target ← wordAddress call.data 4
      let amount ← word call.data 36
      return ⟨target, some call.target, beNat amount⟩
    else .error (.internal ("the operation makes a call the review did not show: to " ++
      call.target ++ ", data " ++ toHex (call.data.take 4) true))

/-- The first place where two lists of legs differ, from call number `index` on. -/
def firstDifference (index : Nat) : List (Leg × Leg) → Except String Unit
  | [] => .ok ()
  | (made, shown) :: rest =>
    if made = shown then firstDifference (index + 1) rest
    else .error ("call " ++ toString index ++ ": " ++ made.show ++ ", the review showed " ++
      shown.show)

def broken (why : String) : CoreError := .internal ("not the reviewed transfer: " ++ why)

def check [RadixErrors] (op : UserOperation) (chainId : UInt64) (review : Review) :
    Except CoreError Unit := do
  require (review.chainId.toUInt64 = chainId)
    (broken ("chain " ++ toString chainId ++ ", reviewed on " ++ toString review.chainId))
  let sender ← address op.sender
  let account ← address review.account
  require (sender = account)
    (broken ("sent from " ++ op.sender ++ ", reviewed from " ++ review.account))
  let made ← (← calls op.callData.bytes).mapM asLeg
  let shown ← review.legs
  require (made.length = shown.length)
    (broken (toString made.length ++ " calls, the review showed " ++ toString shown.length))
  match firstDifference 1 (made.zip shown) with
  | .ok () => return ()
  | .error why => throw (broken why)

def reviewedSafeOpHash [RadixErrors] (op : UserOperation) (chainId : UInt64) (review : Review) :
    Except CoreError (List UInt8) := do
  check op chainId review
  calculateSafeOpHash op chainId

end VelaWallet.SignedReview
