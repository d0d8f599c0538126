import VelaWallet.Send.CallText
import VelaWallet.Send.Plan

/-!
# The operation of a submit

The call data a shell builds of what a submit hands out, and when the check of the
review lets it be signed.
-/

namespace VelaWallet.Send

open FeePolicy
open Utf8 (bytes)
open SignedReview (Review Row Names Shows Encodes Payment check check_ok)

def feeCoin (request : SubmitRequest) : Option String :=
  request.gasFeeToken.or
    (if isTempoChain request.chainId then some tempoDefaultFeeToken else none)

def legAmount (fee : SendQuotedFee) : Except CoreError Nat :=
  match Decimal.parseU128 (bytes fee.amount) with
  | some amount => .ok amount
  | none => .error (.invalidQuantity fee.amount)

/-- The call data of the operation: the calls handed out, and the quoted fee leg
behind them, as one batch. -/
def operationData [RadixErrors] (request : SubmitRequest) : Except CoreError (List UInt8) := do
  let inner ← request.calls.mapM fun call => toMultiSendCall call.target call.value call.data
  match request.quotedFee with
  | none => buildMultiSendExecuteCallData inner
  | some fee =>
    let amount ← legAmount fee
    let calls ← inBandBatch inner (feeCoin request) fee.recipient amount
    buildMultiSendExecuteCallData calls

def isAddress (text : String) : Bool := (parseAddress text).isOk

theorem exists_address {text : String} (named : isAddress text = true) :
    ∃ address, parseAddress text = .ok address := by
  unfold isAddress at named
  cases read : parseAddress text with
  | error => rw [read] at named; cases named
  | ok address => exact ⟨address, rfl⟩

theorem isAddress_of_valid {text : String} (valid : isValidAddress text = true) :
    isAddress text = true := by
  obtain ⟨address, read⟩ := parseAddress_of_valid valid
  rw [isAddress, read]
  rfl

/-- The call encodes a payment the row names. -/
def EncodesRow [RadixErrors] (row : Row) (call : MultiSendCall) : Prop :=
  ∃ payment, Names row payment ∧ encodeMultiSendCall call = .ok payment.record.bytes

section Calls

variable [RadixErrors] {target amountText valueHex : String} {amount : Nat}

section

variable (small : amount < 2 ^ 128)
include small

theorem encodesRow_native (named : isAddress target = true)
    (read : Decimal.fromStrRadix10 (bytes (Utf8.trim amountText)) = some amount) :
    EncodesRow ⟨target, none, amountText⟩ ⟨target, lowerHex amount, []⟩ := by
  have fits : amount < 2 ^ 256 := Nat.lt_trans small (by decide)
  obtain ⟨recipient, found⟩ := exists_address named
  refine ⟨⟨recipient, none, amount, fits⟩, ⟨?_, rfl, read⟩, ?_⟩
  · rw [parseAddress_trim found]
    exact found
  · exact encodeMultiSendCall_read (stripMark_lowerHex amount) fits (by decide) found

theorem encodesRow_token {token : String} {recipient : Address}
    (found : parseAddress target = .ok recipient) (named : isAddress token = true)
    (nothing : stripMark valueHex = hexDigits 0)
    (read : Decimal.fromStrRadix10 (bytes (Utf8.trim amountText)) = some amount) :
    EncodesRow ⟨target, some token, amountText⟩
      ⟨token, valueHex, CallData.transfer recipient amount⟩ := by
  have fits : amount < 2 ^ 256 := Nat.lt_trans small (by decide)
  obtain ⟨contract, tokenFound⟩ := exists_address named
  refine ⟨⟨recipient, some contract, amount, fits⟩, ⟨?_, ?_, read⟩, ?_⟩
  · rw [parseAddress_trim found]
    exact found
  · rw [Option.map_some, parseAddress_trim tokenFound, tokenFound]
    rfl
  · refine encodeMultiSendCall_read nothing (by decide) ?_ tokenFound
    rw [CallData.transfer_length]
    decide

omit [RadixErrors] in
theorem read_toString :
    Decimal.fromStrRadix10 (bytes (Utf8.trim (toString amount))) = some amount := by
  rw [Decimal.trim_toString]
  exact Decimal.fromStrRadix10_toString (Nat.lt_trans small (by decide))

theorem encodesRow_transferCall {token : Option String} {call : FeeCall}
    (written : transferCall token target amount = some call) (named : isAddress target = true)
    (contract : token.all isAddress = true) :
    ∃ made, toMultiSendCall call.target call.value call.data = .ok made ∧
      EncodesRow ⟨target, token, toString amount⟩ made := by
  have read := read_toString small
  cases token with
  | none =>
    cases written
    refine ⟨⟨target, lowerHex amount, []⟩, ?_, encodesRow_native small named read⟩
    rw [toMultiSendCall, Decimal.trim_toString, Decimal.parseU128_toString small]
    rfl
  | some token =>
    obtain ⟨data, encoded, same⟩ := Option.map_eq_some_iff.mp written
    cases same
    obtain ⟨recipient, found, decoded⟩ :=
      fromHex_encodeErc20Transfer (Nat.lt_trans small (by decide)) encoded
    refine ⟨⟨token, lowerHex 0, CallData.transfer recipient amount⟩, ?_,
      encodesRow_token small found contract (stripMark_lowerHex 0) read⟩
    have nothing : Decimal.parseU128 (bytes (Utf8.trim "0")) = some 0 := by decide
    have filled : ¬ (data = "" ∨ data = "0x") := by
      rintro (rfl | rfl)
      · have length := congrArg List.length (Except.ok.inj decoded)
        rw [CallData.transfer_length] at length
        cases length
      · have length := congrArg List.length (Except.ok.inj decoded)
        rw [CallData.transfer_length] at length
        cases length
    rw [toMultiSendCall, nothing]
    simp only [filled, if_false, decoded]
    rfl

theorem encodesRow_feeLeg {coin : Option String}
    (named : isAddress target = true) (contract : coin.all isAddress = true)
    (read : Decimal.fromStrRadix10 (bytes (Utf8.trim amountText)) = some amount) :
    ∃ leg, buildInBandFeeLeg coin target amount = .ok leg ∧
      EncodesRow ⟨target, coin, amountText⟩ leg := by
  cases coin with
  | none => exact ⟨_, rfl, encodesRow_native small named read⟩
  | some token =>
    obtain ⟨recipient, found⟩ := exists_address named
    refine ⟨⟨token, "0", CallData.transfer recipient amount⟩, ?_,
      encodesRow_token small found contract (by decide) read⟩
    unfold buildInBandFeeLeg encodeErc20Transfer
    rw [functionSelector_eq, abiEncodeAddress_eq, found]
    have written : selectorOf transferSignature ++ recipient.word ++ wordU128 amount =
        CallData.transfer recipient amount := by
      rw [CallData.transfer, wordU128_eq small, List.append_assoc]
    rw [← written]
    rfl

end

end Calls

section Batch

variable [RadixErrors]

theorem exists_batch {rows : List Row} {calls : List MultiSendCall}
    (encode : List.Forall₂ EncodesRow rows calls) :
    ∃ payments data, List.Forall₂ Names rows payments ∧
      buildMultiSendExecuteCallData calls = .ok data ∧
      (data.length < 2 ^ 63 → Encodes data (payments.map Payment.record)) := by
  have parts : ∃ payments : List Payment, List.Forall₂ Names rows payments ∧
      List.Forall₂ (fun call record => encodeMultiSendCall call = .ok record.bytes) calls
        (payments.map Payment.record) := by
    induction encode with
    | nil => exact ⟨[], .nil, .nil⟩
    | cons head _ ih =>
      obtain ⟨payment, names, written⟩ := head
      obtain ⟨payments, named, meant⟩ := ih
      exact ⟨payment :: payments, .cons names named, .cons written meant⟩
  obtain ⟨payments, named, meant⟩ := parts
  have encoded : calls.mapM encodeMultiSendCall = .ok ((payments.map Payment.record).map (·.bytes)) := by
    rw [Fallible.mapM_ok, List.forall₂_map_right_iff]
    exact meant
  obtain ⟨data, built⟩ : ∃ data, buildMultiSendExecuteCallData calls = .ok data := by
    unfold buildMultiSendExecuteCallData
    rw [encoded, functionSelector_eq, functionSelector_eq, abiEncodeAddress_eq,
      parseAddress_multiSend]
    exact ⟨_, rfl⟩
  refine ⟨payments, data, named, built, ?_⟩
  intro short
  refine ⟨?_, Or.inr (buildMultiSendExecuteCallData_ok meant built short)⟩
  intro record member
  obtain ⟨payment, _, rfl⟩ := List.mem_map.mp member
  exact payment.record_operation

/-- The call is written for the payment of a review's row, of one base unit or
more. -/
def PaidBy (transfer : SignedReview.ReviewedTransfer) (call : FeeCall) : Prop :=
  ∃ units, 1 ≤ units ∧ units < 2 ^ 128 ∧ transfer.amount = toString units ∧
    transferCall transfer.token transfer.target units = some call

/-- The fee leg of the review is the quoted one, in the coin it is paid in. -/
def FeeReviewed (request : SubmitRequest) : Prop :=
  request.review.fee = request.quotedFee.map fun fee =>
    ⟨fee.recipient, feeCoin request, fee.amount⟩

/-- The account, the payees and the tokens of what is handed out are addresses. -/
structure Addressed (request : SubmitRequest) : Prop where
  account : isAddress request.account = true
  payees : ∀ transfer ∈ request.review.transfers, isAddress transfer.target = true
  tokens : ∀ transfer ∈ request.review.transfers, transfer.token.all isAddress = true
  fee : ∀ fee, request.quotedFee = some fee →
    isAddress fee.recipient = true ∧ (feeCoin request).all isAddress = true

/-- The operation built of what is handed out passes the check of its review. -/
def PassesReview (request : SubmitRequest) : Prop :=
  ∃ data, operationData request = .ok data ∧
    ∀ op : UserOperation, op.sender = request.account → op.callData.bytes = data →
      check op request.chainId.toUInt64 request.review = .ok ()

theorem exists_inner {transfers : List SignedReview.ReviewedTransfer} {calls : List FeeCall}
    (paid : List.Forall₂ PaidBy transfers calls)
    (payees : ∀ transfer ∈ transfers, isAddress transfer.target = true)
    (tokens : ∀ transfer ∈ transfers, transfer.token.all isAddress = true) :
    ∃ inner, (calls.mapM fun call => toMultiSendCall call.target call.value call.data) = .ok inner ∧
      List.Forall₂ EncodesRow (transfers.map fun transfer =>
        ⟨transfer.target, transfer.token, transfer.amount⟩) inner := by
  induction paid with
  | nil => exact ⟨[], rfl, .nil⟩
  | @cons transfer call transfers calls head _ ih =>
    obtain ⟨units, _, small, amount, written⟩ := head
    obtain ⟨made, read, encodes⟩ := encodesRow_transferCall small written
      (payees transfer List.mem_cons_self) (tokens transfer List.mem_cons_self)
    obtain ⟨inner, all_read, rest⟩ := ih
      (fun other member => payees other (List.mem_cons_of_mem _ member))
      (fun other member => tokens other (List.mem_cons_of_mem _ member))
    rw [← amount] at encodes
    refine ⟨made :: inner, ?_, .cons encodes rest⟩
    rw [List.mapM_cons, read, all_read]
    rfl

theorem passesReview {request : SubmitRequest} (addressed : Addressed request)
    (chain : request.review.chainId = request.chainId)
    (account : request.review.account = request.account)
    (paid : List.Forall₂ PaidBy request.review.transfers request.calls)
    (reviewed : FeeReviewed request)
    (amounts : ∀ fee, request.quotedFee = some fee →
      ∃ amount, amount < 2 ^ 128 ∧ fee.amount = toString amount) : PassesReview request := by
  obtain ⟨inner, read, rows⟩ := exists_inner paid addressed.payees addressed.tokens
  have batch : ∃ payments data, Shows request.review payments ∧ operationData request = .ok data ∧
      (data.length < 2 ^ 63 → Encodes data (payments.map Payment.record)) := by
    unfold Shows SignedReview.Review.rows operationData
    rw [reviewed, read]
    cases quoted : request.quotedFee with
    | none =>
      obtain ⟨payments, data, named, built, encodes⟩ := exists_batch rows
      refine ⟨payments, data, ?_, built, encodes⟩
      rw [Option.map_none, Option.toList_none, List.map_nil, List.append_nil]
      exact named
    | some fee =>
      obtain ⟨amount, small, written⟩ := amounts fee quoted
      obtain ⟨payee, coin⟩ := addressed.fee fee quoted
      obtain ⟨leg, made, encodes⟩ := @encodesRow_feeLeg _ fee.recipient fee.amount amount
        small (feeCoin request) payee coin (written.symm ▸ read_toString small)
      obtain ⟨payments, data, named, built, encoded⟩ :=
        exists_batch (List.rel_append rows (.cons encodes .nil))
      refine ⟨payments, data, named, ?_, encoded⟩
      have amount_read : legAmount fee = .ok amount := by
        rw [legAmount, written, Decimal.parseU128_toString small]
      show (do
        let amount ← legAmount fee
        let calls ← inBandBatch inner (feeCoin request) fee.recipient amount
        buildMultiSendExecuteCallData calls) = _
      rw [amount_read]
      show (do
        let calls ← inBandBatch inner (feeCoin request) fee.recipient amount
        buildMultiSendExecuteCallData calls) = _
      rw [inBandBatch, made]
      exact built
  obtain ⟨payments, data, shows, built, encodes⟩ := batch
  refine ⟨data, built, ?_⟩
  intro op sender bytes
  obtain ⟨own, found⟩ := exists_address addressed.account
  apply check_ok.mpr
  refine ⟨by rw [chain], ⟨own, ?_, ?_⟩, payments, shows, ?_⟩
  · rw [sender, parseAddress_trim found]
    exact found
  · rw [account, parseAddress_trim found]
    exact found
  · rw [bytes]
    exact encodes (bytes ▸ op.callData.length_lt)

end Batch

end VelaWallet.Send
