import VelaWallet.Codec.CallRoundTrip

/-!
# The fee leg of a draft

The operation whose gas is estimated carries a placeholder in its fee leg, and the operation that is
signed carries the settled fee (`user_op.rs`).  The two are the same operation around the recipient
and the amount of that leg.
-/

namespace VelaWallet

open Fallible (bind_ok pure_ok)

/-! ## Drafts -/

structure GasEstimate where
  verificationGasLimit : Nat
  callGasLimit : Nat
  preVerificationGas : Nat
  settlementGas : Option Nat

structure GasLimits where
  verificationGasLimit : Nat
  callGasLimit : Nat
  preVerificationGas : Nat

def verificationGasDeployed : Nat := 300000

def verificationGasUndeployed : Nat := 2000000

def tempoVerificationGasUndeployed : Nat := 6000000

def undeployedCallGasFloor : Nat := 100000

/-- `PRE_VERIFICATION_GAS` -/
def preVerificationGasDefault : Nat := 100000

/-- `CALL_GAS_LIMIT` -/
def callGasLimitDefault : Nat := 200000

/-- The largest `u128`. -/
def gasMax : Nat := 2 ^ 128 - 1

def halfAgain (limit : Nat) : Nat := if limit * 15 ≤ gasMax then limit * 15 / 10 else gasMax

def inBandGasLimits (estimate : GasEstimate) (deployed : Bool) (innerFloor : Option Nat) :
    GasLimits where
  verificationGasLimit :=
    if !deployed && estimate.settlementGas.isNone then
      max estimate.verificationGasLimit verificationGasUndeployed
    else estimate.verificationGasLimit
  callGasLimit :=
    max (max estimate.callGasLimit (if deployed then 0 else undeployedCallGasFloor))
      (innerFloor.getD 0)
  preVerificationGas := estimate.preVerificationGas

def tempoGasLimits (estimate : GasEstimate) (verificationFloor callFloor : Nat) : GasLimits where
  verificationGasLimit := max (halfAgain estimate.verificationGasLimit) verificationFloor
  callGasLimit := max (halfAgain estimate.callGasLimit) callFloor
  preVerificationGas := min (estimate.preVerificationGas + 10000) gasMax

inductive LimitsRule where
  | inBand (deployed : Bool)
  | tempo

structure GasFloors where
  verification : Nat
  call : Nat
  rule : LimitsRule

namespace GasFloors

def inBand (deployed : Bool) : GasFloors :=
  ⟨if deployed then verificationGasDeployed else verificationGasUndeployed, callGasLimitDefault,
    .inBand deployed⟩

def tempo (deployed : Bool) (callFloor : Nat) : GasFloors :=
  ⟨if deployed then verificationGasDeployed else tempoVerificationGasUndeployed, callFloor, .tempo⟩

def limits (floors : GasFloors) (estimate : GasEstimate) : GasLimits :=
  match floors.rule with
  | .inBand deployed => inBandGasLimits estimate deployed none
  | .tempo => tempoGasLimits estimate floors.verification floors.call

end GasFloors

/-- A vector of the given bytes; one that no memory holds is never made. -/
def ByteVec.of (bytes : List UInt8) : Except CoreError ByteVec :=
  if fits : bytes.length < 2 ^ 63 then .ok ⟨bytes, fits⟩
  else .error (.internal "capacity overflow")

def tempoBatch (inner : List MultiSendCall) (feeToken collector : String) (reimbursement : Nat) :
    Except CoreError (List MultiSendCall) := do
  let data ← encodeErc20Transfer collector reimbursement
  return inner ++ [⟨feeToken, "0", data⟩]

section Drafts

variable [RadixErrors]

/-- `draft_operation`, without the dummy signature. -/
def draftOperation (sender nonce : String) (initCode : ByteVec) (calls : List MultiSendCall)
    (floors : GasFloors) : Except CoreError UserOperation := do
  let callData ← ByteVec.of (← buildMultiSendExecuteCallData calls)
  return {
    sender, nonce, initCode, callData
    verificationGasLimit := floors.verification
    callGasLimit := floors.call
    preVerificationGas := preVerificationGasDefault
    maxFeePerGas := 0
    maxPriorityFeePerGas := 0
    paymasterAndData := ⟨[], ByteVec.nil_lt⟩
  }

def applyEstimate (op : UserOperation) (estimate : GasEstimate) (floors : GasFloors) :
    UserOperation :=
  let limits := floors.limits estimate
  { op with
    verificationGasLimit := limits.verificationGasLimit
    callGasLimit := limits.callGasLimit
    preVerificationGas := limits.preVerificationGas }

def replaceCalls (op : UserOperation) (calls : List MultiSendCall) :
    Except CoreError UserOperation := do
  let callData ← ByteVec.of (← buildMultiSendExecuteCallData calls)
  return { op with callData }

/-- What stands before the packed calls of a batch. -/
def batchHead (length : Nat) : List UInt8 :=
  selectorOf executeUserOpSignature ++ multiSendContract.word ++ wordU128 0 ++ wordU128 128 ++
    wordU128 1 ++ wordUsize (68 + length + Bytes.wordPadding length) ++
    selectorOf multiSendSignature ++ wordU128 32 ++ wordUsize length

/-- What stands behind them. -/
def batchTail (length : Nat) : List UInt8 :=
  padToWord length ++ padToWord (68 + length + Bytes.wordPadding length)

theorem buildMultiSendExecuteCallData_iff {calls : List MultiSendCall} {callData : List UInt8} :
    buildMultiSendExecuteCallData calls = .ok callData ↔
      ∃ encoded, calls.mapM encodeMultiSendCall = .ok encoded ∧
        callData = batchHead encoded.flatten.length ++ encoded.flatten ++
          batchTail encoded.flatten.length := by
  unfold buildMultiSendExecuteCallData
  rw [bind_ok]
  apply exists_congr
  intro encoded
  apply and_congr_right
  intro _
  have payload : (selectorOf multiSendSignature ++ wordU128 32 ++
      wordUsize encoded.flatten.length ++ encoded.flatten ++
      padToWord encoded.flatten.length).length =
        68 + encoded.flatten.length + Bytes.wordPadding encoded.flatten.length := by
    simp only [List.length_append, selectorOf_length, wordUsize, wordU128, Bytes.beBytes_length,
      List.length_replicate, padToWord]
  rw [functionSelector_eq, functionSelector_eq, abiEncodeAddress_eq, parseAddress_multiSend]
  constructor
  · intro built
    rw [← Except.ok.inj built, payload, batchHead, batchTail]
    simp only [List.append_assoc]
  · rintro rfl
    apply congrArg Except.ok
    rw [payload, batchHead, batchTail]
    simp only [List.append_assoc]

/-- The bytes of a fee leg that name its recipient and its amount: the target and the value of a
native transfer, the argument words of a token's. -/
def feeFields (gasFeeToken : Option String) (recipient : Address) (amount : Nat) : List UInt8 :=
  match gasFeeToken with
  | none => recipient.bytes ++ Abi.word amount
  | some _ => recipient.word ++ Abi.word amount

omit [RadixErrors] in
theorem feeFields_length (gasFeeToken : Option String) (recipient : Address) (amount : Nat) :
    (feeFields gasFeeToken recipient amount).length = if gasFeeToken.isSome then 64 else 52 := by
  cases gasFeeToken with
  | none => simp [feeFields, recipient.length_eq]
  | some => simp [feeFields]

/-- What stands around them in the record of the leg. -/
def feeFrame (gasFeeToken : Option String) : Except CoreError (List UInt8 × List UInt8) :=
  match gasFeeToken with
  | none => .ok ([0], Abi.word 0)
  | some token => do
      let account ← parseAddress token
      return ([0] ++ account.bytes ++ Abi.word 0 ++ Abi.word 68 ++ selectorOf transferSignature, [])

theorem encodeMultiSendCall_iff {target valueHex : String} {value : Nat}
    {data encoded : List UInt8} (shown : stripMark valueHex = hexDigits value)
    (fits : value < 2 ^ 256) :
    encodeMultiSendCall ⟨target, valueHex, data⟩ = .ok encoded ↔
      ∃ account, parseAddress target = .ok account ∧
        encoded = [0] ++ account.bytes ++ Abi.word value ++ wordUsize data.length ++ data := by
  unfold encodeMultiSendCall
  simp only [shown, hexDigits_ne_empty, if_false, abiEncodeUint256_hexDigits fits]
  rw [bind_ok]
  apply exists_congr
  intro account
  apply and_congr_right
  intro _
  exact pure_ok.trans eq_comm

omit [RadixErrors] in
theorem encodeErc20Transfer_iff {recipient : String} {amount : Nat} {data : List UInt8}
    (fits : amount < 2 ^ 128) :
    encodeErc20Transfer recipient amount = .ok data ↔
      ∃ account, parseAddress recipient = .ok account ∧
        data = selectorOf transferSignature ++ (account.word ++ Abi.word amount) := by
  unfold encodeErc20Transfer
  rw [functionSelector_eq, abiEncodeAddress_eq, wordU128_eq fits]
  cases parseAddress recipient with
  | error =>
    constructor
    · rintro ⟨⟩
    · rintro ⟨_, ⟨⟩, _⟩
  | ok account =>
    constructor
    · intro built
      refine ⟨account, rfl, ?_⟩
      rw [← List.append_assoc]
      exact (Except.ok.inj built).symm
    · rintro ⟨_, ⟨⟩, rfl⟩
      rw [← List.append_assoc]
      rfl

variable {gasFeeToken : Option String}

theorem encode_feeLeg {recipient : String} {amount : Nat}
    (fits : amount < 2 ^ 128) {encoded : List UInt8} :
    (buildInBandFeeLeg gasFeeToken recipient amount >>= encodeMultiSendCall) = .ok encoded ↔
      ∃ account frame, parseAddress recipient = .ok account ∧ feeFrame gasFeeToken = .ok frame ∧
        encoded = frame.1 ++ feeFields gasFeeToken account amount ++ frame.2 := by
  have lengthWord : ∀ length < 2 ^ 128, wordUsize length = Abi.word length := fun _ => wordU128_eq
  cases gasFeeToken with
  | none =>
    have wide : amount < 2 ^ 256 := Nat.lt_trans fits (by decide)
    have leg : (buildInBandFeeLeg none recipient amount >>= encodeMultiSendCall) =
        encodeMultiSendCall ⟨recipient, lowerHex amount, []⟩ := rfl
    rw [leg, encodeMultiSendCall_iff (stripMark_lowerHex amount) wide, List.length_nil,
      lengthWord 0 (by decide)]
    simp [feeFrame, feeFields]
  | some token =>
    have zero : stripMark "0" = hexDigits 0 := by decide
    rw [buildInBandFeeLeg, bind_assoc, bind_ok]
    constructor
    · intro ⟨data, transfer, record⟩
      obtain ⟨account, recipientRead, rfl⟩ := (encodeErc20Transfer_iff fits).mp transfer
      rw [pure_bind, encodeMultiSendCall_iff zero (by decide)] at record
      obtain ⟨coin, tokenRead, rfl⟩ := record
      have framed : feeFrame (some token) = .ok ([0] ++ coin.bytes ++ Abi.word 0 ++
          Abi.word 68 ++ selectorOf transferSignature, []) := by
        rw [feeFrame, tokenRead]
        rfl
      refine ⟨account, _, recipientRead, framed, ?_⟩
      simp [feeFields, lengthWord]
    · intro ⟨account, frame, recipientRead, framed, layout⟩
      obtain ⟨coin, tokenRead, framed⟩ := bind_ok.mp framed
      obtain rfl := pure_ok.mp framed
      refine ⟨_, (encodeErc20Transfer_iff fits).mpr ⟨account, recipientRead, rfl⟩, ?_⟩
      rw [pure_bind, encodeMultiSendCall_iff zero (by decide)]
      refine ⟨coin, tokenRead, ?_⟩
      rw [layout]
      simp [feeFields, lengthWord]

/-- The length of a fee leg's record is the coin's. -/
def legLength (gasFeeToken : Option String) : Nat := if gasFeeToken.isSome then 153 else 85

omit [RadixErrors] in
theorem feeFrame_length {frame : List UInt8 × List UInt8}
    (framed : feeFrame gasFeeToken = .ok frame) (account : Address) (amount : Nat) :
    (frame.1 ++ feeFields gasFeeToken account amount ++ frame.2).length =
      legLength gasFeeToken := by
  cases gasFeeToken with
  | none =>
    cases framed
    simp [feeFields, account.length_eq, legLength]
  | some =>
    obtain ⟨coin, _, framed⟩ := bind_ok.mp framed
    obtain rfl := pure_ok.mp framed
    simp [feeFields, coin.length_eq, legLength]

/-- What stands around a fee leg's recipient and amount in the call data of a batch; the inner calls
and the coin decide it. -/
def inBandFrame (inner : List MultiSendCall) (gasFeeToken : Option String) :
    Except CoreError (List UInt8 × List UInt8) := do
  let packed := (← inner.mapM encodeMultiSendCall).flatten
  let frame ← feeFrame gasFeeToken
  let length := packed.length + legLength gasFeeToken
  return (batchHead length ++ packed ++ frame.1, frame.2 ++ batchTail length)

/-- The call data of a batch with a fee leg is the leg's recipient and amount in their frame. -/
theorem inBand_framed {inner : List MultiSendCall}
    {recipient : String} {amount : Nat} (fits : amount < 2 ^ 128) {callData : List UInt8} :
    (inBandBatch inner gasFeeToken recipient amount >>= buildMultiSendExecuteCallData) =
        .ok callData ↔
      ∃ account frame, parseAddress recipient = .ok account ∧
        inBandFrame inner gasFeeToken = .ok frame ∧
        callData = frame.1 ++ feeFields gasFeeToken account amount ++ frame.2 := by
  have assembled (packed fields : List UInt8) (frame : List UInt8 × List UInt8)
      (sized : (frame.1 ++ fields ++ frame.2).length = legLength gasFeeToken) :
      batchHead (packed ++ (frame.1 ++ fields ++ frame.2)).length ++
          (packed ++ (frame.1 ++ fields ++ frame.2)) ++
          batchTail (packed ++ (frame.1 ++ fields ++ frame.2)).length =
        batchHead (packed.length + legLength gasFeeToken) ++ packed ++ frame.1 ++ fields ++
          (frame.2 ++ batchTail (packed.length + legLength gasFeeToken)) := by
    rw [List.length_append, sized]
    simp only [List.append_assoc]
  rw [inBandBatch, bind_assoc, bind_ok]
  simp only [pure_bind, buildMultiSendExecuteCallData_iff, Fallible.mapM_concat_ok]
  constructor
  · rintro ⟨leg, made, _, ⟨early, last, innerWritten, legWritten, rfl⟩, layout⟩
    obtain ⟨account, frame, recipientRead, framed, rfl⟩ :=
      (encode_feeLeg fits).mp (bind_ok.mpr ⟨leg, made, legWritten⟩)
    have whole : inBandFrame inner gasFeeToken = .ok
        (batchHead (early.flatten.length + legLength gasFeeToken) ++ early.flatten ++ frame.1,
          frame.2 ++ batchTail (early.flatten.length + legLength gasFeeToken)) := by
      rw [inBandFrame, innerWritten, framed]
      rfl
    refine ⟨account, _, recipientRead, whole, ?_⟩
    rw [layout, List.flatten_append, List.flatten_singleton]
    exact assembled _ _ _ (feeFrame_length framed account amount)
  · rintro ⟨account, _, recipientRead, framed, rfl⟩
    obtain ⟨early, innerWritten, framed⟩ := bind_ok.mp framed
    obtain ⟨frame, legFramed, framed⟩ := bind_ok.mp framed
    obtain rfl := pure_ok.mp framed
    obtain ⟨leg, made, legWritten⟩ := bind_ok.mp
      ((encode_feeLeg fits).mpr ⟨account, frame, recipientRead, legFramed, rfl⟩)
    refine ⟨leg, made, _, ⟨early, _, innerWritten, legWritten, rfl⟩, ?_⟩
    rw [List.flatten_append, List.flatten_singleton]
    exact (assembled _ _ _ (feeFrame_length legFramed account amount)).symm

omit [RadixErrors] in
theorem ByteVec.of_ok {bytes : List UInt8} {vector : ByteVec} :
    ByteVec.of bytes = .ok vector ↔ vector.bytes = bytes := by
  unfold ByteVec.of
  obtain ⟨held, fits⟩ := vector
  split
  case isTrue =>
    constructor
    · rintro ⟨⟩
      rfl
    · rintro rfl
      rfl
  case isFalse large =>
    constructor
    · rintro ⟨⟩
    · rintro rfl
      exact absurd fits large

theorem held_framed {inner : List MultiSendCall}
    {recipient : String} {amount : Nat} (fits : amount < 2 ^ 128) {callData : ByteVec} :
    ((inBandBatch inner gasFeeToken recipient amount >>= buildMultiSendExecuteCallData) >>=
        ByteVec.of) = .ok callData ↔
      ∃ account frame, parseAddress recipient = .ok account ∧
        inBandFrame inner gasFeeToken = .ok frame ∧
        callData.bytes = frame.1 ++ feeFields gasFeeToken account amount ++ frame.2 := by
  rw [bind_ok]
  simp only [ByteVec.of_ok, inBand_framed fits]
  constructor
  · rintro ⟨_, ⟨account, frame, recipientRead, framed, rfl⟩, held⟩
    exact ⟨account, frame, recipientRead, framed, held⟩
  · rintro ⟨account, frame, recipientRead, framed, held⟩
    exact ⟨_, ⟨account, frame, recipientRead, framed, rfl⟩, held⟩

/-- The estimated draft: the calls with a placeholder for the fee. -/
def estimatedDraft (sender nonce : String) (initCode : ByteVec) (inner : List MultiSendCall)
    (gasFeeToken : Option String) (placeholder : String) (held : Nat) (floors : GasFloors) :
    Except CoreError UserOperation := do
  let calls ← inBandBatch inner gasFeeToken placeholder held
  draftOperation sender nonce initCode calls floors

/-- The operation that is signed: the draft with its estimate and the settled fee. -/
def settledOperation (draft : UserOperation) (estimate : GasEstimate) (floors : GasFloors)
    (inner : List MultiSendCall) (gasFeeToken : Option String) (recipient : String)
    (amount : Nat) : Except CoreError UserOperation := do
  let calls ← inBandBatch inner gasFeeToken recipient amount
  replaceCalls (applyEstimate draft estimate floors) calls

section Legs

variable {sender nonce placeholder recipient : String} {initCode : ByteVec}
  {inner : List MultiSendCall} {gasFeeToken : Option String} {held amount : Nat}
  {floors : GasFloors} {estimate : GasEstimate} {draft settled : UserOperation}

theorem draft_framed (fits : held < 2 ^ 128)
    (drafted : estimatedDraft sender nonce initCode inner gasFeeToken placeholder held floors =
      .ok draft) :
    ∃ account frame, parseAddress placeholder = .ok account ∧
      inBandFrame inner gasFeeToken = .ok frame ∧
      draft.callData.bytes = frame.1 ++ feeFields gasFeeToken account held ++ frame.2 := by
  unfold estimatedDraft draftOperation at drafted
  obtain ⟨calls, batch, drafted⟩ := bind_ok.mp drafted
  obtain ⟨built, made, drafted⟩ := bind_ok.mp drafted
  obtain ⟨callData, kept, drafted⟩ := bind_ok.mp drafted
  obtain rfl := pure_ok.mp drafted
  apply (held_framed fits).mp
  exact bind_ok.mpr ⟨built, bind_ok.mpr ⟨calls, batch, made⟩, kept⟩

theorem drafted_of_frame (fits : held < 2 ^ 128) {payee : Address}
    {frame : List UInt8 × List UInt8} (payeeRead : parseAddress placeholder = .ok payee)
    (framed : inBandFrame inner gasFeeToken = .ok frame)
    (room : (frame.1 ++ feeFields gasFeeToken payee held ++ frame.2).length < 2 ^ 63) :
    ∃ draft, estimatedDraft sender nonce initCode inner gasFeeToken placeholder held floors =
      .ok draft := by
  have made := (held_framed fits).mpr ⟨payee, frame, payeeRead, framed, Eq.refl
    (ByteVec.mk _ room).bytes⟩
  obtain ⟨built, made, kept⟩ := bind_ok.mp made
  obtain ⟨calls, batch, written⟩ := bind_ok.mp made
  unfold estimatedDraft draftOperation
  simp only [batch, written, kept, bind, Except.bind]
  exact ⟨_, rfl⟩

theorem settledOperation_iff (fits : amount < 2 ^ 128) :
    settledOperation draft estimate floors inner gasFeeToken recipient amount = .ok settled ↔
      settled = { applyEstimate draft estimate floors with callData := settled.callData } ∧
        ∃ account frame, parseAddress recipient = .ok account ∧
          inBandFrame inner gasFeeToken = .ok frame ∧
          settled.callData.bytes = frame.1 ++ feeFields gasFeeToken account amount ++ frame.2 := by
  rw [← held_framed fits, settledOperation]
  unfold replaceCalls
  constructor
  · intro made
    obtain ⟨calls, batch, made⟩ := bind_ok.mp made
    obtain ⟨built, written, made⟩ := bind_ok.mp made
    obtain ⟨callData, kept, made⟩ := bind_ok.mp made
    obtain rfl := pure_ok.mp made
    exact ⟨rfl, bind_ok.mpr ⟨built, bind_ok.mpr ⟨calls, batch, written⟩, kept⟩⟩
  · intro ⟨same, made⟩
    obtain ⟨built, made, kept⟩ := bind_ok.mp made
    obtain ⟨calls, batch, written⟩ := bind_ok.mp made
    refine bind_ok.mpr ⟨calls, batch, bind_ok.mpr ⟨built, written, ?_⟩⟩
    exact bind_ok.mpr ⟨settled.callData, kept, congrArg Except.ok same.symm⟩

/-- The draft whose gas is estimated and the operation that is signed differ in the recipient and the
amount of the fee leg, and nowhere else; and every draft can be settled on any address. -/
theorem settled_in_frame (heldFits : held < 2 ^ 128) (fits : amount < 2 ^ 128)
    (drafted : estimatedDraft sender nonce initCode inner gasFeeToken placeholder held floors =
      .ok draft) :
    ((∃ settled, settledOperation draft estimate floors inner gasFeeToken recipient amount =
        .ok settled) ↔ ∃ account, parseAddress recipient = .ok account) ∧
      ∀ settled, settledOperation draft estimate floors inner gasFeeToken recipient amount =
          .ok settled →
        settled = { applyEstimate draft estimate floors with callData := settled.callData } ∧
          settled.callData.bytes.length = draft.callData.bytes.length ∧
          ∃ front back payee account, parseAddress placeholder = .ok payee ∧
            parseAddress recipient = .ok account ∧
            draft.callData.bytes = front ++ feeFields gasFeeToken payee held ++ back ∧
            settled.callData.bytes = front ++ feeFields gasFeeToken account amount ++ back := by
  obtain ⟨payee, frame, payeeRead, framed, layout⟩ := draft_framed heldFits drafted
  have sized (account : Address) :
      (frame.1 ++ feeFields gasFeeToken account amount ++ frame.2).length =
        draft.callData.bytes.length := by
    rw [layout]
    simp only [List.length_append, feeFields_length]
  constructor
  · constructor
    · intro ⟨settled, made⟩
      obtain ⟨_, account, _, recipientRead, _⟩ := (settledOperation_iff fits).mp made
      exact ⟨account, recipientRead⟩
    · intro ⟨account, recipientRead⟩
      have room : (frame.1 ++ feeFields gasFeeToken account amount ++ frame.2).length < 2 ^ 63 := by
        rw [sized]
        exact draft.callData.length_lt
      exact ⟨{ applyEstimate draft estimate floors with callData := ⟨_, room⟩ },
        (settledOperation_iff fits).mpr ⟨rfl, account, frame, recipientRead, framed, rfl⟩⟩
  · intro settled made
    obtain ⟨same, account, other, recipientRead, otherFramed, settledLayout⟩ :=
      (settledOperation_iff fits).mp made
    rw [framed] at otherFramed
    cases otherFramed
    refine ⟨same, ?_, frame.1, frame.2, payee, account, payeeRead, recipientRead, layout,
      settledLayout⟩
    rw [settledLayout, sized]

end Legs

end Drafts

def sampleCall : PackedCall := ⟨0, multiSendContract, 7, [1, 2, 3], PackedCall.seven_lt⟩

/-- The draft of one call and its settlement, on the account's own address and on another. -/
theorem sampleCall_settled :
    ∃ draft settled,
      @estimatedDraft SignedReview.plainRadix "0x11" "0x1" ⟨[], by decide⟩
        [(SignedReview.callOf sampleCall).told] none (toHex multiSendContract.bytes true) 1
        (.inBand true) = .ok draft ∧
      @settledOperation SignedReview.plainRadix draft ⟨100000, 50000, 40000, none⟩ (.inBand true)
        [(SignedReview.callOf sampleCall).told] none
        (toHex (Address.mk (List.replicate 20 9) rfl).bytes true) 14000 = .ok settled ∧
      settled.callData.bytes.length = draft.callData.bytes.length := by
  let _ := SignedReview.plainRadix
  have encoded : [(SignedReview.callOf sampleCall).told].mapM encodeMultiSendCall =
      .ok [sampleCall.bytes] := by
    apply Fallible.mapM_ok.mpr
    exact .cons (SignedReview.encodeMultiSendCall_told rfl (by decide)) .nil
  have framed : inBandFrame [(SignedReview.callOf sampleCall).told] none =
      .ok (batchHead 173 ++ sampleCall.bytes ++ [0], Abi.word 0 ++ batchTail 173) := by
    rw [inBandFrame, encoded]
    rfl
  have room : (batchHead 173 ++ sampleCall.bytes ++ [0] ++ feeFields none multiSendContract 1 ++
      (Abi.word 0 ++ batchTail 173)).length < 2 ^ 63 := by
    simp [batchHead, batchTail, PackedCall.bytes_length, feeFields_length, wordUsize, wordU128,
      padToWord, sampleCall, Bytes.wordPadding]
  have small : 1 < 2 ^ 128 := by decide
  have drafts : ∃ draft, estimatedDraft "0x11" "0x1" ⟨[], by decide⟩
      [(SignedReview.callOf sampleCall).told] none (toHex multiSendContract.bytes true) 1
      (.inBand true) = .ok draft :=
    drafted_of_frame small (SignedReview.parseAddress_toHex multiSendContract) framed room
  obtain ⟨draft, drafted⟩ := drafts
  have legs := @settled_in_frame _ "0x11" "0x1" (toHex multiSendContract.bytes true)
    (toHex (Address.mk (List.replicate 20 9) rfl).bytes true) ⟨[], by decide⟩ _ none 1 14000
    (.inBand true) ⟨100000, 50000, 40000, none⟩ draft small (by decide) drafted
  obtain ⟨settles, frames⟩ := legs
  have payable : ∃ account, parseAddress (toHex (Address.mk (List.replicate 20 9) rfl).bytes true) =
      .ok account := ⟨_, SignedReview.parseAddress_toHex _⟩
  obtain ⟨settled, made⟩ := settles.mpr payable
  obtain ⟨_, sized, _⟩ := frames settled made
  exact ⟨draft, settled, drafted, made, sized⟩

end VelaWallet
