import VelaWallet.Base.Machine
import VelaWallet.Send.Answers

/-!
# The send machine

Every event of the send screen, and the machine they drive.
-/

namespace VelaWallet.Send

open FeePolicy

variable [Runtime]

def feeUpdated (estimate : FeeEstimateView) (model : Model) : Model × Cmd :=
  match parseFeeView estimate with
  | none => done model
  | some fee =>
    let settled := { model with fees := { model.fees with
      feeEstimate := some fee, feeFailed := false } }
    all [if model.step = .confirm then reprobeAfterFee else followMax, render] settled

/-- The `FeeFailedChanged` event: on the confirm page the figure goes with it. -/
def feeFailedChanged (failed : Bool) (model : Model) : Model × Cmd :=
  if model.fees.feeFailed = failed then done model
  else render { model with fees := { model.fees with
    feeFailed := failed
    feeEstimate := if failed ∧ model.step = .confirm then none else model.fees.feeEstimate } }

/-- The `FeeTokenChanged` event. -/
def feeTokenChanged (feeToken : Option String) (model : Model) : Model × Cmd :=
  render { model with fees := { model.fees with
    feeCardCoin := (formChain model).map fun chainId => ⟨chainId, feeToken⟩ } }

/-- The `ChooseFeeToken` event. -/
def chooseFeeToken (token : Option String) (model : Model) : Model × Cmd :=
  all [scheduleFormEstimate, followMax, render] { model with fees := { model.fees with
    coin := .picked token, feeCardCoin := none } }

/-- What a receipt outcome says of the operation sent. -/
def Receipt.after (receipt : Receipt) : SendReceiptOutcome → Receipt
  | .confirmed txHash => { receipt with txHash := some txHash }
  | .failed rejected notSent refusal =>
    if notSent then
      if receipt.receiptMaybeSent then
        { receipt with receiptFailed := true, receiptNotSent := true }
      else receipt
    else if rejected then
      { receipt with
        receiptFailed := true
        refusal
        feeRejected := refusal == some .feeBelowMarket
        refused := true }
    else { receipt with receiptFailed := true }
  | .feeHeld => { receipt with feeHeld := true, relayFunding := false, receiptMaybeSent := false }
  | .relayFunding => { receipt with relayFunding := true, receiptMaybeSent := false }
  | .acknowledged => { receipt with relayFunding := false, receiptMaybeSent := false }

def receiptUpdate (userOpHash : String) (outcome : SendReceiptOutcome) (model : Model) :
    Model × Cmd :=
  if model.receipt.userOpHash ≠ some userOpHash then done model
  else render { model with receipt := model.receipt.after outcome }

/-- The `OpenContactPicker` event. -/
def openContactPicker (target : Option String) (model : Model) : Model × Cmd :=
  render { model with form := { model.form with
    pickerTarget := target, showContactPicker := true } }

/-- The `CloseContactPicker` event. -/
def closeContactPicker (model : Model) : Model × Cmd :=
  render { model with form := { model.form with
    showContactPicker := false
    pickerTarget := if model.form.showScanner then model.form.pickerTarget else none } }

/-- The `OpenScanner` event: a scan from an open picker keeps the picker's row. -/
def openScanner (target : Option String) (model : Model) : Model × Cmd :=
  render { model with form := { model.form with
    pickerTarget := if target.isSome || !model.form.showContactPicker then target
      else model.form.pickerTarget
    showScanner := true } }

/-- The `CloseScanner` event. -/
def closeScanner (model : Model) : Model × Cmd :=
  render { model with form := { model.form with
    showScanner := false
    pickerTarget := if model.form.showContactPicker then model.form.pickerTarget else none } }

/-- The `OpenBatchImport` and `CloseBatchImport` events. -/
def showBatchImport (shown : Bool) (model : Model) : Model × Cmd :=
  render { model with form := { model.form with showBatchImport := shown } }

/-- The `SetMultiNetwork` event: another network clears the picks. -/
def setMultiNetwork (chainId : Option UInt32) (model : Model) : Model × Cmd :=
  render { model with form := { model.form with
    multiSelectedIds := [], multiChainId := chainId } }

/-- The `SigningStarted` event. -/
def signingStarted (model : Model) : Model × Cmd :=
  if model.tx = .submitting ∧ model.pipeline.submitId.isSome then
    render { model with tx := .signing }
  else done model

/-- The `RetryAfterError` event. -/
def retryAfterError (model : Model) : Model × Cmd :=
  if model.tx ≠ .error then done model else render { model with tx := .idle, txError := none }

/-- The `InFlightOps` event. -/
def inFlightOps (ops : List InFlightOp) (model : Model) : Model × Cmd :=
  if model.inFlight = ops then done model else render { model with inFlight := ops }

def step (event : Event) (model : Model) : Model × Cmd :=
  match event with
  | .openScreen account params display => openScreen account params display model
  | .displayChanged display => render (redenominateToDisplay { model with display })
  | .tokensPartial tokens => tokensPartial tokens model
  | .holdingsUpdated tokens => holdingsUpdated tokens model
  | .refreshTokens => refreshTokens model
  | .selectToken tokenId => selectToken tokenId model
  | .toggleMultiToken tokenId => toggleMultiToken tokenId model
  | .toggleAllMultiTokens visibleIds => toggleAllMulti visibleIds model
  | .setMultiNetwork chainId => setMultiNetwork chainId model
  | .confirmMultiSelection => confirmMultiSelection model
  | .setRecipient recipient => setRecipient recipient model
  | .setAmount amount => setAmount amount model
  | .toggleFiatInput => toggleFiatInput model
  | .tapMax => tapMax model
  | .enterSplitMode => enterSplitMode model
  | .seedSplitRecipients recipients => seedSplit recipients model
  | .appendSplitRecipients recipients => appendSplit recipients model
  | .recipientsChanged recipients => recipientsChanged recipients model
  | .openContactPicker target => openContactPicker target model
  | .closeContactPicker => closeContactPicker model
  | .pickedAddress address => applyPickedAddress address model
  | .openScanner target => openScanner target model
  | .closeScanner => closeScanner model
  | .scanResolved scan => scanResolved scan model
  | .openBatchImport => showBatchImport true model
  | .closeBatchImport => showBatchImport false model
  | .addNetworkTapped chainId => addNetwork chainId model
  | .continueTapped => continueTapped model
  | .back => handleBack model
  | .changeToken => changeToken model
  | .editAmount => editAmount model
  | .chooseFeeToken token => chooseFeeToken token model
  | .feeUpdated estimate => feeUpdated estimate model
  | .feeBusyChanged busy => render { model with fees := { model.fees with feeBusy := busy } }
  | .feeFailedChanged failed => feeFailedChanged failed model
  | .feeTokenChanged feeToken => feeTokenChanged feeToken model
  | .slideConfirm review => confirmTapped review model
  | .signingStarted => signingStarted model
  | .opSigned userOpHash submitBlock nowMs => opSigned userOpHash submitBlock nowMs model
  | .cancelSigning => cancelSigning model
  | .retryAfterBootstrap => retryAfterBootstrap model
  | .dismissTreasurySheet =>
    render { model with stops := { model.stops with
      treasuryBootstrap := none, treasuryWatch := none } }
  | .retryRelayUnreachable => retryAfterBootstrap model
  | .dismissRelayUnreachable =>
    render { model with stops := { model.stops with relayUnreachable := none } }
  | .retryAfterError => retryAfterError model
  | .inFlightOps ops => inFlightOps ops model
  | .receiptUpdate userOpHash outcome => receiptUpdate userOpHash outcome model
  | .doneTapped => fire .close model
  | .shellCompleted attempt result => accept attempt result model

/-- `Send::update`: one event, then the relay stops of another chain go. -/
def update (event : Event) (model : Model) : Model × Cmd :=
  (dropForeignRelayStops (step event model).1, (step event model).2)

def machine : Machine Model Event SendEffect where
  init := {}
  step := update

end VelaWallet.Send
