import VelaWallet.Send.Plan

/-!
# The form's updates

Amounts, Max, the split rows and the recipient: what each edit of the form does
to the model, and the quotes it asks for.
-/

namespace VelaWallet.Send

open FeePolicy
open Money (Denom TokenPrice DenominatedAmount)

variable [Runtime]

def batchMaxRecipients : Nat := 60

def formEstimateDebounceMs : Nat := 400

/-- `sync_identity`: the name and risk found are dropped, and a well-formed
recipient is looked up again. -/
def syncIdentity (model : Model) : Model × Cmd :=
  let cleared := { model with
    probes := { model.probes with recipientIdentity := none, recipientRisk := none }
    flights := { model.flights with risk := none, identity := none } }
  if !isValidAddress model.form.recipient then done cleared
  else
    ({ cleared.minted with flights := { cleared.flights with identity := some model.nextId } },
      [.request model.nextId (.resolveIdentity model.form.recipient)])

/-- `schedule_form_estimate`: the debounce is armed again on a complete form that
has no quote yet, unless something else holds the slot. -/
def scheduleFormEstimate (model : Model) : Model × Cmd :=
  match formEstimateKey model with
  | none => done model
  | some key =>
    if model.fees.formQuoteKey == some key && (selectedFee model).isSome then done model
    else
      match model.pipeline with
      | .idle | .formDebounce _ =>
        ({ model.minted with pipeline := .formDebounce model.nextId },
          [.request model.nextId (.startTimer formEstimateDebounceMs .formEstimate)])
      | _ => done model

def formEstimateFire (model : Model) : Model × Cmd :=
  match formEstimateKey model, model.holdings.selectedToken, model.account with
  | some key, some token, some account =>
    let (tx, batch) := buildEstimateShape model token
    ({ model.minted with pipeline := .formEstimate model.nextId key },
      [.request model.nextId (.estimateFee
        (estimateRequest model token account.address tx batch model.publicKeyHex))])
  | _, _, _ => done { model with pipeline := .idle }

def warmEstimateStart (model : Model) : Model × Cmd :=
  match model.account with
  | none => render model
  | some account =>
    ({ model.minted with pipeline := .warmCredential model.nextId },
      [.request model.nextId (.loadAccountCredential account.id), .render])

def setMax (exact : String) (model : Model) : Model :=
  { model with form := { model.form with
      amount := .token (maxFigure exact)
      maxFill := some (.exact exact) } }

def Pipeline.bringsQuote : Pipeline → Bool
  | warmCredential _ | warmEstimate _ | formDebounce _ | formEstimate .. | maxEstimate _ => true
  | _ => false

def maxFollowUp (token : SendToken) (model : Model) : Model × Cmd :=
  if model.form.maxFill.isNone then done model
  else
    match maxQuote model, model.account with
    | some fee, _ => render (setMax (maxWithFee token fee) model)
    | none, none => render (setMax (fullBalance token) model)
    | none, some account =>
      if model.pipeline.bringsQuote then render model
      -- a pre-check or a submit brings its own quote
      else if model.pipeline ≠ .idle then render model
      else
        let tx := maxEstimateCall model token account.address
        ({ model.minted with pipeline := .maxEstimate model.nextId },
          [.request model.nextId (.estimateFee
            (estimateRequest model token account.address tx none model.publicKeyHex)), .render])

def followMax (model : Model) : Model × Cmd :=
  match model.holdings.selectedToken with
  | some token => if model.form.maxFill.isSome then maxFollowUp token model else done model
  | none => done model

/-- The check `Continue` started owns the form. -/
def Pipeline.isContinue : Pipeline → Bool
  | continueCredential _ | preCheck .. => true
  | _ => false

def tapMax (model : Model) : Model × Cmd :=
  if model.form.splitMode || model.form.multiSelectMode then done model
  else if model.pipeline.isContinue then done model
  else
    match model.holdings.selectedToken with
    | none => done model
    | some token =>
      maxFollowUp token { model with form := { model.form with
        amount := .token "", fiatOrigin := none, maxFill := some .waiting } }

def redenominateToDisplay (model : Model) : Model :=
  match model.form.amount.fiatCode with
  | none => model
  | some code =>
    if code = model.display.code then model
    else { model with form := { model.form with
      maxFill := none, amount := .fiat "" model.display.code } }

/-- A figure restated in another unit, emptied where it cannot be. -/
def restated (model : Model) (token : SendToken) (amount : DenominatedAmount) (target : Denom) :
    DenominatedAmount :=
  match amount.convert target (displayPrice model token) token.decimals.toNat
      model.display.fiatDecimals.toNat with
  | .ok converted => converted
  | .error _ => .token ""

/-- The fiat figure on the form is still the one `origin` was restated as. -/
def isUntouched (model : Model) (token : SendToken) (origin : String) : Bool :=
  match (DenominatedAmount.token origin).convert model.display.denom (displayPrice model token)
      token.decimals.toNat model.display.fiatDecimals.toNat with
  | .ok roundTrip => roundTrip.value == model.form.amount.value
  | .error _ => false

def toggleFiatInput (model : Model) : Model × Cmd :=
  match model.holdings.selectedToken with
  | none => done model
  | some token =>
    let target := if model.form.amount.isFiat then .token else model.display.denom
    if target.isFiat && (displayPrice model token).isNone then done model
    else
      match model.form.maxFill with
      | some (.exact exact) =>
        let amount := if target.isFiat then restated model token (.token exact) target
          else .token (maxFigure exact)
        render { model with form := { model.form with fiatOrigin := none, amount } }
      | _ =>
        let converted := restated model token model.form.amount target
        if target.isFiat then
          render { model with form := { model.form with
            fiatOrigin := some model.form.amount.value, amount := converted } }
        else
          let amount := match model.form.fiatOrigin with
            | some origin =>
              if isUntouched model token origin then .token origin else converted
            | none => converted
          render { model with form := { model.form with fiatOrigin := none, amount } }

def viewAmountLocked (model : Model) : Bool :=
  model.params.locked && model.params.prefilledAmountBase.isSome

def viewRecipientLocked (model : Model) : Bool :=
  model.params.locked && model.params.prefilledRecipient.isSome

/-- The `SetRecipient` event. -/
def setRecipient (recipient : String) (model : Model) : Model × Cmd :=
  if viewRecipientLocked model then done model
  else
    all [syncIdentity, scheduleFormEstimate, render] { model with form := { model.form with
      recipientHandedIn := model.form.recipientHandedIn && recipient == model.form.recipient
      recipient } }

/-- The `SetAmount` event. -/
def setAmount (amount : String) (model : Model) : Model × Cmd :=
  if viewAmountLocked model then done model
  else
    all [scheduleFormEstimate, render] { model with form := { model.form with
      maxFill := none, amount := model.form.amount.withValue amount } }

def handInRecipient (address : String) (model : Model) : Model × Cmd :=
  all [syncIdentity, scheduleFormEstimate, render] { model with form := { model.form with
    recipient := address, recipientHandedIn := true } }

/-- `make_recipient_id`: the id minted when the counter stood at `seq`. -/
def recipientId (seq : Nat) : String := "rcpt_" ++ toString (seq + 1)

def splitLockedOut (model : Model) : Bool := model.params.locked

def enterSplitMode (model : Model) : Model × Cmd :=
  if splitLockedOut model || model.form.splitMode then done model
  else
    match model.holdings.selectedToken with
    | none => done model
    | some token =>
      let rowAmount := if model.form.amount.isEmpty then "" else modelTokenAmount model token
      let seq := model.form.recipientSeq
      render { model with form := { model.form with
        recipientSeq := seq + 2
        recipients := [⟨recipientId seq, model.form.recipient, rowAmount, none⟩,
          ⟨recipientId (seq + 1), "", "", none⟩]
        maxFill := none
        amount := .token rowAmount
        splitMode := true } }

/-- `assign_ids`: the rows with an id each, and the counter after them. -/
def assignIds (seq : Nat) : List SendRecipientDraft → List SendRecipientDraft × Nat
  | [] => ([], seq)
  | row :: rows =>
    if row.id = "" then
      ({ row with id := recipientId seq } :: (assignIds (seq + 1) rows).1,
        (assignIds (seq + 1) rows).2)
    else (row :: (assignIds seq rows).1, (assignIds seq rows).2)

/-- The rows replace what was typed, and the batch sheets close. -/
def intoSplit (rows : List SendRecipientDraft) (seq : Nat) (model : Model) : Model :=
  { model with form := { model.form with
      maxFill := none
      amount := .token ""
      recipients := rows.take batchMaxRecipients
      recipientSeq := seq
      splitMode := true
      showBatchImport := false
      showContactPicker := false } }

def seedSplit (rows : List SendRecipientDraft) (model : Model) : Model × Cmd :=
  if rows.isEmpty || splitLockedOut model then done model
  else
    let (rows, seq) := assignIds model.form.recipientSeq rows
    render (intoSplit rows seq model)

def rowIsStarted (row : SendRecipientDraft) : Bool :=
  Utf8.trim row.address != "" || Utf8.trim row.amount != ""

/-- The rows an import keeps, and the row counter after them. -/
def keptRows (model : Model) : List SendRecipientDraft × Nat :=
  let seq := model.form.recipientSeq
  if model.form.splitMode then (model.form.recipients.filter rowIsStarted, seq)
  else if Utf8.trim model.form.recipient != "" || !model.form.amount.isEmpty then
    let amount := match model.holdings.selectedToken with
      | some token => if model.form.amount.isEmpty then "" else modelTokenAmount model token
      | none => ""
    ([⟨recipientId seq, model.form.recipient, amount, none⟩], seq + 1)
  else ([], seq)

/-- `append_split`: every appended row gets a fresh id. -/
def appendSplit (rows : List SendRecipientDraft) (model : Model) : Model × Cmd :=
  if rows.isEmpty || splitLockedOut model then done model
  else
    let (kept, seq) := keptRows model
    let fresh := rows.mapIdx fun index row => { row with id := recipientId (seq + index) }
    render (intoSplit (kept ++ fresh) (seq + rows.length) model)

/-- `recipients_changed`: at most one row is the single form again. -/
def recipientsChanged (rows : List SendRecipientDraft) (model : Model) : Model × Cmd :=
  if rows.length ≤ 1 then
    all [syncIdentity, scheduleFormEstimate, render] { model with form := { model.form with
      recipient := (rows.head?.map (·.address)).getD ""
      amount := .token ((rows.head?.map (·.amount)).getD "")
      splitMode := false
      recipients := [] } }
  else
    let (rows, seq) := assignIds model.form.recipientSeq rows
    render { model with form := { model.form with
      recipients := rows.take batchMaxRecipients, recipientSeq := seq } }

/-- A row paid to another address: its name was the old address's. -/
def readdressed (address : String) (row : SendRecipientDraft) : SendRecipientDraft :=
  if sameText (Utf8.trim row.address) (Utf8.trim address) then { row with address }
  else { row with address, name := none }

def pickedRow (model : Model) : Option Nat :=
  let named := model.form.pickerTarget.bind fun target =>
    model.form.recipients.findIdx? (·.id == target)
  named.or (model.form.recipients.findIdx? fun row => Utf8.trim row.address == "")

def applyPickedAddress (address : String) (model : Model) : Model × Cmd :=
  let closed := { model with form := { model.form with
    showContactPicker := false, pickerTarget := none } }
  if !model.form.splitMode then handInRecipient address closed
  else
    match pickedRow model with
    | some index =>
      render { closed with form := { closed.form with
        recipients := model.form.recipients.modify index (readdressed address) } }
    | none =>
      if model.form.recipients.length < batchMaxRecipients then
        let seq := model.form.recipientSeq
        render { closed with form := { closed.form with
          recipientSeq := seq + 1
          recipients := model.form.recipients ++ [⟨recipientId seq, address, "", none⟩] } }
      else render closed

end VelaWallet.Send
