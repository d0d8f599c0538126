import VelaWallet.Base.Machine
import VelaWallet.Guard.ApprovalRewrite

/-!
# The approval guard's state machine

One signing request at a time: the editor of a single approval, or one editor a
batch leg, the metadata reads in flight, and the view a confirm is taken from
(`approval_guard.rs`).  The deadline of a permit is left out: it is a
floating-point comparison that gates nothing.
-/

namespace VelaWallet.ApprovalGuard

open Json (Value Reader Writer fromStr toStr)
open Utf8 (bytes CaseTable)

/-- What the machine asks the shell to read. -/
inductive GuardOperation where
  | readTokenMetadata (chainId : Nat) (tokens : List String)
  | readErc20Allowance (chainId : Nat) (token owner spender : String)
  | readErc20Balance (chainId : Nat) (token owner : String)

/-- One token's metadata, as the shell read it. -/
structure GuardTokenMetaEntry where
  token : String
  symbol : String
  decimals : Nat

inductive GuardShellResult where
  | metaResolved (metas : Option (List GuardTokenMetaEntry))
  | allowanceRead (allowance : Option String)
  | balanceRead (balance : Option String)

/-- A request to the shell carries the attempt its answer must name. -/
inductive GuardEffect where
  | render
  | shell (attempt : Nat) (operation : GuardOperation)

inductive GuardEditorMode where
  | requested
  | balance
  | custom
  | revoke
  | grant
  deriving DecidableEq

inductive Event where
  | approvalDetected (method paramsJson : String) (chainId : Nat) (walletAddress : Option String)
      (readOnly : Bool)
  | presetSelected (mode : GuardEditorMode)
  | customAmountChanged (text : String)
  | grantDeliberatelyChosen
  | revokeChosen
  | legPresetSelected (index : Nat) (mode : GuardEditorMode)
  | legCustomAmountChanged (index : Nat) (text : String)
  | legGrantDeliberatelyChosen (index : Nat)
  | legRevokeChosen (index : Nat)
  | batchRecipientsResolved (recipients : List (List String))
  | shellCompleted (attempt : Nat) (result : GuardShellResult)

inductive BoolPick where
  | grant
  | revoke

inductive Editor where
  | none
  | amount (mode : GuardEditorMode) (customText : String)
  | boolean (selected : Option BoolPick)

structure TokenMetaInfo where
  symbol : String
  decimals : Nat
  verified : Bool
  deriving DecidableEq

inductive MetaState where
  | loading
  | resolved (info : Option TokenMetaInfo)
  deriving DecidableEq

inductive AllowanceState where
  | notApplicable
  | loading
  | resolved (allowance : Option Nat)
  deriving DecidableEq

/-- One call of a batch: the call object kept verbatim, what it approves, and its
own editor. -/
structure Leg where
  call : Value
  target : String
  detected : Option GuardDetectedApproval
  editor : Editor

inductive BatchMeta where
  | loading (tokens : List String)
  | resolved (metas : List (String × TokenMetaInfo))

structure BatchState where
  legs : List Leg
  metas : BatchMeta
  recipients : List (List String)

structure Model where
  method : String
  params : Option Value
  chainId : Nat
  wallet : Option String
  readOnly : Bool
  detected : Option GuardDetectedApproval
  editor : Editor
  metaState : MetaState
  allowance : AllowanceState
  balance : Option Nat
  batch : Option BatchState
  /-- Bumped for each request; an answer to an older one is dropped. -/
  attempt : Nat

def Model.default : Model where
  method := ""
  params := none
  chainId := 0
  wallet := none
  readOnly := false
  detected := none
  editor := .none
  metaState := .resolved none
  allowance := .notApplicable
  balance := none
  batch := none
  attempt := 0

inductive GuardSurface where
  | none
  | permitSign
  | approvalEditor
  | batch
  deriving DecidableEq

structure GuardTokenMetaView where
  symbol : String
  decimals : Nat
  verified : Bool
  loading : Bool

inductive GuardAmountError where
  | invalidAmount
  | unlimitedDisabled

structure GuardEditorView where
  mode : Option GuardEditorMode
  customText : String
  error : Option GuardAmountError
  /-- No choice keeps the confirm disabled. -/
  choice : Option GuardChoice
  displayAmountRaw : Option String
  requestedFinite : Bool
  requestedUnlimited : Bool
  hasBalanceCap : Bool
  revokeOffered : Bool
  balanceRaw : Option String

structure GuardIncreaseTotalView where
  current : Option String
  increment : String
  total : Option String

structure GuardLegView where
  target : String
  approval : Option GuardDetectedApproval
  metaView : GuardTokenMetaView
  editor : Option GuardEditorView
  choice : Option GuardChoice
  needsEditor : Bool
  needsChoice : Bool
  grantsBroad : Bool

structure GuardBatchView where
  legs : List GuardLegView
  anyUncapped : Bool
  anyToOwnToken : Bool
  allSettled : Bool

structure GuardView where
  surface : GuardSurface
  detected : Option GuardDetectedApproval
  metaView : GuardTokenMetaView
  editor : Option GuardEditorView
  confirmAllowed : Bool
  rewrittenParamsJson : Option String
  unlimitedConsented : Bool
  unlimitedWarning : Bool
  increaseTotal : Option GuardIncreaseTotalView
  decimalsUnverified : Bool
  batch : Option GuardBatchView

/-- `leg_shows_editor`: unbounded and grant-all legs only. -/
def legShowsEditor (editable : Bool) (detected : GuardDetectedApproval) : Bool :=
  editable && detected.editable && !detected.isReducing &&
    (detected.isUnbounded || detected.isBooleanGrant)

def requestedAmount (detected : GuardDetectedApproval) : BigVal :=
  parseSignedDec (detected.amountRaw.getD "0")

/-- The request is for a finite, non-zero amount. -/
def requestedFinite (detected : GuardDetectedApproval) : Bool :=
  !detected.isUnbounded && !(requestedAmount detected).neg && !(requestedAmount detected).isZero

def initEditor (detected : GuardDetectedApproval) : Editor :=
  if detected.isBooleanGrant then
    .boolean (if detected.isUnbounded then none else some .revoke)
  else if requestedFinite detected then
    -- seeded at 18 decimals: the metadata has not resolved yet
    .amount .requested (formatTokenAmount (requestedAmount detected).mag 18 6 "" "." false)
  else if detected.isUnbounded then .amount .requested ""
  else .amount .custom ""

/-- `set_custom_text`: typing a cap is choosing a custom cap. -/
def setCustomText (editor : Editor) (text : String) : Editor × List GuardEffect :=
  match editor with
  | .amount _ _ => (.amount .custom text, [.render])
  | other => (other, [])

def setBoolPick (editor : Editor) (pick : BoolPick) : Editor × List GuardEffect :=
  match editor with
  | .boolean _ => (.boolean (some pick), [.render])
  | other => (other, [])

/-- `revoke_offered`: not where only an increment can be re-encoded. -/
def revokeOffered (detected : GuardDetectedApproval) : Bool := detected.kind != .increaseAllowance

/-- A balance can be offered as a finite cap. -/
def hasBalanceCap (detected : GuardDetectedApproval) (balance : Option Nat) : Bool :=
  detected.kind != .decreaseAllowance && balance.any (· != 0)

/-- The amount card's answer to a preset chip, or nothing for a chip it does not
render. -/
def amountPreset (customText : String) (detected : GuardDetectedApproval)
    (metaView : GuardTokenMetaView) (balance : Option Nat) (mode : GuardEditorMode) :
    Option Editor :=
  match mode with
  | .requested =>
    if requestedFinite detected then
      some (.amount .requested
        (formatTokenAmount (requestedAmount detected).mag metaView.decimals 6 "" "." false))
    else if detected.isUnbounded then some (.amount .requested customText)
    else none
  | .balance =>
    if hasBalanceCap detected balance then
      some (.amount .balance
        (match balance with
          | some balance => formatTokenAmount balance metaView.decimals 6 "" "." false
          | none => customText))
    else none
  | .custom => some (.amount .custom customText)
  | .revoke => if revokeOffered detected then some (.amount .revoke customText) else none
  | .grant => none

def applyPreset (editor : Editor) (detected : GuardDetectedApproval)
    (metaView : GuardTokenMetaView) (balance : Option Nat) (mode : GuardEditorMode) :
    Editor × List GuardEffect :=
  match editor with
  | .none => (.none, [])
  | .boolean selected =>
    if mode = .revoke then (.boolean (some .revoke), [.render]) else (.boolean selected, [])
  | .amount current customText =>
    match amountPreset customText detected metaView balance mode with
    | some changed => (changed, [.render])
    | none => (.amount current customText, [])

/-- The choice a custom cap stands for, its error, and the amount shown. -/
def customChoice (detected : GuardDetectedApproval) (metaView : GuardTokenMetaView)
    (customText : String) : Option GuardChoice × Option GuardAmountError × Option Nat :=
  let trimmed := Utf8.trim customText
  if trimmed = "" then (none, none, none)
  else
    match parseTokenAmount trimmed metaView.decimals with
    | none => (none, some .invalidAmount, none)
    | some raw =>
      if isUnboundedAmount raw (bitsFromWire detected.amountBits) then
        (none, some .unlimitedDisabled, some raw)
      else (some (.amount (toString raw)), none, some raw)

/-- The choice the amount card stands for, its error, and the amount shown. -/
def amountChoice (mode : GuardEditorMode) (customText : String) (detected : GuardDetectedApproval)
    (metaView : GuardTokenMetaView) (balance : Option Nat) :
    Option GuardChoice × Option GuardAmountError × Option Nat :=
  match mode with
  | .revoke => (some .revoke, none, some 0)
  | .requested =>
    if detected.isUnbounded && !detected.isBooleanGrant then (some .unlimited, none, none)
    else
      let amount := (requestedAmount detected).mag
      (some (.amount (toString amount)), none, some amount)
  | .balance =>
    if hasBalanceCap detected balance then
      let amount := balance.getD 0
      (some (.amount (toString amount)), none, some amount)
    else customChoice detected metaView customText
  | .custom | .grant => customChoice detected metaView customText

/-- The mode and the choice a boolean card stands for. -/
def BoolPick.mode : BoolPick → GuardEditorMode
  | .grant => .grant
  | .revoke => .revoke

def BoolPick.choice : BoolPick → GuardChoice
  | .grant => .grant
  | .revoke => .revoke

def deriveEditor (editor : Editor) (detected : GuardDetectedApproval)
    (metaView : GuardTokenMetaView) (balance : Option Nat) : Option GuardEditorView :=
  match editor with
  | .none => none
  | .boolean selected =>
    some
      { mode := selected.map BoolPick.mode
        customText := ""
        error := none
        choice := selected.map BoolPick.choice
        displayAmountRaw := none
        requestedFinite := false
        requestedUnlimited := false
        hasBalanceCap := false
        revokeOffered := true
        balanceRaw := none }
  | .amount mode customText =>
    let (choice, error, display) := amountChoice mode customText detected metaView balance
    some
      { mode := some mode
        customText := customText
        error := error
        choice := choice
        displayAmountRaw := display.map toString
        requestedFinite := requestedFinite detected
        requestedUnlimited := detected.isUnbounded && !detected.isBooleanGrant
        hasBalanceCap := hasBalanceCap detected balance
        revokeOffered := revokeOffered detected
        balanceRaw := balance.map toString }

/-- What a card renders before, or without, a token's metadata. -/
def unknownMeta (loading : Bool) : GuardTokenMetaView := ⟨"…", 18, false, loading⟩

def TokenMetaInfo.view (info : TokenMetaInfo) : GuardTokenMetaView :=
  ⟨info.symbol, info.decimals, info.verified, false⟩

def fallbackMeta (token : String) : TokenMetaInfo :=
  ⟨String.ofList (token.toList.take 6) ++ "…", 18, false⟩

/-- The metadata of one token in the shell's answer. -/
def findMeta (list : List GuardTokenMetaEntry) (token : String) : Option TokenMetaInfo :=
  (list.find? fun entry => Utf8.eqIgnoreAsciiCase (bytes entry.token) (bytes token)).map
    fun entry => ⟨entry.symbol, entry.decimals, true⟩

def effectiveMeta (model : Model) : GuardTokenMetaView :=
  match model.metaState with
  | .loading => unknownMeta true
  | .resolved none => unknownMeta false
  | .resolved (some info) => info.view

/-- The metadata of a batch is still being read. -/
def BatchMeta.isLoading : BatchMeta → Bool
  | .loading _ => true
  | .resolved _ => false

def legMeta (batch : BatchState) (detected : GuardDetectedApproval) : GuardTokenMetaView :=
  let known := detected.tokenAddress.bind fun token =>
    match batch.metas with
    | .resolved metas => metas.lookup token
    | .loading _ => none
  match known with
  | some info => info.view
  | none => unknownMeta batch.metas.isLoading

def batchCalls (params : Option Value) : Option (List Value) := do
  let params ← params
  let first ← params.at? 0
  let calls ← first.get? "calls"
  calls.asArray?

def startLeg [CaseTable] (editable : Bool) (call : Value) : Leg :=
  let detected := detectCalldataApproval ((call.get? "to").bind Value.asStr?)
    ((call.get? "data").bind Value.asStr?)
  { call := call
    target := ((call.get? "to").bind Value.asStr?).getD ""
    detected := detected
    editor :=
      match detected with
      | some detected => if legShowsEditor editable detected then initEditor detected else .none
      | none => .none }

/-- The tokens of the legs, each once, in order of first appearance. -/
def legTokens (legs : List Leg) : List String :=
  legs.foldl (fun tokens leg =>
    match leg.detected.bind (·.tokenAddress) with
    | some token => if tokens.contains token then tokens else tokens ++ [token]
    | none => tokens) []

def startBatch [CaseTable] (model : Model) : Model × List GuardOperation :=
  match batchCalls model.params with
  | none => (model, [])
  | some [] => (model, [])
  | some (call :: calls) =>
    let legs := (call :: calls).map (startLeg (!model.readOnly))
    let tokens := legTokens legs
    if tokens.isEmpty then
      ({ model with batch := some ⟨legs, .resolved [], []⟩ }, [])
    else
      ({ model with batch := some ⟨legs, .loading tokens, []⟩ },
        [.readTokenMetadata model.chainId tokens])

def singleReads (model : Model) (detected : GuardDetectedApproval) : List GuardOperation :=
  match detected.tokenAddress with
  | none => []
  | some token =>
    [.readTokenMetadata model.chainId [token]] ++
    (match model.wallet with
      | some owner =>
        if detected.kind = .increaseAllowance then
          [.readErc20Allowance model.chainId token owner detected.spender]
        else []
      | none => []) ++
    (match detected.locus, model.wallet with
      | .calldataWord _, some owner =>
        if detected.kind ≠ .setApprovalForAll then
          [.readErc20Balance model.chainId token owner]
        else []
      | _, _ => [])

def startSingle (model : Model) (detected : GuardDetectedApproval) : Model × List GuardOperation :=
  let metaState := if detected.tokenAddress.isSome then .loading else model.metaState
  let allowance :=
    if detected.tokenAddress.isSome && detected.kind == .increaseAllowance &&
        model.wallet.isSome then .loading
    else model.allowance
  let editor := match detected.locus with
    | .calldataWord _ => initEditor detected
    | .typedPath _ => model.editor
  ({ model with metaState, allowance, editor, detected := some detected },
    singleReads model detected)

def start [CaseTable] [Reader] [Writer] (model : Model) (method paramsJson : String)
    (chainId : Nat) (walletAddress : Option String) (readOnly : Bool) :
    Model × List GuardEffect :=
  let fresh : Model :=
    { method, params := fromStr paramsJson, chainId, wallet := walletAddress, readOnly
      detected := none, editor := .none, metaState := .resolved none
      allowance := .notApplicable, balance := none, batch := none
      attempt := model.attempt + 1 }
  let (started, operations) :=
    if method = "wallet_sendCalls" then startBatch fresh
    else
      match detectApproval method fresh.params with
      | some detected => startSingle fresh detected
      | none => (fresh, [])
  (started, operations.map (.shell started.attempt) ++ [.render])

/-- `accept` of a metadata answer. -/
def acceptMeta (model : Model) (metas : Option (List GuardTokenMetaEntry)) :
    Model × List GuardEffect :=
  match model.batch with
  | some batch =>
    match batch.metas with
    | .resolved _ => (model, [])
    | .loading tokens =>
      let map := match metas with
        | none => []
        | some list => tokens.map fun token => (token, (findMeta list token).getD (fallbackMeta token))
      ({ model with batch := some { batch with metas := .resolved map } }, [.render])
  | none =>
    if model.metaState = .loading then
      let token := (model.detected.bind (·.tokenAddress)).getD ""
      let info := (metas.bind (findMeta · token)).getD (fallbackMeta token)
      ({ model with metaState := .resolved (some info) }, [.render])
    else (model, [])

def accept (model : Model) (result : GuardShellResult) : Model × List GuardEffect :=
  match result with
  | .metaResolved metas => acceptMeta model metas
  | .allowanceRead allowance =>
    if model.allowance = .loading then
      ({ model with allowance := .resolved (allowance.bind parseDecU256) }, [.render])
    else (model, [])
  | .balanceRead balance =>
    if model.detected.isNone || model.batch.isSome then (model, [])
    else ({ model with balance := balance.bind parseDecU256 }, [.render])

def withEditor (model : Model) (changed : Editor × List GuardEffect) : Model × List GuardEffect :=
  ({ model with editor := changed.1 }, changed.2)

/-- The model with the editor of one leg changed, and nothing else of it. -/
def withLegEditor (model : Model) (index : Nat)
    (change : BatchState → Leg → Editor × List GuardEffect) : Model × List GuardEffect :=
  match model.batch with
  | none => (model, [])
  | some batch =>
    match batch.legs[index]? with
    | none => (model, [])
    | some leg =>
      let changed := change batch leg
      ({ model with
          batch := some
            { batch with legs := batch.legs.set index { leg with editor := changed.1 } } },
        changed.2)

def update [CaseTable] [Reader] [Writer] (event : Event) (model : Model) :
    Model × List GuardEffect :=
  match event with
  | .approvalDetected method paramsJson chainId walletAddress readOnly =>
    start model method paramsJson chainId walletAddress readOnly
  | .presetSelected mode =>
    match model.detected with
    | none => (model, [])
    | some detected =>
      withEditor model
        (applyPreset model.editor detected (effectiveMeta model) model.balance mode)
  | .customAmountChanged text => withEditor model (setCustomText model.editor text)
  | .grantDeliberatelyChosen => withEditor model (setBoolPick model.editor .grant)
  | .revokeChosen => withEditor model (setBoolPick model.editor .revoke)
  | .legPresetSelected index mode =>
    withLegEditor model index fun batch leg =>
      match leg.detected with
      | none => (leg.editor, [])
      -- a leg card is mounted without a balance
      | some detected => applyPreset leg.editor detected (legMeta batch detected) none mode
  | .legCustomAmountChanged index text =>
    withLegEditor model index fun _ leg => setCustomText leg.editor text
  | .legGrantDeliberatelyChosen index =>
    withLegEditor model index fun _ leg => setBoolPick leg.editor .grant
  | .legRevokeChosen index =>
    withLegEditor model index fun _ leg => setBoolPick leg.editor .revoke
  | .batchRecipientsResolved recipients =>
    match model.batch with
    | none => (model, [])
    | some batch => ({ model with batch := some { batch with recipients } }, [.render])
  | .shellCompleted attempt result =>
    if attempt = model.attempt then accept model result else (model, [])

@[reducible] def approvalGuard [CaseTable] [Reader] [Writer] : Machine Model Event GuardEffect :=
  ⟨Model.default, update⟩

def increaseTotal (model : Model) (detected : GuardDetectedApproval) (choice : Option GuardChoice) :
    Option GuardIncreaseTotalView :=
  if detected.kind ≠ .increaseAllowance then none
  else
    match model.allowance with
    | .resolved current =>
      if choice = some .revoke then some ⟨none, "0", some "0"⟩
      else
        let increment := match choice with
          | some (.amount amountRaw) => (parseDecU256 amountRaw).getD 0
          | _ => if (requestedAmount detected).neg then 0 else (requestedAmount detected).mag
        some ⟨current.map toString, toString increment,
          current.map fun current => toString (saturatingAdd current increment)⟩
    | _ => none

def legNeedsChoice (approval : Option GuardDetectedApproval) (choice : Option GuardChoice) : Bool :=
  match approval with
  | none => false
  | some detected =>
    if !detected.editable || detected.isReducing then false
    else if detected.isBooleanGrant then choice.isNone
    else if detected.isUnbounded then
      match choice with
      | some (.amount _) => false
      | some .revoke => false
      | some .unlimited => false
      | _ => true
    else false

def legGrantsBroad (approval : Option GuardDetectedApproval) (choice : Option GuardChoice) : Bool :=
  match approval with
  | none => false
  | some detected =>
    if detected.isReducing then false
    else if detected.isBooleanGrant then choice == some .grant || choice.isNone
    else if detected.isUnbounded then
      match choice with
      | some (.amount _) => false
      | some .revoke => false
      | _ => true
    else false

def legView (editable : Bool) (batch : BatchState) (leg : Leg) : GuardLegView :=
  let metaView := match leg.detected with
    | some detected => legMeta batch detected
    | none => unknownMeta batch.metas.isLoading
  let editor := leg.detected.bind fun detected => deriveEditor leg.editor detected metaView none
  let choice := editor.bind (·.choice)
  { target := leg.target
    approval := leg.detected
    metaView := metaView
    editor := editor
    choice := choice
    needsEditor := leg.detected.any (legShowsEditor editable)
    needsChoice := legNeedsChoice leg.detected choice
    grantsBroad := legGrantsBroad leg.detected choice }

def buildBatchView (model : Model) (batch : BatchState) : GuardBatchView :=
  let editable := !model.readOnly
  let legs := batch.legs.map (legView editable batch)
  { legs := legs
    anyUncapped :=
      if editable then legs.any (·.grantsBroad)
      else batch.legs.any fun leg => leg.detected.any fun detected =>
        detected.isUnbounded && !detected.isReducing && !detected.isBooleanGrant
    anyToOwnToken := (batch.legs.zip batch.recipients).any fun (leg, recipients) =>
      leg.target != "" && recipients.any fun recipient =>
        Utf8.eqIgnoreAsciiCase (bytes recipient) (bytes leg.target)
    allSettled := !legs.any (·.needsChoice) }

/-- What the confirm-time rebuild makes of one leg. -/
inductive RebuiltLeg where
  /-- Goes out as it came: not an approval, no decision, or kept as asked. -/
  | kept
  /-- Capped or revoked, and re-encoded. -/
  | rewritten (call : Value)
  /-- Capped or revoked, but it could not be re-encoded: it goes out as it came. -/
  | failed

/-- The re-encoded call of a leg the person capped or revoked. -/
def rewriteLeg (call : Value) (detected : GuardDetectedApproval) (choice : GuardChoice) :
    RebuiltLeg :=
  match (call.get? "data").bind Value.asStr? with
  | none => .failed
  | some data =>
    match rewriteCalldata data detected choice, call with
    | .ok newData, .object members =>
      .rewritten (.object (Value.insertMember "data" (.string newData) members))
    | _, _ => .failed

def rebuildLeg (leg : Leg) (choice : Option GuardChoice) : RebuiltLeg :=
  match leg.detected, choice with
  | some detected, some choice =>
    if detected.editable && choice != .unlimited then rewriteLeg leg.call detected choice
    else .kept
  | _, _ => .kept

def RebuiltLeg.outgoing (call : Value) : RebuiltLeg → Value
  | .rewritten changed => changed
  | _ => call

/-- The rebuilds of all legs, each beside its call. -/
def rebuiltLegs (batch : BatchState) (view : GuardBatchView) : List (Value × RebuiltLeg) :=
  batch.legs.zipWith (fun leg projected => (leg.call, rebuildLeg leg projected.choice)) view.legs

def RebuiltLeg.isRewritten : RebuiltLeg → Bool
  | .rewritten _ => true
  | _ => false

def RebuiltLeg.isFailed : RebuiltLeg → Bool
  | .failed => true
  | _ => false

/-- `rebuild_batch`: the request with the re-encoded calls, nothing when no call
was re-encoded. -/
def rebuildBatch (model : Model) (batch : BatchState) (view : GuardBatchView) : Option Value :=
  let rebuilt := rebuiltLegs batch view
  match model.params with
  | some (.array (.object members :: rest)) =>
    if rebuilt.any (·.2.isRewritten) then
      let calls := rebuilt.map fun (call, leg) => leg.outgoing call
      some (.array (.object (Value.insertMember "calls" (.array calls) members) :: rest))
    else none
  | _ => none

/-- `rewritten_batch_params`: the rebuilt request, and whether every leg the
person capped or revoked was re-encoded. -/
def rewrittenBatchParams [Writer] (model : Model) (batch : BatchState) (view : GuardBatchView) :
    Option String × Bool :=
  ((rebuildBatch model batch view).map toStr,
    model.params.isNone || !(rebuiltLegs batch view).any (·.2.isFailed))

def batchView [Writer] (model : Model) (batch : BatchState) : GuardView :=
  let view := buildBatchView model batch
  let (rewritten, allCapped) := rewrittenBatchParams model batch view
  { surface := .batch
    detected := none
    metaView := unknownMeta batch.metas.isLoading
    editor := none
    confirmAllowed := view.allSettled
    rewrittenParamsJson := rewritten
    unlimitedConsented := allCapped && view.legs.any (·.choice == some .unlimited)
    unlimitedWarning := view.anyUncapped
    increaseTotal := none
    decimalsUnverified := false
    batch := some view }

def noApprovalView (model : Model) : GuardView where
  surface := .none
  detected := none
  metaView := effectiveMeta model
  editor := none
  confirmAllowed := true
  rewrittenParamsJson := none
  unlimitedConsented := false
  unlimitedWarning := false
  increaseTotal := none
  decimalsUnverified := false
  batch := none

def singleSurface (detected : GuardDetectedApproval) : GuardSurface :=
  match detected.locus with
  | .typedPath _ => .permitSign
  | .calldataWord _ => .approvalEditor

/-- The re-encoded request of a single approval, nothing when it is kept as asked
or cannot be re-encoded. -/
def singleRewrite [Reader] [Writer] (model : Model) (detected : GuardDetectedApproval)
    (choice : Option GuardChoice) : Option String :=
  match choice, model.params with
  | some .unlimited, _ => none
  | some choice, some params =>
    if detected.editable then
      (rewriteApprovalParams model.method params detected choice).toOption.map toStr
    else none
  | _, _ => none

def singleView [Reader] [Writer] (model : Model) (detected : GuardDetectedApproval) : GuardView :=
  let metaView := effectiveMeta model
  let editor := deriveEditor model.editor detected metaView model.balance
  let choice := editor.bind (·.choice)
  let surface := singleSurface detected
  let consented := choice == some .unlimited
  { surface := surface
    detected := some detected
    metaView := metaView
    editor := editor
    confirmAllowed := !(detected.editable && choice.isNone)
    rewrittenParamsJson := singleRewrite model detected choice
    unlimitedConsented := consented
    unlimitedWarning := consented ||
      (surface == .permitSign && detected.isUnbounded && !detected.isReducing)
    increaseTotal := increaseTotal model detected choice
    decimalsUnverified :=
      match surface, model.editor with
      | .approvalEditor, .amount _ _ => !metaView.verified
      | .permitSign, _ => !detected.isBooleanGrant && !detected.isUnbounded && !metaView.verified
      | _, _ => false
    batch := none }

def view [Reader] [Writer] (model : Model) : GuardView :=
  match model.batch with
  | some batch => batchView model batch
  | none =>
    match model.detected with
    | none => noApprovalView model
    | some detected => singleView model detected

end VelaWallet.ApprovalGuard
