import VelaWallet.Base.Abi
import VelaWallet.Base.Fallible
import VelaWallet.Guard.AmountText

/-!
# Re-encoding an approval

The person's decision for one approval, and the new calldata or typed-data
document that carries it (`approval_guard.rs`).  A rewrite replaces the amount
word and nothing else, and never emits an unbounded amount.
-/

namespace VelaWallet.ApprovalGuard

open Json (Value Reader Writer fromStr toStr)
open Utf8 (bytes ofAscii stripPrefix CaseTable)
open Fallible (require orFail)

/-- The person's decision for one approval. -/
inductive GuardChoice where
  /-- A finite cap, raw base units as a decimal text. -/
  | amount (amountRaw : String)
  | revoke
  /-- Keep a boolean `true`. -/
  | grant
  /-- Keep the site's own unbounded amount, byte for byte. -/
  | unlimited
  deriving DecidableEq

/-- Why a rewrite, or a choice, was refused. -/
inductive GuardRewriteError where
  | unsupportedMethod
  | wrongLocus
  | malformedParams
  | calldataTooShort
  | amountForBooleanShape
  | grantForAmountShape
  | invalidChoiceAmount
  | unlimitedAmount
  | pathNotFound
  | rewriteChangedLength
  | rewriteTouchedOtherBytes
  deriving DecidableEq

/-- `chosen_amount`: the word a choice asks for. -/
def chosenAmount (detected : GuardDetectedApproval) (choice : GuardChoice) :
    Except GuardRewriteError Nat :=
  match choice with
  | .revoke => .ok 0
  | .grant => if detected.isBooleanGrant then .ok 1 else .error .grantForAmountShape
  | .unlimited =>
    if !detected.isUnbounded || detected.isBooleanGrant then .error .invalidChoiceAmount
    else orFail (detected.amountRaw.bind parseDecU256) .invalidChoiceAmount
  | .amount amountRaw => do
      let amount ← orFail (parseDecU256 amountRaw) .invalidChoiceAmount
      if isUnboundedAmount amount (bitsFromWire detected.amountBits) then
        .error .unlimitedAmount
      else .ok amount

/-- `format!("{:064x}", value)` of a 256-bit word. -/
def hexWord (value : Nat) : List UInt8 := Hex.spell (Bytes.beBytes 32 value)

/-- The new word of a calldata approval: a flag for `setApprovalForAll`, an
amount for every other shape. -/
def newWord (detected : GuardDetectedApproval) (choice : GuardChoice) :
    Except GuardRewriteError (List UInt8) :=
  if detected.kind = .setApprovalForAll then
    match choice with
    | .amount _ => .error .amountForBooleanShape
    | .unlimited => .error .amountForBooleanShape
    | .grant => .ok (hexWord 1)
    | .revoke => .ok (hexWord 0)
  else (chosenAmount detected choice).map hexWord

/-- `assert_only_word_changed`: the two calldatas differ in the window only. -/
def assertOnlyWordChanged (before after : List UInt8) (start stop : Nat) :
    Except GuardRewriteError Unit :=
  let a := stripPrefix [48, 120] before
  let b := stripPrefix [48, 120] after
  if a.length ≠ b.length then .error .rewriteChangedLength
  else if (a.zip b).zipIdx.all fun ((ca, cb), i) => (start ≤ i && i < stop) || ca == cb then
    .ok ()
  else .error .rewriteTouchedOtherBytes

def rewriteCalldata (data : String) (detected : GuardDetectedApproval) (choice : GuardChoice) :
    Except GuardRewriteError String :=
  match detected.locus with
  | .typedPath _ => .error .wrongLocus
  | .calldataWord wordIndex => do
      let hex := stripPrefix [48, 120] (bytes data)
      require (Utf8.IsAscii hex) .malformedParams
      let wordStart := 8 + wordIndex * 64
      let wordEnd := wordStart + 64
      require (wordEnd ≤ hex.length) .calldataTooShort
      let selector ← orFail (Bytes.slice? hex 0 8) .calldataTooShort
      let word ← newWord detected choice
      let head ← orFail (Bytes.slice? hex 8 (wordStart - 8)) .calldataTooShort
      let out := [48, 120] ++ selector ++ head ++ word ++ hex.drop wordEnd
      assertOnlyWordChanged (bytes data) out wordStart wordEnd
      .ok (ofAscii out)

/-- The texts between the dots of a path. -/
def splitDots : List Char → List (List Char)
  | [] => [[]]
  | '.' :: rest => [] :: splitDots rest
  | letter :: rest =>
    match splitDots rest with
    | [] => [[letter]]
    | part :: parts => (letter :: part) :: parts

/-- Replace the member at the end of a path of keys; every key must be there. -/
def setParts (value : Value) : List String → Value → Except GuardRewriteError Value
  | [], _ => .error .pathNotFound
  | [leaf], new =>
    match value with
    | .object members =>
      if (Value.lookup leaf members).isSome then .ok (.object (Value.insertMember leaf new members))
      else .error .pathNotFound
    | _ => .error .pathNotFound
  | part :: rest, new =>
    match value with
    | .object members => do
        let inner ← orFail (Value.lookup part members) .pathNotFound
        let changed ← setParts inner rest new
        .ok (.object (Value.insertMember part changed members))
    | _ => .error .pathNotFound

/-- `set_path`: a dotted path under `message`. -/
def setPath (document : Value) (path : String) (value : Value) : Except GuardRewriteError Value :=
  setParts document ("message" :: (splitDots path.toList).map String.ofList) value

def rewriteTypedData (document : Value) (detected : GuardDetectedApproval) (choice : GuardChoice) :
    Except GuardRewriteError Value :=
  match detected.locus with
  | .calldataWord _ => .error .wrongLocus
  | .typedPath path =>
    if detected.kind = .daiPermit then
      match choice with
      | .amount _ => .error .amountForBooleanShape
      | .unlimited => .error .amountForBooleanShape
      | .grant => setPath document path (.bool true)
      | .revoke => setPath document path (.bool false)
    else do
      let amount ← chosenAmount detected choice
      setPath document path (.string (toString amount))

def withMember (value : Value) (key : String) (new : Value) : Except GuardRewriteError Value :=
  match value with
  | .object members => .ok (.object (Value.insertMember key new members))
  | _ => .error .malformedParams

/-- The document a typed-data slot holds, and how the rewritten one goes back
into it. -/
def rewriteSlot [Reader] [Writer] (raw : Value) (detected : GuardDetectedApproval)
    (choice : GuardChoice) : Except GuardRewriteError Value :=
  match raw with
  | .string text => do
      let document ← orFail (fromStr text) .malformedParams
      let changed ← rewriteTypedData document detected choice
      .ok (.string (toStr changed))
  | document => rewriteTypedData document detected choice

def rewriteApprovalParams [Reader] [Writer] (method : String) (params : Value)
    (detected : GuardDetectedApproval) (choice : GuardChoice) : Except GuardRewriteError Value := do
  let items ← orFail params.asArray? .malformedParams
  if method = "eth_sendTransaction" then
    let tx ← orFail items.head? .malformedParams
    let data ← orFail ((tx.get? "data").bind Value.asStr?) .malformedParams
    let newData ← rewriteCalldata data detected choice
    let newTx ← withMember tx "data" (.string newData)
    .ok (.array (items.set 0 newTx))
  else if looksLikeTypedData method then
    let typedMethod ← orFail (TypedDataMethod.of method) .malformedParams
    let raw ← orFail items[typedMethod.documentIndex]? .malformedParams
    let changed ← rewriteSlot raw detected choice
    .ok (.array (items.set typedMethod.documentIndex changed))
  else .error .unsupportedMethod

end VelaWallet.ApprovalGuard
