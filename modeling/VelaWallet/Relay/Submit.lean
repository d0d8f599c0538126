import Mathlib.Data.List.Infix
import VelaWallet.Base.Json
import VelaWallet.Signer.Address

/-!
# Submitting to the relay

What one POST of a signed operation comes to, and the loop that posts it again while the relay
is busy (`submit_step` of `user_op.rs`, and the loop every client runs around it).
-/

namespace VelaWallet.Relay

open Json (Value Reader Writer fromStr toStr)
open TrustedSigner (isAsciiHexdigit)
open Utf8 (CaseTable toLowercase)

/-- `str::contains` -/
def has (text needle : List Char) : Bool := decide (needle <:+: text)

/-- `str::eq_ignore_ascii_case` -/
def eqIgnoreCase (left right : List Char) : Bool := Chars.lower left == Chars.lower right

/-- The copies of a mark dropped off the start of a text that is at most `fuel` long. -/
def trimStartMatchesWithin (mark : List Char) : Nat → List Char → List Char
  | 0, text => text
  | fuel + 1, text =>
    if mark.isPrefixOf text then trimStartMatchesWithin mark fuel (text.drop mark.length)
    else text

def trimStartMatches (mark text : List Char) : List Char :=
  trimStartMatchesWithin mark text.length text

/-- A slice that ends within a character. -/
inductive SliceError where
  | withinCharacter

/-- `&text[..size]`, for a size that the text has: the characters of its first bytes. -/
def sliceTo : Nat → List Char → Except SliceError (List Char)
  | 0, _ => .ok []
  | _, [] => .ok []
  | size, letter :: text =>
    if letter.utf8Size ≤ size then do
      let rest ← sliceTo (size - letter.utf8Size) text
      return letter :: rest
    else .error .withinCharacter

def existingMark : List Char := "[existingHash:0x".toList

def parseExistingUserOpHash : List Char → Option (List Char)
  | [] => none
  | letter :: text =>
    let message := letter :: text
    let rest := message.drop existingMark.length
    let hex := rest.takeWhile isAsciiHexdigit
    if existingMark.isPrefixOf message ∧ hex ≠ [] ∧ rest[hex.length]? = some ']' then
      some ("0x".toList ++ hex)
    else parseExistingUserOpHash text

inductive ExistingOp where
  | thisOne (userOpHash : List Char)
  | another (userOpHash : List Char)

/-- A hash judged against the operation's own. -/
def ExistingOp.judge (existing own : List Char) : ExistingOp :=
  if eqIgnoreCase existing own then .thisOne existing else .another existing

def existingOp (message own : List Char) : Option ExistingOp :=
  (parseExistingUserOpHash message).map fun existing => .judge existing own

/-- The `error` member of a body, or the value itself. -/
def errorOf (value : Value) : Value := (value.get? "error").getD value

section Parsing

variable [Reader]

def nonceInFlightHash (errorJson : String) : Option (List Char) := do
  let value ← fromStr errorJson
  let data ← (errorOf value).get? "data"
  if (data.get? "reason").bind Value.asStr? = some "nonce_in_flight" then
    let hash ← (data.get? "existingHash").bind Value.asStr?
    if "0x".toList.isPrefixOf hash.toList then
      let hex := hash.toList.drop 2
      if !hex.isEmpty && hex.all isAsciiHexdigit then some hash.toList else none
    else none
  else none

variable [Writer]

/-- The sentences for the refusals the relay is known to word, each with its two wordings. -/
def knownRefusals : List (String × String × String) := [
  ("insufficient funds", "balance too low",
    "Insufficient balance to cover gas fees. Please fund your account."),
  ("could not load bundle", "simulation failed",
    "Transaction simulation failed. The network may be congested or the transaction parameters " ++
      "are invalid. Please try again."),
  ("AA21", "didn't pay prefund",
    "Insufficient gas funds. The bundler account needs more balance on this network."),
  ("AA10", "sender already constructed", "Wallet deployment conflict. Please try again."),
  ("AA13", "initCode failed",
    "Wallet deployment failed. Required contracts may not be deployed on this network."),
  ("AA23", "reverted",
    "Transaction reverted during simulation. Check recipient address and amount."),
  ("AA25", "invalid account nonce", "Transaction nonce mismatch. Please try again."),
  ("rate limit", "429", "Bundler rate limit reached. Please wait a moment and try again.")]

/-- What the relay says of an error: its message, or its data where that is a text. -/
def messageOf (error : Value) : List Char :=
  match (error.get? "message").bind Value.asStr? with
  | some message => message.toList
  | none => (((error.get? "data").bind Value.asStr?).getD "").toList

def relayErrorMessage (errorJson : String) : Except SliceError (List Char) :=
  match fromStr errorJson with
  | none | some .null => .ok "Transaction failed: unknown error".toList
  | some error =>
    let message := messageOf error
    match knownRefusals.find? fun (one, other, _) =>
        has message one.toList || has message other.toList with
    | some (_, _, sentence) => .ok sentence.toList
    | none =>
      let clean := Chars.trim (trimStartMatches "Execution reverted:".toList
        (trimStartMatches "execution reverted:".toList message))
      if clean ≠ [] then .ok ("Transaction failed: ".toList ++ clean)
      else do
        let text ← sliceTo 200 (toStr error).toList
        return "Transaction failed: ".toList ++ text

end Parsing

inductive RelayRejection where
  | relayerUnavailable
  | bundlerUnderfunded
  | nonceHeld (userOpHash : List Char)
  | other (message : List Char)
  deriving DecidableEq

section Refusals

variable [CaseTable]

def isBundlerUnderfunded (message : List Char) : Bool :=
  let lower := (toLowercase (String.ofList message)).toList
  has lower "dedicated bundler gas account".toList || has lower "dedicated bundler eoa".toList ||
    (match Chars.splitOnce "deposit to:".toList lower with
      | some (_, rest) =>
        let first := match Chars.splitOnce "deposit to:".toList rest with
          | some (first, _) => first
          | none => rest
        "0x".toList.isPrefixOf (first.dropWhile Utf8.isWhitespace) && has lower "required:".toList
      | none => false)

def classifyRelayRejection (message : List Char) : RelayRejection :=
  if has (toLowercase (String.ofList message)).toList "gas relayer is unavailable".toList then
    .relayerUnavailable
  else if isBundlerUnderfunded message then .bundlerUnderfunded
  else .other message

end Refusals

def submitMaxRetries : Nat := 3

def submitRetryDelayMs : Nat := 3000

/-- `SubmitReply`: what one POST came back with. -/
inductive SubmitReply where
  | hash (text : List Char)
  | error (errorJson : String)
  | noAnswer

/-- `SubmitVerdict`: how a submit ended. -/
inductive SubmitVerdict where
  | accepted (userOpHash : List Char)
  | maybeSent (userOpHash : List Char)
  | notSent (rejection : Option RelayRejection)
  deriving DecidableEq

inductive SubmitStep where
  | done (verdict : SubmitVerdict)
  | retryAfter (delayMs : Nat)

/-- `is_op_hash`: `0x` and 64 hexadecimal digits. -/
def isOpHash (text : List Char) : Bool :=
  text.length == 66 && "0x".toList.isPrefixOf text && (text.drop 2).all isAsciiHexdigit

def isBusyWording (text : List Char) : Bool :=
  has text "currently processing".toList || has text "Retry later".toList

section Submitting

variable [Reader] [Writer] [CaseTable]

def submitStep (reply : SubmitReply) (attempt : Nat) (maybeDelivered : Bool) (own : List Char) :
    Except SliceError SubmitStep :=
  match reply with
  | .hash hash =>
    if isOpHash (Chars.trim hash) then .ok (.done (.accepted (Chars.trim hash)))
    else .ok (.done (.maybeSent own))
  | .error errorJson => do
      let sentence ← relayErrorMessage errorJson
      let structured := (nonceInFlightHash errorJson).map fun hash => ExistingOp.judge hash own
      match ((existingOp errorJson.toList own).or structured).or (existingOp sentence own) with
      | some (.thisOne existing) => return .done (.accepted existing)
      | some (.another previous) =>
        if maybeDelivered then return .done (.maybeSent own)
        else return .done (.notSent (some (.nonceHeld previous)))
      | none =>
        if (isBusyWording errorJson.toList || isBusyWording sentence) &&
            attempt < submitMaxRetries then
          return .retryAfter submitRetryDelayMs
        else if maybeDelivered then return .done (.maybeSent own)
        else return .done (.notSent (some (classifyRelayRejection sentence)))
  | .noAnswer =>
    if maybeDelivered then .ok (.done (.maybeSent own)) else .ok (.done (.notSent none))

/-- What a POST came to: the reply, and whether it may have been delivered. -/
structure Routed where
  reply : SubmitReply
  maybeDelivered : Bool

/-- How far the loop is: at its end after some POSTs, waiting for the next, or stopped within a
step. -/
inductive LoopState where
  | concluded (verdict : SubmitVerdict) (posts : Nat)
  | waiting (posts : Nat)
  | stopped (posts : Nat)
  deriving DecidableEq

/-- `submit_loop`, from its state before a POST. -/
def submitFrom (own : List Char) (attempt : Nat) (maybeDelivered : Bool) :
    List Routed → LoopState
  | [] => .waiting attempt
  | routed :: rest =>
    let maybeDelivered := maybeDelivered || routed.maybeDelivered
    match submitStep routed.reply attempt maybeDelivered own with
    | .ok (.done verdict) => .concluded verdict (attempt + 1)
    | .ok (.retryAfter _) => submitFrom own (attempt + 1) maybeDelivered rest
    | .error _ => .stopped (attempt + 1)

/-- `submit_loop`: the operation posted until its verdict, with what the POSTs come to. -/
def submitLoop (own : List Char) (posts : List Routed) : LoopState :=
  submitFrom own 0 false posts

end Submitting

end VelaWallet.Relay
