import VelaWallet.Base.Decimal
import VelaWallet.Codec.TypedDataRequest

/-!
# Detecting approvals

Every approval-granting shape the wallet recognises, read off the raw calldata
text or the typed-data document (`approval_guard.rs`), and the submit-time
refusal of unbounded amounts.  Amounts travel as decimal texts; a 256-bit word
is a `Nat`.
-/

namespace VelaWallet.ApprovalGuard

open Json (Value Reader Writer)
open Utf8 (bytes ofAscii stripPrefix CaseTable toLowercase toAsciiLowercase)

/-- `UNLIMITED_CAP_256`: limbs `[0, 0, 0, 1 << 8]`. -/
def unlimitedCap256 : Nat := 2 ^ 200

/-- `UNLIMITED_CAP_160`: limbs `[0, 0, 1 << 24, 0]`. -/
def unlimitedCap160 : Nat := 2 ^ 152

/-- Field width of an approval amount. -/
inductive AmountBits where
  | b256
  | b160

def capForBits : AmountBits → Nat
  | .b160 => unlimitedCap160
  | .b256 => unlimitedCap256

def isUnboundedAmount (amount : Nat) (bits : AmountBits) : Bool := capForBits bits ≤ amount

/-- `bits_from_wire`: 160 when the wire says so, 256 otherwise. -/
def bitsFromWire (bits : Option Nat) : AmountBits := if bits = some 160 then .b160 else .b256

/-- `approve(address,uint256)`. -/
def selApprove : List UInt8 := bytes "095ea7b3"
/-- `increaseAllowance(address,uint256)`. -/
def selIncreaseAllowance : List UInt8 := bytes "39509351"
/-- `decreaseAllowance(address,uint256)`. -/
def selDecreaseAllowance : List UInt8 := bytes "a457c2d7"
/-- `setApprovalForAll(address,bool)`. -/
def selSetApprovalForAll : List UInt8 := bytes "a22cb465"
/-- Permit2 on-chain `approve(address,address,uint160,uint48)`. -/
def selPermit2Approve : List UInt8 := bytes "87517c45"

inductive GuardApprovalKind where
  | erc20Approve
  | increaseAllowance
  | decreaseAllowance
  | setApprovalForAll
  | erc2612Permit
  | daiPermit
  | permit2Single
  | permit2Batch
  deriving DecidableEq

/-- Why editing is blocked. -/
inductive GuardBlockReason where
  | offChainPermit
  | daiPermitFullBalance
  deriving DecidableEq

/-- Where the amount lives, for the rewrite step. -/
inductive GuardLocus where
  | calldataWord (wordIndex : Nat)
  | typedPath (path : String)
  deriving DecidableEq

/-- A detected approval-granting request. -/
structure GuardDetectedApproval where
  kind : GuardApprovalKind
  tokenAddress : Option String
  spender : String
  /-- Granted amount in raw base units; none for boolean grants. -/
  amountRaw : Option String
  amountBits : Option Nat
  isUnbounded : Bool
  isBooleanGrant : Bool
  isReducing : Bool
  editable : Bool
  blockReason : Option GuardBlockReason
  deadline : Option String
  locus : GuardLocus
  deriving DecidableEq

/-- A signed big value: only detection needs the sign. -/
structure BigVal where
  neg : Bool
  mag : Nat
  deriving DecidableEq

namespace BigVal

def zero : BigVal := ⟨false, 0⟩

def isZero (value : BigVal) : Bool := value.mag == 0

def toDec (value : BigVal) : String :=
  if value.neg && value.mag != 0 then "-" ++ toString value.mag else toString value.mag

end BigVal

/-- The largest 256-bit word, which every out-of-range value saturates to. -/
def u256Max : Nat := 2 ^ 256 - 1

/-- The number a row of digits below `base` spells. -/
def radixNat? (base : Nat) (digits : List UInt8) : Option Nat :=
  digits.foldlM (fun value byte =>
    (Hex.digitValue? byte).bind fun digit =>
      if digit < base then some (value * base + digit) else none) 0

/-- `U256::from_str_radix(digits, base).unwrap_or(U256::MAX)` on digits. -/
def saturating (value : Nat) : Nat := if value < 2 ^ 256 then value else u256Max

/-- `parse_dec_saturating`, on validated digits. -/
def parseDecSaturating (digits : List UInt8) : Nat :=
  saturating ((Decimal.natOf? digits).getD u256Max)

/-- `parse_dec_u256`: unsigned decimal digits only. -/
def parseDecU256 (text : String) : Option Nat :=
  let digits := bytes text
  if digits.isEmpty ∨ ¬ ∀ byte ∈ digits, Decimal.IsDigit byte then none
  else (Decimal.natOf? digits).bind fun value => if value < 2 ^ 256 then some value else none

/-- The radix prefixes `str_to_big` reads, with what follows. -/
def radixOf (text : List UInt8) : Option (Nat × List UInt8) :=
  let head := toAsciiLowercase (text.take 2)
  if head = bytes "0x" then some (16, text.drop 2)
  else if head = bytes "0b" then some (2, text.drop 2)
  else if head = bytes "0o" then some (8, text.drop 2)
  else none

def strToBig (text : List UInt8) : BigVal :=
  if text.isEmpty then .zero
  else
    match radixOf text with
    | some (base, body) =>
      if body.isEmpty then .zero
      else
        match radixNat? base body with
        | none => .zero
        | some value => ⟨false, saturating value⟩
    | none =>
      let neg := text.head? == some 45
      let digits := if neg then text.drop 1 else text
      if digits.isEmpty ∨ ¬ ∀ byte ∈ digits, Decimal.IsDigit byte then .zero
      else
        let mag := parseDecSaturating digits
        ⟨neg && mag != 0, mag⟩

def parseSignedDec (text : String) : BigVal := strToBig (bytes text)

/-- `f64_to_big`, on the bits of the double: truncation towards zero, exact
below `2^256`, saturating above. -/
def f64ToBig (bits : Nat) : BigVal :=
  let neg := bits / 2 ^ 63 % 2 == 1
  let biased := bits / 2 ^ 52 % 2 ^ 11
  let mantissa := bits % 2 ^ 52 + 2 ^ 52
  if biased = 0x7ff then .zero
  else if biased < 1023 then .zero
  else if biased < 1076 then
    -- below 2^53 the cast to an integer is exact
    ⟨neg, mantissa / 2 ^ (1075 - biased)⟩
  else
    let exponent := biased - 1075
    if 256 ≤ exponent then ⟨neg, u256Max⟩ else ⟨neg, saturating (mantissa * 2 ^ exponent)⟩

/-- `to_big`: anything unconvertible is zero. -/
def toBig (value : Option Value) : BigVal :=
  match value with
  | some (.number (.posInt number)) => ⟨false, number.toNat⟩
  | some (.number (.negInt number)) => ⟨decide (number.toInt < 0), number.toInt.natAbs⟩
  | some (.number (.float bits)) => f64ToBig bits.toNat
  | some (.string text) => strToBig (bytes (Utf8.trim text))
  | _ => .zero

/-- `big_from_word`: a short word is padded with zeros on the right, a word that
is not hex declines. -/
def bigFromWord (word : List UInt8) : Option Nat :=
  if word.isEmpty then some 0
  else if ¬ ∀ byte ∈ word, Hex.IsDigit byte then none
  else
    (Hex.natOf? (word ++ List.replicate (64 - word.length) 48)).bind fun value =>
      if value < 2 ^ 256 then some value else none

/-- `lc`: a text lower-cased, empty for anything else. -/
def lc [CaseTable] (value : Option Value) : String :=
  match value with
  | some (.string text) => toLowercase text
  | _ => ""

def nonempty (text : String) : Option String := if text = "" then none else some text

def jsTruthy (value : Option Value) : Bool :=
  match value with
  | none => false
  | some .null => false
  | some (.bool value) => value
  | some (.number (.posInt number)) => number != 0
  | some (.number (.negInt number)) => number.toInt != 0
  | some (.number (.float bits)) =>
    -- a double is falsy when it is a zero of either sign or not a number
    let magnitude := bits.toNat % 2 ^ 63
    magnitude != 0 && magnitude ≤ 0x7ff0000000000000
  | some (.string text) => text != ""
  | some (.array _) => true
  | some (.object _) => true

def isJsOneOrTrue (value : Option Value) : Bool :=
  match value with
  | some (.bool value) => value
  | some (.string text) => text == "true" || text == "1"
  | some (.number (.posInt number)) => number == 1
  | some (.number (.float bits)) => bits == 0x3ff0000000000000
  | _ => false

/-- The selector of a lower-cased calldata text. -/
def selectorText (hex : List UInt8) : List UInt8 := hex.take 8

/-- The `index`-th argument word of a lower-cased calldata text, as much of it
as there is. -/
def wordText (hex : List UInt8) (index : Nat) : List UInt8 := (hex.drop (8 + index * 64)).take 64

def addrFromWord (word : List UInt8) : String := ofAscii (hexPrefix ++ word.drop 24)
where
  hexPrefix : List UInt8 := [48, 120]

/-- The record of an amount-carrying calldata approval. -/
def amountApproval (kind : GuardApprovalKind) (tokenAddress : Option String) (spender : String)
    (amount : Nat) (bits : AmountBits) (isUnbounded isReducing : Bool) (deadline : Option String)
    (wordIndex : Nat) : GuardDetectedApproval where
  kind := kind
  tokenAddress := tokenAddress
  spender := spender
  amountRaw := some (toString amount)
  amountBits := some (match bits with | .b256 => 256 | .b160 => 160)
  isUnbounded := isUnbounded
  isBooleanGrant := false
  isReducing := isReducing
  editable := true
  blockReason := none
  deadline := deadline
  locus := .calldataWord wordIndex

/-- `detect_calldata_approval` past its guards: the selector table. -/
def detectHex [CaseTable] (target : Option String) (hex : List UInt8) :
    Option GuardDetectedApproval :=
  let tokenFromTo := target.map toLowercase
  if selectorText hex = selApprove then do
    let amount ← bigFromWord (wordText hex 1)
    some (amountApproval .erc20Approve tokenFromTo (addrFromWord (wordText hex 0)) amount .b256
      (isUnboundedAmount amount .b256) (amount == 0) none 1)
  else if selectorText hex = selIncreaseAllowance then do
    let amount ← bigFromWord (wordText hex 1)
    some (amountApproval .increaseAllowance tokenFromTo (addrFromWord (wordText hex 0)) amount
      .b256 (isUnboundedAmount amount .b256) false none 1)
  else if selectorText hex = selDecreaseAllowance then do
    let amount ← bigFromWord (wordText hex 1)
    some (amountApproval .decreaseAllowance tokenFromTo (addrFromWord (wordText hex 0)) amount
      .b256 false true none 1)
  else if selectorText hex = selPermit2Approve then do
    let token := addrFromWord (wordText hex 0)
    let amount ← bigFromWord (wordText hex 2)
    let deadline ← bigFromWord (wordText hex 3)
    some (amountApproval .permit2Single (if token = "0x" then none else some token)
      (addrFromWord (wordText hex 1)) amount .b160 (isUnboundedAmount amount .b160) (amount == 0)
      (some (toString deadline)) 2)
  else if selectorText hex = selSetApprovalForAll then do
    let approved ← (bigFromWord (wordText hex 1)).map (· != 0)
    some
      { kind := .setApprovalForAll
        tokenAddress := tokenFromTo
        spender := addrFromWord (wordText hex 0)
        amountRaw := none
        amountBits := none
        isUnbounded := approved
        isBooleanGrant := true
        isReducing := !approved
        editable := true
        blockReason := none
        deadline := none
        locus := .calldataWord 1 }
  else none

def detectCalldataApproval [CaseTable] (target data : Option String) :
    Option GuardDetectedApproval := do
  let data ← data
  if data = "" ∨ data = "0x" then none
  else
    let stripped := stripPrefix [48, 120] (bytes data)
    if ¬ Utf8.IsAscii stripped then none
    else
      let hex := toAsciiLowercase stripped
      if hex.length < 8 then none else detectHex target hex

/-- A member read through an optional value. -/
def member (value : Value) (key : String) : Option Value := value.get? key

/-- The object under a key, empty when it is absent or null. -/
def objectOrEmpty (document : Value) (key : String) : Value :=
  match document.get? key with
  | none => .object []
  | some .null => .object []
  | some value => value

/-- The record of an off-chain permit: never editable, signed verbatim. -/
def permitApproval (kind : GuardApprovalKind) (tokenAddress : Option String) (spender : String)
    (amount : BigVal) (bits : AmountBits) (deadline : Option String) (path : String) :
    GuardDetectedApproval where
  kind := kind
  tokenAddress := tokenAddress
  spender := spender
  amountRaw := some amount.toDec
  amountBits := some (match bits with | .b256 => 256 | .b160 => 160)
  isUnbounded := !amount.neg && isUnboundedAmount amount.mag bits
  isBooleanGrant := false
  isReducing := amount.isZero
  editable := false
  blockReason := some .offChainPermit
  deadline := deadline
  locus := .typedPath path

/-- The record of an off-chain batch permit. -/
def permitBatchApproval [CaseTable] (message : Value) (list : List Value) (bits : AmountBits)
    (deadline : Option String) (path : String) : GuardDetectedApproval where
  kind := .permit2Batch
  tokenAddress := none
  spender := lc (message.get? "spender")
  amountRaw := none
  amountBits := some (match bits with | .b256 => 256 | .b160 => 160)
  isUnbounded := list.any fun entry =>
    let amount := toBig (entry.get? "amount")
    !amount.neg && isUnboundedAmount amount.mag bits
  isBooleanGrant := false
  isReducing := false
  editable := false
  blockReason := some .offChainPermit
  deadline := deadline
  locus := .typedPath path

def detectTypedDataApproval [CaseTable] (document : Value) : Option GuardDetectedApproval :=
  if ¬ document.isObject then none
  else
    let primaryType := ((document.get? "primaryType").bind Value.asStr?).getD ""
    let message := objectOrEmpty document "message"
    let domain := objectOrEmpty document "domain"
    if primaryType = "Permit" ∧ (message.get? "allowed").isSome then
      let allowed := isJsOneOrTrue (message.get? "allowed")
      some
        { kind := .daiPermit
          tokenAddress := nonempty (lc (domain.get? "verifyingContract"))
          spender := lc (message.get? "spender")
          amountRaw := none
          amountBits := none
          isUnbounded := allowed
          isBooleanGrant := true
          isReducing := !allowed
          editable := false
          blockReason := if allowed then some .daiPermitFullBalance else none
          deadline := some (toBig (message.get? "expiry")).toDec
          locus := .typedPath "allowed" }
    else if primaryType = "Permit" ∧ (message.get? "value").isSome then
      some (permitApproval .erc2612Permit (nonempty (lc (domain.get? "verifyingContract")))
        (lc (message.get? "spender")) (toBig (message.get? "value")) .b256
        (some (toBig (message.get? "deadline")).toDec) "value")
    else if primaryType = "PermitSingle" ∧ jsTruthy (message.get? "details") then
      let details := (message.get? "details").getD (.object [])
      some (permitApproval .permit2Single (nonempty (lc (details.get? "token")))
        (lc (message.get? "spender")) (toBig (details.get? "amount")) .b160
        (some (toBig (details.get? "expiration")).toDec) "details.amount")
    else
      match primaryType, (message.get? "details").bind Value.asArray?,
          (message.get? "permitted").bind Value.asArray? with
      | "PermitBatch", some list, _ => some (permitBatchApproval message list .b160 none "details")
      | "PermitTransferFrom", _, _ =>
        if jsTruthy (message.get? "permitted") then
          let permitted := (message.get? "permitted").getD (.object [])
          some (permitApproval .permit2Single (nonempty (lc (permitted.get? "token")))
            (lc (message.get? "spender")) (toBig (permitted.get? "amount")) .b256
            (some (toBig (message.get? "deadline")).toDec) "permitted.amount")
        else none
      | "PermitBatchTransferFrom", _, some list =>
        some (permitBatchApproval message list .b256
          (some (toBig (message.get? "deadline")).toDec) "permitted")
      | _, _, _ => none

def detectApproval [CaseTable] [Reader] [Writer] (method : String) (params : Option Value) :
    Option GuardDetectedApproval := do
  let params ← params
  let items ← params.asArray?
  let first ← items.head?
  if method = "eth_sendTransaction" then
    if first.isObject then
      detectCalldataApproval ((first.get? "to").bind Value.asStr?)
        ((first.get? "data").bind Value.asStr?)
    else none
  else if looksLikeTypedData method then
    match canonical method params with
    | .ok read => detectTypedDataApproval read.document
    | .error _ => none
  else none

/-- The refusal: this request would grant an unbounded allowance. -/
structure GuardUnlimitedApproval where
  kind : GuardApprovalKind
  amountRaw : String
  deriving DecidableEq

/-- What `enforce_no_unlimited` says about a detected approval: typed data,
boolean grants and reductions pass, and so does an amount below its cap. -/
def enforceDetected (detected : GuardDetectedApproval) : Except GuardUnlimitedApproval Unit :=
  match detected.locus with
  | .typedPath _ => .ok ()
  | .calldataWord _ =>
    if detected.isBooleanGrant then .ok ()
    else if detected.isReducing then .ok ()
    else
      match detected.amountRaw, detected.amountBits with
      | some amountRaw, some bits =>
        let amount := parseSignedDec amountRaw
        if !amount.neg && isUnboundedAmount amount.mag (bitsFromWire (some bits)) then
          .error ⟨detected.kind, amountRaw⟩
        else .ok ()
      | _, _ => .ok ()

def enforceNoUnlimited [CaseTable] [Reader] [Writer] (method : String) (params : Option Value) :
    Except GuardUnlimitedApproval Unit :=
  match detectApproval method params with
  | none => .ok ()
  | some detected => enforceDetected detected

end VelaWallet.ApprovalGuard
