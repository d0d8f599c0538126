import VelaWallet.Base.Machine
import VelaWallet.Base.Percent
import VelaWallet.Send.FeePolicy

/-!
# Payment requests

The machine of `payment_request.rs`: the receive screen's warning gate, the
request builder with its pay link and code, and the reader of the untrusted
query a pay link is opened with.
-/

namespace VelaWallet.PaymentRequest

open Utf8 (bytes trim)

/-- The picked asset's facts. -/
structure Asset where
  chainId : UInt32 := 1
  tokenAddress : Option String := none
  symbol : String := "ETH"
  decimals : UInt32 := 18
  networkName : String := "Ethereum"

inductive Mode where
  | address
  | request
  deriving DecidableEq

/-- A validated request, every field normalized. -/
structure PayRequest where
  recipient : String
  chainId : UInt32
  tokenAddress : Option String
  amount : Option String
  amountBase : Option String
  symbol : String
  decimals : UInt32
  networkName : String
  eip681Uri : String

inductive Operation where
  | readAck (account : String)
  | writeAck (account : String)

inductive ShellResult where
  | ackFlag (acknowledged : Bool)
  | ackWritten

inductive Effect where
  | render
  | shell (attempt : Nat) (operation : Operation)

/-- The query a pay link is opened with. -/
structure PayQuery where
  target : Option String
  chain : Option String
  token : Option String
  amount : Option String
  sym : Option String
  dec : Option String
  net : Option String

inductive Event where
  | start (account recipient baseUrl : String)
  | modeChanged (mode : Mode)
  | assetPicked (asset : Asset)
  | amountChanged (text : String)
  | includeNetworkChanged (included : Bool)
  | acknowledge
  | linkOpened (query : PayQuery)
  | shellCompleted (attempt : Nat) (result : ShellResult)

inductive Gate where
  | loading
  | unacknowledged
  | acknowledged
  deriving DecidableEq

inductive PayParse where
  | notOpened
  | invalid
  | valid (request : PayRequest)

structure Model where
  account : String := ""
  gate : Gate := .loading
  baseUrl : String := ""
  recipient : String := ""
  mode : Mode := .address
  asset : Asset := {}
  amount : String := ""
  includeNetwork : Bool := false
  pay : PayParse := .notOpened
  attempt : Nat := 0

/-- `str::split_once('.')`, on characters. -/
def splitPoint (text : List Char) : Option (List Char × List Char) :=
  if '.' ∈ text then some (text.takeWhile (· != '.'), (text.dropWhile (· != '.')).drop 1) else none

/-- `sanitize_amount`: with more than one point, the text itself without its last
character. -/
def sanitizeAmount (text : String) (maxDecimals : Nat) : String :=
  let cleaned := text.toList.filter fun character => character.isDigit || character == '.'
  if 1 < cleaned.count '.' then String.ofList text.toList.dropLast
  else
    match splitPoint cleaned with
    | some (whole, fraction) =>
      if maxDecimals < fraction.length then
        String.ofList (whole ++ '.' :: fraction.take maxDecimals)
      else String.ofList cleaned
    | none => String.ofList cleaned

def isPositiveDigit (character : Char) : Bool := '1' ≤ character && character ≤ '9'

def hasPositiveAmount (amount : String) : Bool :=
  let (whole, fraction) := (splitPoint amount.toList).getD (amount.toList, [])
  (whole ++ fraction).any isPositiveDigit

/-- `to_base_units`, on text: the fraction is cut or padded to the decimals, counted
in bytes when it is padded. -/
def toBaseUnits (amount : String) (decimals : Nat) : String :=
  let trimmed := (trim amount).toList
  if trimmed.isEmpty then "0"
  else
    let (whole, fraction) := (splitPoint trimmed).getD (trimmed, [])
    let cut := fraction.take decimals
    let padding := List.replicate (decimals - (bytes (String.ofList cut)).length) '0'
    let joined := (if whole.isEmpty then ['0'] else whole) ++ cut ++ padding
    let stripped := joined.dropWhile (· == '0')
    if stripped.isEmpty then "0" else String.ofList stripped

def buildEip681 (recipient : String) (chainId : UInt32) (tokenAddress : Option String)
    (decimals : Nat) (amount : String) : String :=
  let chain := toString chainId.toNat
  match tokenAddress with
  | some token =>
    "ethereum:" ++ token ++ "@" ++ chain ++ "/transfer?address=" ++ recipient ++
      (if hasPositiveAmount amount then "&uint256=" ++ toBaseUnits amount decimals else "")
  | none =>
    "ethereum:" ++ recipient ++ "@" ++ chain ++
      (if hasPositiveAmount amount then "?value=" ++ toBaseUnits amount decimals else "")

/-- The parameters of a pay link, as they are written. -/
def payParameters (recipient : String) (asset : Asset) (amount : String) :
    List (String × String) :=
  [("to", Uri.encodeComponent recipient), ("chain", toString asset.chainId.toNat)] ++
    (asset.tokenAddress.toList.map fun token => ("token", Uri.encodeComponent token)) ++
    (if hasPositiveAmount amount then [("amount", Uri.encodeComponent amount)] else []) ++
    [("sym", Uri.encodeComponent asset.symbol), ("dec", toString asset.decimals.toNat)] ++
    (if asset.networkName = "" then [] else [("net", Uri.encodeComponent asset.networkName)])

def buildPayLink (baseUrl recipient : String) (asset : Asset) (amount : String) : String :=
  baseUrl ++ "?" ++ Uri.writeQuery (payParameters recipient asset amount)

/-- `is_hex_address`: white space around it is ignored. -/
def isHexAddress (text : String) : Bool := FeePolicy.isValidAddress (trim text)

def isDigits (text : String) : Bool := text.toList.all Char.isDigit

def isStrictAmount (amount : String) (decimals : Nat) : Bool :=
  let (whole, fraction) := match splitPoint amount.toList with
    | some (whole, fraction) => (whole, some fraction)
    | none => (amount.toList, none)
  whole.all Char.isDigit &&
    (fraction.all fun digits =>
      digits.all Char.isDigit && (bytes (String.ofList digits)).length ≤ decimals) &&
    !(whole.isEmpty && fraction.all List.isEmpty)

/-- `str::parse::<u32>`. -/
def parseU32 (text : String) : Option UInt32 :=
  (Decimal.parseU128 (bytes text)).bind fun value =>
    if value < 2 ^ 32 then some (UInt32.ofNat value) else none

/-- The text trimmed, unless nothing is left of it. -/
def filled (text : Option String) : Option String := some (trim (text.getD "")) |>.filter (· ≠ "")

/-- The decimals of a query: 18 when they do not read, or read as zero. -/
def queryDecimals (dec : Option String) : UInt32 :=
  ((((dec.map trim).filter fun text => text ≠ "" && isDigits text).bind parseU32).filter
    (· ≠ 0)).getD 18

def validatePayQuery (query : PayQuery) : PayParse :=
  let recipient := trim (query.target.getD "")
  let chain := trim (query.chain.getD "")
  if !isHexAddress recipient then .invalid
  else if chain = "" || !isDigits chain then .invalid
  else
    match parseU32 chain with
    | none => .invalid
    | some chainId =>
      let decimals := queryDecimals query.dec
      let tokenAddress := filled query.token
      let amount := filled query.amount
      if amount.any fun text => !isStrictAmount text decimals.toNat then .invalid
      else .valid {
        recipient
        chainId
        tokenAddress
        amount
        amountBase := amount.map fun text => toBaseUnits text decimals.toNat
        symbol := (filled query.sym).getD "tokens"
        decimals
        networkName := (filled query.net).getD ("Chain " ++ toString chainId.toNat)
        eip681Uri := buildEip681 recipient chainId tokenAddress decimals.toNat (amount.getD "") }

/-- `request`: the answer must match the attempt it was asked in. -/
def request (operation : Operation) (model : Model) : Model × List Effect :=
  (model, [.shell model.attempt operation, .render])

/-- The answer of a shell, in the attempt it was asked for. -/
def shellAnswer (result : ShellResult) (model : Model) : Model × List Effect :=
  match model.gate, result with
  | .loading, .ackFlag acknowledged =>
    ({ model with gate := if acknowledged then .acknowledged else .unacknowledged }, [.render])
  | _, _ => (model, [])

def update (event : Event) (model : Model) : Model × List Effect :=
  match event with
  | .start account recipient baseUrl =>
    request (.readAck account) { model with
      attempt := model.attempt + 1
      account, recipient, baseUrl
      includeNetwork := false
      gate := .loading }
  | .modeChanged mode => ({ model with mode }, [.render])
  | .includeNetworkChanged included => ({ model with includeNetwork := included }, [.render])
  | .assetPicked asset =>
    ({ model with asset, amount := sanitizeAmount model.amount asset.decimals.toNat }, [.render])
  | .amountChanged text =>
    ({ model with amount := sanitizeAmount text model.asset.decimals.toNat }, [.render])
  | .acknowledge =>
    if model.gate ≠ .unacknowledged then (model, [])
    else request (.writeAck model.account) { model with gate := .acknowledged }
  | .linkOpened query => ({ model with pay := validatePayQuery query }, [.render])
  | .shellCompleted attempt result =>
    if attempt ≠ model.attempt then (model, []) else shellAnswer result model

def machine : Machine Model Event Effect where
  init := {}
  step := update

def eip681Uri (model : Model) : String :=
  if model.recipient = "" then ""
  else buildEip681 model.recipient model.asset.chainId model.asset.tokenAddress
    model.asset.decimals.toNat model.amount

def payLink (model : Model) : String :=
  if model.recipient = "" then ""
  else buildPayLink model.baseUrl model.recipient model.asset model.amount

/-- The view the screen draws. -/
structure View where
  gateLoading : Bool
  acknowledged : Bool
  canCopy : Bool
  canSave : Bool
  mode : Mode
  asset : Asset
  amount : String
  eip681Uri : String
  payLink : String
  qrValue : String
  copyPayload : String
  networkSwitch : Bool
  includeNetwork : Bool
  networkHint : Bool
  hasAmount : Bool
  payValid : Option Bool
  pay : Option PayRequest

def view (model : Model) : View :=
  let acknowledged := model.gate == .acknowledged
  let isRequest := model.mode == .request
  let networkSwitch := !isRequest && model.recipient != ""
  let networkHint := networkSwitch && model.includeNetwork
  { gateLoading := model.gate == .loading
    acknowledged
    canCopy := acknowledged
    canSave := acknowledged
    mode := model.mode
    asset := model.asset
    amount := model.amount
    eip681Uri := eip681Uri model
    payLink := payLink model
    qrValue :=
      if isRequest && eip681Uri model != "" then eip681Uri model
      else if networkHint then buildEip681 model.recipient model.asset.chainId none 0 ""
      else model.recipient
    copyPayload := if isRequest then payLink model else model.recipient
    networkSwitch
    includeNetwork := model.includeNetwork
    networkHint
    hasAmount := hasPositiveAmount model.amount
    payValid := match model.pay with
      | .notOpened => none
      | .invalid => some false
      | .valid _ => some true
    pay := match model.pay with
      | .valid request => some request
      | _ => none }

end VelaWallet.PaymentRequest
