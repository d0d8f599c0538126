import Mathlib.Data.List.MinMax
import VelaWallet.Base.Floating
import VelaWallet.Fee.Pricing

/-!
# The coin a fee is paid in

What an operation takes out of each coin, what it leaves to pay a fee from, and the
coin the machine picks when nobody chose one (`fee_policy.rs`).
-/

namespace VelaWallet.FeePolicy

open Utf8 (bytes ofAscii toAsciiLowercase)

def findQuote (quotes : List ParsedQuote) (feeToken : Option String) : Option ParsedQuote :=
  quotes.find? fun quote => match feeToken with
    | some wanted => !quote.isNative && quote.feeToken.any (sameText · wanted)
    | none => quote.isNative

/-- `bare_hex`, on the text's bytes. -/
def bareHex (hex : String) : List UInt8 :=
  let text := bytes (Utf8.trim hex)
  let clean := if hexMark.isPrefixOf text then text.drop 2
    else if [48, 88].isPrefixOf text then text.drop 2 else text
  toAsciiLowercase clean

structure Outflows where
  native : Nat
  tokens : List (String × Nat)
  openCalls : List (List UInt8 × List UInt8)

/-- One more amount of a token, beside what was counted of it. -/
def addToken (tokens : List (String × Nat)) (token : String) (amount : Nat) :
    List (String × Nat) :=
  match tokens with
  | [] => [(token, amount)]
  | (held, sum) :: rest =>
    if sameText held token then (held, saturatingAdd sum amount) :: rest
    else (held, sum) :: addToken rest token amount

/-- The selector of `transfer(address,uint256)`, as hex digits. -/
def transferSelector : List UInt8 := bytes "a9059cbb"

def transferAmount? (data : String) : Option Nat :=
  let digits := toAsciiLowercase (Utf8.trimStartMatches hexMark (bytes data))
  if digits.length = 136 ∧ transferSelector.isPrefixOf digits then
    some (((Hex.natOf? (digits.drop 72)).map narrowSaturating).getD maxU128)
  else none

/-- One turn of `Outflows::of_calls`. -/
def Outflows.count (outflows : Outflows) (call : FeeCall) : Outflows :=
  let outflows := { outflows with
    native := saturatingAdd outflows.native ((parseUnits call.value).getD 0) }
  if isContractCall call then
    { outflows with openCalls := outflows.openCalls ++ [(bareHex call.target, bareHex call.data)] }
  else
    match transferAmount? call.data with
    | some amount => { outflows with tokens := addToken outflows.tokens call.target amount }
    | none => outflows

def Outflows.ofCalls (calls : List FeeCall) : Outflows := calls.foldl Outflows.count ⟨0, [], []⟩

def Outflows.of (outflows : Outflows) (row : ParsedQuote) : Nat :=
  if row.isNative then outflows.native
  else
    match row.feeToken.bind fun contract =>
      outflows.tokens.find? fun token => sameText token.1 contract with
    | some token => token.2
    | none => 0

/-- A needle stands at a whole byte of a row of hex digits. -/
def namesToken (needle : List UInt8) : List UInt8 → Bool
  | [] => false
  | high :: rest => needle.isPrefixOf (high :: rest) || match rest with
      | [] => false
      | _ :: rest => namesToken needle rest

def Outflows.spendsUnstated (outflows : Outflows) (row : ParsedQuote) : Bool :=
  if row.isNative then false
  else
    match row.feeToken.map bareHex with
    | none => false
    | some token =>
      if token.length ≠ 40 then false
      else outflows.openCalls.any fun call => call.1 == token || namesToken token call.2

/-- The measured changes, a coin and a signed number of base units each. -/
abbrev Measured := List (Option String × Int)

/-- `i128::saturating_add`. -/
def saturatingAddInt (left right : Int) : Int :=
  max (-2 ^ 127) (min (left + right) (2 ^ 127 - 1))

def measuredChange (changes : Measured) (row : ParsedQuote) : Int :=
  (changes.filter fun change => match change.1, row.feeToken with
    | none, _ => row.isNative
    | some token, some contract => !row.isNative && sameText token contract
    | some _, none => false).foldl (fun sum change => saturatingAddInt sum change.2) 0

/-- `after_change`: half of an inflow is trusted. -/
def afterChange (balance : Nat) (change : Int) : Nat :=
  if 0 ≤ change then saturatingAdd balance (change.natAbs / 2) else balance - change.natAbs

structure Spend where
  decoded : Outflows
  measured : Option Measured

def Spend.new (calls : List FeeCall) (measured : Option Measured) : Spend :=
  ⟨Outflows.ofCalls calls, measured⟩

def Spend.sends (spend : Spend) (row : ParsedQuote) : Bool := decide (0 < spend.decoded.of row)

def Spend.prefersNative (spend : Spend) : Bool :=
  spend.measured.isNone && !spend.decoded.openCalls.isEmpty

def Spend.usable (spend : Spend) (row : ParsedQuote) : Nat :=
  match spend.measured with
  | some changes => afterChange row.balance (measuredChange changes row)
  | none => if spend.decoded.spendsUnstated row then 0 else row.balance - spend.decoded.of row

def Spend.covers (spend : Spend) (row : ParsedQuote) (fee : Nat) : Bool :=
  match spend.measured with
  | some _ => decide (fee ≤ spend.usable row)
  | none =>
    !spend.decoded.spendsUnstated row &&
      decide (saturatingAdd fee (spend.decoded.of row) ≤ row.balance)

def coinOf (row : ParsedQuote) : Option String := if row.isNative then none else row.feeToken

def sameCoin : Option String → Option String → Bool
  | none, none => true
  | some left, some right => sameText left right
  | _, _ => false

def isListed (coins : List (Option String)) (row : ParsedQuote) : Bool :=
  coins.any fun listed => sameCoin listed (coinOf row)

/-- A balance in dollars, zero where the text is no number. -/
def parseUsd (text : String) : Float := (Floating.parseF64 (Utf8.trim text)).getD 0

/-- What an auto pick prefers a row by. -/
structure Rank where
  first : Bool
  second : Bool
  usd : Float

def rankOf (spend : Spend) (row : ParsedQuote) : Rank :=
  let usd := parseUsd row.usdBalance
  if spend.prefersNative then ⟨row.isNative, !spend.sends row, usd⟩
  else ⟨!spend.sends row, !row.isNative, usd⟩

def Rank.above (left right : Rank) : Bool :=
  if left.first != right.first then left.first
  else if left.second != right.second then left.second
  else decide (left.usd > right.usd)

/-- One turn of `auto_pick`: the better of the row held and a candidate. -/
def betterRow (spend : Spend) (held : Option ParsedQuote) (row : ParsedQuote) :
    Option ParsedQuote :=
  match held with
  | none => some row
  | some best => if (rankOf spend row).above (rankOf spend best) then some row else some best

def autoPick (rows : List ParsedQuote) (spend : Spend) (feeFor : ParsedQuote → Option Nat)
    (excluded : List (Option String)) : Option (Option String) :=
  let candidates := rows.filter fun row =>
    (row.isNative || decide (0 < row.balance)) && !isListed excluded row &&
      (feeFor row).any (spend.covers row)
  (candidates.foldl (betterRow spend) none).map coinOf

def measuredAutoPick (rows : List ParsedQuote) (calls : List FeeCall) (measured : Measured)
    (feeFor : ParsedQuote → Option Nat) (excluded : List (Option String)) :
    Option (Option String) :=
  let spend := Spend.new calls (some measured)
  let pays := fun coin => ((findQuote rows coin).filter fun row => !isListed excluded row).any
    fun row => (feeFor row).any (spend.covers row)
  let usual := (autoPick rows (Spend.new calls none) feeFor excluded).filter pays
  match usual with
  | some usual => some usual
  | none => if pays none then some none else autoPick rows spend feeFor excluded

def pickCoin (rows : List ParsedQuote) (calls : List FeeCall) (measured : Option Measured)
    (feeFor : ParsedQuote → Option Nat) (excluded : List (Option String)) :
    Option (Option String) :=
  match measured with
  | some measured => measuredAutoPick rows calls measured feeFor excluded
  | none => autoPick rows (Spend.new calls none) feeFor excluded

def autoPickHolds (rows : List ParsedQuote) (chosen : Option String) (spend : Spend)
    (feeFor : ParsedQuote → Option Nat) : Bool :=
  (findQuote rows chosen).any fun row => (feeFor row).any (spend.covers row)

section Picking

variable (spend : Spend) (feeFor : ParsedQuote → Option Nat) (excluded : List (Option String))

/-- What the operation leaves of a row's coin pays a fee: of a coin whose change was measured, what
`afterChange` counts; of any other, the balance, where the calls state all they take of it. -/
def Pays (row : ParsedQuote) (fee : Nat) : Prop :=
  match spend.measured with
  | some changes => fee ≤ afterChange row.balance (measuredChange changes row)
  | none => spend.decoded.spendsUnstated row = false ∧ fee + spend.decoded.of row ≤ row.balance

/-- A row whose coin the fee may come out of. -/
structure Candidate (row : ParsedQuote) : Prop where
  held : row.isNative = true ∨ 0 < row.balance
  allowed : ∀ coin ∈ excluded, sameCoin coin (coinOf row) = false
  paid : ∃ fee, feeFor row = some fee ∧ Pays spend row fee

variable {spend feeFor excluded}

theorem covers_iff {row : ParsedQuote} {fee : Nat} (small : row.balance < maxU128) :
    spend.covers row fee = true ↔ Pays spend row fee := by
  unfold Spend.covers Pays Spend.usable
  cases spend.measured with
  | some => exact decide_eq_true_iff
  | none =>
    rw [Bool.and_eq_true, Bool.not_eq_true', decide_eq_true_iff, saturatingAdd]
    apply and_congr_right
    intro _
    omega

theorem candidate_iff {row : ParsedQuote} (small : row.balance < maxU128) :
    ((row.isNative || decide (0 < row.balance)) && !isListed excluded row &&
      (feeFor row).any (spend.covers row)) = true ↔ Candidate spend feeFor excluded row := by
  rw [Bool.and_eq_true, Bool.and_eq_true, Bool.or_eq_true, decide_eq_true_iff, Bool.not_eq_true',
    isListed, List.any_eq_false, Option.any_eq_true]
  constructor
  · rintro ⟨⟨held, allowed⟩, fee, priced, covered⟩
    refine ⟨held, ?_, fee, priced, (covers_iff small).mp covered⟩
    intro coin member
    exact Bool.eq_false_iff.mpr (allowed coin member)
  · rintro ⟨held, allowed, fee, priced, pays⟩
    refine ⟨⟨held, ?_⟩, fee, priced, (covers_iff small).mpr pays⟩
    intro coin member
    exact Bool.eq_false_iff.mp (allowed coin member)

theorem above_irrefl (rank : Rank) : rank.above rank = false := by
  simp [Rank.above, Floating.lt_irrefl]

theorem above_trans {left middle right : Rank} (higher : left.above middle = true)
    (more : middle.above right = true) : left.above right = true := by
  rcases left with ⟨_ | _, _ | _, left⟩ <;> rcases middle with ⟨_ | _, _ | _, middle⟩ <;>
    rcases right with ⟨_ | _, _ | _, right⟩ <;> simp [Rank.above] at higher more ⊢ <;>
    exact Floating.lt_trans more higher

theorem mem_foldl_betterRow {rows : List ParsedQuote} {held : Option ParsedQuote}
    {best : ParsedQuote} (picked : rows.foldl (betterRow spend) held = some best) :
    best ∈ rows ∨ held = some best := by
  induction rows generalizing held with
  | nil => exact .inr picked
  | cons _ _ ih =>
    rcases ih picked with later | turned
    · exact .inl (List.mem_cons_of_mem _ later)
    · unfold betterRow at turned
      split at turned
      · cases turned
        exact .inl List.mem_cons_self
      · split at turned
        · cases turned
          exact .inl List.mem_cons_self
        · exact .inr turned

theorem betterRow_eq : betterRow spend =
    List.argAux fun row best => (rankOf spend row).above (rankOf spend best) = true := by
  funext held row
  cases held <;> rfl

theorem foldl_betterRow {rows : List ParsedQuote} {best : ParsedQuote}
    (picked : rows.foldl (betterRow spend) none = some best) :
    best ∈ rows ∧ ∀ row ∈ rows, (rankOf spend row).above (rankOf spend best) = false := by
  constructor
  · exact (mem_foldl_betterRow picked).resolve_right nofun
  · intro row member
    rw [betterRow_eq] at picked
    apply Bool.eq_false_iff.mpr
    apply List.not_of_mem_foldl_argAux _ ⟨?_⟩ ⟨?_⟩ member picked
    · intro row above
      rw [above_irrefl] at above
      cases above
    · intro _ _ _ higher more
      exact above_trans higher more

end Picking

def twelveOf (token : Option String) : ParsedQuote :=
  ⟨Safe.entryPoint, token.isNone, token, 12, 6, "", "12", none, none, none⟩

end VelaWallet.FeePolicy
