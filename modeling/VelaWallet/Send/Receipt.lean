import VelaWallet.Base.Grouping
import VelaWallet.Send.PlanSoundness

/-!
# The receipt

What the receipt shows of the operation signed: the transfers of a batch, and the coins moved,
each summed over its recipients.
-/

namespace VelaWallet.Send

open FeePolicy
open Floating (jsParseFloat)
open Grouping (Bunch groups)

structure SendReceiptCoin where
  amount : String
  symbol : String
  logoUrls : List String
  tokenAddress : Option String
  usdValue : Float

structure SendReceiptTransfer where
  target : String
  toName : Option String
  amount : String
  symbol : String
  logoUrls : List String
  usdValue : Float

/-- `f64::max`, which prefers a number to no number. -/
def maxFloat (left right : Float) : Float :=
  if left.isNaN then right else if right.isNaN then left else if left < right then right else left

/-- What a line was worth when it was signed. -/
def SendLine.usd (line : SendLine) : Float :=
  let usd := maxFloat (jsParseFloat line.amount) 0 * line.priceUsd
  if usd.isNaN then 0 else usd

def SendLine.units (line : SendLine) : Option Nat := toBaseUnits line.amount line.decimals.toNat

def sameCoin (left right : SendLine) : Bool :=
  left.decimals == right.decimals &&
    match left.tokenAddress, right.tokenAddress with
    | none, none => true
    | some left, some right => sameText left right
    | _, _ => false

/-- `u128::checked_add` of two amounts that may be missing. -/
def checkedSum (left right : Option Nat) : Option Nat := do
  let left ← left
  let right ← right
  if left + right ≤ maxU128 then some (left + right) else none

/-- The lines of one coin so far. -/
structure Tally where
  first : SendLine
  units : Option Nat
  count : Nat
  usd : Float

namespace Tally

def of (line : SendLine) : Tally := ⟨line, line.units, 1, line.usd⟩

def add (line : SendLine) (tally : Tally) : Tally :=
  { tally with
    units := checkedSum tally.units line.units
    count := tally.count + 1
    usd := tally.usd + line.usd }

/-- The coin of a tally: one line's own figure, or the sum, or nothing where a line could not be
read. -/
def coin (tally : Tally) : SendReceiptCoin where
  amount :=
    if tally.count = 1 then tally.first.amount
    else
      match tally.units with
      | some units => fromBaseUnits units tally.first.decimals.toNat
      | none => ""
  symbol := tally.first.symbol
  logoUrls := tally.first.logoUrls
  tokenAddress := tally.first.tokenAddress
  usdValue := tally.usd

end Tally

/-- The line joins the first tally of its coin, or opens one. -/
def tallyLine : List Tally → SendLine → List Tally
  | [], line => [.of line]
  | tally :: tallies, line =>
    if sameCoin tally.first line then tally.add line :: tallies
    else tally :: tallyLine tallies line

/-- `receipt_coins`: the coins in the order they were first signed. -/
def receiptCoins (lines : List SendLine) : List SendReceiptCoin :=
  (lines.foldl tallyLine []).map Tally.coin

/-- The lines of the receipt: the batch's, else the one signed. -/
def Receipt.lines (receipt : Receipt) : List SendLine :=
  receipt.receiptLines.getD receipt.receiptSigned.toList

def Receipt.coins (receipt : Receipt) : List SendReceiptCoin := receiptCoins receipt.lines

def SendLine.shown (line : SendLine) : SendReceiptTransfer where
  target := line.target
  toName := line.toName
  amount := line.amount
  symbol := line.symbol
  logoUrls := line.logoUrls
  usdValue := SendToken.parseFloatOrZero line.amount * line.priceUsd

/-- `SendReceiptView::transfers`: the lines of a batch, and none of a single send. -/
def Receipt.transfers (receipt : Receipt) : List SendReceiptTransfer :=
  (receipt.receiptLines.getD []).map SendLine.shown

inductive SendStage where
  | lockError
  | lockResolving
  | receipt
  | selectToken
  | enterDetails
  | confirm
  deriving DecidableEq

inductive SendReceiptStatus where
  | submitted
  | confirmed
  | failed
  | maybeSent
  | notSent

inductive SendHoldReason where
  | feeHold
  | feeRejected
  | relayFunding

structure SendReceiptView where
  status : SendReceiptStatus
  holdReason : Option SendHoldReason
  kind : Option SendReceiptKind
  transfers : List SendReceiptTransfer
  coins : List SendReceiptCoin
  amount : String
  usdValue : Float
  submittedAtMs : Option Float

def stage (model : Model) : SendStage :=
  if model.lockState.lockError.isSome then .lockError
  else if model.params.locked && model.lockState.resolvingLock &&
      model.holdings.selectedToken.isNone then .lockResolving
  else if model.tx == .confirmed && model.holdings.selectedToken.isSome then .receipt
  else
    match model.step with
    | .selectToken => .selectToken
    | .enterDetails => .enterDetails
    | .confirm => .confirm

namespace Receipt

/-- What has become of the operation sent. -/
def status (receipt : Receipt) : SendReceiptStatus :=
  if receipt.receiptFailed && receipt.receiptNotSent then .notSent
  else if receipt.receiptFailed then .failed
  else if receipt.txHash.isSome then .confirmed
  else if receipt.receiptMaybeSent then .maybeSent
  else .submitted

/-- What the operation sent is held for. -/
def holdReason (receipt : Receipt) : Option SendHoldReason :=
  if receipt.feeRejected then some .feeRejected
  else if receipt.feeHeld then some .feeHold
  else if receipt.relayFunding then some .relayFunding
  else none

/-- What everything sent was worth, all coins together. -/
def usdValue (receipt : Receipt) : Float :=
  let usd := receipt.coins.foldl (fun usd coin => usd + coin.usdValue) 0
  if usd.isNaN then 0 else usd

end Receipt

def receiptView (model : Model) : Option SendReceiptView :=
  if stage model ≠ .receipt || model.holdings.selectedToken.isNone then none
  else
    some {
      status := model.receipt.status
      holdReason := model.receipt.holdReason
      kind := model.receipt.receiptKind
      transfers := model.receipt.transfers
      coins := model.receipt.coins
      amount := match model.receipt.coins with
        | [one] => one.amount
        | _ => ""
      usdValue := model.receipt.usdValue
      submittedAtMs := model.receipt.submittedAtMs }

theorem receiptView_some {model : Model} {view : SendReceiptView}
    (shown : receiptView model = some view) :
    view.coins = model.receipt.coins ∧ view.transfers = model.receipt.transfers := by
  unfold receiptView at shown
  split at shown
  · cases shown
  · cases shown
    exact ⟨rfl, rfl⟩

/-- What tells the coins of lines apart: the decimals, and the address in any case. -/
def coinKey (line : SendLine) : UInt32 × Option (List UInt8) :=
  (line.decimals, line.tokenAddress.map fun address => Utf8.toAsciiLowercase (Utf8.bytes address))

theorem sameCoin_iff (left right : SendLine) :
    sameCoin left right = true ↔ coinKey left = coinKey right := by
  simp only [sameCoin, coinKey, Bool.and_eq_true, beq_iff_eq, Prod.mk.injEq]
  apply and_congr_right
  intro _
  cases left.tokenAddress with
  | none => cases right.tokenAddress <;> simp
  | some =>
    cases right.tokenAddress with
    | none => simp
    | some => simp [sameText, Utf8.eqIgnoreAsciiCase_iff]

def tallyOf (group : Bunch SendLine) : Tally :=
  group.rest.foldl (fun tally line => tally.add line) (.of group.first)

theorem tallyOf_add (group : Bunch SendLine) (line : SendLine) :
    tallyOf (group.add line) = (tallyOf group).add line := by
  rw [tallyOf, Bunch.add, List.foldl_concat]
  rfl

theorem tallyOf_counts (group : Bunch SendLine) :
    (tallyOf group).first = group.first ∧ (tallyOf group).count = group.rest.length + 1 := by
  have ⟨first, rest⟩ := group
  induction rest using List.reverseRecOn with
  | nil => exact ⟨rfl, rfl⟩
  | append_singleton rest line ih =>
    have grown : (⟨first, rest ++ [line]⟩ : Bunch SendLine) = Bunch.add line ⟨first, rest⟩ := rfl
    rw [grown, tallyOf_add]
    simp only [Tally.add, ih.1, ih.2, Bunch.add, List.length_append, List.length_cons,
      List.length_nil, and_self]

/-- The base units of lines, a line that reads as none counted as nothing. -/
def totalUnits (lines : List SendLine) : Nat := (lines.map fun line => line.units.getD 0).sum

def Readable (lines : List SendLine) : Prop := ∀ line ∈ lines, line.units.isSome = true

theorem totalUnits_concat (lines : List SendLine) (line : SendLine) :
    totalUnits (lines ++ [line]) = totalUnits lines + line.units.getD 0 := by
  simp [totalUnits]

theorem checkedSum_some {left right : Nat} (fits : left + right ≤ maxU128) :
    checkedSum (some left) (some right) = some (left + right) := if_pos fits

theorem foldl_units {first : SendLine} {rest : List SendLine} (readable : Readable (first :: rest))
    (fits : totalUnits (first :: rest) ≤ maxU128) :
    (rest.foldl (fun tally line => Tally.add line tally) (.of first)).units =
      some (totalUnits (first :: rest)) := by
  induction rest using List.reverseRecOn with
  | nil =>
    have ⟨units, read⟩ := Option.isSome_iff_exists.mp (readable first List.mem_cons_self)
    simp [Tally.of, totalUnits, read]
  | append_singleton _ line ih =>
    rw [← List.cons_append] at readable fits ⊢
    rw [totalUnits_concat] at fits ⊢
    have ⟨units, read⟩ := Option.isSome_iff_exists.mp
      (readable line (List.mem_append_right _ List.mem_cons_self))
    have earlier := ih (fun other member => readable other (List.mem_append_left _ member))
      (Nat.le_trans (Nat.le_add_right _ _) fits)
    rw [read, Option.getD_some] at fits ⊢
    rw [List.foldl_concat, Tally.add, earlier, read]
    exact checkedSum_some fits

theorem tallyOf_units {group : Bunch SendLine} (readable : Readable group.rows)
    (fits : totalUnits group.rows ≤ maxU128) :
    (tallyOf group).units = some (totalUnits group.rows) := foldl_units readable fits

theorem coin_reads {group : Bunch SendLine} (readable : Readable group.rows)
    (fits : totalUnits group.rows ≤ maxU128) :
    toBaseUnits (tallyOf group).coin.amount group.first.decimals.toNat =
      some (totalUnits group.rows) := by
  have units := tallyOf_units readable fits
  obtain ⟨first, count⟩ := tallyOf_counts group
  unfold Tally.coin
  cases alone : group.rest with
  | nil =>
    rw [alone] at count
    have rows : group.rows = [group.first] := by rw [Bunch.rows, alone]
    obtain ⟨units, read⟩ := Option.isSome_iff_exists.mp
      (readable group.first List.mem_cons_self)
    simp only [count, List.length_nil, Nat.zero_add, if_true, first, rows]
    have total : totalUnits [group.first] = units := by simp [totalUnits, read]
    rw [total]
    exact read
  | cons =>
    have several : ¬ (tallyOf group).count = 1 := by
      rw [count, alone, List.length_cons]
      omega
    rw [if_neg several, units, first]
    exact toBaseUnits_fromBaseUnits fits

theorem tallies_eq (lines : List SendLine) :
    lines.foldl tallyLine [] = (groups coinKey lines).map tallyOf := by
  apply Grouping.foldl_summary
  intro gathered line
  induction gathered with
  | nil => rfl
  | cons group _ ih =>
    rw [List.map_cons, tallyLine, Grouping.put, (tallyOf_counts _).1]
    by_cases same : coinKey group.first = coinKey line
    · rw [if_pos ((sameCoin_iff _ _).mpr same), if_pos same, List.map_cons, tallyOf_add]
    · rw [if_neg (fun equal => same ((sameCoin_iff _ _).mp equal)), if_neg same, List.map_cons,
        ih]

def ofCoin (line : SendLine) (lines : List SendLine) : List SendLine :=
  lines.filter fun other => coinKey other = coinKey line

/-- A receipt's coins are the coins of the lines, each once, each with the exact sum of its
lines. -/
structure SumsOf (lines : List SendLine) (coins : List SendReceiptCoin) : Prop where
  each : ∃ firsts : List SendLine,
    List.Forall₂ (fun line coin => coin.tokenAddress = line.tokenAddress ∧
      coin.symbol = line.symbol ∧ toBaseUnits coin.amount line.decimals.toNat =
        some (totalUnits (ofCoin line lines))) firsts coins ∧
    (firsts.map coinKey).Nodup ∧ (∀ line ∈ firsts, line ∈ lines) ∧
    ∀ line ∈ lines, coinKey line ∈ firsts.map coinKey

/-- No coin of the lines comes to more than the widest figure. -/
def coinsFit (lines : List SendLine) : Bool :=
  lines.all fun line => totalUnits (ofCoin line lines) ≤ maxU128

theorem receiptCoins_sums {lines : List SendLine} (readable : Readable lines)
    (fits : coinsFit lines = true) : SumsOf lines (receiptCoins lines) := by
  have gathers := Grouping.gathers_groups coinKey lines
  have inside : ∀ group ∈ groups coinKey lines, group.first ∈ lines := by
    intro group member
    have among : group.first ∈ group.rows := List.mem_cons_self
    rw [gathers.whole group member] at among
    exact List.mem_of_mem_filter among
  refine ⟨(groups coinKey lines).map Bunch.first, ?_, ?_, ?_, ?_⟩
  · rw [receiptCoins, tallies_eq, List.map_map, List.forall₂_map_left_iff,
      List.forall₂_map_right_iff, List.forall₂_same]
    intro group member
    have rows : ofCoin group.first lines = group.rows := (gathers.whole group member).symm
    have exact_sum : totalUnits group.rows ≤ maxU128 := by
      rw [← rows]
      exact of_decide_eq_true (List.all_eq_true.mp fits _ (inside group member))
    have read : Readable group.rows := by
      intro line among
      rw [gathers.whole group member] at among
      exact readable line (List.mem_of_mem_filter among)
    have ⟨first, _⟩ := tallyOf_counts group
    refine ⟨?_, ?_, ?_⟩
    · exact congrArg SendLine.tokenAddress first
    · exact congrArg SendLine.symbol first
    · rw [rows]
      exact coin_reads read exact_sum
  · rw [List.map_map]
    exact gathers.apart
  · intro line member
    have ⟨group, among, same⟩ := List.mem_map.mp member
    rw [← same]
    exact inside group among
  · intro line member
    rw [List.map_map]
    exact gathers.covered line member

end VelaWallet.Send
