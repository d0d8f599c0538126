import Mathlib.Algebra.BigOperators.Group.List.Basic
import VelaWallet.Base.Grouping
import VelaWallet.Base.Lossy
import VelaWallet.Track.Logs

/-!
# Netting a receipt's transfers

What a receipt's logs move for one account: one signed delta an asset.  A running sum that does not
fit drops its asset, whatever the logs behind it bring.
-/

namespace VelaWallet.TokenTrust

open TxTracker (TrustReceiptLog)
open Utf8 (CaseTable toLowercase bytes stripPrefix)

structure TrustNetDelta where
  isNative : Bool
  token : Option String
  delta : Int
  deriving DecidableEq

def transferTopic : String := "0xddf252ad1be2c89b69c2b068fc378daa952ba7f163c4a11628f55a4df523b3ef"

def nativeLogAddresses : List String :=
  ["0xfffffffffffffffffffffffffffffffffffffffe", "0x0000000000000000000000000000000000000000",
    "0xeeeeeeeeeeeeeeeeeeeeeeeeeeeeeeeeeeeeeeee"]

/-- `str::strip_prefix("0x").unwrap_or(..)`. -/
def strip0x (text : String) : String :=
  match text.toList with
  | '0' :: 'x' :: rest => String.ofList rest
  | _ => text

def topicToAddress [CaseTable] (topic : String) : String :=
  let text := strip0x topic
  let start := (bytes text).length - 40
  "0x" ++ toLowercase ((Utf8.get? text start (bytes text).length).getD "")

inductive HexValue where
  | invalid
  | overflow
  deriving DecidableEq

def firstWordValue (data : String) : Except HexValue Nat :=
  let text := (strip0x data).toList
  let word := bytes (String.ofList (text.take 64))
  if data = "" ∨ text = [] then .ok 0
  else if ¬ word.all fun byte => decide (Hex.IsDigit byte) then .ok 0
  else
    let trimmed := word.dropWhile (· == 48)
    if trimmed.length > 32 then .error .overflow
    else if trimmed.isEmpty then .ok 0
    else
      match Hex.natOf? trimmed with
      | some value => .ok value
      | none => .error .invalid

/-- `i128::MAX` -/
def i128Max : Int := 2 ^ 127 - 1

/-- An `i128` holds the number. -/
def FitsI128 (value : Int) : Prop := -2 ^ 127 ≤ value ∧ value ≤ i128Max

instance (value : Int) : Decidable (FitsI128 value) :=
  inferInstanceAs (Decidable (-2 ^ 127 ≤ value ∧ value ≤ i128Max))

/-- A transfer that touches the account, as the loop reads its log. -/
structure Transfer where
  key : String
  isNative : Bool
  value : Except HexValue Nat
  arrives : Bool
  leaves : Bool
  deriving DecidableEq

/-- The transfer in a log, unless the loop passes the log over. -/
def transferOf [CaseTable] (user : String) (log : TrustReceiptLog) : Option Transfer :=
  match log.topics with
  | [topic, sender, recipient] =>
    let leaves := topicToAddress sender == user
    let arrives := topicToAddress recipient == user
    let contract := toLowercase log.address
    let isNative := nativeLogAddresses.contains contract
    let key := if isNative then "native" else contract
    if toLowercase topic ≠ transferTopic ∨ ¬ (leaves || arrives) ∨ key = "" then none
    else some ⟨key, isNative, firstWordValue log.data, arrives, leaves⟩
  | _ => none

structure Acc where
  isNative : Bool
  token : Option String
  delta : Int := 0
  poisoned : Bool := false

/-- A sum of an `i128`, or the poison of one that does not fit. -/
def Acc.add (acc : Acc) (value : Int) : Acc :=
  if FitsI128 (acc.delta + value) then { acc with delta := acc.delta + value }
  else { acc with poisoned := true }

/-- What one transfer does to its asset. -/
def Acc.take (acc : Acc) (transfer : Transfer) : Acc :=
  match transfer.value with
  | .error .invalid => acc
  | .error .overflow => { acc with poisoned := true }
  | .ok value =>
    if value = 0 then acc
    else if (value : Int) > i128Max then { acc with poisoned := true }
    else
      let arrived := if transfer.arrives then acc.add value else acc
      if transfer.leaves then arrived.add (-value) else arrived

/-- The entry of an asset that is new. -/
def Acc.of (transfer : Transfer) : Acc :=
  { isNative := transfer.isNative, token := if transfer.isNative then none else some transfer.key }

/-- One round of the loop, over the entries in the order their assets appeared. -/
def takeInto : List (String × Acc) → Transfer → List (String × Acc)
  | [], transfer => [(transfer.key, (Acc.of transfer).take transfer)]
  | (key, acc) :: entries, transfer =>
    if key = transfer.key then (key, acc.take transfer) :: entries
    else (key, acc) :: takeInto entries transfer

def Acc.report (acc : Acc) : Option TrustNetDelta :=
  if ¬ acc.poisoned ∧ acc.delta ≠ 0 then some ⟨acc.isNative, acc.token, acc.delta⟩ else none

def deriveAssetDeltas [CaseTable] (logs : List TrustReceiptLog) (user : String) :
    List TrustNetDelta :=
  ((logs.filterMap (transferOf (toLowercase user))).foldl takeInto []).filterMap (·.2.report)

namespace Transfer

/-- The amount, where an `i128` holds it; what reads as no number is nothing. -/
def amount? (transfer : Transfer) : Option Nat :=
  match transfer.value with
  | .error .invalid => some 0
  | .error .overflow => none
  | .ok value => if (value : Int) > i128Max then none else some value

def incoming (transfer : Transfer) : Int :=
  if transfer.arrives then (transfer.amount?.getD 0 : Nat) else 0

/-- What the account receives less what it sends. -/
def net (transfer : Transfer) : Int :=
  transfer.incoming - if transfer.leaves then (transfer.amount?.getD 0 : Nat) else 0

end Transfer

/-- The exact sum of incoming less outgoing amounts. -/
def netOf (transfers : List Transfer) : Int := (transfers.map Transfer.net).sum

/-- Every amount fits, and so does every running sum: each amount is added where it arrives, then
taken off where it leaves. -/
def RunsWithin : Int → List Transfer → Prop
  | _, [] => True
  | total, transfer :: transfers =>
    transfer.amount?.isSome ∧ FitsI128 (total + transfer.incoming) ∧
      FitsI128 (total + transfer.net) ∧ RunsWithin (total + transfer.net) transfers

section Sums

variable {acc : Acc} {transfer : Transfer} {transfers : List Transfer}

/-- The entry after one transfer: unspoiled exactly if the transfer's sums fit. -/
structure Taken (acc : Acc) (transfer : Transfer) (next : Acc) : Prop where
  isNative : next.isNative = acc.isNative
  token : next.token = acc.token
  fits : FitsI128 next.delta
  poisoned : next.poisoned = false ↔ acc.poisoned = false ∧ transfer.amount?.isSome ∧
    FitsI128 (acc.delta + transfer.incoming) ∧ FitsI128 (acc.delta + transfer.net)
  delta : next.poisoned = false → next.delta = acc.delta + transfer.net

section

variable (fits : FitsI128 acc.delta)
include fits

theorem take_zero (zero : transfer.amount? = some 0) :
    Taken acc transfer acc := by
  have incoming : transfer.incoming = 0 := by simp [Transfer.incoming, zero]
  have net : transfer.net = 0 := by simp [Transfer.net, incoming, zero]
  constructor
  case isNative => rfl
  case token => rfl
  case fits => exact fits
  case poisoned => simp [incoming, net, zero, fits]
  case delta => simp [net]

theorem take_unread (unread : transfer.amount? = none) :
    Taken acc transfer { acc with poisoned := true } := by
  constructor
  case isNative => rfl
  case token => rfl
  case fits => exact fits
  case poisoned => simp [unread]
  case delta => simp

theorem take_taken : Taken acc transfer (acc.take transfer) := by
  rcases transfer with ⟨key, isNative, value, arrives, leaves⟩
  unfold Acc.take
  match value with
  | .error .invalid => exact take_zero fits rfl
  | .error .overflow => exact take_unread fits rfl
  | .ok 0 => exact take_zero fits rfl
  | .ok (value + 1) =>
    dsimp only
    rw [if_neg (Nat.succ_ne_zero value)]
    split
    case isTrue large => exact take_unread fits (if_pos large)
    case isFalse small =>
      have amount : (Transfer.mk key isNative (.ok (value + 1)) arrives leaves).amount? =
          some (value + 1) := if_neg small
      cases arrives <;> cases leaves <;> constructor <;>
        simp only [Transfer.net, Transfer.incoming, amount, Acc.add, Option.getD_some,
          Option.isSome_some, if_true, if_false, Bool.false_eq_true, true_and, zero_sub,
          add_zero] <;>
        grind

theorem foldl_take :
    let last := transfers.foldl Acc.take acc
    last.isNative = acc.isNative ∧ last.token = acc.token ∧
      (last.poisoned = false ↔ acc.poisoned = false ∧ RunsWithin acc.delta transfers) ∧
      (last.poisoned = false → last.delta = acc.delta + netOf transfers) := by
  induction transfers generalizing acc with
  | nil => simp [RunsWithin, netOf]
  | cons transfer _ ih =>
    have taken := @take_taken acc transfer fits
    obtain ⟨native, token, poisoned, delta⟩ := ih taken.fits
    refine ⟨native.trans taken.isNative, token.trans taken.token, ?_, ?_⟩
    · rw [List.foldl_cons, poisoned, taken.poisoned, RunsWithin]
      constructor
      · rintro ⟨clean, runs⟩
        rw [taken.delta (taken.poisoned.mpr clean)] at runs
        exact ⟨clean.1, clean.2.1, clean.2.2.1, clean.2.2.2, runs⟩
      · rintro ⟨clean, read, incoming, net, runs⟩
        have unspoiled : acc.poisoned = false ∧ transfer.amount?.isSome = true ∧
            FitsI128 (acc.delta + transfer.incoming) ∧ FitsI128 (acc.delta + transfer.net) :=
          ⟨clean, read, incoming, net⟩
        refine ⟨unspoiled, ?_⟩
        rw [taken.delta (taken.poisoned.mpr unspoiled)]
        exact runs
    · intro clean
      have early : (acc.take transfer).poisoned = false := (poisoned.mp clean).1
      rw [List.foldl_cons, delta clean, taken.delta early, netOf, netOf, List.map_cons,
        List.sum_cons]
      omega

end

end Sums

/-- The transfers of one asset that touch the account, in the order of their logs. -/
def transfersOf [CaseTable] (logs : List TrustReceiptLog) (user asset : String) : List Transfer :=
  (logs.filterMap (transferOf (toLowercase user))).filter (·.key = asset)

def deltaOf (asset : String) (delta : Int) : TrustNetDelta :=
  ⟨asset = "native", if asset = "native" then none else some asset, delta⟩

/-- No log carries the word for the chain's coin as its address. -/
def Addressed [CaseTable] (logs : List TrustReceiptLog) : Prop :=
  ∀ log ∈ logs, toLowercase log.address ≠ "native"

def entryOf (group : Grouping.Bunch Transfer) : String × Acc :=
  (group.first.key, group.rows.foldl Acc.take (Acc.of group.first))

theorem foldl_takeInto (transfers : List Transfer) :
    transfers.foldl takeInto [] = (Grouping.groups Transfer.key transfers).map entryOf := by
  refine Grouping.foldl_summary ?_ transfers
  intro gathered transfer
  induction gathered with
  | nil => rfl
  | cons group _ ih =>
    by_cases same : group.first.key = transfer.key
    · simp [takeInto, Grouping.put, entryOf, same]
    · simp only [takeInto, Grouping.put, entryOf, List.map_cons, same, if_false] at ih ⊢
      rw [ih]

theorem report_eq_some {acc : Acc} {delta : TrustNetDelta} :
    acc.report = some delta ↔
      acc.poisoned = false ∧ acc.delta ≠ 0 ∧ delta = ⟨acc.isNative, acc.token, acc.delta⟩ := by
  unfold Acc.report
  by_cases clean : acc.poisoned = false ∧ acc.delta ≠ 0
  · simp [clean, eq_comm]
  · grind

section Derived

variable [CaseTable] {logs : List TrustReceiptLog} {user asset : String} {delta : TrustNetDelta}

theorem isNative_iff {log : TrustReceiptLog} {transfer : Transfer}
    (read : transferOf user log = some transfer) (addressed : toLowercase log.address ≠ "native") :
    transfer.isNative = decide (transfer.key = "native") := by
  unfold transferOf at read
  split at read
  case h_1 =>
    dsimp only at read
    obtain ⟨_, same⟩ := Option.ite_none_left_eq_some.mp read
    cases same
    cases native : nativeLogAddresses.contains (toLowercase log.address) <;> simp [addressed]
  case h_2 => cases read

/-- What is reported: the exact sum of every asset whose running sums fit, unless it is zero. -/
theorem mem_deriveAssetDeltas (addressed : Addressed logs) :
    delta ∈ deriveAssetDeltas logs user ↔
      ∃ asset, RunsWithin 0 (transfersOf logs user asset) ∧
        netOf (transfersOf logs user asset) ≠ 0 ∧
        delta = deltaOf asset (netOf (transfersOf logs user asset)) := by
  have gathers := Grouping.gathers_groups Transfer.key (logs.filterMap (transferOf (toLowercase user)))
  have native : ∀ transfer ∈ logs.filterMap (transferOf (toLowercase user)),
      transfer.isNative = decide (transfer.key = "native") := by
    intro transfer member
    obtain ⟨log, listed, read⟩ := List.mem_filterMap.mp member
    exact isNative_iff read (addressed log listed)
  have reported : ∀ group ∈ Grouping.groups Transfer.key
      (logs.filterMap (transferOf (toLowercase user))),
      ((entryOf group).2.report = some delta ↔
        RunsWithin 0 (transfersOf logs user group.first.key) ∧
          netOf (transfersOf logs user group.first.key) ≠ 0 ∧
          delta = deltaOf group.first.key (netOf (transfersOf logs user group.first.key))) := by
    intro group member
    have whole : group.rows = transfersOf logs user group.first.key := gathers.whole group member
    have listed : group.first ∈ group.rows := List.mem_cons_self
    rw [whole] at listed
    have coin := native group.first (List.mem_of_mem_filter listed)
    have empty : FitsI128 (Acc.of group.first).delta := by
      show FitsI128 0
      decide
    obtain ⟨flag, token, clean, sum⟩ :=
      @foldl_take (Acc.of group.first) (transfersOf logs user group.first.key) empty
    rw [entryOf, whole]
    generalize (transfersOf logs user group.first.key).foldl Acc.take (Acc.of group.first) = last
      at flag token clean sum ⊢
    simp only [Acc.of, true_and, zero_add, coin] at flag token clean sum
    rw [report_eq_some, flag, token, clean, deltaOf]
    constructor
    · rintro ⟨runs, moved, rfl⟩
      rw [sum (clean.mpr runs)] at moved ⊢
      exact ⟨runs, moved, by simp⟩
    · rintro ⟨runs, moved, rfl⟩
      rw [sum (clean.mpr runs)]
      exact ⟨runs, moved, by simp⟩
  rw [deriveAssetDeltas, foldl_takeInto, List.filterMap_map, List.mem_filterMap]
  constructor
  · rintro ⟨group, member, report⟩
    exact ⟨group.first.key, (reported group member).mp report⟩
  · rintro ⟨asset, runs, moved, same⟩
    have listed : ∃ transfer ∈ transfersOf logs user asset, True := by
      cases shape : transfersOf logs user asset with
      | nil => exact absurd (by rw [shape]; rfl) moved
      | cons transfer => exact ⟨transfer, List.mem_cons_self, trivial⟩
    obtain ⟨transfer, inside, _⟩ := listed
    obtain ⟨read, key⟩ := List.mem_filter.mp inside
    have held := gathers.covered transfer read
    rw [of_decide_eq_true key] at held
    obtain ⟨group, member, rfl⟩ := List.mem_map.mp held
    exact ⟨group, member, (reported group member).mpr ⟨runs, moved, same⟩⟩

theorem netOf_perm {other : List TrustReceiptLog} (order : logs.Perm other) :
    netOf (transfersOf logs user asset) = netOf (transfersOf other user asset) :=
  (((order.filterMap _).filter _).map _).sum_eq

end Derived

end VelaWallet.TokenTrust
