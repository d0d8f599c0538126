import VelaWallet.Send.PlanSoundness

/-!
# Splits

The rows of a split, why each one is held back, the total the form and the confirm page show, and
the batch that is built of the rows.
-/

namespace VelaWallet.Send

open FeePolicy

variable {recipients : List SendRecipientDraft} {decimals : Nat} {row : SendRecipientDraft}

inductive SendRowFieldState where
  | ok
  | empty
  | invalid
  deriving DecidableEq

structure SendSplitRowIssue where
  id : String
  ordinal : UInt32
  address : SendRowFieldState
  amount : SendRowFieldState

namespace SendRecipientDraft

def addressState (row : SendRecipientDraft) : SendRowFieldState :=
  let address := Utf8.trim row.address
  if address.isEmpty then .empty else if isValidAddress address then .ok else .invalid

/-- What a row's amount comes to: a positive figure that is some base units. -/
def amountState (row : SendRecipientDraft) (decimals : Nat) : SendRowFieldState :=
  let amount := Utf8.trim row.amount
  if amount.isEmpty then .empty
  else if isPositiveFigure amount && (toBaseUnits amount decimals).any (0 < ·) then .ok
  else .invalid

/-- What is wrong with a row, if anything is. -/
def issue? (row : SendRecipientDraft) (index decimals : Nat) : Option SendSplitRowIssue :=
  if row.addressState ≠ .ok ∨ row.amountState decimals ≠ .ok then
    some ⟨row.id, UInt32.ofNat index + 1, row.addressState, row.amountState decimals⟩
  else none

end SendRecipientDraft

/-- `split_row_issues`: the unfinished rows, field by field. -/
def splitRowIssues (recipients : List SendRecipientDraft) (decimals : Nat) :
    List SendSplitRowIssue :=
  recipients.zipIdx.filterMap fun (row, index) => row.issue? index decimals

/-- `SendView::confirm_amount`: the figure of the confirm page. -/
def confirmAmount (model : Model) : String :=
  match model.holdings.selectedToken with
  | none => ""
  | some token =>
    if model.form.multiSelectMode then ""
    else if model.form.splitMode then
      match sumSplitBaseUnits model.form.recipients token.decimals.toNat with
      | some total => fromBaseUnits total token.decimals.toNat
      | none => ""
    else modelTokenAmount model token

def splitOverBalance (model : Model) : Bool :=
  model.form.splitMode && model.holdings.selectedToken.any fun token =>
    match sumSplitBaseUnits model.form.recipients token.decimals.toNat with
    | some total => (toBaseUnits (fullBalance token) token.decimals.toNat).getD 0 < total
    | none => false

def splitRemaining (model : Model) : Option String := do
  let token ← model.holdings.selectedToken.filter fun _ => model.form.splitMode
  let total ← sumSplitBaseUnits model.form.recipients token.decimals.toNat
  let balance ← toBaseUnits (fullBalance token) token.decimals.toNat
  if total ≤ balance then some (fromBaseUnits (balance - total) token.decimals.toNat) else none

theorem trim_trim (text : String) : Utf8.trim (Utf8.trim text) = Utf8.trim text := by
  have ahead : ∀ items : List Char, (items.dropWhile Utf8.isWhitespace).dropWhile Utf8.isWhitespace =
      items.dropWhile Utf8.isWhitespace := fun items =>
    List.dropWhile_idempotent Utf8.isWhitespace items
  have front : ((text.toList.dropWhile Utf8.isWhitespace).rdropWhile Utf8.isWhitespace).dropWhile
      Utf8.isWhitespace = (text.toList.dropWhile Utf8.isWhitespace).rdropWhile Utf8.isWhitespace := by
    have kept := List.rdropWhile_prefix Utf8.isWhitespace (text.toList.dropWhile Utf8.isWhitespace)
    have headed := List.dropWhile_eq_self_iff.mp (ahead text.toList)
    apply List.dropWhile_eq_self_iff.mpr
    intro some_left
    have same := kept.getElem some_left
    rw [same]
    exact headed (Nat.lt_of_lt_of_le some_left kept.length_le)
  simp only [List.rdropWhile] at front
  simp only [Utf8.trim, String.toList_ofList]
  rw [front, List.reverse_reverse, ahead]

theorem toBaseUnits_trim (amount : String) (decimals : Nat) :
    toBaseUnits (Utf8.trim amount) decimals = toBaseUnits amount decimals := by
  simp only [toBaseUnits, trim_trim]

theorem toBaseUnits_empty {amount : String} (empty : Utf8.trim amount = "") (decimals : Nat) :
    toBaseUnits amount decimals = some 0 := by
  simp [toBaseUnits, empty]

/-- A row is payable: its trimmed address is an address, and its amount is some base units. -/
structure Payable (decimals : Nat) (row : SendRecipientDraft) : Prop where
  address : isValidAddress (Utf8.trim row.address) = true
  amount : ∃ units, 1 ≤ units ∧ toBaseUnits row.amount decimals = some units

theorem addressState_eq_ok :
    row.addressState = .ok ↔ isValidAddress (Utf8.trim row.address) = true := by
  have nonempty : isValidAddress (Utf8.trim row.address) = true →
      (Utf8.trim row.address).isEmpty = false := by
    intro valid
    cases empty : (Utf8.trim row.address).isEmpty with
    | false => rfl
    | true =>
      rw [String.isEmpty_iff.mp empty] at valid
      cases valid
  simp only [SendRecipientDraft.addressState]
  constructor
  · intro finished
    split at finished
    · cases finished
    · split at finished
      case isTrue valid => exact valid
      case isFalse => cases finished
  · intro valid
    rw [nonempty valid, valid]
    rfl

theorem amountState_eq_ok :
    row.amountState decimals = .ok ↔ isPositiveFigure (Utf8.trim row.amount) = true ∧
      ∃ units, 1 ≤ units ∧ toBaseUnits row.amount decimals = some units := by
  simp only [SendRecipientDraft.amountState, toBaseUnits_trim]
  constructor
  · intro finished
    split at finished
    · cases finished
    · split at finished
      case isTrue both =>
        rw [Bool.and_eq_true, Option.any_eq_true] at both
        have ⟨positive, units, read, worth⟩ := both
        exact ⟨positive, units, of_decide_eq_true worth, read⟩
      case isFalse => cases finished
  · rintro ⟨positive, units, worth, read⟩
    have written : (Utf8.trim row.amount).isEmpty = false := by
      cases empty : (Utf8.trim row.amount).isEmpty with
      | false => rfl
      | true =>
        rw [toBaseUnits_empty (String.isEmpty_iff.mp empty), Option.some.injEq] at read
        subst read
        cases worth
    have some_units : (toBaseUnits row.amount decimals).any (0 < ·) = true := by
      rw [read]
      exact decide_eq_true worth
    rw [written, positive, some_units]
    rfl

theorem splitRowIssues_eq_nil :
    splitRowIssues recipients decimals = [] ↔
      ∀ row ∈ recipients, Payable decimals row ∧ isPositiveFigure (Utf8.trim row.amount) = true := by
  have each : ∀ (row : SendRecipientDraft) (index : Nat), row.issue? index decimals = none ↔
      Payable decimals row ∧ isPositiveFigure (Utf8.trim row.amount) = true := by
    intro row index
    simp only [SendRecipientDraft.issue?, ite_eq_right_iff, reduceCtorEq, imp_false, not_or,
      ne_eq, not_not, addressState_eq_ok, amountState_eq_ok]
    constructor
    · rintro ⟨address, positive, amount⟩
      exact ⟨⟨address, amount⟩, positive⟩
    · rintro ⟨payable, positive⟩
      exact ⟨payable.address, positive, payable.amount⟩
  rw [splitRowIssues, List.filterMap_eq_nil_iff]
  constructor
  · intro none_held row member
    have ⟨index, bound, found⟩ := List.mem_iff_getElem.mp member
    have numbered : (row, index) ∈ recipients.zipIdx := by
      rw [List.mem_zipIdx_iff_getElem?, List.getElem?_eq_getElem bound, found]
    exact (each row index).mp (none_held (row, index) numbered)
  · rintro payable ⟨row, index⟩ numbered
    have found := List.mem_zipIdx_iff_getElem?.mp numbered
    exact (each row index).mpr (payable row (List.mem_of_getElem? found))

/-- The call pays so many base units of a token, or of the chain's coin, to the account a text
names. -/
def Pays (token : Option String) (payee : String) (units : Nat) (call : FeeCall) : Prop :=
  match token with
  | none => call = ⟨payee, toString units, "0x"⟩
  | some address => call.target = address ∧ call.value = "0" ∧
      ∃ recipient, parseAddress payee = .ok recipient ∧
        fromHex call.data = .ok (CallData.transfer recipient units)

variable {token : Option String}

theorem pays_of_built {payee : String} {units : Nat} {call : FeeCall}
    (small : units < 2 ^ 256) (built : buildTransferCall token payee units = some call) :
    Pays token payee units call := by
  have ⟨_, _, _, made⟩ := buildTransferCall_some built
  cases token with
  | none => exact (Option.some.inj made).symm
  | some =>
    have ⟨data, written, same⟩ := Option.map_eq_some_iff.mp made
    rw [← same]
    exact ⟨rfl, rfl, fromHex_encodeErc20Transfer small written⟩

theorem buildTransferCall_isSome {payee : String} {units : Nat}
    (named : token.all isValidAddress = true) :
    (buildTransferCall token payee units).isSome = true ↔
      isValidAddress payee = true ∧ 1 ≤ units := by
  have made : isValidAddress payee = true → (transferCall token payee units).isSome = true := by
    intro valid
    cases token with
    | none => rfl
    | some => simp [transferCall, FeePolicy.encodeErc20Transfer, valid]
  simp only [buildTransferCall, named, Bool.and_true, Bool.and_eq_true, bne_iff_ne]
  constructor
  · intro built
    split at built
    case isTrue checked => exact ⟨checked.1, Nat.one_le_iff_ne_zero.mpr checked.2⟩
    case isFalse => cases built
  · rintro ⟨valid, worth⟩
    rw [if_pos ⟨valid, Nat.one_le_iff_ne_zero.mp worth⟩]
    exact made valid

def rowCall (token : Option String) (decimals : Nat) (row : SendRecipientDraft) : Option FeeCall := do
  let units ← toBaseUnits row.amount decimals
  buildTransferCall token (Utf8.trim row.address) units

theorem rowCall_isSome (named : token.all isValidAddress = true) :
    (rowCall token decimals row).isSome = true ↔ Payable decimals row := by
  constructor
  · intro built
    have ⟨call, made⟩ := Option.isSome_iff_exists.mp built
    have ⟨units, read, call_made⟩ := Option.bind_eq_some_iff.mp made
    have ⟨valid, worth⟩ := (buildTransferCall_isSome named).mp (Option.isSome_of_eq_some call_made)
    exact ⟨valid, units, worth, read⟩
  · rintro ⟨valid, units, worth, read⟩
    simp only [rowCall, read, Option.bind_eq_bind, Option.bind_some]
    exact (buildTransferCall_isSome named).mpr ⟨valid, worth⟩

theorem mapM_isSome {α β : Type} {f : α → Option β} {items : List α} :
    (items.mapM f).isSome = true ↔ ∀ item ∈ items, (f item).isSome = true := by
  constructor
  · intro mapped item member
    have ⟨images, all_mapped⟩ := Option.isSome_iff_exists.mp mapped
    have ⟨_, _, found⟩ := PartialMap.exists_image all_mapped member
    exact Option.isSome_of_eq_some found
  · intro each
    induction items with
    | nil => rfl
    | cons item _ ih =>
      have ⟨image, found⟩ := Option.isSome_iff_exists.mp (each item List.mem_cons_self)
      have ⟨images, others⟩ := Option.isSome_iff_exists.mp
        (ih fun other member => each other (List.mem_cons_of_mem _ member))
      rw [List.mapM_cons, found, others]
      rfl

theorem buildSplitCalls_isSome (rows : recipients ≠ []) (named : token.all isValidAddress = true) :
    (buildSplitCalls token decimals recipients).isSome = true ↔
      ∀ row ∈ recipients, Payable decimals row := by
  have built : buildSplitCalls token decimals recipients =
      recipients.mapM (rowCall token decimals) :=
    if_neg (Bool.not_eq_true _ ▸ List.isEmpty_eq_false_iff.mpr rows)
  rw [built, mapM_isSome]
  exact forall₂_congr fun row _ => rowCall_isSome named

theorem rowCalls_pay {calls : List FeeCall}
    (rows : List.Forall₂ (fun row call => rowCall token decimals row = some call) recipients calls) :
    ∃ amounts : List Nat,
      List.Forall₂ (fun row units => toBaseUnits row.amount decimals = some units) recipients
        amounts ∧
      List.Forall₂ (fun paid call => Pays token (Utf8.trim paid.1.address) paid.2 call)
        (recipients.zip amounts) calls := by
  induction rows with
  | nil => exact ⟨[], .nil, .nil⟩
  | cons head _ ih =>
    have ⟨units, read, made⟩ := Option.bind_eq_some_iff.mp head
    have ⟨amounts, all_read, all_paid⟩ := ih
    have small : units < 2 ^ 256 :=
      Nat.lt_of_le_of_lt (toBaseUnits_le read) (by decide)
    exact ⟨units :: amounts, .cons read all_read, .cons (pays_of_built small made) all_paid⟩

theorem foldlM_units {amounts : List Nat}
    (read : List.Forall₂ (fun row units => toBaseUnits row.amount decimals = some units) recipients
      amounts) {start : Nat} (within : start ≤ maxU128) :
    recipients.foldlM (fun sum row =>
      (toBaseUnits row.amount decimals).map fun units => saturatingAdd sum units) start =
        some (min (start + amounts.sum) maxU128) := by
  induction read generalizing start with
  | nil => simp [within]
  | @cons row units recipients amounts head _ ih =>
    have held : saturatingAdd start units ≤ maxU128 := Nat.min_le_right _ _
    rw [List.foldlM_cons, head, Option.map_some, Option.bind_eq_bind, Option.bind_some, ih held,
      List.sum_cons, saturatingAdd]
    congr 1
    omega

theorem sumSplitBaseUnits_eq {amounts : List Nat}
    (read : List.Forall₂ (fun row units => toBaseUnits row.amount decimals = some units) recipients
      amounts) : sumSplitBaseUnits recipients decimals = some (min amounts.sum maxU128) := by
  rw [sumSplitBaseUnits, foldlM_units read (Nat.zero_le _), Nat.zero_add]

/-- No row of a split is held back exactly when its batch is built and every amount also reads
as a positive figure; the batch pays each row its base units; and a sum that fits is the total
the form measures and the confirm page shows. -/
theorem split_agrees {model : Model} {token : SendToken}
    (selected : model.holdings.selectedToken = some token) (splits : model.form.splitMode = true)
    (single : model.form.multiSelectMode = false) (rows : model.form.recipients ≠ [])
    (named : token.tokenAddress.all isValidAddress = true) :
    (splitRowIssues model.form.recipients token.decimals.toNat = [] ↔
      (buildSplitCalls token.tokenAddress token.decimals.toNat model.form.recipients).isSome = true ∧
        ∀ row ∈ model.form.recipients, isPositiveFigure (Utf8.trim row.amount) = true) ∧
    ∀ calls, buildSplitCalls token.tokenAddress token.decimals.toNat model.form.recipients =
        some calls → ∃ amounts : List Nat,
      List.Forall₂ (fun row units => toBaseUnits row.amount token.decimals.toNat = some units)
        model.form.recipients amounts ∧
      List.Forall₂ (fun paid call => Pays token.tokenAddress (Utf8.trim paid.1.address) paid.2 call)
        (model.form.recipients.zip amounts) calls ∧
      (amounts.sum ≤ maxU128 →
        sumSplitBaseUnits model.form.recipients token.decimals.toNat = some amounts.sum ∧
        (splitOverBalance model = true ↔
          (toBaseUnits (fullBalance token) token.decimals.toNat).getD 0 < amounts.sum) ∧
        toBaseUnits (confirmAmount model) token.decimals.toNat = some amounts.sum) := by
  constructor
  · rw [splitRowIssues_eq_nil, buildSplitCalls_isSome rows named]
    constructor
    · intro each
      exact ⟨fun row member => (each row member).1, fun row member => (each row member).2⟩
    · rintro ⟨payable, positive⟩ row member
      exact ⟨payable row member, positive row member⟩
  · intro calls built
    have ⟨_, mapped⟩ := Option.ite_none_left_eq_some.mp built
    have ⟨amounts, read, paid⟩ := rowCalls_pay (PartialMap.forall₂ mapped)
    refine ⟨amounts, read, paid, ?_⟩
    intro fits
    have total := sumSplitBaseUnits_eq read
    rw [Nat.min_eq_left fits] at total
    refine ⟨total, ?_, ?_⟩
    · simp [splitOverBalance, splits, selected, total]
    · simp only [confirmAmount, selected, single, splits, total, if_true, Bool.false_eq_true,
        if_false]
      exact toBaseUnits_fromBaseUnits fits

def splitOf (token : SendToken) (recipients : List SendRecipientDraft) : Model where
  holdings := { selectedToken := some token }
  form := { splitMode := true, recipients := recipients }

def halfRows : List SendRecipientDraft :=
  [⟨"first", samplePayee, " 0.5", none⟩, ⟨"second", samplePayee, ".5", none⟩]

/-- The gate is open for the rows, and the confirm page shows one ether. -/
theorem split_agrees_halfRows :
    splitRowIssues halfRows 18 = [] ∧
      toBaseUnits (confirmAmount (splitOf sampleEther halfRows)) 18 = some (10 ^ 18) := by
  have agrees := @split_agrees (splitOf sampleEther halfRows) sampleEther rfl rfl rfl (by decide) rfl
  have built : (buildSplitCalls sampleEther.tokenAddress sampleEther.decimals.toNat
      halfRows).isSome = true := by decide
  have ⟨calls, made⟩ := Option.isSome_iff_exists.mp built
  have ⟨amounts, read, _, shown⟩ := agrees.2 calls made
  have sum : amounts.sum = 10 ^ 18 := by
    cases read with
    | cons first rest =>
      cases rest with
      | cons second none_left =>
        cases none_left
        have half : ∀ row ∈ halfRows, toBaseUnits row.amount sampleEther.decimals.toNat =
            some (5 * 10 ^ 17) := by decide
        rw [half _ (by decide), Option.some.injEq] at first second
        rw [← first, ← second]
        rfl
  rw [sum] at shown
  exact ⟨agrees.1.mpr ⟨built, by decide +kernel⟩, (shown (by decide)).2.2⟩

/-- A split of a token of no decimals, held in as many units as there are. -/
def wideToken : SendToken := { sampleEther with
  balance := "340282366920938463463374607431768211455"
  decimals := 0 }

def wideRows : List SendRecipientDraft :=
  [⟨"first", samplePayee, "340282366920938463463374607431768211455", none⟩,
    ⟨"second", samplePayee, "1", none⟩]

/-- A row whose figure has an exponent: the digits read as base units, the figure as zero. -/
def tinyRows : List SendRecipientDraft := [⟨"only", samplePayee, "0.5e-400", none⟩]

/-- A row is held back of which a batch is built; and a sum beyond the widest one is not held
back, measured and shown as the widest one. -/
theorem split_disagrees :
    ((buildSplitCalls none 1 tinyRows).isSome = true ∧ splitRowIssues tinyRows 1 ≠ []) ∧
      splitRowIssues wideRows 0 = [] ∧ (buildSplitCalls none 0 wideRows).isSome = true ∧
      wideRows.map (fun row => toBaseUnits row.amount 0) = [some maxU128, some 1] ∧
      splitOverBalance (splitOf wideToken wideRows) = false ∧
      confirmAmount (splitOf wideToken wideRows) = toString maxU128 := by
  refine ⟨⟨by decide, by decide +kernel⟩, by decide +kernel, by decide, by decide, by decide, ?_⟩
  decide

end VelaWallet.Send
