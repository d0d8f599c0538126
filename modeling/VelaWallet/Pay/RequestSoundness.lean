import VelaWallet.Pay.LinkSoundness
import VelaWallet.Send.BaseUnits

/-!
# What a payment request promises

The amount of a valid request, the base units behind it, its code and what the send form
reads of the same text are one number.  An address is open to be copied only where the
warning about it is acknowledged.
-/

namespace VelaWallet.PaymentRequest

open FeePolicy (Digits wholePart fractionPart unitDigits maxU128)

variable {digits : List Char} {amount : String} {decimals units : Nat}

/-- The figure of a row of digits, its leading zeros left out. -/
def figureOf (digits : List Char) : List Char :=
  if (digits.dropWhile (· == '0')).isEmpty then ['0'] else digits.dropWhile (· == '0')

theorem zeros_iff (all : Digits digits) :
    digits.dropWhile (· == '0') = [] ↔ Nat.ofDigitChars 10 digits 0 = 0 := by
  induction digits with
  | nil => simp
  | cons digit digits ih =>
    have range := Decimal.isDigit_range (all digit List.mem_cons_self)
    have zero : '0'.toNat = 48 := rfl
    rw [Nat.ofDigitChars_cons, Nat.ofDigitChars_eq_ofDigitChars_zero, zero, Nat.mul_zero,
      Nat.zero_add]
    by_cases first : digit = '0'
    · rw [first, List.dropWhile_cons_of_pos (by rfl), zero, Nat.sub_self, Nat.mul_zero, Nat.zero_add]
      exact ih (all.of_subset (List.subset_cons_self _ _))
    · have code : digit.toNat ≠ 48 := fun same => first (Char.toNat_inj.mp same)
      rw [List.dropWhile_cons_of_neg (by simpa using first)]
      have positive := Nat.mul_pos (Nat.pow_pos (by decide) : 0 < 10 ^ digits.length)
        (show 0 < digit.toNat - 48 by omega)
      constructor
      · intro empty
        cases empty
      · omega

theorem hasPositive_iff (all : Digits digits) :
    digits.any isPositiveDigit = true ↔ 0 < Nat.ofDigitChars 10 digits 0 := by
  rw [Nat.pos_iff_ne_zero, ← not_iff_not, not_not, ← zeros_iff all, List.dropWhile_eq_nil_iff,
    Bool.not_eq_true, List.any_eq_false]
  apply forall₂_congr
  intro digit member
  have range := Decimal.isDigit_range (all digit member)
  rw [isPositiveDigit, beq_iff_eq, ← Char.toNat_inj]
  simp only [Bool.and_eq_true, decide_eq_true_eq, Char.le_def, UInt32.le_iff_toNat_le]
  change ¬ (49 ≤ digit.toNat ∧ digit.toNat ≤ 57) ↔ digit.toNat = 48
  omega

theorem toDigits_ofDigitChars (all : Digits digits) :
    Nat.toDigits 10 (Nat.ofDigitChars 10 digits 0) = figureOf digits := by
  induction digits using List.reverseRecOn with
  | nil => rfl
  | append_singleton digits digit ih =>
    have front := all.of_subset (List.subset_append_left _ _)
    have range := Decimal.isDigit_range (all digit (by simp))
    have last : digit.toNat - 48 < 10 := by omega
    have zero : '0'.toNat = 48 := rfl
    have codes : ∀ value < 10, (Nat.digitChar value).toNat = value + 48 := by decide
    have written : (digit.toNat - 48).digitChar = digit := by
      rw [← Char.toNat_inj, codes _ last, Nat.sub_add_cancel range.1]
    have value : Nat.ofDigitChars 10 (digits ++ [digit]) 0 =
        10 * Nat.ofDigitChars 10 digits 0 + (digit.toNat - 48) := by
      rw [Nat.ofDigitChars_append, Nat.ofDigitChars_cons, Nat.ofDigitChars_nil, zero]
    rw [value, figureOf, List.dropWhile_append]
    by_cases nothing : digits.dropWhile (· == '0') = []
    · rw [(zeros_iff front).mp nothing, Nat.mul_zero, Nat.zero_add, Nat.toDigits_of_lt_base last,
        written, nothing, List.isEmpty_nil, if_pos rfl]
      by_cases first : digit = '0'
      · rw [first]
        rfl
      · rw [List.dropWhile_cons_of_neg (by simpa using first)]
        rfl
    · have positive := Nat.pos_of_ne_zero (mt (zeros_iff front).mpr nothing)
      rw [← Nat.toDigits_append_toDigits (by decide) positive last, ih front,
        Nat.toDigits_of_lt_base last, written, figureOf]
      simp [nothing]

theorem bytes_length (all : Digits digits) :
    (Utf8.bytes (String.ofList digits)).length = digits.length := by
  rw [Decimal.bytes_ofList_ascii, List.length_map]
  intro character member
  have range := Decimal.isDigit_range (all character member)
  omega

/-- An amount the reader takes is digits around at most one point, with no more behind it
than the coin has. -/
theorem strict_parts (strict : isStrictAmount amount decimals = true) :
    (splitPoint amount.toList).getD (amount.toList, []) = (wholePart amount, fractionPart amount) ∧
      Digits (wholePart amount) ∧ Digits (fractionPart amount) ∧
      (fractionPart amount).length ≤ decimals ∧
      amount.toList ≠ [] := by
  have whole : wholePart amount = amount.toList.takeWhile (· != '.') := by
    rw [wholePart, trim_of_strict strict]
  have parts := @List.takeWhile_append_dropWhile _ (· != '.') amount.toList
  have behind : amount.toList.drop ((wholePart amount).length + 1) =
      (amount.toList.dropWhile (· != '.')).drop 1 := by
    rw [whole, ← List.drop_drop]
    exact congrArg (List.drop 1) ((congrArg (List.drop _) parts.symm).trans List.drop_left)
  have fraction : fractionPart amount =
      ((amount.toList.dropWhile (· != '.')).drop 1).takeWhile (· != '.') := by
    rw [fractionPart, trim_of_strict strict, behind]
  unfold isStrictAmount at strict
  by_cases point : '.' ∈ amount.toList
  · have split : splitPoint amount.toList =
        some (wholePart amount, (amount.toList.dropWhile (· != '.')).drop 1) := by
      rw [splitPoint, if_pos point, whole]
    simp only [split, Bool.and_eq_true, List.all_eq_true, Option.all_some,
      decide_eq_true_eq] at strict
    obtain ⟨⟨digits, more, short⟩, _⟩ := strict
    rw [Digits.takeWhile_pointless more] at fraction
    rw [split, Option.getD_some, ← fraction]
    rw [← fraction] at more short
    refine ⟨rfl, digits, more, ?_, List.ne_nil_of_mem point⟩
    rwa [bytes_length more] at short
  · have all : wholePart amount = amount.toList := by
      rw [whole, List.takeWhile_eq_self_iff]
      intro character member
      rw [bne_iff_ne]
      rintro rfl
      exact point member
    have split : splitPoint amount.toList = none := if_neg point
    rw [whole] at all
    have none_left : amount.toList.dropWhile (· != '.') = [] := by
      rw [all] at parts
      exact List.append_right_eq_self.mp parts
    rw [none_left] at fraction
    simp only [split, Bool.and_eq_true, List.all_eq_true, Option.all_none, Bool.and_true,
      Bool.not_eq_true', List.isEmpty_eq_false_iff] at strict
    rw [split, Option.getD_none, fraction, whole, all]
    exact ⟨rfl, strict.1, fun _ member => absurd member List.not_mem_nil, Nat.zero_le _, strict.2⟩

theorem toBaseUnits_strict (strict : isStrictAmount amount decimals = true) :
    toBaseUnits amount decimals =
      toString (Nat.ofDigitChars 10 (unitDigits amount decimals) 0) := by
  obtain ⟨parts, whole, fraction, short, written⟩ := strict_parts strict
  have figures : Digits (unitDigits amount decimals) :=
    (whole.append (fraction.of_subset (List.take_subset _ _))).append (.replicate_zero _)
  have leading : ((if (wholePart amount).isEmpty then ['0'] else wholePart amount) ++
      fractionPart amount ++
        List.replicate (decimals - (fractionPart amount).length) '0').dropWhile (· == '0') =
      (unitDigits amount decimals).dropWhile (· == '0') := by
    rw [unitDigits, List.take_of_length_le short]
    split
    · next none_left =>
        rw [List.isEmpty_iff.mp none_left, List.nil_append, List.append_assoc,
          List.singleton_append, List.dropWhile_cons_of_pos (by rfl)]
    · rfl
  rw [Nat.toString_eq_ofList_toDigits, toDigits_ofDigitChars figures, figureOf]
  unfold toBaseUnits
  rw [trim_of_strict strict]
  dsimp only
  rw [if_neg (by simpa using written), parts]
  simp only [List.take_of_length_le short, bytes_length fraction, leading]
  split
  · rfl
  · rfl

theorem valid_amount {query : PayQuery} {request : PayRequest}
    (valid : validatePayQuery query = .valid request) (shown : request.amount = some amount) :
    isStrictAmount amount request.decimals.toNat = true ∧
      request.amountBase = some (toBaseUnits amount request.decimals.toNat) ∧
      request.eip681Uri = buildEip681 request.recipient request.chainId request.tokenAddress
        request.decimals.toNat amount := by
  unfold validatePayQuery at valid
  dsimp only at valid
  split at valid
  · cases valid
  split at valid
  · cases valid
  split at valid
  · cases valid
  split at valid
  · cases valid
  next taken =>
    cases valid
    simp only at shown ⊢
    rw [shown] at taken ⊢
    exact ⟨by simpa using taken, rfl, rfl⟩

theorem buildEip681_amount (recipient : String) (chainId : UInt32) (tokenAddress : Option String)
    (positive : hasPositiveAmount amount = decide (0 < units)) :
    buildEip681 recipient chainId tokenAddress decimals amount =
      buildEip681 recipient chainId tokenAddress decimals "" ++
        if 0 < units then
          (if tokenAddress.isSome then "&uint256=" else "?value=") ++ toBaseUnits amount decimals
        else "" := by
  have nothing : hasPositiveAmount "" = false := by decide
  unfold buildEip681
  rw [nothing, positive]
  by_cases asked : 0 < units
  · cases tokenAddress <;> simp [asked, String.append_assoc]
  · cases tokenAddress <;> simp [asked]

/-- Whatever query a pay page is opened with, an amount it shows is one number: its base
units, the code's and what the send form reads of the text, with nothing cut off. -/
theorem payQuery_exact {query : PayQuery} {request : PayRequest} {shown : String}
    (valid : validatePayQuery query = .valid request) (headline : request.amount = some shown) :
    ∃ units, units * 10 ^ (fractionPart shown).length =
        Nat.ofDigitChars 10 (wholePart shown ++ fractionPart shown) 0 *
          10 ^ request.decimals.toNat ∧
      request.amountBase = some (toString units) ∧
      FeePolicy.toBaseUnits shown request.decimals.toNat =
        (if units ≤ maxU128 then some units else none) ∧
      request.eip681Uri = buildEip681 request.recipient request.chainId request.tokenAddress
        request.decimals.toNat "" ++
          if 0 < units then
            (if request.tokenAddress.isSome then "&uint256=" else "?value=") ++ toString units
          else "" := by
  obtain ⟨strict, base, code⟩ := valid_amount valid headline
  obtain ⟨parts, whole, fraction, short, _⟩ := strict_parts strict
  have figures := whole.append fraction
  obtain ⟨units, counted⟩ :
      ∃ units, Nat.ofDigitChars 10 (unitDigits shown request.decimals.toNat) 0 = units := ⟨_, rfl⟩
  have read := toBaseUnits_strict strict
  rw [counted] at read
  rw [read] at base
  have value : units = 10 ^ (request.decimals.toNat - (fractionPart shown).length) *
      Nat.ofDigitChars 10 (wholePart shown ++ fractionPart shown) 0 := by
    rw [← counted, unitDigits, List.take_of_length_le short, Nat.ofDigitChars_append,
      Nat.ofDigitChars_replicate_zero]
  have positive : hasPositiveAmount shown = decide (0 < units) := by
    rw [hasPositiveAmount, parts, Bool.eq_iff_iff, hasPositive_iff figures, decide_eq_true_eq, value,
      Nat.mul_pos_iff_of_pos_left (Nat.pow_pos (by decide))]
  refine ⟨units, ?_, base, ?_, ?_⟩
  · rw [value, Nat.mul_right_comm, ← Nat.pow_add, Nat.sub_add_cancel short, Nat.mul_comm]
  · have kept := fraction.of_subset (List.take_subset request.decimals.toNat _)
    split
    · next fits => exact FeePolicy.toBaseUnits_iff.mpr ⟨whole, kept, counted, fits⟩
    · next large =>
        apply Option.eq_none_iff_forall_ne_some.mpr
        intro other found
        obtain ⟨_, _, same, fits⟩ := FeePolicy.toBaseUnits_iff.mp found
        exact large (counted ▸ same ▸ fits)
  · rw [code, buildEip681_amount _ _ _ positive, read]

/-- A request of 1.05 of a coin with six decimals. -/
def sampleQuery : PayQuery where
  target := some "0x1111111111111111111111111111111111111111"
  chain := some "8453"
  token := none
  amount := some "1.05"
  sym := none
  dec := some "6"
  net := none

theorem payQuery_exact_sample :
    ∃ request units, validatePayQuery sampleQuery = .valid request ∧
      request.amountBase = some (toString units) ∧
      FeePolicy.toBaseUnits "1.05" 6 = if units ≤ maxU128 then some units else none := by
  obtain ⟨units, _, base, read, _⟩ := payQuery_exact
    (show validatePayQuery sampleQuery = .valid _ from rfl) (show _ = some "1.05" from rfl)
  exact ⟨_, units, rfl, base, read⟩

def Acknowledged (account : String) (model : Model) : Prop :=
  model.gate = .acknowledged ∧ model.account = account

/-- The warning was on screen and is confirmed, or the answer comes, to the question this
account's screen asked, that it was confirmed before. -/
def Acknowledges (account : String) (event : Event) (model : Model) : Prop :=
  model.account = account ∧
    (event = .acknowledge ∧ model.gate = .unacknowledged ∨
      event = .shellCompleted model.attempt (.ackFlag true) ∧ model.gate = .loading)

theorem acknowledged_step {account : String} (event : Event) (model : Model)
    (held : Acknowledged account (machine.step event model).1) :
    Acknowledged account model ∨ Acknowledges account event model := by
  unfold Acknowledged Acknowledges at *
  cases event with
  | start account recipient baseUrl => cases held.1
  | acknowledge =>
    simp only [machine, update] at held
    split at held
    · exact .inl held
    · next shown => exact .inr ⟨held.2, .inl ⟨rfl, not_not.mp shown⟩⟩
  | shellCompleted attempt result =>
    simp only [machine, update] at held
    split at held
    · exact .inl held
    · next own =>
        rw [not_not.mp own]
        unfold shellAnswer at held
        split at held
        · next acknowledged waiting =>
            cases acknowledged with
            | false => cases held.1
            | true => exact .inr ⟨held.2, .inr ⟨rfl, waiting⟩⟩
        · exact .inl held
  | _ =>
    simp only [machine, update] at held
    exact .inl held

/-- The address is open to be copied, or its code to be saved, only when this account
acknowledged the warning, and since then in every state. -/
theorem canCopy_acknowledged (events : List Event)
    (offered : (view (machine.after events)).canCopy = true ∨
      (view (machine.after events)).canSave = true) :
    ∃ before event later, events = before ++ event :: later ∧
      Acknowledges (machine.after events).account event (machine.after before) ∧
      ∀ part, part <+: later →
        Acknowledged (machine.after events).account (machine.after (before ++ event :: part)) := by
  have open_now : (machine.after events).gate = .acknowledged := by
    rcases offered with copy | save
    · exact beq_iff_eq.mp copy
    · exact beq_iff_eq.mp save
  apply Machine.exists_begun
  · rintro ⟨gate, _⟩
    cases gate
  · exact acknowledged_step
  · exact ⟨open_now, rfl⟩

theorem canCopy_acknowledged_sample : ∃ before event later,
    [Event.start "account" "recipient" "base", .shellCompleted 1 (.ackFlag false), .acknowledge] =
      before ++ event :: later ∧ Acknowledges "account" event (machine.after before) ∧
      ∀ part, part <+: later →
        Acknowledged "account" (machine.after (before ++ event :: part)) :=
  canCopy_acknowledged [.start "account" "recipient" "base", .shellCompleted 1 (.ackFlag false),
    .acknowledge] (.inl rfl)

end VelaWallet.PaymentRequest
