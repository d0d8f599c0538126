import Mathlib.Data.List.TakeWhile
import VelaWallet.Pay.PaymentRequest

/-!
# What a pay link says

The query of a pay link, opened, reads back as what its builder showed exactly
when the decimals are not zero and an amount above nothing is one the reader
takes.
-/

namespace VelaWallet.PaymentRequest

open Utf8 (bytes trim)

variable {character : Char} {model : Model} {amount : String}

def linkQuery (baseUrl link : String) : String :=
  String.ofList (link.toList.drop (baseUrl.toList.length + 1))

def openedWith (query : String) : PayQuery where
  target := Uri.parameter query "to"
  chain := Uri.parameter query "chain"
  token := Uri.parameter query "token"
  amount := Uri.parameter query "amount"
  sym := Uri.parameter query "sym"
  dec := Uri.parameter query "dec"
  net := Uri.parameter query "net"

def linkOf (model : Model) : PayQuery := openedWith (linkQuery model.baseUrl (payLink model))

structure Shows (model : Model) (request : PayRequest) : Prop where
  recipient : request.recipient = model.recipient
  chainId : request.chainId = model.asset.chainId
  tokenAddress : request.tokenAddress = model.asset.tokenAddress
  decimals : request.decimals = model.asset.decimals
  amount : request.amount = if hasPositiveAmount model.amount then some model.amount else none
  eip681Uri : request.eip681Uri = eip681Uri model

/-- Whoever opens the link reads a valid request of what the builder shows. -/
def LinkSays (model : Model) : Prop :=
  ∃ request, Shows model request ∧
    ∀ payer : Model, (machine.step (.linkOpened (linkOf model)) payer).1.pay = .valid request

/-- The parameters of a pay link before they are encoded. -/
def plainParameters (recipient : String) (asset : Asset) (amount : String) :
    List (String × String) :=
  [("to", recipient), ("chain", toString asset.chainId.toNat)] ++
    (asset.tokenAddress.toList.map fun token => ("token", token)) ++
    (if hasPositiveAmount amount then [("amount", amount)] else []) ++
    [("sym", asset.symbol), ("dec", toString asset.decimals.toNat)] ++
    (if asset.networkName = "" then [] else [("net", asset.networkName)])

theorem isUnreserved_of_isDigit (digit : character.isDigit = true) :
    Uri.isUnreserved character = true := by
  simp [Uri.isUnreserved, Char.isAlphanum, digit]

theorem encodeComponent_toString (value : Nat) :
    Uri.encodeComponent (toString value) = toString value := by
  apply Uri.encodeComponent_plain
  intro character member
  rw [Nat.toString_eq_ofList_toDigits, String.toList_ofList] at member
  exact isUnreserved_of_isDigit (Nat.isDigit_of_mem_toDigits (by decide) (by decide) member)

theorem payParameters_encoded (recipient : String) (asset : Asset) (amount : String) :
    payParameters recipient asset amount =
      (plainParameters recipient asset amount).map fun field =>
        (field.1, Uri.encodeComponent field.2) := by
  unfold payParameters plainParameters
  simp only [List.map_append, List.map_cons, List.map_nil, List.map_map, encodeComponent_toString,
    apply_ite (List.map _)]
  rfl

theorem plainParameters_named {recipient : String} {asset : Asset}
    {field : String × String} (member : field ∈ plainParameters recipient asset amount) :
    '=' ∉ field.1.toList ∧ '&' ∉ field.1.toList := by
  have named : field.1 ∈ ["to", "chain", "token", "amount", "sym", "dec", "net"] := by
    unfold plainParameters at member
    simp only [List.mem_append, List.mem_cons, List.not_mem_nil, or_false, List.mem_map] at member
    rcases member with (((named | ⟨token, _, named⟩) | named) | named) | named
    · rcases named with rfl | rfl
      · simp
      · simp
    · rw [← named]
      simp
    · split at named
      · rw [List.mem_singleton.mp named]
        simp
      · cases named
    · rcases named with rfl | rfl
      · simp
      · simp
    · split at named
      · cases named
      · rw [List.mem_singleton.mp named]
        simp
  generalize field.1 = name at named
  revert name
  decide

theorem linkQuery_payLink (named : model.recipient ≠ "") :
    linkQuery model.baseUrl (payLink model) =
      Uri.writeQuery (payParameters model.recipient model.asset model.amount) := by
  have long : model.baseUrl.toList.length + 1 = (model.baseUrl ++ "?").toList.length := by simp
  rw [linkQuery, payLink, if_neg named, buildPayLink, String.toList_append, long,
    List.drop_left, String.ofList_toList]

theorem linkOf_eq (named : model.recipient ≠ "") : linkOf model = {
    target := some model.recipient
    chain := some (toString model.asset.chainId.toNat)
    token := model.asset.tokenAddress
    amount := if hasPositiveAmount model.amount then some model.amount else none
    sym := some model.asset.symbol
    dec := some (toString model.asset.decimals.toNat)
    net := if model.asset.networkName = "" then none else some model.asset.networkName } := by
  have fields : ∀ name, Uri.parameter (linkQuery model.baseUrl (payLink model)) name =
      ((plainParameters model.recipient model.asset model.amount).find? (·.1 == name)).map
        (·.2) := by
    intro name
    rw [linkQuery_payLink named, payParameters_encoded]
    exact Uri.parameter_writeQuery (by simp [plainParameters])
      (fun field member => plainParameters_named member) name
  unfold linkOf openedWith
  simp only [fields, plainParameters]
  cases model.asset.tokenAddress <;> by_cases positive : hasPositiveAmount model.amount = true <;>
    by_cases unnamed : model.asset.networkName = "" <;> simp [positive, unnamed]

theorem isDigits_toString (value : Nat) : isDigits (toString value) = true := by
  rw [isDigits, Nat.toString_eq_ofList_toDigits, String.toList_ofList, List.all_eq_true]
  intro character member
  exact Nat.isDigit_of_mem_toDigits (by decide) (by decide) member

theorem toString_ne_empty (value : Nat) : toString value ≠ "" := by
  intro empty
  apply Decimal.toString_ne_nil value
  rw [empty]
  rfl

theorem parseU32_toString (value : UInt32) : parseU32 (toString value.toNat) = some value := by
  have small := value.toNat_lt
  rw [parseU32, Decimal.parseU128_toString (by omega), Option.bind_some, if_pos small,
    UInt32.ofNat_toNat]

theorem queryDecimals_toString (decimals : UInt32) :
    queryDecimals (some (toString decimals.toNat)) = if decimals = 0 then 18 else decimals := by
  have written : toString decimals.toNat ≠ "" ∧ isDigits (toString decimals.toNat) = true :=
    ⟨toString_ne_empty _, isDigits_toString _⟩
  unfold queryDecimals
  rw [Option.map_some, Decimal.trim_toString, Option.filter_some, decide_eq_true written.1,
    written.2, Bool.and_self, if_pos rfl, Option.bind_some, parseU32_toString, Option.filter_some]
  by_cases none_left : decimals = 0
  · simp [none_left]
  · simp [none_left]

theorem ne_empty_of_valid {text : String} (valid : FeePolicy.isValidAddress text = true) :
    text ≠ "" := by
  rintro rfl
  revert valid
  decide

theorem filled_address {token : Option String}
    (valid : token.all FeePolicy.isValidAddress = true) : filled token = token := by
  cases token with
  | none => rfl
  | some =>
    have plain := FeePolicy.trim_of_valid valid
    rw [filled, Option.getD_some, plain, Option.filter_some,
      if_pos (decide_eq_true (ne_empty_of_valid valid))]

theorem trim_ne_empty {text : String} (member : character ∈ text.toList)
    (solid : Utf8.isWhitespace character = false) : trim text ≠ "" := by
  intro empty
  have none_left := congrArg String.toList empty
  rw [trim, String.toList_ofList, String.toList_empty, List.reverse_eq_nil_iff,
    List.dropWhile_eq_nil_iff] at none_left
  have kept : character ∈ text.toList.dropWhile Utf8.isWhitespace := by
    have parts := @List.takeWhile_append_dropWhile _ Utf8.isWhitespace text.toList
    rw [← parts] at member
    rcases List.mem_append.mp member with blank | rest
    · rw [List.mem_takeWhile_imp blank] at solid
      cases solid
    · exact rest
  rw [none_left character (List.mem_reverse.mpr kept)] at solid
  cases solid

theorem splitPoint_subset {text whole fraction : List Char}
    (split : splitPoint text = some (whole, fraction)) : whole ⊆ text ∧ fraction ⊆ text := by
  unfold splitPoint at split
  obtain ⟨_, same⟩ := Option.ite_none_right_eq_some.mp split
  obtain ⟨rfl, rfl⟩ := Prod.mk.inj (Option.some.inj same)
  exact ⟨(List.takeWhile_sublist _).subset,
    fun _ member => (List.dropWhile_sublist _).subset (List.mem_of_mem_drop member)⟩

theorem exists_positiveDigit (positive : hasPositiveAmount amount = true) :
    ∃ character ∈ amount.toList, isPositiveDigit character = true := by
  unfold hasPositiveAmount at positive
  cases split : splitPoint amount.toList with
  | none =>
    simp only [split, Option.getD_none, List.append_nil, List.any_eq_true] at positive
    exact positive
  | some =>
    simp only [split, Option.getD_some, List.any_eq_true] at positive
    obtain ⟨character, member, digit⟩ := positive
    obtain ⟨inWhole, inFraction⟩ := splitPoint_subset split
    refine ⟨character, ?_, digit⟩
    exact (List.mem_append.mp member).elim (fun held => inWhole held) (fun held => inFraction held)

theorem isDigit_of_positive (positive : isPositiveDigit character = true) :
    character.isDigit = true := by
  simp only [isPositiveDigit, Bool.and_eq_true, decide_eq_true_eq] at positive
  simp only [Char.isDigit, Bool.and_eq_true, decide_eq_true_eq]
  exact ⟨Nat.le_trans (by decide) positive.1, positive.2⟩

theorem filled_amount (positive : hasPositiveAmount amount = true) :
    filled (some amount) = some (trim amount) := by
  obtain ⟨character, member, digit⟩ := exists_positiveDigit positive
  have solid := Decimal.isWhitespace_of_digit (isDigit_of_positive digit)
  rw [filled, Option.getD_some, Option.filter_some,
    if_pos (decide_eq_true (trim_ne_empty member solid))]

theorem strict_characters {decimals : Nat}
    (strict : isStrictAmount amount decimals = true) :
    ∀ character ∈ amount.toList, character.isDigit = true ∨ character = '.' := by
  unfold isStrictAmount at strict
  cases split : splitPoint amount.toList with
  | none =>
    simp only [split, Bool.and_eq_true, List.all_eq_true] at strict
    exact fun character member => Or.inl (strict.1.1 character member)
  | some =>
    simp only [split, Bool.and_eq_true, List.all_eq_true, Option.all_some] at strict
    obtain ⟨⟨whole, fraction, _⟩, _⟩ := strict
    obtain ⟨_, same⟩ := Option.ite_none_right_eq_some.mp split
    cases Option.some.inj same
    intro character member
    rw [← @List.takeWhile_append_dropWhile _ (· != '.') amount.toList] at member
    rcases List.mem_append.mp member with before | behind
    · exact Or.inl (whole character before)
    · cases rest : amount.toList.dropWhile (· != '.') with
      | nil =>
        rw [rest] at behind
        cases behind
      | cons =>
        have marked := @List.head_dropWhile_not _ (· != '.') amount.toList
          (rest.symm ▸ List.cons_ne_nil _ _)
        simp only [rest, List.head_cons, bne_eq_false_iff_eq] at marked
        rw [rest] at behind fraction
        rcases List.mem_cons.mp behind with rfl | inRest
        · exact Or.inr marked
        · exact Or.inl (fraction character inRest)

theorem trim_of_strict {decimals : Nat}
    (strict : isStrictAmount amount decimals = true) : trim amount = amount := by
  apply Utf8.trim_eq_self
  intro character member
  rcases strict_characters strict character member with digit | rfl
  · exact Decimal.isWhitespace_of_digit digit
  · decide

def linkDecimals (asset : Asset) : UInt32 := if asset.decimals = 0 then 18 else asset.decimals

/-- The amount a link carries, as it is read. -/
def linkAmount (amount : String) : Option String :=
  if hasPositiveAmount amount then some (trim amount) else none

/-- The request a model's link is read as, unless its amount is refused. -/
def linkRequest (model : Model) : PayRequest where
  recipient := model.recipient
  chainId := model.asset.chainId
  tokenAddress := model.asset.tokenAddress
  amount := linkAmount model.amount
  amountBase := (linkAmount model.amount).map fun text =>
    toBaseUnits text (linkDecimals model.asset).toNat
  symbol := (filled (some model.asset.symbol)).getD "tokens"
  decimals := linkDecimals model.asset
  networkName :=
    (filled (if model.asset.networkName = "" then none else some model.asset.networkName)).getD
      ("Chain " ++ toString model.asset.chainId.toNat)
  eip681Uri := buildEip681 model.recipient model.asset.chainId model.asset.tokenAddress
    (linkDecimals model.asset).toNat ((linkAmount model.amount).getD "")

theorem filled_amountField (amount : String) :
    filled (if hasPositiveAmount amount then some amount else none) = linkAmount amount := by
  unfold linkAmount
  split
  · next positive => exact filled_amount positive
  · rfl

theorem validatePayQuery_linkOf (payee : FeePolicy.isValidAddress model.recipient = true)
    (token : model.asset.tokenAddress.all FeePolicy.isValidAddress = true) :
    validatePayQuery (linkOf model) =
      if (linkAmount model.amount).any (fun text =>
        !isStrictAmount text (linkDecimals model.asset).toNat) then .invalid
      else .valid (linkRequest model) := by
  have own := FeePolicy.trim_of_valid payee
  rw [linkOf_eq (ne_empty_of_valid payee)]
  unfold validatePayQuery linkRequest
  simp only [Option.getD_some, own, isHexAddress, payee, Decimal.trim_toString,
    toString_ne_empty, isDigits_toString, parseU32_toString, queryDecimals_toString,
    filled_address token, filled_amountField, Bool.not_true, Bool.false_eq_true, if_false]
  rfl

def readsBack (model : Model) : Bool :=
  model.asset.decimals != 0 &&
    (!hasPositiveAmount model.amount ||
      isStrictAmount model.amount model.asset.decimals.toNat)

theorem linkDecimals_of_ne {asset : Asset} (whole : asset.decimals ≠ 0) :
    linkDecimals asset = asset.decimals := if_neg whole

theorem linkOpened_pay (query : PayQuery) (payer : Model) :
    (machine.step (.linkOpened query) payer).1.pay = validatePayQuery query := by
  simp only [machine, update]

theorem linkRequest_shows (named : model.recipient ≠ "") (whole : model.asset.decimals ≠ 0)
    (plain : hasPositiveAmount model.amount = true → trim model.amount = model.amount) :
    Shows model (linkRequest model) := by
  have decimals := linkDecimals_of_ne whole
  have amount : linkAmount model.amount =
      if hasPositiveAmount model.amount then some model.amount else none := by
    unfold linkAmount
    split
    · next positive => rw [plain positive]
    · rfl
  refine ⟨rfl, rfl, rfl, decimals, amount, ?_⟩
  show buildEip681 _ _ _ _ _ = eip681Uri model
  rw [eip681Uri, if_neg named, decimals, amount]
  by_cases positive : hasPositiveAmount model.amount = true
  · rw [if_pos positive, Option.getD_some]
  · have nothing : hasPositiveAmount "" = false := by decide
    rw [if_neg positive, Option.getD_none]
    unfold buildEip681
    simp only [nothing, positive, Bool.false_eq_true, if_false]

/-- The link of a builder whose addresses are well formed says what it shows exactly
when it reads back. -/
theorem linkSays_iff (payee : FeePolicy.isValidAddress model.recipient = true)
    (token : model.asset.tokenAddress.all FeePolicy.isValidAddress = true) :
    LinkSays model ↔ readsBack model = true := by
  have read := validatePayQuery_linkOf payee token
  simp only [readsBack, Bool.and_eq_true, bne_iff_ne, Bool.or_eq_true, Bool.not_eq_true']
  constructor
  · rintro ⟨request, shows, opens⟩
    have valid := opens model
    rw [linkOpened_pay, read] at valid
    split at valid
    · cases valid
    · next taken =>
        cases valid
        have whole : model.asset.decimals ≠ 0 := by
          intro zero
          have same : linkDecimals model.asset = model.asset.decimals := shows.decimals
          rw [linkDecimals, if_pos zero, zero] at same
          cases same
        refine ⟨whole, ?_⟩
        cases positive : hasPositiveAmount model.amount with
        | false => exact Or.inl rfl
        | true =>
          have same : linkAmount model.amount = some model.amount :=
            shows.amount.trans (if_pos positive)
          rw [same, linkDecimals_of_ne whole] at taken
          exact Or.inr (by simpa using taken)
  · rintro ⟨whole, strict⟩
    have reads : hasPositiveAmount model.amount = true →
        isStrictAmount model.amount model.asset.decimals.toNat = true := by
      intro positive
      exact strict.resolve_left (by rw [positive]; exact Bool.noConfusion)
    refine ⟨linkRequest model, linkRequest_shows (ne_empty_of_valid payee) whole fun positive =>
      trim_of_strict (reads positive), ?_⟩
    intro payer
    rw [linkOpened_pay, read, if_neg]
    unfold linkAmount
    rw [linkDecimals_of_ne whole]
    split
    · next positive =>
        rw [trim_of_strict (reads positive), Option.any_some, reads positive]
        exact Bool.noConfusion
    · exact Bool.noConfusion

/-- In every run, the link of a builder whose addresses are well formed says what the
builder shows exactly when it reads back. -/
theorem payLink_says_shown (events : List Event)
    (payee : FeePolicy.isValidAddress (machine.after events).recipient = true)
    (token : (machine.after events).asset.tokenAddress.all FeePolicy.isValidAddress = true) :
    LinkSays (machine.after events) ↔ readsBack (machine.after events) = true :=
  linkSays_iff payee token

/-- The receive screen opened, an asset picked and an amount typed. -/
def sampleRequest (asset : Asset) (text : String) : List Event :=
  [.start "account" "0x1111111111111111111111111111111111111111" "https://getvela.app/pay",
    .assetPicked asset,
    .amountChanged text,
    .modeChanged .request]

/-- A contract's coin of so many decimals. -/
def sampleDollar (decimals : UInt32) : Asset where
  chainId := 8453
  tokenAddress := some "0x2222222222222222222222222222222222222222"
  symbol := "USDC"
  decimals
  networkName := "Base"

theorem payLink_says_shown_sampleRequest :
    LinkSays (machine.after (sampleRequest (sampleDollar 6) "1.5")) :=
  (payLink_says_shown (sampleRequest (sampleDollar 6) "1.5") (by decide)
    (by decide)).mpr (by decide)

/-- A coin without decimals is asked for in 18 of them, and an amount typed with two
points is refused, while the builder's own code carries both. -/
theorem payLink_says_otherwise :
    ¬ LinkSays (machine.after (sampleRequest (sampleDollar 0) "5")) ∧
      ¬ LinkSays (machine.after (sampleRequest (sampleDollar 6) "1.2.3")) := by
  have undivided : readsBack (machine.after (sampleRequest (sampleDollar 0) "5")) = false := by
    decide
  have pointed : readsBack (machine.after (sampleRequest (sampleDollar 6) "1.2.3")) = false := by
    decide
  constructor
  · rw [linkSays_iff (by decide) (by decide), undivided]
    exact Bool.noConfusion
  · rw [linkSays_iff (by decide) (by decide), pointed]
    exact Bool.noConfusion

end VelaWallet.PaymentRequest
