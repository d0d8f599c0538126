import VelaWallet.Codec.CallRoundTrip
import VelaWallet.Codec.TxRequest

/-!
# The amount that is shown and the amount that is signed

A call's value is made canonical when the request arrives, read by the card, read again into a call
of the submit path, and encoded into call data.  All of them read one number.
-/

namespace VelaWallet

open Json (Value Reader Writer fromStr toStr)
open Utf8 (bytes)
open Fallible (bind_ok pure_ok)

variable {raws : List Value} {wei text : String}

def callField [Writer] (call : Value) (name : String) : Option String :=
  match call.get? name with
  | none | some .null => none
  | some (.string text) => some text
  | some other => some (toStr other)

/-- `plain_value_wei`, of a call's value field. -/
def cardWei [Writer] (call : Value) : Option String := valueWeiText (callField call "value")

/-- The params text that every reader holds once a request has arrived. -/
def heldParams [Reader] [Writer] (method paramsJson : String) : Except TxRequestError String :=
  (canonicalParamsJson method paramsJson).map fun rewritten => rewritten.getD paramsJson

theorem valueWeiText_written {value : Option String}
    (read : valueWeiText value = some wei) : ∃ number : Nat, wei = toString number := by
  have zero : "0" = toString 0 := rfl
  unfold valueWeiText at read
  split at read
  case h_1 => exact ⟨0, (Option.some.inj read).symm.trans zero⟩
  case h_2 =>
    dsimp only at read
    split at read
    case isTrue => exact ⟨0, (Option.some.inj read).symm.trans zero⟩
    case isFalse =>
      split at read
      case isFalse => cases read
      case isTrue =>
        split at read
        case isTrue => cases read
        case isFalse =>
          split at read
          case isTrue => cases read
          case isFalse =>
            split at read
            case isTrue => exact ⟨0, (Option.some.inj read).symm.trans zero⟩
            case isFalse =>
              obtain ⟨number, _, rfl⟩ := Option.map_eq_some_iff.mp read
              exact ⟨number, rfl⟩

theorem valueWei_written {value : Option Value}
    (read : valueWei value = some wei) : ∃ number : Nat, wei = toString number := by
  have zero : "0" = toString 0 := rfl
  unfold valueWei at read
  split at read
  case h_1 | h_2 => exact ⟨0, (Option.some.inj read).symm.trans zero⟩
  case h_3 => exact valueWeiText_written read
  case h_4 =>
    split at read
    · exact ⟨0, (Option.some.inj read).symm.trans zero⟩
    · cases read
  case h_5 => cases read

/-- The significant digits of a value text behind its mark. -/
def significantDigits (text : List UInt8) : List UInt8 :=
  if hexMark.isPrefixOf text then (text.drop 2).dropWhile (· == 48) else []

theorem valueWeiText_zero : valueWeiText (some "0x0") = some "0" := by decide

theorem valueWeiText_digits (read : valueWeiText (some text) = some wei) :
    (significantDigits (bytes text) = [] ∧ wei = "0") ∨
      significantDigits (bytes text) ≠ [] ∧
        (∀ byte ∈ significantDigits (bytes text), Hex.IsDigit byte) ∧
        (significantDigits (bytes text)).length ≤ u256HexDigits ∧
        (Hex.natOf? (significantDigits (bytes text))).map (fun number => toString number) =
          some wei := by
  unfold valueWeiText at read
  dsimp only at read
  split at read
  case isTrue blank =>
    left
    refine ⟨?_, (Option.some.inj read).symm⟩
    unfold significantDigits
    rcases blank with rfl | rfl | zeros
    · rfl
    · decide
    · split
      case isTrue marked =>
        rw [List.isPrefixOf_iff_prefix] at marked
        obtain ⟨rest, layout⟩ := marked
        have mark := zeros 120 (by rw [← layout]; simp [hexMark])
        exact absurd mark (by decide)
      case isFalse => rfl
  case isFalse =>
    split at read
    case isFalse => cases read
    case isTrue marked =>
      have kept : significantDigits (bytes text) = ((bytes text).drop 2).dropWhile (· == 48) :=
        if_pos marked
      rw [← kept] at read
      split at read
      case isTrue => cases read
      case isFalse digits =>
        have readable : ∀ byte ∈ (bytes text).drop 2, Hex.IsDigit byte := not_not.mp digits
        split at read
        case isTrue => cases read
        case isFalse short =>
          split at read
          case isTrue blank =>
            exact .inl ⟨List.isEmpty_iff.mp blank, (Option.some.inj read).symm⟩
          case isFalse filled =>
            right
            refine ⟨fun blank => filled (by rw [blank]; rfl), ?_, Nat.le_of_not_lt short, read⟩
            rw [kept]
            intro byte member
            exact readable byte ((List.dropWhile_sublist _).subset member)

theorem asciiLower_eq_zero {byte : UInt8} : Utf8.asciiLower byte = 48 ↔ byte = 48 := by
  constructor
  · intro lowered
    unfold Utf8.asciiLower at lowered
    split at lowered
    case isTrue upper =>
      have code := congrArg UInt8.toNat lowered
      rw [UInt8.toNat_add] at code
      simp only [UInt8.toNat_ofNat] at code
      omega
    case isFalse => exact lowered
  · rintro rfl
    decide

theorem dropWhile_lower (text : List UInt8) :
    (Utf8.toAsciiLowercase (text.dropWhile (· == 48))).dropWhile (· == 48) =
      Utf8.toAsciiLowercase (text.dropWhile (· == 48)) := by
  have same : ((fun byte : UInt8 => byte == 48) ∘ Utf8.asciiLower) = fun byte => byte == 48 := by
    funext byte
    rw [Bool.eq_iff_iff]
    simp only [Function.comp, beq_iff_eq, asciiLower_eq_zero]
  rw [Utf8.toAsciiLowercase, List.dropWhile_map, same, List.dropWhile_idempotent]

theorem valueWeiText_marked {digits : List UInt8} (filled : digits ≠ [])
    (readable : ∀ byte ∈ digits, Hex.IsDigit byte) (short : digits.length ≤ u256HexDigits)
    (significant : digits.dropWhile (· == 48) = digits) :
    valueWeiText (some (Utf8.ofAscii (hexMark ++ digits))) =
      (Hex.natOf? digits).map fun number => toString number := by
  have ascii : Utf8.IsAscii (hexMark ++ digits) := by
    intro byte member
    have marks : ∀ byte ∈ hexMark, byte.toNat < 128 := by simp [hexMark]
    rcases List.mem_append.mp member with mark | digit
    · exact marks byte mark
    · obtain ⟨_, read⟩ := Option.isSome_iff_exists.mp (readable byte digit)
      exact (Hex.digitValue?_visible read).2
  have written := Utf8.bytes_ofAscii ascii
  have notBlank : ¬ (Utf8.ofAscii (hexMark ++ digits) = "" ∨
      Utf8.ofAscii (hexMark ++ digits) = "0x" ∨
      ∀ byte ∈ bytes (Utf8.ofAscii (hexMark ++ digits)), byte = 48) := by
    rw [written]
    rintro (empty | mark | zeros)
    · have none := congrArg bytes empty
      rw [written] at none
      cases none
    · have only := congrArg bytes mark
      have literal : bytes "0x" = hexMark ++ [] := by decide
      rw [written, literal] at only
      exact filled (List.append_cancel_left only)
    · exact absurd (zeros 120 (by simp [hexMark])) (by decide)
  have marked : hexMark.isPrefixOf (hexMark ++ digits) = true :=
    List.isPrefixOf_iff_prefix.mpr (List.prefix_append _ _)
  have body : (hexMark ++ digits).drop 2 = digits := rfl
  have unread : ¬ ¬ ∀ byte ∈ digits, Hex.IsDigit byte := not_not.mpr readable
  have some_left : ¬ digits.isEmpty = true := fun empty => filled (List.isEmpty_iff.mp empty)
  unfold valueWeiText
  dsimp only
  rw [if_neg notBlank, written, if_pos marked, body, if_neg unread, significant,
    if_neg (Nat.not_lt.mpr short), if_neg some_left]

theorem valueWeiText_canonical (read : valueWeiText (some text) = some wei) :
    valueWeiText (some (if (significantDigits (bytes text)).isEmpty then "0x0"
      else Utf8.ofAscii (hexMark ++ Utf8.toAsciiLowercase (significantDigits (bytes text))))) =
        some wei := by
  rcases valueWeiText_digits read with ⟨blank, zero⟩ | ⟨filled, readable, short, number⟩
  · rw [blank, zero]
    exact valueWeiText_zero
  · have some_left : ¬ (significantDigits (bytes text)).isEmpty = true :=
      fun empty => filled (List.isEmpty_iff.mp empty)
    have significant : (Utf8.toAsciiLowercase (significantDigits (bytes text))).dropWhile
        (· == 48) = Utf8.toAsciiLowercase (significantDigits (bytes text)) := by
      unfold significantDigits
      split
      · exact dropWhile_lower _
      · rfl
    rw [if_neg some_left, valueWeiText_marked _ _ _ significant, Hex.natOf?_toAsciiLowercase,
      number]
    · simpa [Utf8.toAsciiLowercase] using filled
    · intro byte member
      obtain ⟨source, there, rfl⟩ := List.mem_map.mp member
      rw [Hex.IsDigit, Hex.digitValue?_asciiLower]
      exact readable source there
    · simpa [Utf8.toAsciiLowercase] using short

theorem valueWei_canonical {value : Value} {canonical : String}
    (made : canonicalValue value = some canonical) :
    valueWeiText (some canonical) = valueWei (some value) := by
  obtain ⟨wei, read, shape⟩ := Option.map_eq_some_iff.mp made
  rw [read]
  have text_body (text : List UInt8) :
      (if hexMark.isPrefixOf text then (text.drop 2).dropWhile (· == 48) else []) =
        significantDigits text := rfl
  cases value with
  | string =>
    rw [← shape]
    exact valueWeiText_canonical read
  | null =>
    cases read
    rw [← shape]
    exact valueWeiText_zero
  | number number =>
    rw [← shape]
    cases number with
    | posInt =>
      rw [valueWei] at read
      split at read
      case isTrue =>
        cases read
        exact valueWeiText_zero
      case isFalse => cases read
    | negInt => cases read
    | float => cases read
  | bool | array | object => cases read

section

variable {leg : Option Nat} {sent held : Value} {changed : Bool}

/-- A call with no value to write is left as it is, and any other one holds its canonical text. -/
theorem canonicalize_cases (made : canonicalize leg sent = .ok (held, changed)) :
    (changed = false ∧ held = sent ∧ ∀ value ∈ sent.get? "value",
      value = .null ∨ ∃ text, value = .string text ∧ canonicalValue value = some text) ∨
    ∃ members value canonical, sent = .object members ∧ sent.get? "value" = some value ∧
      canonicalValue value = some canonical ∧ changed = true ∧
        held = .object (Value.insertMember "value" (.string canonical) members) := by
  unfold canonicalize at made
  split at made
  case h_2 other =>
    cases made
    refine .inl ⟨rfl, rfl, ?_⟩
    cases sent <;> first | exact absurd rfl (other _) | nofun
  case h_1 members =>
    rw [Value.get?_object]
    split at made
    case h_1 absent =>
      cases made
      rw [absent]
      exact .inl ⟨rfl, rfl, nofun⟩
    case h_2 absent =>
      cases made
      rw [absent]
      exact .inl ⟨rfl, rfl, fun _ null => .inl (Option.some.inj null).symm⟩
    case h_3 value _ present =>
      rw [present]
      split at made
      case h_1 => cases made
      case h_2 canonical written =>
        split at made
        case isTrue already =>
          cases made
          refine .inl ⟨rfl, rfl, ?_⟩
          rintro _ ⟨⟩
          exact .inr ⟨canonical, Value.asStr?_eq_some.mp already, written⟩
        case isFalse =>
          cases made
          exact .inr ⟨members, value, canonical, rfl, rfl, written, rfl, rfl⟩

theorem canonicalize_unchanged (made : canonicalize leg sent = .ok (held, false)) :
    held = sent := by
  rcases canonicalize_cases made with ⟨_, same, _⟩ | ⟨_, _, _, _, _, _, impossible, _⟩
  · exact same
  · cases impossible

end

/-- The call as it is held is the call as it was sent, with its value made canonical. -/
def Arrives (sent held : Value) : Prop :=
  ∃ leg changed, canonicalize leg sent = .ok (held, changed)

/-- The card and the calls read one value of a call that has arrived, the one that was sent. -/
theorem Arrives.reads [Writer] {sent held : Value} (arrives : Arrives sent held) :
    cardWei held = valueWei (held.get? "value") ∧
      valueWei (held.get? "value") = valueWei (sent.get? "value") := by
  obtain ⟨leg, changed, made⟩ := arrives
  rcases canonicalize_cases made with ⟨_, rfl, kept⟩ | ⟨members, value, canonical, _, present,
    written, _, rfl⟩
  · rw [cardWei, callField]
    cases present : held.get? "value" with
    | none => exact ⟨rfl, rfl⟩
    | some value =>
      rcases kept value present with rfl | ⟨text, rfl, _⟩ <;> exact ⟨rfl, rfl⟩
  · rw [cardWei, callField, Value.get?_object, Value.lookup_insertMember_self, present]
    exact ⟨rfl, valueWei_canonical written⟩

theorem canonicalize_refused {leg : Option Nat} {sent : Value}
    (unread : valueWei (sent.get? "value") = none) :
    canonicalize leg sent = .error (.badValue leg) := by
  unfold canonicalize
  split
  case h_2 other =>
    have absent : sent.get? "value" = none := by
      cases sent <;> first | rfl | exact absurd rfl (other _)
    rw [absent] at unread
    cases unread
  case h_1 =>
    rw [Value.get?_object] at unread
    split
    case h_1 absent | h_2 absent =>
      rw [absent] at unread
      cases unread
    case h_3 present =>
      rw [present] at unread
      rw [canonicalValue, unread]
      rfl

theorem arrives_of_mapM {index : Nat} {sent : List Value} {read : List (Value × Bool)}
    (made : (sent.zipIdx index).mapM (fun call => canonicalize (some call.2) call.1) = .ok read) :
    List.Forall₂ Arrives sent (read.map (·.1)) := by
  induction sent generalizing index read with
  | nil =>
    obtain rfl := pure_ok.mp made
    exact .nil
  | cons _ _ ih =>
    rw [List.zipIdx_cons, List.mapM_cons] at made
    obtain ⟨head, headMade, made⟩ := bind_ok.mp made
    obtain ⟨tail, tailMade, made⟩ := bind_ok.mp made
    obtain rfl := pure_ok.mp made
    exact .cons ⟨some index, head.2, headMade⟩ (ih tailMade)

theorem arrives_unchanged {index : Nat} {sent : List Value} {read : List (Value × Bool)}
    (made : (sent.zipIdx index).mapM (fun call => canonicalize (some call.2) call.1) = .ok read)
    (unchanged : read.any (·.2) = false) : List.Forall₂ Arrives sent sent := by
  induction sent generalizing index read with
  | nil => exact .nil
  | cons _ _ ih =>
    rw [List.zipIdx_cons, List.mapM_cons] at made
    obtain ⟨⟨held, changed⟩, headMade, made⟩ := bind_ok.mp made
    obtain ⟨tail, tailMade, made⟩ := bind_ok.mp made
    obtain rfl := pure_ok.mp made
    rw [List.any_cons, Bool.or_eq_false_iff] at unchanged
    obtain rfl : changed = false := unchanged.1
    obtain rfl := canonicalize_unchanged headMade
    exact .cons ⟨some index, false, headMade⟩ (ih tailMade unchanged.2)

theorem rawCalls_batch (first : Value) (rest : List Value) :
    rawCalls "wallet_sendCalls" (.array (first :: rest)) =
      (first.get? "calls").bind Value.asArray? := rfl

theorem rawCalls_lone {method : String} (lone : method ≠ "wallet_sendCalls") (first : Value)
    (rest : List Value) : rawCalls method (.array (first :: rest)) = some [first] := by
  rw [rawCalls, Value.at?_array, List.getElem?_cons_zero, Option.bind_eq_bind, Option.bind_some,
    if_neg lone]

theorem canonicalizeFirst_cases {method : String} {first held : Value} {changed : Bool}
    (made : canonicalizeFirst method first = .ok (held, changed)) :
    (method ≠ "wallet_sendCalls" ∧ canonicalize none first = .ok (held, changed)) ∨
    method = "wallet_sendCalls" ∧
      (((first.get? "calls").bind Value.asArray? = none ∧ held = first ∧ changed = false) ∨
        ∃ members calls each, first = .object members ∧
          (first.get? "calls").bind Value.asArray? = some calls ∧
          calls.zipIdx.mapM (fun call => canonicalize (some call.2) call.1) = .ok each ∧
          held = .object (Value.insertMember "calls" (.array (each.map (·.1))) members) ∧
          changed = each.any (·.2)) := by
  unfold canonicalizeFirst at made
  by_cases batch : method = "wallet_sendCalls"
  · rw [if_pos batch] at made
    refine .inr ⟨batch, ?_⟩
    split at made
    case h_1 members =>
      split at made
      case h_1 absent =>
        cases made
        exact .inl ⟨absent, rfl, rfl⟩
      case h_2 calls present =>
        obtain ⟨each, arrived, made⟩ := bind_ok.mp made
        cases made
        exact .inr ⟨members, calls, each, rfl, present, arrived, rfl, rfl⟩
    case h_2 other =>
      cases made
      refine .inl ⟨?_, rfl, rfl⟩
      cases first <;> first | rfl | exact absurd rfl (other _)
  · rw [if_neg batch] at made
    exact .inl ⟨batch, made⟩

/-- The calls of the params that are held are the calls of the params that were sent, each as it
arrives. -/
theorem rawCalls_arrive {method : String} {first held : Value} {changed : Bool}
    {rest : List Value} (made : canonicalizeFirst method first = .ok (held, changed))
    (read : rawCalls method (.array (held :: rest)) = some raws) :
    ∃ sent, rawCalls method (.array (first :: rest)) = some sent ∧
      List.Forall₂ Arrives sent raws := by
  rcases canonicalizeFirst_cases made with ⟨lone, made⟩ | ⟨rfl, ⟨absent, rfl, _⟩ |
    ⟨members, calls, each, _, present, arrived, rfl, _⟩⟩
  · rw [rawCalls_lone lone] at read ⊢
    cases read
    exact ⟨[first], rfl, .cons ⟨none, changed, made⟩ .nil⟩
  · rw [rawCalls_batch, absent] at read
    cases read
  · rw [rawCalls_batch, Value.get?_object, Value.lookup_insertMember_self] at read
    cases read
    exact ⟨calls, present, arrives_of_mapM arrived⟩

theorem rawCalls_unchanged {method : String} {first held : Value} {rest : List Value}
    (made : canonicalizeFirst method first = .ok (held, false))
    (read : rawCalls method (.array (first :: rest)) = some raws) :
    List.Forall₂ Arrives raws raws := by
  rcases canonicalizeFirst_cases made with ⟨lone, made⟩ | ⟨rfl, ⟨absent, _⟩ |
    ⟨members, calls, each, _, present, arrived, _, unchanged⟩⟩
  · rw [rawCalls_lone lone] at read
    cases read
    obtain rfl := canonicalize_unchanged made
    exact .cons ⟨none, false, made⟩ .nil
  · rw [rawCalls_batch, absent] at read
    cases read
  · rw [rawCalls_batch, present] at read
    cases read
    exact arrives_unchanged arrived unchanged.symm

theorem mapM_refused {index : Nat} {sent : List Value} {call : Value} (member : call ∈ sent)
    (unread : valueWei (call.get? "value") = none) :
    ∃ leg, (sent.zipIdx index).mapM (fun call => canonicalize (some call.2) call.1) =
      .error (.badValue leg) := by
  induction sent generalizing index with
  | nil => cases member
  | cons head _ ih =>
    rw [List.zipIdx_cons, List.mapM_cons]
    cases first : canonicalize (some index) head with
    | error error =>
      cases error with
      | badValue leg => exact ⟨leg, rfl⟩
    | ok =>
      rcases List.mem_cons.mp member with rfl | later
      · rw [canonicalize_refused unread] at first
        cases first
      · obtain ⟨leg, refused⟩ := @ih (index + 1) later
        exact ⟨leg, by rw [refused]; rfl⟩

theorem canonicalizeFirst_refused {method : String} {first call : Value} {rest : List Value}
    (read : rawCalls method (.array (first :: rest)) = some raws) (member : call ∈ raws)
    (unread : valueWei (call.get? "value") = none) :
    ∃ leg, canonicalizeFirst method first = .error (.badValue leg) := by
  unfold canonicalizeFirst
  by_cases batch : method = "wallet_sendCalls"
  · subst batch
    rw [rawCalls_batch] at read
    rw [if_pos rfl]
    cases first with
    | object =>
      rw [Value.get?_object] at read
      obtain ⟨leg, refused⟩ := @mapM_refused 0 _ _ member unread
      exact ⟨leg, by simp only [read, refused]; rfl⟩
    | _ => cases read
  · rw [rawCalls_lone batch] at read
    cases read
    obtain rfl := List.mem_singleton.mp member
    rw [if_neg batch, canonicalize_refused unread]
    exact ⟨none, rfl⟩

theorem signedLegs_forall {method : String} {params : Value}
    {legs : List (RequestCall × MultiSendCall)} (signed : signedLegs method params = some legs) :
    ∃ raws, rawCalls method params = some raws ∧ List.Forall₂ SignedAs raws legs := by
  unfold signedLegs callsOf at signed
  simp only [Option.bind_eq_bind, Option.bind_eq_some_iff] at signed
  obtain ⟨calls, ⟨raws, rawsRead, read, readAll, kept⟩, converted⟩ := signed
  split at kept
  case isTrue => cases kept
  case isFalse filled =>
    cases kept
    refine ⟨raws, rawsRead, ?_⟩
    have reads := PartialMap.forall₂ readAll
    have signs := PartialMap.forall₂ converted
    clear readAll converted rawsRead filled
    induction reads generalizing legs with
    | nil =>
      cases signs
      exact .nil
    | cons head _ ih =>
      cases signs with
      | cons legMade legsMade =>
        obtain ⟨rfl, accepted⟩ := signedLeg_some legMade
        exact .cons ⟨head, accepted⟩ (ih legsMade)

theorem parseU128_written {number parsed : Nat}
    (read : Decimal.parseU128 (bytes (toString number)) = some parsed) :
    parsed = number ∧ number < 2 ^ 128 := by
  have written := Decimal.natOf?_toString number
  have filled := Decimal.toString_ne_nil number
  have digits := fun byte => @Decimal.digits_toString number byte
  generalize bytes (toString number) = text at read written filled digits
  cases text with
  | nil => exact (filled rfl).elim
  | cons first =>
    have unsigned : first ≠ Hex.plus := by
      have digit := digits first List.mem_cons_self
      rintro rfl
      exact absurd digit (by decide)
    simp only [Decimal.parseU128, unsigned, if_false, List.isEmpty_cons, Bool.false_eq_true,
      written, Option.bind_some] at read
    split at read
    case isTrue fits => exact ⟨(Option.some.inj read).symm, fits⟩
    case isFalse => cases read

theorem toMultiSendCall_value {target data : String} {number : Nat} {call : MultiSendCall}
    (accepted : toMultiSendCall target (toString number) data = .ok call) :
    number < 2 ^ 128 ∧ call.valueHex = lowerHex number := by
  unfold toMultiSendCall at accepted
  rw [Decimal.trim_toString] at accepted
  split at accepted
  case h_1 => cases accepted
  case h_2 read =>
    obtain ⟨rfl, fits⟩ := parseU128_written read
    refine ⟨fits, ?_⟩
    split at accepted
    case isTrue =>
      cases accepted
      rfl
    case isFalse =>
      cases decoded : fromHex data with
      | error =>
        rw [decoded] at accepted
        cases accepted
      | ok =>
        rw [decoded] at accepted
        cases accepted
        rfl

section Legs

variable [RadixErrors]

theorem calls_of_native {told : List MultiSendCall} {always : Bool} {callData : List UInt8}
    (built : buildNativeCallData told always = .ok callData) (short : callData.length < 2 ^ 63) :
    ∃ valueText, (valueText = id ∨ valueText = SignedReview.batchValue) ∧ ∃ decoded,
      List.Forall₂ (SignedReview.ReadsAs valueText) told decoded ∧
        SignedReview.calls callData = .ok decoded := by
  unfold buildNativeCallData at built
  split at built
  case h_1 =>
    obtain ⟨call, reads, read⟩ := SignedReview.calls_of_built_call built short
    exact ⟨id, .inl rfl, [call], .cons reads .nil, read⟩
  case h_2 =>
    obtain ⟨decoded, reads, read⟩ := SignedReview.calls_of_built_batch built short
    exact ⟨SignedReview.batchValue, .inr rfl, decoded, reads, read⟩

theorem read_number {valueText : String → String} {told : MultiSendCall} {call : SignedReview.Call}
    (spelling : valueText = id ∨ valueText = SignedReview.batchValue)
    (reads : SignedReview.ReadsAs valueText told call) {number : Nat} (fits : number < 2 ^ 256)
    (written : told.valueHex = lowerHex number) : call.value = number := by
  have word : abiEncodeUint256 (valueText told.valueHex) = .ok (Abi.word number) := by
    rw [written]
    rcases spelling with rfl | rfl
    · exact abiEncodeUint256_lowerHex fits
    · rw [SignedReview.batchValue_lowerHex]
      exact abiEncodeUint256_hexDigits fits
  have words := reads.value.symm.trans word
  rw [← Abi.beNat_word reads.value_lt, ← Abi.beNat_word fits, Except.ok.inj words]

theorem SignedAs.number {valueText : String → String} {raw : Value}
    {leg : RequestCall × MultiSendCall} {call : SignedReview.Call} (signed : SignedAs raw leg)
    (spelling : valueText = id ∨ valueText = SignedReview.batchValue)
    (reads : SignedReview.ReadsAs valueText leg.2 call) :
    valueWei (raw.get? "value") = some (toString call.value) := by
  have value : valueWei (raw.get? "value") = some leg.1.value := by
    have read := signed.read
    unfold callOf at read
    simp only [Option.bind_eq_bind, Option.bind_eq_some_iff] at read
    obtain ⟨_, _, target, _, read⟩ := read
    split at read
    case isTrue => cases read
    case isFalse =>
      simp only [Option.bind_eq_some_iff] at read
      obtain ⟨_, _, wei, weiRead, made⟩ := read
      rw [weiRead, ← Option.some.inj made]
  obtain ⟨number, written⟩ := valueWei_written value
  have accepted := signed.accepted
  rw [written] at accepted
  obtain ⟨fits, spelled⟩ := toMultiSendCall_value accepted
  rw [value, written, read_number spelling reads (Nat.lt_trans fits (by decide)) spelled]

end Legs

section Requests

variable [Reader] [Writer] {method paramsJson : String} {first : Value} {rest : List Value}

theorem heldParams_eq (transaction : isTransactionMethod method = true)
    (parsed : fromStr paramsJson = some (.array (first :: rest))) :
    heldParams method paramsJson = (canonicalizeFirst method first).map fun made =>
      if made.2 then toStr (.array (made.1 :: rest)) else paramsJson := by
  rw [heldParams, canonicalParamsJson, transaction, parsed]
  simp only [Bool.not_true, Bool.false_eq_true, if_false]
  generalize canonicalizeFirst method first = made
  cases made with
  | error => rfl
  | ok made =>
    obtain ⟨held, changed⟩ := made
    cases changed <;> rfl

theorem heldParams_arrive (transaction : isTransactionMethod method = true)
    (parsed : fromStr paramsJson = some (.array (first :: rest)))
    (readBack : ∀ held, canonicalizeFirst method first = .ok (held, true) →
      fromStr (toStr (.array (held :: rest))) = some (.array (held :: rest))) {params : Value}
    (held : heldParams method paramsJson = .ok text) (reads : fromStr text = some params)
    (read : rawCalls method params = some raws) :
    ∃ sent, rawCalls method (.array (first :: rest)) = some sent ∧
      List.Forall₂ Arrives sent raws := by
  rw [heldParams_eq transaction parsed] at held
  cases made : canonicalizeFirst method first with
  | error =>
    rw [made] at held
    cases held
  | ok result =>
    obtain ⟨value, changed⟩ := result
    rw [made] at held
    cases changed with
    | true =>
      obtain rfl : toStr (.array (value :: rest)) = text := Except.ok.inj held
      rw [readBack value made] at reads
      cases reads
      exact rawCalls_arrive made read
    | false =>
      obtain rfl : paramsJson = text := Except.ok.inj held
      rw [parsed] at reads
      cases reads
      exact ⟨raws, read, rawCalls_unchanged made read⟩

/-- Every value that is signed was shown and sent.  Of a request that arrived, each leg's value word
in the call data is the number that the card reads of the call, and that the call was sent with; and
a request with a value that cannot be read does not arrive. -/
theorem signed_as_shown [RadixErrors] (transaction : isTransactionMethod method = true)
    (parsed : fromStr paramsJson = some (.array (first :: rest)))
    (readBack : ∀ held, canonicalizeFirst method first = .ok (held, true) →
      fromStr (toStr (.array (held :: rest))) = some (.array (held :: rest))) :
    (∀ text params legs fee always (callData : ByteVec),
      heldParams method paramsJson = .ok text → fromStr text = some params →
      signedLegs method params = some legs →
      buildNativeCallData (legs.map (·.2) ++ fee) always = .ok callData.bytes →
      ∃ sent held shown others, rawCalls method (.array (first :: rest)) = some sent ∧
        rawCalls method params = some held ∧
        SignedReview.calls callData.bytes = .ok (shown ++ others) ∧ others.length = fee.length ∧
        List.Forall₂ (fun raw call => cardWei raw = some (toString call.value)) held shown ∧
        List.Forall₂ (fun raw call => valueWei (raw.get? "value") = some (toString call.value))
          sent shown) ∧
    ∀ raws call, rawCalls method (.array (first :: rest)) = some raws → call ∈ raws →
      valueWei (call.get? "value") = none →
      ∃ leg, heldParams method paramsJson = .error (.badValue leg) := by
  constructor
  · intro text params legs fee always callData held reads signed built
    obtain ⟨raws, rawsRead, signs⟩ := signedLegs_forall signed
    obtain ⟨sent, sentRead, arrive⟩ :=
      heldParams_arrive transaction parsed readBack held reads rawsRead
    obtain ⟨valueText, spelling, decoded, told, decodedRead⟩ :=
      calls_of_native built callData.length_lt
    have shown := List.forall₂_take_append _ _ _ told.flip
    have others := List.forall₂_drop_append _ _ _ told.flip
    rw [List.forall₂_map_right_iff] at shown
    have wei : List.Forall₂ (fun raw call =>
        valueWei (raw.get? "value") = some (toString call.value)) raws
        (decoded.take (legs.map (·.2)).length) := by
      apply PartialMap.forall₂_join _ signs shown
      intro raw leg call legSigned reads
      exact legSigned.number spelling reads
    have cards : List.Forall₂ (fun raw _ => cardWei raw = valueWei (raw.get? "value") ∧ True)
        raws sent := arrive.flip.imp fun _ _ arrives => ⟨(Arrives.reads arrives).1, trivial⟩
    refine ⟨sent, raws, decoded.take (legs.map (·.2)).length, _, sentRead, rawsRead, ?_,
      others.length_eq, ?_, ?_⟩
    · rw [List.take_append_drop]
      exact decodedRead
    · have both := (List.forall₂_and_left _ _).mpr
        ⟨((List.forall₂_and_left _ _).mp cards).1, wei⟩
      exact both.imp fun _ _ shows => shows.1.trans shows.2
    · apply PartialMap.forall₂_join _ arrive wei.flip
      intro sent raw call arrives signed
      exact arrives.reads.2.symm.trans signed
  · intro raws call read member unread
    obtain ⟨leg, refused⟩ := canonicalizeFirst_refused read member unread
    rw [heldParams_eq transaction parsed, refused]
    exact ⟨leg, rfl⟩

end Requests

/-- A transfer of ten wei to the MultiSend contract, its value in the given spelling. -/
def sampleTransaction (value : String) : Value :=
  .object [("to", .string Safe.multiSend), ("value", .string value)]

@[reducible] def sampleReader : Reader :=
  ⟨fun text => if text = "sent" then some (.array [sampleTransaction "0xA"])
    else some (.array [sampleTransaction "0xa"])⟩

@[reducible] def sampleWriter : Writer := ⟨fun _ => "held"⟩

theorem sampleTransaction_held :
    canonicalizeFirst "eth_sendTransaction" (sampleTransaction "0xA") =
      .ok (sampleTransaction "0xa", true) := by
  have canonical : canonicalValue (.string "0xA") = some "0xa" := by decide
  have behind : ¬ "value" < "to" := by decide
  have placed : Value.insertMember "value" (.string "0xa")
      [("to", .string Safe.multiSend), ("value", .string "0xA")] =
      [("to", .string Safe.multiSend), ("value", .string "0xa")] := by
    rw [Value.insertMember, if_neg (by decide), if_neg behind, Value.insertMember, if_pos rfl]
  simp [canonicalizeFirst, canonicalize, sampleTransaction, Value.lookup, canonical, placed]

theorem sampleTransaction_arrived :
    @heldParams sampleReader sampleWriter "eth_sendTransaction" "sent" = .ok "held" := by
  rw [@heldParams_eq sampleReader sampleWriter _ "sent" (sampleTransaction "0xA") [] rfl rfl,
    sampleTransaction_held]
  rfl

theorem sampleTransaction_signed :
    signedLegs "eth_sendTransaction" (.array [sampleTransaction "0xa"]) =
      some [(⟨Safe.multiSend, "10", "0x"⟩, ⟨Safe.multiSend, "0xa", []⟩)] := by
  have wei : valueWei (some (.string "0xa")) = some "10" := by decide
  have named : Safe.multiSend ≠ "" := by decide
  have leg : toMultiSendCall Safe.multiSend "10" "0x" = .ok ⟨Safe.multiSend, "0xa", []⟩ := by
    decide
  simp [signedLegs, callsOf, rawCalls, sampleTransaction, callOf, Value.get?, Value.lookup, named,
    callData, wei, signedLeg, leg]

theorem sampleTransaction_built :
    @buildNativeCallData SignedReview.plainRadix [⟨Safe.multiSend, "0xa", []⟩] false =
      .ok (CallData.executeUserOp multiSendContract 10 0 []) := by
  have shown : lowerHex 10 = "0xa" := by decide
  have word := @abiEncodeUint256_lowerHex 10 SignedReview.plainRadix (by decide)
  rw [shown] at word
  exact @buildExecuteCallData_read _ _ SignedReview.plainRadix _ _ [] parseAddress_multiSend word
    (by decide)

/-- The transfer is shown, sent and signed as ten wei. -/
theorem sampleTransaction_shown : ∃ sent held shown others,
    rawCalls "eth_sendTransaction" (.array [sampleTransaction "0xA"]) = some sent ∧
      rawCalls "eth_sendTransaction" (.array [sampleTransaction "0xa"]) = some held ∧
      SignedReview.calls (CallData.executeUserOp multiSendContract 10 0 []) =
        .ok (shown ++ others) ∧ others.length = 0 ∧
      List.Forall₂ (fun raw call => @cardWei sampleWriter raw = some (toString call.value))
        held shown ∧
      List.Forall₂ (fun raw call => valueWei (raw.get? "value") = some (toString call.value))
        sent shown := by
  let _ := SignedReview.plainRadix
  let _ := sampleReader
  let _ := sampleWriter
  have readBack : ∀ held, canonicalizeFirst "eth_sendTransaction" (sampleTransaction "0xA") =
      .ok (held, true) → fromStr (toStr (.array [held])) = some (.array [held]) := by
    intro held made
    rw [sampleTransaction_held] at made
    cases made
    rfl
  have room : (CallData.executeUserOp multiSendContract 10 0 []).length < 2 ^ 63 := by
    simp [CallData.executeUserOp, Abi.padded, Bytes.wordPadding]
  exact (signed_as_shown rfl rfl readBack).1 "held" _ _ [] false
    ⟨CallData.executeUserOp multiSendContract 10 0 [], room⟩
    sampleTransaction_arrived rfl sampleTransaction_signed sampleTransaction_built

end VelaWallet
