import VelaWallet.Codec.TxRequest
import VelaWallet.Guard.ApprovalDetection

/-!
# The approval guard reads the bytes that are signed

The guard slices the calldata text; the signer decodes it.  On a text that
spells its bytes in hex digits the two agree: the guard's selector and argument
words are the decoded ones, so an unbounded approval is reported and the submit
chokepoint refuses it.  The signer's reader also takes a pair written `+h`, which
the guard does not read as hex; the last section records what follows.
-/

namespace VelaWallet.ApprovalGuard

open Json (Value Reader Writer)
open Utf8 (bytes ofAscii stripPrefix CaseTable toLowercase toAsciiLowercase)

variable {detected : GuardDetectedApproval} {data text : List UInt8}

def legParams (call : Value) : Value :=
  .array [.object
    [("data", (call.get? "data").getD .null),
      ("to", (call.get? "to").getD .null),
      ("value", (call.get? "value").getD .null)]]

/-- The refusal of the first leg that is refused. -/
def enforceLegs [CaseTable] [Reader] [Writer] : List Value → Except GuardUnlimitedApproval Unit
  | [] => .ok ()
  | call :: calls =>
    match enforceNoUnlimited "eth_sendTransaction" (some (legParams call)) with
    | .error refusal => .error refusal
    | .ok () => enforceLegs calls

/-- The approval half of `proceed_submit`: the request, then every leg of a
batch, unless the person kept the unbounded amount. -/
def enforceApprovals [CaseTable] [Reader] [Writer] (method : String) (params : Value)
    (unlimitedApproved : Bool) : Except GuardUnlimitedApproval Unit :=
  if unlimitedApproved then .ok ()
  else
    match enforceNoUnlimited method (some params) with
    | .error refusal => .error refusal
    | .ok () =>
      if method = "wallet_sendCalls" then
        enforceLegs ((((params.at? 0).bind (·.get? "calls")).bind Value.asArray?).getD [])
      else .ok ()

/-- The selectors that can grant without bound. -/
inductive ApprovalShape where
  | approve
  | increaseAllowance
  | permit2Approve
  | setApprovalForAll
  deriving DecidableEq

namespace ApprovalShape

/-- The four bytes that open the calldata. -/
def selector : ApprovalShape → List UInt8
  | approve => [0x09, 0x5e, 0xa7, 0xb3]
  | increaseAllowance => [0x39, 0x50, 0x93, 0x51]
  | permit2Approve => [0x87, 0x51, 0x7c, 0x45]
  | setApprovalForAll => [0xa2, 0x2c, 0xb4, 0x65]

/-- The argument that carries the amount or the flag. -/
def amountIndex : ApprovalShape → Nat
  | permit2Approve => 2
  | _ => 1

/-- The least value of that argument which grants without bound. -/
def cap : ApprovalShape → Nat
  | approve => unlimitedCap256
  | increaseAllowance => unlimitedCap256
  | permit2Approve => unlimitedCap160
  | setApprovalForAll => 1

theorem cap_pos (shape : ApprovalShape) : 0 < shape.cap := by
  cases shape <;> decide

/-- The amount the execution environment reads. -/
def amount (shape : ApprovalShape) (data : List UInt8) : Nat :=
  Bytes.beNat (Bytes.window data (4 + shape.amountIndex * 32) 32)

/-- The argument words the guard parses. -/
def parsedWords : ApprovalShape → List Nat
  | permit2Approve => [2, 3]
  | _ => [1]

/-- The selector and the words the guard parses are written without a sign. -/
def Unsigned (shape : ApprovalShape) (text : String) : Prop :=
  let digits := stripPrefix hexMark (bytes text)
  Hex.plus ∉ digits.take 8 ∧
    ∀ index ∈ shape.parsedWords, Hex.plus ∉ (digits.drop (8 + index * 64)).take 64

instance (shape : ApprovalShape) (text : String) : Decidable (shape.Unsigned text) := by
  unfold Unsigned
  infer_instance

end ApprovalShape

/-- An unsigned stretch of whole pairs lower-cases to the digits of the bytes it
covers. -/
theorem lower_slice {text data : List UInt8} (spelled : Spelled text data) {start width : Nat}
    (unsigned : Hex.plus ∉ (text.drop (2 * start)).take (2 * width)) :
    ((toAsciiLowercase text).drop (2 * start)).take (2 * width) =
      Hex.spell ((data.drop start).take width) := by
  have slice := ((spelled.split start).2.split width).1
  rw [← slice.lower unsigned, toAsciiLowercase, toAsciiLowercase,
    ← List.map_drop, ← List.map_take]

theorem spell_replicate_zero (count : Nat) :
    Hex.spell (List.replicate count 0) = List.replicate (2 * count) 48 := by
  induction count with
  | zero => rfl
  | succ count ih =>
    rw [List.replicate_succ, show Hex.spell (0 :: List.replicate count 0) =
      Hex.pair 0 ++ Hex.spell (List.replicate count 0) from rfl, ih, Nat.mul_succ]
    rfl

theorem bigFromWord_spell {word : List UInt8} (short : word.length ≤ 32) :
    bigFromWord (Hex.spell word) =
      some (Bytes.beNat (word ++ List.replicate (32 - word.length) 0)) := by
  have allDigits : ∀ byte ∈ Hex.spell word, Hex.IsDigit byte := fun _ => Hex.spell_digits
  unfold bigFromWord
  by_cases empty : word = []
  · subst empty
    simpa [Hex.spell] using (Bytes.beNat_replicate_zero 32).symm
  · have nonempty : (Hex.spell word).isEmpty = false := by
      cases word with
      | nil => exact (empty rfl).elim
      | cons => rfl
    have padding : 64 - (Hex.spell word).length = 2 * (32 - word.length) := by
      rw [Hex.spell_length]
      omega
    rw [nonempty, if_neg (by simp), if_neg (by simpa using allDigits), padding,
      ← spell_replicate_zero, ← Hex.spell_append, Hex.natOf?_spell]
    have bound := Bytes.beNat_lt (word ++ List.replicate (32 - word.length) 0)
    have width : (word ++ List.replicate (32 - word.length) 0).length = 32 := by
      rw [List.length_append, List.length_replicate]
      omega
    rw [width] at bound
    simp only [Option.bind_some]
    rw [if_pos (by simpa using bound)]

theorem bigFromWord_wordText (spelled : Spelled text data) {index : Nat}
    (unsigned : Hex.plus ∉ (text.drop (8 + index * 64)).take 64) :
    bigFromWord (wordText (toAsciiLowercase text) index) =
      some (Bytes.beNat (Bytes.window data (4 + index * 32) 32)) := by
  have start : 8 + index * 64 = 2 * (4 + index * 32) := by omega
  rw [start] at unsigned
  rw [wordText, start, show (64 : Nat) = 2 * 32 from rfl, lower_slice spelled unsigned,
    bigFromWord_spell (by simp only [List.length_take]; omega)]
  rfl

theorem selectorText_eq (spelled : Spelled text data) (unsigned : Hex.plus ∉ text.take 8) :
    selectorText (toAsciiLowercase text) = Hex.spell (data.take 4) :=
  @lower_slice text data spelled 0 4 unsigned

theorem radixOf_digits (digits : ∀ byte ∈ text, Decimal.IsDigit byte) :
    radixOf text = none := by
  have lowered : ∀ byte ∈ toAsciiLowercase (text.take 2), byte.toNat ≤ 57 := by
    intro byte member
    obtain ⟨source, inText, rfl⟩ := List.mem_map.mp member
    have range := digits source (List.mem_of_mem_take inText)
    simp only [Decimal.IsDigit] at range
    rw [Utf8.asciiLower, if_neg (by omega)]
    exact range.2
  have differs : ∀ mark : List UInt8, (∃ byte ∈ mark, 57 < byte.toNat) →
      toAsciiLowercase (text.take 2) ≠ mark := by
    rintro mark ⟨byte, member, high⟩ equality
    have := lowered byte (equality ▸ member)
    omega
  unfold radixOf
  rw [if_neg (differs _ (by decide)), if_neg (differs _ (by decide)),
    if_neg (differs _ (by decide))]

theorem parseSignedDec_toString {value : Nat} (fits : value < 2 ^ 256) :
    parseSignedDec (toString value) = ⟨false, value⟩ := by
  have read := Decimal.natOf?_toString value
  have nonempty := Decimal.toString_ne_nil value
  have digits : ∀ byte ∈ bytes (toString value), Decimal.IsDigit byte :=
    fun _ => Decimal.digits_toString
  rw [parseSignedDec]
  generalize bytes (toString value) = text at read nonempty digits ⊢
  have unsigned : (text.head? == some 45) = false := by
    cases text with
    | nil => rfl
    | cons first =>
      have := digits first List.mem_cons_self
      simp only [List.head?_cons, beq_eq_false_iff_ne, ne_eq, Option.some.injEq]
      rintro rfl
      exact absurd this (by decide)
  have present : text.isEmpty = false := by
    cases text with
    | nil => exact (nonempty rfl).elim
    | cons => rfl
  simp only [strToBig, present, Bool.false_eq_true, if_false, radixOf_digits digits, unsigned]
  rw [if_neg (by simpa [present] using digits)]
  simp only [parseDecSaturating, read, Option.getD_some, saturating, if_pos fits, Bool.false_and]

/-- What the guard reports for an approval it reads: the amount, judged against
the cap. -/
structure Reports (shape : ApprovalShape) (data : List UInt8)
    (detected : GuardDetectedApproval) : Prop where
  unbounded : detected.isUnbounded = decide (shape.cap ≤ shape.amount data)
  boolean : detected.isBooleanGrant = decide (shape = .setApprovalForAll)
  reducing : shape.cap ≤ shape.amount data → detected.isReducing = false
  amountRaw : shape ≠ .setApprovalForAll →
    detected.amountRaw = some (toString (shape.amount data))
  bits : shape ≠ .setApprovalForAll →
    capForBits (bitsFromWire detected.amountBits) = shape.cap ∧ detected.amountBits.isSome
  locus : detected.locus = .calldataWord shape.amountIndex

theorem detectHex_reports [CaseTable] (target : Option String)
    (spelled : Spelled text data) {shape : ApprovalShape}
    (selected : data.take 4 = shape.selector) (selectorUnsigned : Hex.plus ∉ text.take 8)
    (wordsUnsigned : ∀ index ∈ shape.parsedWords,
      Hex.plus ∉ (text.drop (8 + index * 64)).take 64) :
    ∃ detected, detectHex target (toAsciiLowercase text) = some detected ∧
      Reports shape data detected := by
  have head := selectorText_eq spelled selectorUnsigned
  rw [selected] at head
  have word : ∀ index ∈ shape.parsedWords,
      bigFromWord (wordText (toAsciiLowercase text) index) =
        some (Bytes.beNat (Bytes.window data (4 + index * 32) 32)) :=
    fun index parsed => bigFromWord_wordText spelled (wordsUnsigned index parsed)
  have positive : shape.cap ≤ shape.amount data → (shape.amount data == 0) = false := by
    intro large
    have := shape.cap_pos
    simp only [beq_eq_false_iff_ne]
    omega
  unfold detectHex
  cases shape with
  | approve =>
    rw [head, if_pos (by decide), word 1 (by decide)]
    exact ⟨_, rfl, rfl, rfl, positive, fun _ => rfl, fun _ => ⟨rfl, rfl⟩, rfl⟩
  | increaseAllowance =>
    rw [head, if_neg (by decide), if_pos (by decide), word 1 (by decide)]
    exact ⟨_, rfl, rfl, rfl, fun _ => rfl, fun _ => rfl, fun _ => ⟨rfl, rfl⟩, rfl⟩
  | permit2Approve =>
    rw [head, if_neg (by decide), if_neg (by decide), if_neg (by decide), if_pos (by decide),
      word 2 (by decide), word 3 (by decide)]
    exact ⟨_, rfl, rfl, rfl, positive, fun _ => rfl, fun _ => ⟨rfl, rfl⟩, rfl⟩
  | setApprovalForAll =>
    rw [head, if_neg (by decide), if_neg (by decide), if_neg (by decide), if_neg (by decide),
      if_pos (by decide), word 1 (by decide)]
    have flag : (ApprovalShape.setApprovalForAll.amount data != 0) =
        decide (ApprovalShape.setApprovalForAll.cap ≤ ApprovalShape.setApprovalForAll.amount data) := by
      simp only [ApprovalShape.cap, Nat.one_le_iff_ne_zero, bne]
      by_cases zero : ApprovalShape.setApprovalForAll.amount data = 0 <;> simp [zero]
    refine ⟨_, rfl, flag, rfl, ?_, fun other => (other rfl).elim, fun other => (other rfl).elim, rfl⟩
    intro large
    change (!(ApprovalShape.setApprovalForAll.amount data != 0)) = false
    rw [flag, decide_eq_true large]
    rfl

theorem detectCalldataApproval_reports [CaseTable] (target : Option String) {text : String}
    (decoded : fromHex text = .ok data) {shape : ApprovalShape}
    (selected : data.take 4 = shape.selector) (unsigned : shape.Unsigned text) :
    ∃ detected, detectCalldataApproval target (some text) = some detected ∧
      Reports shape data detected := by
  have spelled := fromHexBytes_iff.mp decoded
  have long : 4 ≤ data.length := by
    have width := congrArg List.length selected
    rw [List.length_take] at width
    have : shape.selector.length = 4 := by cases shape <;> rfl
    omega
  have filled : ¬ (text = "" ∨ text = "0x") := by
    rintro (rfl | rfl) <;> cases decoded <;> simp at long
  have ascii : Utf8.IsAscii (stripPrefix [48, 120] (bytes text)) :=
    fun byte member => (spelled.visible byte member).2
  have textLong : ¬ (toAsciiLowercase (stripPrefix [48, 120] (bytes text))).length < 8 := by
    have := spelled.length
    simp only [hexMark] at this
    rw [toAsciiLowercase, List.length_map, this]
    omega
  unfold detectCalldataApproval
  simp only [Option.bind_eq_bind, Option.bind_some]
  rw [if_neg filled, if_neg (not_not_intro ascii), if_neg textLong]
  exact detectHex_reports target spelled selected unsigned.1 unsigned.2

theorem enforceDetected_error {shape : ApprovalShape} (reports : Reports shape data detected)
    (large : shape.cap ≤ shape.amount data) (amountShape : shape ≠ .setApprovalForAll) :
    ∃ refusal, enforceDetected detected = .error refusal := by
  have fits : shape.amount data < 2 ^ 256 := by
    have bound := Bytes.beNat_lt (Bytes.window data (4 + shape.amountIndex * 32) 32)
    rw [Bytes.window_length] at bound
    simpa [ApprovalShape.amount] using bound
  obtain ⟨capEq, hasBits⟩ := reports.bits amountShape
  obtain ⟨bits, bitsEq⟩ := Option.isSome_iff_exists.mp hasBits
  rw [bitsEq] at capEq
  refine ⟨⟨detected.kind, toString (shape.amount data)⟩, ?_⟩
  unfold enforceDetected
  rw [reports.locus]
  simp only [reports.boolean, reports.reducing large, reports.amountRaw amountShape, bitsEq,
    amountShape, decide_false, Bool.false_eq_true, if_false, parseSignedDec_toString fits,
    isUnboundedAmount, capEq, large, decide_true, Bool.not_false, Bool.and_self, if_true]

theorem enforceDetected_boolean
    (boolean : detected.isBooleanGrant = true) : enforceDetected detected = .ok () := by
  unfold enforceDetected
  split
  · rfl
  · simp [boolean]

theorem detectApproval_call [CaseTable] [Reader] [Writer] {params first : Value}
    {rest : List Value} (shape : params = .array (first :: rest)) {target data : String}
    (targetText : first.get? "to" = some (.string target))
    (dataText : first.get? "data" = some (.string data)) :
    detectApproval "eth_sendTransaction" (some params) =
      detectCalldataApproval (some target) (some data) := by
  have isObject : first.isObject = true := by
    cases first <;> first | rfl | cases targetText
  subst shape
  simp [detectApproval, isObject, targetText, dataText, Value.asArray?, Value.asStr?]

theorem enforceLegs_error [CaseTable] [Reader] [Writer] {calls : List Value} {call : Value}
    (member : call ∈ calls) {refusal : GuardUnlimitedApproval}
    (refused : enforceNoUnlimited "eth_sendTransaction" (some (legParams call)) = .error refusal) :
    ∃ first, enforceLegs calls = .error first := by
  induction calls with
  | nil => cases member
  | cons _ _ ih =>
    unfold enforceLegs
    split
    case h_1 first _ => exact ⟨first, rfl⟩
    case h_2 passed =>
      rcases List.mem_cons.mp member with rfl | inTail
      · rw [refused] at passed
        cases passed
      · exact ih inTail

/-- A call object the lone-transaction guard refuses is refused by the chokepoint,
alone or in its batch. -/
theorem enforceApprovals_error [CaseTable] [Reader] [Writer] {method : String} {params : Value}
    (transaction : method = "eth_sendTransaction" ∨ method = "wallet_sendCalls")
    {raws : List Value} (read : rawCalls method params = some raws) {raw : Value}
    (member : raw ∈ raws) {target data : String}
    (targetText : raw.get? "to" = some (.string target))
    (dataText : raw.get? "data" = some (.string data))
    (found : detectCalldataApproval (some target) (some data) = some detected)
    {refusal : GuardUnlimitedApproval} (refused : enforceDetected detected = .error refusal) :
    ∃ first, enforceApprovals method params false = .error first := by
  unfold rawCalls at read
  simp only [Option.bind_eq_bind, Option.bind_eq_some_iff] at read
  obtain ⟨first, firstAt, read⟩ := read
  obtain ⟨items, rfl, firstItem⟩ : ∃ items, params = .array items ∧ items[0]? = some first := by
    cases params <;> simp [Value.at?] at firstAt ⊢
    exact firstAt
  rcases transaction with rfl | rfl
  · simp only [String.reduceEq, if_false, Option.some.injEq] at read
    subst read
    obtain rfl : raw = first := by simpa using member
    obtain ⟨rest, rfl⟩ : ∃ rest, items = raw :: rest := by
      cases items with
      | nil => cases firstItem
      | cons _ rest => cases firstItem; exact ⟨rest, rfl⟩
    refine ⟨refusal, ?_⟩
    simp only [enforceApprovals, enforceNoUnlimited, detectApproval_call rfl targetText dataText,
      found, refused, Bool.false_eq_true, if_false]
  · simp only [if_true, Option.bind_eq_some_iff] at read
    obtain ⟨callsMember, callsAt, callsRead⟩ := read
    unfold enforceApprovals
    simp only [Bool.false_eq_true, if_false, if_true]
    split
    case h_1 whole _ => exact ⟨whole, rfl⟩
    case h_2 =>
      have legDetected : detectApproval "eth_sendTransaction" (some (legParams raw)) =
          detectCalldataApproval (some target) (some data) :=
        detectApproval_call rfl (by simp [Value.lookup, targetText])
          (by simp [Value.lookup, dataText])
      have legRefused : enforceNoUnlimited "eth_sendTransaction" (some (legParams raw)) =
          .error refusal := by
        rw [enforceNoUnlimited, legDetected, found]
        exact refused
      simpa [Value.at?, firstItem, callsAt, callsRead] using enforceLegs_error member legRefused

/-- Every leg the signer accepts whose bytes approve without bound is reported by
the guard, and an unbounded amount is refused at submit unless it was kept.  The
grant-all flag is reported too and left to the surface's own choice. -/
theorem unboundedApproval_refused [CaseTable] [Reader] [Writer] {method : String} {params : Value}
    (transaction : method = "eth_sendTransaction" ∨ method = "wallet_sendCalls")
    {legs : List (RequestCall × MultiSendCall)} (signed : signedLegs method params = some legs)
    {leg : RequestCall × MultiSendCall} (member : leg ∈ legs) {shape : ApprovalShape}
    (selected : leg.2.data.take 4 = shape.selector)
    (unbounded : shape.cap ≤ shape.amount leg.2.data) (unsigned : shape.Unsigned leg.1.data) :
    ∃ detected,
      detectCalldataApproval (some leg.1.target) (some leg.1.data) = some detected ∧
      detected.isUnbounded = true ∧
      (shape ≠ .setApprovalForAll →
        ∃ refusal, enforceApprovals method params false = .error refusal) ∧
      (shape = .setApprovalForAll → enforceDetected detected = .ok ()) := by
  obtain ⟨raws, rawsRead, sources, _⟩ := signedLegs_raws signed
  obtain ⟨raw, rawMember, rawRead, accepted⟩ := sources leg member
  have decoded := (toMultiSendCall_ok accepted).2
  have filled : leg.2.data ≠ [] := by
    intro empty
    rw [empty] at selected
    cases shape <;> cases selected
  obtain ⟨detected, found, reports⟩ :=
    detectCalldataApproval_reports (some leg.1.target) decoded selected unsigned
  refine ⟨detected, found, ?_, ?_, ?_⟩
  · rw [reports.unbounded]
    exact decide_eq_true unbounded
  · intro amountShape
    obtain ⟨refusal, refused⟩ := enforceDetected_error reports unbounded amountShape
    exact enforceApprovals_error transaction rawsRead rawMember (callOf_some rawRead).1
      (dataText_of_decoded rawRead accepted filled) found refused
  · intro booleanShape
    exact enforceDetected_boolean (by rw [reports.boolean]; exact decide_eq_true booleanShape)

/-- The guard of a lone signer-accepted transaction, over the plain case table
and with no nested JSON. -/
def plainDetect : Option String → Option String → Option GuardDetectedApproval :=
  @detectCalldataApproval Utf8.asciiCaseTable

/-- The chokepoint of a request, likewise. -/
def plainEnforce : String → Value → Bool → Except GuardUnlimitedApproval Unit :=
  @enforceApprovals Utf8.asciiCaseTable Json.noReader Json.noWriter

def sampleToken : String := "0x3600000000000000000000000000000000000000"

def sampleSpender : String := "00000000000000000000000088cca0eedbf2c4426110bbfc998f048689266894"

def sampleSpenderBytes : List UInt8 :=
  List.replicate 12 0 ++
    [0x88, 0xcc, 0xa0, 0xee, 0xdb, 0xf2, 0xc4, 0x42, 0x61, 0x10, 0xbb, 0xfc, 0x99, 0x8f, 0x04,
      0x86, 0x89, 0x26, 0x68, 0x94]

def maxWord : String := "ffffffffffffffffffffffffffffffffffffffffffffffffffffffffffffffff"

/-- `approve(spender, 2^256 − 1)` with a chosen spelling of the first byte. -/
def approveMax (firstByte : String) : String := "0x" ++ firstByte ++ "5ea7b3" ++ sampleSpender ++ maxWord

def approveMaxBytes : List UInt8 :=
  [0x09, 0x5e, 0xa7, 0xb3] ++ sampleSpenderBytes ++ List.replicate 32 255

/-- `setApprovalForAll(spender, true)`. -/
def grantAll : String := "0xa22cb465" ++ sampleSpender ++
  "0000000000000000000000000000000000000000000000000000000000000001"

def grantAllBytes : List UInt8 :=
  [0xa2, 0x2c, 0xb4, 0x65] ++ sampleSpenderBytes ++ List.replicate 31 0 ++ [1]

theorem unboundedApproval_refused_approveMax :
    ∃ detected, plainDetect (some sampleToken) (some (approveMax "09")) = some detected ∧
      detected.isUnbounded = true ∧
      (ApprovalShape.approve ≠ .setApprovalForAll → ∃ refusal,
        plainEnforce "eth_sendTransaction" (loneRequest sampleToken (approveMax "09")) false =
          .error refusal) ∧
      (ApprovalShape.approve = .setApprovalForAll → enforceDetected detected = .ok ()) :=
  @unboundedApproval_refused Utf8.asciiCaseTable Json.noReader Json.noWriter
    "eth_sendTransaction" (loneRequest sampleToken (approveMax "09")) (Or.inl rfl)
    [loneLeg sampleToken (approveMax "09") approveMaxBytes] (by decide +kernel)
    (loneLeg sampleToken (approveMax "09") approveMaxBytes) List.mem_cons_self .approve
    (by decide) (by decide +kernel) (by decide +kernel)

/-- Two accepted requests whose bytes grant without bound pass the chokepoint
unconsented: a grant-all, which it leaves to the surface, and an `approve` whose
first byte is written `+9`, which the guard does not read at all. -/
theorem unboundedApproval_passes :
    (signedLegs "eth_sendTransaction" (loneRequest sampleToken grantAll) =
        some [loneLeg sampleToken grantAll grantAllBytes] ∧
      grantAllBytes.take 4 = ApprovalShape.setApprovalForAll.selector ∧
      ApprovalShape.setApprovalForAll.cap ≤ ApprovalShape.setApprovalForAll.amount grantAllBytes ∧
      plainEnforce "eth_sendTransaction" (loneRequest sampleToken grantAll) false = .ok ()) ∧
    (signedLegs "eth_sendTransaction" (loneRequest sampleToken (approveMax "+9")) =
        some [loneLeg sampleToken (approveMax "+9") approveMaxBytes] ∧
      approveMaxBytes.take 4 = ApprovalShape.approve.selector ∧
      ApprovalShape.approve.cap ≤ ApprovalShape.approve.amount approveMaxBytes ∧
      plainDetect (some sampleToken) (some (approveMax "+9")) = none ∧
      plainEnforce "eth_sendTransaction" (loneRequest sampleToken (approveMax "+9")) false =
        .ok ()) := by
  refine ⟨⟨?_, ?_, ?_, ?_⟩, ?_, ?_, ?_, ?_, ?_⟩ <;> decide +kernel

end VelaWallet.ApprovalGuard
