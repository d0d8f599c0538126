import VelaWallet.Guard.ApprovalMachine
import VelaWallet.Guard.ApprovalSoundness

/-!
# A re-encoded approval is bounded

A rewrite replaces one argument word of the calldata text.  Detection reads the
new text as the same approval with the chosen amount, so what a cap or a revoke
emits is never unbounded; and a cap or a revoke is only ever refused for want of
a whole amount word.
-/

namespace VelaWallet.ApprovalGuard

open Json (Value Reader Writer)
open Utf8 (bytes ofAscii stripPrefix CaseTable toAsciiLowercase)
open Fallible (require orFail bind_ok require_ok orFail_ok)

variable {choice : GuardChoice} {detected : GuardDetectedApproval} {hex : List UInt8}
  {target : Option String}

/-- What every approval read off calldata has in common. -/
structure CalldataApproval (detected : GuardDetectedApproval) : Prop where
  editable : detected.editable = true
  locus : ∃ index, detected.locus = .calldataWord index
  grows : detected.isUnbounded = true → detected.isReducing = false
  boolean : detected.isBooleanGrant = true ↔ detected.kind = .setApprovalForAll
  amount : detected.isBooleanGrant = false → ∃ amount bits,
    amount < 2 ^ 256 ∧ detected.amountRaw = some (toString amount) ∧
    detected.amountBits = some bits ∧
    (detected.isUnbounded = true → isUnboundedAmount amount (bitsFromWire (some bits)) = true)

variable {amount : Nat}

theorem bigFromWord_lt {word : List UInt8} (read : bigFromWord word = some amount) :
    amount < 2 ^ 256 := by
  unfold bigFromWord at read
  split at read
  case isTrue =>
    cases read
    decide
  case isFalse =>
    split at read
    case isTrue => cases read
    case isFalse =>
      obtain ⟨value, _, kept⟩ := Option.bind_eq_some_iff.mp read
      split at kept
      case isTrue fits =>
        cases kept
        exact fits
      case isFalse => cases kept

theorem isUnboundedAmount_pos {bits : AmountBits}
    (unbounded : isUnboundedAmount amount bits = true) : (amount == 0) = false := by
  have reached : capForBits bits ≤ amount := of_decide_eq_true unbounded
  have positive : 0 < capForBits bits := by cases bits <;> decide
  have : amount ≠ 0 := by omega
  simpa using this

theorem amountApproval_calldata {kind : GuardApprovalKind} {tokenAddress : Option String}
    {spender : String} {bits : AmountBits} {isUnbounded isReducing : Bool}
    {deadline : Option String} {wordIndex : Nat} (fits : amount < 2 ^ 256)
    (other : kind ≠ .setApprovalForAll)
    (unbounded : isUnbounded = true → isUnboundedAmount amount bits = true)
    (grows : isUnbounded = true → isReducing = false) :
    CalldataApproval (amountApproval kind tokenAddress spender amount bits isUnbounded isReducing
      deadline wordIndex) where
  editable := rfl
  locus := ⟨wordIndex, rfl⟩
  grows := grows
  boolean := ⟨fun impossible => (Bool.false_ne_true impossible).elim, fun same => (other same).elim⟩
  amount := by
    intro _
    refine ⟨amount, _, fits, rfl, rfl, ?_⟩
    intro isUnbounded
    cases bits <;> exact unbounded isUnbounded

theorem detectHex_calldata [CaseTable]
    (found : detectHex target hex = some detected) :
    CalldataApproval detected := by
  unfold detectHex at found
  split at found
  case isTrue =>
    obtain ⟨amount, read, equality⟩ := Option.bind_eq_some_iff.mp found
    cases equality
    exact amountApproval_calldata (bigFromWord_lt read) (by decide) id isUnboundedAmount_pos
  split at found
  case isTrue =>
    obtain ⟨amount, read, equality⟩ := Option.bind_eq_some_iff.mp found
    cases equality
    exact amountApproval_calldata (bigFromWord_lt read) (by decide) id fun _ => rfl
  split at found
  case isTrue =>
    obtain ⟨amount, read, equality⟩ := Option.bind_eq_some_iff.mp found
    cases equality
    exact amountApproval_calldata (bigFromWord_lt read) (by decide)
      (fun impossible => (Bool.false_ne_true impossible).elim)
      (fun impossible => (Bool.false_ne_true impossible).elim)
  split at found
  case isTrue =>
    obtain ⟨amount, read, rest⟩ := Option.bind_eq_some_iff.mp found
    obtain ⟨deadline, _, equality⟩ := Option.bind_eq_some_iff.mp rest
    cases equality
    exact amountApproval_calldata (bigFromWord_lt read) (by decide) id isUnboundedAmount_pos
  split at found
  case isTrue =>
    obtain ⟨approved, _, equality⟩ := Option.bind_eq_some_iff.mp found
    cases equality
    constructor
    · rfl
    · exact ⟨1, rfl⟩
    · intro unbounded
      exact congrArg Bool.not unbounded
    · exact ⟨fun _ => rfl, fun _ => rfl⟩
    · intro impossible
      cases impossible
  case isFalse => cases found

theorem detectCalldataApproval_some [CaseTable] {data : Option String}
    (found : detectCalldataApproval target data = some detected) :
    ∃ text, data = some text ∧ Utf8.IsAscii (stripPrefix hexMark (bytes text)) ∧
      detectHex target (toAsciiLowercase (stripPrefix hexMark (bytes text))) = some detected := by
  obtain ⟨text, isText, rest⟩ := Option.bind_eq_some_iff.mp found
  simp only [Option.ite_none_left_eq_some, not_not] at rest
  obtain ⟨_, ascii, _, read⟩ := rest
  exact ⟨text, isText, ascii, read⟩

theorem isAscii_hexMark : Utf8.IsAscii hexMark := by decide

theorem detectCalldataApproval_ofAscii [CaseTable] (target : Option String)
    (ascii : Utf8.IsAscii hex) (long : 8 ≤ hex.length) :
    detectCalldataApproval target (some (ofAscii (hexMark ++ hex))) =
      detectHex target (toAsciiLowercase hex) := by
  have textAscii : Utf8.IsAscii (hexMark ++ hex) := by
    intro byte member
    rcases List.mem_append.mp member with inMark | inHex
    · exact isAscii_hexMark byte inMark
    · exact ascii byte inHex
  have isText : bytes (ofAscii (hexMark ++ hex)) = hexMark ++ hex := Utf8.bytes_ofAscii textAscii
  have stripped : stripPrefix [48, 120] (hexMark ++ hex) = hex := stripPrefix_mark_append hex
  have filled : ¬ (ofAscii (hexMark ++ hex) = "" ∨ ofAscii (hexMark ++ hex) = "0x") := by
    have textLength := congrArg List.length isText
    rw [List.length_append] at textLength
    rintro (empty | bare)
    · rw [empty] at textLength
      have : (bytes "").length = 0 := rfl
      omega
    · rw [bare] at textLength
      have : (bytes "0x").length = 2 := rfl
      have : hexMark.length = 2 := rfl
      omega
  have enough : ¬ (toAsciiLowercase hex).length < 8 := by
    rw [toAsciiLowercase, List.length_map]
    omega
  unfold detectCalldataApproval
  simp only [Option.bind_eq_bind, Option.bind_some, isText, stripped]
  rw [if_neg filled, if_neg (not_not_intro ascii), if_neg enough]

theorem enforceDetected_unbounded
    (approval : CalldataApproval detected) (unbounded : detected.isUnbounded = true)
    (amountShape : detected.isBooleanGrant = false) :
    ∃ refusal, enforceDetected detected = .error refusal := by
  obtain ⟨amount, bits, fits, amountRaw, amountBits, large⟩ := approval.amount amountShape
  obtain ⟨index, locus⟩ := approval.locus
  refine ⟨⟨detected.kind, toString amount⟩, ?_⟩
  unfold enforceDetected
  rw [locus]
  simp only [amountShape, approval.grows unbounded, amountRaw, amountBits, Bool.false_eq_true,
    if_false, parseSignedDec_toString fits, large unbounded, Bool.not_false, Bool.and_self, if_true]

/-- The text with its `index`-th argument word replaced. -/
def replaceWord (hex : List UInt8) (index : Nat) (word : List UInt8) : List UInt8 :=
  hex.take (8 + index * 64) ++ word ++ hex.drop (8 + index * 64 + 64)

section Replace

variable {hex word : List UInt8} {index : Nat}

section

variable (wide : word.length = 64) (inside : 8 + index * 64 + 64 ≤ hex.length)
include wide inside

theorem replaceWord_length :
    (replaceWord hex index word).length = hex.length := by
  simp only [replaceWord, List.length_append, List.length_take, List.length_drop, wide]
  omega

theorem replaceWord_getElem?
    {position : Nat} (outside : position < 8 + index * 64 ∨ 8 + index * 64 + 64 ≤ position) :
    (replaceWord hex index word)[position]? = hex[position]? := by
  have frontLength : (hex.take (8 + index * 64)).length = 8 + index * 64 := by
    rw [List.length_take]
    omega
  rw [replaceWord]
  rcases outside with before | behind
  · rw [List.append_assoc, List.getElem?_append_left (by omega), List.getElem?_take_of_lt before]
  · have bodyLength : (hex.take (8 + index * 64) ++ word).length = 8 + index * 64 + 64 := by
      rw [List.length_append, frontLength, wide]
    rw [List.getElem?_append_right (by omega), bodyLength, List.getElem?_drop]
    congr 1
    omega

theorem replaceWord_window
    {start width : Nat} (avoids : start + width ≤ 8 + index * 64 ∨ 8 + index * 64 + 64 ≤ start) :
    ((replaceWord hex index word).drop start).take width = (hex.drop start).take width := by
  apply List.ext_getElem?
  intro offset
  by_cases within : offset < width
  · rw [List.getElem?_take_of_lt within, List.getElem?_take_of_lt within, List.getElem?_drop,
      List.getElem?_drop]
    exact replaceWord_getElem? wide inside (by omega)
  · rw [List.getElem?_eq_none (by simp only [List.length_take]; omega),
      List.getElem?_eq_none (by simp only [List.length_take]; omega)]

theorem wordText_replaceWord :
    wordText (replaceWord hex index word) index = word := by
  have frontLength : (hex.take (8 + index * 64)).length = 8 + index * 64 := by
    rw [List.length_take]
    omega
  rw [wordText, replaceWord, List.append_assoc, List.drop_left' frontLength, ← wide,
    List.take_left]

theorem wordText_replaceWord_other {other : Nat} (different : other ≠ index) :
    wordText (replaceWord hex index word) other = wordText hex other := by
  apply replaceWord_window wide inside
  rcases Nat.lt_or_gt_of_ne different with before | behind <;> omega

theorem selectorText_replaceWord :
    selectorText (replaceWord hex index word) = selectorText hex :=
  @replaceWord_window hex word index wide inside 0 8 (Or.inl (by omega))

end

theorem toAsciiLowercase_replaceWord :
    toAsciiLowercase (replaceWord hex index word) =
      replaceWord (toAsciiLowercase hex) index (toAsciiLowercase word) := by
  simp only [replaceWord, toAsciiLowercase, List.map_append, List.map_take, List.map_drop]

theorem isAscii_replaceWord (hexAscii : Utf8.IsAscii hex) (wordAscii : Utf8.IsAscii word) :
    Utf8.IsAscii (replaceWord hex index word) := by
  intro byte member
  simp only [replaceWord, List.mem_append] at member
  rcases member with (front | inWord) | back
  · exact hexAscii byte (List.mem_of_mem_take front)
  · exact wordAscii byte inWord
  · exact hexAscii byte (List.mem_of_mem_drop back)

end Replace

theorem hexWord_length (value : Nat) : (hexWord value).length = 64 := by
  rw [hexWord, Hex.spell_length, Bytes.beBytes_length]

theorem isAscii_hexWord (value : Nat) : Utf8.IsAscii (hexWord value) :=
  fun byte member => ((spelled_spell _).visible byte member).2

theorem toAsciiLowercase_hexWord (value : Nat) :
    toAsciiLowercase (hexWord value) = hexWord value :=
  (spelled_spell _).lower (Hex.plus_not_mem_spell _)

theorem bigFromWord_hexWord {value : Nat} (fits : value < 2 ^ 256) :
    bigFromWord (hexWord value) = some value := by
  rw [hexWord, bigFromWord_spell (by rw [Bytes.beBytes_length]), Bytes.beBytes_length,
    Nat.sub_self, List.replicate_zero, List.append_nil,
    Bytes.beNat_beBytes_of_lt (by simpa using fits)]

/-- An approval read again, with another number in its amount word. -/
structure Reread (detected : GuardDetectedApproval) (amount : Nat)
    (changed : GuardDetectedApproval) : Prop where
  kind : changed.kind = detected.kind
  token : changed.tokenAddress = detected.tokenAddress
  spender : changed.spender = detected.spender
  shape : changed.isBooleanGrant = detected.isBooleanGrant
  amountRaw : changed.amountRaw =
    if detected.isBooleanGrant then none else some (toString amount)
  granted : changed.isBooleanGrant = true → changed.isUnbounded = (amount != 0)
  bounded : changed.isBooleanGrant = false → changed.isUnbounded = true →
    isUnboundedAmount amount (bitsFromWire detected.amountBits) = true

theorem detectHex_replaceWord [CaseTable] {word : List UInt8}
    {index amount : Nat}
    (found : detectHex target hex = some detected) (locus : detected.locus = .calldataWord index)
    (wide : word.length = 64) (inside : 8 + index * 64 + 64 ≤ hex.length)
    (read : bigFromWord word = some amount) :
    ∃ changed, detectHex target (replaceWord hex index word) = some changed ∧
      Reread detected amount changed := by
  have selector := @selectorText_replaceWord hex word index wide inside
  have here := @wordText_replaceWord hex word index wide inside
  have elsewhere := @wordText_replaceWord_other hex word index wide inside
  unfold detectHex at found ⊢
  rw [selector]
  split at found
  case isTrue selected =>
    obtain ⟨_, _, equality⟩ := Option.bind_eq_some_iff.mp found
    cases equality
    cases locus
    rw [if_pos selected, here, read, elsewhere (show 0 ≠ 1 by decide)]
    exact ⟨_, rfl, rfl, rfl, rfl, rfl, rfl, nofun, fun _ unbounded => unbounded⟩
  case isFalse notApprove =>
  rw [if_neg notApprove]
  split at found
  case isTrue selected =>
    obtain ⟨_, _, equality⟩ := Option.bind_eq_some_iff.mp found
    cases equality
    cases locus
    rw [if_pos selected, here, read, elsewhere (show 0 ≠ 1 by decide)]
    exact ⟨_, rfl, rfl, rfl, rfl, rfl, rfl, nofun, fun _ unbounded => unbounded⟩
  case isFalse notIncrease =>
  rw [if_neg notIncrease]
  split at found
  case isTrue selected =>
    obtain ⟨_, _, equality⟩ := Option.bind_eq_some_iff.mp found
    cases equality
    cases locus
    rw [if_pos selected, here, read, elsewhere (show 0 ≠ 1 by decide)]
    exact ⟨_, rfl, rfl, rfl, rfl, rfl, rfl, nofun, nofun⟩
  case isFalse notDecrease =>
  rw [if_neg notDecrease]
  split at found
  case isTrue selected =>
    obtain ⟨_, _, rest⟩ := Option.bind_eq_some_iff.mp found
    obtain ⟨deadline, deadlineRead, equality⟩ := Option.bind_eq_some_iff.mp rest
    cases equality
    cases locus
    rw [if_pos selected, here, read, elsewhere (show 3 ≠ 2 by decide), deadlineRead,
      elsewhere (show 0 ≠ 2 by decide), elsewhere (show 1 ≠ 2 by decide)]
    exact ⟨_, rfl, rfl, rfl, rfl, rfl, rfl, nofun, fun _ unbounded => unbounded⟩
  case isFalse notPermit =>
  rw [if_neg notPermit]
  split at found
  case isTrue selected =>
    obtain ⟨_, _, equality⟩ := Option.bind_eq_some_iff.mp found
    cases equality
    cases locus
    rw [if_pos selected, here, read, elsewhere (show 0 ≠ 1 by decide)]
    exact ⟨_, rfl, rfl, rfl, rfl, rfl, rfl, fun _ => rfl, nofun⟩
  case isFalse => cases found

theorem chosenAmount_bounded (chosen : chosenAmount detected choice = .ok amount)
    (amountShape : detected.isBooleanGrant = false) (decided : choice ≠ .unlimited) :
    isUnboundedAmount amount (bitsFromWire detected.amountBits) = false := by
  cases choice with
  | revoke =>
    cases chosen
    cases bitsFromWire detected.amountBits <;> decide
  | grant =>
    unfold chosenAmount at chosen
    rw [amountShape] at chosen
    cases chosen
  | unlimited => exact (decided rfl).elim
  | amount =>
    obtain ⟨value, _, kept⟩ := bind_ok.mp chosen
    split at kept
    case isTrue => cases kept
    case isFalse bounded =>
      cases kept
      exact Bool.eq_false_iff.mpr bounded

theorem parseDecU256_lt {text : String} (read : parseDecU256 text = some amount) :
    amount < 2 ^ 256 := by
  simp only [parseDecU256, Option.ite_none_left_eq_some] at read
  obtain ⟨_, parsed⟩ := read
  obtain ⟨value, _, kept⟩ := Option.bind_eq_some_iff.mp parsed
  split at kept
  case isTrue fits =>
    cases kept
    exact fits
  case isFalse => cases kept

theorem chosenAmount_lt
    (chosen : chosenAmount detected choice = .ok amount) : amount < 2 ^ 256 := by
  cases choice with
  | revoke =>
    cases chosen
    decide
  | grant =>
    simp only [chosenAmount] at chosen
    split at chosen
    case isTrue =>
      cases chosen
      decide
    case isFalse => cases chosen
  | unlimited =>
    simp only [chosenAmount] at chosen
    split at chosen
    case isTrue => cases chosen
    case isFalse =>
      obtain ⟨text, _, read⟩ := Option.bind_eq_some_iff.mp (orFail_ok.mp chosen)
      exact parseDecU256_lt read
  | amount =>
    obtain ⟨value, read, kept⟩ := bind_ok.mp chosen
    split at kept
    case isTrue => cases kept
    case isFalse =>
      cases kept
      exact parseDecU256_lt (orFail_ok.mp read)

/-- The number a choice writes: a flag for `setApprovalForAll`, else the chosen amount. -/
def Writes (detected : GuardDetectedApproval) (choice : GuardChoice) (value : Nat) : Prop :=
  if detected.kind = .setApprovalForAll then
    choice = .grant ∧ value = 1 ∨ choice = .revoke ∧ value = 0
  else chosenAmount detected choice = .ok value

theorem newWord_ok {word : List UInt8} (made : newWord detected choice = .ok word) :
    ∃ value, word = hexWord value ∧ value < 2 ^ 256 ∧ Writes detected choice value := by
  unfold newWord at made
  unfold Writes
  split at made
  case isTrue flag =>
    cases choice with
    | amount => cases made
    | unlimited => cases made
    | grant =>
      cases made
      exact ⟨1, rfl, by decide, by simp [flag]⟩
    | revoke =>
      cases made
      exact ⟨0, rfl, by decide, by simp [flag]⟩
  case isFalse other =>
    cases chosen : chosenAmount detected choice with
    | error => rw [chosen] at made; cases made
    | ok value =>
      rw [chosen] at made
      cases made
      exact ⟨value, rfl, chosenAmount_lt chosen, by rw [if_neg other]⟩

theorem assertOnlyWordChanged_replaceWord {data : String} {word : List UInt8} {index : Nat}
    (isHex : stripPrefix hexMark (bytes data) = hex) (wide : word.length = 64)
    (inside : 8 + index * 64 + 64 ≤ hex.length) :
    assertOnlyWordChanged (bytes data) (hexMark ++ replaceWord hex index word)
      (8 + index * 64) (8 + index * 64 + 64) = .ok () := by
  have before : stripPrefix [48, 120] (bytes data) = hex := isHex
  have after : stripPrefix [48, 120] (hexMark ++ replaceWord hex index word) =
      replaceWord hex index word := stripPrefix_mark_append _
  have sameLength := replaceWord_length wide inside
  unfold assertOnlyWordChanged
  simp only [before, after]
  rw [if_neg (not_not.mpr sameLength.symm), if_pos ?_]
  rw [List.all_eq_true]
  rintro ⟨⟨old, new⟩, position⟩ member
  have paired := List.getElem?_zip_eq_some.mp (List.mem_zipIdx_iff_getElem?.mp member)
  by_cases inWindow : 8 + index * 64 ≤ position ∧ position < 8 + index * 64 + 64
  · simp [inWindow]
  · have same := @replaceWord_getElem? hex word index wide inside position (by omega)
    have equal : old = new := by
      rw [paired.1, paired.2] at same
      exact (Option.some.inj same).symm
    simp [equal]

section Calldata

variable {data : String} {detected : GuardDetectedApproval} {choice : GuardChoice} {index : Nat}

/-- On a text that holds the whole word, a rewrite is the replacement of that
word. -/
theorem rewriteCalldata_eq (locus : detected.locus = .calldataWord index)
    (ascii : Utf8.IsAscii (stripPrefix hexMark (bytes data)))
    (inside : 8 + index * 64 + 64 ≤ (stripPrefix hexMark (bytes data)).length) :
    rewriteCalldata data detected choice =
      (newWord detected choice).map fun word =>
        ofAscii (hexMark ++ replaceWord (stripPrefix hexMark (bytes data)) index word) := by
  have mark : hexMark = [48, 120] := rfl
  simp only [rewriteCalldata, locus]
  rw [← mark]
  generalize isHex : stripPrefix hexMark (bytes data) = hex at ascii inside ⊢
  have isAscii : require (Utf8.IsAscii hex) GuardRewriteError.malformedParams = .ok () :=
    require_ok.mpr ascii
  have isInside : require (8 + index * 64 + 64 ≤ hex.length) GuardRewriteError.calldataTooShort =
      .ok () := require_ok.mpr inside
  have selector : Bytes.slice? hex 0 8 = some (hex.take 8) := by
    rw [Bytes.slice?, if_pos (by omega)]
    rfl
  have head : Bytes.slice? hex 8 (8 + index * 64 - 8) = some ((hex.take (8 + index * 64)).drop 8) := by
    rw [Bytes.slice?, if_pos (by omega), List.drop_take]
  rw [isAscii, isInside, selector, head]
  cases made : newWord detected choice with
  | error => rfl
  | ok word =>
    obtain ⟨value, isWord, _⟩ := newWord_ok made
    have wide : word.length = 64 := by rw [isWord, hexWord_length]
    have front : hex.take 8 ++ (hex.take (8 + index * 64)).drop 8 = hex.take (8 + index * 64) := by
      have start : hex.take 8 = (hex.take (8 + index * 64)).take 8 := by
        rw [List.take_take]
        congr 1
        omega
      rw [start, List.take_append_drop]
    have out : hexMark ++ hex.take 8 ++ (hex.take (8 + index * 64)).drop 8 ++ word ++
        hex.drop (8 + index * 64 + 64) = hexMark ++ replaceWord hex index word := by
      rw [List.append_assoc hexMark, front, replaceWord]
      simp only [List.append_assoc]
    have checked := assertOnlyWordChanged_replaceWord isHex wide inside
    simp only [orFail, bind, Except.bind, Except.map, out, checked]

theorem rewriteCalldata_short (locus : detected.locus = .calldataWord index)
    (short : (stripPrefix hexMark (bytes data)).length < 8 + index * 64 + 64) :
    ¬ ∃ out, rewriteCalldata data detected choice = .ok out := by
  intro ⟨out, rewritten⟩
  simp only [rewriteCalldata, locus] at rewritten
  obtain ⟨_, _, rest⟩ := bind_ok.mp rewritten
  obtain ⟨_, inside, _⟩ := bind_ok.mp rest
  have := require_ok.mp inside
  simp only [hexMark] at short
  omega

/-- The re-encoded calldata has one word replaced, and is read as the same approval with the
number of that word. -/
theorem rewriteCalldata_changed [CaseTable] {out : String}
    (found : detectCalldataApproval target (some data) = some detected)
    (rewritten : rewriteCalldata data detected choice = .ok out) :
    ∃ index value changed, detected.locus = .calldataWord index ∧
      8 + index * 64 + 64 ≤ (stripPrefix hexMark (bytes data)).length ∧
      bytes out =
        hexMark ++ replaceWord (stripPrefix hexMark (bytes data)) index (hexWord value) ∧
      Writes detected choice value ∧
      detectCalldataApproval target (some out) = some changed ∧ Reread detected value changed := by
  obtain ⟨text, isText, ascii, read⟩ := detectCalldataApproval_some found
  cases isText
  obtain ⟨index, locus⟩ := (detectHex_calldata read).locus
  by_cases inside : 8 + index * 64 + 64 ≤ (stripPrefix hexMark (bytes data)).length
  case neg => exact (rewriteCalldata_short locus (Nat.lt_of_not_le inside) ⟨out, rewritten⟩).elim
  rw [rewriteCalldata_eq locus ascii inside] at rewritten
  generalize stripPrefix hexMark (bytes data) = hex at ascii read inside rewritten ⊢
  cases made : newWord detected choice with
  | error => rw [made] at rewritten; cases rewritten
  | ok =>
    rw [made] at rewritten
    cases rewritten
    obtain ⟨value, rfl, fits, writes⟩ := newWord_ok made
    have lowerInside : 8 + index * 64 + 64 ≤ (toAsciiLowercase hex).length := by
      rw [toAsciiLowercase, List.length_map]
      exact inside
    have outAscii := @isAscii_replaceWord hex (hexWord value) index ascii (isAscii_hexWord value)
    obtain ⟨changed, changedFound, reread⟩ :=
      detectHex_replaceWord read locus (hexWord_length value) lowerInside (bigFromWord_hexWord fits)
    refine ⟨index, value, changed, locus, inside, ?_, writes, ?_, reread⟩
    · apply Utf8.bytes_ofAscii
      intro byte member
      rcases List.mem_append.mp member with inMark | inHex
      · exact isAscii_hexMark byte inMark
      · exact outAscii byte inHex
    · rw [detectCalldataApproval_ofAscii target outAscii
        (by rw [replaceWord_length (hexWord_length value) inside]; omega),
        toAsciiLowercase_replaceWord, toAsciiLowercase_hexWord]
      exact changedFound

theorem Reread.decided {value : Nat} {changed : GuardDetectedApproval}
    (reread : Reread detected value changed) (approval : CalldataApproval detected)
    (decided : choice ≠ .unlimited) (amountShape : detected.isBooleanGrant = false)
    (writes : Writes detected choice value) : changed.isUnbounded = false := by
  by_contra unbounded
  have large := reread.bounded (reread.shape.trans amountShape)
    (Bool.eq_true_of_not_eq_false unbounded)
  have other : detected.kind ≠ .setApprovalForAll := by
    intro same
    rw [approval.boolean.mpr same] at amountShape
    cases amountShape
  rw [Writes, if_neg other] at writes
  rw [chosenAmount_bounded writes amountShape decided] at large
  cases large

theorem rewriteCalldata_bounded [CaseTable] {out : String}
    (found : detectCalldataApproval target (some data) = some detected)
    (decided : choice ≠ .unlimited) (rewritten : rewriteCalldata data detected choice = .ok out) :
    ∃ changed, detectCalldataApproval target (some out) = some changed ∧
      (changed.isBooleanGrant = false → changed.isUnbounded = false) := by
  obtain ⟨_, value, changed, _, _, _, writes, changedFound, reread⟩ :=
    rewriteCalldata_changed found rewritten
  obtain ⟨_, isText, _, read⟩ := detectCalldataApproval_some found
  cases isText
  exact ⟨changed, changedFound, fun amountShape =>
    reread.decided (detectHex_calldata read) decided (reread.shape.symm.trans amountShape) writes⟩

/-- The two texts agree but for the word an approval names. -/
def OneWordApart (detected : GuardDetectedApproval) (before after : List UInt8) : Prop :=
  after.length = before.length ∧ ∃ index, detected.locus = .calldataWord index ∧
    ∀ position, position < 8 + index * 64 ∨ 8 + index * 64 + 64 ≤ position →
      after[position]? = before[position]?

/-- The approval read again grants what was chosen. -/
def AsChosen (detected : GuardDetectedApproval) (choice : GuardChoice)
    (changed : GuardDetectedApproval) : Prop :=
  match choice with
  | .revoke => changed.isUnbounded = false ∧
      (detected.isBooleanGrant = false → changed.amountRaw = some "0")
  | .grant => detected.isBooleanGrant = true ∧ changed.isUnbounded = true
  | .unlimited => ∃ amount, detected.amountRaw.bind parseDecU256 = some amount ∧
      changed.amountRaw = some (toString amount)
  | .amount amountRaw => changed.isUnbounded = false ∧ ∃ amount,
      parseDecU256 amountRaw = some amount ∧ changed.amountRaw = some (toString amount)

theorem Reread.asChosen {value : Nat} {changed : GuardDetectedApproval}
    (reread : Reread detected value changed) (approval : CalldataApproval detected)
    (writes : Writes detected choice value) : AsChosen detected choice changed := by
  have amountRaw := reread.amountRaw
  have decided : choice ≠ .unlimited → detected.isBooleanGrant = false →
      changed.isUnbounded = false :=
    fun different amountShape => reread.decided approval different amountShape writes
  cases shape : detected.isBooleanGrant with
  | true =>
    rw [Writes, if_pos (approval.boolean.mp shape)] at writes
    have granted := reread.granted (reread.shape.trans shape)
    rcases writes with ⟨rfl, rfl⟩ | ⟨rfl, rfl⟩
    · exact ⟨shape, granted⟩
    · exact ⟨granted, fun amountShape => nomatch shape.symm.trans amountShape⟩
  | false =>
    have other : detected.kind ≠ .setApprovalForAll := by
      intro same
      rw [approval.boolean.mpr same] at shape
      cases shape
    rw [Writes, if_neg other] at writes
    simp only [shape, Bool.false_eq_true, if_false] at amountRaw
    cases choice with
    | revoke =>
      cases writes
      exact ⟨decided nofun shape, fun _ => amountRaw⟩
    | grant =>
      unfold chosenAmount at writes
      rw [shape] at writes
      cases writes
    | unlimited =>
      simp only [chosenAmount] at writes
      split at writes
      case isTrue => cases writes
      case isFalse => exact ⟨value, orFail_ok.mp writes, amountRaw⟩
    | amount =>
      refine ⟨decided nofun shape, value, ?_, amountRaw⟩
      obtain ⟨amount, read, kept⟩ := bind_ok.mp writes
      split at kept
      case isTrue => cases kept
      case isFalse =>
        cases kept
        exact orFail_ok.mp read

/-- A rewritten calldata differs in the amount's word alone, and is detected as the same
approval of what was chosen. -/
theorem rewritten_rereads [CaseTable] {target : Option String} {out : String}
    (found : detectCalldataApproval target (some data) = some detected)
    (rewritten : rewriteCalldata data detected choice = .ok out) :
    hexMark <+: bytes out ∧
    OneWordApart detected (stripPrefix hexMark (bytes data)) (stripPrefix hexMark (bytes out)) ∧
    ∃ changed, detectCalldataApproval target (some out) = some changed ∧
      changed.kind = detected.kind ∧ changed.tokenAddress = detected.tokenAddress ∧
      changed.spender = detected.spender ∧ AsChosen detected choice changed := by
  obtain ⟨index, value, changed, locus, inside, written, writes, changedFound, reread⟩ :=
    rewriteCalldata_changed found rewritten
  obtain ⟨_, isText, _, read⟩ := detectCalldataApproval_some found
  cases isText
  have stripped : ∀ hex, stripPrefix hexMark (hexMark ++ hex) = hex := stripPrefix_mark_append
  rw [written, stripped]
  refine ⟨List.prefix_append _ _, ⟨?_, index, locus, fun position outside => ?_⟩, changed,
    changedFound, reread.kind, reread.token, reread.spender,
    reread.asChosen (detectHex_calldata read) writes⟩
  · exact replaceWord_length (hexWord_length value) inside
  · exact replaceWord_getElem? (hexWord_length value) inside outside

end Calldata

/-- `approve(spender, amount)` without the mark in front. -/
def bareApprove (amountWord : String) : String := "095ea7b3" ++ sampleSpender ++ amountWord

def bareApproval : GuardDetectedApproval :=
  amountApproval .erc20Approve none "0x88cca0eedbf2c4426110bbfc998f048689266894" (2 ^ 256 - 1) .b256
    true false none 1

theorem bareApprove_found :
    @detectCalldataApproval Utf8.asciiCaseTable none (some (bareApprove maxWord)) =
      some bareApproval := by
  decide +kernel

theorem bareApprove_revoked : rewriteCalldata (bareApprove maxWord) bareApproval .revoke =
    .ok ("0x" ++ bareApprove (String.ofList (List.replicate 64 '0'))) := by
  decide +kernel

theorem rewritten_rereads_bare : ∃ out changed,
    @detectCalldataApproval Utf8.asciiCaseTable none (some out) = some changed ∧
      AsChosen bareApproval .revoke changed := by
  obtain ⟨_, _, changed, changedFound, _, _, _, chosen⟩ :=
    @rewritten_rereads _ _ .revoke Utf8.asciiCaseTable none _ bareApprove_found bareApprove_revoked
  exact ⟨_, changed, changedFound, chosen⟩

/-- A text without the mark comes back with it, two bytes longer. -/
theorem bare_calldata_grows : ¬ ∀ (table : CaseTable) (target : Option String) (data out : String)
    (detected : GuardDetectedApproval) (choice : GuardChoice),
    @detectCalldataApproval table target (some data) = some detected →
      rewriteCalldata data detected choice = .ok out →
        (bytes out).length = (bytes data).length := by
  intro sameLength
  have same := sameLength _ _ _ _ _ _ bareApprove_found bareApprove_revoked
  revert same
  decide +kernel

end VelaWallet.ApprovalGuard
