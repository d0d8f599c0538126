import VelaWallet.Base.Fallible
import VelaWallet.Base.Hex
import VelaWallet.Base.Keccak

/-!
# Foundation codecs

Hex, addresses and ABI words as the signing path reads and writes them
(`primitives.rs`).
-/

namespace VelaWallet

open Utf8 (bytes ofAscii stripPrefix)

variable {data left right text : List UInt8}

/-- The errors of the codecs, each with its message. -/
inductive CoreError where
  | invalidHex (message : String)
  | invalidQuantity (message : String)
  | invalidAddress (message : String)
  | abiDecode (message : String)
  | invalidPublicKey (message : String)
  | invalidSignature (message : String)
  | internal (message : String)
  deriving DecidableEq

/-- The bytes of `0x`. -/
def hexMark : List UInt8 := [48, 120]

/-- The text of two adjacent bytes, when they are UTF-8. -/
def utf8Pair? (high low : UInt8) : Option String :=
  if high.toNat < 128 ∧ low.toNat < 128 then some (ofAscii [high, low])
  else if 0xC2 ≤ high.toNat ∧ high.toNat ≤ 0xDF ∧ low.toNat / 64 = 2 then
    some (String.ofList [Char.ofNat ((high.toNat - 0xC0) * 64 + low.toNat % 64)])
  else none

/-- The loop of `from_hex`: one byte from every two bytes of the text. -/
def fromHexPairs : List UInt8 → Except CoreError (List UInt8)
  | high :: low :: rest =>
    match utf8Pair? high low with
    | none => .error (.invalidHex "non-ascii character")
    | some pair =>
      match Hex.fromStrRadix16 [high, low] with
      | none => .error (.invalidHex ("invalid hex pair `" ++ pair ++ "`"))
      | some byte => (fromHexPairs rest).map (byte :: ·)
  | _ => .ok []

/-- `from_hex`, on the bytes of the text. -/
def fromHexBytes (text : List UInt8) : Except CoreError (List UInt8) :=
  let clean := stripPrefix hexMark text
  if clean.length % 2 ≠ 0 then
    .error (.invalidHex ("odd length " ++ toString clean.length ++ " in hex string"))
  else fromHexPairs clean

def fromHex (text : String) : Except CoreError (List UInt8) := fromHexBytes (bytes text)

/-- The bytes of `to_hex`. -/
def toHexBytes (data : List UInt8) (prefixed : Bool) : List UInt8 :=
  (if prefixed then hexMark else []) ++ Hex.spell data

def toHex (data : List UInt8) (prefixed : Bool) : String := ofAscii (toHexBytes data prefixed)

/-- A 20-byte account address. -/
structure Address where
  bytes : List UInt8
  length_eq : bytes.length = 20
  deriving DecidableEq

def parseAddress (text : String) : Except CoreError Address :=
  match fromHex text with
  | .error _ => .error (.invalidAddress ("not hex: `" ++ text ++ "`"))
  | .ok data =>
    if sized : data.length = 20 then .ok ⟨data, sized⟩
    else .error (.invalidAddress
      ("expected 20 bytes, got " ++ toString data.length ++ " in `" ++ text ++ "`"))

/-- `abi_encode_address`: the address behind twelve zero bytes. -/
def abiEncodeAddress (text : String) : Except CoreError (List UInt8) :=
  (parseAddress text).map fun address => List.replicate 12 0 ++ address.bytes

/-- The big-integer library's own words for a reading that failed, by the text and
the radix. -/
class RadixErrors where
  describe : List UInt8 → Nat → String

def abiEncodeUint256 [RadixErrors] (valueHex : String) : Except CoreError (List UInt8) :=
  let clean := stripPrefix hexMark (bytes valueHex)
  if clean.isEmpty ∨ ¬ ∀ byte ∈ clean, Hex.IsDigit byte then
    .error (.invalidQuantity ("not a hex uint256: `" ++ valueHex ++ "`"))
  else
    match (Hex.natOf? clean).filter (· < 2 ^ 256) with
    | some value => .ok (Bytes.beBytes 32 value)
    | none => .error (.invalidQuantity
        ("`" ++ valueHex ++ "`: " ++ RadixErrors.describe clean 16))

/-- `function_selector`, on a signature in canonical form. -/
def functionSelector (signature : String) : Except CoreError (List UInt8) :=
  .ok ((Keccak.keccak256 (bytes signature)).take 4)

def Safe.multiSend : String := "0x38869bf66a61cF6bDB996A6aE40D5853Fd43B526"

def Safe.entryPoint : String := "0x0000000071727De22E5E9d8BAf0edAc6f37da032"

def Safe.safe4337Module : String := "0x75cf11467937ce3F2f357CE24ffc3DBF8fD5c226"

/-! ## Texts the hex reader accepts -/

/-- A text the pair loop accepts, with the byte each pair gives. -/
inductive Spelled : List UInt8 → List UInt8 → Prop where
  | nil : Spelled [] []
  | cons {high low byte : UInt8} {text data : List UInt8} :
      Hex.fromStrRadix16 [high, low] = some byte → Spelled text data →
      Spelled (high :: low :: text) (byte :: data)

theorem utf8Pair?_of_read {high low byte : UInt8}
    (read : Hex.fromStrRadix16 [high, low] = some byte) :
    utf8Pair? high low = some (ofAscii [high, low]) := by
  obtain ⟨highVisible, lowVisible⟩ := Hex.pair_visible read
  rw [utf8Pair?, if_pos ⟨highVisible.2, lowVisible.2⟩]

/-- On a text of even length the pair loop succeeds exactly on the spelled
texts. -/
theorem fromHexPairs_iff (even : text.length % 2 = 0) :
    fromHexPairs text = .ok data ↔ Spelled text data := by
  constructor
  · intro read
    induction text using fromHexPairs.induct generalizing data with
    | case1 _ _ _ utf =>
      rw [fromHexPairs, utf] at read
      cases read
    | case2 _ _ _ _ utf bad =>
      simp only [fromHexPairs, utf, bad] at read
      cases read
    | case3 _ _ rest _ utf _ good ih =>
      simp only [fromHexPairs, utf, good] at read
      have restEven : rest.length % 2 = 0 := by
        simp only [List.length_cons] at even
        omega
      cases tail : fromHexPairs rest with
      | error => rw [tail] at read; cases read
      | ok =>
        rw [tail] at read
        cases read
        exact .cons good (ih restEven tail)
    | case4 text short =>
      match text, short with
      | [], _ => cases read; exact .nil
      | [_], _ => simp at even
      | _ :: _ :: _, short => exact (short _ _ _ rfl).elim
  · intro spelled
    induction spelled with
    | nil => rfl
    | @cons high low byte text data read tail ih =>
      have restEven : text.length % 2 = 0 := by
        simp only [List.length_cons] at even
        omega
      simp only [fromHexPairs, utf8Pair?_of_read read, read, ih restEven]
      rfl

theorem Spelled.length (spelled : Spelled text data) :
    text.length = 2 * data.length := by
  induction spelled with
  | nil => rfl
  | cons _ _ ih => simp only [List.length_cons, ih]; omega

theorem fromHexBytes_iff :
    fromHexBytes text = .ok data ↔ Spelled (stripPrefix hexMark text) data := by
  have unfolded : fromHexBytes text =
      if (stripPrefix hexMark text).length % 2 ≠ 0 then
        .error (.invalidHex ("odd length " ++ toString (stripPrefix hexMark text).length ++
          " in hex string"))
      else fromHexPairs (stripPrefix hexMark text) := rfl
  rw [unfolded]
  split
  case isTrue odd =>
    constructor
    · intro read; cases read
    · intro spelled
      have := spelled.length
      omega
  case isFalse even => exact fromHexPairs_iff (by omega)

theorem Spelled.visible (spelled : Spelled text data) :
    ∀ byte ∈ text, 32 < byte.toNat ∧ byte.toNat < 128 := by
  induction spelled with
  | nil => simp
  | cons read _ ih =>
    obtain ⟨highVisible, lowVisible⟩ := Hex.pair_visible read
    intro byte member
    rcases List.mem_cons.mp member with rfl | member
    · exact highVisible
    · rcases List.mem_cons.mp member with rfl | member
      · exact lowVisible
      · exact ih byte member

theorem Spelled.not_mark (spelled : Spelled text data) :
    hexMark.isPrefixOf text = false := by
  cases spelled with
  | nil => rfl
  | @cons high low byte text data read _ =>
    by_contra isMark
    simp only [hexMark, List.isPrefixOf, Bool.and_true, Bool.and_eq_true, beq_iff_eq,
      Bool.not_eq_false] at isMark
    obtain ⟨rfl, rfl⟩ := isMark
    simp [Hex.fromStrRadix16, Hex.natOf?, Hex.digitValue?, Hex.plus] at read

theorem Spelled.append {more rest : List UInt8} (left : Spelled text data)
    (right : Spelled more rest) : Spelled (text ++ more) (data ++ rest) := by
  induction left with
  | nil => exact right
  | cons read _ ih => exact .cons read ih

theorem Spelled.split (spelled : Spelled text data) (count : Nat) :
    Spelled (text.take (2 * count)) (data.take count) ∧
      Spelled (text.drop (2 * count)) (data.drop count) := by
  induction spelled generalizing count with
  | nil => simp [Spelled.nil]
  | cons read tail ih =>
    cases count with
    | zero => exact ⟨.nil, .cons read tail⟩
    | succ count =>
      rw [Nat.mul_succ]
      exact ⟨.cons read (ih count).1, (ih count).2⟩

theorem spelled_spell (data : List UInt8) : Spelled (Hex.spell data) data := by
  induction data with
  | nil => exact .nil
  | cons byte _ ih => exact .cons (Hex.fromStrRadix16_pair byte) ih

theorem Spelled.lower (spelled : Spelled text data)
    (unsigned : Hex.plus ∉ text) : Utf8.toAsciiLowercase text = Hex.spell data := by
  induction spelled with
  | nil => rfl
  | @cons high low byte text data read tail ih =>
    simp only [List.mem_cons, not_or] at unsigned
    have head := Hex.lower_pair read (Ne.symm unsigned.1)
    have rest := ih unsigned.2.2
    calc Utf8.toAsciiLowercase (high :: low :: text)
        = Utf8.toAsciiLowercase [high, low] ++ Utf8.toAsciiLowercase text := by
          simp [Utf8.toAsciiLowercase]
      _ = Hex.pair byte ++ Hex.spell data := by rw [head, rest]
      _ = Hex.spell (byte :: data) := rfl

def signsOf (text : List UInt8) : List Bool := text.map (· == Hex.plus)

/-- Two spellings of the same bytes agree up to case exactly when their signs
stand at the same places. -/
theorem Spelled.lower_eq_iff (leftSpelled : Spelled left data) (rightSpelled : Spelled right data) :
    Utf8.toAsciiLowercase left = Utf8.toAsciiLowercase right ↔ signsOf left = signsOf right := by
  constructor
  · intro lowered
    have signs : ∀ text, signsOf text = signsOf (Utf8.toAsciiLowercase text) := by
      intro text
      simp only [signsOf, Utf8.toAsciiLowercase, List.map_map]
      apply List.map_congr_left
      intro byte _
      rw [Function.comp_apply, Bool.eq_iff_iff, beq_iff_eq, beq_iff_eq, Hex.asciiLower_eq_plus]
    rw [signs left, signs right, lowered]
  · intro signs
    induction leftSpelled generalizing right with
    | nil =>
      cases rightSpelled
      rfl
    | @cons high low byte text data read tail ih =>
      cases rightSpelled with
      | @cons high' low' _ text' _ read' tail' =>
        simp only [signsOf, List.map_cons, List.cons.injEq] at signs
        have head := Hex.lower_pair_eq read read' signs.1
        have rest := ih tail' signs.2.2
        simp only [Utf8.toAsciiLowercase, List.map_cons, List.map_nil, List.cons.injEq]
          at head rest ⊢
        exact ⟨head.1, head.2.1, rest⟩

theorem Spelled.data_eq {other : List UInt8} (leftSpelled : Spelled left data)
    (rightSpelled : Spelled right other)
    (lowered : Utf8.toAsciiLowercase left = Utf8.toAsciiLowercase right) : data = other := by
  induction leftSpelled generalizing right other with
  | nil =>
    cases rightSpelled with
    | nil => rfl
    | cons => cases lowered
  | @cons high low byte text data read tail ih =>
    cases rightSpelled with
    | nil => cases lowered
    | @cons high' low' byte' text' other' read' tail' =>
      simp only [Utf8.toAsciiLowercase, List.map_cons, List.cons.injEq] at lowered
      have pairs : Utf8.toAsciiLowercase [high, low] = Utf8.toAsciiLowercase [high', low'] := by
        simp only [Utf8.toAsciiLowercase, List.map_cons, List.map_nil, lowered.1, lowered.2.1]
      have bytes : some byte = some byte' := by
        rw [← read, ← read', ← Hex.fromStrRadix16_toAsciiLowercase, pairs,
          Hex.fromStrRadix16_toAsciiLowercase]
      rw [Option.some.inj bytes, ih tail' lowered.2.2]

theorem stripPrefix_of_not_mark (unmarked : hexMark.isPrefixOf text = false) :
    stripPrefix hexMark text = text := by
  simp [stripPrefix, unmarked]

@[simp] theorem stripPrefix_mark_append (text : List UInt8) :
    stripPrefix hexMark (hexMark ++ text) = text := by
  simp [stripPrefix, hexMark, List.isPrefixOf]

theorem plus_mem_stripPrefix (member : Hex.plus ∈ text) :
    Hex.plus ∈ stripPrefix hexMark text := by
  by_cases marked : hexMark.isPrefixOf text = true
  · obtain ⟨rest, split⟩ := List.isPrefixOf_iff_prefix.mp marked
    rw [← split] at member ⊢
    rw [stripPrefix_mark_append]
    rcases List.mem_append.mp member with inMark | inRest
    · simp [hexMark, Hex.plus] at inMark
    · exact inRest
  · rw [stripPrefix_of_not_mark (Bool.eq_false_iff.mpr marked)]
    exact member

theorem isAscii_toHexBytes (data : List UInt8) (prefixed : Bool) :
    Utf8.IsAscii (toHexBytes data prefixed) := by
  intro byte member
  rcases List.mem_append.mp member with mark | digit
  · cases prefixed with
    | false => simp at mark
    | true =>
      simp only [if_true, hexMark, List.mem_cons, List.not_mem_nil, or_false] at mark
      rcases mark with rfl | rfl <;> decide
  · obtain ⟨value, read⟩ := Option.isSome_iff_exists.mp (Hex.spell_digits digit)
    exact (Hex.digitValue?_visible read).2

@[simp] theorem bytes_toHex (data : List UInt8) (prefixed : Bool) :
    bytes (toHex data prefixed) = toHexBytes data prefixed :=
  Utf8.bytes_ofAscii (isAscii_toHexBytes data prefixed)

theorem fromHex_visible {text : String} (read : fromHex text = .ok data) :
    ∀ byte ∈ bytes text, 32 < byte.toNat ∧ byte.toNat < 128 := by
  have spelled := fromHexBytes_iff.mp read
  by_cases marked : hexMark.isPrefixOf (bytes text) = true
  · obtain ⟨rest, split⟩ := List.isPrefixOf_iff_prefix.mp marked
    rw [← split] at spelled ⊢
    rw [stripPrefix_mark_append] at spelled
    intro byte member
    rcases List.mem_append.mp member with inMark | inRest
    · simp only [hexMark, List.mem_cons, List.not_mem_nil, or_false] at inMark
      rcases inMark with rfl | rfl <;> decide
    · exact spelled.visible byte inRest
  · rw [stripPrefix_of_not_mark (Bool.eq_false_iff.mpr marked)] at spelled
    exact spelled.visible

theorem toHex_ne_empty (data : List UInt8) : toHex data true ≠ "" := by
  intro empty
  have written := bytes_toHex data true
  rw [empty] at written
  cases written

theorem fromHex_toHex (data : List UInt8) : fromHex (toHex data true) = .ok data := by
  rw [fromHex, bytes_toHex, fromHexBytes_iff, toHexBytes, if_pos rfl, stripPrefix_mark_append]
  exact spelled_spell data

theorem toHex_injective (equal : toHex left true = toHex right true) :
    left = right := by
  have read := fromHex_toHex left
  rw [equal, fromHex_toHex] at read
  exact (Except.ok.inj read).symm

theorem Address.ext_bytes {left right : Address} (equal : left.bytes = right.bytes) :
    left = right := by
  cases left
  cases right
  cases equal
  rfl

theorem parseAddress_ok {text : String} {address : Address} :
    parseAddress text = .ok address ↔ fromHex text = .ok address.bytes := by
  unfold parseAddress
  cases read : fromHex text with
  | error => simp
  | ok data =>
    simp only [Except.ok.injEq]
    by_cases sized : data.length = 20
    · simp only [sized, dite_true, Except.ok.injEq]
      constructor
      · rintro rfl; rfl
      · rintro rfl; rfl
    · simp only [sized, dite_false, reduceCtorEq, false_iff]
      intro equality
      exact sized (equality ▸ address.length_eq)

theorem parseAddress_trim {text : String} {address : Address}
    (read : parseAddress text = .ok address) : Utf8.trim text = text :=
  Utf8.trim_eq_self_of_bytes (fromHex_visible (parseAddress_ok.mp read))

end VelaWallet
