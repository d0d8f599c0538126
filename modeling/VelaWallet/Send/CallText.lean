import VelaWallet.Codec.ReviewSoundness
import VelaWallet.Send.Amounts

/-!
# Calls written as text

A send writes its calls as texts: a decimal value, and a token's `transfer` in
hex.  Read by the submit path, they are the calls the codec makes of the same
payment.
-/

namespace VelaWallet.FeePolicy

open Utf8 (bytes)

/-- A row of unsigned hex digits of even length spells bytes, of the number the
digits read as. -/
theorem exists_spelled {digits : List UInt8} {width : Nat}
    (hex : ∀ byte ∈ digits, Hex.IsDigit byte) (even : digits.length = 2 * width) :
    ∃ data, Spelled digits data ∧ data.length = width ∧
      Hex.natOf? digits = some (Bytes.beNat data) := by
  induction width generalizing digits with
  | zero =>
    obtain rfl := List.length_eq_zero_iff.mp even
    exact ⟨[], .nil, rfl, rfl⟩
  | succ width ih =>
    match digits, even with
    | high :: low :: rest, even =>
      obtain ⟨top, topRead⟩ := Option.isSome_iff_exists.mp (hex high List.mem_cons_self)
      obtain ⟨bottom, bottomRead⟩ := Option.isSome_iff_exists.mp
        (hex low (List.mem_cons_of_mem _ List.mem_cons_self))
      have topSmall := Hex.digitValue?_lt topRead
      have bottomSmall := Hex.digitValue?_lt bottomRead
      have unsigned : high ≠ Hex.plus := by
        rintro rfl
        cases topRead.symm.trans Hex.digitValue?_plus
      have code : (UInt8.ofNat (top * 16 + bottom)).toNat = top * 16 + bottom := by
        rw [UInt8.toNat_ofNat']
        omega
      have pair : Hex.fromStrRadix16 [high, low] = some (UInt8.ofNat (top * 16 + bottom)) := by
        rw [Hex.fromStrRadix16_digits unsigned, code, topRead, bottomRead]
        constructor
        · congr 1
          omega
        · congr 1
          omega
      have shorter : rest.length = 2 * width := by
        simp only [List.length_cons] at even
        omega
      obtain ⟨data, spelled, long, read⟩ := ih (fun byte member =>
        hex byte (List.mem_cons_of_mem _ (List.mem_cons_of_mem _ member))) shorter
      refine ⟨UInt8.ofNat (top * 16 + bottom) :: data, .cons pair spelled, ?_, ?_⟩
      · rw [List.length_cons, long]
      · rw [show high :: low :: rest = [high, low] ++ rest from rfl, Hex.natOf?_append, read,
          Hex.natOf?_pair, topRead, bottomRead, Bytes.beNat_cons, code, spelled.length,
          Nat.pow_mul]
        rfl

theorem parseAddress_of_valid {text : String} (valid : isValidAddress text = true) :
    ∃ address, parseAddress text = .ok address := by
  simp only [isValidAddress, Bool.and_eq_true, decide_eq_true_eq, List.all_eq_true] at valid
  obtain ⟨⟨long, marked⟩, hex⟩ := valid
  obtain ⟨rest, split⟩ := List.isPrefixOf_iff_prefix.mp marked
  rw [← split] at long hex
  have restHex : ∀ byte ∈ rest, Hex.IsDigit byte := by
    intro byte member
    exact hex byte (by simpa [hexMark] using member)
  have restLong : rest.length = 2 * 20 := by
    simp only [hexMark, List.length_append, List.length_cons, List.length_nil] at long
    omega
  obtain ⟨data, spelled, sized, _⟩ := exists_spelled restHex restLong
  refine ⟨⟨data, sized⟩, ?_⟩
  rw [parseAddress_ok, fromHex, fromHexBytes_iff, ← split, stripPrefix_mark_append]
  exact spelled

theorem bytes_zeros (count : Nat) :
    bytes (String.ofList (List.replicate count '0')) = List.replicate count 48 := by
  rw [Utf8.bytes_ofList, List.flatMap_replicate]
  exact List.flatten_replicate_singleton

theorem bytes_padWord (digits : List Char) :
    bytes (padWord digits) =
      List.replicate (64 - digits.length) 48 ++ bytes (String.ofList digits) := by
  rw [padWord, String.ofList_append, Utf8.bytes_append, bytes_zeros]

theorem natOf?_zeros (count : Nat) : Hex.natOf? (List.replicate count 48) = some 0 := by
  induction count with
  | zero => rfl
  | succ _ ih =>
    rw [List.replicate_succ', Hex.natOf?_append, ih]
    rfl

theorem spelled_amount {value : Nat} (fits : value < 2 ^ 256) :
    Spelled (bytes (padWord (Nat.toDigits 16 value))) (Abi.word value) := by
  have wide : (2 : Nat) ^ 256 = 16 ^ 64 := by rw [show (16 : Nat) = 2 ^ 4 from rfl, ← Nat.pow_mul]
  have short : (Nat.toDigits 16 value).length ≤ 64 := by
    rw [Nat.length_toDigits_le_iff (by decide) (by decide), ← wide]
    exact fits
  have written : bytes (padWord (Nat.toDigits 16 value)) =
      List.replicate (64 - (Nat.toDigits 16 value).length) 48 ++ bytes (hexDigits value) :=
    bytes_padWord _
  have long : (bytes (padWord (Nat.toDigits 16 value))).length = 2 * 32 := by
    rw [written, bytes_hexDigits, List.length_append, List.length_replicate, List.length_map]
    omega
  have hex : ∀ byte ∈ bytes (padWord (Nat.toDigits 16 value)), Hex.IsDigit byte := by
    intro byte member
    rw [written] at member
    rcases List.mem_append.mp member with zero | digit
    · rw [List.eq_of_mem_replicate zero]
      decide
    · exact isDigit_hexDigits digit
  obtain ⟨data, spelled, sized, read⟩ := exists_spelled hex long
  rw [written, Hex.natOf?_append, natOf?_zeros, bytes_hexDigits, Hex.natOf?_toDigits] at read
  have number : value = Bytes.beNat data := by simpa using read
  have word : Abi.word value = data := by
    rw [number]
    exact Abi.word_beNat sized
  rw [word]
  exact spelled

theorem spelled_account {text : String} {address : Address} (valid : isValidAddress text = true)
    (read : parseAddress text = .ok address) :
    Spelled (bytes (padWord (Utf8.ofAscii (Utf8.toAsciiLowercase ((bytes text).drop 2))).toList))
      address.word := by
  simp only [isValidAddress, Bool.and_eq_true, decide_eq_true_eq, List.all_eq_true] at valid
  obtain ⟨⟨long, marked⟩, hex⟩ := valid
  obtain ⟨rest, split⟩ := List.isPrefixOf_iff_prefix.mp marked
  have spelled := fromHexBytes_iff.mp (parseAddress_ok.mp read)
  rw [← split] at long hex spelled ⊢
  rw [stripPrefix_mark_append] at spelled
  have dropped : (hexMark ++ rest).drop 2 = rest := rfl
  rw [dropped] at hex ⊢
  have unsigned : Hex.plus ∉ rest := by
    intro member
    have digit := hex _ member
    rw [Hex.digitValue?_plus] at digit
    cases digit
  have lowered := spelled.lower unsigned
  have ascii : Utf8.IsAscii (Hex.spell address.bytes) :=
    fun byte member => ((spelled_spell address.bytes).visible byte member).2
  have chars : (Utf8.ofAscii (Hex.spell address.bytes)).toList.length = 40 := by
    have written := Utf8.bytes_ofAscii ascii
    have listed := Utf8.toList_eq_of_ascii (written.symm ▸ ascii)
    rw [listed, written, List.length_map, Hex.spell_length, address.length_eq]
  rw [lowered, bytes_padWord, chars, String.ofList_toList, Utf8.bytes_ofAscii ascii]
  have zeros : Spelled (List.replicate (64 - 40) 48) (List.replicate 12 0) := by
    exact spelled_spell (List.replicate 12 0)
  exact zeros.append (spelled_spell address.bytes)

theorem selectorOf_transfer : selectorOf transferSignature = [0xa9, 0x05, 0x9c, 0xbb] := by
  decide +kernel

theorem fromHex_encodeErc20Transfer {target data : String} {amount : Nat}
    (fits : amount < 2 ^ 256) (written : FeePolicy.encodeErc20Transfer target amount = some data) :
    ∃ recipient, parseAddress target = .ok recipient ∧
      fromHex data = .ok (CallData.transfer recipient amount) := by
  unfold FeePolicy.encodeErc20Transfer at written
  obtain ⟨valid, same⟩ := Option.ite_none_right_eq_some.mp written
  obtain ⟨recipient, read⟩ := parseAddress_of_valid valid
  refine ⟨recipient, read, ?_⟩
  have selector : Spelled [97, 57, 48, 53, 57, 99, 98, 98] [0xa9, 0x05, 0x9c, 0xbb] :=
    spelled_spell [0xa9, 0x05, 0x9c, 0xbb]
  have spelled := selector.append ((spelled_account valid read).append (spelled_amount fits))
  rw [← Option.some.inj same, fromHex, fromHexBytes_iff, Utf8.bytes_append, Utf8.bytes_append,
    List.append_assoc]
  rw [CallData.transfer, selectorOf_transfer]
  exact spelled

end VelaWallet.FeePolicy
