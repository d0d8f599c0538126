import Mathlib.Data.List.Forall2
import VelaWallet.Codec.MultiSend
import VelaWallet.Codec.UserOp

/-!
# The call data of an operation

The two shapes an operation's call data has, over addresses and numbers: one
`executeUserOp` CALL, or one that DELEGATECALLs the MultiSend contract with a
packed batch.  The encoders of the submit path write exactly these bytes.
-/

namespace VelaWallet

open Utf8 (bytes stripPrefix)

variable {value : Nat} {records : List PackedCall} {valueHex : String}
  {calls : List MultiSendCall}

def Address.word (address : Address) : List UInt8 := List.replicate 12 0 ++ address.bytes

@[simp] theorem Address.word_length (address : Address) : address.word.length = 32 := by
  simp [Address.word, address.length_eq]

/-- The address in the word at `start`: one behind twelve zero bytes. -/
def addressAt? (input : List UInt8) (start : Nat) : Option Address := do
  let word ← Bytes.slice? input start 32
  if sized : word.take 12 = List.replicate 12 0 ∧ (word.drop 12).length = 20 then
    some ⟨word.drop 12, sized.2⟩
  else none

theorem addressAt?_word {input : List UInt8} {start : Nat} {address : Address}
    (found : Bytes.slice? input start 32 = some address.word) :
    addressAt? input start = some address := by
  have front : address.word.take 12 = List.replicate 12 0 :=
    List.take_left' List.length_replicate
  have back : address.word.drop 12 = address.bytes :=
    List.drop_left' List.length_replicate
  have sized : address.word.take 12 = List.replicate 12 0 ∧ (address.word.drop 12).length = 20 := by
    rw [front, back]
    exact ⟨rfl, address.length_eq⟩
  simp only [addressAt?, found, Option.bind_eq_bind, Option.bind_some]
  rw [dif_pos sized]
  congr

/-- The first four bytes of a signature's digest. -/
def selectorOf (signature : String) : List UInt8 := (Keccak.keccak256 (bytes signature)).take 4

@[simp] theorem selectorOf_length (signature : String) : (selectorOf signature).length = 4 := by
  simp [selectorOf]

theorem functionSelector_eq (signature : String) :
    functionSelector signature = .ok (selectorOf signature) := rfl

namespace CallData

def executeUserOp (target : Address) (value operation : Nat) (data : List UInt8) : List UInt8 :=
  selectorOf executeUserOpSignature ++ (target.word ++ (Abi.word value ++ (Abi.word 128 ++
    (Abi.word operation ++ Abi.padded data))))

def multiSend (calls : List PackedCall) : List UInt8 :=
  selectorOf multiSendSignature ++ (Abi.word 32 ++ Abi.padded (PackedCall.packed calls))

/-- `transfer(recipient, amount)` of a token. -/
def transfer (recipient : Address) (amount : Nat) : List UInt8 :=
  selectorOf transferSignature ++ (recipient.word ++ Abi.word amount)

/-- The call data of a batch: the MultiSend contract run in the account's name. -/
def batch (contract : Address) (calls : List PackedCall) : List UInt8 :=
  executeUserOp contract 0 1 (multiSend calls)

@[simp] theorem transfer_length (recipient : Address) (amount : Nat) :
    (transfer recipient amount).length = 68 := by
  simp [transfer]

theorem length_lt_executeUserOp (target : Address) (value operation : Nat) (data : List UInt8) :
    data.length + 164 ≤ (executeUserOp target value operation data).length := by
  simp only [executeUserOp, Abi.padded, List.length_append, selectorOf_length, Address.word_length,
    Abi.word_length]
  omega

theorem length_lt_multiSend (calls : List PackedCall) :
    (PackedCall.packed calls).length + 68 ≤ (multiSend calls).length := by
  simp only [multiSend, Abi.padded, List.length_append, selectorOf_length, Abi.word_length]
  omega

end CallData

/-! ## What the encoders write -/

theorem beBytes_zero (count : Nat) : Bytes.beBytes count 0 = List.replicate count 0 := by
  induction count with
  | zero => rfl
  | succ _ ih => simp [Bytes.beBytes, ih, List.replicate_succ]

theorem wordU128_eq (fits : value < 2 ^ 128) : wordU128 value = Abi.word value := by
  apply Bytes.beNat_injective
  · simp [wordU128]
  · rw [wordU128, Bytes.beNat_append, Bytes.beNat_replicate_zero,
      Bytes.beNat_beBytes_of_lt (by simpa using fits),
      Abi.beNat_word (Nat.lt_trans fits (by decide))]
    simp

theorem abiEncodeAddress_eq (text : String) :
    abiEncodeAddress text = (parseAddress text).map Address.word := rfl

def hexDigits (value : Nat) : String := String.ofList (Nat.toDigits 16 value)

theorem stripMark_lowerHex (value : Nat) : stripMark (lowerHex value) = hexDigits value := by
  have written : (lowerHex value).toList = '0' :: 'x' :: Nat.toDigits 16 value := by
    simp [lowerHex]
  rw [stripMark, written]
  rfl

theorem hexDigits_ne_empty (value : Nat) : hexDigits value ≠ "" := by
  intro empty
  have none : (hexDigits value).toList = [] := by rw [empty]; rfl
  rw [hexDigits, String.toList_ofList] at none
  exact Nat.toDigits_ne_nil none

theorem mem_toDigits {character : Char} (member : character ∈ Nat.toDigits 16 value) :
    ∃ digit < 16, character = Nat.digitChar digit := by
  induction value using Nat.strongRecOn with
  | ind value ih =>
    by_cases small : value < 16
    · rw [Nat.toDigits_of_lt_base small] at member
      exact ⟨value, small, List.mem_singleton.mp member⟩
    · rw [Nat.toDigits_of_base_le (by decide) (Nat.le_of_not_lt small)] at member
      rcases List.mem_append.mp member with high | low
      · exact ih (value / 16) (by omega) high
      · exact ⟨value % 16, Nat.mod_lt _ (by decide), List.mem_singleton.mp low⟩

theorem bytes_hexDigits (value : Nat) :
    bytes (hexDigits value) =
      (Nat.toDigits 16 value).map fun character => UInt8.ofNat character.toNat := by
  apply Decimal.bytes_ofList_ascii
  intro character member
  obtain ⟨digit, small, rfl⟩ := mem_toDigits member
  have all : ∀ digit < 16, (Nat.digitChar digit).toNat < 128 := by decide
  exact all digit small

theorem isDigit_hexDigits {byte : UInt8} (member : byte ∈ bytes (hexDigits value)) :
    Hex.IsDigit byte := by
  rw [bytes_hexDigits] at member
  obtain ⟨character, inDigits, rfl⟩ := List.mem_map.mp member
  obtain ⟨digit, small, rfl⟩ := mem_toDigits inDigits
  rw [Hex.IsDigit, Hex.digitValue?_digitChar small]
  rfl

theorem stripPrefix_of_digits {text : List UInt8} (digits : ∀ byte ∈ text, Hex.IsDigit byte) :
    stripPrefix hexMark text = text := by
  apply stripPrefix_of_not_mark
  rw [Bool.eq_false_iff]
  intro marked
  obtain ⟨rest, rfl⟩ := List.isPrefixOf_iff_prefix.mp marked
  have notDigit : ¬ Hex.IsDigit 120 := by decide
  exact notDigit (digits 120 (by simp [hexMark]))

/-- The value word of a text whose digits, after an optional mark, are a
number's. -/
theorem abiEncodeUint256_of_digits [RadixErrors] {text : String}
    (clean : stripPrefix hexMark (bytes text) = bytes (hexDigits value)) (fits : value < 2 ^ 256) :
    abiEncodeUint256 text = .ok (Abi.word value) := by
  have digits : ∀ byte ∈ bytes (hexDigits value), Hex.IsDigit byte := fun _ => isDigit_hexDigits
  have read := Hex.natOf?_toDigits value
  rw [← bytes_hexDigits] at read
  have filled : (bytes (hexDigits value)).isEmpty = false := by
    rw [bytes_hexDigits]
    simp [Nat.toDigits_ne_nil]
  have refused : ¬ ((bytes (hexDigits value)).isEmpty = true ∨
      ¬ ∀ byte ∈ bytes (hexDigits value), Hex.IsDigit byte) := by
    rw [filled]
    simpa using digits
  have kept : (some value).filter (fun value => decide (value < 2 ^ 256)) = some value := by
    rw [Option.filter_some, if_pos (decide_eq_true fits)]
  rw [abiEncodeUint256, clean, if_neg refused, read, kept, Abi.word]

theorem abiEncodeUint256_hexDigits [RadixErrors] (fits : value < 2 ^ 256) :
    abiEncodeUint256 (hexDigits value) = .ok (Abi.word value) :=
  abiEncodeUint256_of_digits (stripPrefix_of_digits fun _ => isDigit_hexDigits) fits

theorem abiEncodeUint256_lowerHex [RadixErrors] (fits : value < 2 ^ 256) :
    abiEncodeUint256 (lowerHex value) = .ok (Abi.word value) := by
  have marked : bytes (lowerHex value) = hexMark ++ bytes (hexDigits value) := by
    rw [lowerHex, bytes, String.toList_append, List.flatMap_append]
    rfl
  apply abiEncodeUint256_of_digits _ fits
  rw [marked, stripPrefix_mark_append]

theorem encodeMultiSendCall_ok [RadixErrors] {target : String}
    {data record : List UInt8} (shown : stripMark valueHex = hexDigits value)
    (fits : value < 2 ^ 256) (short : data.length < 2 ^ 128)
    (encoded : encodeMultiSendCall ⟨target, valueHex, data⟩ = .ok record) :
    ∃ address, parseAddress target = .ok address ∧
      record = (PackedCall.mk 0 address value data fits).bytes := by
  unfold encodeMultiSendCall at encoded
  simp only [shown, hexDigits_ne_empty, if_false, abiEncodeUint256_hexDigits fits] at encoded
  obtain ⟨address, read, rest⟩ := Fallible.bind_ok.mp encoded
  obtain ⟨word, wordRead, rest⟩ := Fallible.bind_ok.mp rest
  cases wordRead
  refine ⟨address, read, ?_⟩
  rw [← Fallible.pure_ok.mp rest, PackedCall.bytes, wordUsize, wordU128_eq short]
  simp only [List.append_assoc]

theorem encodeMultiSendCall_read [RadixErrors] {target : String} {address : Address}
    {data : List UInt8} (shown : stripMark valueHex = hexDigits value)
    (fits : value < 2 ^ 256) (short : data.length < 2 ^ 128)
    (read : parseAddress target = .ok address) :
    encodeMultiSendCall ⟨target, valueHex, data⟩ =
      .ok (PackedCall.mk 0 address value data fits).bytes := by
  unfold encodeMultiSendCall
  simp only [shown, hexDigits_ne_empty, if_false, abiEncodeUint256_hexDigits fits, read]
  rw [PackedCall.bytes, wordUsize, wordU128_eq short]
  simp only [List.append_assoc]
  rfl

theorem executeUserOp_layout {target : Address} {operation : Nat} {data : List UInt8}
    (small : operation < 2 ^ 128) (short : data.length < 2 ^ 128) :
    selectorOf executeUserOpSignature ++ target.word ++ Abi.word value ++ wordU128 128 ++
        wordU128 operation ++ wordUsize data.length ++ data ++ padToWord data.length =
      CallData.executeUserOp target value operation data := by
  rw [CallData.executeUserOp, Abi.padded, wordUsize, wordU128_eq short, wordU128_eq (by decide),
    wordU128_eq small, padToWord]
  simp only [List.append_assoc]

theorem multiSend_layout
    (short : (PackedCall.packed records).length < 2 ^ 128) :
    selectorOf multiSendSignature ++ wordU128 32 ++ wordUsize (PackedCall.packed records).length ++
        PackedCall.packed records ++ padToWord (PackedCall.packed records).length =
      CallData.multiSend records := by
  rw [CallData.multiSend, Abi.padded, wordUsize, wordU128_eq short, wordU128_eq (by decide),
    padToWord]
  simp only [List.append_assoc]

theorem buildExecuteCallData_ok [RadixErrors] {target : String}
    {data callData : List UInt8} (encodedValue : abiEncodeUint256 valueHex = .ok (Abi.word value))
    (built : buildExecuteCallData target valueHex data = .ok callData)
    (short : callData.length < 2 ^ 63) :
    ∃ address, parseAddress target = .ok address ∧
      callData = CallData.executeUserOp address value 0 data := by
  unfold buildExecuteCallData at built
  rw [functionSelector_eq, abiEncodeAddress_eq, encodedValue] at built
  cases read : parseAddress target with
  | error =>
    rw [read] at built
    cases built
  | ok address =>
    rw [read] at built
    have written := (Except.ok.inj built).symm
    have inside : data.length < 2 ^ 128 := by
      have total := congrArg List.length written
      simp only [List.length_append] at total
      omega
    exact ⟨address, rfl, written.trans (executeUserOp_layout (by decide) inside)⟩

theorem buildExecuteCallData_read [RadixErrors] {target : String} {address : Address}
    {data : List UInt8} (read : parseAddress target = .ok address)
    (encodedValue : abiEncodeUint256 valueHex = .ok (Abi.word value))
    (short : data.length < 2 ^ 128) :
    buildExecuteCallData target valueHex data =
      .ok (CallData.executeUserOp address value 0 data) := by
  unfold buildExecuteCallData
  rw [functionSelector_eq, abiEncodeAddress_eq, read, encodedValue]
  exact congrArg Except.ok (executeUserOp_layout (by decide) short)

def multiSendContract : Address :=
  ⟨[0x38, 0x86, 0x9b, 0xf6, 0x6a, 0x61, 0xcf, 0x6b, 0xdb, 0x99, 0x6a, 0x6a, 0xe4, 0x0d, 0x58,
    0x53, 0xfd, 0x43, 0xb5, 0x26], rfl⟩

theorem parseAddress_multiSend : parseAddress Safe.multiSend = .ok multiSendContract := by
  decide

theorem flatten_records [RadixErrors] {encoded : List (List UInt8)}
    (written : List.Forall₂ (fun call bytes => encodeMultiSendCall call = .ok bytes) calls encoded)
    (meant : List.Forall₂ (fun call record => encodeMultiSendCall call = .ok record.bytes)
      calls records) : encoded.flatten = PackedCall.packed records := by
  induction written generalizing records with
  | nil =>
    cases meant
    rfl
  | cons head _ ih =>
    cases meant with
    | cons headMeant tailMeant =>
      rw [List.flatten_cons, PackedCall.packed_cons, ih tailMeant]
      rw [head] at headMeant
      rw [Except.ok.inj headMeant]

theorem buildMultiSendExecuteCallData_ok [RadixErrors]
    (meant : List.Forall₂ (fun call record => encodeMultiSendCall call = .ok record.bytes)
      calls records) {callData : List UInt8}
    (built : buildMultiSendExecuteCallData calls = .ok callData)
    (short : callData.length < 2 ^ 63) : callData = CallData.batch multiSendContract records := by
  unfold buildMultiSendExecuteCallData at built
  obtain ⟨encoded, encodedAll, rest⟩ := Fallible.bind_ok.mp built
  rw [flatten_records (Fallible.mapM_ok.mp encodedAll) meant, functionSelector_eq,
    functionSelector_eq, abiEncodeAddress_eq, parseAddress_multiSend] at rest
  have written := (Except.ok.inj rest).symm
  have total := congrArg List.length written
  simp only [List.length_append] at total
  have packedShort : (PackedCall.packed records).length < 2 ^ 128 := by omega
  have payloadShort : (CallData.multiSend records).length < 2 ^ 128 := by
    rw [← multiSend_layout packedShort]
    simp only [List.length_append]
    omega
  rw [multiSend_layout packedShort, wordU128_eq (by decide)] at written
  exact written.trans (executeUserOp_layout (by decide) payloadShort)

theorem buildMultiSendExecuteCallData_read [RadixErrors]
    (meant : List.Forall₂ (fun call record => encodeMultiSendCall call = .ok record.bytes)
      calls records) (short : (CallData.batch multiSendContract records).length < 2 ^ 128) :
    buildMultiSendExecuteCallData calls = .ok (CallData.batch multiSendContract records) := by
  have written : calls.mapM encodeMultiSendCall = .ok (records.map PackedCall.bytes) := by
    apply Fallible.mapM_ok.mpr
    exact List.forall₂_map_right_iff.mpr meant
  have payloadBound := CallData.length_lt_executeUserOp multiSendContract 0 1
    (CallData.multiSend records)
  have packedBound := CallData.length_lt_multiSend records
  rw [← CallData.batch] at payloadBound
  unfold buildMultiSendExecuteCallData
  rw [written, functionSelector_eq, functionSelector_eq, abiEncodeAddress_eq,
    parseAddress_multiSend]
  have layout := @executeUserOp_layout 0 multiSendContract 1 (CallData.multiSend records)
    (by decide) (by omega)
  rw [← wordU128_eq (by decide), ← CallData.batch, ← multiSend_layout (by omega)] at layout
  exact congrArg Except.ok layout

end VelaWallet
