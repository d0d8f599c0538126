import VelaWallet.Codec.ReviewSoundness

/-!
# Call data, there and back

The review's decoder and the two builders of the submit path are inverse to each other: what is
built is decoded as it was told, and what is decoded was built, byte for byte.
-/

namespace VelaWallet.SignedReview

open Utf8 (bytes)
open Fallible (bind_ok pure_ok)

variable {callData : List UInt8} {record : PackedCall}

/-- The value text a batch reads: hex without its mark, and zero where there is none. -/
def batchValue (valueHex : String) : String :=
  if stripMark valueHex = "" then "0" else stripMark valueHex

/-- A call is read back as it was told: the address its target spells, the number its value text
spells, and its data. -/
structure ReadsAs [RadixErrors] (valueText : String → String) (told : MultiSendCall) (call : Call) :
    Prop where
  target : ∃ account, parseAddress told.target = .ok account ∧
    call.target = toHex account.bytes true
  value : abiEncodeUint256 (valueText told.valueHex) = .ok (Abi.word call.value)
  value_lt : call.value < 2 ^ 256
  data : call.data = told.data

/-- A decoded call as the builders take it. -/
def Call.told (call : Call) : MultiSendCall := ⟨call.target, lowerHex call.value, call.data⟩

section Encoders

variable [RadixErrors]

theorem abiEncodeUint256_word {text : String} {word : List UInt8}
    (encoded : abiEncodeUint256 text = .ok word) : ∃ value < 2 ^ 256, word = Abi.word value := by
  unfold abiEncodeUint256 at encoded
  dsimp only at encoded
  split at encoded
  case isTrue => cases encoded
  case isFalse =>
    split at encoded
    case h_2 => cases encoded
    case h_1 value read =>
      cases encoded
      have fits := (Option.filter_eq_some_iff.mp read).2
      exact ⟨value, of_decide_eq_true fits, rfl⟩

theorem encodeMultiSendCall_record {call : MultiSendCall} {encoded : List UInt8}
    (written : encodeMultiSendCall call = .ok encoded) (short : encoded.length < 2 ^ 128) :
    ∃ record : PackedCall, record.operation = 0 ∧ encoded = record.bytes ∧
      ReadsAs batchValue call (callOf record) := by
  unfold encodeMultiSendCall at written
  obtain ⟨account, targetRead, written⟩ := bind_ok.mp written
  obtain ⟨word, valueRead, written⟩ := bind_ok.mp written
  obtain ⟨value, fits, rfl⟩ := abiEncodeUint256_word valueRead
  have layout := pure_ok.mp written
  have inside : call.data.length < 2 ^ 128 := by
    rw [← layout] at short
    simp only [List.length_append] at short
    omega
  refine ⟨⟨0, account, value, call.data, fits⟩, rfl, ?_, ⟨⟨account, targetRead, rfl⟩, ?_, fits, rfl⟩⟩
  · rw [← layout, PackedCall.bytes, wordUsize, wordU128_eq inside]
    simp only [List.append_assoc]
  · exact valueRead

theorem records_of_encoded {told : List MultiSendCall} {encoded : List (List UInt8)}
    (written : List.Forall₂ (fun call bytes => encodeMultiSendCall call = .ok bytes) told encoded)
    (short : encoded.flatten.length < 2 ^ 128) :
    ∃ records : List PackedCall, (∀ record ∈ records, record.operation = 0) ∧
      List.Forall₂ (fun call record => encodeMultiSendCall call = .ok record.bytes) told records ∧
      List.Forall₂ (ReadsAs batchValue) told (records.map callOf) := by
  induction written with
  | nil => exact ⟨[], by simp, .nil, .nil⟩
  | cons head _ ih =>
    rw [List.flatten_cons, List.length_append] at short
    obtain ⟨record, plain, rfl, reads⟩ := encodeMultiSendCall_record head (by omega)
    obtain ⟨records, allPlain, meant, allRead⟩ := ih (by omega)
    refine ⟨record :: records, ?_, .cons head meant, .cons reads allRead⟩
    intro other member
    rcases List.mem_cons.mp member with rfl | later
    · exact plain
    · exact allPlain other later

theorem encoded_of_built {told : List MultiSendCall}
    (built : buildMultiSendExecuteCallData told = .ok callData) :
    ∃ encoded, List.Forall₂ (fun call bytes => encodeMultiSendCall call = .ok bytes) told encoded ∧
      encoded.flatten.length ≤ callData.length := by
  unfold buildMultiSendExecuteCallData at built
  obtain ⟨encoded, encodedAll, rest⟩ := bind_ok.mp built
  rw [functionSelector_eq, functionSelector_eq, abiEncodeAddress_eq, parseAddress_multiSend] at rest
  refine ⟨encoded, Fallible.mapM_ok.mp encodedAll, ?_⟩
  rw [← Except.ok.inj rest]
  simp only [List.length_append]
  omega

theorem built_of_encoded {told : List MultiSendCall} {encoded : List (List UInt8)}
    (written : List.Forall₂ (fun call bytes => encodeMultiSendCall call = .ok bytes) told encoded) :
    ∃ callData, buildMultiSendExecuteCallData told = .ok callData := by
  unfold buildMultiSendExecuteCallData
  rw [Fallible.mapM_ok.mpr written, functionSelector_eq, functionSelector_eq, abiEncodeAddress_eq,
    parseAddress_multiSend]
  exact ⟨_, rfl⟩

omit [RadixErrors] in
theorem parseAddress_toHex (account : Address) :
    parseAddress (toHex account.bytes true) = .ok account := by
  rw [parseAddress_ok]
  exact fromHex_toHex account.bytes

theorem encodeMultiSendCall_told (plain : record.operation = 0)
    (short : record.data.length < 2 ^ 128) :
    encodeMultiSendCall (callOf record).told = .ok record.bytes := by
  obtain ⟨operation, target, value, data, fits⟩ := record
  cases plain
  exact encodeMultiSendCall_read (stripMark_lowerHex value) fits short (parseAddress_toHex target)

theorem encoded_told (records : List PackedCall) : ∃ encoded,
    List.Forall₂ (fun call bytes => encodeMultiSendCall call = .ok bytes)
      (records.map fun record => (callOf record).told) encoded := by
  induction records with
  | nil => exact ⟨[], .nil⟩
  | cons record _ ih =>
    obtain ⟨encoded, written⟩ := ih
    have word : abiEncodeUint256 (hexDigits record.value) = .ok (Abi.word record.value) :=
      abiEncodeUint256_hexDigits record.value_lt
    have head : ∃ bytes, encodeMultiSendCall (callOf record).told = .ok bytes := by
      unfold encodeMultiSendCall Call.told callOf
      simp only [stripMark_lowerHex, hexDigits_ne_empty, if_false, parseAddress_toHex, word]
      exact ⟨_, rfl⟩
    obtain ⟨bytes, headWritten⟩ := head
    exact ⟨bytes :: encoded, .cons headWritten written⟩

theorem buildExecuteCallData_told (record : PackedCall) : ∃ callData,
    buildExecuteCallData (callOf record).target (lowerHex record.value) record.data =
      .ok callData := by
  unfold buildExecuteCallData callOf
  rw [functionSelector_eq, abiEncodeAddress_eq, parseAddress_toHex,
    abiEncodeUint256_lowerHex record.value_lt]
  exact ⟨_, rfl⟩

theorem ReadsAs.unique {valueText : String → String} {told : MultiSendCall} {left right : Call}
    (first : ReadsAs valueText told left) (second : ReadsAs valueText told right) :
    left = right := by
  obtain ⟨account, targetRead, target⟩ := first.target
  obtain ⟨account', targetRead', target'⟩ := second.target
  rw [targetRead] at targetRead'
  cases targetRead'
  have words := first.value.symm.trans second.value
  have value : left.value = right.value := by
    rw [← Abi.beNat_word first.value_lt, ← Abi.beNat_word second.value_lt, Except.ok.inj words]
  have data := first.data.trans second.data.symm
  cases left
  cases right
  simp_all

theorem ReadsAs.of_told {valueText : String → String}
    (spelled : abiEncodeUint256 (valueText (lowerHex record.value)) =
      .ok (Abi.word record.value)) :
    ReadsAs valueText (callOf record).told (callOf record) where
  target := ⟨record.target, parseAddress_toHex record.target, rfl⟩
  value := spelled
  value_lt := record.value_lt
  data := rfl

omit [RadixErrors] in
theorem batchValue_lowerHex (value : Nat) : batchValue (lowerHex value) = hexDigits value := by
  rw [batchValue, stripMark_lowerHex, if_neg (hexDigits_ne_empty value)]

theorem unique_calls {valueText : String → String} {told : List MultiSendCall}
    {left right : List Call} (first : List.Forall₂ (ReadsAs valueText) told left)
    (second : List.Forall₂ (ReadsAs valueText) told right) : left = right := by
  induction first generalizing right with
  | nil =>
    cases second
    rfl
  | cons head _ ih =>
    cases second with
    | cons head' tail' => rw [head.unique head', ih tail']

theorem read_told (records : List PackedCall) : List.Forall₂ (ReadsAs batchValue)
    (records.map fun record => (callOf record).told) (records.map callOf) := by
  induction records with
  | nil => exact .nil
  | cons record _ ih =>
    refine .cons (ReadsAs.of_told ?_) ih
    rw [batchValue_lowerHex]
    exact abiEncodeUint256_hexDigits record.value_lt

theorem calls_of_built_call {told : MultiSendCall}
    (built : buildExecuteCallData told.target told.valueHex told.data = .ok callData)
    (short : callData.length < 2 ^ 63) :
    ∃ call, ReadsAs id told call ∧ calls callData = .ok [call] := by
  have encodedValue : ∃ word, abiEncodeUint256 told.valueHex = .ok word := by
    unfold buildExecuteCallData at built
    obtain ⟨_, _, built⟩ := bind_ok.mp built
    obtain ⟨_, _, built⟩ := bind_ok.mp built
    obtain ⟨word, read, _⟩ := bind_ok.mp built
    exact ⟨word, read⟩
  obtain ⟨_, read⟩ := encodedValue
  obtain ⟨value, fits, rfl⟩ := abiEncodeUint256_word read
  obtain ⟨account, targetRead, layout⟩ := buildExecuteCallData_ok read built short
  refine ⟨callOf ⟨0, account, value, told.data, fits⟩,
    ⟨⟨account, targetRead, rfl⟩, read, fits, rfl⟩, ?_⟩
  apply (calls_ok short).mpr
  exact ⟨[⟨0, account, value, told.data, fits⟩], ⟨by simp, .inl ⟨_, rfl, layout⟩⟩, rfl⟩

theorem calls_of_built_batch {told : List MultiSendCall}
    (built : buildMultiSendExecuteCallData told = .ok callData)
    (short : callData.length < 2 ^ 63) :
    ∃ decoded, List.Forall₂ (ReadsAs batchValue) told decoded ∧ calls callData = .ok decoded := by
  obtain ⟨encoded, written, inside⟩ := encoded_of_built built
  obtain ⟨records, plain, meant, reads⟩ := records_of_encoded written (by omega)
  refine ⟨records.map callOf, reads, (calls_ok short).mpr ⟨records, ⟨plain, .inr ?_⟩, rfl⟩⟩
  exact buildMultiSendExecuteCallData_ok meant built short

theorem encode_told {records : List PackedCall} (plain : ∀ record ∈ records, record.operation = 0)
    (short : (PackedCall.packed records).length < 2 ^ 128) :
    List.Forall₂ (fun call record => encodeMultiSendCall call = .ok record.bytes)
      ((records.map callOf).map Call.told) records := by
  rw [List.map_map, List.forall₂_map_left_iff, List.forall₂_same]
  intro record member
  apply encodeMultiSendCall_told (plain record member)
  exact Nat.lt_trans (PackedCall.data_length_lt_packed member) short

theorem built_of_calls (short : callData.length < 2 ^ 63)
    {decoded : List Call} (read : calls callData = .ok decoded) :
    (∃ call, decoded = [call] ∧
        buildExecuteCallData call.target (lowerHex call.value) call.data = .ok callData) ∨
      buildMultiSendExecuteCallData (decoded.map Call.told) = .ok callData := by
  obtain ⟨records, ⟨plain, layout⟩, rfl⟩ := (calls_ok short).mp read
  rcases layout with ⟨only, rfl, layout⟩ | layout
  · have bound := CallData.length_lt_executeUserOp only.target only.value 0 only.data
    rw [← layout] at bound
    left
    refine ⟨callOf only, rfl, ?_⟩
    rw [layout]
    exact buildExecuteCallData_read (parseAddress_toHex only.target)
      (abiEncodeUint256_lowerHex only.value_lt) (show only.data.length < 2 ^ 128 by omega)
  · have bound := CallData.length_lt_executeUserOp multiSendContract 0 1
      (CallData.multiSend records)
    have inner := CallData.length_lt_multiSend records
    rw [← CallData.batch, ← layout] at bound
    right
    rw [layout]
    apply buildMultiSendExecuteCallData_read (encode_told plain (by omega))
    rw [← layout]
    omega

theorem calls_of_records {records : List PackedCall}
    (built : buildMultiSendExecuteCallData (records.map fun record => (callOf record).told) =
      .ok callData) (short : callData.length < 2 ^ 63) :
    calls callData = .ok (records.map callOf) := by
  obtain ⟨decoded, reads, read⟩ := calls_of_built_batch built short
  rw [read, unique_calls reads (read_told records)]

theorem calls_of_record
    (built : buildExecuteCallData (callOf record).target (lowerHex record.value) record.data =
      .ok callData) (short : callData.length < 2 ^ 63) :
    calls callData = .ok [callOf record] := by
  have spelled : ReadsAs id (callOf record).told (callOf record) :=
    ReadsAs.of_told (abiEncodeUint256_lowerHex record.value_lt)
  obtain ⟨call, reads, read⟩ := @calls_of_built_call _ _ (callOf record).told built short
  rw [read, reads.unique spelled]

/-- The decoder and the builders are inverse to each other.  What either builder makes of any calls
is decoded as it was told; what is decoded is made by one of the builders of what was decoded; and
the builders make call data of every call and of every list of calls, whatever the target, the value
and the data. -/
theorem calls_exact :
    (∀ callData : ByteVec,
      (∀ told : MultiSendCall,
        buildExecuteCallData told.target told.valueHex told.data = .ok callData.bytes →
          ∃ call, ReadsAs id told call ∧ calls callData.bytes = .ok [call]) ∧
      (∀ told, buildMultiSendExecuteCallData told = .ok callData.bytes →
        ∃ decoded, List.Forall₂ (ReadsAs batchValue) told decoded ∧
          calls callData.bytes = .ok decoded) ∧
      ∀ decoded, calls callData.bytes = .ok decoded →
        (∃ call, decoded = [call] ∧ buildExecuteCallData call.target (lowerHex call.value)
          call.data = .ok callData.bytes) ∨
        buildMultiSendExecuteCallData (decoded.map Call.told) = .ok callData.bytes) ∧
    (∀ record : PackedCall, ∃ callData,
      buildExecuteCallData (toHex record.target.bytes true) (lowerHex record.value) record.data =
        .ok callData ∧
      (callData.length < 2 ^ 63 → calls callData = .ok [callOf record])) ∧
    ∀ records : List PackedCall, ∃ callData,
      buildMultiSendExecuteCallData (records.map fun record =>
        ⟨toHex record.target.bytes true, lowerHex record.value, record.data⟩) = .ok callData ∧
      (callData.length < 2 ^ 63 → calls callData = .ok (records.map callOf)) := by
  refine ⟨fun callData => ⟨?_, ?_, ?_⟩, ?_, ?_⟩
  · intro told built
    exact calls_of_built_call built callData.length_lt
  · intro told built
    exact calls_of_built_batch built callData.length_lt
  · intro decoded read
    exact built_of_calls callData.length_lt read
  · intro record
    obtain ⟨callData, built⟩ := buildExecuteCallData_told record
    exact ⟨callData, built, calls_of_record built⟩
  · intro records
    obtain ⟨encoded, written⟩ := encoded_told records
    obtain ⟨callData, built⟩ := built_of_encoded written
    exact ⟨callData, built, calls_of_records built⟩

end Encoders

def sampleRecords : List PackedCall :=
  [⟨0, multiSendContract, 7, [], PackedCall.seven_lt⟩,
    ⟨0, multiSendContract, 0, [1, 2, 3], PackedCall.zero_lt⟩]

theorem sampleRecords_fit : (CallData.batch multiSendContract sampleRecords).length = 452 := by
  simp [CallData.batch, CallData.executeUserOp, CallData.multiSend, Abi.padded, sampleRecords,
    PackedCall.packed, PackedCall.bytes_length, Bytes.wordPadding]

theorem sampleRecords_exact :
    @buildMultiSendExecuteCallData plainRadix (sampleRecords.map fun record =>
        ⟨toHex record.target.bytes true, lowerHex record.value, record.data⟩) =
      .ok (CallData.batch multiSendContract sampleRecords) ∧
    calls (CallData.batch multiSendContract sampleRecords) = .ok (sampleRecords.map callOf) := by
  let _ := plainRadix
  have packed := CallData.length_lt_multiSend sampleRecords
  have payload := CallData.length_lt_executeUserOp multiSendContract 0 1
    (CallData.multiSend sampleRecords)
  rw [← CallData.batch, sampleRecords_fit] at payload
  have built := buildMultiSendExecuteCallData_read
    (encode_told (show ∀ record ∈ sampleRecords, record.operation = 0 by decide) (by omega))
    (by rw [sampleRecords_fit]; decide)
  rw [List.map_map] at built
  obtain ⟨callData, builtToo, read⟩ := calls_exact.2.2 sampleRecords
  have same := Except.ok.inj (builtToo.symm.trans built)
  subst same
  exact ⟨builtToo, read (by rw [sampleRecords_fit]; decide)⟩

end VelaWallet.SignedReview
