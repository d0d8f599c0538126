import VelaWallet.Base.Json
import VelaWallet.Codec.FeeLeg

/-!
# An operation on the wire

An operation has three forms: the struct whose hash the passkey signs, the packed operation whose
hash names it, and the JSON that the relay packs again (`user_op.rs`).  What each form holds of the
factory and the paymaster is compared here.
-/

namespace VelaWallet

open Json (Value)
open Utf8 (bytes)

variable {key : String}

def insertText (members : List (String × Value)) (field : String × String) :
    List (String × Value) :=
  Value.insertMember field.1 (.string field.2) members

/-- The fields of every operation, its numbers as `quantity` writes them. -/
def plainMembers (op : UserOperation) (signature : List UInt8) : List (String × Value) :=
  [("sender", op.sender), ("nonce", op.nonce), ("callData", toHex op.callData.bytes true),
    ("callGasLimit", lowerHex op.callGasLimit),
    ("verificationGasLimit", lowerHex op.verificationGasLimit),
    ("preVerificationGas", lowerHex op.preVerificationGas),
    ("maxFeePerGas", lowerHex op.maxFeePerGas),
    ("maxPriorityFeePerGas", lowerHex op.maxPriorityFeePerGas),
    ("signature", toHex signature true)].foldl insertText []

/-- The fields of a factory, where `initCode` names one. -/
def factoryFields (op : UserOperation) : List (String × String) :=
  if 20 ≤ op.initCode.bytes.length then
    [("factory", toHex (op.initCode.bytes.take 20) true),
      ("factoryData", toHex (op.initCode.bytes.drop 20) true)]
  else []

/-- The fields of a paymaster, where `paymasterAndData` names one. -/
def paymasterFields (op : UserOperation) : List (String × String) :=
  if 20 ≤ op.paymasterAndData.bytes.length then
    [("paymaster", toHex (op.paymasterAndData.bytes.take 20) true),
      ("paymasterData", toHex (op.paymasterAndData.bytes.drop 20) true),
      ("paymasterVerificationGasLimit", "0x0"), ("paymasterPostOpGasLimit", "0x0")]
  else []

/-- `user_op_to_json`, of an operation and its signature. -/
def userOpToJson (op : UserOperation) (signature : List UInt8) (extra : List (String × String)) :
    Value :=
  .object (extra.foldl insertText ((paymasterFields op).foldl insertText
    ((factoryFields op).foldl insertText (plainMembers op signature))))

/-- The factory and paymaster bytes of a form. -/
structure VariableFields where
  initCode : List UInt8
  paymasterAndData : List UInt8

/-- The bytes `calculate_safe_op_hash` hashes. -/
def safeOpFields (op : UserOperation) : VariableFields :=
  ⟨op.initCode.bytes, op.paymasterAndData.bytes⟩

/-- The bytes `user_op_hash` hashes. -/
def userOpFields (op : UserOperation) : VariableFields where
  initCode := if 20 ≤ op.initCode.bytes.length then op.initCode.bytes else []
  paymasterAndData :=
    if 20 ≤ op.paymasterAndData.bytes.length then
      op.paymasterAndData.bytes.take 20 ++ List.replicate 32 0 ++ op.paymasterAndData.bytes.drop 20
    else []

def gasPair (high low : Nat) : List UInt8 := Bytes.beBytes 16 high ++ Bytes.beBytes 16 low

section Hashes

variable [RadixErrors]

/-- The hash that names an operation, by the factory and paymaster bytes that go into it. -/
def userOpHashOf (op : UserOperation) (fields : VariableFields) (chainId : UInt64) :
    Except CoreError String := do
  let sender ← abiEncodeAddress op.sender
  let nonce ← abiEncodeUint256 op.nonce
  let packed := sender ++ nonce ++ Keccak.keccak256 fields.initCode ++
    Keccak.keccak256 op.callData.bytes ++ gasPair op.verificationGasLimit op.callGasLimit ++
    wordU128 op.preVerificationGas ++ gasPair op.maxPriorityFeePerGas op.maxFeePerGas ++
    Keccak.keccak256 fields.paymasterAndData
  let entryPoint ← abiEncodeAddress Safe.entryPoint
  let outer := Keccak.keccak256 packed ++ entryPoint ++ wordU128 chainId.toNat
  return toHex (Keccak.keccak256 outer) true

def userOpHash (op : UserOperation) (chainId : UInt64) : Except CoreError String :=
  userOpHashOf op (userOpFields op) chainId

/-- The hash that is signed, by the factory and paymaster bytes that go into it. -/
def safeOpHashOf (op : UserOperation) (fields : VariableFields) (chainId : UInt64) :
    Except CoreError (List UInt8) := do
  let sender ← abiEncodeAddress op.sender
  let nonce ← abiEncodeUint256 op.nonce
  let entryPoint ← abiEncodeAddress Safe.entryPoint
  let preimage := Keccak.keccak256 (bytes safeOpType) ++ sender ++ nonce ++
    Keccak.keccak256 fields.initCode ++ Keccak.keccak256 op.callData.bytes ++
    wordU128 op.verificationGasLimit ++ wordU128 op.callGasLimit ++
    wordU128 op.preVerificationGas ++ wordU128 op.maxPriorityFeePerGas ++
    wordU128 op.maxFeePerGas ++ Keccak.keccak256 fields.paymasterAndData ++ wordU128 0 ++
    wordU128 0 ++ entryPoint
  let separator ← domainSeparator chainId Safe.safe4337Module
  return eip712Digest separator (Keccak.keccak256 preimage)

theorem calculateSafeOpHash_eq (op : UserOperation) (chainId : UInt64) :
    calculateSafeOpHash op chainId = safeOpHashOf op (safeOpFields op) chainId := rfl

end Hashes

/-! ## The wire -/

def hexField (json : Value) (key : String) : Option (List UInt8) := do
  (fromHex (← (← json.get? key).asStr?)).toOption

/-- A gas limit of a dictionary, as the sixteen bytes it is packed in. -/
def limitField (json : Value) (key : String) : Option (List UInt8) := do
  let value ← Hex.natOf? (bytes (stripMark (← (← json.get? key).asStr?)))
  return Bytes.beBytes 16 value

/-- The bytes of a factory: its address and its data. -/
def unpackFactory (json : Value) : Option (List UInt8) :=
  if (json.get? "factory").isSome then do
    return (← hexField json "factory") ++ (← hexField json "factoryData")
  else some []

/-- The bytes of a paymaster: its address, its two limits and its data. -/
def unpackPaymaster (json : Value) : Option (List UInt8) :=
  if (json.get? "paymaster").isSome then do
    return (← hexField json "paymaster") ++ (← limitField json "paymasterVerificationGasLimit") ++
      (← limitField json "paymasterPostOpGasLimit") ++ (← hexField json "paymasterData")
  else some []

/-- What version 0.7 packs of a dictionary. -/
def unpack (json : Value) : Option VariableFields := do
  return ⟨← unpackFactory json, ← unpackPaymaster json⟩

def packedNames : List String :=
  ["factory", "factoryData", "paymaster", "paymasterData", "paymasterVerificationGasLimit",
    "paymasterPostOpGasLimit"]

section Dictionaries

variable {key : String} {fields : List (String × String)} {members : List (String × Value)}

theorem lookup_foldl_other (different : ∀ field ∈ fields, field.1 ≠ key) :
    Value.lookup key (fields.foldl insertText members) = Value.lookup key members := by
  induction fields generalizing members with
  | nil => rfl
  | cons field _ ih =>
    rw [List.foldl_cons, ih fun other member => different other (List.mem_cons_of_mem _ member)]
    exact Value.lookup_insertMember_other (different field List.mem_cons_self) _ _

theorem lookup_foldl_mem (once : (fields.map Prod.fst).Nodup) {text : String}
    (member : (key, text) ∈ fields) :
    Value.lookup key (fields.foldl insertText members) = some (.string text) := by
  induction fields generalizing members with
  | nil => cases member
  | cons _ _ ih =>
    rw [List.map_cons, List.nodup_cons] at once
    rw [List.foldl_cons]
    rcases List.mem_cons.mp member with rfl | later
    · rw [lookup_foldl_other]
      · exact Value.lookup_insertMember_self _ _ _
      · intro other there same
        exact once.1 (List.mem_map.mpr ⟨other, there, same⟩)
    · exact ih once.2 later

end Dictionaries

section Wire

variable {op : UserOperation} {signature : List UInt8} {extra : List (String × String)}

theorem get?_wire (foreign : ∀ field ∈ extra, field.1 ∉ packedNames) (packed : key ∈ packedNames) :
    (userOpToJson op signature extra).get? key =
      Value.lookup key ((factoryFields op ++ paymasterFields op).foldl insertText
        (plainMembers op signature)) := by
  rw [userOpToJson, Value.get?_object, List.foldl_append]
  apply lookup_foldl_other
  rintro field member rfl
  exact foreign field member packed

theorem lookup_plain (packed : key ∈ packedNames) :
    Value.lookup key (plainMembers op signature) = none := by
  have others : ∀ name ∈ ["sender", "nonce", "callData", "callGasLimit", "verificationGasLimit",
      "preVerificationGas", "maxFeePerGas", "maxPriorityFeePerGas", "signature"],
      name ∉ packedNames := by decide
  rw [plainMembers, lookup_foldl_other]
  · rfl
  · rintro field member rfl
    exact others field.1 (by simpa using List.mem_map_of_mem (f := Prod.fst) member) packed

theorem packed_nodup : ((factoryFields op ++ paymasterFields op).map Prod.fst).Nodup := by
  unfold factoryFields paymasterFields
  split <;> split <;> simp

section

variable (foreign : ∀ field ∈ extra, field.1 ∉ packedNames)
include foreign

section

variable (packed : key ∈ packedNames)
include packed

theorem get?_written {text : String}
    (written : (key, text) ∈ factoryFields op ++ paymasterFields op) :
    (userOpToJson op signature extra).get? key = some (.string text) := by
  rw [get?_wire foreign packed]
  exact lookup_foldl_mem packed_nodup written

theorem get?_unwritten
    (unwritten : ∀ field ∈ factoryFields op ++ paymasterFields op, field.1 ≠ key) :
    (userOpToJson op signature extra).get? key = none := by
  rw [get?_wire foreign packed, lookup_foldl_other unwritten, lookup_plain packed]

theorem hexField_written {data : List UInt8}
    (written : (key, toHex data true) ∈ factoryFields op ++ paymasterFields op) :
    hexField (userOpToJson op signature extra) key = some data := by
  simp [hexField, get?_written foreign packed written, fromHex_toHex, Except.toOption]

theorem limitField_written
    (written : (key, "0x0") ∈ factoryFields op ++ paymasterFields op) :
    limitField (userOpToJson op signature extra) key = some (List.replicate 16 0) := by
  have zero : Hex.natOf? (bytes (stripMark "0x0")) = some 0 := by decide
  simp [limitField, get?_written foreign packed written, zero, beBytes_zero]

end

theorem unpackFactory_wire :
    unpackFactory (userOpToJson op signature extra) = some (userOpFields op).initCode := by
  unfold unpackFactory userOpFields
  by_cases named : 20 ≤ op.initCode.bytes.length
  · have address : ("factory", toHex (op.initCode.bytes.take 20) true) ∈
        factoryFields op ++ paymasterFields op := by simp [factoryFields, named]
    have data : ("factoryData", toHex (op.initCode.bytes.drop 20) true) ∈
        factoryFields op ++ paymasterFields op := by simp [factoryFields, named]
    rw [get?_written foreign (by decide) address, hexField_written foreign (by decide) address,
      hexField_written foreign (by decide) data]
    simp [named]
  · have absent : ∀ field ∈ factoryFields op ++ paymasterFields op, field.1 ≠ "factory" := by
      unfold factoryFields paymasterFields
      rw [if_neg named]
      split <;> simp
    rw [get?_unwritten foreign (by decide) absent]
    simp [named]

theorem unpackPaymaster_wire :
    unpackPaymaster (userOpToJson op signature extra) =
      some (userOpFields op).paymasterAndData := by
  unfold unpackPaymaster userOpFields
  by_cases named : 20 ≤ op.paymasterAndData.bytes.length
  · have address : ("paymaster", toHex (op.paymasterAndData.bytes.take 20) true) ∈
        factoryFields op ++ paymasterFields op := by simp [paymasterFields, named]
    have data : ("paymasterData", toHex (op.paymasterAndData.bytes.drop 20) true) ∈
        factoryFields op ++ paymasterFields op := by simp [paymasterFields, named]
    have verification : ("paymasterVerificationGasLimit", "0x0") ∈
        factoryFields op ++ paymasterFields op := by simp [paymasterFields, named]
    have postOp : ("paymasterPostOpGasLimit", "0x0") ∈
        factoryFields op ++ paymasterFields op := by simp [paymasterFields, named]
    rw [get?_written foreign (by decide) address, hexField_written foreign (by decide) address,
      hexField_written foreign (by decide) data,
      limitField_written foreign (by decide) verification, limitField_written foreign (by decide) postOp]
    simp [named]
  · have absent : ∀ field ∈ factoryFields op ++ paymasterFields op, field.1 ≠ "paymaster" := by
      unfold factoryFields paymasterFields
      rw [if_neg named]
      split <;> simp
    rw [get?_unwritten foreign (by decide) absent]
    simp [named]

theorem unpack_wire :
    unpack (userOpToJson op signature extra) = some (userOpFields op) := by
  rw [unpack, unpackFactory_wire foreign, unpackPaymaster_wire foreign]
  rfl

end

end Wire

/-- The two hashes hash the same bytes exactly if `initCode` is empty or names a factory and there
is no paymaster. -/
theorem fields_agree_iff {op : UserOperation} : userOpFields op = safeOpFields op ↔
    (op.initCode.bytes = [] ∨ 20 ≤ op.initCode.bytes.length) ∧ op.paymasterAndData.bytes = [] := by
  unfold userOpFields safeOpFields
  rw [VariableFields.mk.injEq]
  apply and_congr
  · split
    case isTrue named => simp [named]
    case isFalse unnamed =>
      constructor
      · intro same
        exact .inl same.symm
      · rintro (empty | named)
        · exact empty.symm
        · exact absurd named unnamed
  · split
    case isTrue named =>
      constructor
      · intro same
        have lengths := congrArg List.length same
        simp only [List.length_append, List.length_take, List.length_drop, List.length_replicate]
          at lengths
        omega
      · intro empty
        rw [empty] at named
        exact absurd named (by decide)
    case isFalse =>
      constructor
      · exact Eq.symm
      · exact Eq.symm

/-- The operation whose hash is signed, the operation whose hash names it and the operation that the
relay packs again are one exactly if `initCode` is empty or names a factory and there is no
paymaster.  The relay packs what names the operation always. -/
theorem forms_agree_iff [RadixErrors] {op : UserOperation} {signature : List UInt8}
    {extra : List (String × String)} (foreign : ∀ field ∈ extra, field.1 ∉ packedNames) :
    (∀ chainId, calculateSafeOpHash op chainId = safeOpHashOf op (safeOpFields op) chainId ∧
      userOpHash op chainId = userOpHashOf op (userOpFields op) chainId) ∧
    unpack (userOpToJson op signature extra) = some (userOpFields op) ∧
    ((unpack (userOpToJson op signature extra) = some (safeOpFields op) ∧
        unpack (userOpToJson op signature extra) = some (userOpFields op)) ↔
      (op.initCode.bytes = [] ∨ 20 ≤ op.initCode.bytes.length) ∧
        op.paymasterAndData.bytes = []) := by
  refine ⟨fun chainId => ⟨calculateSafeOpHash_eq op chainId, rfl⟩, unpack_wire foreign, ?_⟩
  rw [unpack_wire foreign, ← fields_agree_iff]
  simp

def paymasterOp : UserOperation where
  sender := Safe.multiSend
  nonce := "0x0"
  initCode := ⟨[], ByteVec.nil_lt⟩
  callData := ⟨[], ByteVec.nil_lt⟩
  verificationGasLimit := 0
  callGasLimit := 0
  preVerificationGas := 0
  maxFeePerGas := 0
  maxPriorityFeePerGas := 0
  paymasterAndData := ⟨List.replicate 20 1, by decide⟩

/-- An operation of a paymaster is signed without the limits that it is packed with. -/
theorem paymasterOp_differs :
    unpack (userOpToJson paymasterOp [] []) = some (userOpFields paymasterOp) ∧
      userOpFields paymasterOp ≠ safeOpFields paymasterOp :=
  ⟨unpack_wire (by simp), fun same => absurd (fields_agree_iff.mp same).2 (by decide)⟩

/-- An operation of a deployed account, sent with a fee token. -/
def deployedOp : UserOperation := { paymasterOp with paymasterAndData := ⟨[], ByteVec.nil_lt⟩ }

theorem deployedOp_agrees :
    unpack (userOpToJson deployedOp [] [("feeToken", Safe.multiSend)]) =
        some (safeOpFields deployedOp) ∧
      unpack (userOpToJson deployedOp [] [("feeToken", Safe.multiSend)]) =
        some (userOpFields deployedOp) :=
  (@forms_agree_iff SignedReview.plainRadix deployedOp [] [("feeToken", Safe.multiSend)]
    (by decide)).2.2.mpr ⟨.inl rfl, rfl⟩

end VelaWallet
