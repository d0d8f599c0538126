import VelaWallet.Base.Abi
import VelaWallet.Codec.Primitives

/-!
# Packed MultiSend batches

`multiSend(bytes)` carries its calls without ABI padding, one record after
another: `operation(1) ‖ to(20) ‖ value(32) ‖ dataLen(32) ‖ data`.
-/

namespace VelaWallet

/-- One record of a batch. -/
structure PackedCall where
  operation : UInt8
  target : Address
  value : Nat
  data : List UInt8
  value_lt : value < 2 ^ 256

namespace PackedCall

theorem zero_lt : 0 < 2 ^ 256 := by decide

theorem seven_lt : 7 < 2 ^ 256 := by decide

def bytes (call : PackedCall) : List UInt8 :=
  [call.operation] ++ (call.target.bytes ++
    (Abi.word call.value ++ (Abi.word call.data.length ++ call.data)))

def packed (calls : List PackedCall) : List UInt8 := calls.flatMap bytes

theorem bytes_length (call : PackedCall) : call.bytes.length = 85 + call.data.length := by
  simp only [bytes, List.length_append, List.length_cons, List.length_nil, Abi.word_length,
    call.target.length_eq]
  omega

@[simp] theorem packed_nil : packed [] = [] := rfl

theorem packed_cons (call : PackedCall) (calls : List PackedCall) :
    packed (call :: calls) = call.bytes ++ packed calls := rfl

theorem data_length_lt_packed {call : PackedCall} {calls : List PackedCall}
    (member : call ∈ calls) : call.data.length < (packed calls).length := by
  induction calls with
  | nil => cases member
  | cons _ _ ih =>
    rw [packed_cons, List.length_append, bytes_length]
    rcases List.mem_cons.mp member with rfl | inTail
    · omega
    · have := ih inTail
      omega

theorem length_le_packed (calls : List PackedCall) : calls.length ≤ (packed calls).length := by
  induction calls with
  | nil => rfl
  | cons _ _ ih =>
    rw [packed_cons, List.length_append, bytes_length, List.length_cons]
    omega

section

variable (call : PackedCall) (rest : List UInt8)
include call rest

theorem head_bytes :
    (call.bytes ++ rest).headD 0 = call.operation := rfl

theorem slice?_target :
    Bytes.slice? (call.bytes ++ rest) 1 20 = some call.target.bytes := by
  have layout : call.bytes ++ rest = [call.operation] ++ (call.target.bytes ++
      (Abi.word call.value ++ (Abi.word call.data.length ++ call.data) ++ rest)) := by
    simp [bytes]
  rw [layout]
  exact Abi.slice?_field _ _ _ rfl call.target.length_eq

theorem slice?_value :
    Bytes.slice? (call.bytes ++ rest) 21 32 = some (Abi.word call.value) := by
  have layout : call.bytes ++ rest = ([call.operation] ++ call.target.bytes) ++
      (Abi.word call.value ++ (Abi.word call.data.length ++ call.data ++ rest)) := by
    simp [bytes]
  rw [layout]
  exact Abi.slice?_field _ _ _ (by simp [call.target.length_eq]) (Abi.word_length _)

theorem slice?_length :
    Bytes.slice? (call.bytes ++ rest) 53 32 = some (Abi.word call.data.length) := by
  have layout : call.bytes ++ rest =
      ([call.operation] ++ call.target.bytes ++ Abi.word call.value) ++
        (Abi.word call.data.length ++ (call.data ++ rest)) := by
    simp [bytes]
  rw [layout]
  exact Abi.slice?_field _ _ _ (by simp [call.target.length_eq]) (Abi.word_length _)

theorem slice?_data :
    Bytes.slice? (call.bytes ++ rest) 85 call.data.length = some call.data := by
  have layout : call.bytes ++ rest =
      ([call.operation] ++ call.target.bytes ++ Abi.word call.value ++
        Abi.word call.data.length) ++ (call.data ++ rest) := by
    simp [bytes]
  rw [layout]
  exact Abi.slice?_field _ _ _ (by simp [call.target.length_eq]) rfl

theorem drop_bytes :
    (call.bytes ++ rest).drop (85 + call.data.length) = rest := by
  rw [← call.bytes_length, List.drop_left]

end

/-- The first record of a payload, and what is behind it. -/
def next? (payload : List UInt8) : Option (PackedCall × List UInt8) := do
  let target ← Bytes.slice? payload 1 20
  let value ← Abi.wordAt? payload 21
  let length ← Abi.wordAt? payload 53
  let data ← Bytes.slice? payload 85 length
  if sized : target.length = 20 ∧ value < 2 ^ 256 then
    some (⟨payload.headD 0, ⟨target, sized.1⟩, value, data, sized.2⟩, payload.drop (85 + length))
  else none

/-- The records of a payload, of no more than `fuel` of them. -/
def unpackWithin : Nat → List UInt8 → Option (List PackedCall)
  | _, [] => some []
  | 0, _ => none
  | fuel + 1, payload => do
      let (call, rest) ← next? payload
      let calls ← unpackWithin fuel rest
      return call :: calls

def unpack (payload : List UInt8) : Option (List PackedCall) := unpackWithin payload.length payload

theorem next?_bytes {call : PackedCall} (short : call.data.length < 2 ^ 256) (rest : List UInt8) :
    next? (call.bytes ++ rest) = some (call, rest) := by
  have value : Abi.wordAt? (call.bytes ++ rest) 21 = some call.value := by
    rw [Abi.wordAt?, slice?_value, Option.map_some, Abi.beNat_word call.value_lt]
  have length : Abi.wordAt? (call.bytes ++ rest) 53 = some call.data.length := by
    rw [Abi.wordAt?, slice?_length, Option.map_some, Abi.beNat_word short]
  simp only [next?, slice?_target, value, length, slice?_data, head_bytes, drop_bytes,
    Option.bind_eq_bind, Option.bind_some]
  rw [dif_pos ⟨call.target.length_eq, call.value_lt⟩]

theorem unpackWithin_packed {calls : List PackedCall} {fuel : Nat}
    (short : ∀ call ∈ calls, call.data.length < 2 ^ 256) (enough : calls.length ≤ fuel) :
    unpackWithin fuel (packed calls) = some calls := by
  induction calls generalizing fuel with
  | nil => cases fuel <;> rfl
  | cons call calls ih =>
    cases fuel with
    | zero => cases enough
    | succ =>
      have later := ih (fun other member => short other (List.mem_cons_of_mem _ member))
        (Nat.le_of_succ_le_succ enough)
      have head := next?_bytes (short call List.mem_cons_self) (packed calls)
      have written : call.bytes ++ packed calls =
          call.operation :: (call.target.bytes ++ (Abi.word call.value ++
            (Abi.word call.data.length ++ call.data)) ++ packed calls) := rfl
      rw [packed_cons, written, unpackWithin, ← written, head]
      · simp [later]
      · exact List.cons_ne_nil _ _

theorem unpack_packed {calls : List PackedCall}
    (short : ∀ call ∈ calls, call.data.length < 2 ^ 256) : unpack (packed calls) = some calls :=
  unpackWithin_packed short (length_le_packed calls)

end PackedCall

end VelaWallet
