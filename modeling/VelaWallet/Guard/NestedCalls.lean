import VelaWallet.Codec.MultiSend
import VelaWallet.Guard.SelfCallSoundness

/-!
# The batch the chain would run

What the chain makes of a `multiSend` or `execTransaction` payload, by the
contract ABI: the dynamic argument sits wherever its offset word points.  The
guard follows that offset in `execTransaction` and takes it for granted in
`multiSend`, so it sees every nested call exactly as long as each `multiSend`
argument stands right behind its head.
-/

namespace VelaWallet.SelfCallGuard

open Json (Value Reader)
open Utf8 (bytes stripPrefix)
open Bytes (slice? beNat)

variable {account : Address} {data : List UInt8} {allowed : Nat → Prop} {safe : String}

/-- A call of an executed batch. -/
structure ChainCall where
  operation : Nat
  target : List UInt8
  data : List UInt8

/-- The selector of `multiSend(bytes)`. -/
def multiSendSelector : List UInt8 := [0x8d, 0x80, 0xff, 0x0a]

/-- The selector of `execTransaction(address,uint256,bytes,uint8,…)`. -/
def execTransactionSelector : List UInt8 := [0x6a, 0x76, 0x12, 0x02]

/-- A packed record as the chain runs it. -/
def chainCall (call : PackedCall) : ChainCall :=
  ⟨call.operation.toNat, call.target.bytes, call.data⟩

/-- The call of an `execTransaction`: its target, its operation, and its data
wherever the offset word points. -/
def execTransactionCall? (arguments : List UInt8) : Option ChainCall := do
  let target ← slice? arguments 12 20
  let data ← Abi.bytesArg? arguments 64
  let operation ← Abi.wordAt? arguments 96
  if operation ≤ 1 then some ⟨operation, target, data⟩ else none

/-- The chain runs the call as part of the calldata's batch; `allowed` says where
a `multiSend` argument may stand. -/
inductive Executes (allowed : Nat → Prop) : List UInt8 → ChainCall → Prop where
  | multiSend {arguments : List UInt8} {offset : Nat} {calls : List PackedCall}
      {call : PackedCall} :
      Abi.wordAt? arguments 0 = some offset → allowed offset →
      Abi.bytesArg? arguments 0 = some (PackedCall.packed calls) → call ∈ calls →
      Executes allowed (multiSendSelector ++ arguments) (chainCall call)
  | execTransaction {arguments : List UInt8} {call : ChainCall} :
      execTransactionCall? arguments = some call →
      Executes allowed (execTransactionSelector ++ arguments) call

/-- Within the given number of nested payloads the chain reaches a `delegatecall`,
or a call of the account with a blocked selector. -/
inductive Carries (allowed : Nat → Prop) (account : Address) : Nat → List UInt8 → Prop where
  | delegate {levels : Nat} {data : List UInt8} {call : ChainCall} :
      Executes allowed data call → call.operation = 1 → Carries allowed account (levels + 1) data
  | call {levels : Nat} {data : List UInt8} {call : ChainCall} :
      Executes allowed data call → call.operation = 0 → call.target = account.bytes →
      Rewrites call.data → Carries allowed account (levels + 1) data
  | nested {levels : Nat} {data : List UInt8} {call : ChainCall} :
      Executes allowed data call → call.operation = 0 → Carries allowed account levels call.data →
      Carries allowed account (levels + 1) data

theorem u32At_word {word : List UInt8} {start : Nat}
    (found : slice? data start 32 = some word) : u32At data (start + 28) = beNat word % 2 ^ 32 := by
  have inside := Abi.slice?_inside found
  have width := Bytes.slice?_length found
  have low : (data.drop (start + 28)).take 4 = word.drop 28 := by
    rw [← Abi.slice?_eq found, List.drop_take, List.drop_drop]
  have split : beNat word = beNat (word.take 28) * 2 ^ 32 + beNat (word.drop 28) := by
    conv_lhs => rw [← List.take_append_drop 28 word, Bytes.beNat_append]
    simp [width]
  have small : beNat (word.drop 28) < 2 ^ 32 := by
    have bound := Bytes.beNat_lt (word.drop 28)
    rw [List.length_drop, width] at bound
    exact bound
  rw [u32At, if_neg (by omega), low, split, Nat.mul_comm, Nat.mul_add_mod,
    Nat.mod_eq_of_lt small]

@[simp] theorem multiSendSelector_length : multiSendSelector.length = 4 := rfl

@[simp] theorem execTransactionSelector_length : execTransactionSelector.length = 4 := rfl

theorem u32At_wordAt {start value : Nat}
    (found : Abi.wordAt? data start = some value) (small : value < 2 ^ 32) :
    u32At data (start + 28) = value := by
  obtain ⟨word, read, rfl⟩ := Abi.wordAt?_some found
  rw [u32At_word read, Nat.mod_eq_of_lt small]

/-- A record as the guard decodes it. -/
def innerOf (call : PackedCall) : InnerCall :=
  ⟨call.operation, toHex call.target.bytes true, toHex call.data true⟩

theorem decodePacked_packed {calls : List PackedCall} {rounds : Nat}
    (enough : calls.length ≤ rounds) (short : (PackedCall.packed calls).length < 2 ^ 32) :
    decodePacked rounds (PackedCall.packed calls) = calls.map innerOf := by
  induction calls generalizing rounds with
  | nil =>
    cases rounds with
    | zero => rfl
    | succ => simp [decodePacked]
  | cons call calls ih =>
    obtain ⟨rounds, rfl⟩ : ∃ left, rounds = left + 1 := ⟨rounds - 1, by
      simp only [List.length_cons] at enough
      omega⟩
    rw [PackedCall.packed_cons] at short ⊢
    have total : (call.bytes ++ PackedCall.packed calls).length =
        85 + call.data.length + (PackedCall.packed calls).length := by
      rw [List.length_append, call.bytes_length]
    have fits : call.data.length < 2 ^ 32 := by omega
    have length : u32At (call.bytes ++ PackedCall.packed calls) (53 + 28) =
        call.data.length := by
      rw [u32At_word (call.slice?_length _),
        Abi.beNat_word (Nat.lt_trans fits (by decide)), Nat.mod_eq_of_lt fits]
    rw [decodePacked, if_neg (by omega)]
    dsimp only
    rw [length, if_neg (by omega), Abi.slice?_eq (call.slice?_target _),
      Abi.slice?_eq (call.slice?_data _), call.drop_bytes, call.head_bytes,
      ih (by simp only [List.length_cons] at enough; omega) (by omega)]
    rfl

/-- A well-formed `multiSend` whose argument stands behind its head is decoded
record by record. -/
theorem decodeMultiSendBytes_packed {arguments : List UInt8} {calls : List PackedCall}
    (offset : Abi.wordAt? arguments 0 = some 32)
    (payload : Abi.bytesArg? arguments 0 = some (PackedCall.packed calls))
    (short : arguments.length < 2 ^ 32) :
    decodeMultiSendBytes (multiSendSelector ++ arguments) = calls.map innerOf := by
  obtain ⟨_, offsetRead, lengthRead, dataRead⟩ := Abi.bytesArg?_some payload
  obtain rfl := Option.some.inj (offset.symm.trans offsetRead)
  have inside := Abi.slice?_inside dataRead
  have total : (multiSendSelector ++ arguments).length = 4 + arguments.length := by
    rw [List.length_append]
    rfl
  have length : u32At (multiSendSelector ++ arguments) (4 + 32 + 28) =
      (PackedCall.packed calls).length := by
    apply u32At_wordAt
    · rw [Abi.wordAt?_shift multiSendSelector arguments multiSendSelector_length, lengthRead]
    · omega
  have argument : ((multiSendSelector ++ arguments).drop (4 + 64)).take
      (PackedCall.packed calls).length = PackedCall.packed calls := by
    apply Abi.slice?_eq
    rw [Abi.slice?_shift multiSendSelector arguments _ multiSendSelector_length, dataRead]
  rw [decodeMultiSendBytes, if_neg (by omega), length]
  dsimp only
  rw [argument]
  apply decodePacked_packed
  · exact PackedCall.length_le_packed calls
  · omega

theorem decodeExecTransactionBytes_call {arguments : List UInt8} {call : ChainCall}
    (read : execTransactionCall? arguments = some call) (short : arguments.length < 2 ^ 32) :
    ∃ inner, decodeExecTransactionBytes (execTransactionSelector ++ arguments) = some inner ∧
      inner.operation.toNat = call.operation ∧ inner.target = toHex call.target true ∧
      fromHex inner.data = .ok call.data := by
  simp only [execTransactionCall?, Option.bind_eq_bind, Option.bind_eq_some_iff] at read
  obtain ⟨target, targetRead, data, dataArg, operation, operationRead, kept⟩ := read
  split at kept
  case isFalse => cases kept
  case isTrue atMostOne =>
    cases kept
    obtain ⟨offset, offsetRead, lengthRead, dataRead⟩ := Abi.bytesArg?_some dataArg
    have inside := Abi.slice?_inside dataRead
    have headInside := Abi.wordAt?_inside operationRead
    have total : (execTransactionSelector ++ arguments).length = 4 + arguments.length := by
      rw [List.length_append]
      rfl
    have shift : ∀ {start value : Nat}, Abi.wordAt? arguments start = some value → value < 2 ^ 32 →
        u32At (execTransactionSelector ++ arguments) (4 + start + 28) = value := by
      intro start value found small
      apply u32At_wordAt _ small
      rw [Abi.wordAt?_shift execTransactionSelector arguments execTransactionSelector_length, found]
    have offsetEq := shift offsetRead (by omega)
    have lengthEq := shift lengthRead (by omega)
    have targetEq : ((execTransactionSelector ++ arguments).drop (4 + 12)).take 20 = target := by
      apply Abi.slice?_eq
      rw [Abi.slice?_shift execTransactionSelector arguments _ execTransactionSelector_length, targetRead]
    have dataEq : ((execTransactionSelector ++ arguments).drop (4 + (offset + 32))).take
        data.length = data := by
      apply Abi.slice?_eq
      rw [Abi.slice?_shift execTransactionSelector arguments _ execTransactionSelector_length, dataRead]
    obtain ⟨byte, byteAt, byteEq⟩ := Abi.last_byte_of_wordAt?
      ((Abi.wordAt?_shift execTransactionSelector arguments execTransactionSelector_length).trans operationRead)
    refine ⟨⟨byte, toHex target true, toHex data true⟩, ?_, ?_, rfl, fromHex_toHex data⟩
    · have dataStart : 4 + offset + 32 = 4 + (offset + 32) := by omega
      rw [decodeExecTransactionBytes, if_neg (by omega)]
      dsimp only
      rw [offsetEq, lengthEq, if_pos (by omega), if_pos (by omega), targetEq, dataStart, dataEq,
        byteAt, Option.getD_some]
    · rw [byteEq]
      exact Nat.mod_eq_of_lt (by omega)

/-- The guard's image of an executed call. -/
structure Shows (inner : InnerCall) (call : ChainCall) : Prop where
  operation : inner.operation.toNat = call.operation
  target : inner.target = toHex call.target true
  data : fromHex inner.data = .ok call.data

theorem carried_multiSend (arguments : List UInt8) :
    carried (multiSendSelector ++ arguments) =
      decodeMultiSendBytes (multiSendSelector ++ arguments) := by
  have read : selectorIn (multiSendSelector ++ arguments) = some (toHex multiSendSelector true) := by
    simp [selectorIn, multiSendSelector]
  have isMulti : eqIgnoreAsciiCase (toHex multiSendSelector true) multiSend = true := by
    decide
  have notExec : eqIgnoreAsciiCase (toHex multiSendSelector true) execTransaction = false := by
    decide
  simp [carried, read, innerCalls, isMulti, notExec]

theorem carried_execTransaction (arguments : List UInt8) :
    carried (execTransactionSelector ++ arguments) =
      (decodeExecTransactionBytes (execTransactionSelector ++ arguments)).toList := by
  have read : selectorIn (execTransactionSelector ++ arguments) =
      some (toHex execTransactionSelector true) := by
    simp [selectorIn, execTransactionSelector]
  have isExec : eqIgnoreAsciiCase (toHex execTransactionSelector true) execTransaction = true := by
    decide
  have notMulti : eqIgnoreAsciiCase (toHex execTransactionSelector true) multiSend = false := by
    decide
  simp [carried, read, innerCalls, isExec, notMulti]

theorem carried_of_executes {call : ChainCall}
    (executes : Executes (· = 32) data call) (short : data.length < 2 ^ 32) :
    ∃ inner ∈ carried data, Shows inner call := by
  cases executes with
  | @multiSend arguments offset calls call offsetRead behind payload member =>
    subst behind
    rw [List.length_append] at short
    rw [carried_multiSend, decodeMultiSendBytes_packed offsetRead payload (by omega)]
    exact ⟨innerOf call, List.mem_map.mpr ⟨call, member, rfl⟩, rfl, rfl, fromHex_toHex call.data⟩
  | @execTransaction arguments _ read =>
    rw [List.length_append] at short
    obtain ⟨inner, decoded, operation, target, below⟩ :=
      decodeExecTransactionBytes_call read (by omega)
    rw [carried_execTransaction, decoded]
    exact ⟨inner, List.mem_singleton.mpr rfl, operation, target, below⟩

theorem data_length_lt_of_executes {call : ChainCall}
    (executes : Executes allowed data call) : call.data.length < data.length := by
  cases executes with
  | @multiSend arguments offset calls call offsetRead _ payload member =>
    obtain ⟨_, _, _, dataRead⟩ := Abi.bytesArg?_some payload
    have inside := Abi.slice?_inside dataRead
    have smaller := PackedCall.data_length_lt_packed member
    rw [List.length_append]
    change call.data.length < _
    omega
  | @execTransaction arguments _ read =>
    simp only [execTransactionCall?, Option.bind_eq_bind, Option.bind_eq_some_iff] at read
    obtain ⟨_, _, nested, dataArg, _, _, kept⟩ := read
    split at kept
    case isFalse => cases kept
    case isTrue =>
      cases kept
      obtain ⟨_, _, _, dataRead⟩ := Abi.bytesArg?_some dataArg
      have inside := Abi.slice?_inside dataRead
      rw [List.length_append]
      change nested.length < _
      omega

/-- The address as the guard writes it is taken for the account exactly when the
account's own text carries no sign. -/
theorem sameAddress_own (own : parseAddress safe = .ok account) :
    sameAddress (toHex account.bytes true) safe = true ↔ Hex.plus ∉ bytes safe := by
  have ownHex := parseAddress_ok.mp own
  have written := fromHex_toHex account.bytes
  have ownSpelled := fromHexBytes_iff.mp ownHex
  have writtenLower := (spelled_spell account.bytes).lower (Hex.plus_not_mem_spell _)
  rw [sameAddress, trimmedBody_of_fromHex written, trimmedBody_of_fromHex ownHex,
    Utf8.eqIgnoreAsciiCase_iff, bytes_toHex, toHexBytes, if_pos rfl, stripPrefix_mark_append,
    writtenLower]
  constructor
  · intro lowered member
    have inBody : Hex.plus ∈ stripPrefix hexMark (bytes safe) := plus_mem_stripPrefix member
    have inLower := @List.mem_map_of_mem _ _ _ _ Utf8.asciiLower inBody
    rw [Hex.asciiLower_plus] at inLower
    change Hex.plus ∈ Utf8.toAsciiLowercase (stripPrefix hexMark (bytes safe)) at inLower
    rw [← lowered] at inLower
    exact Hex.plus_not_mem_spell _ inLower
  · intro unsigned
    rw [ownSpelled.lower fun member => unsigned (Utf8.mem_of_mem_stripPrefix member)]

/-- What the chain reaches through arguments that stand behind their heads, the
guard finds. -/
theorem smuggles_of_carries
    (own : parseAddress safe = .ok account) (unsigned : Hex.plus ∉ bytes safe) {levels : Nat}
    (carries : Carries (· = 32) account levels data)
    (short : data.length < 2 ^ 32) : Smuggles safe levels data := by
  induction carries with
  | delegate executes operation =>
    obtain ⟨inner, member, shows⟩ := carried_of_executes executes short
    apply Smuggles.delegate member
    apply UInt8.toNat_inj.mp
    rw [shows.operation, operation]
    rfl
  | call executes operation target rewrites =>
    obtain ⟨inner, member, shows⟩ := carried_of_executes executes short
    apply Smuggles.call member _ shows.data _ rewrites
    · intro delegated
      rw [← shows.operation, delegated] at operation
      cases operation
    · rw [shows.target, target]
      exact (sameAddress_own own).mpr unsigned
  | nested executes operation _ ih =>
    obtain ⟨inner, member, shows⟩ := carried_of_executes executes short
    have shorter := data_length_lt_of_executes executes
    apply Smuggles.nested member _ shows.data (ih (by omega))
    intro delegated
    rw [← shows.operation, delegated] at operation
    cases operation

theorem Carries.mono {wider : Nat → Prop} {levels : Nat}
    (carries : Carries allowed account levels data)
    (within : ∀ offset, allowed offset → wider offset) : Carries wider account levels data := by
  have widened : ∀ {data call}, Executes allowed data call → Executes wider data call := by
    intro data call executes
    cases executes with
    | multiSend offsetRead inside payload member =>
      exact .multiSend offsetRead (within _ inside) payload member
    | execTransaction read => exact .execTransaction read
  induction carries with
  | delegate executes operation => exact .delegate (widened executes) operation
  | call executes operation target rewrites =>
    exact .call (widened executes) operation target rewrites
  | nested executes operation _ ih => exact .nested (widened executes) operation ih

theorem changeThresholdBytes_rewrites : Rewrites changeThresholdBytes := by
  have opens : ∃ entry ∈ blocked, fromHex entry.1 = .ok (changeThresholdBytes.take 4) := by
    decide
  exact opens

/-- A call of the account's `changeThreshold(1)`. -/
def hiddenCall (account : Address) : PackedCall :=
  ⟨0, account, 0, changeThresholdBytes, PackedCall.zero_lt⟩

/-- A `multiSend` of that call, its argument at a chosen offset with zeros
before it. -/
def hiddenArguments (account : Address) (offset : Nat) : List UInt8 :=
  Abi.word offset ++ (List.replicate (offset - 32) 0 ++
    (Abi.word 121 ++ PackedCall.packed [hiddenCall account]))

def hiddenCalldata (account : Address) (offset : Nat) : List UInt8 :=
  multiSendSelector ++ hiddenArguments account offset

theorem hiddenCall_length (account : Address) :
    (PackedCall.packed [hiddenCall account]).length = 121 := by
  rw [PackedCall.packed_cons, PackedCall.packed_nil, List.append_nil, PackedCall.bytes_length]
  rfl

theorem hiddenCalldata_length {account : Address} {offset : Nat} (behind : 32 ≤ offset) :
    (hiddenCalldata account offset).length = offset + 157 := by
  simp only [hiddenCalldata, hiddenArguments, List.length_append, Abi.word_length,
    List.length_replicate, hiddenCall_length, multiSendSelector_length]
  omega

theorem hiddenCalldata_carries {offset : Nat}
    (inside : allowed offset) (behind : 32 ≤ offset) (small : offset < 2 ^ 32) (levels : Nat) :
    Carries allowed account (levels + 1) (hiddenCalldata account offset) := by
  have offsetRead : Abi.wordAt? (hiddenArguments account offset) 0 = some offset :=
    Abi.wordAt?_field [] _ rfl (Nat.lt_trans small (by decide))
  have gap : (Abi.word offset ++ List.replicate (offset - 32) (0 : UInt8)).length = offset := by
    rw [List.length_append, Abi.word_length, List.length_replicate]
    omega
  have lengthRead : Abi.wordAt? (hiddenArguments account offset) offset = some 121 := by
    rw [hiddenArguments, ← List.append_assoc]
    exact Abi.wordAt?_field _ _ gap (by decide)
  have dataRead : slice? (hiddenArguments account offset) (offset + 32) 121 =
      some (PackedCall.packed [hiddenCall account]) := by
    have layout : hiddenArguments account offset =
        (Abi.word offset ++ List.replicate (offset - 32) 0 ++ Abi.word 121) ++
          (PackedCall.packed [hiddenCall account] ++ []) := by
      simp [hiddenArguments]
    rw [layout]
    apply Abi.slice?_field
    · rw [List.length_append, gap, Abi.word_length]
    · exact hiddenCall_length account
  have payload : Abi.bytesArg? (hiddenArguments account offset) 0 =
      some (PackedCall.packed [hiddenCall account]) := by
    simp [Abi.bytesArg?, offsetRead, lengthRead, dataRead]
  apply Carries.call (.multiSend offsetRead inside payload List.mem_cons_self)
  · rfl
  · rfl
  · exact changeThresholdBytes_rewrites

theorem hiddenCalldata_carried {offset : Nat} (beyond : 33 ≤ offset) :
    carried (hiddenCalldata account offset) = [] := by
  have zeros : List.replicate (offset - 32) (0 : UInt8) ++
      (Abi.word 121 ++ PackedCall.packed [hiddenCall account]) =
      List.replicate 32 0 ++ (List.replicate (offset - 33) 0 ++
        ([121] ++ PackedCall.packed [hiddenCall account])) := by
    have last : Abi.word 121 = List.replicate 31 0 ++ [121] := by decide
    have count : List.replicate (offset - 32) (0 : UInt8) ++ List.replicate 31 0 =
        List.replicate 32 0 ++ List.replicate (offset - 33) 0 := by
      rw [List.replicate_append_replicate, List.replicate_append_replicate]
      congr 1
      omega
    rw [last, ← List.append_assoc, ← List.append_assoc, count]
    simp only [List.append_assoc]
  have layout : hiddenCalldata account offset =
      (multiSendSelector ++ Abi.word offset) ++ (Abi.word 0 ++ (List.replicate (offset - 33) 0 ++
        ([121] ++ PackedCall.packed [hiddenCall account]))) := by
    rw [hiddenCalldata, hiddenArguments, zeros, List.append_assoc]
    congr 1
  have length : u32At (hiddenCalldata account offset) (4 + 32 + 28) = 0 := by
    apply u32At_wordAt _ (by decide)
    rw [layout]
    exact Abi.wordAt?_field _ _ (by simp) (by decide)
  have long := @hiddenCalldata_length account offset (Nat.le_of_succ_le beyond)
  rw [hiddenCalldata] at length long ⊢
  rw [carried_multiSend, decodeMultiSendBytes, if_neg (by omega), length]
  rfl

/-- The lone transaction that carries the batch, to the MultiSend contract. -/
def hiddenRequest (account : Address) (offset : Nat) : Value :=
  loneRequest Safe.multiSend (toHex (hiddenCalldata account offset) true)

def hiddenLeg (account : Address) (offset : Nat) : RequestCall × MultiSendCall :=
  loneLeg Safe.multiSend (toHex (hiddenCalldata account offset) true) (hiddenCalldata account offset)

theorem hiddenRequest_signed (account : Address) (offset : Nat) :
    signedLegs "eth_sendTransaction" (hiddenRequest account offset) =
      some [hiddenLeg account offset] :=
  signedLegs_loneRequest (by decide) (fromHex_toHex _) (by simp [hiddenCalldata, multiSendSelector])

theorem hiddenRequest_passes [Reader] {safe : String} {account : Address}
    (own : parseAddress safe = .ok account) {offset : Nat} (beyond : 33 ≤ offset) :
    ¬ Refuses "eth_sendTransaction" (hiddenRequest account offset) safe := by
  rw [refuses_iff (Or.inl rfl) own (hiddenRequest_signed account offset)]
  intro ⟨leg, member, offends⟩
  obtain rfl := List.mem_singleton.mp member
  rcases offends with ⟨_, rewrites⟩ | smuggles
  · have closed : ¬ ∃ entry ∈ blocked, fromHex entry.1 = .ok multiSendSelector := by
      decide +kernel
    exact closed rewrites
  · rw [maxDepth, smuggles_succ] at smuggles
    obtain ⟨inner, inCarried, _⟩ := smuggles
    change inner ∈ carried (hiddenCalldata account offset) at inCarried
    rw [hiddenCalldata_carried beyond] at inCarried
    cases inCarried

/-- An `execTransaction` of the account's `changeThreshold(1)`, with its argument
behind the ten words of the head. -/
def wrappedArguments (account : Address) : List UInt8 :=
  (List.replicate 12 0 ++ account.bytes) ++ (Abi.word 0 ++ (Abi.word 320 ++ (Abi.word 0 ++
    (List.replicate 160 0 ++ (Abi.word 320 ++ (Abi.word 36 ++ changeThresholdBytes))))))

def wrappedCalldata (account : Address) : List UInt8 :=
  execTransactionSelector ++ wrappedArguments account

theorem wrappedArguments_call (account : Address) :
    execTransactionCall? (wrappedArguments account) =
      some ⟨0, account.bytes, changeThresholdBytes⟩ := by
  have sized := account.length_eq
  have target : slice? (wrappedArguments account) 12 20 = some account.bytes := by
    rw [wrappedArguments, List.append_assoc]
    exact Abi.slice?_field _ _ _ List.length_replicate sized
  have offset : Abi.wordAt? (wrappedArguments account) 64 = some 320 := by
    rw [wrappedArguments, ← List.append_assoc]
    apply Abi.wordAt?_field
    · simp only [List.length_append, List.length_replicate, Abi.word_length, sized]
    · decide
  have operation : Abi.wordAt? (wrappedArguments account) 96 = some 0 := by
    rw [wrappedArguments, ← List.append_assoc, ← List.append_assoc]
    apply Abi.wordAt?_field
    · simp only [List.length_append, List.length_replicate, Abi.word_length, sized]
    · decide
  have layout : wrappedArguments account = (List.replicate 12 0 ++ account.bytes ++ Abi.word 0 ++
      Abi.word 320 ++ Abi.word 0 ++ List.replicate 160 0 ++ Abi.word 320) ++
        (Abi.word 36 ++ changeThresholdBytes) := by
    simp only [wrappedArguments, List.append_assoc]
  have length : Abi.wordAt? (wrappedArguments account) 320 = some 36 := by
    rw [layout]
    apply Abi.wordAt?_field
    · simp only [List.length_append, List.length_replicate, Abi.word_length, sized]
    · decide
  have data : slice? (wrappedArguments account) (320 + 32) 36 = some changeThresholdBytes := by
    rw [layout, ← List.append_assoc, ← List.append_nil changeThresholdBytes]
    apply Abi.slice?_field
    · simp only [List.length_append, List.length_replicate, Abi.word_length, sized]
    · rfl
  simp [execTransactionCall?, target, Abi.bytesArg?, offset, length, data, operation]

theorem wrappedCalldata_length (account : Address) : (wrappedCalldata account).length = 392 := by
  have data : changeThresholdBytes.length = 36 := rfl
  simp only [wrappedCalldata, wrappedArguments, List.length_append, List.length_replicate,
    Abi.word_length, account.length_eq, execTransactionSelector_length, data]

theorem wrappedCalldata_carries (allowed : Nat → Prop) (account : Address) (levels : Nat) :
    Carries allowed account (levels + 1) (wrappedCalldata account) := by
  apply Carries.call (.execTransaction (wrappedArguments_call account))
  · rfl
  · rfl
  · exact changeThresholdBytes_rewrites

/-- The lone transaction that carries it, to the account as the guard writes it. -/
def wrappedRequest (account : Address) : Value :=
  loneRequest (toHex account.bytes true) (toHex (wrappedCalldata account) true)

def wrappedLeg (account : Address) : RequestCall × MultiSendCall :=
  loneLeg (toHex account.bytes true) (toHex (wrappedCalldata account) true) (wrappedCalldata account)

theorem wrappedRequest_signed (account : Address) :
    signedLegs "eth_sendTransaction" (wrappedRequest account) = some [wrappedLeg account] := by
  apply signedLegs_loneRequest
  · exact toHex_ne_empty account.bytes
  · exact fromHex_toHex _
  · simp [wrappedCalldata, execTransactionSelector]

/-- The guard does not know the account in the addresses it decodes when the
account's own text carries a sign. -/
theorem wrappedRequest_passes [Reader]
    (own : parseAddress safe = .ok account) (signed : Hex.plus ∈ bytes safe) :
    ¬ Refuses "eth_sendTransaction" (wrappedRequest account) safe := by
  have unknown : ¬ sameAddress (toHex account.bytes true) safe = true := fun same =>
    (sameAddress_own own).mp same signed
  rw [refuses_iff (Or.inl rfl) own (wrappedRequest_signed account)]
  intro ⟨leg, member, offends⟩
  obtain rfl := List.mem_singleton.mp member
  rcases offends with ⟨same, _⟩ | smuggles
  · exact unknown same
  · have short : (wrappedArguments account).length < 2 ^ 32 := by
      have := wrappedCalldata_length account
      rw [wrappedCalldata, List.length_append] at this
      omega
    obtain ⟨shown, decoded, operation, target, data⟩ :=
      decodeExecTransactionBytes_call (wrappedArguments_call account) short
    rw [maxDepth, smuggles_succ] at smuggles
    obtain ⟨inner, inCarried, offends⟩ := smuggles
    change inner ∈ carried (wrappedCalldata account) at inCarried
    rw [wrappedCalldata, carried_execTransaction, decoded] at inCarried
    obtain rfl := List.mem_singleton.mp inCarried
    rcases offends with delegated | ⟨_, below, read, ⟨same, _⟩ | deeper⟩
    · rw [delegated] at operation
      cases operation
    · exact unknown (target ▸ same)
    · obtain rfl := Except.ok.inj (read.symm.trans data)
      rw [smuggles_succ] at deeper
      obtain ⟨_, inEmpty, _⟩ := deeper
      have flat : carried changeThresholdBytes = [] := by decide
      rw [flat] at inEmpty
      cases inEmpty

end VelaWallet.SelfCallGuard
