import VelaWallet.Guard.SelfCallSoundness

/-!
# When the self-call guard panics

`hex_bytes` slices the text of a call two bytes at a time, and a slice that ends inside a character
panics.  The decoders of the carried calls stay within the bytes they are given.
-/

namespace VelaWallet.SelfCallGuard

open Json (Value Reader)
open Utf8 (SlicePanic IsCharBoundary)

variable {safe text : String} {body data : List UInt8} {count index : Nat}

/-- The pair of bytes at `index` spells a byte. -/
def IsPair (body : List UInt8) (index : Nat) : Prop :=
  (Hex.fromStrRadix16 ((body.drop index).take 2)).isSome = true

/-- An end of the pair of bytes at `index` is inside a character. -/
def CutsPair (body : List UInt8) (index : Nat) : Prop :=
  ¬(IsCharBoundary body index ∧ IsCharBoundary body (index + 2))

/-- Behind pairs that spell bytes, one of `count` pairs from `index` on cuts a character. -/
def CutsFrom (body : List UInt8) (count index : Nat) : Prop :=
  ∃ pairs < count, (∀ earlier < pairs, IsPair body (index + 2 * earlier)) ∧
    CutsPair body (index + 2 * pairs)

theorem cutsFrom_succ : CutsFrom body (count + 1) index ↔
    CutsPair body index ∨ IsPair body index ∧ CutsFrom body count (index + 2) := by
  have shift : ∀ pairs, index + 2 * (pairs + 1) = index + 2 + 2 * pairs := fun pairs => by omega
  simp only [CutsFrom, Nat.exists_lt_succ_left, Nat.forall_lt_succ_left, shift, Nat.mul_zero,
    Nat.add_zero, Nat.not_lt_zero, false_implies, implies_true, true_and, and_assoc,
    and_left_comm (b := IsPair body index), exists_and_left]

theorem hexBytesFrom_ok_iff (inside : index + 2 * count ≤ body.length) :
    (∃ data, hexBytesFrom body count index = .ok data) ↔ ¬CutsFrom body count index := by
  induction count generalizing index with
  | zero => simp [hexBytesFrom, CutsFrom]
  | succ count ih =>
    rw [cutsFrom_succ, hexBytesFrom]
    by_cases cuts : CutsPair body index
    · have panics : Utf8.slice body index (index + 2) = .error .outsideBoundary :=
        if_neg fun fine => cuts fine.2.2
      simp [panics, cuts]
    · have reads : Utf8.slice body index (index + 2) = .ok ((body.drop index).take 2) := by
        rw [Utf8.slice, if_pos ⟨Nat.le_add_right _ _, by omega, not_not.mp cuts⟩,
          Nat.add_sub_cancel_left]
      simp only [reads, cuts, IsPair, false_or]
      cases Hex.fromStrRadix16 ((body.drop index).take 2) with
      | none => simp
      | some =>
        simp only [Option.isSome_some, true_and]
        rw [← ih (by omega)]
        cases hexBytesFrom body count (index + 2) <;> simp [Except.map]

/-- `&data[start..stop]`. -/
def range (data : List UInt8) (start stop : Nat) : Except SlicePanic (List UInt8) :=
  if start ≤ stop ∧ stop ≤ data.length then .ok ((data.drop start).take (stop - start))
  else .error .outsideBoundary

/-- `u32_at`, its four bytes indexed. -/
def u32Indexed (data : List UInt8) (start : Nat) : Except SlicePanic Nat :=
  if start + 4 > data.length then .ok 0 else (range data start (start + 4)).map Bytes.beNat

/-- The loop of `decode_multi_send` over the rest of the payload, its bytes indexed. -/
def packedIndexed : (rounds : Nat) → List UInt8 → Except SlicePanic (List InnerCall)
  | 0, _ => .ok []
  | rounds + 1, payload =>
    if payload.length < 85 then .ok []
    else do
      let operation ← range payload 0 1
      let target ← range payload 1 21
      let dataLen ← u32Indexed payload (53 + 28)
      if 85 + dataLen > payload.length then return []
      let data ← range payload 85 (85 + dataLen)
      let rest ← range payload (85 + dataLen) payload.length
      let calls ← packedIndexed rounds rest
      return { operation := operation.headD 0, target := toHex target true
               data := toHex data true } :: calls

/-- `decode_multi_send`, its bytes indexed. -/
def multiSendIndexed (data : List UInt8) : Except SlicePanic (List InnerCall) :=
  if data.length < 4 + 64 then .ok []
  else do
    let len ← u32Indexed data (4 + 32 + 28)
    let payload ← range data (4 + 64) data.length
    let payload ← range payload 0 (min len payload.length)
    packedIndexed payload.length payload

/-- `decode_exec_transaction`, its bytes indexed. -/
def execTransactionIndexed (data : List UInt8) : Except SlicePanic (Option InnerCall) :=
  if data.length < 4 + 32 * 4 then .ok none
  else do
    let word (number : Nat) := range data (4 + number * 32) (4 + (number + 1) * 32)
    let target ← range (← word 0) 12 32
    let operation := (← word 3).getLast?.getD 0
    let dataOffset ← u32Indexed data (4 + 2 * 32 + 28)
    let inner ←
      if 4 + dataOffset + 32 ≤ data.length then do
        let len ← u32Indexed data (4 + dataOffset + 28)
        let start := 4 + dataOffset + 32
        if start + len ≤ data.length then
          (range data start (start + len)).map fun inner => toHex inner true
        else .ok ""
      else .ok ""
    return some { operation, target := toHex target true, data := inner }

theorem range_ok {start stop : Nat} (ordered : start ≤ stop) (inside : stop ≤ data.length) :
    range data start stop = .ok ((data.drop start).take (stop - start)) :=
  if_pos ⟨ordered, inside⟩

theorem u32Indexed_eq {start : Nat} : u32Indexed data start = .ok (u32At data start) := by
  unfold u32Indexed u32At
  split
  · rfl
  · next inside =>
      rw [range_ok (Nat.le_add_right _ _) (Nat.le_of_not_lt inside), Nat.add_sub_cancel_left]
      rfl

theorem packedIndexed_eq (rounds : Nat) (payload : List UInt8) :
    packedIndexed rounds payload = .ok (decodePacked rounds payload) := by
  induction rounds generalizing payload with
  | zero => rfl
  | succ rounds ih =>
    rw [packedIndexed, decodePacked]
    split
    · rfl
    · rw [range_ok (by omega) (by omega), range_ok (by omega) (by omega), u32Indexed_eq]
      simp only [bind, Except.bind, pure, Except.pure]
      split
      · rfl
      · rw [range_ok (by omega) (by omega), range_ok (by omega) (Nat.le_refl _)]
        simp [ih, List.take_of_length_le, List.head?_take]

theorem multiSendIndexed_eq (data : List UInt8) :
    multiSendIndexed data = .ok (decodeMultiSendBytes data) := by
  unfold multiSendIndexed decodeMultiSendBytes
  split
  · rfl
  · rw [range_ok (by omega) (Nat.le_refl _), u32Indexed_eq]
    simp only [bind, Except.bind]
    rw [range_ok (Nat.zero_le _) (Nat.min_le_right _ _)]
    have whole (len : Nat) (payload : List UInt8) :
        payload.take (min len payload.length) = payload.take len := by
      simp [List.take_eq_take_iff]
    simp only [List.drop_zero, Nat.sub_zero, whole, packedIndexed_eq, ← List.length_drop,
      List.take_length]

theorem execTransactionIndexed_eq (data : List UInt8) :
    execTransactionIndexed data = .ok (decodeExecTransactionBytes data) := by
  unfold execTransactionIndexed decodeExecTransactionBytes
  split
  · rfl
  · have operation : ((data.drop 100).take 32).getLast? = data[131]? := by
      rw [List.getLast?_eq_getElem?, List.length_take_of_le (by simp; omega)]
      simp
    have target : (((data.drop 4).take 32).drop 12).take 20 = (data.drop 16).take 20 := by
      simp [List.drop_take, List.take_take]
    simp only [u32Indexed_eq, bind, Except.bind, pure, Except.pure]
    rw [range_ok (by omega) (by omega)]
    dsimp only
    rw [range_ok (by omega) (by simp; omega), range_ok (by omega) (by omega)]
    simp only [Nat.reduceMul, Nat.reduceAdd, Nat.reduceSub, operation, target]
    split
    · split
      · next _ inside =>
          rw [range_ok (Nat.le_add_right _ _) inside, Nat.add_sub_cancel_left]
          rfl
      · rfl
    · rfl

/-- Behind pairs that spell bytes, a pair cuts a character of the text. -/
def Cuts (text : String) : Prop :=
  CutsFrom (trimmedBody text) ((trimmedBody text).length / 2) 0

theorem hexBytes_ok_iff : (∃ data, hexBytes text = .ok data) ↔ ¬Cuts text :=
  hexBytesFrom_ok_iff (by omega)

theorem inspectCall_ok_iff {legIndex : Option Nat} {levels : Nat} {nested : Bool}
    {target : String} :
    (∃ verdict, inspectCall safe legIndex levels nested target text = .ok verdict) ↔
      ¬Cuts text := by
  rw [← hexBytes_ok_iff]
  constructor
  · rintro ⟨verdict, ended⟩
    cases read : hexBytes text with
    | ok data => exact ⟨data, rfl⟩
    | error => cases levels <;> rw [inspectCall, inspectWith, read] at ended <;> cases ended
  · rintro ⟨_, read⟩
    obtain ⟨verdict, ended, _⟩ := inspectCall_judges read
    exact ⟨verdict, ended⟩

/-- The guard inspects the leg, and lets it through. -/
def Passes (safe : String) (raw : Value) : Prop :=
  ∀ target, (raw.get? "to").bind Value.asStr? = some target →
    ∃ data, hexBytes (guardText raw) = .ok data ∧ ¬Offends safe maxDepth target data

/-- The guard reads a leg that cuts a character. -/
def Faults (raw : Value) : Prop :=
  ((raw.get? "to").bind Value.asStr?).isSome = true ∧ Cuts (guardText raw)

/-- No leg faults behind legs that pass. -/
def Clear (safe : String) (legs : List Value) : Prop :=
  ∀ before leg behind, legs = before ++ leg :: behind →
    (∀ earlier ∈ before, Passes safe earlier) → ¬Faults leg

theorem clear_cons {first : Value} {rest : List Value} :
    Clear safe (first :: rest) ↔ ¬Faults first ∧ (Passes safe first → Clear safe rest) := by
  constructor
  · intro clear
    refine ⟨clear [] first rest rfl nofun, ?_⟩
    rintro passes before leg behind rfl earlier
    exact clear (first :: before) leg behind rfl (List.forall_mem_cons.mpr ⟨passes, earlier⟩)
  · rintro ⟨fine, later⟩ (_ | ⟨_, before⟩) leg behind same passes
    · cases same
      exact fine
    · cases same
      have passed := List.forall_mem_cons.mp passes
      exact later passed.1 before leg behind rfl passed.2

theorem inspectLeg_ok_iff {index : Nat} {raw : Value} :
    (∃ verdict, inspectLeg safe (index, raw) = .ok verdict) ↔ ¬Faults raw := by
  unfold inspectLeg Faults
  cases (raw.get? "to").bind Value.asStr? with
  | none => simp
  | some target =>
    rw [Option.isSome_some, eq_self, true_and]
    exact inspectCall_ok_iff

theorem inspectLeg_none_iff {index : Nat} {raw : Value} :
    inspectLeg safe (index, raw) = .ok none ↔ Passes safe raw := by
  unfold inspectLeg Passes
  cases (raw.get? "to").bind Value.asStr? with
  | none => simp
  | some target =>
    change inspectCall safe _ _ false target (guardText raw) = _ ↔ _
    simp only [Option.some.injEq, forall_eq']
    cases read : hexBytes (guardText raw) with
    | error =>
      rw [maxDepth, inspectCall, inspectWith, read]
      simp
    | ok data =>
      obtain ⟨verdict, ended, refuses⟩ := @inspectCall_judges data (some (index + 1)) safe _
        target false maxDepth read
      rw [ended]
      cases verdict <;> simpa using refuses

theorem inspectLegs_ok_iff {legs : List Value} {index : Nat} :
    (∃ verdict, firstBlock (inspectLeg safe) ((legs.zipIdx index).map fun leg => (leg.2, leg.1)) =
      .ok verdict) ↔ Clear safe legs := by
  induction legs generalizing index with
  | nil => simp [firstBlock, Clear]
  | cons first rest ih =>
    rw [clear_cons, ← @inspectLeg_ok_iff safe index, ← @inspectLeg_none_iff safe index,
      List.zipIdx_cons, List.map_cons, firstBlock]
    dsimp only
    cases inspectLeg safe (index, first) with
    | error => simp
    | ok verdict =>
      cases verdict with
      | none => simp [ih]
      | some => simp

/-- The legs of a transaction that the guard goes through. -/
def guardedLegs (method : String) (params : Value) : List Value :=
  if method = "eth_sendTransaction" then (params.at? 0).toList
  else if method = "wallet_sendCalls" then
    (((params.at? 0).bind (·.get? "calls")).bind Value.asArray?).getD []
  else []

end VelaWallet.SelfCallGuard
