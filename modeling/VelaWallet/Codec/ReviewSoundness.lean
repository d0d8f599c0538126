import VelaWallet.Codec.CallData
import VelaWallet.Codec.SignedReview

/-!
# What is reviewed is what is signed

The decoder of the signed review accepts exactly the call data the canonical
encoding writes, so the check passes exactly the operations that make the
reviewed payments in order and nothing else, and the operations the submit path
builds from a review are among them.
-/

namespace VelaWallet.SignedReview

open Utf8 (bytes)
open Bytes (slice? beNat)
open Fallible (require orFail bind_ok exists_ok pure_ok)

variable {decoded : List Call} {data input : List UInt8} {value : Nat} {review : Review}
  {text : String} {callData packed : List UInt8} {start : Nat}

theorem word_ok {found : List UInt8} :
    word input start = .ok found ↔ slice? input start 32 = some found :=
  Fallible.orFail_ok

theorem wordAddress_ok :
    wordAddress input start = .ok text ↔
      ∃ account : Address, slice? input start 32 = some account.word ∧
        text = toHex account.bytes true := by
  unfold wordAddress
  rw [bind_ok]
  constructor
  · rintro ⟨found, read, rest⟩
    obtain ⟨_, clean, rest⟩ := bind_ok.mp rest
    have zeros := Fallible.require_ok.mp clean
    have present := word_ok.mp read
    have width := Bytes.slice?_length present
    have high : found.take 12 = List.replicate 12 0 := by
      apply List.eq_replicate_iff.mpr
      exact ⟨by rw [List.length_take, width]; rfl, zeros⟩
    have sized : (found.drop 12).length = 20 := by rw [List.length_drop, width]
    refine ⟨⟨found.drop 12, sized⟩, ?_, (pure_ok.mp rest).symm⟩
    rw [present, Address.word, ← high, List.take_append_drop]
  · rintro ⟨account, present, shown⟩
    have high : account.word.take 12 = List.replicate 12 0 :=
      List.take_left' List.length_replicate
    have low : account.word.drop 12 = account.bytes := List.drop_left' List.length_replicate
    refine ⟨account.word, word_ok.mpr present, bind_ok.mpr ⟨(), ?_, ?_⟩⟩
    · rw [Fallible.require_ok, high]
      intro byte member
      exact List.eq_of_mem_replicate member
    · rw [pure_ok, low, shown]

theorem wordSmall_ok :
    wordSmall input start = .ok value ↔
      value < 2 ^ 64 ∧ slice? input start 32 = some (Abi.word value) := by
  unfold wordSmall
  rw [bind_ok]
  constructor
  · intro ⟨found, read, rest⟩
    obtain ⟨_, small, rest⟩ := bind_ok.mp rest
    have present := word_ok.mp read
    obtain rfl := pure_ok.mp rest
    refine ⟨Fallible.require_ok.mp small, ?_⟩
    rw [present, Abi.word_beNat (Bytes.slice?_length present)]
  · intro ⟨small, present⟩
    have spelled : beNat (Abi.word value) = value :=
      Abi.beNat_word (Nat.lt_trans small (by decide))
    refine ⟨Abi.word value, word_ok.mpr present, bind_ok.mpr ⟨(), ?_, ?_⟩⟩
    · rw [Fallible.require_ok, spelled]
      exact small
    · rw [pure_ok, spelled]

/-- The tail reader accepts exactly data that is padded with zeros to the end of
the input. -/
theorem tail_ok {length : Nat} :
    tail input start length = .ok data ↔
      data.length = length ∧ start + length < 2 ^ 64 ∧ start ≤ input.length ∧
        input.drop start = data ++ List.replicate (Bytes.wordPadding length) 0 := by
  unfold tail
  rw [bind_ok]
  constructor
  · intro ⟨_, inRange, rest⟩
    obtain ⟨found, read, rest⟩ := bind_ok.mp rest
    obtain ⟨_, ends, rest⟩ := bind_ok.mp rest
    obtain rfl := pure_ok.mp rest
    have present := Fallible.orFail_ok.mp read
    obtain ⟨total, zeros⟩ := Fallible.require_ok.mp ends
    refine ⟨Bytes.slice?_length present, Fallible.require_ok.mp inRange, by omega, ?_⟩
    rw [Abi.drop_of_slice? present]
    congr 1
    apply List.eq_replicate_iff.mpr
    exact ⟨by rw [List.length_drop]; omega, zeros⟩
  · intro ⟨sized, inRange, inside, layout⟩
    have total := congrArg List.length layout
    rw [List.length_drop, List.length_append, List.length_replicate, sized] at total
    have present : slice? input start length = some data := by
      rw [Bytes.slice?_isSome (by omega), layout, List.take_left' sized]
    have rest : input.drop (start + length) = List.replicate (Bytes.wordPadding length) 0 := by
      rw [← List.drop_drop, layout, List.drop_left' sized]
    refine ⟨(), Fallible.require_ok.mpr inRange, bind_ok.mpr ⟨data, ?_, bind_ok.mpr ⟨(), ?_, rfl⟩⟩⟩
    · exact Fallible.orFail_ok.mpr present
    · rw [Fallible.require_ok, rest]
      exact ⟨by omega, fun byte member => List.eq_of_mem_replicate member⟩

/-- The words `executeUserOp` puts before its data. -/
def outerWords (target : Address) (value operation length : Nat) : List (List UInt8) :=
  [target.word, Abi.word value, Abi.word 128, Abi.word operation, Abi.word length]

theorem outerWords_sized {target : Address} {operation length : Nat} :
    ∀ word ∈ outerWords target value operation length, word.length = 32 := by
  simp [outerWords]

theorem executeUserOp_words (target : Address) (value operation : Nat) (data : List UInt8) :
    CallData.executeUserOp target value operation data =
      selectorOf executeUserOpSignature ++ ((outerWords target value operation data.length).flatten ++
        (data ++ List.replicate (Bytes.wordPadding data.length) 0)) := by
  simp [CallData.executeUserOp, outerWords, Abi.padded]

theorem executeUserOp_ok {target : String} {operation : UInt8} :
    executeUserOp callData = .ok (target, value, data, operation) ↔
      value < 2 ^ 256 ∧ operation.toNat ≤ 1 ∧ 160 + data.length < 2 ^ 64 ∧
        ∃ account : Address, target = toHex account.bytes true ∧
          callData = CallData.executeUserOp account value operation.toNat data := by
  unfold executeUserOp
  rw [functionSelector_eq]
  constructor
  · intro decoded
    obtain ⟨_, selectorRead, decoded⟩ := bind_ok.mp decoded
    cases selectorRead
    obtain ⟨_, opens, decoded⟩ := bind_ok.mp decoded
    obtain ⟨shown, targetRead, decoded⟩ := bind_ok.mp decoded
    obtain ⟨valueWord, valueRead, decoded⟩ := bind_ok.mp decoded
    obtain ⟨offset, offsetRead, decoded⟩ := bind_ok.mp decoded
    obtain ⟨_, standard, decoded⟩ := bind_ok.mp decoded
    obtain ⟨code, codeRead, decoded⟩ := bind_ok.mp decoded
    obtain ⟨_, known, decoded⟩ := bind_ok.mp decoded
    obtain ⟨length, lengthRead, decoded⟩ := bind_ok.mp decoded
    obtain ⟨found, dataRead, decoded⟩ := bind_ok.mp decoded
    have results := pure_ok.mp decoded
    simp only [Prod.mk.injEq] at results
    obtain ⟨rfl, rfl, rfl, rfl⟩ := results
    obtain ⟨account, targetWord, rfl⟩ := wordAddress_ok.mp targetRead
    have valueFound := word_ok.mp valueRead
    have valueWidth := Bytes.slice?_length valueFound
    obtain ⟨_, offsetWord⟩ := wordSmall_ok.mp offsetRead
    obtain rfl := Fallible.require_ok.mp standard
    obtain ⟨_, codeWord⟩ := wordSmall_ok.mp codeRead
    have small := Fallible.require_ok.mp known
    obtain ⟨_, lengthWord⟩ := wordSmall_ok.mp lengthRead
    obtain ⟨rfl, inRange, _, layout⟩ := tail_ok.mp dataRead
    have code_toNat : (UInt8.ofNat code).toNat = code := by
      rw [UInt8.toNat_ofNat']
      omega
    have valueFits := Bytes.beNat_lt valueWord
    rw [valueWidth] at valueFits
    refine ⟨by simpa using valueFits, by omega, inRange, account, rfl, ?_⟩
    have words : ∀ index word,
        (outerWords account (beNat valueWord) code found.length)[index]? = some word →
        slice? (callData.drop 4) (0 + 32 * index) 32 = some word := by
      intro index word placed
      match index, placed with
      | 0, rfl => exact targetWord
      | 1, rfl =>
        rw [Abi.word_beNat valueWidth]
        exact valueFound
      | 2, rfl => exact offsetWord
      | 3, rfl => exact codeWord
      | 4, rfl => exact lengthWord
    have head := Abi.drop_of_slice? (Fallible.require_ok.mp opens)
    have body := Abi.drop_of_words words
    rw [List.drop_zero] at head body
    rw [code_toNat, executeUserOp_words, head, body]
    exact congrArg _ (congrArg _ layout)
  · intro ⟨valueFits, small, inRange, account, shown, layout⟩
    have body : callData.drop 4 = (outerWords account value operation.toNat data.length).flatten ++
        (data ++ List.replicate (Bytes.wordPadding data.length) 0) := by
      rw [layout, executeUserOp_words, List.drop_left' (selectorOf_length _)]
    have placed : ∀ index word,
        (outerWords account value operation.toNat data.length)[index]? = some word →
        slice? (callData.drop 4) (32 * index) 32 = some word := by
      intro index word found
      rw [body]
      exact Abi.slice?_words outerWords_sized found
    have opens : slice? callData 0 4 = some (selectorOf executeUserOpSignature) := by
      rw [layout]
      exact Abi.slice?_head _ _ (selectorOf_length _)
    have ends : (callData.drop 4).drop 160 =
        data ++ List.replicate (Bytes.wordPadding data.length) 0 := by
      rw [body]
      exact Abi.drop_words outerWords_sized
    have long : 160 ≤ (callData.drop 4).length := by
      have := Abi.slice?_inside (placed 4 _ rfl)
      omega
    have code : UInt8.ofNat operation.toNat = operation := UInt8.ofNat_toNat
    rw [bind_ok]
    refine ⟨_, rfl, bind_ok.mpr ⟨(), Fallible.require_ok.mpr opens, ?_⟩⟩
    refine bind_ok.mpr ⟨target, wordAddress_ok.mpr ⟨account, placed 0 _ rfl, shown⟩, ?_⟩
    refine bind_ok.mpr ⟨Abi.word value, word_ok.mpr (placed 1 _ rfl), ?_⟩
    refine bind_ok.mpr ⟨128, wordSmall_ok.mpr ⟨by decide, placed 2 _ rfl⟩, ?_⟩
    refine bind_ok.mpr ⟨(), Fallible.require_ok.mpr rfl, ?_⟩
    refine bind_ok.mpr ⟨operation.toNat, wordSmall_ok.mpr ⟨by omega, placed 3 _ rfl⟩, ?_⟩
    refine bind_ok.mpr ⟨(), Fallible.require_ok.mpr small, ?_⟩
    refine bind_ok.mpr ⟨data.length, wordSmall_ok.mpr ⟨by omega, placed 4 _ rfl⟩, ?_⟩
    refine bind_ok.mpr ⟨data, tail_ok.mpr ⟨rfl, inRange, long, ends⟩, ?_⟩
    rw [pure_ok, Abi.beNat_word valueFits, code]

def callOf (record : PackedCall) : Call :=
  ⟨toHex record.target.bytes true, record.value, record.data⟩

theorem head_field {head : List UInt8} {width : Nat}
    (read : slice? packed 0 85 = some head) (inside : start + width ≤ 85) :
    slice? packed start width = some ((head.drop start).take width) := by
  have long := Abi.slice?_inside read
  rw [← Abi.slice?_eq read, List.drop_zero, List.drop_take, List.take_take,
    Nat.min_eq_left (by omega), Bytes.slice?_isSome (by omega)]

theorem packed_eq_nil {records : List PackedCall} :
    [] = PackedCall.packed records ↔ records = [] := by
  constructor
  · intro empty
    cases records with
    | nil => rfl
    | cons record =>
      have total := congrArg List.length empty
      rw [PackedCall.packed_cons, List.length_append, record.bytes_length, List.length_nil] at total
      omega
  · rintro rfl
    rfl

theorem packed_of_head {head : List UInt8} (read : slice? packed 0 85 = some head)
    (isCall : head.headD 0 = 0)
    (dataRead : slice? packed 85 (beNat ((head.drop 53).take 32)) = some data) :
    ∃ record : PackedCall, record.operation = 0 ∧
      record.target.bytes = (head.drop 1).take 20 ∧ record.value = beNat ((head.drop 21).take 32) ∧
      record.data = data ∧ packed = record.bytes ++ packed.drop (85 + data.length) := by
  have width := Bytes.slice?_length read
  have target := head_field read (show 1 + 20 ≤ 85 by decide)
  have value := head_field read (show 21 + 32 ≤ 85 by decide)
  have length := head_field read (show 53 + 32 ≤ 85 by decide)
  have valueWidth := Bytes.slice?_length value
  have valueFits := Bytes.beNat_lt ((head.drop 21).take 32)
  rw [valueWidth] at valueFits
  have dataWidth := Bytes.slice?_length dataRead
  have operation : slice? packed 0 1 = some [0] := by
    rw [head_field read (by decide), List.drop_zero]
    cases head with
    | nil => cases width
    | cons =>
      cases isCall
      rfl
  refine ⟨⟨0, ⟨(head.drop 1).take 20, Bytes.slice?_length target⟩, beNat ((head.drop 21).take 32),
    data, by simpa using valueFits⟩, rfl, rfl, rfl, rfl, ?_⟩
  have layout := Abi.drop_of_slice? operation
  rw [List.drop_zero, Nat.zero_add, Abi.drop_of_slice? target, Abi.drop_of_slice? value,
    Abi.drop_of_slice? length, Abi.drop_of_slice? dataRead, ← dataWidth] at layout
  rw [PackedCall.bytes, Abi.word_beNat valueWidth, dataWidth,
    Abi.word_beNat (Bytes.slice?_length length), ← dataWidth]
  simp only [List.append_assoc]
  exact layout

theorem packedCalls_ok {rounds : Nat} (enough : packed.length ≤ rounds)
    (short : packed.length < 2 ^ 64) :
    packedCalls rounds packed = .ok decoded ↔
      ∃ records : List PackedCall, (∀ record ∈ records, record.operation = 0) ∧
        packed = PackedCall.packed records ∧ decoded = records.map callOf := by
  induction rounds generalizing packed decoded with
  | zero =>
    obtain rfl := List.length_eq_zero_iff.mp (Nat.le_zero.mp enough)
    constructor
    · intro done
      exact ⟨[], by simp, rfl, (Except.ok.inj done).symm⟩
    · intro ⟨records, _, empty, shown⟩
      obtain rfl := packed_eq_nil.mp empty
      rw [shown]
      rfl
  | succ rounds ih =>
    rw [packedCalls]
    by_cases blank : packed = []
    · subst blank
      constructor
      · intro done
        exact ⟨[], by simp, rfl, (Except.ok.inj done).symm⟩
      · intro ⟨records, _, empty, shown⟩
        obtain rfl := packed_eq_nil.mp empty
        rw [shown]
        rfl
    · rw [if_neg (by simpa using blank)]
      constructor
      · intro done
        obtain ⟨head, headRead, done⟩ := bind_ok.mp done
        obtain ⟨_, isCall, done⟩ := bind_ok.mp done
        obtain ⟨_, inRange, done⟩ := bind_ok.mp done
        obtain ⟨data, dataRead, done⟩ := bind_ok.mp done
        obtain ⟨later, laterRead, done⟩ := bind_ok.mp done
        obtain rfl := pure_ok.mp done
        have found := Fallible.orFail_ok.mp dataRead
        obtain ⟨record, operation, target, value, kept, layout⟩ :=
          packed_of_head (Fallible.orFail_ok.mp headRead) (Fallible.require_ok.mp isCall) found
        rw [← Bytes.slice?_length found] at laterRead
        obtain ⟨records, calls, rest, rfl⟩ :=
          (ih (by rw [List.length_drop]; omega) (by rw [List.length_drop]; omega)).mp laterRead
        refine ⟨record :: records, ?_, ?_, ?_⟩
        · simpa [operation] using calls
        · rw [PackedCall.packed_cons, ← rest]
          exact layout
        · rw [List.map_cons, callOf, target, value, kept]
      · intro ⟨records, calls, layout, shown⟩
        cases records with
        | nil => exact (blank layout).elim
        | cons record records =>
          rw [PackedCall.packed_cons] at layout
          have total := congrArg List.length layout
          rw [List.length_append, record.bytes_length] at total
          have read : slice? packed 0 85 = some (packed.take 85) := by
            rw [Bytes.slice?_isSome (by omega), List.drop_zero]
          have isCall : (packed.take 85).headD 0 = 0 := by
            rw [layout]
            exact calls record List.mem_cons_self
          have target : ((packed.take 85).drop 1).take 20 = record.target.bytes := by
            apply Option.some.inj
            rw [← head_field read (by decide), layout, record.slice?_target]
          have value : ((packed.take 85).drop 21).take 32 = Abi.word record.value := by
            apply Option.some.inj
            rw [← head_field read (by decide), layout, record.slice?_value]
          have length : beNat (((packed.take 85).drop 53).take 32) = record.data.length := by
            have field : ((packed.take 85).drop 53).take 32 = Abi.word record.data.length := by
              apply Option.some.inj
              rw [← head_field read (by decide), layout, record.slice?_length]
            rw [field, Abi.beNat_word (Nat.lt_trans (by omega) (show 2 ^ 64 < 2 ^ 256 by decide))]
          have data : slice? packed 85 record.data.length = some record.data := by
            rw [layout, record.slice?_data]
          have rest : packed.drop (85 + record.data.length) = PackedCall.packed records := by
            rw [layout, record.drop_bytes]
          have later : packedCalls rounds (PackedCall.packed records) =
              .ok (records.map callOf) := by
            apply (ih (by omega) (by omega)).mpr
            exact ⟨records, fun other member => calls other (List.mem_cons_of_mem _ member),
              rfl, rfl⟩
          refine bind_ok.mpr ⟨packed.take 85, Fallible.orFail_ok.mpr read, ?_⟩
          refine bind_ok.mpr ⟨(), Fallible.require_ok.mpr isCall, ?_⟩
          rw [length]
          dsimp only
          rw [rest, later, target, value, Abi.beNat_word record.value_lt]
          refine bind_ok.mpr ⟨(), Fallible.require_ok.mpr (by omega), ?_⟩
          refine bind_ok.mpr ⟨record.data, Fallible.orFail_ok.mpr data, ?_⟩
          rw [shown]
          rfl

theorem multiSend_words (records : List PackedCall) :
    CallData.multiSend records = selectorOf multiSendSignature ++
      ([Abi.word 32, Abi.word (PackedCall.packed records).length].flatten ++
        (PackedCall.packed records ++
          List.replicate (Bytes.wordPadding (PackedCall.packed records).length) 0)) := by
  simp [CallData.multiSend, Abi.padded]

theorem multiSend_ok {payload : List UInt8} (short : payload.length < 2 ^ 64) :
    multiSend payload = .ok decoded ↔
      ∃ records : List PackedCall, (∀ record ∈ records, record.operation = 0) ∧
        payload = CallData.multiSend records ∧ decoded = records.map callOf := by
  unfold multiSend
  rw [functionSelector_eq]
  constructor
  · intro done
    obtain ⟨_, selectorRead, done⟩ := bind_ok.mp done
    cases selectorRead
    obtain ⟨_, opens, done⟩ := bind_ok.mp done
    obtain ⟨offset, offsetRead, done⟩ := bind_ok.mp done
    obtain ⟨_, standard, done⟩ := bind_ok.mp done
    obtain ⟨length, lengthRead, done⟩ := bind_ok.mp done
    obtain ⟨packed, packedRead, walked⟩ := bind_ok.mp done
    obtain ⟨_, offsetWord⟩ := wordSmall_ok.mp offsetRead
    obtain rfl := Fallible.require_ok.mp standard
    obtain ⟨_, lengthWord⟩ := wordSmall_ok.mp lengthRead
    obtain ⟨rfl, inRange, _, layout⟩ := tail_ok.mp packedRead
    obtain ⟨records, calls, rfl, shown⟩ := (packedCalls_ok (Nat.le_refl _) (by omega)).mp walked
    have words : ∀ index word,
        [Abi.word 32, Abi.word (PackedCall.packed records).length][index]? = some word →
        slice? (payload.drop 4) (0 + 32 * index) 32 = some word := by
      intro index word placed
      match index, placed with
      | 0, rfl => exact offsetWord
      | 1, rfl => exact lengthWord
    have head := Abi.drop_of_slice? (Fallible.require_ok.mp opens)
    have body := Abi.drop_of_words words
    rw [List.drop_zero] at head body
    refine ⟨records, calls, ?_, shown⟩
    rw [multiSend_words, head, body]
    exact congrArg _ (congrArg _ layout)
  · intro ⟨records, calls, layout, shown⟩
    have bound := CallData.length_lt_multiSend records
    rw [← layout] at bound
    have body : payload.drop 4 = [Abi.word 32, Abi.word (PackedCall.packed records).length].flatten ++
        (PackedCall.packed records ++
          List.replicate (Bytes.wordPadding (PackedCall.packed records).length) 0) := by
      rw [layout, multiSend_words, List.drop_left' (selectorOf_length _)]
    have sized : ∀ word ∈ [Abi.word 32, Abi.word (PackedCall.packed records).length],
        word.length = 32 := by simp
    have placed : ∀ index word,
        [Abi.word 32, Abi.word (PackedCall.packed records).length][index]? = some word →
        slice? (payload.drop 4) (32 * index) 32 = some word := by
      intro index word found
      rw [body]
      exact Abi.slice?_words sized found
    have opens : slice? payload 0 4 = some (selectorOf multiSendSignature) := by
      rw [layout]
      exact Abi.slice?_head _ _ (selectorOf_length _)
    have ends : (payload.drop 4).drop 64 = PackedCall.packed records ++
        List.replicate (Bytes.wordPadding (PackedCall.packed records).length) 0 := by
      rw [body]
      exact Abi.drop_words sized
    have long : 64 ≤ (payload.drop 4).length := by
      have := Abi.slice?_inside (placed 1 _ rfl)
      omega
    refine bind_ok.mpr ⟨_, rfl, bind_ok.mpr ⟨(), Fallible.require_ok.mpr opens, ?_⟩⟩
    refine bind_ok.mpr ⟨32, wordSmall_ok.mpr ⟨by decide, placed 0 _ rfl⟩, ?_⟩
    refine bind_ok.mpr ⟨(), Fallible.require_ok.mpr rfl, ?_⟩
    refine bind_ok.mpr ⟨_, wordSmall_ok.mpr ⟨by omega, placed 1 _ rfl⟩, ?_⟩
    refine bind_ok.mpr ⟨_, tail_ok.mpr ⟨rfl, by omega, long, ends⟩, ?_⟩
    exact (packedCalls_ok (Nat.le_refl _) (by omega)).mpr ⟨records, calls, rfl, shown⟩

theorem address_ok {shown : String} :
    address text = .ok shown ↔
      ∃ account, parseAddress (Utf8.trim text) = .ok account ∧ shown = toHex account.bytes true := by
  unfold address
  rw [bind_ok]
  apply exists_congr
  intro account
  rw [pure_ok]
  apply and_congr_right
  intro _
  exact eq_comm

theorem address_multiSend : address Safe.multiSend = .ok (toHex multiSendContract.bytes true) := by
  apply address_ok.mpr
  rw [parseAddress_trim parseAddress_multiSend]
  exact ⟨multiSendContract, parseAddress_multiSend, rfl⟩

/-- The call data is the canonical encoding of the given CALL records: of a lone
one, or of the batch. -/
def Encodes (callData : List UInt8) (records : List PackedCall) : Prop :=
  (∀ record ∈ records, record.operation = 0) ∧
    ((∃ only, records = [only] ∧
        callData = CallData.executeUserOp only.target only.value 0 only.data) ∨
      callData = CallData.batch multiSendContract records)

theorem calls_ok (short : callData.length < 2 ^ 63) :
    calls callData = .ok decoded ↔
      ∃ records, Encodes callData records ∧ decoded = records.map callOf := by
  unfold calls
  rw [bind_ok]
  constructor
  · rintro ⟨⟨target, value, data, operation⟩, outer, rest⟩
    obtain ⟨fits, code, _, account, rfl, layout⟩ := executeUserOp_ok.mp outer
    dsimp only at rest
    split at rest
    case isTrue lone =>
      subst lone
      refine ⟨[⟨0, account, value, data, fits⟩], ⟨by simp, Or.inl ⟨_, rfl, layout⟩⟩, ?_⟩
      exact (pure_ok.mp rest).symm
    case isFalse delegated =>
      have nonzero : operation.toNat ≠ 0 := fun zero => delegated (UInt8.toNat_inj.mp zero)
      have one : operation.toNat = 1 := by omega
      rw [address_multiSend] at rest
      obtain ⟨_, contractRead, rest⟩ := bind_ok.mp rest
      cases contractRead
      obtain ⟨_, named, rest⟩ := bind_ok.mp rest
      obtain ⟨contract, rfl⟩ := Fallible.require_ok.mp named
      obtain rfl : account = multiSendContract := Address.ext_bytes (toHex_injective contract)
      have long := CallData.length_lt_executeUserOp multiSendContract 0 operation.toNat data
      rw [← layout] at long
      obtain ⟨records, plain, rfl, shown⟩ := (multiSend_ok (by omega)).mp rest
      refine ⟨records, ⟨plain, Or.inr ?_⟩, shown⟩
      rw [layout, one, CallData.batch]
  · rintro ⟨records, ⟨plain, layout⟩, shown⟩
    rcases layout with ⟨only, rfl, layout⟩ | layout
    · have long := CallData.length_lt_executeUserOp only.target only.value 0 only.data
      rw [← layout] at long
      refine ⟨(toHex only.target.bytes true, only.value, only.data, 0), ?_, ?_⟩
      · apply executeUserOp_ok.mpr
        exact ⟨only.value_lt, by decide, by omega, only.target, rfl, layout⟩
      · rw [shown]
        rfl
    · have long := CallData.length_lt_executeUserOp multiSendContract 0 1
        (CallData.multiSend records)
      rw [← CallData.batch, ← layout] at long
      refine ⟨(toHex multiSendContract.bytes true, 0, CallData.multiSend records, 1), ?_, ?_⟩
      · apply executeUserOp_ok.mpr
        exact ⟨by decide, by decide, by omega, multiSendContract, rfl, layout⟩
      · dsimp only
        rw [if_neg (by decide), address_multiSend]
        refine bind_ok.mpr ⟨_, rfl, bind_ok.mpr ⟨(), Fallible.require_ok.mpr ⟨rfl, rfl⟩, ?_⟩⟩
        exact (multiSend_ok (by omega)).mpr ⟨records, plain, rfl, shown⟩

/-- A payment: an amount of a token, or of the native coin, to a recipient. -/
structure Payment where
  recipient : Address
  token : Option Address
  amount : Nat
  amount_lt : amount < 2 ^ 256

namespace Payment

def record (payment : Payment) : PackedCall :=
  match payment.token with
  | none => ⟨0, payment.recipient, payment.amount, [], payment.amount_lt⟩
  | some token => ⟨0, token, 0, CallData.transfer payment.recipient payment.amount,
    PackedCall.zero_lt⟩

/-- The payment as the review compares it. -/
def leg (payment : Payment) : Leg :=
  ⟨toHex payment.recipient.bytes true, payment.token.map (toHex ·.bytes true), payment.amount⟩

@[simp] theorem record_operation (payment : Payment) : payment.record.operation = 0 := by
  unfold record
  split <;> rfl

theorem leg_injective {left right : Payment} (equal : left.leg = right.leg) : left = right := by
  obtain ⟨recipient, token, amount, fits⟩ := left
  obtain ⟨recipient', token', amount', fits'⟩ := right
  simp only [leg, Leg.mk.injEq] at equal
  obtain ⟨recipients, tokens, rfl⟩ := equal
  obtain rfl := Address.ext_bytes (toHex_injective recipients)
  have sameToken : token = token' := by
    apply Option.map_injective _ tokens
    intro first second equal
    exact Address.ext_bytes (toHex_injective equal)
  subst sameToken
  rfl

end Payment

theorem transfer_words {data : List UInt8} {recipient : Address} {amount : Nat} :
    data = CallData.transfer recipient amount ↔
      data.length = 68 ∧ data.take 4 = selectorOf transferSignature ∧
        slice? data 4 32 = some recipient.word ∧ slice? data 36 32 = some (Abi.word amount) := by
  constructor
  · rintro rfl
    refine ⟨CallData.transfer_length recipient amount, ?_, ?_, ?_⟩
    · exact List.take_left' (selectorOf_length _)
    · exact Abi.slice?_field _ _ _ (selectorOf_length _) recipient.word_length
    · rw [CallData.transfer, ← List.append_assoc, ← List.append_nil (Abi.word amount)]
      exact Abi.slice?_field _ _ _ (by simp) (Abi.word_length amount)
  · rintro ⟨length, opens, recipientWord, amountWord⟩
    have ends : data.drop 68 = [] := List.drop_eq_nil_of_le (Nat.le_of_eq length)
    have body := Abi.drop_of_slice? recipientWord
    rw [Abi.drop_of_slice? amountWord, ends, List.append_nil] at body
    rw [CallData.transfer, ← body, ← opens, List.take_append_drop]

theorem transfer_ne_nil (recipient : Address) (amount : Nat) :
    (CallData.transfer recipient amount).isEmpty = false := by
  rw [List.isEmpty_eq_false_iff, ← List.length_pos_iff, CallData.transfer_length]
  decide

theorem asLeg_ok {record : PackedCall} (isCall : record.operation = 0) {shown : Leg} :
    asLeg (callOf record) = .ok shown ↔
      ∃ payment : Payment, record = payment.record ∧ shown = payment.leg := by
  obtain ⟨operation, target, value, data, fits⟩ := record
  cases isCall
  unfold asLeg callOf
  dsimp only
  constructor
  · intro read
    split at read
    case isTrue blank =>
      obtain rfl := List.isEmpty_iff.mp blank
      exact ⟨⟨target, none, value, fits⟩, rfl, (Except.ok.inj read).symm⟩
    case isFalse filled =>
      rw [functionSelector_eq] at read
      obtain ⟨_, selectorRead, chosen⟩ := bind_ok.mp read
      cases selectorRead
      split at chosen
      case isFalse => cases chosen
      case isTrue shape =>
        obtain ⟨length, opens, free⟩ := shape
        subst free
        obtain ⟨text, recipientRead, inner⟩ := bind_ok.mp chosen
        obtain ⟨amountWord, amountRead, last⟩ := bind_ok.mp inner
        obtain ⟨recipient, recipientWord, rfl⟩ := wordAddress_ok.mp recipientRead
        have amountFound := word_ok.mp amountRead
        have width := Bytes.slice?_length amountFound
        have amountFits := Bytes.beNat_lt amountWord
        rw [width] at amountFits
        refine ⟨⟨recipient, some target, beNat amountWord, by simpa using amountFits⟩, ?_, ?_⟩
        · have layout : data = CallData.transfer recipient (beNat amountWord) := by
            rw [transfer_words, Abi.word_beNat width]
            exact ⟨length, opens, recipientWord, amountFound⟩
          subst layout
          rfl
        · exact (pure_ok.mp last).symm
  · intro ⟨⟨recipient, token, amount, amountFits⟩, made, shown⟩
    cases token with
    | none =>
      cases made
      rw [shown]
      rfl
    | some =>
      cases made
      obtain ⟨length, opens, recipientWord, amountWord⟩ :=
        (@transfer_words _ recipient amount).mp rfl
      rw [transfer_ne_nil, if_neg (by decide), functionSelector_eq]
      refine bind_ok.mpr ⟨_, rfl, ?_⟩
      rw [if_pos ⟨length, opens, rfl⟩]
      refine bind_ok.mpr ⟨_, wordAddress_ok.mpr ⟨recipient, recipientWord, rfl⟩, ?_⟩
      refine bind_ok.mpr ⟨_, word_ok.mpr amountWord, ?_⟩
      rw [pure_ok, Abi.beNat_word amountFits, shown]
      rfl

structure Row where
  target : String
  token : Option String
  amount : String

/-- The rows in order: the transfers, then the fee. -/
def Review.rows (review : Review) : List Row :=
  (review.transfers.map fun transfer => ⟨transfer.target, transfer.token, transfer.amount⟩) ++
    review.fee.toList.map fun fee => ⟨fee.recipient, fee.token, fee.amount⟩

structure Names (row : Row) (payment : Payment) : Prop where
  recipient : parseAddress (Utf8.trim row.target) = .ok payment.recipient
  token : row.token.map (fun text => parseAddress (Utf8.trim text)) = payment.token.map Except.ok
  amount : Decimal.fromStrRadix10 (bytes (Utf8.trim row.amount)) = some payment.amount

def Shows (review : Review) (payments : List Payment) : Prop :=
  List.Forall₂ Names review.rows payments

theorem amount_ok [RadixErrors] :
    amount text = .ok value ↔ Decimal.fromStrRadix10 (bytes (Utf8.trim text)) = some value := by
  unfold amount
  exact Fallible.orFail_ok

theorem token_ok {token shown : Option String} :
    token.mapM address = .ok shown ↔
      ∃ paid : Option Address,
        token.map (fun text => parseAddress (Utf8.trim text)) = paid.map Except.ok ∧
          shown = paid.map (toHex ·.bytes true) := by
  cases token with
  | none =>
    rw [Option.mapM_none, pure_ok]
    constructor
    · rintro rfl
      exact ⟨none, rfl, rfl⟩
    · intro ⟨paid, absent, shown⟩
      cases paid with
      | none => exact shown.symm
      | some => cases absent
  | some text =>
    rw [Option.mapM_some, map_eq_pure_bind, bind_ok]
    constructor
    · intro ⟨shownText, read, kept⟩
      obtain ⟨account, accountRead, rfl⟩ := address_ok.mp read
      refine ⟨some account, ?_, (pure_ok.mp kept).symm⟩
      rw [Option.map_some, accountRead]
      rfl
    · intro ⟨paid, present, shown⟩
      cases paid with
      | none => cases present
      | some account =>
        have accountRead : parseAddress (Utf8.trim text) = .ok account :=
          Option.some.inj present
        exact ⟨_, address_ok.mpr ⟨account, accountRead, rfl⟩, pure_ok.mpr shown.symm⟩

theorem leg_ok [RadixErrors] {row : Row} {shown : Leg} :
    leg row.target row.token row.amount = .ok shown ↔
      ∃ payment, Names row payment ∧ shown = payment.leg := by
  unfold leg
  constructor
  · intro read
    obtain ⟨targetText, targetRead, read⟩ := bind_ok.mp read
    obtain ⟨tokenText, tokenRead, read⟩ := bind_ok.mp read
    obtain ⟨value, valueRead, read⟩ := bind_ok.mp read
    obtain ⟨recipient, recipientRead, rfl⟩ := address_ok.mp targetRead
    obtain ⟨paid, tokens, rfl⟩ := token_ok.mp tokenRead
    have valueFound := amount_ok.mp valueRead
    have fits := Decimal.fromStrRadix10_lt valueFound
    exact ⟨⟨recipient, paid, value, fits⟩, ⟨recipientRead, tokens, valueFound⟩,
      (pure_ok.mp read).symm⟩
  · intro ⟨payment, names, shown⟩
    refine bind_ok.mpr ⟨_, address_ok.mpr ⟨payment.recipient, names.recipient, rfl⟩, ?_⟩
    refine bind_ok.mpr ⟨_, token_ok.mpr ⟨payment.token, names.token, rfl⟩, ?_⟩
    refine bind_ok.mpr ⟨_, amount_ok.mpr names.amount, ?_⟩
    rw [pure_ok, shown]
    rfl

theorem legs_eq_mapM [RadixErrors] (review : Review) :
    review.legs = review.rows.mapM fun row => leg row.target row.token row.amount := by
  have transfers : (review.transfers.map fun transfer =>
        Row.mk transfer.target transfer.token transfer.amount).mapM
          (fun row => leg row.target row.token row.amount) =
      review.transfers.mapM fun transfer =>
        leg transfer.target transfer.token transfer.amount := by
    rw [List.mapM_map]
    rfl
  unfold Review.legs Review.rows
  rw [List.mapM_append, transfers]
  congr 1
  funext shown
  cases review.fee with
  | none => simp
  | some => simp

theorem legs_ok [RadixErrors] {shown : List Leg} :
    review.legs = .ok shown ↔
      ∃ payments, Shows review payments ∧ shown = payments.map Payment.leg := by
  unfold Shows
  rw [legs_eq_mapM, Fallible.mapM_ok, ← Fallible.forall₂_exists]
  simp only [leg_ok]

theorem made_ok {records : List PackedCall} (plain : ∀ record ∈ records, record.operation = 0)
    {made : List Leg} :
    (records.map callOf).mapM asLeg = .ok made ↔
      ∃ payments : List Payment, records = payments.map Payment.record ∧
        made = payments.map Payment.leg := by
  rw [Fallible.mapM_ok, List.forall₂_map_left_iff]
  constructor
  · intro related
    induction related with
    | nil => exact ⟨[], rfl, rfl⟩
    | cons head _ ih =>
      obtain ⟨payment, rfl, rfl⟩ := (asLeg_ok (plain _ List.mem_cons_self)).mp head
      obtain ⟨payments, rfl, rfl⟩ := ih fun record member =>
        plain record (List.mem_cons_of_mem _ member)
      exact ⟨payment :: payments, rfl, rfl⟩
  · intro ⟨payments, paid, shown⟩
    subst paid shown
    clear plain
    induction payments with
    | nil => exact .nil
    | cons payment _ ih =>
      exact .cons ((asLeg_ok payment.record_operation).mpr ⟨payment, rfl, rfl⟩) ih

theorem firstDifference_ok {index : Nat} {made shown : List Leg}
    (lengths : made.length = shown.length) :
    firstDifference index (made.zip shown) = .ok () ↔ made = shown := by
  induction made generalizing index shown with
  | nil =>
    obtain rfl := List.length_eq_zero_iff.mp lengths.symm
    exact ⟨fun _ => rfl, fun _ => rfl⟩
  | cons _ _ ih =>
    cases shown with
    | nil => cases lengths
    | cons =>
      rw [List.zip_cons_cons, firstDifference, List.cons.injEq]
      split
      case isTrue same =>
        rw [ih (Nat.succ.inj lengths)]
        simp [same]
      case isFalse differ => simp [differ]

/-- The operation is the reviewed transfer: the chain and the account are the
review's, and the call data encodes the calls of the payments shown, in order. -/
structure Reviewed (op : UserOperation) (chainId : UInt64) (review : Review) : Prop where
  chain : review.chainId.toUInt64 = chainId
  account : ∃ account, parseAddress (Utf8.trim op.sender) = .ok account ∧
    parseAddress (Utf8.trim review.account) = .ok account
  payments : ∃ payments, Shows review payments ∧
    Encodes op.callData.bytes (payments.map Payment.record)

theorem check_ok [RadixErrors] {op : UserOperation} {chainId : UInt64} :
    check op chainId review = .ok () ↔ Reviewed op chainId review := by
  unfold check
  constructor
  · intro passed
    obtain ⟨_, chain, passed⟩ := bind_ok.mp passed
    obtain ⟨sender, senderRead, passed⟩ := bind_ok.mp passed
    obtain ⟨account, accountRead, passed⟩ := bind_ok.mp passed
    obtain ⟨_, same, passed⟩ := bind_ok.mp passed
    obtain ⟨decoded, decodedRead, passed⟩ := bind_ok.mp passed
    obtain ⟨made, madeRead, passed⟩ := bind_ok.mp passed
    obtain ⟨shown, shownRead, passed⟩ := bind_ok.mp passed
    obtain ⟨_, lengths, passed⟩ := bind_ok.mp passed
    have sameLength := Fallible.require_ok.mp lengths
    have equal : made = shown := by
      apply (firstDifference_ok sameLength).mp
      split at passed
      case h_1 matched => exact matched
      case h_2 => cases passed
    obtain ⟨own, ownRead, rfl⟩ := address_ok.mp senderRead
    obtain ⟨reviewed, reviewedRead, rfl⟩ := address_ok.mp accountRead
    obtain rfl := Address.ext_bytes (toHex_injective (Fallible.require_ok.mp same))
    obtain ⟨records, encodes, rfl⟩ := (calls_ok op.callData.length_lt).mp decodedRead
    obtain ⟨payments, rfl, rfl⟩ := (made_ok encodes.1).mp madeRead
    obtain ⟨named, shows, legs⟩ := legs_ok.mp shownRead
    have injective : Function.Injective (List.map Payment.leg) :=
      List.map_injective_iff.mpr fun _ _ => Payment.leg_injective
    have samePayments : payments = named := injective (equal.trans legs)
    exact ⟨Fallible.require_ok.mp chain, ⟨own, ownRead, reviewedRead⟩, payments,
      samePayments ▸ shows, encodes⟩
  · intro ⟨chain, ⟨account, senderRead, accountRead⟩, payments, shows, encodes⟩
    refine bind_ok.mpr ⟨(), Fallible.require_ok.mpr chain, ?_⟩
    refine bind_ok.mpr ⟨_, address_ok.mpr ⟨account, senderRead, rfl⟩, ?_⟩
    refine bind_ok.mpr ⟨_, address_ok.mpr ⟨account, accountRead, rfl⟩, ?_⟩
    refine bind_ok.mpr ⟨(), Fallible.require_ok.mpr rfl, ?_⟩
    refine bind_ok.mpr ⟨_, (calls_ok op.callData.length_lt).mpr ⟨_, encodes, rfl⟩, ?_⟩
    refine bind_ok.mpr ⟨_, (made_ok encodes.1).mpr ⟨payments, rfl, rfl⟩, ?_⟩
    refine bind_ok.mpr ⟨_, legs_ok.mpr ⟨payments, shows, rfl⟩, ?_⟩
    refine bind_ok.mpr ⟨(), Fallible.require_ok.mpr rfl, ?_⟩
    rw [(firstDifference_ok rfl).mpr rfl]
    rfl

/-- The call the submit path makes for a row: the amount in base units, as a
native value or as a token's `transfer`. -/
def PaysBy (row : Row) (call : MultiSendCall) : Prop :=
  ∃ amount < 2 ^ 128, Decimal.fromStrRadix10 (bytes (Utf8.trim row.amount)) = some amount ∧
    buildInBandFeeLeg row.token row.target amount = .ok call

/-- The call data is built from the review: its transfers, and its fee as the
in-band leg behind them. -/
def Built [RadixErrors] (review : Review) (callData : List UInt8) : Prop :=
  ∃ inner, List.Forall₂ (fun transfer => PaysBy ⟨transfer.target, transfer.token, transfer.amount⟩)
      review.transfers inner ∧
    match review.fee with
    | some fee => ∃ amount < 2 ^ 128, ∃ calls,
        Decimal.fromStrRadix10 (bytes (Utf8.trim fee.amount)) = some amount ∧
        inBandBatch inner fee.token fee.recipient amount = .ok calls ∧
        buildMultiSendExecuteCallData calls = .ok callData
    | none => ∃ alwaysMultiSend, buildNativeCallData inner alwaysMultiSend = .ok callData

/-- The call made for a row, once encoded, is the record of the payment the row
names. -/
theorem payment_of_call [RadixErrors] {row : Row} {call : MultiSendCall} (pays : PaysBy row call) :
    (∀ record, encodeMultiSendCall call = .ok record →
        ∃ payment, Names row payment ∧ record = payment.record.bytes) ∧
      ∀ callData, buildExecuteCallData call.target call.valueHex call.data = .ok callData →
        callData.length < 2 ^ 63 → ∃ payment, Names row payment ∧
          callData = CallData.executeUserOp payment.record.target payment.record.value 0
            payment.record.data := by
  obtain ⟨amount, small, amountRead, made⟩ := pays
  have fits : amount < 2 ^ 256 := Nat.lt_trans small (by decide)
  obtain ⟨target, token, amountText⟩ := row
  cases token with
  | none =>
    cases made
    have named : ∀ account, parseAddress target = .ok account →
        Names ⟨target, none, amountText⟩ ⟨account, none, amount, fits⟩ := fun account read =>
      ⟨(parseAddress_trim read).symm ▸ read, rfl, amountRead⟩
    constructor
    · intro record encoded
      obtain ⟨account, read, rfl⟩ :=
        encodeMultiSendCall_ok (stripMark_lowerHex amount) fits (by decide) encoded
      exact ⟨_, named account read, rfl⟩
    · intro callData built short
      obtain ⟨account, read, rfl⟩ :=
        buildExecuteCallData_ok (abiEncodeUint256_lowerHex fits) built short
      exact ⟨_, named account read, rfl⟩
  | some token =>
    obtain ⟨data, encodedData, kept⟩ := bind_ok.mp made
    obtain rfl := pure_ok.mp kept
    unfold encodeErc20Transfer at encodedData
    rw [functionSelector_eq, abiEncodeAddress_eq] at encodedData
    obtain ⟨_, selectorRead, encodedData⟩ := bind_ok.mp encodedData
    cases selectorRead
    obtain ⟨word, wordRead, encodedData⟩ := bind_ok.mp encodedData
    cases read : parseAddress target with
    | error =>
      rw [read] at wordRead
      cases wordRead
    | ok recipient =>
      rw [read] at wordRead
      cases wordRead
      have written : data = CallData.transfer recipient amount := by
        rw [← pure_ok.mp encodedData, CallData.transfer, wordU128_eq small, List.append_assoc]
      subst written
      have named : ∀ account, parseAddress token = .ok account →
          Names ⟨target, some token, amountText⟩ ⟨recipient, some account, amount, fits⟩ := by
        intro account tokenRead
        refine ⟨(parseAddress_trim read).symm ▸ read, ?_, amountRead⟩
        rw [Option.map_some, parseAddress_trim tokenRead, tokenRead]
        rfl
      have short : (CallData.transfer recipient amount).length < 2 ^ 128 := by
        rw [CallData.transfer_length]
        decide
      constructor
      · intro record encoded
        obtain ⟨account, tokenRead, rfl⟩ :=
          @encodeMultiSendCall_ok 0 _ _ _ _ _ (by decide) (by decide) short encoded
        exact ⟨_, named account tokenRead, rfl⟩
      · intro callData built bound
        obtain ⟨account, tokenRead, rfl⟩ :=
          @buildExecuteCallData_ok 0 _ _ _ _ _ (abiEncodeUint256_hexDigits (by decide)) built bound
        exact ⟨_, named account tokenRead, rfl⟩

theorem payments_of_calls [RadixErrors] {rows : List Row} {calls : List MultiSendCall}
    {encoded : List (List UInt8)} (paid : List.Forall₂ PaysBy rows calls)
    (written : List.Forall₂ (fun call bytes => encodeMultiSendCall call = .ok bytes) calls encoded) :
    ∃ payments, List.Forall₂ Names rows payments ∧
      List.Forall₂ (fun call record => encodeMultiSendCall call = .ok record.bytes) calls
        (payments.map Payment.record) := by
  induction paid generalizing encoded with
  | nil => exact ⟨[], .nil, .nil⟩
  | cons head _ ih =>
    cases written with
    | cons headWritten tailWritten =>
      obtain ⟨payment, names, rfl⟩ := (payment_of_call head).1 _ headWritten
      obtain ⟨payments, allNamed, meant⟩ := ih tailWritten
      exact ⟨payment :: payments, .cons names allNamed, .cons headWritten meant⟩

/-- Call data built of calls that pay the rows encodes the payments the rows
name. -/
theorem encodes_of_calls [RadixErrors] {rows : List Row} {calls : List MultiSendCall}
    (paid : List.Forall₂ PaysBy rows calls) {alwaysMultiSend : Bool}
    (built : buildNativeCallData calls alwaysMultiSend = .ok callData)
    (short : callData.length < 2 ^ 63) :
    ∃ payments, List.Forall₂ Names rows payments ∧
      Encodes callData (payments.map Payment.record) := by
  have plain : ∀ payments : List Payment,
      ∀ record ∈ payments.map Payment.record, record.operation = 0 := by
    intro payments record member
    obtain ⟨payment, _, rfl⟩ := List.mem_map.mp member
    exact payment.record_operation
  unfold buildNativeCallData at built
  split at built
  case h_1 =>
    cases paid with
    | cons head tail =>
      cases tail
      obtain ⟨payment, names, layout⟩ := (payment_of_call head).2 _ built short
      exact ⟨[payment], .cons names .nil, plain [payment], Or.inl ⟨_, rfl, layout⟩⟩
  case h_2 =>
    obtain ⟨encoded, encodedAll, _⟩ := bind_ok.mp built
    obtain ⟨payments, names, meant⟩ := payments_of_calls paid (Fallible.mapM_ok.mp encodedAll)
    exact ⟨payments, names, plain payments,
      Or.inr (buildMultiSendExecuteCallData_ok meant built short)⟩

theorem encodes_of_built [RadixErrors]
    (built : Built review callData) (short : callData.length < 2 ^ 63) :
    ∃ payments, Shows review payments ∧ Encodes callData (payments.map Payment.record) := by
  obtain ⟨inner, paid, finished⟩ := built
  have rows : List.Forall₂ PaysBy (review.transfers.map fun transfer =>
      ⟨transfer.target, transfer.token, transfer.amount⟩) inner := by
    rw [List.forall₂_map_left_iff]
    exact paid
  unfold Shows Review.rows
  cases hasFee : review.fee with
  | none =>
    rw [hasFee] at finished
    obtain ⟨alwaysMultiSend, made⟩ := finished
    rw [Option.toList_none, List.map_nil, List.append_nil]
    exact encodes_of_calls rows made short
  | some fee =>
    rw [hasFee] at finished
    obtain ⟨amount, small, calls, amountRead, batch, made⟩ := finished
    obtain ⟨leg, legMade, kept⟩ := bind_ok.mp batch
    obtain rfl := pure_ok.mp kept
    have feePaid : PaysBy ⟨fee.recipient, fee.token, fee.amount⟩ leg :=
      ⟨amount, small, amountRead, legMade⟩
    have all := List.rel_append rows (.cons feePaid .nil)
    rw [Option.toList_some, List.map_cons, List.map_nil]
    apply encodes_of_calls all _ short
    · exact true
    · rw [buildNativeCallData]
      · exact made
      · intro _ _ never
        cases never

@[reducible] def plainRadix : RadixErrors := ⟨fun _ _ => "not a number"⟩

/-- A review of one native transfer and its native fee. -/
def sampleReview : Review :=
  ⟨56, "0x1100000000000000000000000000000000045ac0",
    [⟨"0x88cCA0EeDbF2C4426110bbFc998F048689266894", none, "1000"⟩],
    some ⟨"0x9999999999999999999999999999999999999999", none, "14000"⟩⟩

def sampleTransfer : MultiSendCall :=
  ⟨"0x88cCA0EeDbF2C4426110bbFc998F048689266894", lowerHex 1000, []⟩

def sampleFee : MultiSendCall :=
  ⟨"0x9999999999999999999999999999999999999999", lowerHex 14000, []⟩

/-- The operation the submit path builds from it. -/
def sampleOp : UserOperation where
  sender := "0x1100000000000000000000000000000000045aC0"
  nonce := "0x1"
  initCode := ⟨[], by decide⟩
  callData :=
    ⟨(@buildMultiSendExecuteCallData plainRadix [sampleTransfer, sampleFee]).toOption.getD [],
      by decide +kernel⟩
  verificationGasLimit := 1
  callGasLimit := 1
  preVerificationGas := 1
  maxFeePerGas := 0
  maxPriorityFeePerGas := 0
  paymasterAndData := ⟨[], by decide⟩

theorem exists_safeOpHash [RadixErrors] {op : UserOperation} {chainId : UInt64}
    (sender : ∃ word, abiEncodeAddress op.sender = .ok word)
    (nonce : ∃ word, abiEncodeUint256 op.nonce = .ok word) :
    ∃ hash, calculateSafeOpHash op chainId = .ok hash := by
  obtain ⟨sender, senderRead⟩ := sender
  obtain ⟨nonce, nonceRead⟩ := nonce
  obtain ⟨entryPoint, entryRead⟩ : ∃ word, abiEncodeAddress Safe.entryPoint = .ok word :=
    exists_ok (by decide)
  obtain ⟨contract, contractRead⟩ : ∃ word, abiEncodeAddress Safe.safe4337Module = .ok word :=
    exists_ok (by decide)
  have separator : ∃ hash, domainSeparator chainId Safe.safe4337Module = .ok hash :=
    ⟨_, bind_ok.mpr ⟨contract, contractRead, rfl⟩⟩
  obtain ⟨separator, separated⟩ := separator
  exact ⟨_, bind_ok.mpr ⟨sender, senderRead, bind_ok.mpr ⟨nonce, nonceRead,
    bind_ok.mpr ⟨entryPoint, entryRead, bind_ok.mpr ⟨separator, separated, rfl⟩⟩⟩⟩⟩

theorem sampleOp_built : @Built plainRadix sampleReview sampleOp.callData.bytes := by
  refine ⟨[sampleTransfer], .cons ⟨1000, by decide, by decide +kernel, rfl⟩ .nil, ?_⟩
  refine ⟨14000, by decide, [sampleTransfer, sampleFee], by decide, rfl, ?_⟩
  decide +kernel

end VelaWallet.SignedReview
