import VelaWallet.Base.Bytes

/-!
# WebSocket frames

One client frame from the front of the bytes a socket has brought, and the frames
the wallet writes (`trusted_signer/ws.rs`).
-/

namespace VelaWallet.TrustedSigner

open Bytes (beNat beBytes slice?)

variable {needle : List UInt8} {width : Nat} {second : UInt8} {start place : Nat}

def maxMessage : Nat := 256 * 1024

/-- `MAX_HEAD`: the largest HTTP head before the upgrade. -/
def maxHead : Nat := 16 * 1024

inductive Frame where
  | text (fin : Bool) (payload : List UInt8)
  | binary
  | close
  | ping (payload : List UInt8)
  | pong
  | bad

/-- The payload length a frame's header declares, and where its mask begins. -/
def lengthAt (bytes : List UInt8) (second : UInt8) : Option (Nat × Nat) :=
  match (second &&& 0x7F).toNat with
  | 126 => (slice? bytes 2 2).map fun length => (beNat length, 4)
  | 127 => (slice? bytes 2 8).map fun length => (beNat length, 10)
  | short => some (short, 2)

def unmask (mask payload : List UInt8) : List UInt8 :=
  payload.zipIdx.map fun (byte, index) => byte ^^^ mask.getD (index % 4) 0

def frameOf (first : UInt8) (payload : List UInt8) : Frame :=
  match (first &&& 0x0F).toNat with
  | 0x0 | 0x1 => .text (first &&& 0x80 != 0) payload
  | 0x2 => .binary
  | 0x8 => .close
  | 0x9 => .ping payload
  | 0xA => .pong
  | _ => .bad

/-- A header that is a fault before its payload has come: not masked, larger than any
answer, or with a reserved bit. -/
def Faulty (first second : UInt8) (length : Nat) : Prop :=
  second &&& 0x80 = 0 ∨ maxMessage < length ∨ first &&& 0x70 ≠ 0

instance (first second : UInt8) (length : Nat) : Decidable (Faulty first second length) :=
  inferInstanceAs (Decidable (_ ∨ _ ∨ _))

/-- One client frame from the front of the bytes, and how many bytes it used
(`decode`). -/
def decode : List UInt8 → Option (Frame × Nat)
  | first :: second :: rest =>
    let bytes := first :: second :: rest
    (lengthAt bytes second).bind fun (length, start) =>
      if Faulty first second length then some (.bad, bytes.length)
      else
        (slice? bytes start 4).bind fun mask =>
          (slice? bytes (start + 4) length).map fun payload =>
            (frameOf first (unmask mask payload), start + 4 + length)
  | _ => none

/-- A server frame, never masked (`encode`). -/
def encode (opcode : UInt8) (payload : List UInt8) : List UInt8 :=
  let length := payload.length
  let header :=
    if length < 126 then [UInt8.ofNat length]
    else if length ≤ 0xFFFF then 126 :: beBytes 2 length
    else 127 :: beBytes 8 length
  (0x80 ||| opcode) :: header ++ payload

def closeFrame (code : Nat) : List UInt8 := encode 0x8 (beBytes 2 code)

/-- `find`: where a byte string first occurs. -/
def find (needle : List UInt8) : List UInt8 → Option Nat
  | [] => if needle = [] then some 0 else none
  | byte :: rest =>
    if needle.isPrefixOf (byte :: rest) then some 0 else (find needle rest).map (· + 1)

theorem slice?_append {bytes part : List UInt8}
    (inside : slice? bytes start width = some part) (more : List UInt8) :
    slice? (bytes ++ more) start width = some part := by
  have enough : start + width ≤ bytes.length := by
    by_contra short
    simp [slice?, short] at inside
  rw [Bytes.slice?_isSome enough] at inside
  rw [Bytes.slice?_isSome (by rw [List.length_append]; omega), ← Option.some.inj inside,
    List.drop_append_of_le_length (by omega),
    List.take_append_of_le_length (by rw [List.length_drop]; omega)]

theorem slice?_inside {bytes part : List UInt8}
    (inside : slice? bytes start width = some part) : start + width ≤ bytes.length := by
  by_contra short
  simp [slice?, short] at inside

variable {bytes : List UInt8}

theorem slice?_none
    (short : slice? bytes start width = none) : bytes.length < start + width := by
  by_contra enough
  rw [Bytes.slice?_isSome (Nat.not_lt.mp enough)] at short
  cases short

theorem lengthAt_append {length : Nat}
    (declared : lengthAt bytes second = some (length, start)) (more : List UInt8) :
    lengthAt (bytes ++ more) second = some (length, start) := by
  unfold lengthAt at declared ⊢
  split at declared
  case h_1 | h_2 =>
    obtain ⟨part, inside, same⟩ := Option.map_eq_some_iff.mp declared
    rw [slice?_append inside, Option.map_some, same]
  case h_3 => exact declared

theorem lengthAt_start {length : Nat}
    (declared : lengthAt bytes second = some (length, start)) : 2 ≤ start ∧ start ≤ 10 := by
  unfold lengthAt at declared
  split at declared
  case h_1 | h_2 =>
    obtain ⟨_, _, same⟩ := Option.map_eq_some_iff.mp declared
    cases same
    omega
  case h_3 =>
    cases declared
    omega

theorem lengthAt_none (short : lengthAt bytes second = none) : bytes.length < 10 := by
  unfold lengthAt at short
  split at short
  case h_1 =>
    have := slice?_none (Option.map_eq_none_iff.mp short)
    omega
  case h_2 => exact slice?_none (Option.map_eq_none_iff.mp short)
  case h_3 => cases short

/-- A frame that has come whole is the same with more bytes behind it; only a fault
takes all the bytes there are. -/
theorem decode_append {frame : Frame} {used : Nat}
    (decoded : decode bytes = some (frame, used)) (more : List UInt8) :
    decode (bytes ++ more) = some (frame, used) ∧ used ≤ bytes.length ∨
      frame = .bad ∧ decode (bytes ++ more) = some (.bad, (bytes ++ more).length) := by
  match bytes with
  | [] => cases decoded
  | [_] => cases decoded
  | first :: second :: rest =>
    simp only [decode, Option.bind_eq_some_iff] at decoded
    obtain ⟨⟨length, start⟩, declared, decoded⟩ := decoded
    have later := lengthAt_append declared more
    simp only [List.cons_append] at later
    simp only [List.cons_append, decode, later, Option.bind_some]
    split at decoded
    case isTrue faulty =>
      cases decoded
      exact .inr ⟨rfl, by rw [if_pos faulty]⟩
    case isFalse sound =>
      obtain ⟨mask, masked, decoded⟩ := Option.bind_eq_some_iff.mp decoded
      obtain ⟨payload, carried, same⟩ := Option.map_eq_some_iff.mp decoded
      cases same
      have maskLater := slice?_append masked more
      have payloadLater := slice?_append carried more
      simp only [List.cons_append] at maskLater payloadLater
      refine .inl ⟨?_, slice?_inside carried⟩
      rw [if_neg sound, maskLater, Option.bind_some, payloadLater]
      rfl

theorem decode_none (waiting : decode bytes = none) : bytes.length ≤ maxMessage + 14 := by
  match bytes with
  | [] => exact Nat.zero_le _
  | [_] => exact Nat.le_add_left _ _
  | first :: second :: rest =>
    rw [decode] at waiting
    have many : 10 ≤ maxMessage + 14 := by decide
    rcases Option.bind_eq_none_iff.mp waiting with waiting
    cases declared : lengthAt (first :: second :: rest) second with
    | none =>
      have := lengthAt_none declared
      omega
    | some header =>
      obtain ⟨length, start⟩ := header
      have begins := lengthAt_start declared
      have waiting := waiting _ declared
      dsimp only at waiting
      split at waiting
      case isTrue => cases waiting
      case isFalse sound =>
        have fits : length ≤ maxMessage := by
          by_contra large
          exact sound (.inr (.inl (Nat.not_le.mp large)))
        cases masked : slice? (first :: second :: rest) start 4 with
        | none =>
          have := slice?_none masked
          omega
        | some =>
          rw [masked, Option.bind_some, Option.map_eq_none_iff] at waiting
          have := slice?_none waiting
          omega

theorem decode_used {frame : Frame} {used : Nat}
    (decoded : decode bytes = some (frame, used)) : 2 ≤ used ∧ 2 ≤ bytes.length := by
  match bytes with
  | [] => cases decoded
  | [_] => cases decoded
  | first :: second :: rest =>
    refine ⟨?_, by simp⟩
    simp only [decode, Option.bind_eq_some_iff] at decoded
    obtain ⟨⟨length, start⟩, declared, decoded⟩ := decoded
    have begins := lengthAt_start declared
    split at decoded
    case isTrue =>
      cases decoded
      simp
    case isFalse =>
      obtain ⟨_, _, decoded⟩ := Option.bind_eq_some_iff.mp decoded
      obtain ⟨_, _, same⟩ := Option.map_eq_some_iff.mp decoded
      cases same
      omega

theorem find_inside
    (found : find needle bytes = some place) : place + needle.length ≤ bytes.length := by
  induction bytes generalizing place with
  | nil =>
    rw [find] at found
    split at found
    case isTrue empty =>
      cases found
      simp [empty]
    case isFalse => cases found
  | cons _ _ ih =>
    rw [find] at found
    split at found
    case isTrue here =>
      cases found
      have := (List.isPrefixOf_iff_prefix.mp here).length_le
      omega
    case isFalse =>
      obtain ⟨earlier, later, rfl⟩ := Option.map_eq_some_iff.mp found
      have := ih later
      rw [List.length_cons]
      omega

theorem find_append (found : find needle bytes = some place)
    (more : List UInt8) : find needle (bytes ++ more) = some place := by
  induction bytes generalizing place with
  | nil =>
    rw [find] at found
    split at found
    case isTrue empty =>
      cases found
      subst empty
      cases more <;> simp [find]
    case isFalse => cases found
  | cons byte bytes ih =>
    have inside := find_inside found
    rw [find] at found
    have start : needle <+: byte :: bytes ↔ needle <+: byte :: (bytes ++ more) := by
      rw [← List.cons_append]
      exact ⟨fun here => here.trans (List.prefix_append _ _),
        fun here => List.prefix_of_prefix_length_le here (List.prefix_append _ _) (by omega)⟩
    rw [List.cons_append, find]
    split at found
    case isTrue here =>
      cases found
      rw [if_pos (List.isPrefixOf_iff_prefix.mpr (start.mp (List.isPrefixOf_iff_prefix.mp here)))]
    case isFalse notHere =>
      obtain ⟨earlier, later, rfl⟩ := Option.map_eq_some_iff.mp found
      have still : ¬ needle.isPrefixOf (byte :: (bytes ++ more)) = true := fun here =>
        notHere (List.isPrefixOf_iff_prefix.mpr (start.mpr (List.isPrefixOf_iff_prefix.mp here)))
      rw [if_neg still, ih later]
      rfl

theorem find_cut {bytes more : List UInt8}
    (found : find needle (bytes ++ more) = some place)
    (cut : bytes.length < place + needle.length) : find needle bytes = none := by
  cases earlier : find needle bytes with
  | none => rfl
  | some =>
    have same := Option.some.inj ((find_append earlier more).symm.trans found)
    have := find_inside earlier
    omega

theorem find_within {bytes more : List UInt8}
    (found : find needle (bytes ++ more) = some place)
    (inside : place + needle.length ≤ bytes.length) : (find needle bytes).isSome = true := by
  induction bytes generalizing place with
  | nil =>
    have empty : needle = [] := by
      rw [List.length_nil] at inside
      exact List.length_eq_zero_iff.mp (by omega)
    simp [find, empty]
  | cons byte bytes ih =>
    rw [List.cons_append, find] at found
    rw [find]
    split at found
    case isTrue here =>
      cases found
      have start : needle <+: byte :: bytes :=
        List.prefix_of_prefix_length_le (List.isPrefixOf_iff_prefix.mp here)
          (List.prefix_append (byte :: bytes) more) (by omega)
      rw [if_pos (List.isPrefixOf_iff_prefix.mpr start)]
      rfl
    case isFalse =>
      obtain ⟨earlier, later, rfl⟩ := Option.map_eq_some_iff.mp found
      split
      · rfl
      · rw [Option.isSome_map]
        exact ih later (by rw [List.length_cons] at inside; omega)

end VelaWallet.TrustedSigner
