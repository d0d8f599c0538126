import Mathlib.Tactic.Common
import Mathlib.Tactic.Ring

/-!
# Big-endian words and byte windows

Every fixed-width number on the wire is a big-endian byte window.  This module
fixes the two directions of that reading, the zero-padded window the execution
environment reads past the end of its input, and the padding that closes a
dynamic argument.
-/

namespace Bytes

variable {width : Nat}

/-- The number a byte string spells in big-endian order. -/
def beNat (bytes : List UInt8) : Nat :=
  bytes.foldl (fun value byte => value * 256 + byte.toNat) 0

/-- The low `width` bytes of a number, most significant first. -/
def beBytes : (width value : Nat) → List UInt8
  | 0, _ => []
  | width + 1, value => UInt8.ofNat (value / 256 ^ width) :: beBytes width value

/-- `width` bytes at `start`, with zeros where the input has already ended. -/
def window (bytes : List UInt8) (start width : Nat) : List UInt8 :=
  let present := (bytes.drop start).take width
  present ++ List.replicate (width - present.length) 0

/-- `width` bytes at `start`, or nothing when the input ends before them. -/
def slice? (bytes : List UInt8) (start width : Nat) : Option (List UInt8) :=
  if start + width ≤ bytes.length then some ((bytes.drop start).take width) else none

/-- How many zero bytes complete `length` bytes to a whole number of 32-byte
words. -/
def wordPadding (length : Nat) : Nat := (32 - length % 32) % 32

theorem foldl_beNat (bytes : List UInt8) (value : Nat) :
    bytes.foldl (fun value byte => value * 256 + byte.toNat) value =
      value * 256 ^ bytes.length + beNat bytes := by
  induction bytes generalizing value with
  | nil => simp [beNat]
  | cons byte bytes ih =>
    have tailValue : beNat (byte :: bytes) =
        byte.toNat * 256 ^ bytes.length + beNat bytes := by
      simp only [beNat, List.foldl_cons]
      rw [ih]
      simp [beNat]
    rw [List.foldl_cons, ih, tailValue, List.length_cons]
    ring

@[simp] theorem beNat_nil : beNat [] = 0 := rfl

theorem beNat_cons (byte : UInt8) (bytes : List UInt8) :
    beNat (byte :: bytes) = byte.toNat * 256 ^ bytes.length + beNat bytes := by
  simp only [beNat, List.foldl_cons]
  rw [foldl_beNat]
  simp [beNat]

theorem beNat_append (left right : List UInt8) :
    beNat (left ++ right) = beNat left * 256 ^ right.length + beNat right := by
  simp only [beNat, List.foldl_append]
  rw [foldl_beNat]
  rfl

@[simp] theorem beNat_replicate_zero (count : Nat) :
    beNat (List.replicate count 0) = 0 := by
  induction count with
  | zero => rfl
  | succ _ ih => simp [List.replicate_succ, beNat_cons, ih]

theorem beNat_lt (bytes : List UInt8) : beNat bytes < 256 ^ bytes.length := by
  induction bytes with
  | nil => simp
  | cons byte bytes ih =>
    have byteBound : byte.toNat ≤ 255 := by have := byte.toNat_lt; omega
    rw [beNat_cons, List.length_cons, Nat.pow_succ]
    have : byte.toNat * 256 ^ bytes.length ≤ 255 * 256 ^ bytes.length :=
      Nat.mul_le_mul_right _ byteBound
    omega

@[simp] theorem beBytes_length (width value : Nat) : (beBytes width value).length = width := by
  induction width with
  | zero => rfl
  | succ _ ih => simp [beBytes, ih]

theorem beNat_beBytes (width value : Nat) :
    beNat (beBytes width value) = value % 256 ^ width := by
  induction width with
  | zero => simp [beBytes, Nat.mod_one]
  | succ width ih =>
    rw [beBytes, beNat_cons, beBytes_length, ih, Nat.pow_succ]
    have high : (UInt8.ofNat (value / 256 ^ width)).toNat =
        value / 256 ^ width % 256 := by simp
    rw [high, Nat.mod_mul, Nat.mul_comm]
    omega

theorem beNat_beBytes_of_lt {value : Nat} (fits : value < 256 ^ width) :
    beNat (beBytes width value) = value := by
  rw [beNat_beBytes, Nat.mod_eq_of_lt fits]

theorem beBytes_mod (width value : Nat) :
    beBytes width (value % 256 ^ width) = beBytes width value := by
  have general : ∀ count total, count ≤ total →
      beBytes count (value % 256 ^ total) = beBytes count value := by
    intro count
    induction count with
    | zero => intros; rfl
    | succ count ih =>
      intro total inside
      simp only [beBytes]
      rw [ih total (by omega)]
      congr 1
      apply UInt8.toNat_inj.mp
      have split : (256 : Nat) ^ total = 256 ^ count * (256 * 256 ^ (total - count - 1)) := by
        rw [← Nat.pow_succ', ← Nat.pow_add]
        congr 1
        omega
      simp only [UInt8.toNat_ofNat']
      rw [split, Nat.mod_mul_right_div_self, Nat.mod_mul_right_mod]
  exact general width width (Nat.le_refl _)

theorem beBytes_beNat (bytes : List UInt8) :
    beBytes bytes.length (beNat bytes) = bytes := by
  induction bytes with
  | nil => rfl
  | cons byte bytes ih =>
    have tailBound := beNat_lt bytes
    have positive : 0 < 256 ^ bytes.length := Nat.pos_of_ne_zero (by simp)
    rw [List.length_cons, beBytes, beNat_cons]
    congr 1
    · apply UInt8.toNat_inj.mp
      rw [UInt8.toNat_ofNat', Nat.mul_comm, Nat.mul_add_div positive,
        Nat.div_eq_of_lt tailBound, Nat.add_zero]
      exact Nat.mod_eq_of_lt byte.toNat_lt
    · rw [← beBytes_mod, Nat.mul_comm, Nat.mul_add_mod,
        Nat.mod_eq_of_lt tailBound, ih]

theorem beNat_injective {left right : List UInt8}
    (lengths : left.length = right.length) (values : beNat left = beNat right) :
    left = right := by
  rw [← beBytes_beNat left, ← beBytes_beNat right, lengths, values]

@[simp] theorem window_length (bytes : List UInt8) (start width : Nat) :
    (window bytes start width).length = width := by
  simp only [window, List.length_append, List.length_take, List.length_drop,
    List.length_replicate]
  omega

theorem window_eq_slice {bytes slice : List UInt8} {start : Nat}
    (present : slice? bytes start width = some slice) :
    window bytes start width = slice := by
  unfold slice? at present
  split at present
  case isTrue inside =>
    cases present
    have full : ((bytes.drop start).take width).length = width := by
      simp only [List.length_take, List.length_drop]
      omega
    simp [window, full]
  case isFalse => cases present

theorem slice?_isSome {bytes : List UInt8} {start : Nat} (inside : start + width ≤ bytes.length) :
    slice? bytes start width = some ((bytes.drop start).take width) := by
  simp [slice?, inside]

theorem slice?_length {bytes slice : List UInt8} {start : Nat}
    (present : slice? bytes start width = some slice) : slice.length = width := by
  rw [← window_eq_slice present, window_length]

end Bytes
