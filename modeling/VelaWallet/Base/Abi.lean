import Mathlib.Data.List.Induction
import VelaWallet.Base.Bytes

/-!
# Contract ABI words

Arguments of a contract call are 32-byte words; a dynamic `bytes` argument is
reached through an offset word of the head, and a length word at that offset
precedes its data.  A decoder takes any offset and length that stay inside the
input; the standard encoding puts the data behind the head and pads it to whole
words.
-/

namespace Abi

open Bytes

variable {words : List (List UInt8)} {input : List UInt8} {value width : Nat} {field : List UInt8}

def word (value : Nat) : List UInt8 := beBytes 32 value

/-- The number in the word at `start`. -/
def wordAt? (input : List UInt8) (start : Nat) : Option Nat := (slice? input start 32).map beNat

/-- The `bytes` argument whose offset is the word at `head`. -/
def bytesArg? (input : List UInt8) (head : Nat) : Option (List UInt8) := do
  let offset ← wordAt? input head
  let length ← wordAt? input offset
  slice? input (offset + 32) length

/-- The array argument whose offset is the word at `head`, each element read in a word of
its own. -/
def arrayArg? {α : Type} (element : List UInt8 → Nat → Option α) (input : List UInt8)
    (head : Nat) : Option (List α) := do
  let offset ← wordAt? input head
  let count ← wordAt? input offset
  (List.range count).mapM fun index => element input (offset + 32 + 32 * index)

/-- A dynamic argument as it is written: its length, its data, and zeros up to a
whole number of words. -/
def padded (data : List UInt8) : List UInt8 :=
  word data.length ++ (data ++ List.replicate (wordPadding data.length) 0)

@[simp] theorem word_length (value : Nat) : (word value).length = 32 := beBytes_length 32 value

theorem beNat_word (fits : value < 2 ^ 256) : beNat (word value) = value :=
  beNat_beBytes_of_lt (by simpa using fits)

variable {start : Nat}

theorem word_beNat {bytes : List UInt8} (width : bytes.length = 32) : word (beNat bytes) = bytes := by
  rw [word, ← width, beBytes_beNat]

theorem slice?_field (front field back : List UInt8)
    (starts : front.length = start) (wide : field.length = width) :
    slice? (front ++ (field ++ back)) start width = some field := by
  subst starts wide
  rw [slice?, if_pos (by simp only [List.length_append]; omega), List.drop_left, List.take_left]

theorem wordAt?_field (front back : List UInt8) {start value : Nat}
    (starts : front.length = start) (fits : value < 2 ^ 256) :
    wordAt? (front ++ (word value ++ back)) start = some value := by
  rw [wordAt?, slice?_field front (word value) back starts (word_length value), Option.map_some,
    beNat_word fits]

theorem slice?_shift (front input : List UInt8) {count start : Nat} (width : Nat)
    (counted : front.length = count) :
    slice? (front ++ input) (count + start) width = slice? input start width := by
  subst counted
  have bound : front.length + start + width ≤ (front ++ input).length ↔
      start + width ≤ input.length := by
    rw [List.length_append]
    omega
  simp only [slice?, bound, List.drop_length_add_append]

theorem wordAt?_shift (front input : List UInt8) {count start : Nat}
    (counted : front.length = count) :
    wordAt? (front ++ input) (count + start) = wordAt? input start := by
  rw [wordAt?, slice?_shift front input 32 counted, wordAt?]

theorem slice?_head (field back : List UInt8) (wide : field.length = width) :
    slice? (field ++ back) 0 width = some field :=
  slice?_field [] field back rfl wide

theorem drop_of_slice? (found : slice? input start width = some field) :
    input.drop start = field ++ input.drop (start + width) := by
  unfold slice? at found
  split at found
  case isTrue =>
    cases found
    rw [← List.drop_drop, List.take_append_drop]
  case isFalse => cases found

theorem slice?_inside
    (found : slice? input start width = some field) : start + width ≤ input.length := by
  unfold slice? at found
  split at found
  case isTrue inside => exact inside
  case isFalse => cases found

theorem slice?_eq (found : slice? input start width = some field) :
    (input.drop start).take width = field := by
  unfold slice? at found
  split at found
  · exact Option.some.inj found
  · cases found

section

variable (found : wordAt? input start = some value)
include found

theorem wordAt?_some :
    ∃ bytes, slice? input start 32 = some bytes ∧ beNat bytes = value :=
  Option.map_eq_some_iff.mp found

theorem wordAt?_inside : start + 32 ≤ input.length := by
  obtain ⟨_, read, _⟩ := wordAt?_some found
  exact slice?_inside read

theorem last_byte_of_wordAt? :
    ∃ byte, input[start + 31]? = some byte ∧ byte.toNat = value % 256 := by
  obtain ⟨bytes, read, rfl⟩ := wordAt?_some found
  have width := slice?_length read
  have inside := slice?_inside read
  have present : input[start + 31]? = bytes[31]? := by
    rw [← slice?_eq read, List.getElem?_take_of_lt (by omega), List.getElem?_drop]
  have last : bytes[31]? = some bytes[31] := List.getElem?_eq_getElem (by omega)
  refine ⟨bytes[31], present.trans last, ?_⟩
  have split : bytes = bytes.take 31 ++ [bytes[31]] := by
    conv_lhs => rw [← List.take_append_drop 31 bytes]
    rw [List.drop_eq_getElem_cons (by omega), List.drop_eq_nil_of_le (by omega)]
  conv_rhs => rw [split, beNat_append]
  have bound := bytes[31].toNat_lt
  simp only [beNat_cons, beNat_nil, List.length_cons, List.length_nil]
  omega

end

theorem bytesArg?_some {data : List UInt8} {head : Nat} (found : bytesArg? input head = some data) :
    ∃ offset, wordAt? input head = some offset ∧ wordAt? input offset = some data.length ∧
      slice? input (offset + 32) data.length = some data := by
  simp only [bytesArg?, Option.bind_eq_bind, Option.bind_eq_some_iff] at found
  obtain ⟨offset, offsetRead, length, lengthRead, dataRead⟩ := found
  have width := slice?_length dataRead
  subst width
  exact ⟨offset, offsetRead, lengthRead, dataRead⟩

theorem slice?_words {words : List (List UInt8)} {rest word : List UInt8} {index : Nat}
    (sized : ∀ word ∈ words, word.length = 32) (placed : words[index]? = some word) :
    slice? (words.flatten ++ rest) (32 * index) 32 = some word := by
  induction words generalizing index with
  | nil => cases placed
  | cons head _ ih =>
    have headSized := sized head List.mem_cons_self
    rw [List.flatten_cons, List.append_assoc]
    cases index with
    | zero =>
      cases placed
      exact slice?_head word _ headSized
    | succ =>
      rw [Nat.mul_succ, Nat.add_comm, slice?_shift head _ 32 headSized]
      exact ih (fun word member => sized word (List.mem_cons_of_mem _ member)) placed

theorem drop_words {rest : List UInt8} (sized : ∀ word ∈ words, word.length = 32) :
    (words.flatten ++ rest).drop (32 * words.length) = rest := by
  induction words with
  | nil => rfl
  | cons head _ ih =>
    have headSized := sized head List.mem_cons_self
    rw [List.flatten_cons, List.append_assoc, List.length_cons, Nat.mul_succ, Nat.add_comm,
      ← headSized, List.drop_length_add_append, headSized]
    exact ih fun word member => sized word (List.mem_cons_of_mem _ member)

/-- An input whose words are found one after another from `start` on is made of
them up to their end. -/
theorem drop_of_words (found : ∀ index word, words[index]? = some word →
      slice? input (start + 32 * index) 32 = some word) :
    input.drop start = words.flatten ++ input.drop (start + 32 * words.length) := by
  induction words generalizing start with
  | nil => rfl
  | cons head _ ih =>
    have first := drop_of_slice? (found 0 head rfl)
    have later := @ih (start + 32) fun index word placed => by
      rw [← found (index + 1) word placed]
      congr 1
      omega
    rw [Nat.mul_zero, Nat.add_zero] at first
    rw [first, later, List.flatten_cons, List.append_assoc, List.length_cons]
    congr 3
    omega

theorem mapM_range {α : Type} {items : List α} {read : Nat → Option α}
    (found : ∀ index item, items[index]? = some item → read index = some item) :
    (List.range items.length).mapM read = some items := by
  induction items using List.reverseRecOn with
  | nil => rfl
  | append_singleton items item ih =>
    have earlier := ih fun index other placed => found index other (by
      rw [List.getElem?_append_left (List.getElem?_eq_some_iff.mp placed).1]
      exact placed)
    have last : read items.length = some item := found items.length item (by simp)
    rw [List.length_append, List.length_singleton, List.range_succ, List.mapM_append, earlier]
    simp [last]

theorem arrayArg?_items {α : Type} {element : List UInt8 → Nat → Option α} {input : List UInt8}
    {head offset : Nat} {items : List α} (placed : wordAt? input head = some offset)
    (counted : wordAt? input offset = some items.length)
    (found : ∀ index item, items[index]? = some item →
      element input (offset + 32 + 32 * index) = some item) :
    arrayArg? element input head = some items := by
  simp only [arrayArg?, placed, counted, Option.bind_eq_bind, Option.bind_some]
  exact mapM_range found

theorem bytesArg?_padded {front data back : List UInt8} {head : Nat}
    (placed : wordAt? (front ++ (padded data ++ back)) head = some front.length)
    (short : data.length < 2 ^ 256) :
    bytesArg? (front ++ (padded data ++ back)) head = some data := by
  have layout : front ++ (padded data ++ back) = front ++ (word data.length ++
      (data ++ (List.replicate (wordPadding data.length) 0 ++ back))) := by
    simp [padded]
  have length : wordAt? (front ++ (padded data ++ back)) front.length = some data.length := by
    rw [layout]
    exact wordAt?_field front _ rfl short
  have found : slice? (front ++ (padded data ++ back)) (front.length + 32) data.length =
      some data := by
    rw [layout, ← List.append_assoc]
    exact slice?_field _ data _ (by simp) rfl
  simp only [bytesArg?, placed, length, found, Option.bind_eq_bind, Option.bind_some]

end Abi
