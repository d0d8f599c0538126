import VelaWallet.Base.Bytes

/-!
# Keccak-256

The sponge of the original Keccak submission at rate 136 bytes, with the `01`
domain padding.  Lanes are numbers below `2^64`; a state is five rows of five.
-/

namespace Keccak

def rotate (lane count : Nat) : Nat :=
  (lane <<< count ||| lane >>> (64 - count)) % 2 ^ 64

/-- The five lanes of one row. -/
structure Row where
  a : Nat
  b : Nat
  c : Nat
  d : Nat
  e : Nat

namespace Row

def xor (left right : Row) : Row :=
  ⟨left.a ^^^ right.a, left.b ^^^ right.b, left.c ^^^ right.c, left.d ^^^ right.d,
    left.e ^^^ right.e⟩

/-- χ: every lane with the product of its two neighbours, the first negated. -/
def chi (row : Row) : Row :=
  let step := fun lane next after => lane ^^^ ((2 ^ 64 - 1 - next) &&& after)
  ⟨step row.a row.b row.c, step row.b row.c row.d, step row.c row.d row.e,
    step row.d row.e row.a, step row.e row.a row.b⟩

end Row

/-- The five rows of the state. -/
structure State where
  first : Row
  second : Row
  third : Row
  fourth : Row
  fifth : Row

namespace State

def xor (left right : State) : State :=
  ⟨left.first.xor right.first, left.second.xor right.second, left.third.xor right.third,
    left.fourth.xor right.fourth, left.fifth.xor right.fifth⟩

/-- θ: the parities of the two neighbouring columns. -/
def theta (state : State) : State :=
  let parity :=
    (((state.first.xor state.second).xor state.third).xor state.fourth).xor state.fifth
  let effect : Row :=
    ⟨parity.e ^^^ rotate parity.b 1, parity.a ^^^ rotate parity.c 1, parity.b ^^^ rotate parity.d 1,
      parity.c ^^^ rotate parity.e 1, parity.d ^^^ rotate parity.a 1⟩
  state.xor ⟨effect, effect, effect, effect, effect⟩

/-- ρ and π: every lane rotated and moved. -/
def rhoPi (state : State) : State :=
  ⟨⟨state.first.a, rotate state.second.b 44, rotate state.third.c 43, rotate state.fourth.d 21,
      rotate state.fifth.e 14⟩,
    ⟨rotate state.first.d 28, rotate state.second.e 20, rotate state.third.a 3,
      rotate state.fourth.b 45, rotate state.fifth.c 61⟩,
    ⟨rotate state.first.b 1, rotate state.second.c 6, rotate state.third.d 25,
      rotate state.fourth.e 8, rotate state.fifth.a 18⟩,
    ⟨rotate state.first.e 27, rotate state.second.a 36, rotate state.third.b 10,
      rotate state.fourth.c 15, rotate state.fifth.d 56⟩,
    ⟨rotate state.first.c 62, rotate state.second.d 55, rotate state.third.e 39,
      rotate state.fourth.a 41, rotate state.fifth.b 2⟩⟩

def chi (state : State) : State :=
  ⟨state.first.chi, state.second.chi, state.third.chi, state.fourth.chi, state.fifth.chi⟩

def iota (state : State) (constant : Nat) : State :=
  { state with first := { state.first with a := state.first.a ^^^ constant } }

end State

def roundConstants : List Nat :=
  [0x0000000000000001, 0x0000000000008082, 0x800000000000808a, 0x8000000080008000,
    0x000000000000808b, 0x0000000080000001, 0x8000000080008081, 0x8000000000008009,
    0x000000000000008a, 0x0000000000000088, 0x0000000080008009, 0x000000008000000a,
    0x000000008000808b, 0x800000000000008b, 0x8000000000008089, 0x8000000000008003,
    0x8000000000008002, 0x8000000000000080, 0x000000000000800a, 0x800000008000000a,
    0x8000000080008081, 0x8000000000008080, 0x0000000080000001, 0x8000000080008008]

/-- Keccak-f[1600]. -/
def permute (state : State) : State :=
  roundConstants.foldl (fun state constant => state.theta.rhoPi.chi.iota constant) state

def rate : Nat := 136

/-- A lane of a block: eight bytes, least significant first. -/
def lane (block : List UInt8) (index : Nat) : Nat :=
  Bytes.beNat ((block.drop (8 * index)).take 8).reverse

/-- A block of `rate` bytes as the state it is added into. -/
def blockState (block : List UInt8) : State :=
  let row := fun start => Row.mk (lane block start) (lane block (start + 1)) (lane block (start + 2))
    (lane block (start + 3)) (lane block (start + 4))
  ⟨row 0, row 5, row 10, ⟨lane block 15, lane block 16, 0, 0, 0⟩, ⟨0, 0, 0, 0, 0⟩⟩

/-- The message with its padding up to a whole number of blocks. -/
def pad (data : List UInt8) : List UInt8 :=
  let missing := rate - data.length % rate
  if missing = 1 then data ++ [0x81] else data ++ [0x01] ++ List.replicate (missing - 2) 0 ++ [0x80]

/-- The blocks of a padded message, absorbed one after another. -/
def absorb : (blocks : Nat) → List UInt8 → State → State
  | 0, _, state => state
  | blocks + 1, text, state =>
    absorb blocks (text.drop rate) (permute (state.xor (blockState (text.take rate))))

/-- The first four lanes of a state. -/
def squeeze (state : State) : List UInt8 :=
  [state.first.a, state.first.b, state.first.c, state.first.d].flatMap fun lane =>
    (Bytes.beBytes 8 lane).reverse

def zeroState : State :=
  let row : Row := ⟨0, 0, 0, 0, 0⟩
  ⟨row, row, row, row, row⟩

def keccak256 (data : List UInt8) : List UInt8 :=
  squeeze (absorb (data.length / rate + 1) (pad data) zeroState)

@[simp] theorem keccak256_length (data : List UInt8) : (keccak256 data).length = 32 := by
  simp [keccak256, squeeze]

/-- The digest of the empty string. -/
example : keccak256 [] =
    [0xc5, 0xd2, 0x46, 0x01, 0x86, 0xf7, 0x23, 0x3c, 0x92, 0x7e, 0x7d, 0xb2, 0xdc, 0xc7, 0x03, 0xc0,
      0xe5, 0x00, 0xb6, 0x53, 0xca, 0x82, 0x27, 0x3b, 0x7b, 0xfa, 0xd8, 0x04, 0x5d, 0x85, 0xa4,
      0x70] := by
  decide +kernel

end Keccak
