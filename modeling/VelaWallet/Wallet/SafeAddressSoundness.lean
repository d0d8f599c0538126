import Mathlib.Data.List.Perm.Basic
import VelaWallet.Wallet.SetupLayout

/-!
# One wallet, one address

Which key lists have a Safe, that the order of the later keys does not move its
address, and that two wallets share one only through a digest collision.
-/

namespace VelaWallet

open Utf8 (bytes ofAscii toAsciiLowercase asciiLower stripPrefix)
open Fallible (exists_ok)

variable {shuffled : List P256PublicKey} {first : P256PublicKey} {info : SafeAddressInfo}

namespace Safe

theorem keyOrder_eq :
    keyOrder = compareLex (compareOn P256PublicKey.x) (compareOn P256PublicKey.y) := rfl

instance : Std.TransCmp keyOrder := by
  rw [keyOrder_eq]
  infer_instance

theorem key_ext {left right : P256PublicKey} (xs : left.x = right.x) (ys : left.y = right.y) :
    left = right := by
  cases left
  cases right
  cases xs
  cases ys
  rfl

theorem keyOrder_antisymm {left right : P256PublicKey} (before : (keyOrder left right).isLE = true)
    (after : (keyOrder right left).isLE = true) : left = right := by
  have same : keyOrder left right = .eq := by
    rw [@Std.OrientedCmp.eq_swap _ keyOrder _ right left] at after
    cases order : keyOrder left right with
    | eq => rfl
    | lt => rw [order] at after; cases after
    | gt => rw [order] at before; cases before
  obtain ⟨xs, ys⟩ := Ordering.then_eq_eq.mp same
  exact key_ext (Std.LawfulEqOrd.eq_of_compare xs) (Std.LawfulEqOrd.eq_of_compare ys)

def Ordered (keys : List P256PublicKey) : Prop :=
  keys.Pairwise fun left right => (keyOrder left right).isLE = true

theorem sortKeys_perm (keys : List P256PublicKey) : (sortKeys keys).Perm keys :=
  List.mergeSort_perm keys _

theorem sortKeys_ordered (keys : List P256PublicKey) : Ordered (sortKeys keys) := by
  apply List.pairwise_mergeSort
  · intro first second third before after
    exact Std.TransCmp.isLE_trans before after
  · intro left right
    rw [@Std.OrientedCmp.eq_swap _ keyOrder _ right left]
    cases keyOrder left right <;> rfl

variable {keys : List P256PublicKey}

theorem sortKeys_eq (same : keys.Perm shuffled) : sortKeys keys = sortKeys shuffled := by
  have together : (sortKeys keys).Perm (sortKeys shuffled) :=
    ((sortKeys_perm keys).trans same).trans (sortKeys_perm shuffled).symm
  exact together.eq_of_pairwise (fun _ _ _ _ => keyOrder_antisymm) (sortKeys_ordered keys)
    (sortKeys_ordered shuffled)

theorem repeatsNeighbour_iff (ordered : Ordered keys) :
    repeatsNeighbour keys = false ↔ keys.Nodup := by
  induction keys using repeatsNeighbour.induct with
  | case1 first second rest ih =>
    obtain ⟨least, tail⟩ := List.pairwise_cons.mp ordered
    have later := (List.pairwise_cons.mp tail).1
    have beside : (first.x == second.x && first.y == second.y) = false ↔
        first ∉ second :: rest := by
      constructor
      · intro apart member
        have equal : first = second := by
          rcases List.mem_cons.mp member with equal | inRest
          · exact equal
          · exact keyOrder_antisymm (least second List.mem_cons_self) (later first inRest)
        rw [equal] at apart
        simp at apart
      · intro fresh
        rw [Bool.eq_false_iff]
        intro same
        rw [Bool.and_eq_true, beq_iff_eq, beq_iff_eq] at same
        apply fresh
        rw [key_ext same.1 same.2]
        exact List.mem_cons_self
    rw [repeatsNeighbour, Bool.or_eq_false_iff, ih tail, beside,
      @List.nodup_cons _ first]
  | case2 keys short =>
    match keys, short with
    | [], _ => exact ⟨fun _ => List.nodup_nil, fun _ => rfl⟩
    | [key], _ => exact ⟨fun _ => by simp, fun _ => rfl⟩
    | _ :: _ :: _, short => exact (short _ _ _ rfl).elim

/-! ## Wallets -/

theorem encodeSetupData_wide [RadixErrors] {extraKeys : List P256PublicKey}
    (firstWide : Wide first) (wide : ∀ key ∈ extraKeys, Wide key)
    (few : extraKeys.length ≤ maxMultiKeys) :
    ∃ data, encodeSetupData first.x first.y extraKeys = .ok data := by
  obtain ⟨contracts, named⟩ := exists_contracts
  obtain ⟨owners, _, written⟩ := encodeSetupData_eq named firstWide wide few
  exact ⟨_, written⟩

/-- The key lists a Safe is made for. -/
structure OwnerSet (keys : List P256PublicKey) : Prop where
  some : 1 ≤ keys.length
  few : keys.length ≤ 7
  wide : ∀ key ∈ keys, key.x.length = 32 ∧ key.y.length = 32
  distinct : keys.Nodup

/-- The keys of a wallet in their canonical order: the first stays first. -/
def canonical : List P256PublicKey → List P256PublicKey
  | [] => []
  | first :: rest => first :: sortKeys rest

/-- The string behind a wallet's salt nonce: every coordinate of every key. -/
def allXy (keys : List P256PublicKey) : List UInt8 :=
  (canonical keys).flatMap fun key => key.x ++ key.y

/-- Two key lists of one wallet: the first key is pinned, the later ones are a
set. -/
def SameWallet (keys other : List P256PublicKey) : Prop :=
  keys.head? = other.head? ∧ ∀ key, key ∈ keys.tail ↔ key ∈ other.tail

/-- Keccak-256 tells two strings apart. -/
def ToldApart (left right : List UInt8) : Prop :=
  Keccak.keccak256 left = Keccak.keccak256 right → left = right

/-- The factory that deploys every Safe. -/
def proxyFactory : Address :=
  ⟨[0x4e, 0x1d, 0xcf, 0x7a, 0xd4, 0xe4, 0x60, 0xcf, 0xd3, 0x07, 0x91, 0xcc, 0xc4, 0xf9, 0xc8,
    0xa4, 0xf8, 0x20, 0xec, 0x67], rfl⟩

theorem parseAddress_factory : parseAddress safeProxyFactory = .ok proxyFactory := by
  decide

/-- The string behind a wallet's address. -/
def addressInput (info : SafeAddressInfo) : List UInt8 :=
  create2Input proxyFactory (Keccak.keccak256 (saltInput info.saltNonce info.setupData))
    info.initCodeHash

/-- No digest on the way to their two addresses is shared by accident. -/
structure Distinguished (keys other : List P256PublicKey) (info otherInfo : SafeAddressInfo) :
    Prop where
  keys : ToldApart (allXy keys) (allXy other)
  salts : ToldApart (saltInput info.saltNonce info.setupData)
    (saltInput otherInfo.saltNonce otherInfo.setupData)
  addresses : (Keccak.keccak256 (addressInput info)).drop 12 =
    (Keccak.keccak256 (addressInput otherInfo)).drop 12 → addressInput info = addressInput otherInfo

/-- The wallet of a first key and its later keys, already in order. -/
def walletOf [RadixErrors] (first : P256PublicKey) (sorted : List P256PublicKey) :
    Except CoreError SafeAddressInfo := do
  let allXy ← (first :: sorted).mapM keyWords
  let setupData ← encodeSetupData first.x first.y sorted
  assembleSafeAddress (Keccak.keccak256 allXy.flatten) setupData

theorem requireAll_ok : (∃ done, (keys.mapM fun key => requireCoords key.x key.y) = .ok done) ↔
      ∀ key ∈ keys, key.x.length = 32 ∧ key.y.length = 32 := by
  constructor
  · rintro ⟨done, required⟩ key member
    obtain ⟨_, _, fine⟩ := Fallible.forall₂_source (Fallible.mapM_ok.mp required) member
    exact requireCoords_ok.mp fine
  · intro wide
    induction keys with
    | nil => exact ⟨[], rfl⟩
    | cons key _ ih =>
      obtain ⟨done, required⟩ := ih fun other member => wide other (List.mem_cons_of_mem _ member)
      have head := requireCoords_wide (wide key List.mem_cons_self)
      exact ⟨() :: done, by rw [List.mapM_cons, head, required]; rfl⟩

variable {rest : List P256PublicKey}

theorem duplicated_iff : (repeatsNeighbour (sortKeys rest) ||
        (sortKeys rest).any fun key => key.x == first.x && key.y == first.y) = false ↔
      (first :: rest).Nodup := by
  have among : ((sortKeys rest).any fun key => key.x == first.x && key.y == first.y) = false ↔
      first ∉ rest := by
    rw [← (sortKeys_perm rest).mem_iff, Bool.eq_false_iff, ne_eq, not_iff_not, List.any_eq_true]
    constructor
    · rintro ⟨key, member, same⟩
      rw [Bool.and_eq_true, beq_iff_eq, beq_iff_eq] at same
      rw [← key_ext same.1 same.2]
      exact member
    · intro member
      exact ⟨first, member, by simp⟩
  rw [Bool.or_eq_false_iff, repeatsNeighbour_iff (sortKeys_ordered rest), among, List.nodup_cons,
    (sortKeys_perm rest).nodup_iff, and_comm]

/-- Only an owner set gets past the checks, and then the wallet is that of the
canonical order. -/
theorem computeSafeAddressMulti_ok [RadixErrors] :
    computeSafeAddressMulti (first :: rest) = .ok info ↔
      OwnerSet (first :: rest) ∧ walletOf first (sortKeys rest) = .ok info := by
  unfold computeSafeAddressMulti
  constructor
  · intro ran
    split at ran
    case isTrue => cases ran
    case isFalse few =>
      obtain ⟨done, required, ran⟩ := Fallible.bind_ok.mp ran
      change (if (_ || _) = true then _ else _) = _ at ran
      split at ran
      case isTrue => cases ran
      case isFalse fresh =>
        refine ⟨⟨by simp, Nat.le_of_not_lt few, requireAll_ok.mp ⟨done, required⟩, ?_⟩, ran⟩
        exact duplicated_iff.mp (Bool.eq_false_iff.mpr fresh)
  · rintro ⟨owners, ran⟩
    obtain ⟨done, required⟩ := requireAll_ok.mpr owners.wide
    have fresh := duplicated_iff.mpr owners.distinct
    have few : ¬ maxMultiKeys < (first :: rest).length := Nat.not_lt_of_le owners.few
    rw [if_neg few]
    refine Fallible.bind_ok.mpr ⟨done, required, ?_⟩
    change (if (_ || _) = true then _ else _) = _
    rw [fresh]
    exact ran

theorem keyWords_all (wide : ∀ key ∈ keys, Wide key) :
    keys.mapM keyWords = .ok (keys.map fun key => key.x ++ key.y) := by
  induction keys with
  | nil => rfl
  | cons key _ ih =>
    rw [List.mapM_cons, keyWords_wide (wide key List.mem_cons_self),
      ih fun other member => wide other (List.mem_cons_of_mem _ member)]
    rfl

theorem assembleSafeAddress_eq {code : List UInt8} {singleton : Address}
    (codeRead : fromHex proxyCreationCode = .ok code)
    (singletonRead : parseAddress safeSingleton = .ok singleton) (saltNonce setupData : List UInt8) :
    assembleSafeAddress saltNonce setupData = .ok {
      address := toChecksum (proxyFactory.create2
        (Keccak.keccak256 (saltInput saltNonce setupData))
        (Keccak.keccak256 (code ++ singleton.word)))
      saltNonce
      setupData
      initCodeHash := Keccak.keccak256 (code ++ singleton.word) } := by
  have deployed := @create2Address_ok safeProxyFactory proxyFactory
    (Keccak.keccak256 (saltInput saltNonce setupData)) (Keccak.keccak256 (code ++ singleton.word))
    parseAddress_factory (Keccak.keccak256_length _) (Keccak.keccak256_length _)
  simp only [assembleSafeAddress, codeRead, abiEncodeAddress_ok singletonRead]
  simp only [Except.mapError, bind, Except.bind]
  rw [deployed]
  rfl

theorem assembleSafeAddress_ok (saltNonce setupData : List UInt8) :
    ∃ info, assembleSafeAddress saltNonce setupData = .ok info ∧ info.saltNonce = saltNonce ∧
      info.initCodeHash.length = 32 ∧
      info.address = toChecksum
        (proxyFactory.create2 (Keccak.keccak256 (saltInput info.saltNonce info.setupData))
          info.initCodeHash) := by
  obtain ⟨code, codeRead⟩ := proxyCode_hex
  obtain ⟨singleton, singletonRead⟩ := parse_constants.2.1
  exact ⟨_, assembleSafeAddress_eq codeRead singletonRead saltNonce setupData, rfl,
    Keccak.keccak256_length _, rfl⟩

theorem walletOf_spec [RadixErrors] {sorted : List P256PublicKey}
    (wide : ∀ key ∈ first :: sorted, Wide key)
    (made : walletOf first sorted = .ok info) :
    info.saltNonce = Keccak.keccak256 ((first :: sorted).flatMap fun key => key.x ++ key.y) ∧
      info.initCodeHash.length = 32 ∧
      info.address = toChecksum
        (proxyFactory.create2 (Keccak.keccak256 (saltInput info.saltNonce info.setupData))
          info.initCodeHash) := by
  obtain ⟨words, mapped, rest⟩ := Fallible.bind_ok.mp made
  obtain ⟨setupData, _, assembled⟩ := Fallible.bind_ok.mp rest
  rw [keyWords_all wide] at mapped
  cases mapped
  obtain ⟨expected, written, salted, sized, addressed⟩ := assembleSafeAddress_ok
    (Keccak.keccak256 ((first :: sorted).map fun key => key.x ++ key.y).flatten) setupData
  rw [written] at assembled
  cases assembled
  refine ⟨?_, sized, addressed⟩
  rw [salted, List.flatMap_def]

theorem walletOf_wide [RadixErrors] {sorted : List P256PublicKey}
    (wide : ∀ key ∈ first :: sorted, Wide key) (few : sorted.length ≤ maxMultiKeys) :
    ∃ info, walletOf first sorted = .ok info := by
  obtain ⟨data, encoded⟩ := encodeSetupData_wide (wide first List.mem_cons_self)
    (fun key member => wide key (List.mem_cons_of_mem _ member)) few
  obtain ⟨info, assembled, _⟩ := assembleSafeAddress_ok
    (Keccak.keccak256 ((first :: sorted).map fun key => key.x ++ key.y).flatten) data
  refine ⟨info, Fallible.bind_ok.mpr ⟨_, keyWords_all wide, ?_⟩⟩
  exact Fallible.bind_ok.mpr ⟨data, encoded, assembled⟩

theorem wide_sorted
    (wide : ∀ key ∈ first :: rest, Wide key) : ∀ key ∈ first :: sortKeys rest, Wide key := by
  intro key member
  rcases List.mem_cons.mp member with rfl | inRest
  · exact wide key List.mem_cons_self
  · exact wide key (List.mem_cons_of_mem _ ((sortKeys_perm rest).mem_iff.mp inRest))

theorem computes_iff [RadixErrors] (keys : List P256PublicKey) :
    (∃ info, computeSafeAddressMulti keys = .ok info) ↔ OwnerSet keys := by
  cases keys with
  | nil =>
    constructor
    · rintro ⟨info, ran⟩
      cases ran
    · intro owners
      exact absurd owners.some (by decide)
  | cons _ rest =>
    constructor
    · rintro ⟨info, ran⟩
      exact (computeSafeAddressMulti_ok.mp ran).1
    · intro owners
      have counted := (sortKeys_perm rest).length_eq
      have few := owners.few
      rw [List.length_cons] at few
      obtain ⟨info, made⟩ := walletOf_wide (wide_sorted owners.wide)
        (by rw [counted, maxMultiKeys]; omega)
      exact ⟨info, computeSafeAddressMulti_ok.mpr ⟨owners, made⟩⟩

theorem OwnerSet.shuffle (owners : OwnerSet (first :: rest)) (same : rest.Perm shuffled) :
    OwnerSet (first :: shuffled) := by
  have whole : (first :: rest).Perm (first :: shuffled) := same.cons first
  constructor
  · rw [← whole.length_eq]
    exact owners.some
  · rw [← whole.length_eq]
    exact owners.few
  · intro key member
    exact owners.wide key (whole.mem_iff.mpr member)
  · exact whole.nodup_iff.mp owners.distinct

theorem computes_shuffled [RadixErrors] (same : rest.Perm shuffled)
    (ran : computeSafeAddressMulti (first :: rest) = .ok info) :
    computeSafeAddressMulti (first :: shuffled) = .ok info := by
  obtain ⟨owners, made⟩ := computeSafeAddressMulti_ok.mp ran
  rw [sortKeys_eq same] at made
  exact computeSafeAddressMulti_ok.mpr ⟨owners.shuffle same, made⟩

theorem computes_single [RadixErrors] (key : P256PublicKey) :
    computeSafeAddressMulti [key] = computeSafeAddress key.x key.y := by
  have few : ¬ maxMultiKeys < [key].length := by simp [maxMultiKeys]
  have alone : sortKeys [] = [] := List.mergeSort_nil
  unfold computeSafeAddressMulti computeSafeAddress
  rw [if_neg few]
  simp only [List.mapM_cons, List.mapM_nil, alone]
  cases required : requireCoords key.x key.y with
  | error => rfl
  | ok =>
    have wide : Wide key := requireCoords_ok.mp required
    simp only [keyWords_wide wide, bind, Except.bind, pure, Except.pure, repeatsNeighbour,
      List.any_nil, Bool.or_false, Bool.false_eq_true, if_false, List.flatten_cons,
      List.flatten_nil, List.append_nil]

theorem coordinates_injective {keys other : List P256PublicKey} (wide : ∀ key ∈ keys, Wide key)
    (otherWide : ∀ key ∈ other, Wide key)
    (same : (keys.flatMap fun key => key.x ++ key.y) = other.flatMap fun key => key.x ++ key.y) :
    keys = other := by
  induction keys generalizing other with
  | nil =>
    cases other with
    | nil => rfl
    | cons key =>
      have sized := congrArg List.length same
      have keyWide := otherWide key List.mem_cons_self
      rw [List.flatMap_nil, List.flatMap_cons, List.length_append, List.length_append,
        keyWide.1, List.length_nil] at sized
      omega
  | cons key _ ih =>
    have keyWide := wide key List.mem_cons_self
    cases other with
    | nil =>
      have sized := congrArg List.length same
      rw [List.flatMap_nil, List.flatMap_cons, List.length_append, List.length_append,
        keyWide.1, List.length_nil] at sized
      omega
    | cons head =>
      have headWide := otherWide head List.mem_cons_self
      rw [List.flatMap_cons, List.flatMap_cons] at same
      obtain ⟨heads, tails⟩ := List.append_inj same
        (by rw [List.length_append, List.length_append, keyWide.1, keyWide.2, headWide.1,
          headWide.2])
      obtain ⟨xs, ys⟩ := List.append_inj heads (keyWide.1.trans headWide.1.symm)
      rw [key_ext xs ys, ih (fun key member => wide key (List.mem_cons_of_mem _ member))
        (fun key member => otherWide key (List.mem_cons_of_mem _ member)) tails]

theorem OwnerSet.rest_nodup
    (owners : OwnerSet (first :: rest)) : rest.Nodup := (List.nodup_cons.mp owners.distinct).2

theorem salt_of_addressInput {otherInfo : SafeAddressInfo}
    (same : addressInput info = addressInput otherInfo)
    (sized : info.initCodeHash.length = 32) (otherSized : otherInfo.initCodeHash.length = 32) :
    Keccak.keccak256 (saltInput info.saltNonce info.setupData) =
      Keccak.keccak256 (saltInput otherInfo.saltNonce otherInfo.setupData) := by
  unfold addressInput create2Input at same
  have salted := (List.append_inj' same (sized.trans otherSized.symm)).1
  exact (List.append_inj salted rfl).2

theorem address_iff [RadixErrors] {keys other : List P256PublicKey}
    {otherInfo : SafeAddressInfo} (ran : computeSafeAddressMulti keys = .ok info)
    (otherRan : computeSafeAddressMulti other = .ok otherInfo)
    (apart : Distinguished keys other info otherInfo) :
    info.address = otherInfo.address ↔ SameWallet keys other := by
  have owners := (computes_iff keys).mp ⟨info, ran⟩
  have otherOwners := (computes_iff other).mp ⟨otherInfo, otherRan⟩
  cases keys with
  | nil => exact absurd owners.some (by decide)
  | cons _ rest =>
    cases other with
    | nil => exact absurd otherOwners.some (by decide)
    | cons _ later =>
      obtain ⟨_, made⟩ := computeSafeAddressMulti_ok.mp ran
      obtain ⟨_, otherMade⟩ := computeSafeAddressMulti_ok.mp otherRan
      have wide := wide_sorted owners.wide
      have otherWide := wide_sorted otherOwners.wide
      obtain ⟨nonce, sized, addressed⟩ := walletOf_spec wide made
      obtain ⟨otherNonce, otherSized, otherAddressed⟩ := walletOf_spec otherWide otherMade
      constructor
      · intro same
        rw [addressed, otherAddressed] at same
        have digests := congrArg Address.bytes (toChecksum_injective same)
        have salts := salt_of_addressInput (apart.addresses digests) sized otherSized
        have nonces := (List.append_inj (apart.salts salts) (by simp)).2
        rw [nonce, otherNonce] at nonces
        have together := coordinates_injective wide otherWide (apart.keys nonces)
        obtain ⟨heads, tails⟩ := List.cons.inj together
        refine ⟨congrArg some heads, fun key => ?_⟩
        rw [List.tail_cons, List.tail_cons, ← (sortKeys_perm rest).mem_iff, tails,
          (sortKeys_perm later).mem_iff]
      · rintro ⟨heads, members⟩
        obtain rfl := Option.some.inj heads
        have same : rest.Perm later :=
          (List.perm_ext_iff_of_nodup owners.rest_nodup otherOwners.rest_nodup).mpr members
        rw [computes_shuffled same ran] at otherRan
        cases otherRan
        rfl

/-- A Safe's address is the identity of its keys: it exists for one to seven
distinct keys of the curve's width, forgets the order of the later keys, is the
single-key address for one key, and is shared by no two wallets whose digests are
told apart. -/
theorem safe_identity [RadixErrors] :
    (∀ keys, (∃ info, computeSafeAddressMulti keys = .ok info) ↔ OwnerSet keys) ∧
      (∀ first rest shuffled info, rest.Perm shuffled →
        computeSafeAddressMulti (first :: rest) = .ok info →
        computeSafeAddressMulti (first :: shuffled) = .ok info) ∧
      (∀ key, computeSafeAddressMulti [key] = computeSafeAddress key.x key.y) ∧
      ∀ keys other info otherInfo, computeSafeAddressMulti keys = .ok info →
        computeSafeAddressMulti other = .ok otherInfo → Distinguished keys other info otherInfo →
        (info.address = otherInfo.address ↔ SameWallet keys other) := by
  refine ⟨computes_iff, ?_, computes_single, ?_⟩
  · intro first rest shuffled info same ran
    exact computes_shuffled same ran
  · intro keys other info otherInfo ran otherRan apart
    exact address_iff ran otherRan apart

/-- A big-integer library of no words. -/
@[reducible] def silentRadix : RadixErrors := ⟨fun _ _ => ""⟩

/-- A key of one repeated byte for each coordinate. -/
def plainKey (x y : UInt8) : P256PublicKey := ⟨List.replicate 32 x, List.replicate 32 y⟩

/-- Three keys in two orders: both have a Safe, it is the same one, and so the two
lists are one wallet. -/
theorem plainKeys_identity :
    ∃ info, @computeSafeAddressMulti silentRadix
        [plainKey 1 1, plainKey 3 3, plainKey 2 2] = .ok info ∧
      @computeSafeAddressMulti silentRadix
        [plainKey 1 1, plainKey 2 2, plainKey 3 3] = .ok info ∧
      SameWallet [plainKey 1 1, plainKey 3 3, plainKey 2 2]
        [plainKey 1 1, plainKey 2 2, plainKey 3 3] := by
  have identity := @safe_identity silentRadix
  have owners : OwnerSet [plainKey 1 1, plainKey 3 3, plainKey 2 2] :=
    ⟨by decide, by decide, by decide, by decide⟩
  obtain ⟨info, ran⟩ := (identity.1 _).mpr owners
  have shuffled := identity.2.1 _ _ [plainKey 2 2, plainKey 3 3] info (List.Perm.swap _ _ _) ran
  refine ⟨info, ran, shuffled, ?_⟩
  apply (identity.2.2.2 _ _ _ _ ran shuffled ?_).mp rfl
  have order : sortKeys [plainKey 3 3, plainKey 2 2] = sortKeys [plainKey 2 2, plainKey 3 3] :=
    sortKeys_eq (List.Perm.swap _ _ _)
  have keys : allXy [plainKey 1 1, plainKey 3 3, plainKey 2 2] =
      allXy [plainKey 1 1, plainKey 2 2, plainKey 3 3] := by
    rw [allXy, allXy, canonical, canonical, order]
  exact ⟨fun _ => keys, fun _ => rfl, fun _ => rfl⟩

end Safe

end VelaWallet
