import VelaWallet.Guard.SelfCall

/-!
# What the self-call guard refuses

On a request the signer accepts the guard never faults, and it refuses exactly
two kinds of leg: one whose target text is the account's up to case and whose
bytes open with a blocked selector, and one that smuggles such a call, or a
`delegatecall`, inside its payload.  A target that decodes to the account but
places a `+` sign elsewhere is of neither kind.
-/

namespace VelaWallet.SelfCallGuard

open Json (Value Reader)
open Utf8 (bytes ofAscii SlicePanic stripPrefix toAsciiLowercase)

variable {account : Address} {inner : InnerCall} {data : List UInt8} {legIndex : Option Nat}
  {safe text : String} {raw : Value} {leg : RequestCall × MultiSendCall} {target : String}
  {nested : Bool}

/-- The bytes open with a selector of the blocked set. -/
def Rewrites (data : List UInt8) : Prop :=
  ∃ entry ∈ blocked, fromHex entry.1 = .ok (data.take 4)

instance (data : List UInt8) : Decidable (Rewrites data) :=
  inferInstanceAs (Decidable (∃ entry ∈ blocked, fromHex entry.1 = .ok (data.take 4)))

/-- The signs of two address texts stand at the same places. -/
def SameSigns (left right : String) : Prop :=
  signsOf (stripPrefix hexMark (bytes left)) = signsOf (stripPrefix hexMark (bytes right))

instance (left right : String) : Decidable (SameSigns left right) :=
  inferInstanceAs (Decidable (_ = _))

def carried (data : List UInt8) : List InnerCall :=
  match selectorIn data with
  | none => []
  | some selector => innerCalls selector data

/-- A payload that carries a refused call within the given number of levels. -/
inductive Smuggles (safe : String) : Nat → List UInt8 → Prop where
  | delegate {levels : Nat} {data : List UInt8} {inner : InnerCall} :
      inner ∈ carried data → inner.operation = 1 → Smuggles safe (levels + 1) data
  | call {levels : Nat} {data below : List UInt8} {inner : InnerCall} :
      inner ∈ carried data → inner.operation ≠ 1 → fromHex inner.data = .ok below →
      sameAddress inner.target safe = true → Rewrites below → Smuggles safe (levels + 1) data
  | nested {levels : Nat} {data below : List UInt8} {inner : InnerCall} :
      inner ∈ carried data → inner.operation ≠ 1 → fromHex inner.data = .ok below →
      Smuggles safe levels below → Smuggles safe (levels + 1) data

/-- A call the inspection refuses. -/
def Offends (safe : String) (levels : Nat) (target : String) (data : List UInt8) : Prop :=
  (sameAddress target safe = true ∧ Rewrites data) ∨ Smuggles safe levels data

/-- The outcome is a verdict, not a fault, and refuses exactly under the
condition. -/
def Judges (outcome : Except SlicePanic (Option SelfCallBlock)) (condition : Prop) : Prop :=
  ∃ verdict, outcome = .ok verdict ∧ (verdict.isSome ↔ condition)

theorem Judges.refused_iff {outcome : Except SlicePanic (Option SelfCallBlock)} {condition : Prop}
    (judges : Judges outcome condition) :
    (∃ block, outcome = .ok (some block)) ↔ condition := by
  obtain ⟨verdict, rfl, exact⟩ := judges
  rw [← exact, Option.isSome_iff_exists]
  constructor
  · intro ⟨block, equality⟩
    exact ⟨block, Except.ok.inj equality⟩
  · intro ⟨block, equality⟩
    exact ⟨block, by rw [equality]⟩

theorem Judges.congr {outcome : Except SlicePanic (Option SelfCallBlock)} {left right : Prop}
    (judges : Judges outcome left) (same : left ↔ right) : Judges outcome right := by
  obtain ⟨verdict, equality, exact⟩ := judges
  exact ⟨verdict, equality, exact.trans same⟩

theorem trimmedBody_of_fromHex
    (read : fromHex text = .ok data) : trimmedBody text = stripPrefix hexMark (bytes text) := by
  have spelled := fromHexBytes_iff.mp read
  rw [trimmedBody, Utf8.trim_eq_self_of_bytes (fromHex_visible read)]
  apply Utf8.trimStartMatches_eq_stripPrefix
  · simp [hexMark]
  · exact spelled.not_mark

/-- From the index of a pair on, the loop of the guard's reader reads the rest of
a spelled text. -/
theorem hexBytesFrom_spelled {body : List UInt8} (ascii : Utf8.IsAscii body) {index : Nat}
    (spelled : Spelled (body.drop index) data) :
    hexBytesFrom body data.length index = .ok data := by
  induction data generalizing index with
  | nil => rfl
  | cons _ data ih =>
    generalize remains : body.drop index = rest at spelled
    cases spelled with
    | @cons high low _ text _ read tail =>
      have inside : index + 2 ≤ body.length := by
        have := congrArg List.length remains
        simp only [List.length_drop, List.length_cons] at this
        omega
      have pair : (body.drop index).take (index + 2 - index) = [high, low] := by
        rw [remains, Nat.add_sub_cancel_left]
        rfl
      have next : Spelled (body.drop (index + 2)) data := by
        rw [← List.drop_drop, remains]
        exact tail
      rw [List.length_cons, hexBytesFrom, Utf8.slice_ok ascii (by omega) inside, pair]
      simp only [read, ih next]
      rfl

theorem hexBytes_of_fromHex (read : fromHex text = .ok data) :
    hexBytes text = .ok data := by
  have spelled := fromHexBytes_iff.mp read
  have half : (stripPrefix hexMark (bytes text)).length / 2 = data.length := by
    have := spelled.length
    omega
  simp only [hexBytes, trimmedBody_of_fromHex read, half]
  apply hexBytesFrom_spelled
  · intro byte member
    exact (spelled.visible byte member).2
  · exact spelled

/-- Among texts of addresses the guard's comparison is equality of the address
and of the places of the signs. -/
theorem sameAddress_iff {left right : String} {first second : Address}
    (leftRead : parseAddress left = .ok first) (rightRead : parseAddress right = .ok second) :
    sameAddress left right = true ↔ first = second ∧ SameSigns left right := by
  have leftHex := parseAddress_ok.mp leftRead
  have rightHex := parseAddress_ok.mp rightRead
  have leftSpelled := fromHexBytes_iff.mp leftHex
  have rightSpelled := fromHexBytes_iff.mp rightHex
  rw [sameAddress, trimmedBody_of_fromHex leftHex, trimmedBody_of_fromHex rightHex,
    Utf8.eqIgnoreAsciiCase_iff]
  constructor
  · intro lowered
    have same : first.bytes = second.bytes := leftSpelled.data_eq rightSpelled lowered
    obtain rfl : first = second := Address.ext_bytes same
    exact ⟨rfl, (leftSpelled.lower_eq_iff rightSpelled).mp lowered⟩
  · intro ⟨same, signs⟩
    subst same
    exact (leftSpelled.lower_eq_iff rightSpelled).mpr signs

theorem blocked_written : ∀ entry ∈ blocked, ∃ selector, fromHex entry.1 = .ok selector ∧
    entry.1 = toHex selector true := by
  have written : ∀ entry ∈ blocked,
      (fromHex entry.1).map (toHex · true) = .ok entry.1 := by decide +kernel
  intro entry member
  have equality := written entry member
  cases read : fromHex entry.1 with
  | error =>
    rw [read] at equality
    cases equality
  | ok selector =>
    rw [read] at equality
    exact ⟨selector, rfl, (Except.ok.inj equality).symm⟩

theorem lower_toHexBytes (data : List UInt8) :
    toAsciiLowercase (toHexBytes data true) = hexMark ++ Hex.spell data := by
  calc toAsciiLowercase (toHexBytes data true)
      = toAsciiLowercase hexMark ++ toAsciiLowercase (Hex.spell data) := by
        simp [toHexBytes, toAsciiLowercase]
    _ = hexMark ++ Hex.spell data := by
        rw [(spelled_spell data).lower (Hex.plus_not_mem_spell data)]
        rfl

theorem eqIgnoreAsciiCase_toHex {left right : List UInt8} :
    eqIgnoreAsciiCase (toHex left true) (toHex right true) = true ↔ left = right := by
  rw [eqIgnoreAsciiCase, bytes_toHex, bytes_toHex, Utf8.eqIgnoreAsciiCase_iff, lower_toHexBytes,
    lower_toHexBytes]
  constructor
  · intro written
    exact Hex.spell_injective (List.append_cancel_left written)
  · intro same
    rw [same]

theorem blockedFunction_isSome {selector : List UInt8} :
    (blockedFunction (toHex selector true)).isSome ↔
      ∃ entry ∈ blocked, fromHex entry.1 = .ok selector := by
  rw [blockedFunction, Option.isSome_map, List.find?_isSome]
  constructor
  · intro ⟨entry, member, same⟩
    obtain ⟨written, read, spelling⟩ := blocked_written entry member
    rw [spelling, eqIgnoreAsciiCase_toHex] at same
    exact ⟨entry, member, by rw [read, same]⟩
  · intro ⟨entry, member, read⟩
    obtain ⟨written, readWritten, spelling⟩ := blocked_written entry member
    rw [read] at readWritten
    cases readWritten
    refine ⟨entry, member, ?_⟩
    rw [spelling, eqIgnoreAsciiCase_toHex]

theorem selectorIn_none (absent : selectorIn data = none) : ¬ Rewrites data := by
  have short : data.length < 4 := by
    by_contra long
    rw [selectorIn, if_pos (Nat.le_of_not_lt long)] at absent
    cases absent
  have lengths : ∀ entry ∈ blocked, (fromHex entry.1).map List.length = .ok 4 := by decide
  intro ⟨entry, member, read⟩
  have length := lengths entry member
  rw [read] at length
  have := Except.ok.inj length
  rw [List.length_take] at this
  omega

theorem selectorIn_some {selector : String}
    (present : selectorIn data = some selector) : selector = toHex (data.take 4) true := by
  unfold selectorIn at present
  split at present
  · exact (Option.some.inj present).symm
  · cases present

theorem decodePacked_written {rounds : Nat} {payload : List UInt8}
    (member : inner ∈ decodePacked rounds payload) : ∃ below, fromHex inner.data = .ok below := by
  induction rounds generalizing payload with
  | zero => cases member
  | succ _ ih =>
    rw [decodePacked] at member
    split at member
    case isTrue => cases member
    case isFalse =>
      simp only at member
      split at member
      case isTrue => cases member
      case isFalse =>
        rcases List.mem_cons.mp member with rfl | later
        · exact ⟨_, fromHex_toHex _⟩
        · exact ih later

theorem decodeExecTransactionBytes_written
    (member : inner ∈ (decodeExecTransactionBytes data).toList) :
    ∃ below, fromHex inner.data = .ok below := by
  have blank : ∃ below, fromHex "" = .ok below := ⟨[], rfl⟩
  rw [Option.mem_toList, decodeExecTransactionBytes] at member
  split at member
  · cases member
  · cases Option.some.inj member
    dsimp only
    split
    · split
      · exact ⟨_, fromHex_toHex _⟩
      · exact blank
    · exact blank

theorem carried_written (member : inner ∈ carried data) :
    ∃ below, fromHex inner.data = .ok below := by
  unfold carried at member
  split at member
  · cases member
  · rcases List.mem_append.mp member with packed | exec
    · split at packed
      · unfold decodeMultiSendBytes at packed
        split at packed
        · cases packed
        · exact decodePacked_written packed
      · cases packed
    · split at exec
      · exact decodeExecTransactionBytes_written exec
      · cases exec

theorem firstBlock_judges {α : Type} {inspect : α → Except SlicePanic (Option SelfCallBlock)}
    {condition : α → Prop} {calls : List α}
    (each : ∀ call ∈ calls, Judges (inspect call) (condition call)) :
    Judges (firstBlock inspect calls) (∃ call ∈ calls, condition call) := by
  induction calls with
  | nil => exact ⟨none, rfl, by simp⟩
  | cons call _ ih =>
    obtain ⟨verdict, equality, exact⟩ := each call List.mem_cons_self
    have rest := ih fun other member => each other (List.mem_cons_of_mem _ member)
    unfold firstBlock
    rw [equality]
    cases verdict with
    | some block =>
      have offends : condition call := exact.mp rfl
      exact ⟨some block, rfl, by simp [offends]⟩
    | none =>
      have passes : ¬ condition call := by simpa using exact
      exact rest.congr (by simp [passes])

theorem delegateBlock_judges {below : List UInt8}
    (read : fromHex inner.data = .ok below) : Judges (delegateBlock inner legIndex) True := by
  rw [delegateBlock, selectorOf, hexBytes_of_fromHex read]
  exact ⟨_, rfl, by simp⟩

/-- What one inner call must be for its inspection to refuse it. -/
def InnerOffends (safe : String) (levels : Nat) (inner : InnerCall) : Prop :=
  inner.operation = 1 ∨
    (inner.operation ≠ 1 ∧ ∃ below, fromHex inner.data = .ok below ∧
      Offends safe levels inner.target below)

theorem smuggles_succ {levels : Nat} :
    Smuggles safe (levels + 1) data ↔ ∃ inner ∈ carried data, InnerOffends safe levels inner := by
  constructor
  · intro smuggles
    cases smuggles with
    | delegate member operation => exact ⟨_, member, Or.inl operation⟩
    | call member operation read same rewrites =>
      exact ⟨_, member, Or.inr ⟨operation, _, read, Or.inl ⟨same, rewrites⟩⟩⟩
    | nested member operation read below =>
      exact ⟨_, member, Or.inr ⟨operation, _, read, Or.inr below⟩⟩
  · intro ⟨inner, member, offends⟩
    rcases offends with operation | ⟨operation, below, read, ⟨same, rewrites⟩ | deeper⟩
    · exact .delegate member operation
    · exact .call member operation read same rewrites
    · exact .nested member operation read deeper

theorem ownBlock_isSome {safe : String} {legIndex : Option Nat}
    {data : List UInt8} :
    (ownBlock safe legIndex nested target (toHex (data.take 4) true)).isSome ↔
      sameAddress target safe = true ∧ Rewrites data := by
  unfold ownBlock
  split
  case isTrue same =>
    rw [Option.isSome_map, blockedFunction_isSome]
    simp [same, Rewrites]
  case isFalse other => simp [other]

theorem inspectWith_judges
    {payload : String → List UInt8 → Except SlicePanic (Option SelfCallBlock)} {below : Prop}
    (read : hexBytes text = .ok data)
    (opened : ∀ selector, selectorIn data = some selector → Judges (payload selector data) below)
    (closed : selectorIn data = none → ¬ below) :
    Judges (inspectWith safe legIndex nested target text payload)
      ((sameAddress target safe = true ∧ Rewrites data) ∨ below) := by
  rw [inspectWith, read]
  dsimp only
  cases selected : selectorIn data with
  | none => exact ⟨none, rfl, by simp [selectorIn_none selected, closed selected]⟩
  | some selector =>
    have own := @ownBlock_isSome target nested safe legIndex data
    rw [← selectorIn_some selected] at own
    dsimp only
    cases block : ownBlock safe legIndex nested target selector with
    | some refusal =>
      rw [block] at own
      exact ⟨some refusal, rfl, by simp [own.mp rfl]⟩
    | none =>
      rw [block] at own
      have passes : ¬ (sameAddress target safe = true ∧ Rewrites data) := by simpa using own
      exact (opened selector selected).congr (by simp [passes])

/-- Inspecting a call whose bytes are read is a verdict that refuses the offending
calls and no other. -/
theorem inspectCall_judges {levels : Nat} (read : hexBytes text = .ok data) :
    Judges (inspectCall safe legIndex levels nested target text)
      (Offends safe levels target data) := by
  induction levels generalizing nested target text data with
  | zero =>
    have flat : ¬ Smuggles safe 0 data := nofun
    apply inspectWith_judges read
    · intro selector selected
      exact ⟨none, rfl, by simp [flat]⟩
    · intro _
      exact flat
  | succ _ ih =>
    apply inspectWith_judges read
    · intro selector selected
      have all : carried data = innerCalls selector data := by rw [carried, selected]
      rw [smuggles_succ, all]
      apply firstBlock_judges
      intro inner member
      obtain ⟨below, readBelow⟩ := carried_written (all ▸ member)
      split
      case isTrue operation =>
        exact (delegateBlock_judges readBelow).congr (by simp [InnerOffends, operation])
      case isFalse operation =>
        exact (ih (hexBytes_of_fromHex readBelow)).congr (by simp [InnerOffends, operation, readBelow])
    · intro absent
      rw [smuggles_succ]
      intro ⟨inner, member, _⟩
      rw [carried, absent] at member
      cases member

/-! ## Requests -/

/-- The data text the guard reads of a call object. -/
def guardText (raw : Value) : String := ((raw.get? "data").bind Value.asStr?).getD ""

theorem guardText_decodes
    (signed : SignedAs raw leg) : fromHex (guardText raw) = .ok leg.2.data := by
  have decoded := (toMultiSendCall_ok signed.accepted).2
  have dataRead := (callOf_some signed.read).2.2
  have blank : leg.1.data = "0x" → guardText raw = "" → fromHex (guardText raw) = .ok leg.2.data := by
    intro shown absent
    rw [shown] at decoded
    rw [absent, ← decoded]
    rfl
  cases member : raw.get? "data" with
  | none =>
    rw [member] at dataRead
    exact blank (Option.some.inj dataRead).symm (by simp [guardText, member])
  | some value =>
    rw [member] at dataRead
    cases value with
    | string text =>
      by_cases empty : text = ""
      · subst empty
        exact blank (Option.some.inj dataRead).symm (by simp [guardText, member])
      · have kept : text = leg.1.data := by simpa [callData, empty] using dataRead
        rw [guardText, member, Option.bind_some, Value.asStr?_string, Option.getD_some, kept]
        exact decoded
    | null => exact blank (Option.some.inj dataRead).symm (by simp [guardText, member, Value.asStr?])
    | bool | number | array | object => cases dataRead

theorem inspectRaw_judges (signed : SignedAs raw leg) :
    Judges (inspectCall safe legIndex maxDepth false leg.2.target (guardText raw))
      (Offends safe maxDepth leg.2.target leg.2.data) :=
  inspectCall_judges (hexBytes_of_fromHex (guardText_decodes signed))

theorem trim_ne_empty (own : parseAddress safe = .ok account) :
    Utf8.trim safe ≠ "" := by
  have read := parseAddress_ok.mp own
  rw [Utf8.trim_eq_self_of_bytes (fromHex_visible read)]
  rintro rfl
  have length := account.length_eq
  rw [← Except.ok.inj read] at length
  cases length

theorem targetText_of_signed
    (signed : SignedAs raw leg) : (raw.get? "to").bind Value.asStr? = some leg.2.target := by
  rw [(callOf_some signed.read).1, (toMultiSendCall_ok signed.accepted).1]
  rfl

/-- On a request the signer accepts the guard's answer is a verdict, and it
refuses exactly when one of the signed legs offends. -/
theorem detectSelfCall_judges [Reader] {method : String} {params : Value}
    (transaction : method = "eth_sendTransaction" ∨ method = "wallet_sendCalls")
    (own : parseAddress safe = .ok account) {legs : List (RequestCall × MultiSendCall)}
    (signed : signedLegs method params = some legs) :
    Judges (detectSelfCall method (some params) safe)
      (∃ leg ∈ legs, Offends safe maxDepth leg.2.target leg.2.data) := by
  obtain ⟨raws, rawsRead, sources, images⟩ := signedLegs_raws signed
  unfold rawCalls at rawsRead
  simp only [Option.bind_eq_bind, Option.bind_eq_some_iff] at rawsRead
  obtain ⟨first, firstAt, rawsRead⟩ := rawsRead
  have untyped : namesTypedData method = false := by
    rcases transaction with rfl | rfl <;> decide
  simp only [detectSelfCall, trim_ne_empty own, untyped, if_false, Bool.false_eq_true]
  rcases transaction with rfl | rfl
  · simp only [String.reduceEq, if_false, Option.some.injEq] at rawsRead
    subst rawsRead
    obtain ⟨leg, legMember, signedAs⟩ := images first List.mem_cons_self
    simp only [if_true, firstAt, targetText_of_signed signedAs]
    apply (inspectRaw_judges signedAs).congr
    constructor
    · intro offends
      exact ⟨leg, legMember, offends⟩
    · intro ⟨other, otherMember, offends⟩
      obtain ⟨raw, rawMember, otherSigned⟩ := sources other otherMember
      obtain rfl : raw = first := by simpa using rawMember
      rw [signedAs.unique otherSigned]
      exact offends
  · simp only [if_true, Option.bind_eq_some_iff] at rawsRead
    obtain ⟨callsMember, callsAt, callsRead⟩ := rawsRead
    simp only [String.reduceEq, if_false, if_true, firstAt, callsAt, callsRead, Option.bind_some]
    -- A numbered leg offends when the leg it is signed as does.
    have each : ∀ numbered ∈ raws.zipIdx.map fun leg => (leg.2, leg.1),
        Judges (inspectLeg safe numbered)
          (∃ leg ∈ legs, SignedAs numbered.2 leg ∧ Offends safe maxDepth leg.2.target leg.2.data) := by
      intro numbered member
      obtain ⟨⟨raw, index⟩, placed, rfl⟩ := List.mem_map.mp member
      obtain ⟨leg, legMember, signedAs⟩ := images raw (List.fst_mem_of_mem_zipIdx placed)
      simp only [inspectLeg, targetText_of_signed signedAs]
      apply (inspectRaw_judges signedAs).congr
      constructor
      · intro offends
        exact ⟨leg, legMember, signedAs, offends⟩
      · intro ⟨other, _, otherSigned, offends⟩
        rw [signedAs.unique otherSigned]
        exact offends
    apply (firstBlock_judges each).congr
    constructor
    · intro ⟨_, _, leg, legMember, _, offends⟩
      exact ⟨leg, legMember, offends⟩
    · intro ⟨leg, legMember, offends⟩
      obtain ⟨raw, rawMember, signedAs⟩ := sources leg legMember
      obtain ⟨index, found⟩ := List.mem_iff_getElem?.mp rawMember
      have placed : (raw, index) ∈ raws.zipIdx := List.mk_mem_zipIdx_iff_getElem?.mpr found
      exact ⟨(index, raw), List.mem_map.mpr ⟨(raw, index), placed, rfl⟩, leg, legMember, signedAs,
        offends⟩

def Refuses [Reader] (method : String) (params : Value) (safe : String) : Prop :=
  ∃ block, detectSelfCall method (some params) safe = .ok (some block)

/-- A signed leg that calls the account with a blocked selector. -/
def RewritesAccount (account : Address) (leg : RequestCall × MultiSendCall) : Prop :=
  parseAddress leg.2.target = .ok account ∧ Rewrites leg.2.data

theorem refuses_iff [Reader] {method : String} {params : Value}
    (transaction : method = "eth_sendTransaction" ∨ method = "wallet_sendCalls")
    (own : parseAddress safe = .ok account) {legs : List (RequestCall × MultiSendCall)}
    (signed : signedLegs method params = some legs) :
    Refuses method params safe ↔ ∃ leg ∈ legs, Offends safe maxDepth leg.2.target leg.2.data :=
  (detectSelfCall_judges transaction own signed).refused_iff

/-- The guard takes a target for the account: an address that is the account with
its signs at the same places, or an unreadable text that is the account's up to
case. -/
def TakenFor (account : Address) (safe target : String) : Prop :=
  match parseAddress target with
  | .ok address => address = account ∧ SameSigns target safe
  | .error _ => sameAddress target safe = true

instance (account : Address) (safe target : String) : Decidable (TakenFor account safe target) := by
  unfold TakenFor
  split <;> infer_instance

theorem takenFor_iff (own : parseAddress safe = .ok account) :
    sameAddress target safe = true ↔ TakenFor account safe target := by
  unfold TakenFor
  split
  case h_1 read => exact sameAddress_iff read own
  case h_2 => exact Iff.rfl

/-- Legs that rewrite the account are refused exactly when some leg with a blocked
selector is taken for one on the account, as every target written with the signs
of the account's own text is, or a leg smuggles a refused call in its payload. -/
theorem rewritesAccount_refused_iff [Reader] {method : String} {params : Value} {safe : String}
    {account : Address} (transaction : method = "eth_sendTransaction" ∨ method = "wallet_sendCalls")
    (own : parseAddress safe = .ok account) {legs : List (RequestCall × MultiSendCall)}
    (signed : signedLegs method params = some legs) :
    ((∃ leg ∈ legs, RewritesAccount account leg) → Refuses method params safe) ↔
      ((∃ leg ∈ legs, RewritesAccount account leg) →
        ∃ leg ∈ legs, (TakenFor account safe leg.2.target ∧ Rewrites leg.2.data) ∨
          Smuggles safe maxDepth leg.2.data) := by
  apply imp_congr_right
  intro _
  rw [refuses_iff transaction own signed]
  apply exists_congr
  intro leg
  rw [Offends, takenFor_iff own]

/-- The verdict on a request without nested JSON. -/
def plainVerdict : String → Option Value → String → Except SlicePanic (Option SelfCallBlock) :=
  @detectSelfCall Json.noReader

def sampleSafe : String := "0x1100000000000000000000000000000000045aC0"

def sampleAccount : Address :=
  ⟨[0x11, 0, 0, 0, 0, 0, 0, 0, 0, 0, 0, 0, 0, 0, 0, 0, 0, 0x04, 0x5a, 0xc0], rfl⟩

/-- The same address with its byte `04` written `+4`. -/
def signedSafe : String := "0x1100000000000000000000000000000000+45aC0"

/-- `changeThreshold(1)`. -/
def changeThresholdCall : String :=
  "0x694e80c30000000000000000000000000000000000000000000000000000000000000001"

def changeThresholdBytes : List UInt8 := [0x69, 0x4e, 0x80, 0xc3] ++ List.replicate 31 0 ++ [1]

theorem rewritesAccount_refused_iff_changeThreshold :
    ((∃ leg ∈ [loneLeg sampleSafe changeThresholdCall changeThresholdBytes],
        RewritesAccount sampleAccount leg) →
      @Refuses Json.noReader "eth_sendTransaction" (loneRequest sampleSafe changeThresholdCall)
        sampleSafe) ↔
      ((∃ leg ∈ [loneLeg sampleSafe changeThresholdCall changeThresholdBytes],
          RewritesAccount sampleAccount leg) →
        ∃ leg ∈ [loneLeg sampleSafe changeThresholdCall changeThresholdBytes],
          (TakenFor sampleAccount sampleSafe leg.2.target ∧ Rewrites leg.2.data) ∨
            Smuggles sampleSafe maxDepth leg.2.data) :=
  @rewritesAccount_refused_iff Json.noReader "eth_sendTransaction"
    (loneRequest sampleSafe changeThresholdCall) sampleSafe sampleAccount (Or.inl rfl)
    (by decide) [loneLeg sampleSafe changeThresholdCall changeThresholdBytes]
    (by decide)

/-- A signed leg that changes the account's threshold passes the guard when its
target writes the account with a sign. -/
theorem rewritesAccount_passes :
    parseAddress sampleSafe = .ok sampleAccount ∧
      signedLegs "eth_sendTransaction" (loneRequest signedSafe changeThresholdCall) =
        some [loneLeg signedSafe changeThresholdCall changeThresholdBytes] ∧
      parseAddress signedSafe = .ok sampleAccount ∧ Rewrites changeThresholdBytes ∧
      plainVerdict "eth_sendTransaction" (some (loneRequest signedSafe changeThresholdCall))
        sampleSafe = .ok none := by
  refine ⟨?_, ?_, ?_, ?_, ?_⟩ <;> decide

end VelaWallet.SelfCallGuard
