import VelaWallet.Codec.SignedAmount

/-!
# Params in canonical form

`canonical_params_json` leaves a request what it was.  What it writes is canonical already, holds
the calls that `calls_of` reads of the params as sent, and differs from them in no member but the
values of the calls; and it takes every request that `calls_of` reads.
-/

namespace VelaWallet

open Json (Value Reader Writer fromStr toStr)
open Utf8 (bytes)
open Fallible (bind_ok pure_ok)

section Calls

variable {leg : Option Nat} {sent held : Value} {changed : Bool}

def canonicalText (text : List UInt8) : String :=
  if (significantDigits text).isEmpty then "0x0"
  else Utf8.ofAscii (hexMark ++ Utf8.toAsciiLowercase (significantDigits text))

theorem canonicalText_canonicalText {text : List UInt8}
    (readable : ∀ byte ∈ significantDigits text, Hex.IsDigit byte) :
    canonicalText (bytes (canonicalText text)) = canonicalText text := by
  by_cases blank : (significantDigits text).isEmpty = true
  · have zero : canonicalText text = "0x0" := if_pos blank
    rw [zero]
    decide
  · have written : canonicalText text =
        Utf8.ofAscii (hexMark ++ Utf8.toAsciiLowercase (significantDigits text)) := if_neg blank
    have ascii : Utf8.IsAscii (hexMark ++ Utf8.toAsciiLowercase (significantDigits text)) := by
      have mark : Utf8.IsAscii hexMark := by decide
      have digits : Utf8.IsAscii (significantDigits text) := by
        intro byte member
        obtain ⟨_, read⟩ := Option.isSome_iff_exists.mp (readable byte member)
        exact (Hex.digitValue?_visible read).2
      intro byte member
      rcases List.mem_append.mp member with inMark | inDigits
      · exact mark byte inMark
      · exact Utf8.isAscii_toAsciiLowercase digits byte inDigits
    have marked : hexMark.isPrefixOf (hexMark ++ Utf8.toAsciiLowercase (significantDigits text)) =
        true := List.isPrefixOf_iff_prefix.mpr (List.prefix_append _ _)
    have significant : significantDigits (bytes (canonicalText text)) =
        Utf8.toAsciiLowercase (significantDigits text) := by
      rw [written, Utf8.bytes_ofAscii ascii, significantDigits, if_pos marked]
      change (Utf8.toAsciiLowercase (significantDigits text)).dropWhile (· == 48) = _
      unfold significantDigits
      split
      · exact dropWhile_lower _
      · rfl
    have lowered : Utf8.toAsciiLowercase (Utf8.toAsciiLowercase (significantDigits text)) =
        Utf8.toAsciiLowercase (significantDigits text) := by
      simp [Utf8.toAsciiLowercase, Utf8.asciiLower_asciiLower]
    have filled : ¬ (Utf8.toAsciiLowercase (significantDigits text)).isEmpty = true := by
      simpa [Utf8.toAsciiLowercase] using blank
    rw [canonicalText, significant, if_neg filled, lowered, written]

theorem canonicalValue_canonical {value : Value} {canonical : String}
    (made : canonicalValue value = some canonical) :
    canonicalValue (.string canonical) = some canonical := by
  have kept := valueWei_canonical made
  obtain ⟨wei, read, rfl⟩ := Option.map_eq_some_iff.mp made
  apply Option.map_eq_some_iff.mpr
  refine ⟨wei, kept.trans read, ?_⟩
  apply canonicalText_canonicalText
  intro byte member
  cases value with
  | string =>
    rcases valueWeiText_digits read with ⟨blank, _⟩ | ⟨_, readable, _⟩
    · rw [Value.asStr?_string, Option.getD_some, blank] at member
      cases member
    · exact readable byte member
  | _ => cases member

theorem canonicalize_held (made : canonicalize leg sent = .ok (held, changed)) (other : Option Nat) :
    canonicalize other held = .ok (held, false) := by
  rcases canonicalize_cases made with ⟨_, rfl, kept⟩ | ⟨members, value, canonical, _, _, written,
    _, rfl⟩
  · cases held with
    | object members =>
      rw [canonicalize]
      cases present : Value.lookup "value" members with
      | none => rfl
      | some value =>
        rcases kept value present with rfl | ⟨text, rfl, canonical⟩
        · rfl
        · simp [canonical]
    | _ => rfl
  · simp [canonicalize, canonicalValue_canonical written]

/-- A value and one that differs from it in the member under `key` only. -/
structure SameBesides (key : String) (sent held : Value) : Prop where
  member : ∀ other, other ≠ key → held.get? other = sent.get? other
  isObject : held.isObject = sent.isObject
  same : sent.isObject = false → held = sent

theorem sameBesides_insert (key : String) (value : Value) (members : List (String × Value)) :
    SameBesides key (.object members) (.object (Value.insertMember key value members)) := by
  refine ⟨?_, rfl, nofun⟩
  intro other different
  exact Value.lookup_insertMember_other different.symm value members

theorem canonicalize_besides (made : canonicalize leg sent = .ok (held, changed)) :
    SameBesides "value" sent held := by
  rcases canonicalize_cases made with ⟨_, rfl, _⟩ | ⟨members, _, _, rfl, _, _, _, rfl⟩
  · exact ⟨fun _ _ => rfl, rfl, fun _ => rfl⟩
  · exact sameBesides_insert _ _ _

theorem callOf_held (arrives : Arrives sent held) : callOf held = callOf sent := by
  let _ := Json.noWriter
  have value := arrives.reads.2
  obtain ⟨leg, changed, made⟩ := arrives
  have besides := (canonicalize_besides made).member
  rw [callOf, callOf, besides "to" (by decide), besides "data" (by decide), value]

theorem canonicalize_taken (readable : valueWei (sent.get? "value") ≠ none) (leg : Option Nat) :
    ∃ made, canonicalize leg sent = .ok made := by
  cases sent with
  | object =>
    rw [Value.get?_object] at readable
    rw [canonicalize]
    split
    case h_1 | h_2 => exact ⟨_, rfl⟩
    case h_3 value _ present =>
      rw [present] at readable
      have written : (canonicalValue value).isSome := by
        rw [canonicalValue, Option.isSome_map]
        exact Option.isSome_iff_ne_none.mpr readable
      obtain ⟨canonical, written⟩ := Option.isSome_iff_exists.mp written
      rw [written]
      dsimp only
      split <;> exact ⟨_, rfl⟩
  | _ => exact ⟨_, rfl⟩

theorem taken_of_callOf {call : RequestCall} (read : callOf sent = some call) (leg : Option Nat) :
    ∃ made, canonicalize leg sent = .ok made := by
  apply canonicalize_taken
  intro unread
  simp [callOf, unread] at read

end Calls

theorem mapM_canonical {calls : List Value} (index : Nat)
    (canonical : ∀ call ∈ calls, ∀ leg, canonicalize leg call = .ok (call, false)) :
    (calls.zipIdx index).mapM (fun call => canonicalize (some call.2) call.1) =
      .ok (calls.map fun call => (call, false)) := by
  induction calls generalizing index with
  | nil => rfl
  | cons call _ ih =>
    rw [List.zipIdx_cons, List.mapM_cons, canonical call List.mem_cons_self,
      ih (index + 1) fun later member => canonical later (List.mem_cons_of_mem _ member)]
    rfl

theorem mapM_taken {calls : List Value} {read : List RequestCall}
    (reads : calls.mapM callOf = some read) (index : Nat) :
    ∃ made, (calls.zipIdx index).mapM (fun call => canonicalize (some call.2) call.1) = .ok made := by
  induction calls generalizing index read with
  | nil => exact ⟨[], rfl⟩
  | cons _ _ ih =>
    simp only [List.mapM_cons, Option.bind_eq_bind, Option.bind_eq_some_iff] at reads
    obtain ⟨first, firstRead, later, laterRead, _⟩ := reads
    obtain ⟨head, headMade⟩ := taken_of_callOf firstRead (some index)
    obtain ⟨tail, tailMade⟩ := ih laterRead (index + 1)
    rw [List.zipIdx_cons, List.mapM_cons, headMade, tailMade]
    exact ⟨_, rfl⟩

theorem mapM_callOf {sent held : List Value} (arrive : List.Forall₂ Arrives sent held) :
    held.mapM callOf = sent.mapM callOf := by
  induction arrive with
  | nil => rfl
  | cons head _ ih => rw [List.mapM_cons, List.mapM_cons, callOf_held head, ih]

section First

variable {method : String} {first held : Value} {changed : Bool}

theorem canonicalizeFirst_held (made : canonicalizeFirst method first = .ok (held, changed)) :
    ∃ again, canonicalizeFirst method held = .ok (again, false) := by
  rcases canonicalizeFirst_cases made with ⟨lone, call⟩ | ⟨rfl, ⟨_, rfl, rfl⟩ |
    ⟨members, calls, each, _, _, arrived, rfl, _⟩⟩
  · refine ⟨held, ?_⟩
    unfold canonicalizeFirst
    rw [if_neg lone]
    exact canonicalize_held call none
  · exact ⟨held, made⟩
  · have fixed : ∀ call ∈ each.map (·.1), ∀ leg, canonicalize leg call = .ok (call, false) := by
      intro call member leg
      obtain ⟨sent, _, _, _, there⟩ :=
        Fallible.forall₂_source (arrives_of_mapM arrived).flip member
      exact canonicalize_held there leg
    rw [canonicalizeFirst, if_pos rfl]
    simp only [Value.lookup_insertMember_self, Option.bind_some, Value.asArray?_array,
      mapM_canonical 0 fixed]
    refine ⟨_, congrArg Except.ok (Prod.ext rfl ?_)⟩
    simp

/-- The first param as held differs from the one that was sent in nothing but its calls' values. -/
def SameBesidesValues (method : String) (sent held : Value) : Prop :=
  if method = "wallet_sendCalls" then
    SameBesides "calls" sent held ∧ ∃ before behind,
      (sent.get? "calls").bind Value.asArray? = some before ∧
        (held.get? "calls").bind Value.asArray? = some behind ∧
          List.Forall₂ (SameBesides "value") before behind
  else SameBesides "value" sent held

theorem canonicalizeFirst_besides (made : canonicalizeFirst method first = .ok (held, true)) :
    SameBesidesValues method first held := by
  rcases canonicalizeFirst_cases made with ⟨lone, call⟩ | ⟨rfl, ⟨_, _, impossible⟩ |
    ⟨members, calls, each, rfl, present, arrived, rfl, _⟩⟩
  · rw [SameBesidesValues, if_neg lone]
    exact canonicalize_besides call
  · cases impossible
  · rw [SameBesidesValues, if_pos rfl]
    refine ⟨sameBesides_insert _ _ _, calls, each.map (·.1), present, ?_, ?_⟩
    · rw [Value.get?_object, Value.lookup_insertMember_self]
      rfl
    · apply (arrives_of_mapM arrived).imp
      rintro sent held ⟨_, _, made⟩
      exact canonicalize_besides made

theorem rawCalls_held {rest : List Value} (made : canonicalizeFirst method first = .ok (held, true)) :
    ∃ sent raws, rawCalls method (.array (first :: rest)) = some sent ∧
      rawCalls method (.array (held :: rest)) = some raws ∧ List.Forall₂ Arrives sent raws := by
  rcases canonicalizeFirst_cases made with ⟨lone, call⟩ | ⟨rfl, ⟨_, _, impossible⟩ |
    ⟨members, calls, each, _, present, arrived, rfl, _⟩⟩
  · exact ⟨_, _, rawCalls_lone lone _ _, rawCalls_lone lone _ _, .cons ⟨none, true, call⟩ .nil⟩
  · cases impossible
  · refine ⟨calls, each.map (·.1), present, ?_, arrives_of_mapM arrived⟩
    rw [rawCalls_batch, Value.get?_object, Value.lookup_insertMember_self]
    rfl

theorem canonicalizeFirst_taken {rest raws : List Value} {read : List RequestCall}
    (calls : rawCalls method (.array (first :: rest)) = some raws)
    (reads : raws.mapM callOf = some read) : ∃ made, canonicalizeFirst method first = .ok made := by
  by_cases batch : method = "wallet_sendCalls"
  · subst batch
    rw [rawCalls_batch] at calls
    cases first with
    | object =>
      rw [Value.get?_object] at calls
      obtain ⟨made, taken⟩ := mapM_taken reads 0
      rw [canonicalizeFirst, if_pos rfl]
      simp only [calls, taken]
      exact ⟨_, rfl⟩
    | _ => cases calls
  · rw [rawCalls_lone batch] at calls
    cases calls
    simp only [List.mapM_cons, Option.bind_eq_bind, Option.bind_eq_some_iff] at reads
    obtain ⟨call, callRead, _⟩ := reads
    unfold canonicalizeFirst
    rw [if_neg batch]
    exact taken_of_callOf callRead none

end First

section Requests

variable [Reader] [Writer]

def callsOfText (method paramsJson : String) : Option (List RequestCall) :=
  (fromStr paramsJson).bind (callsOf method)

theorem heldParams_cases {method paramsJson text : String}
    (held : heldParams method paramsJson = .ok text) :
    (text = paramsJson ∧ canonicalParamsJson method paramsJson = .ok none) ∨
    ∃ first rest value, isTransactionMethod method = true ∧
      fromStr paramsJson = some (.array (first :: rest)) ∧
      canonicalizeFirst method first = .ok (value, true) ∧ text = toStr (.array (value :: rest)) := by
  unfold heldParams at held
  cases made : canonicalParamsJson method paramsJson with
  | error =>
    rw [made] at held
    cases held
  | ok =>
    rw [made] at held
    cases held
    unfold canonicalParamsJson at made
    split at made
    case isTrue =>
      cases made
      exact .inl ⟨rfl, rfl⟩
    case isFalse transaction =>
      split at made
      case h_1 first rest parsed =>
        obtain ⟨⟨value, changed⟩, taken, made⟩ := bind_ok.mp made
        cases changed with
        | true =>
          cases made
          exact .inr ⟨first, rest, value, by simpa using transaction, parsed, taken, rfl⟩
        | false =>
          cases made
          exact .inl ⟨rfl, rfl⟩
      case h_2 =>
        cases made
        exact .inl ⟨rfl, rfl⟩

/-- A text that is taken is held in canonical form: the form is canonical, its calls are those of
the text as sent, and nothing but the calls' values was changed.  A text whose calls are read is
taken. -/
theorem canonicalParams_preserve {method paramsJson : String}
    (readBack : ∀ first rest held, fromStr paramsJson = some (.array (first :: rest)) →
      canonicalizeFirst method first = .ok (held, true) →
      fromStr (toStr (.array (held :: rest))) = some (.array (held :: rest))) :
    (∀ text, heldParams method paramsJson = .ok text →
      canonicalParamsJson method text = .ok none ∧
      callsOfText method text = callsOfText method paramsJson ∧
      (text = paramsJson ∨ ∃ first held rest, fromStr paramsJson = some (.array (first :: rest)) ∧
        fromStr text = some (.array (held :: rest)) ∧ SameBesidesValues method first held)) ∧
    (callsOfText method paramsJson ≠ none → ∃ text, heldParams method paramsJson = .ok text) := by
  constructor
  · intro text held
    rcases heldParams_cases held with ⟨rfl, canonical⟩ | ⟨first, rest, value, transaction, parsed,
      made, rfl⟩
    · exact ⟨canonical, rfl, .inl rfl⟩
    · have reads := readBack first rest value parsed made
      obtain ⟨again, fixed⟩ := canonicalizeFirst_held made
      obtain ⟨sent, raws, sentRead, heldRead, arrive⟩ := @rawCalls_held _ _ _ rest made
      refine ⟨?_, ?_, .inr ⟨first, value, rest, parsed, reads, canonicalizeFirst_besides made⟩⟩
      · rw [canonicalParamsJson, transaction, reads]
        simp only [Bool.not_true, Bool.false_eq_true, if_false, fixed]
        rfl
      · rw [callsOfText, callsOfText, parsed, reads, Option.bind_some, Option.bind_some, callsOf,
          callsOf, sentRead, heldRead, Option.bind_eq_bind, Option.bind_some, Option.bind_some,
          mapM_callOf arrive]
  · intro read
    by_cases transaction : isTransactionMethod method = true
    · obtain ⟨calls, read⟩ := Option.ne_none_iff_exists'.mp read
      obtain ⟨params, parsed, read⟩ := Option.bind_eq_some_iff.mp read
      simp only [callsOf, Option.bind_eq_bind, Option.bind_eq_some_iff] at read
      obtain ⟨raws, rawsRead, each, reads, _⟩ := read
      unfold heldParams canonicalParamsJson
      rw [transaction, parsed]
      cases params with
      | array items =>
        cases items with
        | nil => exact ⟨_, rfl⟩
        | cons =>
          obtain ⟨made, taken⟩ := canonicalizeFirst_taken rawsRead reads
          simp only [Bool.not_true, Bool.false_eq_true, if_false, taken]
          exact ⟨_, rfl⟩
      | _ => exact ⟨_, rfl⟩
    · unfold heldParams canonicalParamsJson
      simp [transaction, Except.map]

end Requests

/-- The transfer of ten wei is held in lower case. -/
theorem canonicalParams_preserve_ten :
    @canonicalParamsJson sampleReader sampleWriter "eth_sendTransaction" "held" = .ok none ∧
      @callsOfText sampleReader "eth_sendTransaction" "held" =
        @callsOfText sampleReader "eth_sendTransaction" "sent" := by
  let _ := sampleReader
  let _ := sampleWriter
  have preserves := @canonicalParams_preserve _ _ "eth_sendTransaction" "sent" (by
    rintro first rest held ⟨⟩ made
    rw [sampleTransaction_held] at made
    cases made
    rfl)
  obtain ⟨canonical, calls, _⟩ := preserves.1 "held" sampleTransaction_arrived
  exact ⟨canonical, calls⟩

end VelaWallet
