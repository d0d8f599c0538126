import VelaWallet.Track.ReceiptSoundness
import VelaWallet.Trust.Netting

/-!
# What a landed operation moved

The moves of an operation are netted over the logs of its own execution, the ones its outcome is
judged by, for the sender its own event names.
-/

namespace VelaWallet.TokenTrust

open TxTracker (TrustReceiptLog TrackMove since topicOf userOperationEvent userOpOutcomeInLogs
  successWord safeExecutionFailed outcomeFrom)
open Utf8 (CaseTable toLowercase bytes)

def safeReceivedTopic : String :=
  "0x3d0ce9bfc3ed7d6862dbb28b2dea94561fe714a1b4d019aa8af39730d1ad7c3d"

def addressOfTopic (topic : String) : Option String :=
  let hex := bytes (strip0x topic)
  if hex.length ≠ 64 ∨ ¬ hex.all fun byte => decide (Hex.IsDigit byte) then none
  else if (hex.take 24).any (· != 48) then none
  else some ("0x" ++ Utf8.ofAscii (Utf8.toAsciiLowercase (hex.drop 24)))

/-- The first loop of `proven_moves`: the logs since its `start`, and the operation's event. -/
def ownExecution (userOpHash : String) :
    (own : List TrustReceiptLog) → List TrustReceiptLog → Option (List TrustReceiptLog × TrustReceiptLog)
  | _, [] => none
  | own, log :: logs =>
    if ¬ TxTracker.eqIgnoreAsciiCase log.address Safe.entryPoint then
      ownExecution userOpHash (own ++ [log]) logs
    else if log.names 0 (topicOf "BeforeExecution()") then ownExecution userOpHash [] logs
    else if log.names 0 (topicOf userOperationEvent) then
      if log.names 1 userOpHash then some (own, log) else ownExecution userOpHash [] logs
    else ownExecution userOpHash (own ++ [log]) logs

/-- How many values a `u128` has. -/
def u128Size : Nat := 2 ^ 128

/-- `u128::from_str_radix(text, 16)`. -/
def u128FromStrRadix16 (text : List UInt8) : Option Nat :=
  let digits := if text.head? = some Hex.plus then text.drop 1 else text
  if digits.isEmpty then none else (Hex.natOf? digits).filter (· < u128Size)

/-- The account logs that the chain's coin arrived. -/
def isArrival (sender : String) (log : TrustReceiptLog) : Bool :=
  TxTracker.eqIgnoreAsciiCase log.address sender && log.names 0 safeReceivedTopic

def arrivedAmount (log : TrustReceiptLog) : Option Nat :=
  let data := bytes (strip0x log.data)
  u128FromStrRadix16 (match Utf8.slice data 0 64 with | .ok word => word | .error _ => data)

/-- A sum that is nothing once a word does not read or the sum does not fit. -/
def sumFrom (read : TrustReceiptLog → Option Nat) : (sum : Nat) → List TrustReceiptLog → Nat
  | sum, [] => sum
  | sum, log :: logs =>
    match (read log).filter (sum + · < u128Size) with
    | some value => sumFrom read (sum + value) logs
    | none => 0

/-- The second loop of `proven_moves`. -/
def arrivedIn (sender : String) (own : List TrustReceiptLog) : Nat :=
  sumFrom arrivedAmount 0 (own.filter (isArrival sender))

def provenMoves [CaseTable] (logs : List TrustReceiptLog) (userOpHash : String) :
    Option (List TrackMove) := do
  let (own, event) ← ownExecution userOpHash [] logs
  let senderTopic ← event.topics[2]?
  let sender ← addressOfTopic senderTopic
  let moved := ((deriveAssetDeltas own sender).filter fun delta => !delta.isNative).filterMap
    fun delta => delta.token.map fun token => ⟨some token, toString delta.delta⟩
  let arrived := arrivedIn sender own
  return if arrived > 0 then moved ++ [⟨none, toString arrived⟩] else moved

theorem since_behind {Log : Type} {isBoundary : Log → Bool} {log : Log}
    (boundary : isBoundary log = true) (before after : List Log) :
    since isBoundary (before ++ log :: after) = since isBoundary after := by
  induction after using List.reverseRecOn with
  | nil => rw [TxTracker.since_concat, if_pos boundary, TxTracker.since_nil]
  | append_singleton _ _ ih =>
    rw [← List.cons_append, ← List.append_assoc, TxTracker.since_concat, ih,
      TxTracker.since_concat]

/-- What the first loop finds: the operation's first event, and the logs since the boundary before
it. -/
theorem ownExecution_eq_some {userOpHash : String} {window logs own : List TrustReceiptLog}
    {event : TrustReceiptLog} (unbroken : since TrustReceiptLog.isBoundary window = window)
    (found : ownExecution userOpHash window logs = some (own, event)) :
    ∃ before after, logs = before ++ event :: after ∧ event.closes userOpHash = true ∧
      (∀ log ∈ before, log.closes userOpHash = false) ∧
      own = since TrustReceiptLog.isBoundary (window ++ before) := by
  induction logs generalizing window with
  | nil => cases found
  | cons log logs ih =>
    have later : ∀ next, log.closes userOpHash = false →
        since TrustReceiptLog.isBoundary next = next →
        (∀ before, since TrustReceiptLog.isBoundary (next ++ before) =
          since TrustReceiptLog.isBoundary (window ++ log :: before)) →
        ownExecution userOpHash next logs = some (own, event) →
        ∃ before after, log :: logs = before ++ event :: after ∧
          event.closes userOpHash = true ∧ (∀ log ∈ before, log.closes userOpHash = false) ∧
          own = since TrustReceiptLog.isBoundary (window ++ before) := by
      intro next other whole same found
      obtain ⟨before, after, rfl, closes, others, rfl⟩ := ih whole found
      refine ⟨log :: before, after, rfl, closes, ?_, same before⟩
      intro earlier member
      rcases List.mem_cons.mp member with rfl | member
      · exact other
      · exact others earlier member
    have extended : log.isBoundary = false →
        since TrustReceiptLog.isBoundary (window ++ [log]) = window ++ [log] := by
      intro plain
      rw [TxTracker.since_concat, plain, unbroken]
      rfl
    have grown : ∀ before, since TrustReceiptLog.isBoundary (window ++ [log] ++ before) =
        since TrustReceiptLog.isBoundary (window ++ log :: before) := by
      intro before
      rw [List.append_assoc, List.singleton_append]
    unfold ownExecution at found
    split at found
    case isTrue elsewhere =>
      have foreign : log.fromEntryPoint = false := Bool.eq_false_of_not_eq_true elsewhere
      have plain : log.isBoundary = false := by simp [TrustReceiptLog.isBoundary, foreign]
      exact later _ (by simp [TrustReceiptLog.closes, foreign]) (extended plain) grown found
    case isFalse here =>
      have own : log.fromEntryPoint = true := not_not.mp here
      split at found
      case isTrue begins =>
        have boundary : log.isBoundary = true := by
          simp [TrustReceiptLog.isBoundary, own, begins]
        have event : log.names 0 (topicOf userOperationEvent) = false := by
          apply TxTracker.names_exclusive begins
          rw [TxTracker.topicOf_userOperationEvent, TxTracker.topicOf_beforeExecution,
            TxTracker.eqIgnoreAsciiCase_comm]
          exact TxTracker.event_ne_beforeExecution
        exact later [] (by simp [TrustReceiptLog.closes, event]) rfl
          (fun before => (since_behind boundary window before).symm) found
      case isFalse silent =>
        split at found
        case isTrue ends =>
          have boundary : log.isBoundary = true := by simp [TrustReceiptLog.isBoundary, own, ends]
          split at found
          case isTrue names =>
            cases found
            refine ⟨[], logs, rfl, by simp [TrustReceiptLog.closes, own, ends, names],
              fun _ member => absurd member List.not_mem_nil, ?_⟩
            rw [List.append_nil, unbroken]
          case isFalse other =>
            exact later [] (by simp [TrustReceiptLog.closes, other]) rfl
              (fun before => (since_behind boundary window before).symm) found
        case isFalse open_ =>
          have plain : log.isBoundary = false := by
            simp [TrustReceiptLog.isBoundary, silent, open_]
          exact later _ (by simp [TrustReceiptLog.closes, open_]) (extended plain) grown found

/-- The sum of all that is read, or nothing where one word does not read or the sum does not
fit. -/
theorem sumFrom_eq (read : TrustReceiptLog → Option Nat) {sum : Nat} (fits : sum < u128Size)
    (logs : List TrustReceiptLog) :
    sumFrom read sum logs =
      match logs.mapM read with
      | some amounts => if sum + amounts.sum < u128Size then sum + amounts.sum else 0
      | none => 0 := by
  induction logs generalizing sum with
  | nil => simp [sumFrom, fits]
  | cons log logs ih =>
    rw [sumFrom, List.mapM_cons]
    cases amount : read log with
    | none => rfl
    | some value =>
      by_cases small : sum + value < u128Size
      · rw [Option.filter_some, if_pos (by simpa using small)]
        dsimp only
        rw [ih small]
        cases logs.mapM read with
        | none => rfl
        | some =>
          simp only [Nat.add_assoc]
          rfl
      · rw [Option.filter_some, if_neg (by simpa using small)]
        cases logs.mapM read with
        | none => rfl
        | some amounts =>
          have large : ¬ sum + (value + amounts.sum) < u128Size := by omega
          simp [large]

theorem arrivedIn_pos {sender : String} {own : List TrustReceiptLog} {figure : Nat} :
    arrivedIn sender own = figure ∧ 0 < figure ↔
      ∃ amounts, (own.filter (isArrival sender)).mapM arrivedAmount = some amounts ∧
        0 < amounts.sum ∧ amounts.sum < u128Size ∧ figure = amounts.sum := by
  rw [arrivedIn, sumFrom_eq arrivedAmount (Nat.two_pow_pos 128)]
  cases (own.filter (isArrival sender)).mapM arrivedAmount with
  | none => simp; omega
  | some amounts =>
    by_cases fits : amounts.sum < u128Size
    · simp only [Nat.zero_add, fits, if_true, Option.some.injEq, exists_eq_left', true_and]
      constructor
      · rintro ⟨rfl, positive⟩
        exact ⟨positive, rfl⟩
      · rintro ⟨positive, rfl⟩
        exact ⟨rfl, positive⟩
    · simp only [Nat.zero_add, fits, if_false, Option.some.injEq, exists_eq_left', false_and,
        and_false, iff_false]
      omega

theorem userOpOutcomeInLogs_eq {userOpHash : String} {before after : List TrustReceiptLog}
    {event : TrustReceiptLog} (closes : event.closes userOpHash = true)
    (others : ∀ log ∈ before, log.closes userOpHash = false) :
    userOpOutcomeInLogs (before ++ event :: after) userOpHash =
      (successWord event.data).map fun success =>
        success && !safeExecutionFailed (since TrustReceiptLog.isBoundary before) := by
  rw [userOpOutcomeInLogs, TxTracker.outcomeFrom_append others, TxTracker.foldl_failed,
    TxTracker.outcomeFrom_closes closes]

theorem mem_lines {deltas : List TrustNetDelta} {token text : String} :
    ⟨some token, text⟩ ∈ (deltas.filter fun delta => !delta.isNative).filterMap (fun delta =>
      delta.token.map fun token => (⟨some token, toString delta.delta⟩ : TrackMove)) ↔
      ∃ delta ∈ deltas, delta.isNative = false ∧ delta.token = some token ∧
        text = toString delta.delta := by
  simp only [List.mem_filterMap, List.mem_filter, Option.map_eq_some_iff, TrackMove.mk.injEq,
    Option.some.injEq, Bool.not_eq_true']
  constructor
  · rintro ⟨delta, ⟨member, coin⟩, _, named, rfl, rfl⟩
    exact ⟨delta, member, coin, named, rfl⟩
  · rintro ⟨delta, member, coin, named, rfl⟩
    exact ⟨delta, ⟨member, coin⟩, token, named, rfl, rfl⟩

/-- Netting is exact where no running sum of an asset leaves `i128`, and does not depend on the
order of such logs; an operation's moves are netted over the slice its outcome is judged by, for the
sender its event names, with the chain's coin the exact sum of what arrived, or left out. -/
theorem netting_exact [CaseTable] :
    (∀ logs user, Addressed logs →
      (∀ delta, delta ∈ deriveAssetDeltas logs user ↔
        ∃ asset, RunsWithin 0 (transfersOf logs user asset) ∧
          netOf (transfersOf logs user asset) ≠ 0 ∧
          delta = deltaOf asset (netOf (transfersOf logs user asset))) ∧
      ∀ other, logs.Perm other → (∀ asset, RunsWithin 0 (transfersOf logs user asset) ↔
        RunsWithin 0 (transfersOf other user asset)) →
        ∀ delta, delta ∈ deriveAssetDeltas logs user ↔ delta ∈ deriveAssetDeltas other user) ∧
    ∀ logs userOpHash moves, provenMoves logs userOpHash = some moves →
      ∃ before event after topic sender,
        logs = before ++ event :: after ∧ event.closes userOpHash = true ∧
        (∀ log ∈ before, log.closes userOpHash = false) ∧
        event.topics[2]? = some topic ∧ addressOfTopic topic = some sender ∧
        userOpOutcomeInLogs logs userOpHash = ((successWord event.data).map fun success =>
          success && !safeExecutionFailed (since TrustReceiptLog.isBoundary before)) ∧
        (∀ token text, ⟨some token, text⟩ ∈ moves ↔
          ∃ delta ∈ deriveAssetDeltas (since TrustReceiptLog.isBoundary before) sender,
            delta.isNative = false ∧ delta.token = some token ∧ text = toString delta.delta) ∧
        ∀ text, ⟨none, text⟩ ∈ moves ↔ ∃ amounts,
          ((since TrustReceiptLog.isBoundary before).filter (isArrival sender)).mapM
            arrivedAmount = some amounts ∧
          0 < amounts.sum ∧ amounts.sum < u128Size ∧ text = toString amounts.sum := by
  constructor
  · intro logs user addressed
    refine ⟨fun delta => mem_deriveAssetDeltas addressed, ?_⟩
    intro other order runs delta
    have moved : Addressed other := fun log member => addressed log (order.mem_iff.mpr member)
    rw [mem_deriveAssetDeltas addressed, mem_deriveAssetDeltas moved]
    simp only [runs, netOf_perm order]
  · intro logs userOpHash moves proven
    simp only [provenMoves, Option.bind_eq_bind, Option.bind_eq_some_iff, Option.pure_def,
      Option.some.injEq] at proven
    obtain ⟨⟨own, event⟩, found, topic, second, sender, read, rfl⟩ := proven
    obtain ⟨before, after, cut, closes, others, rfl⟩ := ownExecution_eq_some rfl found
    rw [List.nil_append]
    refine ⟨before, event, after, topic, sender, cut, closes, others, second, read, ?_, ?_, ?_⟩
    · rw [cut, userOpOutcomeInLogs_eq closes others]
    · intro token text
      rw [← mem_lines]
      split <;> simp
    · intro text
      have figure := @arrivedIn_pos sender (since TrustReceiptLog.isBoundary before)
        (arrivedIn sender (since TrustReceiptLog.isBoundary before))
      split
      case isTrue positive =>
        obtain ⟨amounts, summed, above, below, same⟩ := figure.mp ⟨rfl, positive⟩
        simp [summed, same, above, below]
      case isFalse zero =>
        constructor
        · intro member
          simp at member
        · rintro ⟨amounts, summed, above, below, _⟩
          have same := arrivedIn_pos.mpr ⟨amounts, summed, above, below, rfl⟩
          exact absurd (by rw [same.1]; exact same.2) zero

/-- A transfer of a token between two short addresses. -/
def sampleTransfer (address sender recipient data : String) : TrustReceiptLog :=
  ⟨address, [transferTopic, sender, recipient], data⟩

/-- The largest amount an `i128` holds. -/
def largestWord : String := "0x7fffffffffffffffffffffffffffffff"

/-- The sender of the sample operation, as a topic. -/
def sampleSender : String := "0x00000000000000000000000000000000000000000000000000000000000000aa"

/-- An operation whose sender is sent seven of the chain's coin. -/
def sampleBundle : List TrustReceiptLog :=
  [⟨"0x00000000000000000000000000000000000000aa", [safeReceivedTopic], "0x7"⟩,
    ⟨Safe.entryPoint, [TxTracker.userOperationEventTopic, "0x01", sampleSender], "0x"⟩]

/-- Netting at two transfers in either order, and the moves of one operation. -/
theorem netting_exact_sample :
    ⟨false, some "0xcc", 5⟩ ∈ @deriveAssetDeltas Utf8.asciiCaseTable
      [sampleTransfer "0xdd" "0xaa" "0xbb" "0x2", sampleTransfer "0xcc" "0xbb" "0xaa" "0x5"] "0xaa" ∧
    ∃ moves, @provenMoves Utf8.asciiCaseTable sampleBundle "0x01" = some moves ∧
      ∃ before event after, sampleBundle = before ++ event :: after ∧
        event.closes "0x01" = true := by
  obtain ⟨netted, proven⟩ := @netting_exact Utf8.asciiCaseTable
  constructor
  · have order := (List.Perm.swap (sampleTransfer "0xdd" "0xaa" "0xbb" "0x2")
      (sampleTransfer "0xcc" "0xbb" "0xaa" "0x5") [])
    refine ((netted _ "0xaa" (by unfold Addressed; decide +kernel)).2 _ order ?_ _).mp
      (by decide +kernel)
    intro asset
    have left : [sampleTransfer "0xdd" "0xaa" "0xbb" "0x2",
        sampleTransfer "0xcc" "0xbb" "0xaa" "0x5"].filterMap (@transferOf Utf8.asciiCaseTable "0xaa") =
        [⟨"0xdd", false, .ok 2, false, true⟩, ⟨"0xcc", false, .ok 5, true, false⟩] := by
      decide +kernel
    have right : [sampleTransfer "0xcc" "0xbb" "0xaa" "0x5",
        sampleTransfer "0xdd" "0xaa" "0xbb" "0x2"].filterMap (@transferOf Utf8.asciiCaseTable "0xaa") =
        [⟨"0xcc", false, .ok 5, true, false⟩, ⟨"0xdd", false, .ok 2, false, true⟩] := by
      decide +kernel
    have user : @toLowercase Utf8.asciiCaseTable "0xaa" = "0xaa" := by decide +kernel
    simp only [transfersOf, user, left, right]
    by_cases first : asset = "0xcc"
    · simp [first]
    · simp [List.filter_cons, Ne.symm first]
  · have moved : @provenMoves Utf8.asciiCaseTable sampleBundle "0x01" = some [⟨none, "7"⟩] := by
      simp only [provenMoves, ownExecution, sampleBundle, TxTracker.topicOf_userOperationEvent,
        TxTracker.topicOf_beforeExecution]
      decide +kernel
    obtain ⟨before, event, after, _, _, cut, closes, _⟩ := proven _ _ _ moved
    exact ⟨_, moved, before, event, after, cut, closes⟩

/-- A running sum that leaves `i128` drops its asset although the net is back inside, so another
order of the same logs reports it; and a log whose address is the word for the coin is counted with
the coin. -/
theorem running_sum_poisons :
    @deriveAssetDeltas Utf8.asciiCaseTable
        [sampleTransfer "0xcc" "0xbb" "0xaa" largestWord, sampleTransfer "0xcc" "0xbb" "0xaa" "0x1",
          sampleTransfer "0xcc" "0xaa" "0xbb" "0x1"] "0xaa" = [] ∧
      @deriveAssetDeltas Utf8.asciiCaseTable
        [sampleTransfer "0xcc" "0xbb" "0xaa" largestWord, sampleTransfer "0xcc" "0xaa" "0xbb" "0x1",
          sampleTransfer "0xcc" "0xbb" "0xaa" "0x1"] "0xaa" =
        [⟨false, some "0xcc", i128Max⟩] ∧
      @deriveAssetDeltas Utf8.asciiCaseTable
        [sampleTransfer "0x0000000000000000000000000000000000000000" "0xbb" "0xaa" "0x1",
          sampleTransfer "native" "0xbb" "0xaa" "0x1"] "0xaa" = [⟨true, none, 2⟩] := by
  decide +kernel

end VelaWallet.TokenTrust
