import Mathlib.Algebra.GroupWithZero.Nat
import VelaWallet.Base.Fallible
import VelaWallet.Relay.Submit

/-!
# The submit verdict

Over any replies, the loop says "not sent" only where no POST can have been delivered, names
another hash than the operation's own only where the relay answered with it, and posts a bounded
number of times.  A step stops short only where it cuts a text within a character.
-/

namespace VelaWallet.Relay

open Json (Value Reader Writer fromStr toStr)
open Utf8 (CaseTable)

variable {own : List Char} {maybeDelivered : Bool} {attempt : Nat} {errorJson : String}

theorem judge_thisOne {existing hash : List Char}
    (judged : ExistingOp.judge existing own = .thisOne hash) : eqIgnoreCase hash own = true := by
  unfold ExistingOp.judge at judged
  split at judged
  · next same =>
      cases judged
      exact same
  · cases judged

theorem existingOp_thisOne {message hash : List Char}
    (found : existingOp message own = some (.thisOne hash)) : eqIgnoreCase hash own = true := by
  obtain ⟨existing, _, judged⟩ := Option.map_eq_some_iff.mp found
  exact judge_thisOne judged

section Steps

variable [Reader] [Writer] [CaseTable]

/-- What a step concludes of a POST. -/
inductive Step (own : List Char) (attempt : Nat) (maybeDelivered : Bool) :
    SubmitReply → SubmitStep → Prop
  | held {text : List Char} (hash : isOpHash (Chars.trim text) = true) :
      Step own attempt maybeDelivered (.hash text) (.done (.accepted (Chars.trim text)))
  | unreadable {text : List Char} :
      Step own attempt maybeDelivered (.hash text) (.done (.maybeSent own))
  | known {errorJson : String} {hash : List Char} (same : eqIgnoreCase hash own = true) :
      Step own attempt maybeDelivered (.error errorJson) (.done (.accepted hash))
  | busy {errorJson : String} (again : attempt < submitMaxRetries) :
      Step own attempt maybeDelivered (.error errorJson) (.retryAfter submitRetryDelayMs)
  | lost {reply : SubmitReply} (delivered : maybeDelivered = true) :
      Step own attempt maybeDelivered reply (.done (.maybeSent own))
  | refused {errorJson : String} {rejection : RelayRejection} (undelivered : maybeDelivered = false) :
      Step own attempt maybeDelivered (.error errorJson) (.done (.notSent (some rejection)))
  | unreached (undelivered : maybeDelivered = false) :
      Step own attempt maybeDelivered .noAnswer (.done (.notSent none))

theorem step_of_submitStep {reply : SubmitReply}
    {step : SubmitStep} (stepped : submitStep reply attempt maybeDelivered own = .ok step) :
    Step own attempt maybeDelivered reply step := by
  cases reply with
  | hash =>
    simp only [submitStep] at stepped
    split at stepped
    · next hash =>
        cases stepped
        exact .held hash
    · cases stepped
      exact .unreadable
  | error errorJson =>
    simp only [submitStep] at stepped
    cases said : relayErrorMessage errorJson with
    | error =>
      rw [said] at stepped
      cases stepped
    | ok =>
      rw [said] at stepped
      simp only [bind, Except.bind] at stepped
      split at stepped
      · next found =>
          cases stepped
          apply Step.known
          rw [Option.or_eq_some_iff, Option.or_eq_some_iff] at found
          rcases found with (marked | ⟨_, structured⟩) | ⟨_, worded⟩
          · exact existingOp_thisOne marked
          · obtain ⟨hash, _, judged⟩ := Option.map_eq_some_iff.mp structured
            exact judge_thisOne judged
          · exact existingOp_thisOne worded
      · split at stepped
        · next delivered =>
            cases stepped
            exact .lost delivered
        · next undelivered =>
            cases stepped
            exact .refused (by simpa using undelivered)
      · split at stepped
        · next busy =>
            cases stepped
            rw [Bool.and_eq_true, decide_eq_true_eq] at busy
            exact .busy busy.2
        · split at stepped
          · next delivered =>
              cases stepped
              exact .lost delivered
          · next undelivered =>
              cases stepped
              exact .refused (by simpa using undelivered)
  | noAnswer =>
    simp only [submitStep] at stepped
    split at stepped
    · next delivered =>
        cases stepped
        exact .lost delivered
    · next undelivered =>
        cases stepped
        exact .unreached (by simpa using undelivered)

/-- How many POSTs the loop has made. -/
def LoopState.posts : LoopState → Nat
  | .concluded _ posts | .waiting posts | .stopped posts => posts

/-- A result the relay answered a POST with. -/
def Routed.gives (routed : Routed) (hash : List Char) : Prop :=
  ∃ text, routed.reply = .hash text ∧ hash = Chars.trim text ∧ isOpHash hash = true

/-- No POST was answered with a result, or may have been delivered and its answer lost. -/
def Routed.unsent (routed : Routed) : Prop :=
  routed.maybeDelivered = false ∧ ∀ text, routed.reply ≠ .hash text

/-- What the loop may say after some POSTs, of which the last was the one just made. -/
structure Concluded (own : List Char) (maybeDelivered : Bool) (made : List Routed)
    (verdict : SubmitVerdict) : Prop where
  notSent : ∀ rejection, verdict = .notSent rejection →
    maybeDelivered = false ∧ ∀ routed ∈ made, routed.unsent
  accepted : ∀ hash, verdict = .accepted hash →
    eqIgnoreCase hash own = true ∨ ∃ routed, made.getLast? = some routed ∧ routed.gives hash
  maybeSent : ∀ hash, verdict = .maybeSent hash → hash = own

omit [Reader] [Json.Writer] [CaseTable] in
theorem Step.concluded {routed : Routed}
    {verdict : SubmitVerdict}
    (step : Step own attempt (maybeDelivered || routed.maybeDelivered) routed.reply (.done verdict)) :
    Concluded own maybeDelivered [routed] verdict := by
  obtain ⟨reply, delivered⟩ := routed
  dsimp only at step
  cases step with
  | held hash =>
    exact ⟨nofun, fun _ same => by cases same; exact .inr ⟨_, rfl, _, rfl, rfl, hash⟩, nofun⟩
  | unreadable | lost => exact ⟨nofun, nofun, fun _ same => by cases same; rfl⟩
  | known same => exact ⟨nofun, fun _ given => by cases given; exact .inl same, nofun⟩
  | refused undelivered | unreached undelivered =>
    rw [Bool.or_eq_false_iff] at undelivered
    refine ⟨?_, nofun, nofun⟩
    intro rejection _
    refine ⟨undelivered.1, ?_⟩
    intro routed member
    rw [List.mem_singleton.mp member]
    exact ⟨undelivered.2, nofun⟩

omit [Reader] [Json.Writer] [CaseTable] in
theorem Concluded.cons {routed : Routed} {made : List Routed}
    {verdict : SubmitVerdict} (some_made : made ≠ [])
    (answered : routed.reply = .error errorJson)
    (concluded : Concluded own (maybeDelivered || routed.maybeDelivered) made verdict) :
    Concluded own maybeDelivered (routed :: made) verdict := by
  constructor
  case notSent =>
    intro rejection same
    obtain ⟨undelivered, unsent⟩ := concluded.notSent rejection same
    rw [Bool.or_eq_false_iff] at undelivered
    refine ⟨undelivered.1, ?_⟩
    intro other member
    rcases List.mem_cons.mp member with rfl | member
    · refine ⟨undelivered.2, ?_⟩
      rw [answered]
      exact nofun
    · exact unsent other member
  case accepted =>
    intro hash same
    rw [List.getLast?_cons_of_ne_nil some_made]
    exact concluded.accepted hash same
  case maybeSent => exact concluded.maybeSent

theorem submitFrom_spec (few : attempt ≤ submitMaxRetries) (maybeDelivered : Bool)
    (posts : List Routed) :
    (submitFrom own attempt maybeDelivered posts).posts ≤ submitMaxRetries + 1 ∧
      (submitMaxRetries - attempt < posts.length →
        ∀ made, submitFrom own attempt maybeDelivered posts ≠ .waiting made) ∧
      ∀ verdict made, submitFrom own attempt maybeDelivered posts = .concluded verdict made →
        attempt < made ∧ made - attempt ≤ posts.length ∧
          Concluded own maybeDelivered (posts.take (made - attempt)) verdict := by
  induction posts generalizing attempt maybeDelivered with
  | nil =>
    refine ⟨Nat.le_succ_of_le few, ?_, ?_⟩
    · intro impossible
      exact absurd impossible (Nat.not_lt_zero _)
    · intro verdict made concluded
      cases concluded
  | cons routed _ ih =>
    rw [submitFrom]
    cases stepped : submitStep routed.reply attempt (maybeDelivered || routed.maybeDelivered) own with
    | error => exact ⟨Nat.succ_le_succ few, nofun, nofun⟩
    | ok step =>
      have taken := step_of_submitStep stepped
      cases step with
      | done =>
        refine ⟨Nat.succ_le_succ few, nofun, ?_⟩
        intro verdict_ made same
        cases same
        have one : attempt + 1 - attempt = 1 := by omega
        refine ⟨Nat.lt_succ_self _, ?_, ?_⟩
        · rw [one, List.length_cons]
          omega
        · rw [one, List.take_succ_cons, List.take_zero]
          exact taken.concluded
      | retryAfter =>
        obtain ⟨errorJson, answered, again⟩ :
            ∃ errorJson, routed.reply = .error errorJson ∧ attempt < submitMaxRetries := by
          generalize routed.reply = reply at taken
          cases taken with
          | busy again => exact ⟨_, rfl, again⟩
        obtain ⟨bounded, ends, concludes⟩ := ih again (maybeDelivered || routed.maybeDelivered)
        refine ⟨bounded, ?_, ?_⟩
        · intro long
          apply ends
          rw [List.length_cons] at long
          omega
        · intro verdict made same
          obtain ⟨later, enough, concluded⟩ := concludes verdict made same
          have split : made - attempt = (made - (attempt + 1)) + 1 := by omega
          refine ⟨Nat.lt_of_succ_lt later, ?_, ?_⟩
          · rw [List.length_cons]
            omega
          · rw [split, List.take_succ_cons]
            refine concluded.cons ?_ answered
            intro none_made
            have length := congrArg List.length none_made
            rw [List.length_take, List.length_nil] at length
            omega

/-- What a submit may end in, whatever the relay and the network do. -/
structure VerdictSafe (own : List Char) (posts : List Routed) : Prop where
  /-- "Not sent" is said only where every POST made was refused or never delivered. -/
  notSent : ∀ rejection made, submitLoop own posts = .concluded (.notSent rejection) made →
    ∀ routed ∈ posts.take made, routed.unsent
  /-- The accepted hash is the operation's own, or the result of the last POST. -/
  accepted : ∀ hash made, submitLoop own posts = .concluded (.accepted hash) made →
    eqIgnoreCase hash own = true ∨
      ∃ routed, (posts.take made).getLast? = some routed ∧ routed.gives hash
  /-- "May have been sent" is followed under the operation's own hash. -/
  maybeSent : ∀ hash made, submitLoop own posts = .concluded (.maybeSent hash) made → hash = own
  /-- The operation is posted a bounded number of times, and the loop ends within them. -/
  bounded : (submitLoop own posts).posts ≤ submitMaxRetries + 1
  ends : submitMaxRetries < posts.length → ∀ made, submitLoop own posts ≠ .waiting made

theorem verdict_safe (own : List Char) (posts : List Routed) : VerdictSafe own posts := by
  obtain ⟨bounded, ends, concludes⟩ := @submitFrom_spec own 0 _ _ _ (Nat.zero_le _) false posts
  constructor
  case notSent =>
    intro rejection made same
    exact ((concludes _ made same).2.2.notSent rejection rfl).2
  case accepted =>
    intro hash made same
    exact (concludes _ made same).2.2.accepted hash rfl
  case maybeSent =>
    intro hash made same
    exact (concludes _ made same).2.2.maybeSent hash rfl
  case bounded => exact bounded
  case ends => exact ends

end Steps

/-- A relay that answers with another hash than the operation's is believed. -/
theorem relay_hash_wins :
    ∃ own hash, @submitLoop Json.noReader Json.noWriter Utf8.asciiCaseTable own
        [⟨.hash hash, false⟩] = .concluded (.accepted hash) 1 ∧ eqIgnoreCase hash own = false := by
  refine ⟨"0x".toList ++ List.replicate 64 'a', "0x".toList ++ List.replicate 64 'b', ?_, ?_⟩
  · decide
  · decide

/-- A character stands on both sides of a byte of the text. -/
def Straddles (size : Nat) (text : List Char) : Prop :=
  ∃ before letter behind, text = before ++ letter :: behind ∧
    (before.map Char.utf8Size).sum < size ∧
      size < (before.map Char.utf8Size).sum + letter.utf8Size

theorem straddles_cons {size : Nat} {letter : Char} {text : List Char}
    (fits : letter.utf8Size ≤ size) :
    Straddles size (letter :: text) ↔ Straddles (size - letter.utf8Size) text := by
  constructor
  · rintro ⟨before, cut, behind, layout, starts, ends⟩
    cases before with
    | nil =>
      cases layout
      simp only [List.map_nil, List.sum_nil] at ends
      omega
    | cons _ before =>
      cases layout
      simp only [List.map_cons, List.sum_cons] at starts ends
      exact ⟨before, cut, behind, rfl, by omega, by omega⟩
  · rintro ⟨before, cut, behind, rfl, starts, ends⟩
    refine ⟨letter :: before, cut, behind, rfl, ?_⟩
    simp only [List.map_cons, List.sum_cons]
    omega

theorem sliceTo_ok_iff {size : Nat} {text : List Char} :
    (∃ kept, sliceTo size text = .ok kept) ↔ ¬ Straddles size text := by
  induction text generalizing size with
  | nil =>
    constructor
    · rintro _ ⟨before, _, _, layout, _⟩
      cases before <;> cases layout
    · intro _
      cases size <;> exact ⟨[], rfl⟩
  | cons letter text ih =>
    cases size with
    | zero =>
      constructor
      · rintro _ ⟨_, _, _, _, starts, _⟩
        cases starts
      · intro _
        exact ⟨[], rfl⟩
    | succ =>
      rw [sliceTo]
      · split
        case isTrue fits =>
          rw [straddles_cons fits, ← ih]
          constructor
          · rintro ⟨_, made⟩
            obtain ⟨rest, made, _⟩ := Fallible.bind_ok.mp made
            exact ⟨rest, made⟩
          · rintro ⟨rest, made⟩
            exact ⟨letter :: rest, by rw [made]; rfl⟩
        case isFalse large =>
          constructor
          · rintro ⟨_, made⟩
            cases made
          · intro whole
            exact absurd ⟨[], letter, text, rfl, Nat.succ_pos _, by simpa using large⟩ whole
      · nofun

/-- An error that the relay words as none of the known refusals, or as nothing once its own opening
is dropped. -/
structure Wordless (error : Value) : Prop where
  present : error ≠ .null
  unknown : (knownRefusals.find? fun (one, other, _) =>
    has (messageOf error) one.toList || has (messageOf error) other.toList) = none
  blank : Chars.trim (trimStartMatches "Execution reverted:".toList
    (trimStartMatches "execution reverted:".toList (messageOf error))) = []

section Stopping

variable [Reader] [Writer]

theorem relayErrorMessage_ok_iff :
    (∃ sentence, relayErrorMessage errorJson = .ok sentence) ↔
      ∀ error, fromStr errorJson = some error → Wordless error →
        ¬ Straddles 200 (toStr error).toList := by
  unfold relayErrorMessage
  split
  case h_1 unread => simp [unread]
  case h_2 null =>
    refine iff_of_true ⟨_, rfl⟩ ?_
    intro error read wordless
    rw [null] at read
    exact absurd (Option.some.inj read).symm wordless.present
  case h_3 error present read =>
    rw [read]
    dsimp only
    split
    case h_1 known =>
      refine iff_of_true ⟨_, rfl⟩ ?_
      rintro _ ⟨⟩ wordless
      rw [wordless.unknown] at known
      cases known
    case h_2 unknown =>
      split
      case isTrue worded =>
        refine iff_of_true ⟨_, rfl⟩ ?_
        rintro _ ⟨⟩ wordless
        exact absurd wordless.blank worded
      case isFalse blank =>
        have wordless : Wordless error := by
          refine ⟨?_, unknown, not_not.mp blank⟩
          rintro rfl
          exact present rfl
        have cut : (∀ other, some error = some other → Wordless other →
            ¬ Straddles 200 (toStr other).toList) ↔ ¬ Straddles 200 (toStr error).toList := by
          constructor
          · intro whole
            exact whole error rfl wordless
          · rintro whole _ ⟨⟩ _
            exact whole
        rw [cut, ← sliceTo_ok_iff]
        constructor
        · rintro ⟨_, made⟩
          obtain ⟨text, made, _⟩ := Fallible.bind_ok.mp made
          exact ⟨text, made⟩
        · rintro ⟨text, made⟩
          exact ⟨_, by rw [made]; rfl⟩

theorem submitStep_error_ok_iff [CaseTable] :
    (∃ step, submitStep (.error errorJson) attempt maybeDelivered own = .ok step) ↔
      ∃ sentence, relayErrorMessage errorJson = .ok sentence := by
  simp only [submitStep]
  constructor
  · rintro ⟨step, stepped⟩
    obtain ⟨sentence, said, _⟩ := Fallible.bind_ok.mp stepped
    exact ⟨sentence, said⟩
  · rintro ⟨sentence, said⟩
    rw [said]
    simp only [bind, Except.bind]
    repeat' split
    all_goals exact ⟨_, rfl⟩

/-- A step runs through just when the error it is told, if it is a wordless one, is not printed with
a character on both sides of byte 200. -/
theorem submitStep_total_iff [CaseTable] (reply : SubmitReply) (attempt : Nat)
    (maybeDelivered : Bool) (own : List Char) :
    (∃ step, submitStep reply attempt maybeDelivered own = .ok step) ↔
      ∀ errorJson error, reply = .error errorJson → fromStr errorJson = some error →
        Wordless error → ¬ Straddles 200 (toStr error).toList := by
  cases reply with
  | hash | noAnswer =>
    refine iff_of_true ?_ nofun
    simp only [submitStep]
    split <;> exact ⟨_, rfl⟩
  | error errorJson =>
    rw [submitStep_error_ok_iff, relayErrorMessage_ok_iff]
    constructor
    · rintro whole _ error ⟨⟩
      exact whole error
    · intro whole error
      exact whole errorJson error rfl

end Stopping

/-- A text of the relay's with an accent behind its ASCII letters. -/
def accented (letters : Nat) : String := String.ofList (List.replicate letters 'e' ++ ['é'])

@[reducible] def accentedReader : Reader := ⟨fun _ => some (.string (accented 198))⟩

@[reducible] def quotingWriter : Writer :=
  ⟨fun value => String.ofList ('"' :: ((value.asStr?.getD "").toList ++ ['"']))⟩

theorem accented_straddles (letters : Nat) :
    Straddles (letters + 2) (@toStr quotingWriter (.string (accented letters))).toList := by
  have size : (('"' :: List.replicate letters 'e').map Char.utf8Size).sum = letters + 1 := by
    simp [Char.utf8Size]
    omega
  refine ⟨'"' :: List.replicate letters 'e', 'é', ['"'], ?_, ?_, ?_⟩
  · have printed : @toStr quotingWriter (.string (accented letters)) =
        String.ofList ('"' :: ((accented letters).toList ++ ['"'])) := rfl
    rw [printed, String.toList_ofList, accented, String.toList_ofList]
    simp
  · omega
  · have wide : 'é'.utf8Size = 2 := rfl
    omega

/-- The last character of the text is on both sides of byte 200 of its printing. -/
theorem accented_stops : ¬ ∀ (reply : SubmitReply) (attempt : Nat) (maybeDelivered : Bool)
    (own : List Char), ∃ step,
      @submitStep accentedReader quotingWriter Utf8.asciiCaseTable reply attempt maybeDelivered own =
        .ok step := by
  let _ := accentedReader
  let _ := quotingWriter
  let _ := Utf8.asciiCaseTable
  intro total
  have said := submitStep_error_ok_iff.mp (total (.error "") 0 false [])
  apply relayErrorMessage_ok_iff.mp said (.string (accented 198)) rfl
  · exact ⟨nofun, by decide, by decide⟩
  · exact accented_straddles 198

end VelaWallet.Relay
