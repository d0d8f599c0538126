import VelaWallet.Signer.Turns

/-!
# Bytes fed in pieces

What one feed comes to beside the same bytes in two, and what a feed leaves.
-/

namespace VelaWallet.TrustedSigner

open Utf8 (bytes)

namespace Connection

def Waits (connection : Connection) : Prop :=
  connection.phase = .done ∨
    connection.phase = .handshake ∧ find (bytes "\r\n\r\n") connection.inbox = none ∧
      connection.inbox.length ≤ maxHead ∨
    connection.phase ≠ .handshake ∧ decode connection.inbox = none

/-- The same connection, or both are done. -/
def Alike (connection other : Connection) : Prop :=
  connection = other ∨ connection.phase = .done ∧ other.phase = .done

theorem Alike.refl (connection : Connection) : Alike connection connection := .inl rfl

theorem Alike.symm {first second : Connection} (alike : Alike first second) :
    Alike second first := by
  rcases alike with rfl | done
  · exact .inl rfl
  · exact .inr ⟨done.2, done.1⟩

theorem Alike.trans {first second third : Connection} (left : Alike first second)
    (right : Alike second third) : Alike first third := by
  rcases left with rfl | left
  · exact right
  rcases right with rfl | right
  · exact .inr left
  · exact .inr ⟨left.1, right.2⟩

variable [SignerRuntime] {connection : Connection}

theorem feed_done (done : connection.phase = .done) (arrived : List UInt8) :
    connection.feed arrived = (connection, {}) := by
  rw [feed, if_pos done]

theorem feed_refuseHttp (connection : Connection) (arrived : List UInt8) :
    connection.refuseHttp.1.feed arrived = (connection.refuseHttp.1, {}) :=
  feed_done rfl arrived

section Handshake

variable {arrived : List UInt8} {place : Nat}

section

variable (handshake : connection.phase = .handshake)
include handshake

theorem feed_waiting
    (waiting : find (bytes "\r\n\r\n") (connection.inbox ++ arrived) = none) :
    connection.feed arrived =
      if maxHead < (connection.inbox ++ arrived).length then
        { connection with inbox := connection.inbox ++ arrived }.refuseHttp
      else ({ connection with inbox := connection.inbox ++ arrived }, {}) := by
  rw [feed, if_neg (by rw [handshake]; exact nofun)]
  dsimp only
  rw [if_pos handshake, waiting]

theorem feed_refused
    (whole : find (bytes "\r\n\r\n") (connection.inbox ++ arrived) = some place)
    (refused : accept (Chars.fromUtf8Lossy ((connection.inbox ++ arrived).take place))
      connection.origin = none) :
    connection.feed arrived =
      { connection with inbox := (connection.inbox ++ arrived).drop (place + 4) }.refuseHttp := by
  rw [feed, if_neg (by rw [handshake]; exact nofun)]
  dsimp only
  rw [if_pos handshake, whole]
  dsimp only
  rw [refused]

theorem feed_accepted
    (whole : find (bytes "\r\n\r\n") (connection.inbox ++ arrived) = some place)
    {response : List UInt8}
    (accepted : accept (Chars.fromUtf8Lossy ((connection.inbox ++ arrived).take place))
      connection.origin = some response) :
    connection.feed arrived =
      ({ connection with
          inbox := (connection.inbox ++ arrived).drop (place + 4)
          phase := .hello }.drain.1,
        { write := response : Step }.then
          { connection with
            inbox := (connection.inbox ++ arrived).drop (place + 4)
            phase := .hello }.drain.2) := by
  rw [feed, if_neg (by rw [handshake]; exact nofun)]
  dsimp only
  rw [if_pos handshake, whole]
  dsimp only
  rw [accepted]

end

end Handshake

theorem feed_after (after : connection.phase ≠ .handshake) (active : connection.phase ≠ .done)
    (arrived : List UInt8) :
    connection.feed arrived = { connection with inbox := connection.inbox ++ arrived }.drain := by
  rw [feed, if_neg active]
  exact if_neg after

theorem feed_alike (after : connection.phase ≠ .handshake) (arrived : List UInt8) :
    Alike (connection.feed arrived).1
        { connection with inbox := connection.inbox ++ arrived }.drain.1 ∧
      (connection.feed arrived).2 =
        { connection with inbox := connection.inbox ++ arrived }.drain.2 := by
  by_cases done : connection.phase = .done
  · have ends := @drain_done _ { connection with inbox := connection.inbox ++ arrived } done
    rw [feed_done done, ends]
    exact ⟨.inr ⟨done, done⟩, rfl⟩
  · rw [feed_after after done]
    exact ⟨.refl _, rfl⟩

/-- The loop over the bytes of two feeds is the loop over the first and, over what it
leaves, the loop over the second. -/
theorem drain_append (connection : Connection) : ∀ more,
    Alike { connection with inbox := connection.inbox ++ more }.drain.1
        { connection.drain.1 with inbox := connection.drain.1.inbox ++ more }.drain.1 ∧
      { connection with inbox := connection.inbox ++ more }.drain.2 =
        connection.drain.2.then
          { connection.drain.1 with inbox := connection.drain.1.inbox ++ more }.drain.2 := by
  refine drain_induction (fun before last step => ∀ more,
    Alike { before with inbox := before.inbox ++ more }.drain.1
        { last with inbox := last.inbox ++ more }.drain.1 ∧
      { before with inbox := before.inbox ++ more }.drain.2 =
        step.then { last with inbox := last.inbox ++ more }.drain.2) ?_ ?_ connection
  · intro before _ more
    exact ⟨.refl _, by rw [Step.empty_then]⟩
  · intro before frame used last rest active decoded ih more
    obtain ⟨alike, steps⟩ := ih more
    rw [frame_inbox] at alike steps
    dsimp only at alike steps
    rcases decode_append decoded more with ⟨later, inside⟩ | ⟨rfl, later⟩
    · have whole := @drain_frame _ { before with inbox := before.inbox ++ more } active _ _ later
      dsimp only at whole
      rw [List.drop_append_of_le_length inside, frame_more] at whole
      rw [frame_more] at alike steps ⊢
      rw [whole]
      exact ⟨alike, by rw [steps, Step.then_assoc]⟩
    · have ends : ∀ (faulty : Connection) (inbox : List UInt8),
          { (faulty.frame .bad).1 with inbox }.drain =
            ({ (faulty.frame .bad).1 with inbox }, {}) := fun _ _ => drain_done rfl
      have whole := @drain_frame _ { before with inbox := before.inbox ++ more } active _ _ later
      rw [show ∀ faulty : Connection, (faulty.frame .bad).1.drain = ((faulty.frame .bad).1, {}) from
        fun faulty => ends faulty faulty.inbox] at whole
      rw [ends] at alike steps
      have finished : { last with inbox := last.inbox ++ more }.drain.1.phase = .done := by
        rcases alike with same | ⟨_, finished⟩
        · rw [← same]
          rfl
        · exact finished
      rw [whole, Step.then_assoc, ← steps]
      exact ⟨.inr ⟨rfl, finished⟩, rfl⟩

/-- A head that only bytes past the limit complete, and that would be accepted. -/
def Oversize (connection : Connection) (first second : List UInt8) : Prop :=
  connection.phase = .handshake ∧ maxHead < (connection.inbox ++ first).length ∧
    find (bytes "\r\n\r\n") (connection.inbox ++ first) = none ∧
    ∃ place, find (bytes "\r\n\r\n") (connection.inbox ++ (first ++ second)) = some place ∧
      (accept (Chars.fromUtf8Lossy ((connection.inbox ++ (first ++ second)).take place))
        connection.origin).isSome = true

theorem feed_append (connection : Connection) (first second : List UInt8)
    (fits : ¬ connection.Oversize first second) :
    Alike (connection.feed (first ++ second)).1 ((connection.feed first).1.feed second).1 ∧
      (connection.feed (first ++ second)).2 =
        (connection.feed first).2.then ((connection.feed first).1.feed second).2 := by
  by_cases done : connection.phase = .done
  · rw [feed_done done, feed_done done, feed_done done]
    exact ⟨.refl _, rfl⟩
  by_cases after : connection.phase = .handshake
  · cases found : find (bytes "\r\n\r\n") (connection.inbox ++ first) with
    | none =>
      rw [feed_waiting after found]
      by_cases large : maxHead < (connection.inbox ++ first).length
      · rw [if_pos large, feed_refuseHttp, Step.then_empty]
        cases whole : find (bytes "\r\n\r\n") (connection.inbox ++ (first ++ second)) with
        | none =>
          have larger : maxHead < (connection.inbox ++ (first ++ second)).length := by
            rw [← List.append_assoc, List.length_append]
            omega
          rw [feed_waiting after whole, if_pos larger]
          exact ⟨.inr ⟨rfl, rfl⟩, rfl⟩
        | some place =>
          cases accepted : accept (Chars.fromUtf8Lossy
              ((connection.inbox ++ (first ++ second)).take place)) connection.origin with
          | none =>
            rw [feed_refused after whole accepted]
            exact ⟨.inr ⟨rfl, rfl⟩, rfl⟩
          | some _ =>
            exact absurd ⟨after, large, found, place, whole, by rw [accepted]; rfl⟩ fits
      · rw [if_neg large, Step.empty_then]
        have same : { connection with inbox := connection.inbox ++ first }.feed second =
            connection.feed (first ++ second) := by
          simp only [feed, List.append_assoc, if_neg done]
        rw [same]
        exact ⟨.refl _, rfl⟩
    | some place =>
      have later := find_append found second
      have inside := find_inside found
      have four : (bytes "\r\n\r\n").length = 4 := by decide
      rw [four] at inside
      have head : ((connection.inbox ++ first) ++ second).take place =
          (connection.inbox ++ first).take place := List.take_append_of_le_length (by omega)
      have behind : ((connection.inbox ++ first) ++ second).drop (place + 4) =
          (connection.inbox ++ first).drop (place + 4) ++ second :=
        List.drop_append_of_le_length inside
      rw [List.append_assoc] at later head behind
      cases accepted : accept (Chars.fromUtf8Lossy ((connection.inbox ++ first).take place))
          connection.origin with
      | none =>
        rw [feed_refused after found accepted, feed_refused after later (head ▸ accepted),
          feed_refuseHttp]
        exact ⟨.inr ⟨rfl, rfl⟩, (Step.then_empty _).symm⟩
      | some _ =>
        rw [feed_accepted after found accepted, feed_accepted after later (head ▸ accepted),
          behind]
        have whole := drain_append { connection with
          inbox := (connection.inbox ++ first).drop (place + 4), phase := .hello } second
        have rest := feed_alike (drain_stays { connection with
          inbox := (connection.inbox ++ first).drop (place + 4), phase := .hello } nofun) second
        exact ⟨whole.1.trans rest.1.symm, by rw [whole.2, rest.2, Step.then_assoc]⟩
  · rw [feed_after after done, feed_after after done]
    have whole := drain_append { connection with inbox := connection.inbox ++ first } second
    have rest := feed_alike (drain_stays { connection with inbox := connection.inbox ++ first }
      after) second
    rw [← List.append_assoc]
    exact ⟨whole.1.trans rest.1.symm, by rw [whole.2, rest.2]⟩

theorem feed_stays (after : connection.phase ≠ .handshake) (arrived : List UInt8) :
    (connection.feed arrived).1.phase ≠ .handshake := by
  by_cases done : connection.phase = .done
  · rw [feed_done done]
    exact after
  · rw [feed_after after done]
    exact drain_stays _ after

/-- After a feed a connection waits for what comes next; in its handshake it has only
gathered the bytes. -/
theorem feed_waits (connection : Connection) (arrived : List UInt8) :
    (connection.feed arrived).1.Waits ∧
      ((connection.feed arrived).1.phase = .handshake →
        connection.feed arrived =
          ({ connection with inbox := connection.inbox ++ arrived }, {}) ∧
        connection.phase = .handshake) := by
  have afterDrain : ∀ other : Connection, other.phase ≠ .handshake → other.drain.1.Waits := by
    intro other after
    rcases drain_stops other with done | waiting
    · exact .inl done
    · exact .inr (.inr ⟨drain_stays other after, waiting⟩)
  by_cases handshake : connection.phase = .handshake
  · cases found : find (bytes "\r\n\r\n") (connection.inbox ++ arrived) with
    | none =>
      rw [feed_waiting handshake found]
      by_cases large : maxHead < (connection.inbox ++ arrived).length
      · rw [if_pos large]
        exact ⟨.inl rfl, nofun⟩
      · rw [if_neg large]
        exact ⟨.inr (.inl ⟨handshake, found, Nat.not_lt.mp large⟩), fun _ => ⟨rfl, handshake⟩⟩
    | some place =>
      cases accepted : accept (Chars.fromUtf8Lossy ((connection.inbox ++ arrived).take place))
          connection.origin with
      | none =>
        rw [feed_refused handshake found accepted]
        exact ⟨.inl rfl, nofun⟩
      | some _ =>
        rw [feed_accepted handshake found accepted]
        exact ⟨afterDrain _ nofun, fun back => absurd back (drain_stays _ nofun)⟩
  · refine ⟨?_, fun back => absurd back (feed_stays handshake arrived)⟩
    by_cases done : connection.phase = .done
    · rw [feed_done done]
      exact .inl done
    · rw [feed_after handshake done]
      exact afterDrain _ handshake

theorem feed_nil (waits : connection.Waits) :
    Alike (connection.feed []).1 connection ∧ (connection.feed []).2 = {} := by
  rcases waits with done | ⟨handshake, waiting, small⟩ | ⟨after, waiting⟩
  · rw [feed_done done]
    exact ⟨.refl _, rfl⟩
  · rw [feed_waiting handshake (by rw [List.append_nil]; exact waiting), List.append_nil,
      if_neg (Nat.not_lt.mpr small)]
    exact ⟨.refl _, rfl⟩
  · obtain ⟨alike, step⟩ := feed_alike after []
    rw [List.append_nil] at alike step
    rw [drain_waiting waiting] at alike step
    exact ⟨alike, step⟩

theorem feed_settled (settled : connection.phase.Settled) (arrived : List UInt8) :
    (connection.feed arrived).2.outcome = none := by
  by_cases done : connection.phase = .done
  · rw [feed_done done]
  · have after : connection.phase ≠ .handshake := by
      rcases settled with idle | ended
      · rw [idle]
        exact nofun
      · exact absurd ended done
    rw [feed_after after done]
    exact (drain_settled { connection with inbox := connection.inbox ++ arrived } settled).2

theorem feed_settles (connection : Connection) (arrived : List UInt8) :
    (connection.feed arrived).2.outcome.isSome = true →
      (connection.feed arrived).1.phase.Settled := by
  by_cases handshake : connection.phase = .handshake
  · cases found : find (bytes "\r\n\r\n") (connection.inbox ++ arrived) with
    | none =>
      rw [feed_waiting handshake found]
      split <;> exact nofun
    | some place =>
      cases accepted : accept (Chars.fromUtf8Lossy ((connection.inbox ++ arrived).take place))
          connection.origin with
      | none =>
        rw [feed_refused handshake found accepted]
        exact nofun
      | some _ =>
        rw [feed_accepted handshake found accepted, Step.then_outcome, Option.or_none]
        exact drain_settles _
  · by_cases done : connection.phase = .done
    · rw [feed_done done]
      exact nofun
    · rw [feed_after handshake done]
      exact drain_settles _

end Connection

end VelaWallet.TrustedSigner
