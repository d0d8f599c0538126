import Mathlib.Logic.Function.Basic
import VelaWallet.Rpc.Session

/-!
# Changes of the configuration

A change of a chain's configuration is told to the pool by an event; the calls asked for after it
are to be routed over lists that were read after it.  They are, unless the change is told while the
chain's lists are being read.
-/

namespace VelaWallet.RpcPool

open Utf8 (CaseTable)

variable {nowMs : Float} {callId : String} {chainId : UInt32}

/-- When each chain's configuration changed last, the load its lists were read by, and the change
each call was asked for after; all as numbers of requests. -/
structure Books where
  changedAt : UInt32 → Nat
  readBy : UInt32 → Option Nat
  askedAfter : String → Nat

def Books.none : Books := ⟨fun _ => 0, fun _ => .none, fun _ => 0⟩

/-- The number of the request a move answers. -/
def numberOf : Move Event → Option Nat
  | .arrives _ => .none
  | .answers number _ => some number

def Books.note (books : Books) (before : Served Model RpcOperation) (move : Move Event) : Books :=
  match move.event with
  | .invalidateAll => { books with changedAt := fun _ => before.issued }
  | .refreshChain chainId =>
    { books with changedAt := Function.update books.changedAt chainId before.issued }
  | .callRequested callId chainId _ _ _ =>
    if (before.state.call? callId).isSome then books
    else
      { books with
        askedAfter := Function.update books.askedAfter callId (books.changedAt chainId) }
  | .shellCompleted (.poolConfig chainId _ _ _) =>
    if before.state.loading chainId then
      { books with readBy := Function.update books.readBy chainId (numberOf move) }
    else books
  | _ => books

/-- The pool with its shell and the books. -/
@[reducible] def noted [CaseTable] :
    Process (Served Model RpcOperation × Books) (Move Event) (List (RpcOperation × Nat)) :=
  (rpcPool.served rpcShell).watching .none fun books before move _ _ => books.note before move

/-- Every call that is routed is routed over lists that were read, by a load that was asked for
after the last change told before the call. -/
def Current (reached : Served Model RpcOperation × Books) : Prop :=
  ∀ callId session, reached.1.state.call? callId = some session → session.state ≠ .waitingPool →
    ∃ number, reached.2.readBy session.chainId = some number ∧
      reached.2.askedAfter callId ≤ number

/-- A change is told while no list it concerns is being read. -/
def unraced (move : Move Event) (reached : Served Model RpcOperation × Books) : Bool :=
  reached.1.requests.all fun operation => match operation with
    | .loadPoolConfig chainId => !move.event.changes chainId
    | _ => true

section Notes

variable (books : Books) (before : Served Model RpcOperation) (move : Move Event)

theorem changedAt_note (chainId : UInt32) : (books.note before move).changedAt chainId =
      if move.event.changes chainId then before.issued else books.changedAt chainId := by
  unfold Books.note
  cases move.event with
  | bansLoaded | bundlerBaseRequested | bestRpcUrlRequested | invalidateAll => rfl
  | callRequested =>
    dsimp only
    split
    · rfl
    · rfl
  | refreshChain changed =>
    dsimp only
    rw [Function.update_apply]
    by_cases same : chainId = changed
    · have changes : (Event.refreshChain changed).changes chainId = true :=
        beq_iff_eq.mpr same.symm
      rw [if_pos same, if_pos changes]
    · have unchanged : (Event.refreshChain changed).changes chainId = false :=
        beq_eq_false_iff_ne.mpr fun equal => same equal.symm
      rw [if_neg same, unchanged, if_neg Bool.false_ne_true]
  | shellCompleted result =>
    cases result with
    | poolConfig =>
      dsimp only
      split
      · rfl
      · rfl
    | _ => rfl

theorem askedAfter_note_held {session : CallSession}
    (held : before.state.call? callId = some session) :
    (books.note before move).askedAfter callId = books.askedAfter callId := by
  unfold Books.note
  cases move.event with
  | callRequested =>
    dsimp only
    split
    · rfl
    · next unused =>
        apply Function.update_of_ne
        intro same
        rw [← same, held] at unused
        exact unused rfl
  | shellCompleted result =>
    cases result with
    | poolConfig =>
      dsimp only
      split
      · rfl
      · rfl
    | _ => rfl
  | _ => rfl

theorem askedAfter_note_new {kind : RpcKind}
    {method : String} (unused : before.state.call? callId = none)
    (requested : move.event = .callRequested callId chainId kind method nowMs) :
    (books.note before move).askedAfter callId = books.changedAt chainId := by
  simp only [Books.note, requested, unused, Option.isSome_none, Bool.false_eq_true, if_false,
    Function.update_self]

theorem readBy_note_told {rpcEndpoints bundlerEndpoints : List RpcEndpointSeed}
    (loading : before.state.loading chainId = true)
    (answered : move.event = .shellCompleted
      (.poolConfig chainId rpcEndpoints bundlerEndpoints nowMs)) :
    (books.note before move).readBy chainId = numberOf move := by
  simp only [Books.note, answered, loading, if_true, Function.update_self]

theorem readBy_note (chainId : UInt32) :
    (books.note before move).readBy chainId = books.readBy chainId ∨
      ∃ rpcEndpoints bundlerEndpoints nowMs, move.event = .shellCompleted
        (.poolConfig chainId rpcEndpoints bundlerEndpoints nowMs) ∧
        (books.note before move).readBy chainId = numberOf move := by
  unfold Books.note
  cases move.event with
  | callRequested =>
    dsimp only
    split
    · exact .inl rfl
    · exact .inl rfl
  | shellCompleted result =>
    cases result with
    | poolConfig answered =>
      dsimp only
      split
      · by_cases same : chainId = answered
        · rw [same]
          exact .inr ⟨_, _, _, rfl, Function.update_self ..⟩
        · exact .inl (Function.update_of_ne same ..)
      · exact .inl rfl
    | _ => exact .inl rfl
  | _ => exact .inl rfl

end Notes

/-- The lists that hold, and the loads that are out, are as new as the last change told. -/
structure Timely (reached : Served Model RpcOperation × Books) : Prop where
  parked : Parked reached.1.state
  changed : ∀ chainId, reached.2.changedAt chainId ≤ reached.1.issued
  loads : ∀ chainId number, (.loadPoolConfig chainId, number) ∈ reached.1.outstanding →
    reached.2.changedAt chainId ≤ number
  fresh : ∀ chainId, reached.1.state.loaded chainId = true →
    ∃ number, reached.2.readBy chainId = some number ∧ reached.2.changedAt chainId ≤ number
  asked : ∀ callId session, reached.1.state.call? callId = some session →
    reached.2.askedAfter callId ≤ reached.2.changedAt session.chainId
  current : Current reached

section Steps

variable {move : Move Event} {before after : Served Model RpcOperation}
  {books : Books} {rest : List (RpcOperation × Nat)} {requests : List RpcOperation}

theorem answered_load (accepted : rpcShell.Accepts move before.outstanding rest)
    {rpcEndpoints bundlerEndpoints : List RpcEndpointSeed}
    (answered : move.event = .shellCompleted
      (.poolConfig chainId rpcEndpoints bundlerEndpoints nowMs)) :
    ∃ number, numberOf move = some number ∧
      (.loadPoolConfig chainId, number) ∈ before.outstanding := by
  generalize before.outstanding = outstanding at accepted
  cases accepted with
  | arrives external =>
    rw [Move.event] at answered
    rw [answered] at external
    cases external
  | @answers event request number early late answers =>
    rw [Move.event] at answered
    rw [answered] at answers
    refine ⟨number, rfl, ?_⟩
    rw [answers_poolConfig answers]
    exact List.mem_append_right early List.mem_cons_self

section

variable [CaseTable] (timely : Timely (before, books))
  (serves : rpcPool.Serves rpcShell move before after rest requests)
include timely serves

theorem Timely.loads_step
    (fits : unraced move (before, books) = true) (chainId : UInt32) (number : Nat)
    (member : (.loadPoolConfig chainId, number) ∈ after.outstanding) :
    (books.note before move).changedAt chainId ≤ number := by
  rw [changedAt_note]
  rw [serves.outstanding, List.mem_append] at member
  rcases member with old | new
  · have out := serves.accepted.sublist.subset old
    have unchanged := List.all_eq_true.mp fits _ (List.mem_map_of_mem out)
    rw [if_neg (by simpa using unchanged)]
    exact timely.loads chainId number out
  · have issued := List.le_snd_of_mem_zipIdx new
    split
    · exact issued
    · exact Nat.le_trans (timely.changed chainId) issued

theorem Timely.fresh_step (chainId : UInt32)
    (loaded : after.state.loaded chainId = true) :
    ∃ number, (books.note before move).readBy chainId = some number ∧
      (books.note before move).changedAt chainId ≤ number := by
  have stepped : update move.event before.state = (after.state, requests) :=
    Option.some.inj serves.stepped
  have reads := (update_reads timely.parked move.event).loaded chainId
  rw [stepped] at reads
  have told {rpcEndpoints bundlerEndpoints : List RpcEndpointSeed} {nowMs : Float}
      (answered : move.event = .shellCompleted
        (.poolConfig chainId rpcEndpoints bundlerEndpoints nowMs))
      (read : (books.note before move).readBy chainId = numberOf move) :
      ∃ number, (books.note before move).readBy chainId = some number ∧
        (books.note before move).changedAt chainId ≤ number := by
    have ⟨number, numbered, member⟩ := answered_load serves.accepted answered
    have unchanged : move.event.changes chainId = false := by
      rw [answered]
      rfl
    refine ⟨number, read.trans numbered, ?_⟩
    rw [changedAt_note, unchanged, if_neg Bool.false_ne_true]
    exact timely.loads chainId number member
  cases reads loaded with
  | held holds unchanged =>
    rcases readBy_note books before move chainId with same | ⟨_, _, _, answered, read⟩
    · rw [same, changedAt_note, unchanged, if_neg Bool.false_ne_true]
      exact timely.fresh chainId holds
    · exact told answered read
  | told loading answered =>
    exact told answered (readBy_note_told books before move loading answered)

theorem Timely.asked_step
    {session : CallSession} (held : after.state.call? callId = some session) :
    (books.note before move).askedAfter callId ≤
      (books.note before move).changedAt session.chainId := by
  have later : books.changedAt session.chainId ≤
      (books.note before move).changedAt session.chainId := by
    rw [changedAt_note]
    split
    · exact timely.changed session.chainId
    · exact Nat.le_refl _
  have stepped : update move.event before.state = (after.state, requests) :=
    Option.some.inj serves.stepped
  have life := (update_lives timely.parked move.event).life callId
  rw [stepped, held] at life
  have kin := life.kin
  cases was : before.state.call? callId with
  | none =>
    rw [was] at kin
    cases kin with
    | new requested =>
      rw [askedAfter_note_new books before move was requested]
      exact later
  | some earlier =>
    rw [was] at kin
    cases kin with
    | same chain =>
      rw [askedAfter_note_held books before move was]
      apply Nat.le_trans _ later
      rw [chain]
      exact timely.asked callId earlier was

/-- A call that is routed is routed over lists read after the last change it was asked for after. -/
theorem Timely.current_step :
    Current (after, books.note before move) := by
  intro callId session held routed
  have stepped : update move.event before.state = (after.state, requests) :=
    Option.some.inj serves.stepped
  have asked := timely.asked_step serves held
  have fresh (holds : Fresh after.state session.chainId) :
      ∃ number, (books.note before move).readBy session.chainId = some number ∧
        (books.note before move).askedAfter callId ≤ number := by
    have ⟨number, read, newer⟩ := timely.fresh_step serves session.chainId (fresh_iff.mp holds)
    exact ⟨number, read, Nat.le_trans asked newer⟩
  have life := (update_lives timely.parked move.event).life callId
  rw [stepped, held] at life
  have kin := life.kin
  cases was : before.state.call? callId with
  | none =>
    rw [was] at kin
    cases kin with
    | new _ leaves => exact fresh (leaves routed)
  | some earlier =>
    rw [was] at kin
    cases kin with
    | same chain leaves =>
      by_cases waits : earlier.state = .waitingPool
      · apply fresh
        rw [chain]
        exact leaves waits routed
      · have ⟨number, read, newer⟩ := timely.current callId earlier was waits
        rcases readBy_note books before move session.chainId with
          same | ⟨_, _, _, answered, brought⟩
        · refine ⟨number, ?_, ?_⟩
          · dsimp only
            rw [same, chain]
            exact read
          · dsimp only
            rw [askedAfter_note_held books before move was]
            exact newer
        · have ⟨number, numbered, member⟩ := answered_load serves.accepted answered
          refine ⟨number, brought.trans numbered, ?_⟩
          dsimp only
          rw [askedAfter_note_held books before move was]
          apply Nat.le_trans (timely.asked callId earlier was)
          rw [← chain]
          exact timely.loads session.chainId number member

theorem Timely.step
    (fits : unraced move (before, books) = true) : Timely (after, books.note before move) where
  parked := by
    have stepped : update move.event before.state = (after.state, requests) :=
      Option.some.inj serves.stepped
    have parked := (update_lives timely.parked move.event).parked
    rw [stepped] at parked
    exact parked
  changed chainId := by
    dsimp only
    rw [changedAt_note, serves.issued]
    split
    · exact Nat.le_add_right _ _
    · exact Nat.le_trans (timely.changed chainId) (Nat.le_add_right _ _)
  loads := timely.loads_step serves fits
  fresh := timely.fresh_step serves
  asked callId session held := timely.asked_step serves held
  current := timely.current_step serves

end

end Steps

theorem Timely.init [CaseTable] : Timely noted.init where
  parked := ⟨nofun, nofun⟩
  changed _ := Nat.le_refl _
  loads := nofun
  fresh := nofun
  asked := nofun
  current := nofun

/-- In every run in which changes are told while nothing they concern is being read, each call is
routed over lists read after the last change told before it. -/
theorem configuration_changes_are_used [CaseTable]
    {history : List (Move Event × List (RpcOperation × Nat))}
    {reached : Served Model RpcOperation × Books} (run : noted.Run unraced history reached) :
    Current reached := by
  have timely : Timely reached := by
    apply run.state_invariant Timely .init
    intro move before after output fits stepped timely
    obtain ⟨served, noting⟩ := Process.watching_step.mp stepped
    obtain ⟨rest, requests, serves, _⟩ := Process.served_step served
    have next := timely.step serves fits
    rw [← noting] at next
    exact next
  exact timely.current

def isRouted (callId : String) (reached : Served Model RpcOperation × Books) : Bool :=
  (reached.1.state.call? callId).any fun session => session.state != .waitingPool

theorem configuration_changes_are_used_sample :
    ∃ history reached, (@noted Utf8.asciiCaseTable).Run unraced history reached ∧
      isRouted "a" reached = true ∧ Current reached := by
  have ⟨history, reached, run, routed⟩ := @Process.exists_run_of_play _ _ _
    (@noted Utf8.asciiCaseTable) unraced
    [.arrives (.refreshChain 1),
      .arrives (.callRequested "a" 1 .rpc "eth_call" 0),
      .answers 0 (.shellCompleted (.poolConfig 1 [⟨"https://node", .user⟩] [] 0))]
    (fun reached => isRouted "a" reached.2) (by decide)
  exact ⟨history, reached, run, routed,
    @configuration_changes_are_used Utf8.asciiCaseTable history reached run⟩

/-- A change told while the lists are being read is lost: the call asked for after it is routed
over the lists read before. -/
theorem configuration_change_lost :
    ∃ history reached, (@noted Utf8.asciiCaseTable).Run Process.unrestricted history reached ∧
      ¬ Current reached := by
  have ⟨history, reached, run, lost⟩ := @Process.exists_run_of_play _ _ _
    (@noted Utf8.asciiCaseTable) Process.unrestricted
    [.arrives (.refreshChain 1),
      .arrives .invalidateAll,
      .arrives (.callRequested "a" 1 .rpc "eth_call" 0),
      .answers 0 (.shellCompleted (.poolConfig 1 [⟨"https://node", .user⟩] [] 0))]
    (fun reached => (reached.2.1.state.call? "a").any fun session =>
      session.state != .waitingPool && reached.2.2.readBy session.chainId == some 0 &&
        reached.2.2.askedAfter "a" == 1) (by decide)
  refine ⟨history, reached, run, ?_⟩
  intro current
  rw [Option.any_eq_true] at lost
  have ⟨session, held, facts⟩ := lost
  have ⟨routed, asked⟩ := Bool.and_eq_true_iff.mp facts
  have ⟨routed, read⟩ := Bool.and_eq_true_iff.mp routed
  have ⟨number, readBy, newer⟩ := current "a" session held (bne_iff_ne.mp routed)
  have first : number = 0 := Option.some.inj (readBy.symm.trans (beq_iff_eq.mp read))
  rw [first, beq_iff_eq.mp asked] at newer
  exact absurd newer (by decide)

end VelaWallet.RpcPool
