import Mathlib.Data.List.Induction
import VelaWallet.Ctap.Conversation

/-!
# Messages and their reports

The reports `encode` makes of messages give them back, one after another.  Whatever
reports a device sends, a message is put together of one initialization packet and the
continuations that are its own.
-/

namespace VelaWallet.Ctap

open Bytes (beBytes)

variable {channel sequence : Nat} {command : CtapHidCommand} {payload tail : List UInt8}
  {collecting : Reassembler} {report first : Report} {reports kept rest coming : List Report}
  {message : Message}

/-- What these reports carry, the padding of the last one included. -/
def carried (first : Report) (rest : List Report) : List UInt8 :=
  first.bytes.drop initHeader ++ rest.flatMap (·.bytes.drop contHeader)

/-- An initialization packet that opens a message, and continuations of its channel numbered
from zero. -/
structure Sequence (first : Report) (command : CtapHidCommand) (rest : List Report) : Prop where
  starts : first.StartsMessage
  named : first.command = some command
  fits : first.declared ≤ maxMessageLen
  continues : ∀ report ∈ rest, ¬ report.StartsMessage ∧ report.channel = first.channel
  inOrder : rest.map (·.marker.toNat) = List.range rest.length

/-- The message is put together of a sequence the reports end with, whole. -/
def Made (message : Message) (reports : List Report) : Prop :=
  ∃ before first rest, reports = before ++ first :: rest ∧
    Sequence first message.command rest ∧ first.channel = message.channel ∧
    message.payload = (carried first rest).take first.declared ∧
    message.payload.length = first.declared

theorem carried_length (first : Report) (rest : List Report) :
    (carried first rest).length = 57 + rest.length * 59 := by
  have head : (first.bytes.drop initHeader).length = 57 := by
    rw [List.length_drop, first.size]
    rfl
  have part : ∀ report : Report, (report.bytes.drop contHeader).length = 59 := by
    intro report
    rw [List.length_drop, report.size]
    rfl
  rw [carried, List.length_append, head, List.length_flatMap]
  simp [part, List.map_const', List.sum_replicate_nat]

theorem carried_concat (first : Report) (rest : List Report) (report : Report) :
    carried first (rest ++ [report]) = carried first rest ++ report.bytes.drop contHeader := by
  simp [carried]

theorem Report.continues_iff (report : Report) :
    ¬ report.StartsMessage ↔ report.marker.toNat < 128 := by
  have high : ∀ byte < 256, byte &&& 128 = 0 ↔ byte < 128 := by decide +kernel
  rw [← high _ report.marker.toNat_lt, StartsMessage, not_not, ← UInt8.toNat_inj, UInt8.toNat_and]
  rfl

theorem Sequence.concat (sequence : Sequence first command rest)
    (continues : ¬ report.StartsMessage) (same : report.channel = first.channel)
    (turn : report.marker.toNat = rest.length) : Sequence first command (rest ++ [report]) where
  __ := sequence
  continues := by
    intro other member
    rcases List.mem_append.mp member with earlier | last
    · exact sequence.continues other earlier
    · rw [List.mem_singleton.mp last]
      exact ⟨continues, same⟩
  inOrder := by
    rw [List.map_append, sequence.inOrder, List.length_append, List.length_singleton,
      List.range_succ, List.map_singleton, turn]

theorem Sequence.turn (sequence : Sequence first command (rest ++ report :: coming)) :
    report.marker.toNat = rest.length := by
  have same := congrArg (·[rest.length]?) sequence.inOrder
  simpa using same

/-- The reports give nothing but the last one, and that gives the message. -/
inductive Delivers (message : Message) : Reassembler → List Report → Reassembler → Prop where
  | last {collecting left : Reassembler} {report : Report}
      (given : collecting.push report = (.ok (some message), left)) :
      Delivers message collecting [report] left
  | more {collecting next left : Reassembler} {report : Report} {reports : List Report}
      (silent : collecting.push report = (.ok none, next))
      (rest : Delivers message next reports left) :
      Delivers message collecting (report :: reports) left

namespace Reassembler

/-- What is held of a message that is still arriving. -/
def half (first : Report) (command : CtapHidCommand) (rest : List Report) : Reassembler :=
  ⟨some first.channel, some command, first.declared, carried first rest, rest.length⟩

/-- What the last report of a sequence gives. -/
def gathered (first : Report) (command : CtapHidCommand) (rest : List Report) :
    Except HidError (Option Message) × Reassembler :=
  if (carried first rest).length < first.declared then (.ok none, half first command rest)
  else (.ok (some ⟨first.channel, command, (carried first rest).take first.declared⟩), {})

theorem push_first (starts : first.StartsMessage) (named : first.command = some command)
    (fits : first.declared ≤ maxMessageLen) (collecting : Reassembler) :
    collecting.push first = gathered first command [] := by
  have only : carried first [] = first.bytes.drop initHeader := List.append_nil _
  have size : (carried first []).length = initPayload := carried_length first []
  have head : first.head = (carried first []).take first.declared := by
    rw [only, Report.head, List.take_eq_take_iff, ← only, size, Nat.min_assoc, Nat.min_self]
  rw [push, if_pos starts, named]
  dsimp only
  rw [if_neg (Nat.not_lt.mpr fits), complete_opened, gathered, size, opened, head]
  split
  case isTrue more =>
    rw [List.take_of_length_le (size ▸ Nat.le_of_lt more)]
    rfl
  case isFalse => rfl

theorem push_next (continues : ¬ report.StartsMessage) (same : report.channel = first.channel)
    (turn : report.marker.toNat = rest.length)
    (short : (carried first rest).length < first.declared) :
    (half first command rest).push report = gathered first command (rest ++ [report]) := by
  have extended : (half first command rest).extended report =
      ⟨some first.channel, some command, first.declared,
        (carried first (rest ++ [report])).take first.declared, (rest ++ [report]).length⟩ := by
    simp only [Reassembler.extended, half, carried_concat, List.take_append, mk.injEq,
      List.take_of_length_le (Nat.le_of_lt short), List.append_cancel_left_eq,
      List.take_eq_take_iff, List.length_drop, report.size, List.length_append,
      List.length_singleton, true_and, and_true]
    change min (min _ 59) 59 = min _ 59
    omega
  rw [push_continues continues (congrArg some same.symm), if_neg (fun other => other turn),
    extended, complete, gathered]
  by_cases more : (carried first (rest ++ [report])).length < first.declared
  · rw [if_pos more]
    refine (if_pos (by simpa using more)).trans ?_
    rw [List.take_of_length_le (Nat.le_of_lt more), half]
  · rw [if_neg more]
    exact if_neg (by simpa using more)

def outcomes : Reassembler → List Report → List (Except HidError (Option Message))
  | _, [] => []
  | collecting, report :: reports =>
    (collecting.push report).1 :: (collecting.push report).2.outcomes reports

/-- One report, beside the reports that were taken so far. -/
def receive (run : Reassembler × List Report) (report : Report) : Reassembler × List Report :=
  match run.1.push report with
  | (.ok _, next) => (next, run.2 ++ [report])
  | (.error _, next) => (next, run.2)

/-- A fresh reassembler behind these reports, with the reports it took. -/
def taken (reports : List Report) : Reassembler × List Report := reports.foldl receive ({}, [])

/-- Nothing is held, or a sequence that does not carry the whole of its message yet. -/
def Collected (collecting : Reassembler) (kept : List Report) : Prop :=
  collecting = {} ∨ ∃ before first command rest, kept = before ++ first :: rest ∧
    Sequence first command rest ∧ (carried first rest).length < first.declared ∧
    collecting = half first command rest

theorem push_cases (held : Collected collecting kept) (report : Report) :
    (∃ error, collecting.push report = (.error error, collecting)) ∨
      ∃ before first command rest, kept ++ [report] = before ++ first :: rest ∧
        Sequence first command rest ∧ collecting.push report = gathered first command rest := by
  by_cases starts : report.StartsMessage
  · cases named : report.command with
    | none => exact .inl ⟨_, by rw [push, if_pos starts, named]⟩
    | some command =>
      by_cases long : maxMessageLen < report.declared
      · refine .inl ⟨.tooLong report.declared, ?_⟩
        rw [push, if_pos starts, named]
        exact if_pos long
      · have fits := Nat.not_lt.mp long
        exact .inr ⟨kept, report, command, [], rfl, ⟨starts, named, fits, by simp, rfl⟩,
          push_first starts named fits collecting⟩
  · rcases held with rfl | ⟨before, first, command, rest, rfl, sequence, short, rfl⟩
    · exact .inl ⟨_, if_neg starts⟩
    by_cases same : report.channel = first.channel
    · by_cases turn : report.marker.toNat = rest.length
      · exact .inr ⟨before, first, command, rest ++ [report], by simp,
          sequence.concat starts same turn, push_next starts same turn short⟩
      · refine .inl ⟨.sequenceOutOfOrder rest.length report.marker.toNat, ?_⟩
        rw [push_continues starts (congrArg some same.symm)]
        exact if_pos turn
    · refine .inl ⟨.foreignChannel first.channel report.channel, ?_⟩
      rw [push, if_neg starts]
      exact if_pos same

theorem Collected.receive (held : Collected collecting kept) (report : Report) :
    Collected (receive (collecting, kept) report).1 (receive (collecting, kept) report).2 := by
  rw [Reassembler.receive]
  rcases push_cases held report with
    ⟨error, refused⟩ | ⟨before, first, command, rest, split, sequence, pushed⟩
  · rw [refused]
    exact held
  · rw [pushed, gathered]
    by_cases more : (carried first rest).length < first.declared
    · rw [if_pos more]
      exact .inr ⟨before, first, command, rest, split, sequence, more, rfl⟩
    · rw [if_neg more]
      exact .inl rfl

theorem Collected.made (held : Collected collecting kept)
    (delivered : (collecting.push report).1 = .ok (some message)) :
    Made message (kept ++ [report]) := by
  rcases push_cases held report with
    ⟨error, refused⟩ | ⟨before, first, command, rest, split, sequence, pushed⟩
  · rw [refused] at delivered
    cases delivered
  · rw [pushed, gathered] at delivered
    by_cases more : (carried first rest).length < first.declared
    · rw [if_pos more] at delivered
      cases delivered
    · rw [if_neg more] at delivered
      cases delivered
      exact ⟨before, first, rest, split, sequence, rfl, rfl, by simpa using more⟩

theorem collected_taken (reports : List Report) : Collected (taken reports).1 (taken reports).2 := by
  induction reports using List.reverseRecOn with
  | nil => exact .inl rfl
  | append_singleton reports report ih =>
    rw [taken, List.foldl_append]
    exact ih.receive report

end Reassembler

open Reassembler

/-- Whatever reports come, what `push` computes with is in range, and a message is put
together of one initialization packet and the continuations of it that were taken. -/
theorem push_made (reports : List Report) :
    (taken reports).1.buffer.length ≤ (taken reports).1.declared ∧
      (taken reports).1.nextSequence ≤ 128 ∧
      ((taken reports).1.channel.isSome → (taken reports).1.command.isSome) ∧
      ∀ report message, ((taken reports).1.push report).1 = .ok (some message) →
        Made message ((taken reports).2 ++ [report]) := by
  have held := collected_taken reports
  generalize taken reports = run at held ⊢
  have made : ∀ report message, (run.1.push report).1 = .ok (some message) →
      Made message (run.2 ++ [report]) := fun _ _ => held.made
  rcases held with fresh | ⟨_, first, command, rest, _, sequence, short, half⟩
  · rw [fresh]
    refine ⟨Nat.le_refl 0, Nat.zero_le _, ?_, fresh ▸ made⟩
    intro held
    cases held
  · rw [half]
    refine ⟨Nat.le_of_lt short, ?_, fun _ => rfl, half ▸ made⟩
    have fits : first.declared ≤ 7609 := sequence.fits
    rw [carried_length] at short
    show rest.length ≤ 128
    omega

section RoundTrip

variable (small : channel < 256 ^ 4)
include small

theorem packet_fields (marker : UInt8) (fits : tail.length ≤ 59) :
    (Report.padded (beBytes 4 channel ++ [marker] ++ tail)).channel = channel ∧
      (Report.padded (beBytes 4 channel ++ [marker] ++ tail)).marker = marker ∧
      ∃ zeros, (Report.padded (beBytes 4 channel ++ [marker] ++ tail)).bytes.drop contHeader =
        tail ++ zeros := by
  have spelled : (Report.padded (beBytes 4 channel ++ [marker] ++ tail)).bytes =
      beBytes 4 channel ++ marker :: (tail ++ List.replicate (59 - tail.length) 0) := by
    have all : (beBytes 4 channel ++ [marker] ++ tail).length ≤ hidReportSize := by
      simp [hidReportSize]
      omega
    simp only [Report.padded, Bytes.window, List.drop_zero, List.take_of_length_le all]
    simp [hidReportSize]
    omega
  refine ⟨?_, ?_, List.replicate (59 - tail.length) 0, ?_⟩
  · rw [Report.channel, spelled, List.take_left' (by simp)]
    exact Bytes.beNat_beBytes_of_lt small
  · rw [Report.marker, spelled]
    simp [List.getD]
  · rw [spelled, List.append_cons]
    exact List.drop_left' (by simp [contHeader])

theorem opening_fields (command : CtapHidCommand) (fits : payload.length ≤ maxMessageLen)
    (opening : first = .padded (beBytes 4 channel ++ [0x80 ||| command.toByte] ++
      beBytes 2 payload.length ++ payload.take initPayload)) :
    Sequence first command [] ∧ first.channel = channel ∧ first.declared = payload.length ∧
      payload.take 57 <+: carried first [] := by
  have short : (beBytes 2 payload.length ++ payload.take initPayload).length ≤ 59 := by
    simp [initPayload, hidReportSize, initHeader]
    omega
  obtain ⟨own, marked, zeros, behind⟩ := packet_fields small (0x80 ||| command.toByte) short
  rw [← List.append_assoc, ← opening] at own marked behind
  have declared : first.declared = payload.length := by
    rw [Report.declared, show 5 = contHeader from rfl, behind, List.append_assoc,
      List.take_left' (by simp)]
    exact Bytes.beNat_beBytes_of_lt (lt_of_le_of_lt fits (by decide))
  refine ⟨⟨?_, ?_, declared ▸ fits, by simp, rfl⟩, own, declared, zeros, ?_⟩
  · rw [Report.StartsMessage, marked]
    cases command <;> decide
  · rw [Report.command, marked]
    cases command <;> rfl
  · rw [carried, show initHeader = contHeader + 2 from rfl, ← List.drop_drop, behind,
      List.append_assoc, List.drop_left' (by simp)]
    simp [initPayload, hidReportSize, initHeader]

/-- The continuation `encode` gives this number. -/
def continuation (channel : Nat) (payload : List UInt8) (sequence : Nat) : Report :=
  .padded (beBytes 4 channel ++ [UInt8.ofNat sequence] ++
    ((payload.drop initPayload).drop (sequence * contPayload)).take contPayload)

theorem continuations_fields {count : Nat} (low : count ≤ 128)
    (opens : Sequence first command []) (own : first.channel = channel)
    (head : payload.take 57 <+: carried first [])
    (more : ∀ sequence < count, 57 + sequence * 59 < payload.length) :
    Sequence first command ((List.range count).map (continuation channel payload)) ∧
      payload.take (57 + count * 59) <+:
        carried first ((List.range count).map (continuation channel payload)) := by
  induction count with
  | zero => exact ⟨opens, by simpa using head⟩
  | succ count ih =>
    obtain ⟨sequence, carries⟩ := ih (Nat.le_of_lt low) fun earlier less =>
      more earlier (Nat.lt_succ_of_lt less)
    have fields : (continuation channel payload count).channel = channel ∧
        (continuation channel payload count).marker = UInt8.ofNat count ∧
        ∃ zeros, (continuation channel payload count).bytes.drop contHeader =
          ((payload.drop 57).drop (count * 59)).take 59 ++ zeros :=
      packet_fields small _ (List.length_take_le _ _)
    obtain ⟨same, marked, zeros, behind⟩ := fields
    have turn : (continuation channel payload count).marker.toNat = count := by
      rw [marked, UInt8.toNat_ofNat']
      omega
    have whole : payload.take (57 + count * 59) =
        carried first ((List.range count).map (continuation channel payload)) := by
      apply carries.eq_of_length
      have longer := more count (Nat.lt_succ_self count)
      rw [carried_length, List.length_map, List.length_range, List.length_take]
      omega
    rw [List.range_succ, List.map_append, List.map_singleton, carried_concat]
    constructor
    · refine sequence.concat ?_ (same.trans own.symm) (by simpa using turn)
      rw [Report.continues_iff, turn]
      exact low
    · rw [← whole, behind, Nat.succ_mul, ← Nat.add_assoc, List.take_add (i := 57 + count * 59),
        List.drop_drop]
      exact ⟨zeros, List.append_assoc _ _ _⟩

omit small in
theorem delivers_half (sequence : Sequence first command (rest ++ coming ++ [report]))
    (short : (carried first (rest ++ coming)).length < first.declared)
    (whole : first.declared ≤ (carried first (rest ++ coming ++ [report])).length) :
    Delivers ⟨first.channel, command,
        (carried first (rest ++ coming ++ [report])).take first.declared⟩
      (half first command rest) (coming ++ [report]) {} := by
  induction coming generalizing rest with
  | nil =>
    rw [List.append_nil] at *
    obtain ⟨continues, same⟩ := sequence.continues report (by simp)
    apply Delivers.last
    rw [push_next continues same sequence.turn short, gathered, if_neg (Nat.not_lt.mpr whole)]
  | cons next coming ih =>
    obtain ⟨continues, same⟩ := sequence.continues next (by simp)
    rw [List.append_assoc] at sequence
    have turn := sequence.turn
    have split : rest ++ next :: coming = rest ++ [next] ++ coming := by simp
    rw [← List.append_assoc, split] at sequence
    rw [split] at short whole ⊢
    have longer : (carried first (rest ++ [next])).length ≤
        (carried first (rest ++ [next] ++ coming)).length := by
      simp only [carried_length, List.length_append]
      omega
    have more := Nat.lt_of_le_of_lt longer short
    have room : (carried first rest).length < first.declared := by
      refine Nat.lt_of_le_of_lt ?_ more
      rw [carried_concat, List.length_append]
      exact Nat.le_add_right _ _
    refine .more ?_ (ih sequence short whole)
    rw [push_next continues same turn room, gathered, if_pos more]

theorem encode_delivers (framed : encode channel command payload = .ok reports)
    (collecting : Reassembler) : Delivers ⟨channel, command, payload⟩ collecting reports {} := by
  rw [encode] at framed
  split at framed
  · cases framed
  next short =>
  have fits := Nat.not_lt.mp short
  obtain ⟨count, counted⟩ :
      ∃ count, ((payload.drop initPayload).length + (contPayload - 1)) / contPayload = count :=
    ⟨_, rfl⟩
  obtain ⟨first, opening⟩ : ∃ first : Report, first = .padded (beBytes 4 channel ++
    [0x80 ||| command.toByte] ++ beBytes 2 payload.length ++ payload.take initPayload) := ⟨_, rfl⟩
  have spelled : reports = first :: (List.range count).map (continuation channel payload) := by
    rw [opening, ← counted]
    exact (Except.ok.inj framed).symm
  obtain ⟨opens, own, declared, head⟩ := opening_fields small command fits opening
  simp only [List.length_drop, initPayload, contPayload, maxMessageLen, hidReportSize, initHeader,
    contHeader] at counted fits
  obtain ⟨sequence, carries⟩ := continuations_fields small (by omega) opens own head
    (show ∀ sequence < count, 57 + sequence * 59 < payload.length by omega)
  rw [List.take_of_length_le (by omega), List.prefix_iff_eq_take, ← declared] at carries
  have pushed := push_first opens.starts opens.named opens.fits collecting
  rw [spelled]
  cases count with
  | zero =>
    rw [gathered, if_neg (by rw [carried_length, declared, List.length_nil]; omega)] at pushed
    rw [carries, ← own]
    exact .last pushed
  | succ count =>
    have more : 57 + count * 59 < payload.length := by omega
    have enough : payload.length ≤ 57 + (count + 1) * 59 := by omega
    rw [gathered, if_pos (by rw [carried_length, declared, List.length_nil]; omega)] at pushed
    rw [List.range_succ, List.map_append, List.map_singleton] at sequence carries ⊢
    refine .more pushed ?_
    have delivered := delivers_half (show Sequence first command ([] ++ _ ++ [_]) from sequence)
      (by
        rw [carried_length, List.nil_append, List.length_map, List.length_range, declared]
        exact more)
      (by
        rw [carried_length, List.nil_append, List.length_append, List.length_map,
          List.length_range, List.length_singleton, declared]
        exact enough)
    rw [List.nil_append, ← carries, own] at delivered
    exact delivered

end RoundTrip

/-- These are the reports `encode` makes of the message. -/
def Frames (message : Message) (reports : List Report) : Prop :=
  message.channel < 256 ^ 4 ∧
    encode message.channel message.command message.payload = .ok reports

theorem Frames.delivers (frames : Frames message reports) (collecting : Reassembler) :
    Delivers message collecting reports {} := encode_delivers frames.1 frames.2 collecting

theorem Delivers.outcomes_append {left : Reassembler}
    (delivers : Delivers message collecting reports left) (later : List Report) :
    collecting.outcomes (reports ++ later) =
      List.replicate (reports.length - 1) (.ok none) ++
        .ok (some message) :: left.outcomes later := by
  induction delivers with
  | last given =>
    rw [List.singleton_append, outcomes, given]
    rfl
  | more silent rest ih =>
    rw [List.cons_append, outcomes, silent, ih]
    cases rest with
    | last => rfl
    | more => rfl

/-- The reports of messages one after another give every message at its last report and
nothing before, whatever was being collected when the first one came. -/
theorem outcomes_framed {messages : List Message} {framed : List (List Report)}
    (frames : List.Forall₂ Frames messages framed) (collecting : Reassembler) :
    collecting.outcomes framed.flatten = (messages.zip framed).flatMap fun pair =>
      List.replicate (pair.2.length - 1) (.ok none) ++ [.ok (some pair.1)] := by
  induction frames generalizing collecting with
  | nil => rfl
  | cons own _ ih =>
    rw [List.flatten_cons, (own.delivers collecting).outcomes_append, ih]
    simp

/-- The reports a device sends a message in. -/
def framesOf (message : Message) : List Report :=
  (encode message.channel message.command message.payload).toOption.getD []

/-- A keepalive that asks for a touch, and an answer behind it. -/
def sampleMessages : List Message := [⟨1, .keepAlive, [2]⟩, ⟨1, .cbor, [0]⟩]

theorem outcomes_framed_sample :
    ({} : Reassembler).outcomes (sampleMessages.map framesOf).flatten =
      (sampleMessages.zip (sampleMessages.map framesOf)).flatMap fun pair =>
        List.replicate (pair.2.length - 1) (.ok none) ++ [.ok (some pair.1)] :=
  outcomes_framed (.cons ⟨by decide, rfl⟩ (.cons ⟨by decide, rfl⟩ .nil)) {}

/-- A report that comes after so many reads that would block. -/
def arrives (delayed : Nat × Report) : List Reading :=
  List.replicate delayed.1 (.error .wouldBlock) ++ [.ok delayed.2]

theorem hear_arrives (announced : Bool) (delayed : Nat × Report) (readings : List Reading) :
    hear collecting announced (arrives delayed ++ readings) =
      hear collecting announced (.ok delayed.2 :: readings) := by
  obtain ⟨waits, report⟩ := delayed
  rw [arrives, List.append_assoc]
  induction waits with
  | zero => rfl
  | succ waits ih =>
    rw [List.replicate_succ, List.cons_append, hear]
    exact ih

theorem Delivers.hear_last {left : Reassembler}
    (delivers : Delivers message collecting reports left) {delayed : List (Nat × Report)}
    (coming : delayed.map (·.2) = reports) : ∃ holding last,
      Reassembler.push holding last = (.ok (some message), left) ∧
      ∀ announced readings, hear collecting announced (delayed.flatMap arrives ++ readings) =
        hear holding announced (.ok last :: readings) := by
  induction delivers generalizing delayed with
  | @last collecting left report given =>
    obtain ⟨only, rfl, rfl⟩ := List.map_eq_singleton_iff.mp coming
    refine ⟨collecting, only.2, given, ?_⟩
    intro announced readings
    rw [List.flatMap_singleton, hear_arrives]
  | @more collecting next left report reports silent _ ih =>
    obtain ⟨first, behind, rfl, rfl, later⟩ := List.map_eq_cons_iff.mp coming
    obtain ⟨holding, last, given, heard⟩ := ih later
    refine ⟨holding, last, given, ?_⟩
    intro announced readings
    rw [List.flatMap_cons, List.append_assoc, hear_arrives, hear, silent]
    exact heard announced readings

def asksTouch (message : Message) : Bool := message.payload.head? == some keepaliveUpNeeded

theorem hear_keepalives {keepalives : List Message} {framed : List (List Report)}
    (frames : List.Forall₂ Frames keepalives framed)
    (waiting : ∀ message ∈ keepalives, message.command = .keepAlive)
    {delayed : List (Nat × Report)} (coming : delayed.map (·.2) = framed.flatten)
    (announced : Bool) (readings : List Reading) :
    hear {} announced (delayed.flatMap arrives ++ readings) =
      hear {} (announced || keepalives.any asksTouch) readings := by
  induction frames generalizing delayed announced with
  | nil =>
    rw [List.map_eq_nil_iff.mp coming]
    simp
  | cons own _ ih =>
    obtain ⟨front, back, rfl, first, later⟩ := List.map_eq_append_iff.mp coming
    obtain ⟨holding, last, given, heard⟩ := (own.delivers {}).hear_last first
    rw [List.flatMap_append, List.append_assoc, heard, hear, given]
    simp only [waiting _ List.mem_cons_self]
    rw [ih (fun message member => waiting message (List.mem_cons_of_mem _ member)) later,
      List.any_cons, Bool.or_assoc]
    rfl

theorem writeReports_unrefused {port : HidPort} (unrefused : port.refusals = [])
    (reports : List Report) : port.writeReports reports =
      (.ok (), { port with written := port.written ++ reports }) := by
  obtain ⟨product, path, readings, refusals, written⟩ := port
  subst unrefused
  induction reports generalizing written with
  | nil => simp [HidPort.writeReports]
  | cons report reports ih => simp [HidPort.writeReports, HidPort.writeReport, ih]

/-- A request whose device answers in framing, after any keepalives and with any waiting
between its reports, returns the payload of that answer, asks for a touch when a
keepalive does, and leaves what comes behind unread. -/
theorem exchangeRaw_answered {cable : HidCable} {written : List Report}
    (request : encode cable.channel command payload = .ok written)
    (unrefused : cable.port.refusals = []) {keepalives : List Message} {answer : Message}
    {framed : List (List Report)} {own : List Report}
    (waiting : ∀ message ∈ keepalives, message.command = .keepAlive)
    (frames : List.Forall₂ Frames keepalives framed) (last : Frames answer own)
    (answers : answer.command ≠ .keepAlive ∧ answer.command ≠ .error)
    {delayed : List (Nat × Report)} {behind : List Reading}
    (coming : delayed.map (·.2) = framed.flatten ++ own)
    (arriving : cable.port.readings = delayed.flatMap arrives ++ behind) :
    cable.exchangeRaw command payload = some (.ok answer.payload, { cable with
      port := { cable.port with
        readings := behind
        written := cable.port.written ++ written }
      announced := cable.announced ++
        if cable.onTouch && keepalives.any asksTouch then
          cable.touch.toList.map fun kind => (kind, cable.port.product)
        else [] }) := by
  obtain ⟨front, back, rfl, first, later⟩ := List.map_eq_append_iff.mp coming
  obtain ⟨holding, report, given, heard⟩ := (last.delivers {}).hear_last later
  have ends : hear {} false cable.port.readings =
      some ⟨.ok answer, behind, keepalives.any asksTouch⟩ := by
    rw [arriving, List.flatMap_append, List.append_assoc, hear_keepalives frames waiting first,
      heard, hear, given, Bool.false_or]
    dsimp only
    cases named : answer.command
    case keepAlive => exact absurd named answers.1
    case error => exact absurd named answers.2
    all_goals rfl
  rw [HidCable.exchangeRaw, HidCable.send, request]
  dsimp only
  rw [writeReports_unrefused unrefused]
  dsimp only
  rw [ends, Option.map_some, HidCable.announcing]
  cases cable.touch <;> cases cable.onTouch && keepalives.any asksTouch <;> simp [Except.map]

/-- A cable whose device has sent these messages already. -/
def sampleCable (messages : List Message) : HidCable where
  port := {
    product := "Security Key"
    path := "usb:1"
    readings := (messages.flatMap framesOf).map .ok }
  channel := 1
  touch := some .presence
  onTouch := true

theorem exchangeRaw_answered_sample :
    ∃ cable, (sampleCable sampleMessages).exchangeRaw .cbor [4] = some (.ok [0], cable) :=
  ⟨_, exchangeRaw_answered rfl rfl
    (show ∀ message ∈ sampleMessages.take 1, message.command = .keepAlive by decide)
    (.cons ⟨by decide, rfl⟩ .nil) (show Frames ⟨1, .cbor, [0]⟩ _ from ⟨by decide, rfl⟩) (by decide)
    (show ((sampleMessages.flatMap framesOf).map fun report => (0, report)).map (·.2) = _ from rfl)
    rfl⟩

def reportsOf (readings : List Reading) : List Report := readings.filterMap (·.toOption)

theorem hear_made {readings left : List Reading} {announced touched : Bool}
    (held : Collected collecting kept)
    (heard : hear collecting announced readings = some ⟨.ok message, left, touched⟩) :
    ∃ read, readings = read ++ left ∧ Made message (kept ++ reportsOf read) ∧
      message.command ≠ .keepAlive ∧ message.command ≠ .error := by
  induction readings generalizing collecting kept announced with
  | nil => cases heard
  | cons reading readings ih =>
    rcases reading with (_ | _ | _) | report
    case error.wouldBlock =>
      obtain ⟨read, rfl, made⟩ := ih held heard
      exact ⟨_ :: read, rfl, made⟩
    case error.timedOut => cases heard
    case error.io => cases heard
    case ok =>
      have next := held.receive report
      have whole : ∀ message, (collecting.push report).1 = .ok (some message) →
          Made message (kept ++ [report]) := fun _ => held.made
      rw [hear] at heard
      rw [receive] at next
      generalize collecting.push report = pushed at heard next whole
      have longer : ∀ read,
          kept ++ [report] ++ reportsOf read = kept ++ reportsOf (.ok report :: read) :=
        fun read => List.append_assoc _ _ _
      rcases pushed with ⟨error | _ | given, behind⟩
      · cases heard
      · obtain ⟨read, rfl, made, own⟩ := ih next heard
        exact ⟨.ok report :: read, rfl, longer read ▸ made, own⟩
      · dsimp only at heard
        cases named : given.command <;> rw [named] at heard
        case keepAlive =>
          obtain ⟨read, rfl, made, own⟩ := ih next heard
          exact ⟨.ok report :: read, rfl, longer read ▸ made, own⟩
        case error => cases heard
        all_goals
          cases heard
          exact ⟨[.ok report], rfl, whole _ rfl, by simp [named], by simp [named]⟩

/-- Whatever the device sends, an exchange returns the payload of a message put together of
the last reports it read, of a command that is no keepalive and no error. -/
theorem exchangeRaw_made {cable left : HidCable} {reply : List UInt8}
    (returned : cable.exchangeRaw command payload = some (.ok reply, left)) :
    ∃ read message, cable.port.readings = read ++ left.port.readings ∧
      Made message (reportsOf read) ∧ message.payload = reply ∧
      message.command ≠ .keepAlive ∧ message.command ≠ .error := by
  have kept := (cable.send_reading [] command payload).2
  rw [HidCable.exchangeRaw] at returned
  split at returned
  · cases returned
  next port sent =>
    rw [sent] at kept
    obtain ⟨⟨outcome, readings, touched⟩, heard, same⟩ := Option.map_eq_some_iff.mp returned
    cases outcome with
    | error => cases same
    | ok message =>
      cases same
      obtain ⟨read, split, made, own⟩ := hear_made (show Collected {} [] from .inl rfl) heard
      exact ⟨read, message, kept ▸ split, made, rfl, own⟩

theorem exchangeRaw_made_sample : ∃ read message,
    (sampleCable sampleMessages).port.readings = read ∧ Made message (reportsOf read) ∧
      message.payload = [0] := by
  obtain ⟨read, message, split, made, same, _⟩ := exchangeRaw_made
    (show (sampleCable sampleMessages).exchangeRaw .cbor [4] = some (.ok [0], _) from rfl)
  exact ⟨read, message, split.trans (List.append_nil _), made, same⟩

end VelaWallet.Ctap
