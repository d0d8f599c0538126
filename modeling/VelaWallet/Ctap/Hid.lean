import VelaWallet.Base.Bytes

/-!
# CTAPHID framing

A message is split across 64-byte reports: one initialization packet with the
command and the total length, then continuation packets numbered from zero
(`ctap/hid.rs`).
-/

namespace VelaWallet.Ctap

open Bytes (beNat beBytes)

def hidReportSize : Nat := 64
def initHeader : Nat := 4 + 1 + 2
def contHeader : Nat := 4 + 1
def initPayload : Nat := hidReportSize - initHeader
def contPayload : Nat := hidReportSize - contHeader

def maxMessageLen : Nat := initPayload + 128 * contPayload

def broadcastChannel : Nat := 0xffffffff

/-- The commands this client sends or recognises. -/
inductive CtapHidCommand where
  | ping
  | msg
  | init
  | wink
  | cbor
  | cancel
  | keepAlive
  | error
  deriving DecidableEq

namespace CtapHidCommand

/-- The command's number, without the mark of an initialization packet. -/
def toByte : CtapHidCommand → UInt8
  | ping => 0x01
  | msg => 0x03
  | init => 0x06
  | wink => 0x08
  | cbor => 0x10
  | cancel => 0x11
  | keepAlive => 0x3b
  | error => 0x3f

def fromByte (byte : UInt8) : Option CtapHidCommand :=
  match byte.toNat with
  | 0x01 => some ping
  | 0x03 => some msg
  | 0x06 => some init
  | 0x08 => some wink
  | 0x10 => some cbor
  | 0x11 => some cancel
  | 0x3b => some keepAlive
  | 0x3f => some error
  | _ => none

end CtapHidCommand

/-- What can go wrong putting a message together.  A `Report` has its size by its
type, so a report of another size is no case here. -/
inductive HidError where
  | tooLong (length : Nat)
  | unexpectedContinuation
  | sequenceOutOfOrder (expected got : Nat)
  | foreignChannel (expected got : Nat)
  | unknownCommand (byte : Nat)

/-- The derived `Debug` text, which a framing failure shows. -/
def HidError.debug : HidError → String
  | tooLong length => "TooLong(" ++ toString length ++ ")"
  | unexpectedContinuation => "UnexpectedContinuation"
  | sequenceOutOfOrder expected got =>
    "SequenceOutOfOrder \x7b expected: " ++ toString expected ++ ", got: " ++ toString got ++
      " \x7d"
  | foreignChannel expected got =>
    "ForeignChannel \x7b expected: " ++ toString expected ++ ", got: " ++ toString got ++ " \x7d"
  | unknownCommand byte => "UnknownCommand(" ++ toString byte ++ ")"

/-- One report, in either direction: exactly `HID_REPORT_SIZE` bytes. -/
structure Report where
  bytes : List UInt8
  size : bytes.length = hidReportSize

namespace Report

/-- A packet's bytes, with zeros up to the report's end. -/
def padded (bytes : List UInt8) : Report where
  bytes := Bytes.window bytes 0 hidReportSize
  size := Bytes.window_length bytes 0 hidReportSize

/-- The channel in a report's first four bytes. -/
def channel (report : Report) : Nat := beNat (report.bytes.take 4)

/-- The byte that tells an initialization packet from a continuation. -/
def marker (report : Report) : UInt8 := report.bytes.getD 4 0

/-- The high bit marks an initialization packet. -/
def StartsMessage (report : Report) : Prop := report.marker &&& 0x80 ≠ 0

instance (report : Report) : Decidable report.StartsMessage :=
  inferInstanceAs (Decidable (report.marker &&& 0x80 ≠ 0))

/-- The command an initialization packet carries. -/
def command (report : Report) : Option CtapHidCommand :=
  CtapHidCommand.fromByte (report.marker &&& 0x7f)

/-- The message length an initialization packet declares. -/
def declared (report : Report) : Nat := beNat ((report.bytes.drop 5).take 2)

/-- What a whole initialization packet carries of its message. -/
def head (report : Report) : List UInt8 :=
  (report.bytes.drop initHeader).take (min report.declared initPayload)

end Report

/-- Split a message into the reports that carry it (`encode`). -/
def encode (channel : Nat) (command : CtapHidCommand) (payload : List UInt8) :
    Except HidError (List Report) :=
  if maxMessageLen < payload.length then .error (.tooLong payload.length)
  else
    let first := Report.padded <| beBytes 4 channel ++ [0x80 ||| command.toByte] ++
      beBytes 2 payload.length ++ payload.take initPayload
    let rest := payload.drop initPayload
    let count := (rest.length + (contPayload - 1)) / contPayload
    let cont := fun sequence => Report.padded <| beBytes 4 channel ++ [UInt8.ofNat sequence] ++
      (rest.drop (sequence * contPayload)).take contPayload
    .ok (first :: (List.range count).map cont)

structure Message where
  channel : Nat
  command : CtapHidCommand
  payload : List UInt8

/-- What has been collected of the message that is arriving. -/
structure Reassembler where
  channel : Option Nat := none
  command : Option CtapHidCommand := none
  declared : Nat := 0
  buffer : List UInt8 := []
  nextSequence : Nat := 0

namespace Reassembler

/-- The start of the message an initialization packet opens. -/
def opened (report : Report) (command : CtapHidCommand) : Reassembler where
  channel := some report.channel
  command := some command
  declared := report.declared
  buffer := report.head
  nextSequence := 0

/-- The message with the part a continuation carries. -/
def extended (collecting : Reassembler) (report : Report) : Reassembler :=
  { collecting with
    buffer := collecting.buffer ++ (report.bytes.drop contHeader).take
      (min (collecting.declared - collecting.buffer.length) contPayload)
    nextSequence := collecting.nextSequence + 1 }

/-- The end of `push`: the message once its declared length is met. -/
def complete (collecting : Reassembler) (channel : Nat) :
    Except HidError (Option Message) × Reassembler :=
  if collecting.buffer.length < collecting.declared then (.ok none, collecting)
  else
    match collecting.command with
    | none => (.error .unexpectedContinuation, { collecting with channel := none })
    | some command =>
      (.ok (some ⟨collecting.channel.getD channel, command, collecting.buffer⟩), {})

/-- Feed one report (`push`). -/
def push (collecting : Reassembler) (report : Report) :
    Except HidError (Option Message) × Reassembler :=
  if report.StartsMessage then
    match report.command with
    | none => (.error (.unknownCommand (report.marker &&& 0x7f).toNat), collecting)
    | some command =>
      if maxMessageLen < report.declared then (.error (.tooLong report.declared), collecting)
      -- an initialization packet drops what was being collected
      else (opened report command).complete report.channel
  else
    match collecting.channel with
    | none => (.error .unexpectedContinuation, collecting)
    | some expected =>
      if report.channel ≠ expected then
        (.error (.foreignChannel expected report.channel), collecting)
      else if report.marker.toNat ≠ collecting.nextSequence then
        (.error (.sequenceOutOfOrder collecting.nextSequence report.marker.toNat), collecting)
      else (collecting.extended report).complete report.channel

end Reassembler

end VelaWallet.Ctap
