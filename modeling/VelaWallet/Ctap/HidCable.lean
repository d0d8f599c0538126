import VelaWallet.Ctap.Hid

/-!
# CTAPHID over a byte port

The exchange above the packets: allocate a channel with `INIT`, write the
reports, read until a whole message comes back, absorb keepalives
(`ctap/hid_cable.rs`).
-/

namespace VelaWallet.Ctap

open Bytes (beNat)

/-- `KEEPALIVE_UP_NEEDED`: the authenticator waits for user presence. -/
def keepaliveUpNeeded : UInt8 := 0x02

/-- What a read or a write of the port can fail with. -/
inductive PortError where
  | wouldBlock
  | timedOut
  | io (detail : String)

inductive TouchKind where
  | presence
  | fingerprint
  | select

/-- The authenticator's verdict, the first byte of a response. -/
inductive Status where
  | success
  | cancelled
  | credentialExcluded
  | noCredentials
  | pinRequired
  | pinNotSet
  | pinBlocked
  | uvFailed
  | keyStoreFull
  | other (byte : UInt8)
  deriving DecidableEq

def Status.fromByte (byte : UInt8) : Status :=
  match byte.toNat with
  | 0x00 => success
  | 0x19 => credentialExcluded
  | 0x27 | 0x2d | 0x2f => cancelled
  | 0x28 => keyStoreFull
  | 0x2b => pinNotSet
  | 0x2e => noCredentials
  | 0x31 | 0x36 => pinRequired
  | 0x32 | 0x34 => pinBlocked
  | 0x35 => pinNotSet
  | 0x3c | 0x3f => uvFailed
  | _ => other byte

/-- The failures a HID cable reports. -/
inductive CableError where
  | timedOut
  | ctap (status : Status)
  | other (detail : String)
  deriving DecidableEq

def framing (error : HidError) : CableError :=
  .other ("CTAPHID framing error: " ++ error.debug)

def portError : PortError → CableError
  | .timedOut | .wouldBlock => .timedOut
  | .io detail => .other detail

abbrev Reading := Except PortError Report

/-- One conversation with one authenticator, with what its coming reads and writes
give.  A port that has no reading left blocks. -/
structure HidPort where
  product : String
  path : String
  readings : List Reading
  refusals : List (Option PortError) := []
  written : List Report := []

def HidPort.writeReport (port : HidPort) (report : Report) : Except PortError Unit × HidPort :=
  match port.refusals with
  | some error :: refusals => (.error error, { port with refusals })
  | none :: refusals => (.ok (), { port with refusals, written := port.written ++ [report] })
  | [] => (.ok (), { port with written := port.written ++ [report] })

/-- Writes the reports in order, up to the first failure. -/
def HidPort.writeReports (port : HidPort) : List Report → Except PortError Unit × HidPort
  | [] => (.ok (), port)
  | report :: reports =>
    match port.writeReport report with
    | (.ok (), port) => port.writeReports reports
    | (.error error, port) => (.error error, port)

/-- A port that has been through `INIT` and holds its channel.  `announced` is what
the registered callback has been called with. -/
structure HidCable where
  port : HidPort
  channel : Nat
  touch : Option TouchKind := none
  onTouch : Bool := false
  announced : List (TouchKind × String) := []

/-- What the reading loop of one exchange ends with. -/
structure Heard where
  outcome : Except CableError Message
  readings : List Reading
  announcedTouch : Bool

/-- The reading loop of `exchange_raw`; it ends with nothing where the port blocks. -/
def hear (collecting : Reassembler) (announcedTouch : Bool) : List Reading → Option Heard
  | [] => none
  | .error .wouldBlock :: readings => hear collecting announcedTouch readings
  | .error .timedOut :: readings => some ⟨.error .timedOut, readings, announcedTouch⟩
  | .error (.io detail) :: readings => some ⟨.error (.other detail), readings, announcedTouch⟩
  | .ok report :: readings =>
    match collecting.push report with
    | (.ok none, collecting) => hear collecting announcedTouch readings
    | (.ok (some message), collecting) =>
      match message.command with
      | .keepAlive =>
        hear collecting
          (announcedTouch || message.payload.head? == some keepaliveUpNeeded) readings
      | .error =>
        some ⟨.error (.ctap (Status.fromByte (message.payload.head?.getD 0x7f))), readings,
          announcedTouch⟩
      | _ => some ⟨.ok message, readings, announcedTouch⟩
    | (.error error, _) => some ⟨.error (framing error), readings, announcedTouch⟩

namespace HidCable

/-- The first half of `exchange_raw`: the request's reports go out. -/
def send (cable : HidCable) (command : CtapHidCommand) (payload : List UInt8) :
    Except CableError Unit × HidPort :=
  match encode cable.channel command payload with
  | .error error => (.error (framing error), cable.port)
  | .ok frames =>
    match cable.port.writeReports frames with
    | (.error error, port) => (.error (portError error), port)
    | (.ok (), port) => (.ok (), port)

/-- What the loop heard, told to the callback where there is one for this touch. -/
def announcing (cable : HidCable) (heard : Heard) : List (TouchKind × String) :=
  match cable.touch with
  | some kind =>
    if cable.onTouch && heard.announcedTouch then
      cable.announced ++ [(kind, cable.port.product)]
    else cable.announced
  | none => cable.announced

/-- One request out, one message back (`exchange_raw`). -/
def exchangeRaw (cable : HidCable) (command : CtapHidCommand) (payload : List UInt8) :
    Option (Except CableError (List UInt8) × HidCable) :=
  match cable.send command payload with
  | (.error error, port) => some (.error error, { cable with port })
  | (.ok (), port) =>
    (hear {} false port.readings).map fun heard =>
      (heard.outcome.map (·.payload),
        { cable with
          port := { port with readings := heard.readings }
          announced := cable.announcing heard })

/-- The channel an `INIT` reply allocates, when it echoes the nonce. -/
def adopted (nonce reply : List UInt8) : Except CableError Nat :=
  if reply.length < 17 ∨ reply.take 8 ≠ nonce then
    .error (.other "CTAPHID_INIT reply did not echo the nonce")
  else .ok (beNat ((reply.drop 8).take 4))

/-- The cable before `INIT` has allocated its channel. -/
def unopened (port : HidPort) : HidCable := { port, channel := broadcastChannel }

/-- The end of `open`: the channel of a reply that is adopted. -/
def adopting (nonce : List UInt8) (reply : Except CableError (List UInt8)) (cable : HidCable) :
    Except CableError Nat × HidCable :=
  match reply.bind (adopted nonce) with
  | .error error => (.error error, cable)
  | .ok channel => (.ok channel, { cable with channel })

/-- `HidCable::open`: the channel adopted or the failure, and the cable as it is left. -/
def openCable (port : HidPort) (nonce : List UInt8) : Option (Except CableError Nat × HidCable) :=
  ((unopened port).exchangeRaw .init nonce).map fun (reply, cable) => adopting nonce reply cable

/-- `split_response`, with the text its failure is shown by. -/
def splitResponse : List UInt8 → Except String (Status × List UInt8)
  | [] => .error "InvalidCbor(\"empty CTAP response\")"
  | status :: body => .ok (Status.fromByte status, body)

/-- The verdict and body of one answer to a CTAP2 request. -/
def answerOf (payload : List UInt8) : Except CableError (List UInt8) :=
  match splitResponse payload with
  | .error error => .error (.other ("not a CTAP2 message: " ++ error))
  | .ok (.success, body) => .ok body
  | .ok (status, _) => .error (.ctap status)

def cbor (cable : HidCable) (request : List UInt8) :
    Option (Except CableError (List UInt8) × HidCable) :=
  (cable.exchangeRaw .cbor request).map fun (reply, cable) => (reply.bind answerOf, cable)

def exchange (cable : HidCable) (request : List UInt8) (touch : Option TouchKind) :
    Option (Except CableError (List UInt8) × HidCable) :=
  { cable with touch }.cbor request

end HidCable

end VelaWallet.Ctap
