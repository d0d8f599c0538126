import VelaWallet.Base.Chars
import VelaWallet.Base.Json
import VelaWallet.Signer.Frames

/-!
# One loopback connection

The phones' channel to the signing page: the handshake, the page's `Origin`, the
one-time token and the message order of one accepted TCP connection
(`trusted_signer/ws.rs`).
-/

namespace VelaWallet.TrustedSigner

open Bytes (beBytes)
open Json (Value Reader Writer fromStr toStr)
open Utf8 (bytes)

class SignerRuntime extends Reader, Writer where
  sha1 : List UInt8 → List UInt8
  base64 : List UInt8 → List UInt8

export SignerRuntime (sha1 base64)

/-- The runtime of a run that reads no message and looks at no handshake's key. -/
@[reducible] def bareRuntime : SignerRuntime where
  fromStr _ := none
  toStr _ := ""
  sha1 key := key
  base64 hash := hash

/-- Why a conversation has no answer. -/
inductive TrustedSignerError where
  | malformed (detail : String)
  | refused (code : String)
  | declined

def refusal (code : String) : TrustedSignerError :=
  if code = "user_rejected" ∨ code = "" then .declined else .refused code

inductive Message where
  | hello (token : String)
  | result (id : String) (result : Value)
  | error (id : String) (error : TrustedSignerError)
  | ignored

/-- A text member of a message, empty where there is none. -/
def textOf (message : List (String × Value)) (name : String) : String :=
  ((Value.lookup name message).bind Value.asStr?).getD ""

/-- What a page's answer carries: the object under `result`, or the whole message of a
ceremony. -/
def resultOf (message : List (String × Value)) : Option Value :=
  match (Value.lookup "result" message).filter Value.isObject with
  | some result => some result
  | none =>
    if (Value.lookup "registration" message).isSome || (Value.lookup "assertion" message).isSome then
      some (.object message)
    else none

def parseMessage [Reader] (text : List Char) : Message :=
  match fromStr (String.ofList text) with
  | some (.object message) =>
    match (Value.lookup "t" message).bind Value.asStr? with
    | some "hello" => .hello (textOf message "token")
    | some "result" =>
      match resultOf message with
      | some result => .result (textOf message "id") result
      | none => .ignored
    | some "error" => .error (textOf message "id") (refusal (textOf message "code"))
    | _ => .ignored
  | _ => .ignored

def intentMessage [Writer] (id : String) (request : Value) : List UInt8 :=
  bytes <| toStr <| .object [
    ("context", (request.get? "context").getD .null),
    ("id", .string id),
    ("intent", (request.get? "intent").getD .null),
    ("t", .string "intent"),
    ("v", .number (.posInt 1))]

def byeMessage [Writer] : List UInt8 :=
  bytes <| toStr <| .object [
    ("reason", .string "done"), ("t", .string "bye"), ("v", .number (.posInt 1))]

/-- A URL's authority without the port its scheme has anyway. -/
def withoutDefaultPort (scheme authority : List Char) : List Char :=
  match Chars.rsplitOnce ':' authority with
  | some (host, port) =>
    if scheme = "https".toList ∧ port = "443".toList ∨
        scheme = "http".toList ∧ port = "80".toList then host
    else authority
  | none => authority

/-- `origin_of`: what a browser sends as `Origin`. -/
def originOf (url : List Char) : List Char :=
  match Chars.splitOnce "://".toList (Chars.trim url) with
  | none => []
  | some (scheme, rest) =>
    let authority := rest.takeWhile fun letter => letter != '/' && letter != '?' && letter != '#'
    let authority := ((Chars.rsplitOnce '@' authority).map (·.2)).getD authority
    let scheme := Chars.lower scheme
    scheme ++ "://".toList ++ withoutDefaultPort scheme (Chars.lower authority)

/-- What the header lines of an upgrade say. -/
structure Upgrade where
  key : Option (List Char) := none
  upgrade : Bool := false
  origin : Option (List Char) := none
  deriving DecidableEq

def Upgrade.withLine (read : Upgrade) (line : List Char) : Upgrade :=
  match Chars.splitOnce [':'] line with
  | none => read
  | some (name, value) =>
    let value := Chars.trim value
    let name := Chars.lower (Chars.trim name)
    if name = "upgrade".toList then
      { read with upgrade := Chars.lower value == "websocket".toList }
    else if name = "sec-websocket-key".toList then { read with key := some value }
    else if name = "origin".toList then { read with origin := some (Chars.lower value) }
    else read

/-- The request line of a head, and what its header lines say. -/
def readHead (head : List Char) : List Char × Upgrade :=
  match Chars.splitPairs '\r' '\n' head with
  | request :: lines => (request, lines.foldl Upgrade.withLine {})
  | [] => ([], {})

def guid : List UInt8 := bytes "258EAFA5-E914-47DA-95CA-C5AB0DC85B11"

def switching [SignerRuntime] (key : List Char) : List UInt8 :=
  bytes "HTTP/1.1 101 Switching Protocols\r\nUpgrade: websocket\r\nConnection: Upgrade\r\n" ++
    bytes "Sec-WebSocket-Accept: " ++ base64 (sha1 (bytes (String.ofList key) ++ guid)) ++
    bytes "\r\n\r\n"

/-- The 101 for a WebSocket upgrade from the origin, or nothing (`accept`). -/
def accept [SignerRuntime] (head origin : List Char) : Option (List UInt8) :=
  let (request, read) := readHead head
  if ¬ "GET ".toList <+: request then none
  else if ¬ read.upgrade ∨ origin = [] ∨ read.origin ≠ some origin then none
  else read.key.map switching

inductive Phase where
  | handshake
  | hello
  | answer
  | idle
  | done
  deriving DecidableEq

/-- What to do after feeding a connection. -/
structure Step where
  write : List UInt8 := []
  close : Bool := false
  outcome : Option (Except TrustedSignerError Value) := none

/-- What two moves one after the other come to: a later outcome replaces an earlier
one. -/
def Step.then (first second : Step) : Step where
  write := first.write ++ second.write
  close := first.close || second.close
  outcome := second.outcome.or first.outcome

/-- One accepted TCP connection. -/
structure Connection where
  origin : List Char
  token : String
  id : String
  intent : List UInt8
  phase : Phase := .handshake
  inbox : List UInt8 := []
  fragments : List UInt8 := []

namespace Connection

def new [Writer] (signerUrl : List Char) (token id : String) (request : Value) : Connection where
  origin := originOf signerUrl
  token := token
  id := id
  intent := intentMessage id request

/-- A protocol fault (`fail`). -/
def fail (connection : Connection) (code : Nat) : Connection × Step :=
  ({ connection with phase := .done },
    { write := closeFrame code
      close := true
      outcome :=
        if connection.phase = .answer then
          some (.error (.malformed ("websocket close " ++ toString code)))
        else none })

def refuseHttp (connection : Connection) : Connection × Step :=
  ({ connection with phase := .done },
    { write :=
        bytes "HTTP/1.1 403 Forbidden\r\nContent-Length: 0\r\nConnection: close\r\n\r\n"
      close := true })

/-- `same`: the whole of two tokens. -/
def same (first second : String) : Bool := bytes first == bytes second

/-- A whole text message (`message`). -/
def message [Reader] (connection : Connection) (text : List Char) : Connection × Step :=
  match connection.phase, parseMessage text with
  | .hello, .hello token =>
    if same token connection.token then
      ({ connection with phase := .answer }, { write := encode 0x1 connection.intent })
    else connection.fail 1008
  | .answer, .result id result =>
    if id = connection.id then
      ({ connection with phase := .idle }, { outcome := some (.ok result) })
    else (connection, {})
  | .answer, .error id error =>
    if id = connection.id then
      ({ connection with phase := .idle }, { outcome := some (.error error) })
    else (connection, {})
  | _, _ => (connection, {})

/-- One frame: the body of the loop in `feed`. -/
def frame [Reader] (connection : Connection) : Frame → Connection × Step
  | .bad => connection.fail 1002
  | .ping payload => (connection, { write := encode 0xA payload })
  | .pong | .binary => (connection, {})
  | .close =>
    ({ connection with phase := .done },
      { write := closeFrame 1000
        close := true
        outcome := if connection.phase = .answer then some (.error .declined) else none })
  | .text fin payload =>
    let joined := connection.fragments ++ payload
    if maxMessage < joined.length then { connection with fragments := joined }.fail 1009
    else if fin then
      { connection with fragments := [] }.message (Chars.fromUtf8Lossy joined)
    else ({ connection with fragments := joined }, {})

theorem message_inbox [Reader] (connection : Connection) (text : List Char) :
    (connection.message text).1.inbox = connection.inbox := by
  unfold message
  split
  · split <;> rfl
  · split <;> rfl
  · split <;> rfl
  · rfl

theorem frame_inbox [Reader] (connection : Connection) (frame : Frame) :
    (connection.frame frame).1.inbox = connection.inbox := by
  cases frame with
  | text =>
    simp only [Connection.frame]
    split
    · rfl
    split
    · exact message_inbox _ _
    · rfl
  | bad | ping | pong | binary | close => rfl

/-- The loop of `feed`: the frames that have come whole, one after the other. -/
def drain [Reader] (connection : Connection) : Connection × Step :=
  if connection.phase = .done then (connection, {})
  else
    match decoded : decode connection.inbox with
    | none =>
      if maxMessage + 14 < connection.inbox.length then connection.fail 1009
      else (connection, {})
    | some (frame, used) =>
      let taken := { connection with inbox := connection.inbox.drop used }.frame frame
      let rest := taken.1.drain
      (rest.1, taken.2.then rest.2)
  termination_by connection.inbox.length
  decreasing_by
    have used := decode_used decoded
    simp only [frame_inbox, List.length_drop]
    omega

/-- Bytes arrived on the socket (`feed`). -/
def feed [SignerRuntime] (connection : Connection) (arrived : List UInt8) : Connection × Step :=
  if connection.phase = .done then (connection, {})
  else
    let connection := { connection with inbox := connection.inbox ++ arrived }
    if connection.phase = .handshake then
      match find (bytes "\r\n\r\n") connection.inbox with
      | none => if maxHead < connection.inbox.length then connection.refuseHttp else (connection, {})
      | some place =>
        let head := Chars.fromUtf8Lossy (connection.inbox.take place)
        let connection := { connection with inbox := connection.inbox.drop (place + 4) }
        match accept head connection.origin with
        | some response =>
          let rest := { connection with phase := .hello }.drain
          (rest.1, { write := response : Step }.then rest.2)
        | none => connection.refuseHttp
    else connection.drain

/-- The socket closed under the connection (`closed`). -/
def closed (connection : Connection) : Connection × Option TrustedSignerError :=
  ({ connection with phase := .done },
    if connection.phase = .answer then some .declined else none)

/-- The next request of the same session (`send`). -/
def send [Writer] (connection : Connection) (id : String) (request : Value) : Connection × Step :=
  if connection.phase = .idle then
    ({ connection with id, phase := .answer }, { write := encode 0x1 (intentMessage id request) })
  else (connection, {})

/-- The session is over (`end`). -/
def finish [Writer] (connection : Connection) : Connection × Step :=
  let bye := if connection.phase ≠ .done ∧ connection.phase ≠ .handshake then
    encode 0x1 byeMessage else []
  ({ connection with phase := .done }, { write := bye ++ closeFrame 1000, close := true })

end Connection

end VelaWallet.TrustedSigner
