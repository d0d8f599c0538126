import VelaWallet.Dapp.Origins

/-!
# Connect input

What a scanned, pasted or typed text is taken for: a pairing, a remote-inject link, a web address,
or none of these (`dapp_session.rs`).
-/

namespace VelaWallet.DappSession

open DappPermissions (portOf)

/-- `DsessRemoteInjectSession`: the credentials of a relay session. -/
structure RemoteInjectSession where
  serverUrl : String
  sessionId : String
  nonce : String
  secret : String
  deriving DecidableEq

inductive DsessInput where
  | walletPair (uri : String)
  | remoteInject (session : RemoteInjectSession)
  | browser (url : String)
  | invalid
  deriving DecidableEq

/-- `ParsedUrl`; the host carries its port, unless that is the scheme's own. -/
structure ParsedUrl where
  scheme : List Char
  userinfo : Option (List Char)
  host : List Char
  hostname : List Char
  path : List Char
  query : Option (List Char)
  fragment : Option (List Char)
  /-- A scheme of no authority (`mailto:x`, `localhost:8080`). -/
  isOpaque : Bool

def isSpecialScheme (scheme : List Char) : Bool :=
  ["http".toList, "https".toList, "ws".toList, "wss".toList, "ftp".toList].contains scheme

def defaultPort (scheme : List Char) : Option Nat :=
  if scheme = "http".toList ∨ scheme = "ws".toList then some 80
  else if scheme = "https".toList ∨ scheme = "wss".toList then some 443
  else if scheme = "ftp".toList then some 21
  else none

/-- The path, the query and the fragment of what follows an authority. -/
def splitPathQueryFragment (input : List Char) :
    List Char × Option (List Char) × Option (List Char) :=
  let (beforeFragment, fragment) := match Chars.splitOnce ['#'] input with
    | some (before, after) => (before, some after)
    | none => (input, none)
  match Chars.splitOnce ['?'] beforeFragment with
  | some (path, query) => (path, some query, fragment)
  | none => (beforeFragment, none, fragment)

/-- The scheme of an address, and what follows its colon. -/
def schemeOf : List Char → Option (List Char × List Char)
  | [] => none
  | first :: rest =>
    if first.isAlpha then
      let isLetter := fun letter : Char =>
        letter.isAlphanum || letter == '+' || letter == '.' || letter == '-'
      match rest.dropWhile isLetter with
      | ':' :: after => some (Chars.lower (first :: rest.takeWhile isLetter), after)
      | _ => none
    else none

/-- The address whose scheme is followed by an authority. -/
def parseAuthority (scheme after : List Char) : Option ParsedUrl := do
  let isInside := fun letter : Char => !(letter == '/' || letter == '?' || letter == '#')
  let authority := after.takeWhile isInside
  let (userinfo, hostPort) := match Chars.rsplitOnce '@' authority with
    | some (userinfo, hostPort) => (some userinfo, hostPort)
    | none => (none, authority)
  let hostPort := Chars.lower hostPort
  let (hostname, portText) := match Chars.rsplitOnce ':' hostPort with
    | some (hostname, digits) => (hostname, some digits)
    | none => (hostPort, none)
  if hostname.isEmpty && isSpecialScheme scheme then none
  else
    let port ← portOf portText
    let host := match port.filter fun number => defaultPort scheme ≠ some number with
      | some number => hostname ++ ':' :: Nat.toDigits 10 number
      | none => hostname
    let (path, query, fragment) := splitPathQueryFragment (after.dropWhile isInside)
    some { scheme, userinfo, host, hostname, path, query, fragment, isOpaque := false }

def parseUrl (raw : List Char) : Option ParsedUrl := do
  if raw.any Utf8.isWhitespace then none
  else
    let (scheme, rest) ← schemeOf raw
    if isSpecialScheme scheme then parseAuthority scheme (rest.dropWhile (· == '/'))
    else
      match rest with
      | '/' :: '/' :: after => parseAuthority scheme after
      | _ =>
        let (path, query, fragment) := splitPathQueryFragment rest
        some {
          scheme, userinfo := none, host := [], hostname := [], path, query, fragment,
          isOpaque := true }

def serializeHttp (url : ParsedUrl) : List Char :=
  let userinfo := match url.userinfo with
    | some userinfo => userinfo ++ ['@']
    | none => []
  let path := if url.path.isEmpty then ['/'] else url.path
  let query := match url.query with
    | some query => '?' :: query
    | none => []
  let fragment := match url.fragment with
    | some fragment => '#' :: fragment
    | none => []
  url.scheme ++ "://".toList ++ userinfo ++ url.host ++ path ++ query ++ fragment

def hexDigit (byte : UInt8) : Option UInt8 :=
  if 0x30 ≤ byte ∧ byte ≤ 0x39 then some (byte - 0x30)
  else if 0x61 ≤ byte ∧ byte ≤ 0x66 then some (byte - 0x61 + 10)
  else if 0x41 ≤ byte ∧ byte ≤ 0x46 then some (byte - 0x41 + 10)
  else none

/-- The bytes that a query's text stands for; a malformed escape stands for itself. -/
def percentDecodeBytes : List UInt8 → List UInt8
  | [] => []
  | byte :: rest =>
    if byte = 0x2B then 0x20 :: percentDecodeBytes rest
    else if byte = 0x25 then
      match rest with
      | high :: low :: rest' =>
        match hexDigit high, hexDigit low with
        | some high', some low' => (high' * 16 + low') :: percentDecodeBytes rest'
        | _, _ => byte :: percentDecodeBytes (high :: low :: rest')
      | [last] => byte :: percentDecodeBytes [last]
      | [] => [byte]
    else byte :: percentDecodeBytes rest

def percentDecode (text : List Char) : List Char :=
  Chars.fromUtf8Lossy (percentDecodeBytes (Utf8.bytes (String.ofList text)))

/-- `query_param`: the first value a name has. -/
def queryParam (query : Option (List Char)) (name : String) : Option (List Char) := do
  let pairs := ((← query).splitOn '&').filter fun pair => !pair.isEmpty
  let read := pairs.map fun pair =>
    match Chars.splitOnce ['='] pair with
    | some (key, value) => (key, value)
    | none => (pair, [])
  let (_, value) ← read.find? fun pair => percentDecode pair.1 = name.toList
  some (percentDecode value)

def isWalletPairUri (raw : List Char) : Bool :=
  "walletpair:".toList.isPrefixOf (raw.dropWhile Utf8.isWhitespace)

def parseRemoteInjectUrl (raw : List Char) : Option RemoteInjectSession := do
  let url ← parseUrl raw
  let filled := fun name => (queryParam url.query name).filter fun value => !value.isEmpty
  let nonce ← filled "n"
  let secret ← filled "k"
  let sessionOf := fun sessionId : List Char =>
    ({ serverUrl := String.ofList (url.scheme ++ "://".toList ++ url.host)
       sessionId := String.ofList sessionId
       nonce := String.ofList nonce
       secret := String.ofList secret } : RemoteInjectSession)
  let named :=
    if "/s/".toList.isPrefixOf url.path then (url.path.drop 3).takeWhile (· != '/') else []
  if named.isEmpty then (filled "session").map sessionOf else some (sessionOf named)

def coerceBrowserUrl (raw : List Char) : Option (List Char) :=
  let text := Chars.trim raw
  if text.isEmpty then none
  else
    match parseUrl text with
    | some url =>
      if !url.isOpaque && (url.scheme = "http".toList || url.scheme = "https".toList) then
        some (serializeHttp url)
      else none
    | none =>
      if text.any Utf8.isWhitespace || !text.contains '.' then none
      else
        (parseUrl ("https://".toList ++ text)).bind fun url =>
          if url.hostname.contains '.' then some (serializeHttp url) else none

def classifyConnectInput (raw : String) : DsessInput :=
  let trimmed := Chars.trim raw.toList
  if isWalletPairUri trimmed then .walletPair (String.ofList trimmed)
  else
    match parseRemoteInjectUrl trimmed with
    | some session => .remoteInject session
    | none =>
      match coerceBrowserUrl trimmed with
      | some url => .browser (String.ofList url)
      | none => .invalid

example : classifyConnectInput " https://relay.io/s/ab?n=1&k=2 " =
    .remoteInject {
      serverUrl := "https://relay.io", sessionId := "ab", nonce := "1", secret := "2" } := by
  decide +kernel

example : classifyConnectInput "app.uniswap.org" = .browser "https://app.uniswap.org/" := by
  decide +kernel

end VelaWallet.DappSession
