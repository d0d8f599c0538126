import Mathlib.Algebra.Group.Nat.Defs
import VelaWallet.Signer.Address

/-!
# Page origins

The origin of a page's address, and the rules on which origins count as secure, public, and
fit to be offered the wallet (`dapp_permissions.rs`).
-/

namespace VelaWallet.DappPermissions

open TrustedSigner (isControl authorityOf isAsciiHexdigit numberOf)

/-- The port an authority's digits write: none, or one a URL may have. -/
def portOf : Option (List Char) → Option (Option Nat)
  | none => some none
  | some digits =>
    if digits.isEmpty then some none
    else if digits.all Char.isDigit then
      if numberOf digits < 2 ^ 32 then
        if 65535 < numberOf digits then none else some (some (numberOf digits))
      else none
    else none

/-- The host of an authority, and the text after its colon. -/
def hostOf (hostPort : List Char) : Option (List Char × Option (List Char)) :=
  match hostPort with
  | '[' :: bracketed => do
      let (inner, after) ← Chars.splitOnce [']'] bracketed
      match after with
      | [] => some ('[' :: inner ++ [']'], none)
      | ':' :: digits => some ('[' :: inner ++ [']'], some digits)
      | _ => none
  | _ =>
    match Chars.splitOnce [':'] hostPort with
    | some (host, digits) => some (host, some digits)
    | none => some (hostPort, none)

def isScheme : List Char → Bool
  | [] => false
  | first :: rest =>
    first.isAlpha && rest.all fun letter => letter.isAlphanum || ['+', '-', '.'].contains letter

/-- `parse_origin`: the scheme, the host and the port of an address. -/
def parseOrigin (value : List Char) : Option (List Char × List Char × Option Nat) := do
  let (scheme, rest) ← Chars.splitOnce "://".toList value
  if isScheme scheme then
    let authority := authorityOf rest
    let hostPort := match Chars.rsplitOnce '@' authority with
      | some (_, hostPort) => hostPort
      | none => authority
    let (host, digits) ← hostOf hostPort
    if host.isEmpty || host.any fun letter => Utf8.isWhitespace letter || isControl letter then none
    else
      let port ← portOf digits
      some (Chars.lower scheme, Chars.lower host, port)
  else none

/-- The port of a scheme's addresses that write none. -/
def defaultPort (scheme : List Char) : Nat := if scheme = "http".toList then 80 else 443

def written (scheme host : List Char) (port : Option Nat) : List Char :=
  scheme ++ "://".toList ++ host ++
    match port with
    | some port => ':' :: Nat.toDigits 10 port
    | none => []

/-- `origin_of`: only web pages have one. -/
def originOf (url : List Char) : Option (List Char) := do
  let (scheme, host, port) ← parseOrigin url
  if scheme ≠ "http".toList ∧ scheme ≠ "https".toList then none
  else some (written scheme host (port.filter (· ≠ defaultPort scheme)))

/-- One label of a dotted quad: one to three digits that write at most 255. -/
def octetOf (part : List Char) : Option Nat :=
  if part.isEmpty || 3 < part.length || !part.all Char.isDigit then none
  else if numberOf part ≤ 255 then some (numberOf part) else none

def dottedQuad (host : List Char) : Option (Nat × Nat × Nat × Nat) :=
  match host.splitOn '.' with
  | [first, second, third, fourth] => do
      let first ← octetOf first
      let second ← octetOf second
      let third ← octetOf third
      let fourth ← octetOf fourth
      return (first, second, third, fourth)
  | _ => none

/-- The number some hexadecimal digits write. -/
def hexNumber (digits : List Char) : Nat :=
  digits.foldl (fun value digit => value * 16 + (Uri.hexValue? digit).getD 0) 0

/-- `first_v6_group`: written as exactly four hexadecimal digits. -/
def firstV6Group (host : List Char) : Option Nat := do
  let (group, _) ← Chars.splitOnce [':'] host
  if group.length ≠ 4 || !group.all isAsciiHexdigit then none else some (hexNumber group)

def isLoopbackHost (host : List Char) : Bool :=
  let host := Chars.lower host
  host == "localhost".toList || ".localhost".toList.isSuffixOf host || host == "[::1]".toList ||
    (dottedQuad host).any fun quad => quad.1 == 127

def privateNames : List (List Char) := ["localhost".toList, "::1".toList]

def privateSuffixes : List (List Char) := [".local".toList]

def privateV6FirstGroup : List (Nat × Nat) := [(0xfc00, 0xfdff), (0xfe80, 0xfe80)]

def privateV4 : List (Nat × Nat × Nat) :=
  [(127, 0, 255), (10, 0, 255), (192, 168, 168), (172, 16, 31), (169, 254, 254)]

/-- A first group in one of the private ranges. -/
def isPrivateV6 (group : Nat) : Bool :=
  privateV6FirstGroup.any fun (first, last) => first ≤ group && group ≤ last

/-- The first two octets of an address in one of the private ranges. -/
def isPrivateV4 (first second : Nat) : Bool :=
  privateV4.any fun (octet, low, high) => first == octet && low ≤ second && second ≤ high

def isPrivateName (host : List Char) : Bool :=
  privateNames.contains host || privateSuffixes.any fun suffix => suffix.isSuffixOf host

/-- A text without one opening bracket. -/
def stripOpen (host : List Char) : List Char :=
  if ['['].isPrefixOf host then host.drop 1 else host

/-- A text without one closing bracket. -/
def stripClose (host : List Char) : List Char :=
  if [']'].isSuffixOf host then host.dropLast else host

def isLoopbackOrPrivateHost (host : List Char) : Bool :=
  let host := stripClose (stripOpen (Chars.lower host))
  if isPrivateName host then true
  else
    match firstV6Group host with
    | some group => isPrivateV6 group
    | none => (dottedQuad host).any fun quad => isPrivateV4 quad.1 quad.2.1

def isInsecurePublicOrigin (origin : List Char) : Bool :=
  match parseOrigin origin with
  | none => true
  | some (scheme, host, _) => scheme == "http".toList && !isLoopbackOrPrivateHost host

inductive OriginLock where
  | secure
  | localNetwork
  | insecure
  deriving DecidableEq

def originLock (origin : List Char) : OriginLock :=
  match parseOrigin origin with
  | some (scheme, host, _) =>
    if scheme = "https".toList then .secure
    else if scheme = "http".toList ∧ isLoopbackOrPrivateHost host then .localNetwork
    else .insecure
  | none => .insecure

def isSecureContext (origin : List Char) : Bool :=
  match parseOrigin origin with
  | some (scheme, host, _) =>
    if scheme = "https".toList then true
    else scheme == "http".toList && isLoopbackHost host
  | none => false

def offersWallet (origin : List Char) (debugMode : Bool) : Bool :=
  isSecureContext origin ||
    (debugMode &&
      match parseOrigin origin with
      | some (scheme, host, _) => scheme == "http".toList && isLoopbackOrPrivateHost host
      | none => false)

/-- How JavaScript lower-cases a character between two texts. A character beyond ASCII may
become several; of the ASCII characters it can only become `i` or `k`. -/
class JsCase where
  lowerAt : List Char → Char → List Char → List Char
  lowerAt_ascii : ∀ {before letter after}, letter.toNat < 128 →
    lowerAt before letter after = [letter.toLower]
  lowerAt_ne_nil : ∀ {before letter after}, lowerAt before letter after ≠ []
  lowerAt_beyond : ∀ {before letter after lowered}, 128 ≤ letter.toNat →
    lowered ∈ lowerAt before letter after → lowered.toNat < 128 → lowered = 'i' ∨ lowered = 'k'

section JavaScript

variable [JsCase]

/-- The characters of a text lower-cased, after those before it. -/
def lowerAfter (before : List Char) : List Char → List Char
  | [] => []
  | letter :: after =>
    JsCase.lowerAt before letter after ++ lowerAfter (before ++ [letter]) after

/-- `String.prototype.toLowerCase` -/
def toLowerCase (text : List Char) : List Char := lowerAfter [] text

/-- `/^([0-9a-f]{4}):/` and what it captures. -/
def firstGroupJs (host : List Char) : Option (List Char) :=
  let group := host.take 4
  if group.length = 4 ∧ group.all (fun letter => letter.isDigit || ('a' ≤ letter && letter ≤ 'f')) ∧
      (host.drop 4).head? = some ':' then
    some group
  else none

/-- `/^[0-9]{1,3}$/` with a value of at most 255. -/
def isOctetJs (part : List Char) : Bool :=
  1 ≤ part.length && part.length ≤ 3 && part.all Char.isDigit && numberOf part ≤ 255

/-- `private_host_js`: the function the script is given. -/
def privateHostJs (host : List Char) : Bool :=
  let host := toLowerCase host
  let host := if ['['].isPrefixOf host then host.drop 1 else host
  let host := if [']'].isSuffixOf host then host.dropLast else host
  if isPrivateName host then true
  else
    match firstGroupJs host with
    | some group => isPrivateV6 (hexNumber group)
    | none =>
      let parts := host.splitOn '.'
      if parts.length ≠ 4 then false
      else if !parts.all isOctetJs then false
      else isPrivateV4 (numberOf (parts.getD 0 [])) (numberOf (parts.getD 1 []))

end JavaScript

end VelaWallet.DappPermissions
