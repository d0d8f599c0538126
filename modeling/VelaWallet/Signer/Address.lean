import VelaWallet.Base.Percent
import VelaWallet.Base.Chars

/-!
# Signing page addresses

The address of a signing page as a person typed it, normalised (`signer_url` in
`trusted_signer.rs`).
-/

namespace VelaWallet.TrustedSigner

/-- Why a signing page's address cannot be used. -/
inductive SignerUrlError where
  | invalid
  | insecure
  deriving DecidableEq

/-- `fold_width`: full-width forms are read as the ASCII they stand for. -/
def foldWidth (input : List Char) : List Char :=
  input.map fun letter =>
    let code := letter.toNat
    if 0xFF01 ≤ code ∧ code ≤ 0xFF5E then Char.ofNat (code - 0xFEE0)
    else if code = 0x3000 then ' '
    else if code = 0x3002 ∨ code = 0xFF61 then '.'
    else letter

def isControl (letter : Char) : Bool :=
  letter.toNat < 32 || (127 ≤ letter.toNat && letter.toNat < 160)

/-- An authority's text: what stands before a path, a query or a fragment. -/
def authorityOf (text : List Char) : List Char :=
  text.takeWhile fun letter => !(['/', '?', '#'].contains letter)

def isAsciiHexdigit (letter : Char) : Bool :=
  letter.isDigit || ('a' ≤ letter && letter ≤ 'f') || ('A' ≤ letter && letter ≤ 'F')

def isLabelCharacter (letter : Char) : Bool :=
  letter.isLower || letter.isDigit || letter == '-'

def isAsciiHost (host : List Char) : Bool :=
  !host.isEmpty && host.length ≤ 253 &&
    (host.splitOn '.').all fun label =>
      !label.isEmpty && label.length ≤ 63 && label.head? != some '-' &&
        label.getLast? != some '-' && label.all isLabelCharacter

def numberOf (digits : List Char) : Nat :=
  digits.foldl (fun value digit => value * 10 + (digit.toNat - 48)) 0

/-- An authority's port: none, or digits that write a port. -/
def portOf : Option (List Char) → Option (Option Nat)
  | none => some none
  | some digits =>
    if digits.isEmpty || 5 < digits.length || !digits.all Char.isDigit then none
    else if 0 < numberOf digits ∧ numberOf digits < 65536 then some (some (numberOf digits))
    else none

/-- The text between an opening bracket and the closing one. -/
def isBracketed (inner : List Char) : Bool :=
  !inner.isEmpty && inner.contains ':' &&
    inner.all fun letter => isAsciiHexdigit letter || letter == ':' || letter == '.'

def hostAndPort (authority : List Char) : Option (List Char × Option Nat) :=
  match authority with
  | '[' :: bracketed => do
      let (inner, after) ← Chars.splitOnce [']'] bracketed
      if isBracketed inner then
        let digits ← match after with
          | [] => some none
          | ':' :: digits => some (some digits)
          | _ => none
        let port ← portOf digits
        return ('[' :: Chars.lower inner ++ [']'], port)
      else none
  | _ => do
      let (host, digits) := match Chars.splitOnce [':'] authority with
        | some (host, digits) => (host, some digits)
        | none => (authority, none)
      if isAsciiHost (Chars.lower host) then
        let port ← portOf digits
        return (Chars.lower host, port)
      else none

def isLoopback (host : List Char) : Bool :=
  host == "localhost".toList || ".localhost".toList.isSuffixOf host || host == "[::1]".toList ||
    "127.".toList.isPrefixOf host

def percentNonAscii (path : List Char) : List Char :=
  path.flatMap fun letter =>
    if letter.toNat < 128 then [letter] else (String.utf8EncodeChar letter).flatMap Uri.escape

def signerUrl (input : String) : Except SignerUrlError String :=
  let text := Chars.trim (foldWidth input.toList)
  if text.isEmpty || text.any fun letter => Utf8.isWhitespace letter || isControl letter then
    .error .invalid
  else
    match Chars.splitOnce "://".toList text with
    | some (scheme, rest) => address (Chars.lower scheme) rest
    | none => address "https".toList text
where
  /-- The address of a text whose scheme is known. -/
  address (scheme rest : List Char) : Except SignerUrlError String :=
    let authority := authorityOf rest
    if authority.contains '@' then .error .invalid
    else
      match hostAndPort authority with
      | none => .error .invalid
      | some (host, port) =>
        if scheme = "https".toList ∨ scheme = "http".toList ∧ isLoopback host then
          let usual := if scheme = "https".toList then 443 else 80
          let port := match port.filter (· ≠ usual) with
            | some port => ':' :: (toString port).toList
            | none => []
          let path := rest.drop authority.length
          let path := if path.isEmpty then ['/'] else percentNonAscii path
          .ok (String.ofList (scheme ++ "://".toList ++ host ++ port ++ path))
        else if scheme = "http".toList then .error .insecure
        else .error .invalid

example : signerUrl "ｈttp：／／localhost：8140" = .ok "http://localhost:8140/" := by decide

example : signerUrl "Sign.Getvela.App:443" = .ok "https://sign.getvela.app/" := by decide

end VelaWallet.TrustedSigner
