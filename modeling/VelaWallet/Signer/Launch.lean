import VelaWallet.Base.Json
import VelaWallet.Signer.Integrity

/-!
# Which signing page is opened

The version that is asked for, the ruling on the bytes its address served, and the
addresses an admitted page is launched with (`trusted_signer/launch.rs`).
-/

namespace VelaWallet.TrustedSigner

open Json (Value Writer toStr)

/-- What a launch is given besides the page: the JSON printer, the deflater and the
encoder of its output. -/
class LaunchRuntime extends Writer where
  deflate : List UInt8 → List UInt8
  base64Url : List UInt8 → String

export LaunchRuntime (deflate base64Url)

/-- The runtime of a launch that carries no request. -/
@[reducible] def bareLaunch : LaunchRuntime where
  toStr _ := ""
  deflate text := text
  base64Url _ := ""

/-- `MAX_CHECK_AGE_MS`: a day. -/
def maxCheckAgeMs : Nat := 24 * 60 * 60 * 1000

def isFreshAt (checkedAtMs nowMs : Nat) : Bool := nowMs - checkedAtMs ≤ maxCheckAgeMs

/-- One version of one deployment. -/
structure Target where
  base : String
  version : String
  url : String
  proposed : Bool
  deriving DecidableEq

/-- `str::trim_end_matches('/')`, of a trimmed text. -/
def rootOf (base : String) : String :=
  String.ofList ((Chars.trim base.toList).reverse.dropWhile (· == '/')).reverse

def pageUrl (base version : String) : String :=
  if isOfficial base then rootOf base ++ "/b/" ++ version ++ "/sign"
  else rootOf base ++ "/b/" ++ version ++ "/sign.html"

def Target.new (base version : String) (proposed : Bool) : Target :=
  { base, version, url := pageUrl base version, proposed }

variable (base version : String)

@[simp] theorem Target.new_base (proposed : Bool) :
    (Target.new base version proposed).base = base := rfl

@[simp] theorem Target.new_url (proposed : Bool) :
    (Target.new base version proposed).url = pageUrl base version := rfl

/-- `trusted_for`: nothing a person trusted opens in the official page's name. -/
def trustedFor (base : String) (trusted : List String) : List String :=
  if isOfficial base then [] else trusted

def baseOf (base : String) : String :=
  match signerUrl base with
  | .ok address => address
  | .error _ => String.ofList (Chars.trim base.toList)

def target (base : String) (index : Option (List String)) (trusted blocked : List String) :
    Except NoVersion Target :=
  let base := baseOf base
  let official := isOfficial base
  let trusted := trustedFor base trusted
  let unblocked := fun hash => !contains blocked hash
  let candidates := (buildAllowed ++ trusted).filterMap normalizeHash
  match index with
  | none =>
    let first := (normalizeHash launch).filter fun _ => official
    match (first.toList ++ candidates).find? unblocked with
    | some version => .ok (Target.new base version false)
    | none =>
      if candidates.isEmpty then .error .nothingPublishedThisWalletKnows
      else .error .everythingUsableIsBlocked
  | some listed =>
    match chooseVersion listed trusted blocked with
    | .ok version => .ok (Target.new base version false)
    | .error why =>
      if official then .error why
      else
        match (listed.filterMap normalizeHash).find? unblocked with
        | some version => .ok (Target.new base version true)
        | none => .error why

/-- A page that was checked and may be opened. -/
structure CheckedPage where
  target : Target
  verdict : Verdict
  checkedAtMs : Nat
  deriving DecidableEq

/-- What the ruling decided. -/
inductive Admission where
  | admitted (page : CheckedPage)
  | refused (target : Target) (verdict : Verdict)
  deriving DecidableEq

/-- A verdict about bytes that must be the target's version. -/
def Verdict.isAboutVersion : Verdict → Bool
  | .opens | .askToTrust _ => true
  | _ => false

/-- A verdict that lets the page open. -/
def Verdict.admits : Verdict → Bool
  | .opens | .openUnverified => true
  | _ => false

/-- The verdict on the bytes at a target's address: they must be the target's version. -/
def Target.verdict (target : Target) (observed : Option String) (failure : CheckFailure)
    (trusted blocked : List String) (verificationOff : Bool) : Verdict :=
  let verdict := Page.decide
    { url := target.base, observed, failure, trusted := trustedFor target.base trusted, blocked,
      verificationOff }
  let actual := observed.bind normalizeHash
  if verdict.isAboutVersion && actual != some target.version then .refused (actual.getD "") [target.version]
  else verdict

/-- `admit` -/
def Target.admitPage (target : Target) (observed : Option String) (failure : CheckFailure)
    (trusted blocked : List String) (verificationOff : Bool) (checkedAtMs : Nat) : Admission :=
  let verdict := target.verdict observed failure trusted blocked verificationOff
  if verdict.admits || !enforce then .admitted { target, verdict, checkedAtMs }
  else .refused target verdict

def CheckedPage.isFresh (page : CheckedPage) (nowMs : Nat) : Bool :=
  isFreshAt page.checkedAtMs nowMs

def Admission.page : Admission → Option CheckedPage
  | .admitted page => some page
  | .refused _ _ => none

def Admission.isFresh (admission : Admission) (nowMs : Nat) : Bool :=
  admission.page.any fun page => page.isFresh nowMs

/-- A check that could not complete. -/
def Admission.incomplete : Admission → Bool
  | .refused _ (.couldNotCheck _) => true
  | _ => false

def keepsPrevious (previous : Option Admission) (next : Admission) (nowMs : Nat) : Bool :=
  next.incomplete && previous.any fun previous => previous.isFresh nowMs

def keepOrReplace (previous : Option Admission) (next : Admission) (nowMs : Nat) : Admission :=
  match previous with
  | some earlier => if keepsPrevious (some earlier) next nowMs then earlier else next
  | none => next

/-- Why a checked page was not opened after all. -/
inductive LaunchRefused where
  | stale
  deriving DecidableEq

def percent (text : String) : String :=
  String.ofList ((Utf8.bytes text).flatMap fun byte =>
    let letter := Char.ofNat byte.toNat
    if byte < 128 ∧ (letter.isAlphanum ∨ "-_.~".toList.contains letter) then [letter]
    else Uri.escape byte)

def langParam (lang : String) : String :=
  let lang := Chars.trim lang.toList
  let tag := lang.length ≤ 35 && lang.all (fun letter =>
      letter.isAlphanum || letter == '-' || letter == '_') && lang.head?.any Char.isAlpha
  if tag then "&lang=" ++ String.ofList lang else ""

def fragmentLaunch [LaunchRuntime] (page : String) (request : Value)
    (callback token lang : String) : String :=
  let deflated := deflate (Utf8.bytes (toStr request))
  page ++ "?ch=url" ++ langParam lang ++ "#i=" ++ base64Url deflated ++ "&cb=" ++
    base64Url (Utf8.bytes callback) ++ "&t=" ++ percent token ++ "&z=1"

def socketLaunch (page : String) (port : UInt16) (token lang : String) : String :=
  page ++ "?ch=ws" ++ langParam lang ++ "#p=" ++ toString port.toNat ++ "&t=" ++ percent token

def CheckedPage.urlLaunch [LaunchRuntime] (page : CheckedPage) (request : Value)
    (callback token lang : String) (nowMs : Nat) : Except LaunchRefused String :=
  if page.isFresh nowMs then .ok (fragmentLaunch page.target.url request callback token lang)
  else .error .stale

def CheckedPage.wsLaunch (page : CheckedPage) (port : UInt16) (token lang : String)
    (nowMs : Nat) : Except LaunchRefused String :=
  if page.isFresh nowMs then .ok (socketLaunch page.target.url port token lang)
  else .error .stale

example : socketLaunch "https://x/b/y/sign" 80 "a b" "zh-HK" =
    "https://x/b/y/sign?ch=ws&lang=zh-HK#p=80&t=a%20b" := by decide

end VelaWallet.TrustedSigner
