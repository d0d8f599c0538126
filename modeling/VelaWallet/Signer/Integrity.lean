import VelaWallet.Signer.Address

/-!
# Whether the signing page may be opened

The decision about a page's bytes and nothing else (`trusted_signer/integrity.rs`): what
this build accepts, what the person trusts or blocks, and what is said when the page may
not be opened.
-/

namespace VelaWallet.TrustedSigner

/-- `BUILD_ALLOWED`: the page hashes this build accepts, newest first. -/
@[irreducible] def buildAllowed : List String :=
  ["f14e755aace5937d245c3debe4318fd7b6640d5c17032c472b976b72509f46a8",
    "245c9ea1a365f85bc9dfa16ff4d67b9242a7936168e7b3dbb3450f5e2301b0f6",
    "2d19fa497c4131a9341f69248fb68a79c3bbf750aed0559747b0d34ac9fa009d",
    "364b8737d0646aa87be17162bf8af6621e1aeb31f8f96d19a7613edf562c2b23",
    "0ba8ee8cc9bb7490a1f31d9d2059a93f6796beec6185a8b76e3db0184b290242",
    "8c002ee4886869375d79d01c81d52f109449d663020bcf4bf03ca8ebbe368658",
    "82fae7f245cd053f8cf0404262c224e0d123bf6c3812b741cb1e7fe5e8da4f1e",
    "ec038e11ec6498c922d0935da6009f46b4d43885e119ff0e984b88227433c886",
    "e3ef90a6040fe896a34c6b32fcab232417bf1dd70e62d473c88a0bed7dc97d5f",
    "584b7102a089759f410312dfa37a8834bfcdc25033a71d6a338cf1f80e6305a5",
    "74b512ddc5e55e584249739e7d0a08d2ea5f4fb4c628fbb2350dbf7d1ec7494f",
    "d554facb4e2a4cae1bba8e36fa1dcc53219e7fed3b611762e72ee0cbc46aa66e",
    "6ffe9ef204ad9ba623cc34d0d403d880269081bdd326e7e7a7e17da15c14a4a6",
    "4563215b962d9b615c5dc93bb8121ae02aba6d6b3c20b62e9146d69f03b1e505",
    "802b2fced1eb1fdcd4d935da15b62ac3d9ba13cfafdf6768a67d5e1296a3e0b6",
    "810db7c5dbb461897287ae6e8a8c863e9075779e96a07af06efff98fbd925178"]

/-- `ENFORCE`: a page that is refused is not opened. -/
def enforce : Bool := true

/-- `LAUNCH`: the version that is asked for where there is no index. -/
@[irreducible] def launch : String := "f14e755aace5937d245c3debe4318fd7b6640d5c17032c472b976b72509f46a8"

def officialHost : List Char := "sign.getvela.app".toList

/-- Why the check could not be completed. -/
inductive CheckFailure where
  | unreachable
  | noCachedBytes
  | notChecked
  deriving DecidableEq

/-- Why there was no version to ask for. -/
inductive NoVersion where
  | nothingPublishedThisWalletKnows
  | everythingUsableIsBlocked
  deriving DecidableEq

/-- What a shell does about a page. -/
inductive Verdict where
  /-- The bytes are a version this device decided on in advance. -/
  | opens
  /-- Opened without a check, and said so. -/
  | openUnverified
  | denied (hash : String)
  | refused (actual : String) (expected : List String)
  /-- A version of a custom page nobody decided about yet. -/
  | askToTrust (actual : String)
  | couldNotCheck (failure : CheckFailure)
  | noVersionToAsk (why : NoVersion)
  deriving DecidableEq

/-- Everything the decision is made from. -/
structure Page where
  url : String
  observed : Option String
  failure : CheckFailure
  trusted : List String
  blocked : List String
  verificationOff : Bool

@[irreducible] def normalizeHash (input : String) : Option String :=
  let text := Chars.trim input.toList
  if (text.flatMap String.utf8EncodeChar).length ≠ 64 ∨ text.all isAsciiHexdigit = false then none
  else some (String.ofList (Chars.lower text))

/-- `is_official`: host only, whatever its case. -/
@[irreducible] def isOfficial (url : String) : Bool :=
  let text := Chars.trim url.toList
  let rest := ((Chars.splitOnce "://".toList text).map Prod.snd).getD text
  let authority := authorityOf rest
  let host := ((Chars.rsplitOnce '@' authority).map Prod.snd).getD authority
  let host := ((Chars.splitOnce [':'] host).map Prod.fst).getD host
  Chars.lower host == Chars.lower officialHost

/-- `contains`: a list's entries are compared in normal form. -/
def contains (list : List String) (hash : String) : Bool :=
  (list.filterMap normalizeHash).contains hash

def chooseVersion (available trusted blocked : List String) : Except NoVersion String :=
  let offered := available.filterMap normalizeHash
  let candidates := (buildAllowed.filterMap normalizeHash ++ trusted.filterMap normalizeHash).filter
    fun candidate => offered.contains candidate
  match candidates.find? fun candidate => !contains blocked candidate with
  | some usable => .ok usable
  | none =>
    if candidates.isEmpty then .error .nothingPublishedThisWalletKnows
    else .error .everythingUsableIsBlocked

def Page.decide (page : Page) : Verdict :=
  match page.observed.bind normalizeHash with
  | none => .couldNotCheck page.failure
  | some observed =>
    -- deny outranks this build's list and the person's own
    if contains page.blocked observed then .denied observed
    else if contains buildAllowed observed || contains page.trusted observed then .opens
    else if isOfficial page.url then .refused observed buildAllowed
    else if page.verificationOff then .openUnverified
    else .askToTrust observed

theorem mem_of_contains {list : List String} {hash : String} (found : contains list hash = true) :
    hash ∈ list.filterMap normalizeHash := by
  simpa [contains] using found

theorem isAsciiHexdigit_range {letter : Char} (digit : isAsciiHexdigit letter = true) :
    48 ≤ letter.toNat ∧ letter.toNat ≤ 102 := by
  simp only [isAsciiHexdigit, Char.isDigit, Bool.or_eq_true, Bool.and_eq_true,
    decide_eq_true_eq, Char.le_def, UInt32.le_iff_toNat_le, ge_iff_le] at digit
  have nine : ('9' : Char).val.toNat = 57 := rfl
  have sixth : ('f' : Char).val.toNat = 102 := rfl
  have zero : ('0' : Char).val.toNat = 48 := rfl
  have lower : ('a' : Char).val.toNat = 97 := rfl
  have upper : ('A' : Char).val.toNat = 65 := rfl
  have last : ('F' : Char).val.toNat = 70 := rfl
  change 48 ≤ letter.val.toNat ∧ letter.val.toNat ≤ 102
  omega

/-- The letters of a hash in normal form. -/
def normalLetters (letters : List Char) : Bool :=
  letters.length == 64 && letters.all fun letter => isAsciiHexdigit letter && letter.toLower == letter

theorem normalizeHash_ofList (letters : List Char) (normal : normalLetters letters = true) :
    normalizeHash (String.ofList letters) = some (String.ofList letters) := by
  simp only [normalLetters, Bool.and_eq_true, beq_iff_eq, List.all_eq_true] at normal
  obtain ⟨length, each⟩ := normal
  have solid : ∀ letter ∈ letters, Utf8.isWhitespace letter = false := by
    intro letter member
    have range := isAsciiHexdigit_range (each letter member).1
    simp only [Utf8.isWhitespace]
    simp
    omega
  have trimmed : Chars.trim letters = letters := by
    rw [Chars.trim, Utf8.dropWhile_eq_self solid, Utf8.dropWhile_eq_self, List.reverse_reverse]
    intro letter member
    exact solid letter (List.mem_reverse.mp member)
  have single : letters.map (fun letter => (String.utf8EncodeChar letter).length) =
      letters.map fun _ => 1 := by
    apply List.map_congr_left
    intro letter member
    rw [Utf8.utf8EncodeChar_of_lt (by
      have range := isAsciiHexdigit_range (each letter member).1
      omega)]
    rfl
  have encoded : (letters.flatMap String.utf8EncodeChar).length = 64 := by
    rw [List.length_flatMap, single, List.map_const', List.sum_replicate_nat, length]
  have digits : letters.all isAsciiHexdigit = true :=
    List.all_eq_true.mpr fun letter member => (each letter member).1
  have lowered : Chars.lower letters = letters := by
    rw [Chars.lower, List.map_congr_left fun letter member => (each letter member).2, List.map_id']
  simp [normalizeHash, String.toList_ofList, trimmed, encoded, digits, lowered]

theorem filterMap_normal {letters : List Char} {hashes : List String}
    (normal : normalLetters letters = true) (rest : hashes.filterMap normalizeHash = hashes) :
    (String.ofList letters :: hashes).filterMap normalizeHash = String.ofList letters :: hashes := by
  rw [List.filterMap_cons, normalizeHash_ofList letters normal, rest]

theorem buildAllowed_normal : buildAllowed.filterMap normalizeHash = buildAllowed := by
  unfold buildAllowed
  iterate 16 apply filterMap_normal (by decide)
  rfl

end VelaWallet.TrustedSigner
