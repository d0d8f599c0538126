import Mathlib.Data.List.Induction
import Mathlib.Data.List.TakeWhile
import VelaWallet.Base.Hex
import VelaWallet.Base.Lossy
import VelaWallet.Signer.Connection
import VelaWallet.Signer.Launch

/-!
# The signing page's callback

A callback is read twice: the shell asks which request it is for, and that request then reads the
answer out of the same query.  The first reader takes the first pair that is spelled `t=`, the
second the last pair whose key is `t`.
-/

namespace VelaWallet.TrustedSigner

open Json (Value Reader fromStr)
open Utf8 (bytes fromUtf8Lossy)

variable {pairs : List (List Char × String)} {query : List Char}

/-- What reading a callback is given besides the query: the JSON reader and base64url's decoder. -/
class CallbackRuntime extends Reader where
  decodeBase64Url : String → Option (List UInt8)

export CallbackRuntime (decodeBase64Url)

def callbackUrl : List Char := "velawallet://sign-result".toList

/-- Why a callback is no answer. -/
inductive CallbackError where
  | wrongToken
  | other (error : TrustedSignerError)

/-- The loop of `unpercent`. -/
def unescape : List UInt8 → List UInt8
  | [] => []
  | byte :: rest =>
    if byte = 37 then
      match rest with
      | high :: low :: after =>
        match Hex.fromStrRadix16 [high, low] with
        | some decoded => decoded :: unescape after
        | none => 37 :: unescape (high :: low :: after)
      | short => 37 :: unescape short
    else if byte = 43 then 32 :: unescape rest
    else byte :: unescape rest

def unpercent (text : List Char) : String :=
  fromUtf8Lossy (unescape (text.flatMap String.utf8EncodeChar))

def callbackOf (url : List Char) : Option (List Char) :=
  if callbackUrl.isPrefixOf url then
    match url.drop callbackUrl.length with
    | '?' :: query => some query
    | '/' :: '?' :: query => some query
    | _ => none
  else none

/-- The value of a pair spelled `t=`. -/
def tokenOf? : List Char → Option (List Char)
  | 't' :: '=' :: value => some value
  | _ => none

def callbackToken (url : List Char) : Option String :=
  ((callbackOf url).bind fun query =>
    ((query.splitOn '&').findSome? tokenOf?).map unpercent).filter fun token => token ≠ ""

/-- The key and the decoded value of a pair. -/
def readPair (pair : List Char) : List Char × String :=
  let halves := (Chars.splitOnce ['='] pair).getD (pair, [])
  (halves.1, unpercent halves.2)

def readPairs (query : List Char) : List (List Char × String) :=
  ((query.dropWhile (· == '?')).splitOn '&').map readPair

/-- The members the loop of `parse_callback` keeps. -/
structure Carried where
  gotToken : Option String := none
  result : Option String := none
  error : Option String := none
  deriving DecidableEq

def Carried.take (carried : Carried) (pair : List Char × String) : Carried :=
  if pair.1 = ['t'] then { carried with gotToken := some pair.2 }
  else if pair.1 = "result".toList then { carried with result := some pair.2 }
  else if pair.1 = "error".toList then { carried with error := some pair.2 }
  else carried

def parseCallback [CallbackRuntime] (query : List Char) (token : String) :
    Except CallbackError Value :=
  let carried := (readPairs query).foldl Carried.take {}
  if carried.gotToken ≠ some token then .error .wrongToken
  else
    match carried.error, carried.result with
    | some code, _ => .error (.other (refusal code))
    | none, none => .error (.other (.malformed "no result"))
    | none, some encoded =>
      match decodeBase64Url
          (String.ofList (encoded.toList.reverse.dropWhile (· == '=')).reverse) with
      | none => .error (.other (.malformed "result is not base64url"))
      | some decoded =>
        match (String.fromUTF8? decoded.toByteArray).bind fromStr with
        | none => .error (.other (.malformed "result is not JSON"))
        | some value => .ok value

section Pairs

variable {name pair : List Char} {value token : String} {query : List Char}

/-- The value of the last pair under a key. -/
def lastUnder (name : List Char) (pairs : List (List Char × String)) : Option String :=
  (pairs.reverse.find? (·.1 = name)).map (·.2)

theorem lastUnder_concat (pairs : List (List Char × String)) (pair : List Char × String) :
    lastUnder name (pairs ++ [pair]) = if pair.1 = name then some pair.2 else lastUnder name pairs := by
  by_cases same : pair.1 = name <;> simp [lastUnder, same]

theorem foldl_take (pairs : List (List Char × String)) :
    pairs.foldl Carried.take {} =
      ⟨lastUnder ['t'] pairs, lastUnder "result".toList pairs, lastUnder "error".toList pairs⟩ := by
  induction pairs using List.reverseRecOn with
  | nil => rfl
  | append_singleton _ pair ih =>
    rw [List.foldl_append, List.foldl_cons, List.foldl_nil, ih, lastUnder_concat,
      lastUnder_concat, lastUnder_concat, Carried.take]
    by_cases token : pair.1 = ['t']
    · simp [token]
    · by_cases result : pair.1 = "result".toList
      · simp [result]
      · by_cases error : pair.1 = "error".toList
        · simp [error]
        · rw [if_neg token, if_neg token, if_neg result, if_neg result, if_neg error,
            if_neg error]

theorem lastUnder_eq_some :
    lastUnder name pairs = some value ↔
      ∃ before after, pairs = before ++ (name, value) :: after ∧ ∀ later ∈ after, later.1 ≠ name := by
  induction pairs using List.reverseRecOn with
  | nil => simp [lastUnder]
  | append_singleton pairs pair ih =>
    rw [lastUnder_concat]
    constructor
    · intro found
      split at found
      case isTrue same =>
        cases found
        exact ⟨pairs, [], by rw [← same], fun _ member => nomatch member⟩
      case isFalse other =>
        obtain ⟨before, after, rfl, silent⟩ := ih.mp found
        refine ⟨before, after ++ [pair], by simp, ?_⟩
        intro later member
        rcases List.mem_append.mp member with member | member
        · exact silent later member
        · rw [List.mem_singleton.mp member]
          exact other
    · rintro ⟨before, after, cut, silent⟩
      rcases List.eq_nil_or_concat after with rfl | ⟨after, last, rfl⟩
      · rw [(List.append_inj' cut rfl).1, List.singleton_inj.mp (List.append_inj' cut rfl).2]
        simp
      · rw [List.concat_eq_append, ← List.cons_append, ← List.append_assoc] at cut
        obtain ⟨rfl, same⟩ := List.append_inj' cut rfl
        rw [List.singleton_inj.mp same,
          if_neg (silent last (by simp))]
        exact ih.mpr ⟨before, after, rfl, fun later member => silent later (by simp [member])⟩

theorem lastUnder_none (silent : ∀ pair ∈ pairs, pair.1 ≠ name) : lastUnder name pairs = none := by
  have absent : pairs.reverse.find? (·.1 = name) = none := by
    rw [List.find?_eq_none]
    intro pair member
    simpa using silent pair (List.mem_reverse.mp member)
  rw [lastUnder, absent, Option.map_none]

end Pairs

theorem parseCallback_taken [CallbackRuntime] {token : String} :
    parseCallback query token ≠ .error .wrongToken ↔
      lastUnder ['t'] (readPairs query) = some token := by
  unfold parseCallback
  simp only [foldl_take]
  split
  case isTrue other => simp [other]
  case isFalse own =>
    rw [not_not] at own
    simp only [own, iff_true]
    split
    · simp
    · simp
    · split
      · simp
      · split <;> simp

theorem lastUnder_of_only {name : List Char} {value : String}
    (listed : (name, value) ∈ pairs) (only : ∀ pair ∈ pairs, pair.1 = name → pair.2 = value) :
    lastUnder name pairs = some value := by
  cases found : pairs.reverse.find? (·.1 = name) with
  | none =>
    have unnamed := List.find?_eq_none.mp found _ (List.mem_reverse.mpr listed)
    simp at unnamed
  | some pair =>
    have named : pair.1 = name := by simpa using List.find?_some found
    have member := List.mem_reverse.mp (List.mem_of_find?_eq_some found)
    rw [lastUnder, found, Option.map_some, only pair member named]

theorem splitOn_dropWhile (query : List Char) : (query.dropWhile (· == '?')).splitOn '&' =
      (query.splitOn '&').modifyHead (·.dropWhile (· == '?')) := by
  induction query with
  | nil => rfl
  | cons letter rest ih =>
    rw [List.splitOn_cons_eq_if_modifyHead]
    by_cases question : letter = '?'
    · rw [List.dropWhile_cons_of_pos (by simpa using question), ih, question, if_neg (by decide),
        List.modifyHead_modifyHead]
      rfl
    · have kept : ∀ tail, (letter :: tail).dropWhile (· == '?') = letter :: tail :=
        fun _ => List.dropWhile_cons_of_neg (by simpa using question)
      rw [kept, List.splitOn_cons_eq_if_modifyHead]
      split
      · rfl
      · rw [List.modifyHead_modifyHead]
        apply congrArg (List.modifyHead · (rest.splitOn '&'))
        funext piece
        exact (kept piece).symm

theorem readPairs_eq (query : List Char) :
    readPairs query =
      ((query.splitOn '&').modifyHead (·.dropWhile (· == '?'))).map readPair := by
  rw [readPairs, splitOn_dropWhile]

theorem mem_readPairs {piece : List Char} (member : piece ∈ query.splitOn '&')
    (plain : piece.dropWhile (· == '?') = piece) : readPair piece ∈ readPairs query := by
  rw [readPairs_eq]
  apply List.mem_map_of_mem
  cases cut : query.splitOn '&' with
  | nil => rw [cut] at member; cases member
  | cons =>
    rw [cut] at member
    rw [List.modifyHead_cons]
    rcases List.mem_cons.mp member with rfl | member
    · rw [plain]
      exact List.mem_cons_self
    · exact List.mem_cons_of_mem _ member

theorem readPair_token (value : List Char) :
    readPair ('t' :: '=' :: value) = (['t'], unpercent value) := by
  simp [readPair, Chars.splitOnce, List.isPrefixOf]

theorem readPair_result (value : List Char) :
    readPair ("result=".toList ++ value) = ("result".toList, unpercent value) := by
  simp [readPair, Chars.splitOnce, List.isPrefixOf]

theorem exists_lastUnder {url : List Char} {token : String}
    (named : callbackOf url = some query) (called : callbackToken url = some token) :
    ∃ last, lastUnder ['t'] (readPairs query) = some last := by
  simp only [callbackToken, named, Option.bind_some, Option.filter_eq_some_iff,
    Option.map_eq_some_iff] at called
  obtain ⟨⟨value, found, _⟩, _⟩ := called
  obtain ⟨before, piece, after, cut, read, _⟩ := List.findSome?_eq_some_iff.mp found
  have spelled : piece = 't' :: '=' :: value := by
    unfold tokenOf? at read
    split at read
    · cases read
      rfl
    · cases read
  have member : piece ∈ query.splitOn '&' := by
    rw [cut]
    exact List.mem_append_right _ List.mem_cons_self
  have listed : readPair piece ∈ readPairs query := by
    apply mem_readPairs member
    rw [spelled]
    rfl
  rw [spelled, readPair_token] at listed
  by_contra silent
  push Not at silent
  cases last : lastUnder ['t'] (readPairs query) with
  | some value => exact silent value last
  | none =>
    rw [lastUnder, Option.map_eq_none_iff, List.find?_eq_none] at last
    have unnamed := last _ (List.mem_reverse.mpr listed)
    simp at unnamed

theorem unescape_plain {byte : UInt8} (unmarked : byte ≠ 37 ∧ byte ≠ 43) (rest : List UInt8) :
    unescape (byte :: rest) = byte :: unescape rest := by
  rw [unescape.eq_def]
  simp only [unmarked.1, unmarked.2, if_false]

theorem unescape_escape {high low byte : UInt8} (read : Hex.fromStrRadix16 [high, low] = some byte)
    (rest : List UInt8) : unescape (37 :: high :: low :: rest) = byte :: unescape rest := by
  rw [unescape.eq_def]
  simp only [if_true, read]

theorem utf8_upperHex {digit : Nat} (small : digit < 16) :
    ∃ byte, String.utf8EncodeChar (Uri.upperHex digit) = [byte] ∧
      Hex.digitValue? byte = some digit ∧ byte ≠ Hex.plus := by
  refine ⟨UInt8.ofNat (Uri.upperHex digit).toNat, ?_⟩
  revert digit
  decide

theorem unescape_written (byte : UInt8) (rest : List UInt8) :
    unescape ((Uri.escape byte).flatMap String.utf8EncodeChar ++ rest) =
      byte :: unescape rest := by
  have bound := byte.toNat_lt
  obtain ⟨high, highEncoded, highRead, unsigned⟩ :=
    @utf8_upperHex (byte.toNat / 16) (by omega)
  obtain ⟨low, lowEncoded, lowRead, _⟩ := @utf8_upperHex (byte.toNat % 16) (by omega)
  have mark : String.utf8EncodeChar '%' = [37] := by decide
  simp only [Uri.escape, List.flatMap_cons, List.flatMap_nil, highEncoded, lowEncoded, mark,
    List.cons_append, List.nil_append]
  exact unescape_escape ((Hex.fromStrRadix16_digits unsigned).mpr ⟨highRead, lowRead⟩) rest

/-- The characters that `percent` and base64url leave as they are. -/
def isPlain (letter : Char) : Bool := letter.isAlphanum || "-_.~".toList.contains letter

theorem isPlain_code {letter : Char} (plain : isPlain letter = true) :
    letter.toNat < 128 ∧ letter.toNat ≠ 37 ∧ letter.toNat ≠ 43 ∧ letter ≠ '&' ∧ letter ≠ '=' := by
  have code : letter.toNat < 128 := by
    delta isPlain Char.isAlphanum Char.isAlpha Char.isUpper Char.isLower Char.isDigit at plain
    simp only [Bool.or_eq_true, Bool.and_eq_true, decide_eq_true_eq, List.contains_iff_mem] at plain
    rcases plain with ((upper | lower) | digit) | mark
    · have := UInt32.le_iff_toNat_le.mp upper.2
      exact Nat.lt_of_le_of_lt this (by decide)
    · have := UInt32.le_iff_toNat_le.mp lower.2
      exact Nat.lt_of_le_of_lt this (by decide)
    · have := UInt32.le_iff_toNat_le.mp digit.2
      exact Nat.lt_of_le_of_lt this (by decide)
    · exact of_decide_eq_true
        (List.all_eq_true (p := fun letter => decide (letter.toNat < 128)).mp rfl letter mark)
  have marks : ∀ code < 128, isPlain (Char.ofNat code) = true →
      code ≠ 37 ∧ code ≠ 43 ∧ Char.ofNat code ≠ '&' ∧ Char.ofNat code ≠ '=' := by decide
  have read := marks letter.toNat code
  rw [Char.ofNat_toNat] at read
  exact ⟨code, read plain⟩

theorem unescape_isPlain {text : List Char} (plain : ∀ letter ∈ text, isPlain letter = true)
    (rest : List UInt8) :
    unescape (text.flatMap String.utf8EncodeChar ++ rest) =
      text.flatMap String.utf8EncodeChar ++ unescape rest := by
  induction text with
  | nil => rfl
  | cons letter _ ih =>
    obtain ⟨small, percent, plus, _⟩ := isPlain_code (plain letter List.mem_cons_self)
    have byteOf : ∀ code < 128, letter.toNat ≠ code →
        UInt8.ofNat letter.toNat ≠ UInt8.ofNat code := by
      intro code low other same
      have codes := congrArg UInt8.toNat same
      simp only [UInt8.toNat_ofNat'] at codes
      omega
    have unmarked := And.intro (byteOf 37 (by decide) percent) (byteOf 43 (by decide) plus)
    rw [List.flatMap_cons, Utf8.utf8EncodeChar_of_lt small, List.cons_append, List.nil_append,
      List.cons_append, unescape_plain unmarked,
      ih fun other member => plain other (List.mem_cons_of_mem _ member)]
    rfl

theorem unpercent_isPlain {text : List Char} (plain : ∀ letter ∈ text, isPlain letter = true) :
    unpercent text = String.ofList text := by
  have kept := unescape_isPlain plain []
  rw [List.append_nil] at kept
  rw [unpercent, kept, ← Utf8.bytes_ofList, unescape, List.append_nil, Utf8.fromUtf8Lossy_bytes]

theorem unpercent_percent (text : String) : unpercent (percent text).toList = text := by
  have read : ∀ written : List UInt8, unescape ((written.flatMap fun byte =>
      if byte < 128 ∧ ((Char.ofNat byte.toNat).isAlphanum ∨
        "-_.~".toList.contains (Char.ofNat byte.toNat)) then [Char.ofNat byte.toNat]
      else Uri.escape byte).flatMap String.utf8EncodeChar) = written := by
    intro written
    induction written with
    | nil => rfl
    | cons byte _ ih =>
      rw [List.flatMap_cons, List.flatMap_append]
      split
      case isTrue kept =>
        have small : byte.toNat < 128 := UInt8.lt_iff_toNat_lt.mp kept.1
        have plain : ∀ letter ∈ [Char.ofNat byte.toNat], isPlain letter = true := by
          intro letter member
          rw [List.mem_singleton.mp member, isPlain, Bool.or_eq_true]
          exact kept.2
        rw [unescape_isPlain plain, ih, List.flatMap_singleton, Utf8.utf8EncodeChar_of_lt
          (by rw [Utf8.toNat_ofNat_of_lt small]; exact small), Utf8.toNat_ofNat_of_lt small,
          UInt8.ofNat_toNat]
        rfl
      case isFalse => rw [unescape_written, ih]
  rw [unpercent, percent, String.toList_ofList, read, Utf8.fromUtf8Lossy_bytes]

/-- A query of a token, an answer's base64url and parameters of other names, in any order. -/
structure Built (token : String) (encoded query : List Char) where
  pieces : List (List Char)
  extras : List (List Char)
  joined : query = ['&'].intercalate pieces
  order : pieces.Perm (('t' :: '=' :: (percent token).toList) :: ("result=".toList ++ encoded) ::
    extras)
  apart : ∀ extra ∈ extras, '&' ∉ extra
  foreign : ∀ extra ∈ extras, (readPair extra).1 ∉ ["t", "result", "error"].map String.toList
  opening : ∀ extra ∈ extras, pieces.head? = some extra →
    (readPair (extra.dropWhile (· == '?'))).1 ∉ ["t", "result", "error"].map String.toList

theorem ampersand_percent (token : String) : ∀ letter ∈ (percent token).toList, letter ≠ '&' := by
  intro letter member
  rw [percent, String.toList_ofList] at member
  obtain ⟨byte, _, written⟩ := List.mem_flatMap.mp member
  dsimp only at written
  split at written
  case isTrue kept =>
    rw [List.mem_singleton.mp written]
    refine (isPlain_code ?_).2.2.2.1
    rw [isPlain, Bool.or_eq_true]
    exact kept.2
  case isFalse =>
    have bound := byte.toNat_lt
    simp only [Uri.escape, List.mem_cons, List.not_mem_nil, or_false] at written
    rcases written with rfl | rfl | rfl
    · decide
    · exact (Uri.upperHex_spec (by omega)).2
    · exact (Uri.upperHex_spec (by omega)).2

section Answer

variable {token : String} {encoded query : List Char}

section

variable (built : Built token encoded query) (plain : ∀ letter ∈ encoded, isPlain letter = true)
include built plain

theorem Built.splitOn
    : query.splitOn '&' = built.pieces := by
  refine (congrArg (List.splitOn '&') built.joined).trans (List.splitOn_intercalate '&' ?_ ?_)
  · intro piece member within
    rcases List.mem_cons.mp (built.order.mem_iff.mp member) with rfl | member
    · simp only [List.mem_cons] at within
      rcases within with mark | mark | within
      · cases mark
      · cases mark
      · exact ampersand_percent token _ within rfl
    · rcases List.mem_cons.mp member with rfl | member
      · rcases List.mem_append.mp within with within | within
        · revert within
          decide
        · exact (isPlain_code (plain _ within)).2.2.2.1 rfl
      · exact built.apart piece member within
  · rintro empty
    have length := built.order.length_eq
    rw [empty] at length
    cases length

/-- The pairs of a built query: its token, its answer, and pairs that no reader looks for. -/
theorem Built.readPairs
    :
    (['t'], token) ∈ readPairs query ∧ ("result".toList, String.ofList encoded) ∈ readPairs query ∧
      ∀ pair ∈ readPairs query, pair = (['t'], token) ∨
        pair = ("result".toList, String.ofList encoded) ∨
        pair.1 ∉ ["t", "result", "error"].map String.toList := by
  have cut := built.splitOn plain
  have tokenPair : readPair ('t' :: '=' :: (percent token).toList) = (['t'], token) := by
    rw [readPair_token, unpercent_percent]
  have resultPair : readPair ("result=".toList ++ encoded) =
      ("result".toList, String.ofList encoded) := by
    rw [readPair_result, unpercent_isPlain plain]
  refine ⟨?_, ?_, ?_⟩
  · rw [← tokenPair]
    exact mem_readPairs (by rw [cut, built.order.mem_iff]; exact List.mem_cons_self) rfl
  · rw [← resultPair]
    refine mem_readPairs ?_ rfl
    rw [cut, built.order.mem_iff]
    exact List.mem_cons_of_mem _ List.mem_cons_self
  · intro pair member
    rw [readPairs_eq, cut] at member
    obtain ⟨piece, inPieces, rfl⟩ := List.mem_map.mp member
    have origin : ∃ whole ∈ built.pieces, piece = whole ∨
        built.pieces.head? = some whole ∧ piece = whole.dropWhile (· == '?') := by
      revert inPieces
      generalize built.pieces = pieces
      intro inPieces
      cases pieces with
      | nil => cases inPieces
      | cons first =>
        rw [List.modifyHead_cons] at inPieces
        rcases List.mem_cons.mp inPieces with rfl | later
        · exact ⟨first, List.mem_cons_self, .inr ⟨rfl, rfl⟩⟩
        · exact ⟨piece, List.mem_cons_of_mem _ later, .inl rfl⟩
    obtain ⟨whole, member, origin⟩ := origin
    rcases List.mem_cons.mp (built.order.mem_iff.mp member) with rfl | extra
    · have same : piece = 't' :: '=' :: (percent token).toList := by
        rcases origin with same | ⟨_, same⟩ <;> exact same
      exact .inl (by rw [same, tokenPair])
    · rcases List.mem_cons.mp extra with rfl | extra
      · have same : piece = "result=".toList ++ encoded := by
          rcases origin with same | ⟨_, same⟩ <;> exact same
        exact .inr (.inl (by rw [same, resultPair]))
      · rcases origin with rfl | ⟨first, rfl⟩
        · exact .inr (.inr (built.foreign piece extra))
        · exact .inr (.inr (built.opening whole extra first))

theorem Built.lastUnder
    :
    lastUnder ['t'] (TrustedSigner.readPairs query) = some token ∧
      lastUnder "result".toList (TrustedSigner.readPairs query) = some (String.ofList encoded) ∧
      lastUnder "error".toList (TrustedSigner.readPairs query) = none := by
  obtain ⟨tokenListed, resultListed, only⟩ := built.readPairs plain
  refine ⟨lastUnder_of_only tokenListed ?_, lastUnder_of_only resultListed ?_, lastUnder_none ?_⟩
  · intro pair member named
    rcases only pair member with rfl | rfl | foreign
    · rfl
    · exact absurd named (by simp)
    · exact absurd (by rw [named]; decide) foreign
  · intro pair member named
    rcases only pair member with rfl | rfl | foreign
    · exact absurd named (by simp)
    · rfl
    · exact absurd (by rw [named]; decide) foreign
  · intro pair member named
    rcases only pair member with rfl | rfl | foreign
    · exact absurd named (by simp)
    · exact absurd named (by simp)
    · exact absurd (by rw [named]; decide) foreign

end

theorem Built.answers [CallbackRuntime] (built : Built token encoded query)
    (plain : ∀ letter ∈ encoded, isPlain letter = true) {json : String} {answer : Value}
    (decodes : decodeBase64Url (String.ofList encoded) = some (bytes json))
    (reads : fromStr json = some answer) :
    parseCallback query token = .ok answer ∧
      ∀ other, other ≠ token → parseCallback query other = .error .wrongToken := by
  obtain ⟨ownToken, result, error⟩ := built.lastUnder plain
  constructor
  · have unpadded : (encoded.reverse.dropWhile (· == '=')).reverse = encoded := by
      rw [List.dropWhile_eq_self_iff.mpr, List.reverse_reverse]
      intro nonempty padding
      have member : encoded.reverse[0] ∈ encoded := List.mem_reverse.mp (List.getElem_mem nonempty)
      exact (isPlain_code (plain _ member)).2.2.2.2 (by simpa using padding)
    have text : String.fromUTF8? (bytes json).toByteArray = some json := by
      have same : (bytes json).toByteArray = json.toByteArray := by
        rw [bytes, ← String.utf8Encode_toList]
        rfl
      rw [same, String.fromUTF8?, dif_pos json.isValidUTF8]
      rfl
    rw [parseCallback]
    simp only [foldl_take, ownToken, result, error, ne_eq, not_true_eq_false, if_false,
      String.toList_ofList, unpadded, decodes, text, Option.bind_some, reads]
  · intro other foreign
    by_contra taken
    have own := parseCallback_taken.mp taken
    rw [ownToken] at own
    exact foreign (Option.some.inj own).symm

end Answer

/-- The last pair under the key `t`, behind leading question marks, carries a token. -/
def LastCarries (query : List Char) (token : String) : Prop :=
  ∃ before after, readPairs query = before ++ (['t'], token) :: after ∧
    ∀ later ∈ after, later.1 ≠ ['t']

/-- The request a callback is routed to is the only one that can take it exactly if the last `t`
of its query carries the token of the first; an answer survives the trip. -/
theorem callback_taken_iff [CallbackRuntime] :
    (∀ url query token, callbackOf url = some query → callbackToken url = some token →
      ((∀ other, parseCallback query other ≠ .error .wrongToken → other = token) ↔
        LastCarries query token)) ∧
    ∀ token json encoded query answer, Built token encoded query →
      (∀ letter ∈ encoded, (letter.isAlphanum || letter == '-' || letter == '_') = true) →
      decodeBase64Url (String.ofList encoded) = some (bytes json) → fromStr json = some answer →
      parseCallback query token = .ok answer ∧
        ∀ other, other ≠ token → parseCallback query other = .error .wrongToken := by
  constructor
  · intro url query token named called
    obtain ⟨last, carried⟩ := exists_lastUnder named called
    rw [LastCarries, ← lastUnder_eq_some, carried, Option.some.injEq]
    constructor
    · intro alone
      exact alone last (parseCallback_taken.mpr carried)
    · rintro rfl other taken
      exact Option.some.inj ((parseCallback_taken.mp taken).symm.trans carried)
  · rintro token json encoded query answer built alphabet decodes reads
    have plain : ∀ letter ∈ encoded, isPlain letter = true := by
      intro letter member
      have listed := alphabet letter member
      simp only [Bool.or_eq_true, beq_iff_eq] at listed
      rcases listed with (letters | rfl) | rfl
      · rw [isPlain, letters, Bool.true_or]
      · decide
      · decide
    exact built.answers plain decodes reads

/-- The decoder and the reader of a run whose one answer is `{}`. -/
@[reducible] def emptyAnswer : CallbackRuntime where
  decodeBase64Url text := if text = "e30" then some [123, 125] else none
  fromStr json := if json = "{}" then some (.object []) else none

/-- A callback with one token is the token's alone, and its answer is read. -/
theorem callback_taken_once :
    (∀ other, @parseCallback emptyAnswer "t=A&result=e30".toList other ≠ .error .wrongToken →
      other = "A") ∧
    @parseCallback emptyAnswer "result=e30&lang=en&t=A".toList "A" = .ok (.object []) := by
  have taken := @callback_taken_iff emptyAnswer
  have carries : LastCarries "t=A&result=e30".toList "A" :=
    lastUnder_eq_some.mp (by decide +kernel)
  have built : Built "A" "e30".toList "result=e30&lang=en&t=A".toList :=
    ⟨["result=e30".toList, "lang=en".toList, "t=A".toList], ["lang=en".toList],
      by decide +kernel, by decide +kernel, by decide +kernel, by decide +kernel,
      by decide +kernel⟩
  exact ⟨(taken.1 "velawallet://sign-result?t=A&result=e30".toList _ "A" (by decide +kernel)
    (by decide +kernel)).mpr carries, (taken.2 "A" "{}" "e30".toList _ (.object []) built
    (List.all_eq_true.mp rfl) rfl rfl).1⟩

/-- A second `t` takes the callback over: it is routed to `A` and accepted by `B`. -/
theorem second_token_taken :
    callbackOf "velawallet://sign-result?t=A&t=B&result=e30".toList =
        some "t=A&t=B&result=e30".toList ∧
      callbackToken "velawallet://sign-result?t=A&t=B&result=e30".toList = some "A" ∧
      @parseCallback emptyAnswer "t=A&t=B&result=e30".toList "B" = .ok (.object []) := by
  refine ⟨by decide +kernel, by decide +kernel, ?_⟩
  have read : (readPairs "t=A&t=B&result=e30".toList).foldl Carried.take {} =
      ⟨some "B", some "e30", none⟩ := by
    rw [foldl_take]
    decide +kernel
  have text : String.fromUTF8? [123, 125].toByteArray = some "{}" := by decide +kernel
  have decoded : @decodeBase64Url emptyAnswer
      (String.ofList ("e30".toList.reverse.dropWhile (· == '=')).reverse) = some [123, 125] := by
    decide +kernel
  unfold parseCallback
  simp only [read, ne_eq, not_true_eq_false, if_false, decoded, text, Option.bind_some]
  rfl

end VelaWallet.TrustedSigner
