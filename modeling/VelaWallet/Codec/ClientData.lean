import VelaWallet.Base.Lossy

/-!
# The client data of an assertion

What a passkey signs names its challenge in a JSON text.  `validate_client_data` (`webauthn.rs`)
accepts the text by its bytes; `extract_client_data_fields` (`user_op.rs`) cuts out of it what the
verifier on the chain puts behind the challenge again.
-/

namespace VelaWallet

open Utf8 (bytes fromUtf8Lossy)

inductive ClientDataKind where
  | create
  | get
  deriving DecidableEq

def getPrefix : List UInt8 := bytes "\x7b\"type\":\"webauthn.get\",\"challenge\":\""

def createPrefix : List UInt8 := bytes "\x7b\"type\":\"webauthn.create\",\"challenge\":\""

/-- The flags of authenticator data, and the flag that the person was verified. -/
def authenticatorFlags (authenticatorData : List UInt8) : UInt8 := authenticatorData.getD 32 0

def userVerified : UInt8 := 0x04

/-- `validate_client_data`; a refusal is the message of its `InvalidClientData`. -/
def validateClientData (kind : ClientDataKind) (clientDataJson authenticatorData : List UInt8) :
    Except String Unit :=
  let opening := match kind with
    | .get => getPrefix
    | .create => createPrefix
  if !opening.isPrefixOf clientDataJson then
    .error "clientDataJSON field order incompatible (prefix mismatch)"
  else if clientDataJson.getLast? ≠ some 125 then
    .error "clientDataJSON does not end with \x7d"
  else if kind = .get then
    if authenticatorData.length < 33 then .error "authenticatorData too short"
    else
      let flags := authenticatorFlags authenticatorData
      if flags &&& userVerified ≠ userVerified then
        .error ("User Verification flag not set (flags=0x" ++
          String.ofList (Nat.toDigits 16 flags.toNat) ++ ")")
      else .ok ()
  else .ok ()

/-- The key whose value is the challenge. -/
def challengeKey : List UInt8 := bytes "\"challenge\":\""

def extractClientDataFields (clientDataJson : List UInt8) : String :=
  let json := fromUtf8Lossy clientDataJson
  match Utf8.find? challengeKey (bytes json) with
  | none => ""
  | some keyIndex =>
    let valueStart := keyIndex + challengeKey.length
    match ((bytes json).drop valueStart).findIdx? (· == 34) with
    | none => ""
    | some closing =>
      let skipIndex := valueStart + closing + 2
      let endIndex := (bytes json).length - 1
      if endIndex ≤ skipIndex then "" else (Utf8.get? json skipIndex endIndex).getD ""

/-- What the verifier hashes: the prefix, the challenge, the fields behind it and the last brace. -/
def verifierJson (challenge fields : List UInt8) : List UInt8 :=
  getPrefix ++ challenge ++ [34, 44] ++ fields ++ [125]

def IsBase64Url (byte : UInt8) : Prop :=
  (65 ≤ byte.toNat ∧ byte.toNat ≤ 90) ∨ (97 ≤ byte.toNat ∧ byte.toNat ≤ 122) ∨
    (48 ≤ byte.toNat ∧ byte.toNat ≤ 57) ∨ byte = 45 ∨ byte = 95

instance (byte : UInt8) : Decidable (IsBase64Url byte) :=
  inferInstanceAs (Decidable (_ ∨ _))

/-- The challenge that client data names: what stands between its prefix and the next quote. -/
def challengeOf (clientDataJson : List UInt8) : List UInt8 :=
  (clientDataJson.drop getPrefix.length).takeWhile (· != 34)

/-- What stands behind the challenge's closing quote. -/
def behindChallenge (clientDataJson : List UInt8) : List UInt8 :=
  ((clientDataJson.drop getPrefix.length).dropWhile (· != 34)).drop 1

/-- The verifier rebuilds the client data out of its challenge and the extracted fields. -/
def Rebuilt (clientDataJson : List UInt8) : Prop :=
  (∀ byte ∈ challengeOf clientDataJson, IsBase64Url byte) ∧
    verifierJson (challengeOf clientDataJson) (bytes (extractClientDataFields clientDataJson)) =
      clientDataJson

/-- The client data is UTF-8, its challenge is base64url, and a comma follows it. -/
structure WellFormed (clientDataJson : List UInt8) : Prop where
  text : ∃ text, clientDataJson = bytes text
  challenge : ∀ byte ∈ challengeOf clientDataJson, IsBase64Url byte
  comma : (behindChallenge clientDataJson).head? = some 44

theorem getPrefix_eq : getPrefix = [123, 34, 116, 121, 112, 101, 34, 58, 34, 119, 101, 98, 97, 117,
    116, 104, 110, 46, 103, 101, 116, 34, 44, 34, 99, 104, 97, 108, 108, 101, 110, 103, 101, 34, 58,
    34] := by
  decide

theorem challengeKey_eq : challengeKey =
    [34, 99, 104, 97, 108, 108, 101, 110, 103, 101, 34, 58, 34] := by
  decide

theorem find_challengeKey (rest : List UInt8) :
    Utf8.find? challengeKey (getPrefix ++ rest) = some 23 := by
  rw [getPrefix_eq, challengeKey_eq]
  rfl

theorem IsBase64Url.not_quote {byte : UInt8} (plain : IsBase64Url byte) : (byte != 34) = true := by
  rw [bne_iff_ne]
  rintro rfl
  revert plain
  decide

theorem IsBase64Url.ascii {byte : UInt8} (plain : IsBase64Url byte) : byte.toNat < 128 := by
  rcases plain with upper | lower | digit | rfl | rfl
  · omega
  · omega
  · omega
  · decide
  · decide

section Cuts

variable {challenge rest : List UInt8}

section

variable (plain : ∀ byte ∈ challenge, IsBase64Url byte)
include plain

theorem takeWhile_challenge :
    (challenge ++ 34 :: rest).takeWhile (· != 34) = challenge := by
  rw [List.takeWhile_append_of_pos fun byte member => (plain byte member).not_quote]
  simp

theorem dropWhile_challenge :
    (challenge ++ 34 :: rest).dropWhile (· != 34) = 34 :: rest := by
  rw [List.dropWhile_append_of_pos fun byte member => (plain byte member).not_quote]
  simp

theorem findIdx?_challenge :
    (challenge ++ 34 :: rest).findIdx? (· == 34) = some challenge.length := by
  induction challenge with
  | nil => rfl
  | cons byte _ ih =>
    have other : (byte == 34) = false := by
      have different := (plain byte List.mem_cons_self).not_quote
      rw [bne_iff_ne] at different
      exact beq_false_of_ne different
    rw [List.cons_append, List.findIdx?_cons, other,
      ih fun other member => plain other (List.mem_cons_of_mem _ member)]
    rfl

end

theorem challengeOf_append (plain : ∀ byte ∈ challenge, IsBase64Url byte) :
    challengeOf (getPrefix ++ (challenge ++ 34 :: rest)) = challenge := by
  rw [challengeOf, List.drop_left, takeWhile_challenge plain]

section

variable (plain : ∀ byte ∈ challenge, IsBase64Url byte)
include plain

theorem behindChallenge_append :
    behindChallenge (getPrefix ++ (challenge ++ 34 :: rest)) = rest := by
  rw [behindChallenge, List.drop_left, dropWhile_challenge plain]
  rfl

theorem ascii_front :
    Utf8.IsAscii (getPrefix ++ challenge ++ [34, 44]) := by
  have opening : ∀ byte ∈ getPrefix, byte.toNat < 128 := by
    rw [getPrefix_eq]
    simp
  have closing : ∀ byte ∈ [(34 : UInt8), 44], byte.toNat < 128 := by simp
  intro byte member
  rcases List.mem_append.mp member with front | last
  · rcases List.mem_append.mp front with first | middle
    · exact opening byte first
    · exact (plain byte middle).ascii
  · exact closing byte last

theorem extractClientDataFields_eq (fields : String) :
    extractClientDataFields (verifierJson challenge (bytes fields)) = fields := by
  have front := Utf8.bytes_ofAscii (ascii_front plain)
  have brace : bytes "\x7d" = [125] := by decide
  have text : bytes (Utf8.ofAscii (getPrefix ++ challenge ++ [34, 44]) ++ fields ++ "\x7d") =
      verifierJson challenge (bytes fields) := by
    rw [Utf8.bytes_append, Utf8.bytes_append, front, brace, verifierJson]
  have layout : verifierJson challenge (bytes fields) =
      getPrefix ++ (challenge ++ 34 :: (44 :: bytes fields ++ [125])) := by
    simp [verifierJson]
  have opening : 23 + challengeKey.length = getPrefix.length := by
    rw [getPrefix_eq, challengeKey_eq]
    rfl
  have width : (bytes (Utf8.ofAscii (getPrefix ++ challenge ++ [34, 44]))).length =
      getPrefix.length + challenge.length + 2 := by
    rw [front]
    simp only [List.length_append, List.length_cons, List.length_nil]
  have total : (verifierJson challenge (bytes fields)).length - 1 =
      getPrefix.length + challenge.length + 2 + (bytes fields).length := by
    simp [verifierJson]
    omega
  have part := Utf8.get?_append (Utf8.ofAscii (getPrefix ++ challenge ++ [34, 44])) fields "\x7d"
  rw [width] at part
  unfold extractClientDataFields
  rw [← text, Utf8.fromUtf8Lossy_bytes]
  dsimp only
  rw [text, total, layout, find_challengeKey]
  dsimp only
  rw [opening, List.drop_left, findIdx?_challenge plain]
  dsimp only
  rw [part]
  split
  case isTrue empty =>
    have none : bytes fields = [] := List.length_eq_zero_iff.mp (by omega)
    rw [← Utf8.fromUtf8Lossy_bytes fields, none]
    rfl
  case isFalse => rfl

end

end Cuts

theorem accepted_layout {clientDataJson authenticatorData : List UInt8}
    (accepted : validateClientData .get clientDataJson authenticatorData = .ok ()) :
    (∃ rest, clientDataJson = getPrefix ++ rest) ∧ clientDataJson.getLast? = some 125 := by
  unfold validateClientData at accepted
  dsimp only at accepted
  split at accepted
  case isTrue => cases accepted
  case isFalse opens =>
    split at accepted
    case isTrue => cases accepted
    case isFalse closes =>
      rw [Bool.not_eq_true, Bool.not_eq_false'] at opens
      obtain ⟨rest, layout⟩ := List.isPrefixOf_iff_prefix.mp opens
      exact ⟨⟨rest, layout.symm⟩, not_not.mp closes⟩

theorem verifierJson_layout (challenge fields : List UInt8) :
    verifierJson challenge fields = getPrefix ++ (challenge ++ 34 :: (44 :: (fields ++ [125]))) := by
  simp [verifierJson]

theorem rebuilt_of_fields {challenge : List UInt8} (plain : ∀ byte ∈ challenge, IsBase64Url byte)
    (fields : String) : Rebuilt (verifierJson challenge (bytes fields)) := by
  have named : challengeOf (verifierJson challenge (bytes fields)) = challenge := by
    rw [verifierJson_layout, challengeOf_append plain]
  rw [Rebuilt, named, extractClientDataFields_eq plain]
  exact ⟨plain, rfl⟩

theorem wellFormed_of_fields {challenge : List UInt8}
    (plain : ∀ byte ∈ challenge, IsBase64Url byte) (fields : String) :
    WellFormed (verifierJson challenge (bytes fields)) where
  text := by
    refine ⟨Utf8.ofAscii (getPrefix ++ challenge ++ [34, 44]) ++ fields ++ "\x7d", ?_⟩
    have brace : bytes "\x7d" = [125] := by decide
    rw [Utf8.bytes_append, Utf8.bytes_append, Utf8.bytes_ofAscii (ascii_front plain), brace,
      verifierJson]
  challenge := by
    rw [verifierJson_layout, challengeOf_append plain]
    exact plain
  comma := by
    rw [verifierJson_layout, behindChallenge_append plain]
    rfl

/-- Accepted client data with a comma behind its challenge is cut at the comma and the last
brace. -/
theorem layout_of_comma {clientDataJson rest : List UInt8}
    (opens : clientDataJson = getPrefix ++ rest) (closes : clientDataJson.getLast? = some 125)
    (comma : (behindChallenge clientDataJson).head? = some 44) :
    ∃ fields, clientDataJson = verifierJson (challengeOf clientDataJson) fields := by
  subst opens
  rw [behindChallenge, List.drop_left] at comma
  rw [challengeOf, List.drop_left]
  have parts : rest.takeWhile (· != 34) ++ rest.dropWhile (· != 34) = rest :=
    List.takeWhile_append_dropWhile
  have quoted := List.head?_dropWhile_not (fun byte : UInt8 => byte != 34) rest
  generalize rest.takeWhile (· != 34) = challenge at parts ⊢
  generalize rest.dropWhile (· != 34) = behind at parts quoted comma
  match behind with
  | [] => simp at comma
  | [_] => simp at comma
  | quote :: second :: fields =>
    obtain rfl : second = 44 := by simpa using comma
    obtain rfl : quote = 34 := by simpa using quoted
    subst parts
    rcases List.eq_nil_or_concat fields with rfl | ⟨before, last, rfl⟩
    · simp at closes
    · have shape : getPrefix ++ (challenge ++ 34 :: 44 :: before.concat last) =
          (getPrefix ++ challenge ++ [34, 44] ++ before) ++ [last] := by simp
      rw [shape, List.getLast?_concat] at closes
      obtain rfl := Option.some.inj closes
      exact ⟨before, by simp [verifierJson]⟩

/-- The verifier rebuilds accepted client data exactly if it is UTF-8, its challenge is base64url,
and a comma follows the challenge. -/
theorem rebuilt_iff {clientDataJson authenticatorData : List UInt8}
    (accepted : validateClientData .get clientDataJson authenticatorData = .ok ()) :
    Rebuilt clientDataJson ↔ WellFormed clientDataJson := by
  obtain ⟨⟨rest, opens⟩, closes⟩ := accepted_layout accepted
  constructor
  · intro ⟨plain, same⟩
    generalize challengeOf clientDataJson = challenge at plain same
    generalize extractClientDataFields clientDataJson = fields at same
    subst same
    exact wellFormed_of_fields plain fields
  · intro ⟨⟨text, encoded⟩, plain, comma⟩
    obtain ⟨fields, layout⟩ := layout_of_comma opens closes comma
    generalize challengeOf clientDataJson = challenge at plain layout
    subst layout
    have behind : ∃ after, fields ++ [125] = bytes after := by
      apply Utf8.text_behind (ascii_front plain)
      rw [← encoded, verifierJson, List.append_assoc _ fields]
    obtain ⟨after, written⟩ := behind
    obtain ⟨before, rfl⟩ := Utf8.text_before (by decide) written.symm
    exact rebuilt_of_fields plain before

/-- Authenticator data of a person who was verified. -/
def sampleAuthenticatorData : List UInt8 := List.replicate 32 0 ++ [userVerified] ++ [0, 0, 0, 0]

theorem accepted_of_layout (middle : List UInt8) :
    validateClientData .get (getPrefix ++ (middle ++ [125])) sampleAuthenticatorData = .ok () := by
  have opens : getPrefix.isPrefixOf (getPrefix ++ (middle ++ [125])) = true :=
    List.isPrefixOf_iff_prefix.mpr (List.prefix_append _ _)
  have last : (getPrefix ++ (middle ++ [125])).getLast? = some 125 := by
    rw [← List.append_assoc, List.getLast?_concat]
  have verified : authenticatorFlags sampleAuthenticatorData &&& userVerified = userVerified := rfl
  have long : ¬ sampleAuthenticatorData.length < 33 := by decide
  simp only [validateClientData, opens, last, long, verified]
  rfl

/-- The client data of an assertion with an origin is rebuilt. -/
theorem origin_rebuilt : Rebuilt (verifierJson [65, 65, 65, 65] (bytes "\"origin\":\"a\"")) := by
  have plain : ∀ byte ∈ [(65 : UInt8), 65, 65, 65], IsBase64Url byte := by simp [IsBase64Url]
  have accepted := accepted_of_layout ([65, 65, 65, 65] ++ 34 :: 44 :: bytes "\"origin\":\"a\"")
  have layout : getPrefix ++ ([65, 65, 65, 65] ++ 34 :: 44 :: bytes "\"origin\":\"a\"" ++ [125]) =
      verifierJson [65, 65, 65, 65] (bytes "\"origin\":\"a\"") := by
    simp [verifierJson]
  rw [layout] at accepted
  exact (rebuilt_iff accepted).mpr (wellFormed_of_fields plain _)

/-- Client data that ends with its challenge is accepted, and is not rebuilt. -/
theorem bare_not_rebuilt :
    validateClientData .get (getPrefix ++ [65, 65, 65, 65, 34, 125]) sampleAuthenticatorData =
        .ok () ∧
      ¬ Rebuilt (getPrefix ++ [65, 65, 65, 65, 34, 125]) := by
  refine ⟨accepted_of_layout [65, 65, 65, 65, 34], ?_⟩
  intro ⟨_, same⟩
  have plain : ∀ byte ∈ [(65 : UInt8), 65, 65, 65], IsBase64Url byte := by simp [IsBase64Url]
  have named : challengeOf (getPrefix ++ [65, 65, 65, 65, 34, 125]) = [65, 65, 65, 65] :=
    @challengeOf_append [65, 65, 65, 65] [125] plain
  rw [named, verifierJson_layout] at same
  have behind := List.append_cancel_left same
  simp at behind

end VelaWallet
