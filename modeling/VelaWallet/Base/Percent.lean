import VelaWallet.Base.Text

/-!
# Percent-encoded components and query strings

A component is written with every character but the unreserved ones escaped byte
by byte, and reads back as the text it was.  A query string is a row of such
fields: what splits it cannot occur inside one.
-/

namespace Uri

def isUnreserved (character : Char) : Bool :=
  character.isAlphanum || "-_.!~*'()".toList.contains character

def upperHex (digit : Nat) : Char :=
  if digit < 10 then Char.ofNat (48 + digit) else Char.ofNat (55 + digit)

/-- The value of a hex digit of either case. -/
def hexValue? (character : Char) : Option Nat :=
  let code := character.toNat
  if 48 ≤ code ∧ code ≤ 57 then some (code - 48)
  else if 65 ≤ code ∧ code ≤ 70 then some (code - 55)
  else if 97 ≤ code ∧ code ≤ 102 then some (code - 87)
  else none

def escape (byte : UInt8) : List Char :=
  ['%', upperHex (byte.toNat / 16), upperHex (byte.toNat % 16)]

/-- `encodeURIComponent`, on characters. -/
def encodeCharacter (character : Char) : List Char :=
  if isUnreserved character then [character] else (String.utf8EncodeChar character).flatMap escape

/-- `encodeURIComponent`. -/
def encodeComponent (text : String) : String :=
  String.ofList (text.toList.flatMap encodeCharacter)

/-- The bytes an encoded component stands for, unless an escape is malformed. -/
def decodeBytes : List Char → Option (List UInt8)
  | [] => some []
  | character :: rest =>
    if character = '%' then
      match rest with
      | high :: low :: rest => do
          let top ← hexValue? high
          let bottom ← hexValue? low
          let bytes ← decodeBytes rest
          return UInt8.ofNat (top * 16 + bottom) :: bytes
      | _ => none
    else (decodeBytes rest).map (String.utf8EncodeChar character ++ ·)

/-- `decodeURIComponent`: nothing when an escape is malformed or the bytes are no
text. -/
def decodeComponent (text : String) : Option String :=
  (decodeBytes text.toList).bind fun bytes => String.fromUTF8? bytes.toByteArray

theorem upperHex_spec {digit : Nat} (small : digit < 16) :
    hexValue? (upperHex digit) = some digit ∧ upperHex digit ≠ '&' := by
  revert digit
  decide

theorem hexValue?_upperHex {digit : Nat} (small : digit < 16) :
    hexValue? (upperHex digit) = some digit := (upperHex_spec small).1

theorem decodeBytes_escape (byte : UInt8) (rest : List Char) :
    decodeBytes (escape byte ++ rest) = (decodeBytes rest).map (byte :: ·) := by
  have bound := byte.toNat_lt
  have high : byte.toNat / 16 < 16 := by omega
  have low : byte.toNat % 16 < 16 := by omega
  have whole : UInt8.ofNat (byte.toNat / 16 * 16 + byte.toNat % 16) = byte := by
    rw [Nat.div_add_mod', UInt8.ofNat_toNat]
  rw [escape, List.cons_append, List.cons_append, List.cons_append, List.nil_append, decodeBytes,
    if_pos rfl, hexValue?_upperHex high, hexValue?_upperHex low]
  simp only [Option.bind_eq_bind, Option.bind_some, whole]
  cases decodeBytes rest <;> rfl

theorem decodeBytes_escapes (bytes : List UInt8) (rest : List Char) :
    decodeBytes (bytes.flatMap escape ++ rest) = (decodeBytes rest).map (bytes ++ ·) := by
  induction bytes with
  | nil => simp
  | cons _ _ ih =>
    rw [List.flatMap_cons, List.append_assoc, decodeBytes_escape, ih, Option.map_map]
    rfl

theorem decodeBytes_plain {character : Char} (plain : character ≠ '%') (rest : List Char) :
    decodeBytes (character :: rest) =
      (decodeBytes rest).map (String.utf8EncodeChar character ++ ·) := by
  rw [decodeBytes.eq_def]
  simp only [plain, if_false]

theorem not_percent_of_unreserved {character : Char} (plain : isUnreserved character = true) :
    character ≠ '%' := by
  rintro rfl
  revert plain
  decide

theorem decodeBytes_encodeCharacter (character : Char) (rest : List Char) :
    decodeBytes (encodeCharacter character ++ rest) =
      (decodeBytes rest).map (String.utf8EncodeChar character ++ ·) := by
  unfold encodeCharacter
  split
  · next plain =>
      exact decodeBytes_plain (not_percent_of_unreserved plain) rest
  · exact decodeBytes_escapes _ _

theorem decodeBytes_encoded (characters : List Char) :
    decodeBytes (characters.flatMap encodeCharacter) =
      some (characters.flatMap String.utf8EncodeChar) := by
  induction characters with
  | nil => rfl
  | cons _ _ ih =>
    rw [List.flatMap_cons, decodeBytes_encodeCharacter, ih]
    rfl

theorem decodeComponent_encodeComponent (text : String) :
    decodeComponent (encodeComponent text) = some text := by
  rw [decodeComponent, encodeComponent, String.toList_ofList, decodeBytes_encoded, Option.bind_some]
  have same : (text.toList.flatMap String.utf8EncodeChar).toByteArray = text.toByteArray := by
    rw [← String.utf8Encode_toList]
    rfl
  rw [same, String.fromUTF8?, dif_pos text.isValidUTF8]
  rfl

theorem not_mem_encodeCharacter {mark : Char} (reserved : isUnreserved mark = false)
    (unhex : mark ≠ '%' ∧ ∀ digit < 16, mark ≠ upperHex digit) (character : Char) :
    mark ∉ encodeCharacter character := by
  intro member
  unfold encodeCharacter at member
  split at member
  · next plain =>
      rw [← List.mem_singleton.mp member, reserved] at plain
      cases plain
  · obtain ⟨byte, _, written⟩ := List.mem_flatMap.mp member
    have bound := byte.toNat_lt
    simp only [escape, List.mem_cons, List.not_mem_nil, or_false] at written
    rcases written with percent | high | low
    · exact unhex.1 percent
    · exact unhex.2 _ (by omega) high
    · exact unhex.2 _ (by omega) low

theorem ampersand_not_mem (text : String) : '&' ∉ (encodeComponent text).toList := by
  intro member
  rw [encodeComponent, String.toList_ofList] at member
  obtain ⟨character, _, written⟩ := List.mem_flatMap.mp member
  refine not_mem_encodeCharacter (by decide) ⟨by decide, ?_⟩ character written
  intro digit small
  exact (upperHex_spec small).2.symm

def writeField (field : String × String) : List Char := field.1.toList ++ '=' :: field.2.toList

def writeQuery (fields : List (String × String)) : String :=
  String.ofList (['&'].intercalate (fields.map writeField))

/-- A field read: its name up to the first equals sign, and the rest. -/
def readField (field : List Char) : String × String :=
  (String.ofList (field.takeWhile (· != '=')), String.ofList ((field.dropWhile (· != '=')).drop 1))

def readQuery (query : String) : List (String × String) := (query.toList.splitOn '&').map readField

/-- The decoded value of the first field of a name. -/
def parameter (query name : String) : Option String :=
  ((readQuery query).find? (·.1 == name)).bind fun field => decodeComponent field.2

/-- The name of a field has no separator in it, nor has its value. -/
def Separable (field : String × String) : Prop :=
  '=' ∉ field.1.toList ∧ '&' ∉ field.1.toList ∧ '&' ∉ field.2.toList

theorem readField_writeField {field : String × String} (separable : Separable field) :
    readField (writeField field) = field := by
  obtain ⟨named, _, _⟩ := separable
  have plain : ∀ character ∈ field.1.toList, (character != '=') = true := by
    intro character member
    rw [bne_iff_ne]
    rintro rfl
    exact named member
  have name : (writeField field).takeWhile (· != '=') = field.1.toList := by
    rw [writeField, List.takeWhile_append_of_pos plain]
    simp
  have value : (writeField field).dropWhile (· != '=') = '=' :: field.2.toList := by
    rw [writeField, List.dropWhile_append_of_pos plain]
    simp
  rw [readField, name, value, List.drop_one, List.tail_cons, String.ofList_toList,
    String.ofList_toList]

theorem readQuery_writeQuery {fields : List (String × String)} (written : fields ≠ [])
    (separable : ∀ field ∈ fields, Separable field) : readQuery (writeQuery fields) = fields := by
  have apart : ∀ part ∈ fields.map writeField, '&' ∉ part := by
    intro part member
    obtain ⟨field, inFields, rfl⟩ := List.mem_map.mp member
    obtain ⟨_, named, valued⟩ := separable field inFields
    intro within
    rcases List.mem_append.mp within with inName | inRest
    · exact named inName
    · rcases List.mem_cons.mp inRest with mark | inValue
      · cases mark
      · exact valued inValue
  have nonempty : fields.map writeField ≠ [] := by simpa using written
  rw [readQuery, writeQuery, String.toList_ofList, List.splitOn_intercalate '&' apart nonempty,
    List.map_map]
  have kept : fields.map (readField ∘ writeField) = fields.map id :=
    List.map_congr_left fun field member => readField_writeField (separable field member)
  rw [kept, List.map_id]

theorem parameter_writeQuery {fields : List (String × String)} (written : fields ≠ [])
    (named : ∀ field ∈ fields, '=' ∉ field.1.toList ∧ '&' ∉ field.1.toList) (name : String) :
    parameter (writeQuery (fields.map fun field => (field.1, encodeComponent field.2))) name =
      (fields.find? (·.1 == name)).map (·.2) := by
  have separable : ∀ field ∈ fields.map fun field => (field.1, encodeComponent field.2),
      Separable field := by
    intro field member
    obtain ⟨plain, inFields, rfl⟩ := List.mem_map.mp member
    exact ⟨(named plain inFields).1, (named plain inFields).2, ampersand_not_mem plain.2⟩
  rw [parameter, readQuery_writeQuery (by simpa using written) separable, List.find?_map]
  show ((fields.find? (·.1 == name)).map _).bind _ = _
  cases fields.find? (·.1 == name) with
  | none => rfl
  | some =>
    simp only [Option.map_some, Option.bind_some]
    rw [decodeComponent_encodeComponent]

theorem encodeComponent_plain {text : String}
    (plain : ∀ character ∈ text.toList, isUnreserved character = true) :
    encodeComponent text = text := by
  have kept : text.toList.flatMap encodeCharacter = text.toList := by
    generalize text.toList = characters at plain
    induction characters with
    | nil => rfl
    | cons character _ ih =>
      rw [List.flatMap_cons, encodeCharacter, if_pos (plain character List.mem_cons_self),
        ih fun other member => plain other (List.mem_cons_of_mem _ member)]
      rfl
  rw [encodeComponent, kept, String.ofList_toList]

end Uri
