import VelaWallet.Base.Text

/-!
# JSON values

The value tree the request readers walk.  Objects keep their members in key
order with one member a key, so a lookup is the first match; parsing and
printing are the JSON library's own and enter as parameters.
-/

namespace Json

inductive Number where
  | posInt (value : UInt64)
  | negInt (value : Int64)
  | float (bits : UInt64)
  deriving DecidableEq

inductive Value where
  | null
  | bool (value : Bool)
  | number (value : Number)
  | string (text : String)
  | array (items : List Value)
  | object (members : List (String × Value))
  deriving BEq

namespace Value

/-- The member of an object under `key`. -/
def lookup (key : String) : List (String × Value) → Option Value
  | [] => none
  | (name, value) :: rest => if name = key then some value else lookup key rest

/-- `Value::get` with a text key: a member of an object, nothing elsewhere. -/
def get? (value : Value) (key : String) : Option Value :=
  match value with
  | .object members => lookup key members
  | _ => none

/-- `Value::get` with an index: an element of an array, nothing elsewhere. -/
def at? (value : Value) (index : Nat) : Option Value :=
  match value with
  | .array items => items[index]?
  | _ => none

def asStr? : Value → Option String
  | .string text => some text
  | _ => none

def asArray? : Value → Option (List Value)
  | .array items => some items
  | _ => none

def asObject? : Value → Option (List (String × Value))
  | .object members => some members
  | _ => none

def isObject : Value → Bool
  | .object _ => true
  | _ => false

/-- `Map::insert`: the member under `key` replaced, or a new one placed in key
order. -/
def insertMember (key : String) (value : Value) :
    List (String × Value) → List (String × Value)
  | [] => [(key, value)]
  | (name, old) :: rest =>
    if name = key then (key, value) :: rest
    else if key < name then (key, value) :: (name, old) :: rest
    else (name, old) :: insertMember key value rest

@[simp] theorem get?_object (members : List (String × Value)) (key : String) :
    (object members).get? key = lookup key members := rfl

@[simp] theorem at?_array (items : List Value) (index : Nat) :
    (array items).at? index = items[index]? := rfl

@[simp] theorem asStr?_string (text : String) : (string text).asStr? = some text := rfl

@[simp] theorem asArray?_array (items : List Value) : (array items).asArray? = some items := rfl

@[simp] theorem lookup_insertMember_self (key : String) (value : Value)
    (members : List (String × Value)) :
    lookup key (insertMember key value members) = some value := by
  induction members with
  | nil => simp [insertMember, lookup]
  | cons _ _ ih =>
    unfold insertMember
    split
    case isTrue => simp [lookup]
    case isFalse different =>
      split
      case isTrue => simp [lookup]
      case isFalse => simp [lookup, different, ih]

theorem lookup_insertMember_other {key other : String} (different : key ≠ other) (value : Value)
    (members : List (String × Value)) :
    lookup other (insertMember key value members) = lookup other members := by
  induction members with
  | nil => simp [insertMember, lookup, different]
  | cons head _ ih =>
    obtain ⟨name, old⟩ := head
    unfold insertMember
    split
    case isTrue same =>
      subst same
      simp [lookup, different]
    case isFalse =>
      split
      case isTrue => simp [lookup, different]
      case isFalse => simp [lookup, ih]

theorem asStr?_eq_some {value : Value} {text : String} :
    value.asStr? = some text ↔ value = .string text := by
  cases value <;> simp [asStr?]

end Value

/-- The JSON library's reader of a text: a value, or nothing for a text that is
not JSON. -/
class Reader where
  fromStr : String → Option Value

/-- The JSON library's printer. -/
class Writer where
  toStr : Value → String

/-- The reader and printer of a development that meets no nested JSON text. -/
@[reducible] def noReader : Reader := ⟨fun _ => none⟩

@[reducible] def noWriter : Writer := ⟨fun _ => ""⟩

export Reader (fromStr)
export Writer (toStr)

end Json
