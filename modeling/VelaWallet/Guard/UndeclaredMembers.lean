import VelaWallet.Guard.ApprovalDetection

/-!
# Members that no type declares

The digest of a typed-data document reads the members its types declare (`eip712.rs`), while the
approval detector reads members by name.  Which undeclared members change what a document is
taken for.
-/

namespace VelaWallet.ApprovalGuard

open Json (Value)
open Json.Value (lookup)
open Utf8 (CaseTable)

variable {key : String} {document : Value}

def arrayBaseType (type : String) : Option String :=
  match type.toList.reverse with
  | ']' :: rest =>
    match rest.dropWhile (· != '[') with
    | '[' :: base =>
      if (rest.takeWhile (· != '[')).all Char.isDigit ∧ base ≠ [] then
        some (String.ofList base.reverse)
      else none
    | _ => none
  | _ => none

/-- The names and types of the fields that a type declares, as `normalize_struct` reads them. -/
def declaredFields (types : Value) (typeName : String) : Option (List (String × String)) :=
  ((types.get? typeName).bind Value.asArray?).map fun fields =>
    fields.filterMap fun field => do
      let name ← (field.get? "name").bind Value.asStr?
      let type ← (field.get? "type").bind Value.asStr?
      return (name, type)

/-- A value of a type with members added, at any depth, that the type at their place does not
declare. -/
inductive Extras (types : Value) : String → Value → Value → Prop where
  | same (typeName : String) (value : Value) : Extras types typeName value value
  | elements {typeName base : String} {items extended : List Value}
      (array_type : arrayBaseType typeName = some base)
      (same_length : extended.length = items.length)
      (each : ∀ (index : Nat) (item : Value), items[index]? = some item →
        ∀ later, extended[index]? = some later → Extras types base item later) :
      Extras types typeName (.array items) (.array extended)
  | members {typeName : String} {fields : List (String × String)}
      {members extended : List (String × Value)}
      (struct_type : declaredFields types typeName = some fields)
      (still : ∀ key, (lookup key members).isSome = true → (lookup key extended).isSome = true)
      (declared : ∀ key fieldType, (key, fieldType) ∈ fields →
        ∀ value, lookup key members = some value →
          ∀ later, lookup key extended = some later → Extras types fieldType value later)
      (others : ∀ key, (∀ fieldType, (key, fieldType) ∉ fields) →
        ∀ value, lookup key members = some value → lookup key extended = some value)
      (undeclared : ∀ key, lookup key members = none → (lookup key extended).isSome = true →
        ∀ fieldType, (key, fieldType) ∉ fields) :
      Extras types typeName (.object members) (.object extended)

/-- `primaryType`, as the detector reads it. -/
def primaryTypeOf (document : Value) : String :=
  ((document.get? "primaryType").bind Value.asStr?).getD ""

/-- A document with undeclared members added to its message. -/
structure MessageExtras (document extended : Value) : Prop where
  elsewhere : ∀ key, key ≠ "message" → extended.get? key = document.get? key
  message : ∃ message later, document.get? "message" = some message ∧
    extended.get? "message" = some later ∧
    Extras ((document.get? "types").getD .null) (primaryTypeOf document) message later

section Reading

variable {types : Value} {typeName : String} {value later : Value}

/-- A member of a value, and of the value extended. -/
inductive Alike (types : Value) : Option Value → Option Value → Prop where
  | absent (later : Option Value) : Alike types none later
  | present {typeName : String} {value later : Value} (extras : Extras types typeName value later) :
      Alike types (some value) (some later)

theorem Extras.get? (extras : Extras types typeName value later) (key : String) :
    Alike types (value.get? key) (later.get? key) := by
  cases extras with
  | same =>
    cases value.get? key with
    | none => exact .absent none
    | some member => exact .present (.same "" member)
  | elements => exact .absent _
  | @members _ fields members extended struct_type still declared others =>
    simp only [Value.get?]
    cases found : lookup key members with
    | none => exact .absent _
    | some member =>
      have present := still key (by rw [found]; rfl)
      obtain ⟨other, found_later⟩ := Option.isSome_iff_exists.mp present
      rw [found_later]
      by_cases field : ∃ fieldType, (key, fieldType) ∈ fields
      · obtain ⟨fieldType, field⟩ := field
        exact .present (declared key fieldType field member found other found_later)
      · have same := others key (fun type field_ => field ⟨type, field_⟩) member found
        rw [found_later] at same
        cases same
        exact .present (.same "" member)

/-- What reads a value without looking into it. -/
structure Shallow {β : Type} (read : Option Value → β) : Prop where
  array : ∀ items extended, read (some (.array items)) = read (some (.array extended))
  object : ∀ members extended, read (some (.object members)) = read (some (.object extended))

theorem lc_shallow [CaseTable] : Shallow lc := ⟨fun _ _ => rfl, fun _ _ => rfl⟩

theorem toBig_shallow : Shallow toBig := ⟨fun _ _ => rfl, fun _ _ => rfl⟩

theorem jsTruthy_shallow : Shallow jsTruthy := ⟨fun _ _ => rfl, fun _ _ => rfl⟩

theorem isJsOneOrTrue_shallow : Shallow isJsOneOrTrue := ⟨fun _ _ => rfl, fun _ _ => rfl⟩

theorem isSome_shallow : Shallow fun value => value.isSome := ⟨fun _ _ => rfl, fun _ _ => rfl⟩

variable {β : Type} {read : Option Value → β}

theorem Shallow.extras (shallow : Shallow read) (extras : Extras types typeName value later) :
    read (some later) = read (some value) := by
  cases extras with
  | same => rfl
  | elements => exact shallow.array _ _
  | members => exact shallow.object _ _

/-- A member that the extras bring where there was none. -/
def Added (key : String) (value later : Value) : Prop :=
  value.get? key = none ∧ (later.get? key).isSome = true

theorem Shallow.get?_iff (shallow : Shallow read) (extras : Extras types typeName value later)
    (key : String) :
    read (later.get? key) = read (value.get? key) ↔
      (Added key value later → read (later.get? key) = read none) := by
  have alike := extras.get? key
  generalize here : value.get? key = before at alike
  generalize there : later.get? key = after at alike
  cases alike with
  | absent =>
    simp only [Added, here, there, true_and]
    cases after with
    | none => simp
    | some => simp
  | present extras =>
    simp [Added, here, shallow.extras extras]

theorem Extras.asArray? (extras : Extras types typeName value later) :
    (value.asArray? = none ∧ later.asArray? = none) ∨
      ∃ items extended, value.asArray? = some items ∧ later.asArray? = some extended ∧
        extended.length = items.length ∧
          ∀ (index : Nat) (item : Value), items[index]? = some item →
            ∀ other, extended[index]? = some other → ∃ base, Extras types base item other := by
  cases extras with
  | same =>
    cases items_eq : value.asArray? with
    | none => exact .inl ⟨rfl, rfl⟩
    | some items =>
      refine .inr ⟨items, items, rfl, rfl, rfl, ?_⟩
      intro index item found other found_again
      rw [found] at found_again
      cases found_again
      exact ⟨"", .same "" item⟩
  | @elements _ base items extended array_type same_length each =>
    exact .inr ⟨items, extended, rfl, rfl, same_length,
      fun index item found other found_later => ⟨base, each index item found other found_later⟩⟩
  | members => exact .inl ⟨rfl, rfl⟩

end Reading

structure Classification where
  kind : GuardApprovalKind
  token : Option String
  spender : String
  amount : Option String
  unbounded : Bool
  reducing : Bool
  deriving DecidableEq

/-- `GuardDetectedApproval`, of which the grant is read. -/
def GuardDetectedApproval.classification (detected : GuardDetectedApproval) : Classification where
  kind := detected.kind
  token := detected.tokenAddress
  spender := detected.spender
  amount := detected.amountRaw
  unbounded := detected.isUnbounded
  reducing := detected.isReducing

section Classes

variable [CaseTable]

def classify (document : Value) : Option Classification :=
  (detectTypedDataApproval document).map (·.classification)

/-- A permit of the DAI or the ERC-2612 kind. -/
def permitClass (token : Option String) (message : Value) : Option Classification :=
  if (message.get? "allowed").isSome then
    let allowed := isJsOneOrTrue (message.get? "allowed")
    some ⟨.daiPermit, token, lc (message.get? "spender"), none, allowed, !allowed⟩
  else if (message.get? "value").isSome then
    let amount := toBig (message.get? "value")
    some ⟨.erc2612Permit, token, lc (message.get? "spender"), some amount.toDec,
      !amount.neg && isUnboundedAmount amount.mag .b256, amount.isZero⟩
  else none

/-- A permit for the one token under a key. -/
def singleClass (key : String) (bits : AmountBits) (message : Value) : Option Classification :=
  if jsTruthy (message.get? key) then
    let grant := (message.get? key).getD (.object [])
    let amount := toBig (grant.get? "amount")
    some ⟨.permit2Single, nonempty (lc (grant.get? "token")), lc (message.get? "spender"),
      some amount.toDec, !amount.neg && isUnboundedAmount amount.mag bits, amount.isZero⟩
  else none

/-- An entry of a batch that grants an unbounded amount. -/
def unboundedEntry (bits : AmountBits) (entry : Value) : Bool :=
  let amount := toBig (entry.get? "amount")
  !amount.neg && isUnboundedAmount amount.mag bits

/-- A permit for the tokens listed under a key. -/
def batchClass (key : String) (bits : AmountBits) (message : Value) : Option Classification :=
  ((message.get? key).bind Value.asArray?).map fun list =>
    ⟨.permit2Batch, none, lc (message.get? "spender"), none, list.any (unboundedEntry bits), false⟩

omit [CaseTable] in
theorem isObject_of_message {message : Value}
    (found : document.get? "message" = some message) : document.isObject = true := by
  cases document <;> first | rfl | cases found

def classOf (primaryType : String) (token : Option String) (message : Value) :
    Option Classification :=
  match primaryType with
  | "Permit" => permitClass token message
  | "PermitSingle" => singleClass "details" .b160 message
  | "PermitBatch" => batchClass "details" .b160 message
  | "PermitTransferFrom" => singleClass "permitted" .b256 message
  | "PermitBatchTransferFrom" => batchClass "permitted" .b256 message
  | _ => none

theorem classify_eq (object : document.isObject = true) :
    classify document = classOf (primaryTypeOf document)
      (nonempty (lc ((objectOrEmpty document "domain").get? "verifyingContract")))
      (objectOrEmpty document "message") := by
  simp only [classify, detectTypedDataApproval, object, not_true_eq_false, if_false, primaryTypeOf]
  generalize ((document.get? "primaryType").bind Value.asStr?).getD "" = name
  generalize objectOrEmpty document "message" = message
  fun_cases classOf name _ message
  case case1 =>
    simp only [true_and, permitClass]
    split
    · rfl
    · split
      · rfl
      · simp
  case case2 =>
    simp only [singleClass]
    cases jsTruthy (message.get? "details") with
    | false => simp
    | true => simp [permitApproval, GuardDetectedApproval.classification]
  case case3 =>
    simp only [batchClass]
    generalize (message.get? "details").bind Value.asArray? = listed
    cases listed with
    | none => simp
    | some =>
      simp [permitBatchApproval, GuardDetectedApproval.classification]
      rfl
  case case4 =>
    simp only [singleClass]
    cases jsTruthy (message.get? "permitted") with
    | false => simp
    | true => simp [permitApproval, GuardDetectedApproval.classification]
  case case5 =>
    simp only [batchClass]
    generalize (message.get? "permitted").bind Value.asArray? = listed
    cases listed with
    | none => simp
    | some =>
      simp [permitBatchApproval, GuardDetectedApproval.classification]
      rfl
  case case6 permit single batch transfer batchTransfer =>
    simp only [eq_false permit, eq_false single, false_and, if_false]
    split
    · exact absurd rfl batch
    · exact absurd rfl transfer
    · exact absurd rfl batchTransfer
    · rfl

/-- The primary types that the detector knows. -/
def permitTypes : List String :=
  ["Permit", "PermitSingle", "PermitBatch", "PermitTransferFrom", "PermitBatchTransferFrom"]

theorem classOf_other {primaryType : String} (other : primaryType ∉ permitTypes)
    (token : Option String) (message : Value) : classOf primaryType token message = none := by
  simp only [permitTypes, List.mem_cons, List.not_mem_nil, or_false, not_or] at other
  unfold classOf
  split <;> simp_all

/-! ## Members that are not read -/

/-- A spender is added only where it reads as none. -/
def SpenderUnread (message later : Value) : Prop :=
  Added "spender" message later → lc (later.get? "spender") = ""

/-- Nothing that a permit is known by is added, and no spender. -/
structure PermitUnread (message later : Value) : Prop where
  allowed : ¬Added "allowed" message later
  value : message.get? "allowed" = none → ¬Added "value" message later
  spender : (message.get? "allowed").isSome = true ∨ (message.get? "value").isSome = true →
    SpenderUnread message later

/-- A token or an amount is added only where it reads as none. -/
structure GrantUnread (grant later : Value) : Prop where
  token : Added "token" grant later → lc (later.get? "token") = ""
  amount : Added "amount" grant later → (toBig (later.get? "amount")).isZero = true

/-- No grant is added under a key, and nothing that it is read for. -/
structure SingleUnread (key : String) (message later : Value) : Prop where
  grant : Added key message later → jsTruthy (later.get? key) = false
  spender : jsTruthy (message.get? key) = true → SpenderUnread message later
  fields : jsTruthy (message.get? key) = true →
    GrantUnread ((message.get? key).getD (.object [])) ((later.get? key).getD (.object []))

/-- No unbounded amount is added to entries of which none has one. -/
def EntriesUnread (bits : AmountBits) (list later : List Value) : Prop :=
  list.any (unboundedEntry bits) = false →
    ∀ (index : Nat) (entry : Value), list[index]? = some entry →
      ∀ other, later[index]? = some other → Added "amount" entry other →
        unboundedEntry bits other = false

/-- No list is added under a key, and nothing that it is read for. -/
structure BatchUnread (key : String) (bits : AmountBits) (message later : Value) : Prop where
  list : Added key message later → (later.get? key).bind Value.asArray? = none
  spender : ((message.get? key).bind Value.asArray?).isSome = true → SpenderUnread message later
  entries : ∀ list, (message.get? key).bind Value.asArray? = some list →
    ∀ extended, (later.get? key).bind Value.asArray? = some extended →
      EntriesUnread bits list extended

section Unread

variable {types message later : Value} {typeName key : String} {bits : AmountBits}
  {token : Option String}

theorem spender_iff (extras : Extras types typeName message later) :
    lc (later.get? "spender") = lc (message.get? "spender") ↔ SpenderUnread message later :=
  lc_shallow.get?_iff extras "spender"

omit [CaseTable] in
theorem Shallow.get?_of_not_added {β : Type} {read : Option Value → β} (shallow : Shallow read)
    (extras : Extras types typeName message later) (kept : ¬Added key message later) :
    read (later.get? key) = read (message.get? key) := by
  apply (shallow.get?_iff extras key).mpr
  intro added
  exact absurd added kept

omit [CaseTable] in
theorem isSome_of_isSome (extras : Extras types typeName message later)
    (present : (message.get? key).isSome = true) : (later.get? key).isSome = true := by
  rw [← present]
  apply isSome_shallow.get?_of_not_added extras
  intro added
  rw [added.1] at present
  cases present

theorem permitClass_iff (extras : Extras types typeName message later) :
    permitClass token later = permitClass token message ↔ PermitUnread message later := by
  have spender := spender_iff extras
  constructor
  case mp =>
    intro same
    have allowed : ¬Added "allowed" message later := by
      rintro ⟨absent, present⟩
      simp only [permitClass, absent, present, if_true] at same
      split at same
      · contradiction
      · split at same <;> simp at same
    have allowed_same := isSome_shallow.get?_of_not_added extras allowed
    have value : message.get? "allowed" = none → ¬Added "value" message later := by
      rintro absent ⟨absent_value, present⟩
      simp [permitClass, allowed_same, absent, absent_value, present] at same
    refine ⟨allowed, value, ?_⟩
    intro granted
    apply spender.mp
    have spenders := congrArg (Option.map Classification.spender) same
    by_cases present : (message.get? "allowed").isSome = true
    · simpa [permitClass, allowed_same, present] using spenders
    · have present_value := granted.resolve_left present
      have still := isSome_of_isSome extras present_value
      simpa [permitClass, allowed_same, present, present_value, still] using spenders
  case mpr =>
    rintro ⟨allowed, value, granted⟩
    have allowed_same := isSome_shallow.get?_of_not_added extras allowed
    simp only [permitClass, allowed_same]
    split
    · next present =>
        rw [spender.mpr (granted (.inl present)),
          isJsOneOrTrue_shallow.get?_of_not_added extras allowed]
    · next absent =>
        have kept := value (by simpa using absent)
        have value_same := isSome_shallow.get?_of_not_added extras kept
        simp only [value_same]
        split
        · next present =>
            rw [spender.mpr (granted (.inr present)),
              toBig_shallow.get?_of_not_added extras kept]
        · rfl

omit [CaseTable] in
theorem nonempty_inj {text other : String} (same : nonempty text = nonempty other) :
    text = other := by
  unfold nonempty at same
  split at same
  · next empty =>
      split at same
      · next other_empty => rw [empty, other_empty]
      · cases same
  · split at same
    · cases same
    · exact Option.some.inj same

omit [CaseTable] in
theorem reads_of_isZero {amount : BigVal} (zero : amount.isZero = true) (bits : AmountBits) :
    amount.toDec = "0" ∧ (!amount.neg && isUnboundedAmount amount.mag bits) = false := by
  obtain ⟨neg, mag⟩ := amount
  have none_at_all : mag = 0 := by simpa [BigVal.isZero] using zero
  subst none_at_all
  constructor
  · cases neg <;> decide
  · cases neg <;> cases bits <;> decide

theorem singleClass_iff (extras : Extras types typeName message later) :
    singleClass key bits later = singleClass key bits message ↔ SingleUnread key message later := by
  have spender := spender_iff extras
  have truthy := jsTruthy_shallow.get?_iff extras key
  have grants : jsTruthy (message.get? key) = true → ∃ grantType,
      Extras types grantType ((message.get? key).getD (.object []))
        ((later.get? key).getD (.object [])) := by
    intro given
    have alike := extras.get? key
    generalize message.get? key = before at given alike
    generalize later.get? key = after at alike
    cases alike with
    | absent => cases given
    | present extras => exact ⟨_, extras⟩
  constructor
  case mp =>
    intro same
    have truthy_same : jsTruthy (later.get? key) = jsTruthy (message.get? key) := by
      unfold singleClass at same
      split at same <;> split at same <;> simp_all
    refine ⟨truthy.mp truthy_same, ?_, ?_⟩
    · intro given
      apply spender.mp
      have spenders := congrArg (Option.map Classification.spender) same
      simpa [singleClass, truthy_same, given] using spenders
    · intro given
      obtain ⟨grantType, grant⟩ := grants given
      simp only [singleClass, truthy_same, given, if_true, Option.some.injEq,
        Classification.mk.injEq, true_and] at same
      obtain ⟨tokens, _, _, _, reducing⟩ := same
      constructor
      case token =>
        apply (lc_shallow.get?_iff grant "token").mp
        exact nonempty_inj tokens
      case amount =>
        intro added
        rw [reducing, added.1]
        rfl
  case mpr =>
    rintro ⟨grant_unread, spender_unread, fields⟩
    have truthy_same := truthy.mpr grant_unread
    simp only [singleClass, truthy_same]
    split
    · next given =>
        obtain ⟨grantType, grant⟩ := grants given
        obtain ⟨token_unread, amount_unread⟩ := fields given
        rw [spender.mpr (spender_unread given),
          (lc_shallow.get?_iff grant "token").mpr token_unread]
        by_cases added : Added "amount" ((message.get? key).getD (.object []))
            ((later.get? key).getD (.object []))
        · have zero := amount_unread added
          obtain ⟨dec, bounded⟩ := reads_of_isZero zero bits
          have none_zero : (toBig none).isZero = true := rfl
          obtain ⟨dec_none, bounded_none⟩ := reads_of_isZero none_zero bits
          rw [added.1, dec, bounded, dec_none, bounded_none, zero, none_zero]
        · rw [toBig_shallow.get?_of_not_added grant added]
    · rfl

omit [CaseTable] in
theorem unboundedEntry_of_not_added (extras : Extras types typeName message later)
    (kept : ¬Added "amount" message later) :
    unboundedEntry bits later = unboundedEntry bits message := by
  unfold unboundedEntry
  rw [toBig_shallow.get?_of_not_added extras kept]

omit [CaseTable] in
theorem any_unbounded_iff {items extended : List Value}
    (same_length : extended.length = items.length)
    (each : ∀ (index : Nat) (item : Value), items[index]? = some item →
      ∀ other, extended[index]? = some other → ∃ base, Extras types base item other) :
    extended.any (unboundedEntry bits) = items.any (unboundedEntry bits) ↔
      EntriesUnread bits items extended := by
  constructor
  case mp =>
    intro same none_before index item _ other there _
    rw [none_before] at same
    have bounded := List.any_eq_false.mp same other (List.mem_of_getElem? there)
    simpa using bounded
  case mpr =>
    intro unread
    cases before : items.any (unboundedEntry bits) with
    | true =>
      obtain ⟨item, member, unbounded⟩ := List.any_eq_true.mp before
      obtain ⟨index, inside, rfl⟩ := List.getElem_of_mem member
      have inside_later : index < extended.length := same_length ▸ inside
      obtain ⟨base, extras⟩ := each index _ (List.getElem?_eq_getElem inside) _
        (List.getElem?_eq_getElem inside_later)
      apply List.any_eq_true.mpr
      refine ⟨extended[index], List.getElem_mem inside_later, ?_⟩
      rw [unboundedEntry_of_not_added extras, unbounded]
      intro added
      simp [unboundedEntry, added.1, toBig, BigVal.zero, isUnboundedAmount] at unbounded
      cases bits <;> exact absurd unbounded (by decide)
    | false =>
      apply List.any_eq_false.mpr
      intro other member unbounded
      obtain ⟨index, inside, rfl⟩ := List.getElem_of_mem member
      have inside_before : index < items.length := same_length ▸ inside
      have here := List.getElem?_eq_getElem inside_before
      have there := List.getElem?_eq_getElem inside
      obtain ⟨base, extras⟩ := each index _ here _ there
      by_cases added : Added "amount" items[index] extended[index]
      · rw [unread before index _ here _ there added] at unbounded
        cases unbounded
      · rw [unboundedEntry_of_not_added extras added] at unbounded
        exact List.any_eq_false.mp before _ (List.getElem_mem inside_before) unbounded

omit [CaseTable] in
theorem Extras.list (extras : Extras types typeName message later) (key : String) :
    ((message.get? key).bind Value.asArray? = none ∧
        (¬Added key message later → (later.get? key).bind Value.asArray? = none)) ∨
      ∃ items extended, (message.get? key).bind Value.asArray? = some items ∧
        (later.get? key).bind Value.asArray? = some extended ∧ extended.length = items.length ∧
          ∀ (index : Nat) (item : Value), items[index]? = some item →
            ∀ other, extended[index]? = some other → ∃ base, Extras types base item other := by
  have alike := extras.get? key
  generalize here : message.get? key = before at alike
  generalize there : later.get? key = after at alike
  cases alike with
  | absent =>
    refine .inl ⟨rfl, ?_⟩
    intro kept
    cases after with
    | none => rfl
    | some => exact absurd ⟨here, by rw [there]; rfl⟩ kept
  | present extras =>
    rcases extras.asArray? with ⟨none_before, none_after⟩ | lists
    · exact .inl ⟨none_before, fun _ => none_after⟩
    · exact .inr lists

theorem batchClass_iff (extras : Extras types typeName message later) :
    batchClass key bits later = batchClass key bits message ↔
      BatchUnread key bits message later := by
  have spender := spender_iff extras
  unfold batchClass
  rcases extras.list key with ⟨unlisted, still⟩ |
    ⟨items, extended, listed, listed_later, same_length, each⟩
  · rw [unlisted, Option.map_none, Option.map_eq_none_iff]
    constructor
    case mp =>
      intro unlisted_later
      refine ⟨fun _ => unlisted_later, ?_, ?_⟩
      · rw [unlisted]
        exact nofun
      · rw [unlisted]
        exact nofun
    case mpr =>
      intro unread
      by_cases added : Added key message later
      · exact unread.list added
      · exact still added
  · have entries : extended.any (unboundedEntry bits) = items.any (unboundedEntry bits) ↔
        EntriesUnread bits items extended := any_unbounded_iff same_length each
    rw [listed, listed_later]
    simp only [Option.map_some, Option.some.injEq, Classification.mk.injEq, true_and, and_true]
    rw [spender, entries]
    constructor
    case mp =>
      rintro ⟨spender_unread, unread⟩
      constructor
      case list =>
        intro added
        rw [added.1] at listed
        cases listed
      case spender => exact fun _ => spender_unread
      case entries =>
        intro list same other same_later
        rw [listed] at same
        rw [listed_later] at same_later
        cases same
        cases same_later
        exact unread
    case mpr =>
      intro unread
      exact ⟨unread.spender (by rw [listed]; rfl), unread.entries _ listed _ listed_later⟩

end Unread

/-- What the extras of a document's message are not read for, by its primary type. -/
structure ExtrasUnread (primaryType : String) (message later : Value) : Prop where
  permit : primaryType = "Permit" → PermitUnread message later
  single : primaryType = "PermitSingle" → SingleUnread "details" message later
  batch : primaryType = "PermitBatch" → BatchUnread "details" .b160 message later
  transfer : primaryType = "PermitTransferFrom" → SingleUnread "permitted" message later
  batchTransfer : primaryType = "PermitBatchTransferFrom" →
    BatchUnread "permitted" .b256 message later

omit [CaseTable] in
theorem objectOrEmpty_of_ne {extended : Value} (extras : MessageExtras document extended)
    (other : key ≠ "message") :
    objectOrEmpty extended key = objectOrEmpty document key := by
  unfold objectOrEmpty
  rw [extras.elsewhere key other]

omit [CaseTable] in
theorem primaryTypeOf_extras {extended : Value} (extras : MessageExtras document extended) :
    primaryTypeOf extended = primaryTypeOf document := by
  unfold primaryTypeOf
  rw [extras.elsewhere "primaryType" (by decide)]

omit [CaseTable] in
theorem MessageExtras.messages {extended : Value}
    (extras : MessageExtras document extended) : ∃ types typeName,
      Extras types typeName (objectOrEmpty document "message")
        (objectOrEmpty extended "message") := by
  obtain ⟨_, message, later, found, found_later, each⟩ := extras
  unfold objectOrEmpty
  rw [found, found_later]
  cases each with
  | same =>
    refine ⟨.null, "", ?_⟩
    exact .same "" _
  | elements array_type same_length each => exact ⟨_, _, .elements array_type same_length each⟩
  | members struct_type still declared others undeclared =>
    exact ⟨_, _, .members struct_type still declared others undeclared⟩

/-- With the message extended, a document is taken for what it was. -/
def ClassificationKept {δ : Type} (digest : Value → δ) (document extended : Value) : Prop :=
  digest extended = digest document → classify extended = classify document

theorem extrasUnread_of_other {primaryType : String} {message later : Value}
    (other : primaryType ∉ permitTypes) : ExtrasUnread primaryType message later := by
  simp only [permitTypes, List.mem_cons, List.not_mem_nil, or_false, not_or] at other
  obtain ⟨permit, single, batch, transfer, batchTransfer⟩ := other
  exact ⟨fun same => absurd same permit, fun same => absurd same single,
    fun same => absurd same batch, fun same => absurd same transfer,
    fun same => absurd same batchTransfer⟩

theorem classify_iff {extended : Value} (extras : MessageExtras document extended) :
    classify extended = classify document ↔
      ExtrasUnread (primaryTypeOf document) (objectOrEmpty document "message")
        (objectOrEmpty extended "message") := by
  obtain ⟨types, typeName, messages⟩ := extras.messages
  have primary_later := primaryTypeOf_extras extras
  have domain := objectOrEmpty_of_ne extras (by decide : "domain" ≠ "message")
  obtain ⟨_, message, later, found, found_later, _⟩ := extras
  have object := isObject_of_message found
  have object_later := isObject_of_message found_later
  rw [classify_eq object, classify_eq object_later, primary_later, domain]
  generalize primaryTypeOf document = name
  by_cases known : name ∈ permitTypes
  · simp only [permitTypes, List.mem_cons, List.not_mem_nil, or_false] at known
    rcases known with rfl | rfl | rfl | rfl | rfl
    · rw [classOf, classOf, permitClass_iff messages]
      exact ⟨fun unread => ⟨fun _ => unread, nofun, nofun, nofun, nofun⟩,
        fun unread => unread.permit rfl⟩
    · rw [classOf, classOf, singleClass_iff messages]
      exact ⟨fun unread => ⟨nofun, fun _ => unread, nofun, nofun, nofun⟩,
        fun unread => unread.single rfl⟩
    · rw [classOf, classOf, batchClass_iff messages]
      exact ⟨fun unread => ⟨nofun, nofun, fun _ => unread, nofun, nofun⟩,
        fun unread => unread.batch rfl⟩
    · rw [classOf, classOf, singleClass_iff messages]
      exact ⟨fun unread => ⟨nofun, nofun, nofun, fun _ => unread, nofun⟩,
        fun unread => unread.transfer rfl⟩
    · rw [classOf, classOf, batchClass_iff messages]
      exact ⟨fun unread => ⟨nofun, nofun, nofun, nofun, fun _ => unread⟩,
        fun unread => unread.batchTransfer rfl⟩
  · rw [classOf_other known, classOf_other known]
    exact ⟨fun _ => extrasUnread_of_other known, fun _ => rfl⟩

/-- Where the digest stays as it was, members that no type declares leave what a document is taken
for as it was where, and only where, none of them is read. -/
theorem classification_kept_iff {δ : Type} {digest : Value → δ} {document extended : Value}
    (extras : MessageExtras document extended) (same : digest extended = digest document) :
    ClassificationKept digest document extended ↔
      ExtrasUnread (primaryTypeOf document) (objectOrEmpty document "message")
        (objectOrEmpty extended "message") := by
  rw [← classify_iff extras]
  constructor
  case mp => exact fun kept => kept same
  case mpr => exact fun kept _ => kept

end Classes

theorem Extras.insert {types : Value} {typeName : String} {fields : List (String × String)}
    {members : List (String × Value)} (struct_type : declaredFields types typeName = some fields)
    (undeclared : ∀ fieldType, (key, fieldType) ∉ fields) (fresh : lookup key members = none)
    (value : Value) :
    Extras types typeName (.object members)
      (.object (Json.Value.insertMember key value members)) := by
  have elsewhere : ∀ other value_, lookup other members = some value_ →
      lookup other (Json.Value.insertMember key value members) = some value_ := by
    intro other value_ found
    have different : key ≠ other := by
      intro same
      rw [← same, fresh] at found
      cases found
    rw [Json.Value.lookup_insertMember_other different, found]
  refine .members struct_type ?_ ?_ ?_ ?_
  · intro other present
    obtain ⟨value_, found⟩ := Option.isSome_iff_exists.mp present
    rw [elsewhere other value_ found]
    rfl
  · intro other fieldType _ value_ found later found_later
    rw [elsewhere other value_ found] at found_later
    cases found_later
    exact .same fieldType value_
  · exact fun other _ value_ found => elsewhere other value_ found
  · intro other absent present fieldType field
    by_cases same : key = other
    · exact undeclared fieldType (same ▸ field)
    · rw [Json.Value.lookup_insertMember_other same, absent] at present
      cases present

def field (name type : String) : Value := .object [("name", .string name), ("type", .string type)]

def permitDocumentTypes : Value := .object
  [("EIP712Domain", .array [field "name" "string", field "version" "string",
      field "chainId" "uint256", field "verifyingContract" "address"]),
    ("Permit", .array [field "owner" "address", field "spender" "address",
      field "value" "uint256", field "nonce" "uint256", field "deadline" "uint256"])]

def permitDocument (message : List (String × Value)) : Value := .object
  [("domain", .object
      [("chainId", .number (.posInt 1)), ("name", .string "USD Coin"),
        ("verifyingContract", .string "0xA0b86991c6218b36c1d19D4a2e9Eb0cE3606eB48"),
        ("version", .string "2")]),
    ("message", .object message), ("primaryType", .string "Permit"),
    ("types", permitDocumentTypes)]

/-- An amount of `2 ^ 256 - 1`. -/
def unlimitedMembers : List (String × Value) :=
  [("deadline", .number (.posInt 1800000000)), ("nonce", .number (.posInt 0)),
    ("owner", .string "0x1111111111111111111111111111111111111111"),
    ("spender", .string "0x2222222222222222222222222222222222222222"),
    ("value", .string
      "115792089237316195423570985008687907853269984665640564039457584007913129639935")]

def unlimitedPermit : Value := permitDocument unlimitedMembers

/-- The same permit with one more member. -/
def dressedPermit (key : String) (value : Value) : Value :=
  permitDocument (Json.Value.insertMember key value unlimitedMembers)

def permitDigest (document : Value) : Option String :=
  let message := objectOrEmpty document "message"
  let texts := ["owner", "spender", "value"].map fun key => (message.get? key).bind Value.asStr?
  let numbers := ["nonce", "deadline"].map fun key => toBig (message.get? key)
  if texts = [some "0x1111111111111111111111111111111111111111",
        some "0x2222222222222222222222222222222222222222",
        some "115792089237316195423570985008687907853269984665640564039457584007913129639935"] ∧
      numbers = [⟨false, 0⟩, ⟨false, 1800000000⟩] then
    some "0x5ea586d2a78007717807fe59abf6f5ed9ec45f87b882cb2653178d5cc2cc5858"
  else none

theorem dressedPermit_extras
    (undeclared : key ∉ ["owner", "spender", "value", "nonce", "deadline"]) (value : Value) :
    MessageExtras unlimitedPermit (dressedPermit key value) := by
  simp only [List.mem_cons, List.not_mem_nil, or_false, not_or] at undeclared
  obtain ⟨owner, spender, amount, nonce, deadline⟩ := undeclared
  constructor
  case elsewhere =>
    intro name other
    have different : "message" ≠ name := fun same => other same.symm
    simp [unlimitedPermit, dressedPermit, permitDocument, Value.get?, lookup, different]
  case message =>
    refine ⟨_, _, rfl, rfl, ?_⟩
    have fields : declaredFields permitDocumentTypes "Permit" =
        some [("owner", "address"), ("spender", "address"), ("value", "uint256"),
          ("nonce", "uint256"), ("deadline", "uint256")] := by decide
    apply Extras.insert fields
    · simp [owner, spender, amount, nonce, deadline]
    · simp [unlimitedMembers, lookup, Ne.symm owner, Ne.symm spender, Ne.symm amount,
        Ne.symm nonce, Ne.symm deadline]

/-- With `allowed` added and the digest as it was, an unlimited permit is taken for a
revocation. -/
theorem allowed_hides_permit :
    MessageExtras unlimitedPermit (dressedPermit "allowed" (.bool false)) ∧
      (permitDigest unlimitedPermit).isSome = true ∧
      ¬@ClassificationKept Utf8.asciiCaseTable _ permitDigest unlimitedPermit
        (dressedPermit "allowed" (.bool false)) := by
  refine ⟨dressedPermit_extras (by decide) _, by decide, ?_⟩
  intro kept
  have same := kept (by decide)
  revert same
  decide

/-- With `memo` added, it is taken for what it was. -/
theorem memo_kept_iff :
    @ClassificationKept Utf8.asciiCaseTable _ permitDigest unlimitedPermit
        (dressedPermit "memo" (.string "hello")) ↔
      @ExtrasUnread Utf8.asciiCaseTable (primaryTypeOf unlimitedPermit)
        (objectOrEmpty unlimitedPermit "message")
        (objectOrEmpty (dressedPermit "memo" (.string "hello")) "message") :=
  @classification_kept_iff Utf8.asciiCaseTable _ permitDigest _ _
    (dressedPermit_extras (by decide) _) (by decide)

end VelaWallet.ApprovalGuard
