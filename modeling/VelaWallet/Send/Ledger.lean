import VelaWallet.Send.SlotSoundness

/-!
# The ledger of a run

What happened to the operations of a run: who handed them out, who reported a
signature, who was answered, cancelled and cleared.  The machine keeps no such
ledger; it is written down beside it.
-/

namespace VelaWallet.Send

variable {cmd : Cmd} {model : Model} {result : Model × Cmd} {slot : Option Nat}
  {effect : SendEffect}

/-- An event, and the submit that a report of a signature comes from. -/
structure Input where
  event : Event
  reporter : Nat := 0

/-- An event that is no report of a signature. -/
def Input.unsigned (event : Event) : Input := { event }

/-- The submit an answer is the verdict on. -/
def Event.verdict : Event → Option Nat
  | shellCompleted id (.submitted ..) | shellCompleted id (.submitFailed _) => some id
  | _ => none

/-- The hash a report names. -/
def Event.signature : Event → Option String
  | opSigned userOpHash _ _ => some userOpHash
  | _ => none

/-- The operation an effect hands out, under its request number. -/
def SendEffect.handed : SendEffect → Option (Nat × SubmitRequest)
  | request id (.submitUserOp operation) => some (id, operation)
  | _ => none

/-- The number of a request to write records. -/
def SendEffect.persists : SendEffect → Option Nat
  | request id (.persistTxRecords _) => some id
  | _ => none

/-- The operations of a run so far: those handed out, those answered, the hashes
reported as signed, those out at a cancel, the write-aheads with the submit and the
hash they are of, and the submit in the slot at each clearing. -/
structure Ledger where
  submits : List (Nat × SubmitRequest) := []
  answered : List Nat := []
  reported : List (Nat × String) := []
  cancelled : List Nat := []
  written : List (Nat × Nat × String) := []
  cleared : List (Option Nat) := []

namespace Ledger

/-- The submit went out and is not answered yet. -/
def owes (ledger : Ledger) (id : Nat) : Bool :=
  ledger.submits.any (·.1 == id) && !ledger.answered.contains id

def owed (ledger : Ledger) : List Nat := (ledger.submits.map (·.1)).filter ledger.owes

def after (ledger : Ledger) (input : Input) (slot : Option Nat) (cmd : Cmd) : Ledger where
  submits := cmd.filterMap SendEffect.handed ++ ledger.submits
  answered := input.event.verdict.toList ++ ledger.answered
  reported := (input.event.signature.map fun hash => (input.reporter, hash)).toList ++
    ledger.reported
  cancelled := if cmd.any SendEffect.cancels then ledger.owed ++ ledger.cancelled
    else ledger.cancelled
  written := (match input.event.signature with
    | some hash => (cmd.filterMap SendEffect.persists).map fun id => (id, input.reporter, hash)
    | none => []) ++ ledger.written
  cleared := (cmd.filterMap SendEffect.cleared).map (fun _ => slot) ++ ledger.cleared

end Ledger

/-- A model with the ledger of the run it is in. -/
structure World where
  model : Model := {}
  ledger : Ledger := {}

/-- Each submit reports one signature at most, while it is out, and is answered
once. -/
def possible (input : Input) (world : World) : Bool :=
  input.event.verdict.all world.ledger.owes &&
    (input.event.signature.isNone ||
      (world.ledger.owes input.reporter &&
        !(world.ledger.reported.map (·.1)).contains input.reporter))

def journal [Runtime] : Machine World Input SendEffect where
  init := {}
  step input world :=
    (⟨(machine.step input.event world.model).1,
      world.ledger.after input world.model.pipeline.submitId
        (machine.step input.event world.model).2⟩,
      (machine.step input.event world.model).2)

theorem filterMap_eq_nil_of_all {Entry : Type} {holds : SendEffect → Bool}
    {read : SendEffect → Option Entry} (all : cmd.all holds = true)
    (nothing : ∀ effect, holds effect = true → read effect = none) : cmd.filterMap read = [] := by
  rw [List.filterMap_eq_nil_iff]
  intro effect inside
  exact nothing effect (List.all_eq_true.mp all effect inside)

theorem SendEffect.handed_of_silent (silent : effect.sendsNothing = true) :
    effect.handed = none := by
  cases effect with
  | render => rfl
  | request _ operation => cases operation <;> first | rfl | cases silent

theorem SendEffect.cleared_of_silent (silent : effect.sendsNothing = true) :
    effect.cleared = none := by
  cases effect with
  | render => rfl
  | request _ operation => cases operation <;> first | rfl | cases silent

theorem SendEffect.cancels_of_quiet (quiet : effect.isQuiet = true) :
    effect.cancels = false := by
  cases effect with
  | render => rfl
  | request _ operation => cases operation <;> first | rfl | cases quiet

theorem Event.verdict_of_plain {event : Event} (plain : event.isVerdict = false) :
    event.verdict = none := by
  cases event with
  | shellCompleted _ answer => cases answer <;> first | rfl | cases plain
  | _ => rfl

theorem Event.signature_of_plain {event : Event} (plain : event.isVerdict = false) :
    event.signature = none := by
  cases event with
  | opSigned => cases plain
  | _ => rfl

variable {ledger : Ledger}

variable {input : Input}

theorem Ledger.after_quiet
    (plain : input.event.isVerdict = false) (quiet : cmd.all SendEffect.isQuiet = true) :
    ledger.after input slot cmd = ledger := by
  have silent := sendsNothing_of_quiet quiet
  have handed := filterMap_eq_nil_of_all silent fun _ => SendEffect.handed_of_silent
  have cleared := filterMap_eq_nil_of_all silent fun _ => SendEffect.cleared_of_silent
  have cancels : cmd.any SendEffect.cancels = false := by
    rw [List.any_eq_false]
    intro effect inside
    rw [SendEffect.cancels_of_quiet (List.all_eq_true.mp quiet effect inside)]
    exact Bool.false_ne_true
  simp only [after, handed, cleared, cancels, Event.verdict_of_plain plain,
    Event.signature_of_plain plain]
  rfl

theorem Ledger.after_calm
    (unsigned : input.event.signature = none) (calm : cmd.all SendEffect.isCalm = true) :
    ledger.after input slot cmd =
      { ledger with answered := input.event.verdict.toList ++ ledger.answered } := by
  have silent := sendsNothing_of_calm calm
  have handed := filterMap_eq_nil_of_all silent fun _ => SendEffect.handed_of_silent
  have cleared := filterMap_eq_nil_of_all silent fun _ => SendEffect.cleared_of_silent
  simp only [after, handed, cleared, cancels_of_calm calm, unsigned]
  rfl

theorem Ledger.after_submits [Runtime] (submits : Submits input.event model result) :
    ledger.after input slot result.2 = { ledger with submits :=
      (model.nextId, submitRequest submits.plan submits.review submits.publicKeyHex) ::
        ledger.submits } := by
  have handed := congrArg Prod.snd submits.handed
  simp only [after, handed, submits.answered]
  rfl

theorem Ledger.after_signs [Runtime]
    {userOpHash : String} {submitBlock : Option UInt64} {nowMs : Float}
    (named : input.event = .opSigned userOpHash submitBlock nowMs)
    (signs : Signs userOpHash submitBlock nowMs model result) :
    ledger.after input slot result.2 = { ledger with
      reported := (input.reporter, userOpHash) :: ledger.reported
      written := (model.nextId, input.reporter, userOpHash) :: ledger.written } := by
  rw [signs.effects]
  simp only [after, named]
  rfl

theorem Ledger.after_report {userOpHash : String} {submitBlock : Option UInt64} {nowMs : Float}
    (named : input.event = .opSigned userOpHash submitBlock nowMs) :
    ledger.after input slot [] =
      { ledger with reported := (input.reporter, userOpHash) :: ledger.reported } := by
  simp only [after, named]
  rfl

theorem Ledger.after_cancels (named : input.event = .cancelSigning)
    (cancels : Cancels model result) :
    ledger.after input slot result.2 =
      { ledger with cancelled := ledger.owed ++ ledger.cancelled } := by
  rw [cancels.effects]
  simp only [after, named]
  rfl

theorem Ledger.after_acknowledges {recordsId : Nat}
    (named : input.event = .shellCompleted recordsId .recordsPersisted)
    (acknowledges : Acknowledges recordsId model result) :
    ledger.after input slot result.2 =
      if acknowledges.ctx.writeAhead then { ledger with cleared := slot :: ledger.cleared }
      else ledger := by
  rw [acknowledges.effects]
  simp only [after, named]
  cases acknowledges.ctx.writeAhead with
  | false => rfl
  | true => rfl

theorem mem_owed {id : Nat} : id ∈ ledger.owed ↔ ledger.owes id = true := by
  simp only [Ledger.owed, Ledger.owes, List.mem_filter, List.mem_map, List.any_eq_true,
    beq_iff_eq, Bool.and_eq_true, Bool.not_eq_true']
  constructor
  · exact fun both => both.2
  · exact fun owes => ⟨owes.1, owes⟩

end VelaWallet.Send
