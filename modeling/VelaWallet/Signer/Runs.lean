import VelaWallet.Signer.Feeding

/-!
# Runs of a connection

What reaches a connection, in any order: bytes in pieces, and the shell's calls.
-/

namespace VelaWallet.TrustedSigner

open Json (Value)

inductive Move where
  | bytes (arrived : List UInt8)
  | send (id : String) (request : Value)
  | finish
  | closed

/-- A place of a stream: one byte, or a call. -/
inductive Item where
  | byte (byte : UInt8)
  | send (id : String) (request : Value)
  | finish
  | closed

/-- The stream that a list of moves is one way to cut. -/
def stream : List Move → List Item
  | [] => []
  | .bytes arrived :: moves => arrived.map .byte ++ stream moves
  | .send id request :: moves => .send id request :: stream moves
  | .finish :: moves => .finish :: stream moves
  | .closed :: moves => .closed :: stream moves

/-- What a shell sees of a run: the bytes written, whether to close, the outcomes. -/
structure Observed where
  write : List UInt8 := []
  close : Bool := false
  outcomes : List (Except TrustedSignerError Value) := []

def Observed.then (first second : Observed) : Observed where
  write := first.write ++ second.write
  close := first.close || second.close
  outcomes := first.outcomes ++ second.outcomes

def Step.observed (step : Step) : Observed where
  write := step.write
  close := step.close
  outcomes := step.outcome.toList

@[simp] theorem Observed.empty_then (seen : Observed) : ({} : Observed).then seen = seen := by
  simp [Observed.then]

theorem Observed.then_assoc (first second third : Observed) :
    (first.then second).then third = first.then (second.then third) := by
  simp [Observed.then, Bool.or_assoc, List.append_assoc]

theorem Step.then_observed {first second : Step}
    (once : first.outcome.isSome = true → second.outcome = none) :
    (first.then second).observed = first.observed.then second.observed := by
  cases told : first.outcome with
  | none => simp [Step.observed, Observed.then, Step.then, told]
  | some =>
    have quiet := once (by rw [told]; rfl)
    simp [Step.observed, Observed.then, Step.then, told, quiet]

namespace Connection

variable [SignerRuntime] {connection : Connection}

/-- One move of the shell or the socket. -/
def move (connection : Connection) : Move → Connection × Step
  | .bytes arrived => connection.feed arrived
  | .send id request => connection.send id request
  | .finish => connection.finish
  | .closed => (connection.closed.1, { outcome := connection.closed.2.map .error })

def run (connection : Connection) : List Move → Connection × Observed
  | [] => (connection, {})
  | move :: moves =>
    let step := connection.move move
    let rest := step.1.run moves
    (rest.1, step.2.observed.then rest.2)

theorem run_append (connection : Connection) (first second : List Move) :
    connection.run (first ++ second) =
      (((connection.run first).1.run second).1,
        (connection.run first).2.then ((connection.run first).1.run second).2) := by
  induction first generalizing connection with
  | nil => simp [run]
  | cons _ _ ih => simp [run, ih, Observed.then_assoc]

end Connection

end VelaWallet.TrustedSigner
