import VelaWallet.Base.Machine
import VelaWallet.Sign.Answers

/-!
# The signing machine

Every event of the signing machine (`sign_request.rs`), and its runs.  An update that
stops at a slice inside a character ends the run.
-/

namespace VelaWallet.SignRequest

open Send (InFlightOp)
open Utf8 (SlicePanic)

/-- The `TransportDropped` event: the request of the transport leaves the sheet, and a
pipeline nobody waits for stops before its passkey. -/
def transportDropped (transportId : String) (model : Model) : Model × Cmd :=
  let leaves := model.pending.any fun pending =>
    !(pending.dedicatedTransport && pending.transportId != transportId)
  let sheet := if leaves then model.clearSheet else model
  let gone := { sheet with inflight := sheet.inflight.map fun fl =>
    if fl.transportId = transportId then { fl with pageGone := true } else fl }
  let askerGone := gone.inflight.any fun fl =>
    fl.transportId == transportId || (leaves && model.inflightMatchesPending)
  render (if askerGone then stopPresubmitInflight gone else gone)

section Machine

variable [SignRuntime]

def update (event : Event) (model : Model) : Outcome :=
  match event with
  | .inFlightOps ops =>
    if model.inFlight = ops then .ok (done model)
    else .ok (render { model with inFlight := ops })
  | .networksChanged chainIds => .ok (render { model with supportedChains := chainIds })
  | .accountsChanged accounts activeIndex => .ok (render { model with accounts, activeIndex })
  | .requestArrived arrival => onRequestArrived arrival model
  | .chainSwitchRequested id transportId chainIdParam =>
    .ok (onChainSwitch id transportId chainIdParam model)
  | .approveTapped opts => approveTapped opts model
  | .rejectTapped => .ok (reject model)
  | .dismissTapped => .ok (dismiss model)
  | .retryTapped => .ok (retry model)
  | .swipeDismissed => .ok (swipeDismissed model)
  | .fundingCompleteTapped => fundingComplete model
  | .fundingCancelled => .ok (fundingCancel model)
  | .opSubmitted id userOpHash nowMs maybeSent submitBlock =>
    .ok (onOpSubmitted id userOpHash nowMs maybeSent submitBlock model)
  | .opSigned id userOpHash submitBlock nowMs =>
    .ok (onOpSigned id userOpHash submitBlock nowMs model)
  | .opTracked userOpHash status txHash refusal =>
    .ok (onOpTracked userOpHash status txHash refusal model)
  | .ceremonyStarted id => .ok (onCeremony id .up model)
  | .ceremonyDone id => .ok (onCeremony id .done model)
  | .simStarted id => .ok (onSimStarted id model)
  | .simSettled id => .ok (onSimSettled id model)
  | .transportDropped transportId => .ok (transportDropped transportId model)
  | .shellCompleted attempt result => shellCompleted attempt result model

/-- The operations of a command, with the attempts they are issued under. -/
def issuedBy (cmd : Cmd) : List (Nat × SignOperation) :=
  cmd.filterMap fun
    | .render => none
    | .shell attempt operation => some (attempt, operation)

end Machine

end VelaWallet.SignRequest
