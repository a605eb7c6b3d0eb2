import SeekTalent.RuntimeControl.Transactions

/-!
# The lifecycle commands of a run

The calls of `RuntimeCommandService` (`seektalent_runtime_control/commands.py`) by which a user
pauses, cancels and resumes a run, and the call by which an executor applies a pending command. 
Each call is a program over the transactions of the store: what it read may have changed by the time
it writes.

The ids a call draws and the clock it reads are inputs of the call.
-/

namespace SeekTalent.RuntimeControl

open Foundation

/-- A program that uses the store and may raise. -/
abbrev ControlProgram (α : Type) : Type :=
  ExceptT Raised (Program Transaction Transaction.Answer) α

/-- The program that performs one transaction and raises what the transaction raises. -/
def perform (q : Transaction) : ControlProgram q.Value :=
  ExceptT.mk (Program.perform q)

/-- Run a program and forget what it returns. -/
def ControlProgram.call {α : Type} (program : ControlProgram α) :
    Program Transaction Transaction.Answer (Except Raised Unit) :=
  (program >>= fun _ => pure ()).run

/-- An event without an idempotency key, as the command service and the executor build them. -/
def unkeyedEvent (eventId : String) (eventType : EventType) (stage status : String)
    (roundNo : Option Nat) (payload : EventPayload) (createdAt : Nat) : SubmittedEvent where
  input := {
    eventId := .random eventId
    eventType := eventType
    stage := stage
    roundNo := roundNo
    status := status
    payload := payload
    createdAt := createdAt }
  notDecision := by simp

/-- What a command call draws: the id of its command, the ids of its events and the clock readings
they are stamped with, in the order the call asks for them. -/
structure CommandDraws where
  commandId : String
  eventId : Nat → String
  now : Nat → Nat

/-- `_append_command_event`: the event of a command, at the position of the run row that was
read. -/
def appendCommandEvent (run : RunRow) (eventType : EventType) (eventId : String) (createdAt : Nat) :
    ControlProgram EventRow :=
  perform (.appendEvent
    (unkeyedEvent eventId eventType run.currentStage "completed" run.currentRound {} createdAt))

/-- `_save_lifecycle_command`. -/
def saveLifecycleCommand (run : RunRow) (commandType : CommandType) (requestedBy : Option String)
    (idempotencyKey commandId : String) (requestedAt : Nat) : ControlProgram CommandRow :=
  perform (.saveCommand {
    commandId := commandId
    commandType := commandType
    status := .accepted
    targetRoundNo := run.currentRound
    idempotencyKey := idempotencyKey
    requestedBy := requestedBy
    requestedAt := requestedAt
    appliedAt := none })

/-- `_reject_if_terminal_cancel_pending`. -/
def rejectIfTerminalCancelPending (commandType : CommandType) : ControlProgram Unit :=
  if commandType = .cancel then pure ()
  else do
    let pending ← perform .listPendingLifecycleCommands
    if pending.any (fun command => command.commandType = .cancel) then
      throw (.control .runtimeCommandConflict)
    else
      let run ← perform .getRun
      if run.status ∈ terminalRunStatuses ∨ run.status = .cancellationRequested then
        throw (.control .runtimeCommandConflict)
      else pure ()

/-- The part of `_request_lifecycle_command` that records a new command and moves the run. -/
def recordLifecycleCommand (run : RunRow) (commandType : CommandType) (requestedBy : Option String)
    (idempotencyKey : String) (requestedRunStatus : RunStatus) (d : CommandDraws) :
    ControlProgram CommandRow := do
  let pending ← perform .listPendingLifecycleCommands
  if pending.any (fun command => command.commandType ≠ commandType) then
    throw (.control .runtimeCommandConflict)
  else
    let requestedAt := d.now 0
    let command ← saveLifecycleCommand run commandType requestedBy idempotencyKey d.commandId
      requestedAt
    let _ ← perform (.updateRunStatus { status := requestedRunStatus, updatedAt := requestedAt })
    let moved ← perform .getRun
    let _ ← appendCommandEvent moved .commandAccepted (d.eventId 0) requestedAt
    pure command

/-- `_request_lifecycle_command`: a repeated request returns the command it made, a new one needs
the run to be in one of the allowed statuses. -/
def requestLifecycleCommand (commandType : CommandType) (requestedBy : Option String)
    (idempotencyKey : String) (allowedRunStatuses : List RunStatus) (requestedRunStatus : RunStatus)
    (invalidReasonCode : ReasonCode) (d : CommandDraws) : ControlProgram CommandRow := do
  let existing ← perform (.getCommandByIdempotency idempotencyKey)
  match existing with
  | some command => pure command
  | none =>
    let run ← perform .getRun
    rejectIfTerminalCancelPending commandType
    let pending ← perform .listPendingLifecycleCommands
    match pending.find? (fun command => command.commandType = commandType) with
    | some duplicate => pure duplicate
    | none =>
      if run.status ∈ allowedRunStatuses then
        recordLifecycleCommand run commandType requestedBy idempotencyKey requestedRunStatus d
      else throw (.control invalidReasonCode)

/-- `request_pause`. -/
def requestPause (requestedBy : Option String) (idempotencyKey : String) (d : CommandDraws) :
    ControlProgram CommandRow :=
  requestLifecycleCommand .pause requestedBy idempotencyKey [.running, .resumeRequested]
    .pauseRequested .runtimeRunNotRunning d

/-- `resume_workflow`. -/
def resumeWorkflow (requestedBy : Option String) (idempotencyKey : String) (d : CommandDraws) :
    ControlProgram CommandRow :=
  requestLifecycleCommand .resume requestedBy idempotencyKey [.paused] .resumeRequested
    .runtimeRunNotPaused d

/-- The loop of `request_cancel` over the pending commands: each is superseded, with an event. -/
def supersedeCommands (run : RunRow) (d : CommandDraws) :
    List CommandRow → Nat → ControlProgram Nat
  | [], drawn => pure drawn
  | command :: rest, drawn =>
    if command.commandType = .pause ∨ command.commandType = .resume then do
      let _ ← perform (.updateCommandStatus command.commandId .superseded none)
      let _ ← appendCommandEvent run .commandSuperseded (d.eventId drawn) (d.now drawn)
      supersedeCommands run d rest (drawn + 1)
    else supersedeCommands run d rest drawn

/-- A cancellation of a run that nobody executes takes effect at once. -/
def cancelIdleRun (command : CommandRow) (d : CommandDraws) (drawn : Nat) :
    ControlProgram CommandRow := do
  let _ ← perform (.updateCommandStatus command.commandId .applied (some command.requestedAt))
  let _ ← perform (.updateRunStatus {
    status := .cancelled
    updatedAt := command.requestedAt
    completedAt := some command.requestedAt })
  let applied ← perform (.getCommand command.commandId)
  let accepted ← perform .getRun
  let _ ← appendCommandEvent accepted .commandAccepted (d.eventId drawn) command.requestedAt
  let cancelled ← perform .getRun
  let _ ← appendCommandEvent cancelled .runCancelled (d.eventId (drawn + 1)) command.requestedAt
  pure applied

/-- A cancellation of a run that somebody may execute is requested. -/
def cancelOwnedRun (command : CommandRow) (d : CommandDraws) (drawn : Nat) :
    ControlProgram CommandRow := do
  let _ ← perform (.updateRunStatus {
    status := .cancellationRequested
    updatedAt := command.requestedAt })
  let requested ← perform .getRun
  let _ ← appendCommandEvent requested .commandAccepted (d.eventId drawn) command.requestedAt
  pure command

/-- The part of `request_cancel` that records a new command. -/
def recordCancelCommand (run : RunRow) (requestedBy : Option String) (idempotencyKey : String)
    (d : CommandDraws) : ControlProgram CommandRow := do
  let pending ← perform .listPendingLifecycleCommands
  let drawn ← supersedeCommands run d pending 0
  let command ← saveLifecycleCommand run .cancel requestedBy idempotencyKey d.commandId
    (d.now drawn)
  if run.status = .queued ∨ run.status = .paused then cancelIdleRun command d drawn
  else cancelOwnedRun command d drawn

/-- `request_cancel`. -/
def requestCancel (requestedBy : Option String) (idempotencyKey : String) (d : CommandDraws) :
    ControlProgram CommandRow := do
  let existing ← perform (.getCommandByIdempotency idempotencyKey)
  match existing with
  | some command => pure command
  | none =>
    let run ← perform .getRun
    if run.status ∈ terminalRunStatuses then throw (.control .runtimeCommandConflict)
    else
      rejectIfTerminalCancelPending .cancel
      recordCancelCommand run requestedBy idempotencyKey d

/-- `_next_lifecycle_command`: cancel goes before pause, pause before resume. -/
def nextLifecycleCommand (pending : List CommandRow) : Option CommandRow :=
  [CommandType.cancel, .pause, .resume].findSome? fun commandType =>
    pending.find? (fun command => command.commandType = commandType)

/-- `_applied_run_status`. -/
def appliedRunStatus : CommandType → RunStatus
  | .pause => .paused
  | .cancel => .cancelled
  | .resume => .running

/-- The text of a run status that a reason code ends in. -/
def appliedReasonCode : CommandType → String
  | .pause => "runtime_run_paused"
  | .cancel => "runtime_run_cancelled"
  | .resume => "runtime_run_running"

/-- The end of a pause or a cancellation: the run's own event, and the lease is given up. -/
def stopAtSafeBoundary (command : CommandRow) (executor : ExecutorRef) (roundNo : Option Nat)
    (eventId : String) (appliedAt : Nat) : ControlProgram Unit := do
  let stopped := unkeyedEvent eventId
    (if command.commandType = .pause then .runPaused else .runCancelled) "command" "completed"
    roundNo {} appliedAt
  let _ ← perform (.appendExecutorEvent executor stopped {
    runStatus := some (appliedRunStatus command.commandType)
    completedAt := if command.commandType = .cancel then some appliedAt else none })
  let _ ← perform (.releaseExecutorLease executor appliedAt .released
    (some (appliedReasonCode command.commandType)))
  pure ()

/-- The part of `apply_lifecycle_command_at_safe_boundary` that applies the command. -/
def applyLifecycleCommand (command : CommandRow) (executor : ExecutorRef)
    (checkpoint : Option CheckpointRow) (d : CommandDraws) : ControlProgram CommandRow := do
  let appliedAt := d.now 0
  let stops := command.commandType = .pause ∨ command.commandType = .cancel
  match checkpoint with
  | some row => if stops then let _ ← perform (.writeCheckpoint executor row)
  | none => pure ()
  let _ ← perform (.updateCommandStatus command.commandId .applied (some appliedAt))
  let roundNo := checkpoint.bind (·.roundNo)
  let applied :=
    unkeyedEvent (d.eventId 0) .commandApplied "command" "completed" roundNo {} appliedAt
  let _ ← perform (.appendExecutorEvent executor applied {
    runStatus := some (appliedRunStatus command.commandType)
    latestCheckpointId := checkpoint.map (·.checkpointId) })
  if stops then stopAtSafeBoundary command executor roundNo (d.eventId 1) appliedAt
  perform (.getCommand command.commandId)

/-- `apply_lifecycle_command_at_safe_boundary`. -/
def applyLifecycleCommandAtSafeBoundary (executor : ExecutorRef) (checkpoint : Option CheckpointRow)
    (d : CommandDraws) : ControlProgram (Option CommandRow) := do
  let pending ← perform .listPendingLifecycleCommands
  match nextLifecycleCommand pending with
  | none => pure none
  | some command =>
    let applied ← applyLifecycleCommand command executor checkpoint d
    pure (some applied)

end SeekTalent.RuntimeControl
