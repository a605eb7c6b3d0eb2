import SeekTalent.RuntimeControl.LifecycleCommands

/-!
# The executor of a claimed run

The program an executor runs for a run it has claimed (`seektalent_runtime_control/executor.py`),
with the worker that starts it (`seektalent_runtime_control/worker.py`).  The workflow itself is a
program over the executor's callbacks and is a parameter: whatever it does, it reaches the store
through these callbacks only, and it ends by returning, by waiting for the browser lane or by
raising.
-/

namespace SeekTalent.RuntimeControl

open Foundation

/-- The result of a program as a value instead of an exception. -/
def ControlProgram.attempt {α : Type} (program : ControlProgram α) :
    ControlProgram (Except Raised α) :=
  ExceptT.mk (program.run >>= fun result => pure (.ok result))

/-- The id an event draws and the time it is stamped with. -/
structure Draw where
  eventId : String
  now : Nat

/-- What the executor of a claimed run knows: whose lease it works under, what a resumed run goes
back to, and what its own events draw. -/
structure Execution where
  runtimeRunId : String
  executorId : String
  attemptNo : Nat
  leaseId : String
  roundNo : Option Nat
  resumes : Option CheckpointReading
  resumesAfterFinalization : Bool
  draw : Nat → Draw
  lifecycle : CommandDraws

/-- The executor as the store's calls name it. -/
def Execution.ref (x : Execution) : ExecutorRef where
  executorId := x.executorId
  attemptNo := some x.attemptNo

/-- `append_executor_event` with a status the run is moved to. -/
def Execution.append (x : Execution) (event : SubmittedEvent) (write : RunWrite) :
    ControlProgram Unit := do
  let _ ← perform (.appendExecutorEvent x.ref event write)
  pure ()

/-- `release_executor_lease`. -/
def Execution.release (x : Execution) (releasedAt : Nat) (release : LeaseRelease)
    (reasonCode : Option String) : ControlProgram Unit := do
  let _ ← perform (.releaseExecutorLease x.ref releasedAt release reasonCode)
  pure ()

/-- An event of the executor itself. -/
def Execution.event (x : Execution) (drawn : Nat) (eventType : EventType) (stage status : String)
    (payload : EventPayload := {}) (roundNo : Option Nat := none) : SubmittedEvent :=
  unkeyedEvent (x.draw drawn).eventId eventType stage status roundNo payload (x.draw drawn).now

/-- The callbacks of the workflow through which it reaches the store. -/
inductive Callback
  | started (d : Draw) (stage : String) (roundNo : Option Nat)
  | progress (event : SubmittedEvent)
  | checkpointWritten (checkpoint : CheckpointRow) (eventId : String)
  | lockRoundInput (event : SubmittedEvent)

/-- What a callback answers. -/
@[reducible] def Callback.Answer : Callback → Type :=
  fun _ => Except Raised Unit

/-- How the workflow ends. -/
inductive RuntimeExit
  | finished
  | browserLaneBusy
  | raised (error : Raised)
  deriving DecidableEq, Repr

/-- A workflow. -/
abbrev Workflow : Type :=
  Program Callback Callback.Answer RuntimeExit

/-- `lock_round_input`. -/
def lockRoundInput (x : Execution) (event : SubmittedEvent) : ControlProgram Unit :=
  if event.input.eventType = .roundInputLocked ∧ event.input.roundNo ≠ none ∧
      event.input.idempotencyKey ≠ none then
    x.append event { runStatus := some .running }
  else throw .valueError

/-- What each callback does: `runtime_start_callback`, `progress_callback`,
`runtime_checkpoint_callback` and the round lock of `runtime_round_boundary_callback`. -/
def Execution.callback (x : Execution) : Callback → ControlProgram Unit
  | .started d stage roundNo =>
    x.append (unkeyedEvent d.eventId .executorStarted stage "completed" roundNo
      { executorId := some x.executorId } d.now) { runStatus := some .running }
  | .progress event => x.append event { runStatus := some .running }
  | .checkpointWritten checkpoint eventId => do
    let _ ← perform (.writeCheckpoint x.ref checkpoint)
    x.append (unkeyedEvent eventId .checkpointWritten checkpoint.stage "completed"
      checkpoint.roundNo
      { checkpointId := some checkpoint.checkpointId } checkpoint.createdAt)
      { runStatus := some .running, latestCheckpointId := some checkpoint.checkpointId }
  | .lockRoundInput event => lockRoundInput x event

/-- The callback by which a workflow says that it has started. -/
def Callback.starts : Callback → Bool
  | .started _ _ _ => true
  | _ => false

/-- Run the workflow, and say how it ended and whether it had started. -/
def Execution.runWorkflow (x : Execution) :
    Workflow → Bool → ControlProgram (RuntimeExit × Bool)
  | .done exit, runtimeStarted => pure (exit, runtimeStarted)
  | .call callback next, runtimeStarted => do
    let answer ← (x.callback callback).attempt
    x.runWorkflow (next answer) (runtimeStarted || callback.starts)

/-- Compact the checkpoints of a finished run that has any. -/
def compactIfCheckpointed : ControlProgram Unit := do
  let run ← perform .getRun
  if run.latestCheckpointId ≠ none then
    let _ ← perform (.compactTerminalCheckpoints true)

/-- `_yield_for_browser_lane`. -/
def Execution.yieldForBrowserLane (x : Execution) : ControlProgram Unit := do
  x.append (x.event 2 .resourceWaiting "source" "pending"
    { reasonCode := some "liepin_browser_lane_busy" }) { runStatus := some .resumeRequested }
  x.release (x.draw 2).now .released (some "liepin_browser_lane_busy")

/-- `_settle_completed_run`. -/
def Execution.settleCompletedRun (x : Execution) : ControlProgram Unit := do
  x.append (x.event 3 .runCompleted "finalization" "completed")
    { runStatus := some .completed, completedAt := some (x.draw 3).now }
  x.release (x.draw 3).now .released none
  compactIfCheckpointed

/-- `_load_resume_checkpoint`: a resumed run goes back to its checkpoint, or fails without one. -/
def Execution.loadResumeCheckpoint (x : Execution) : ControlProgram Unit :=
  match x.resumes with
  | none => pure ()
  | some (.recoverable checkpoint) =>
    x.append (x.event 1 (.other "runtime_resumed") checkpoint.stage "completed"
      { checkpointId := some checkpoint.checkpointId } checkpoint.roundNo)
      { runStatus := some .running, latestCheckpointId := some checkpoint.checkpointId }
  | some .absent => fail "runtime_resume_checkpoint_missing" .runtimeResumeCheckpointMissing
  | some (.loadFailure _ reason) => fail reason.code (.runtimeCheckpointUnavailable reason.code)
where
  /-- The run fails for want of a checkpoint. -/
  fail (reasonCode : String) (raised : ReasonCode) : ControlProgram Unit := do
    x.append (x.event 1 (.other "runtime_resume_failed") "resume" "failed"
      { reasonCode := some reasonCode })
      { runStatus := some .failed
        stopReasonCode := some reasonCode
        completedAt := some (x.draw 1).now }
    x.release (x.draw 1).now .failed (some reasonCode)
    throw (.control raised)

/-- The event of an executor that gives way to the reconciliation of a source operation. -/
def Execution.reconciliationEvent (x : Execution) (roundNo : Option Nat) : SubmittedEvent where
  input := {
    eventId := .random (x.draw 4).eventId
    eventType := .sourceReconciliationRequired
    stage := "source_reconciliation"
    roundNo := roundNo
    status := "resume_requested"
    payload := { reasonCode := some "runtime_source_operation_unresolved" }
    idempotencyKey := some (.caller ("runtime-source-reconciliation-required:" ++ x.runtimeRunId ++
      ":" ++ toString x.attemptNo))
    createdAt := (x.draw 4).now }
  notDecision := by simp

/-- The failure of an execution, when no source operation needs reconciliation. -/
def Execution.failRun (x : Execution) (reasonCode : String) : ControlProgram Unit := do
  x.append (x.event 5 (.other reasonCode) "runtime" "failed" { reasonCode := some reasonCode })
    { runStatus := some .failed
      stopReasonCode := some reasonCode
      completedAt := some (x.draw 5).now }
  x.release (x.draw 5).now .failed (some reasonCode)
  compactIfCheckpointed

/-- The part of the error handler of `execute_claimed_run` that ends the execution: the run waits
for the reconciliation of its source operations, or it fails and the error is raised again. -/
def Execution.endFailedExecution (x : Execution) (error : Raised) (runtimeStarted : Bool) :
    ControlProgram Unit := do
  let unresolved ← perform .hasSourceOperationsRequiringReconciliation
  if unresolved then
    let run ← perform .getRun
    perform (.yieldForSourceReconciliation x.executorId x.attemptNo
      (x.reconciliationEvent run.currentRound))
  else do
    x.failRun (if runtimeStarted then "runtime_run_failed" else "runtime_executor_start_failed")
    throw error

/-- The one place where an executor applies a pending command: the workflow was refused a source
operation, and the run is about to stop. -/
def Execution.applyPendingCommand (x : Execution) (error : Raised) : ControlProgram Bool :=
  if error = .control .sourceOperationRunNotDispatchable then do
    let run ← perform .getRun
    if run.status = .cancellationRequested ∨ run.status = .pauseRequested then
      let applied ← applyLifecycleCommandAtSafeBoundary x.ref none x.lifecycle
      pure applied.isSome
    else pure false
  else pure false

/-- The handler of a `RuntimeError`, `ValueError` or `OSError` of the workflow. -/
def Execution.handleFailure (x : Execution) (error : Raised) (runtimeStarted : Bool) :
    ControlProgram Unit := do
  let applied ← x.applyPendingCommand error
  if applied then
    let _ ← perform .getRun
  else x.endFailedExecution error runtimeStarted

/-- What follows the workflow.  `sqlite3.IntegrityError` is none of the errors that are handled. -/
def Execution.afterWorkflow (x : Execution) (runtimeStarted : Bool) :
    RuntimeExit → ControlProgram Unit
  | .finished => x.settleCompletedRun
  | .browserLaneBusy => x.yieldForBrowserLane
  | .raised .integrityError => throw .integrityError
  | .raised error => x.handleFailure error runtimeStarted

/-- `execute_claimed_run` from the start event on. -/
def executeClaimedRun (x : Execution) (workflow : Workflow) : ControlProgram Unit := do
  let _ ← perform .getRun
  x.append (x.event 0 .executorStarting "startup" "pending" { executorId := some x.executorId })
    { runStatus := some .starting }
  x.loadResumeCheckpoint
  if x.resumesAfterFinalization then x.settleCompletedRun
  else do
    let (exit, runtimeStarted) ← x.runWorkflow workflow false
    x.afterWorkflow runtimeStarted exit

/-- The errors after which the executor has already failed the run
(`_executor_finalized_failure`). -/
def executorFinalizedFailure (error : Raised) : Bool :=
  match error with
  | .control .runtimeResumeCheckpointMissing => true
  | .control (.runtimeCheckpointUnavailable code) =>
    code ≠ CheckpointLoadReason.sourceOperationUnresolved.code
  | _ => false

/-- `_record_worker_failure`. -/
def Execution.recordWorkerFailure (x : Execution) (reasonCode : String) : ControlProgram Unit := do
  let event : SubmittedEvent := {
    input := {
      eventId := .random (x.draw 6).eventId
      eventType := .other reasonCode
      stage := "worker"
      roundNo := x.roundNo
      status := "failed"
      payload := {
        reasonCode := some reasonCode
        executorId := some x.executorId
        attemptNo := some x.attemptNo }
      idempotencyKey := some (.caller (reasonCode ++ ":" ++ x.leaseId))
      createdAt := (x.draw 6).now }
    notDecision := by simp }
  x.append event {
    runStatus := some .failed
    stopReasonCode := some reasonCode
    completedAt := some (x.draw 6).now }
  x.release (x.draw 6).now .failed (some reasonCode)

/-- `_executor_already_finalized_run`. -/
def executorAlreadyFinalizedRun : ControlProgram Bool := do
  let result ← (perform .getRun).attempt
  match result with
  | .error _ => pure false
  | .ok run => pure (run.status = .failed ∧
      run.stopReasonCode ∈ [some "runtime_run_failed", some "runtime_executor_start_failed"])

/-- The exception handler of `run_once`. -/
def Execution.workerFailed (x : Execution) (error : Raised) : ControlProgram Unit := do
  let finalized ← executorAlreadyFinalizedRun
  if executorFinalizedFailure error ∨ finalized then throw error
  else if error = .integrityError then throw error
  else do
    x.recordWorkerFailure "runtime_worker_failed"
    throw error

/-- `run_once` for a run that has been claimed. -/
def runClaimed (x : Execution) (workflow : Workflow) : ControlProgram Unit := do
  let result ← (executeClaimedRun x workflow).attempt
  match result with
  | .ok _ => pure ()
  | .error error => x.workerFailed error

/-! ## A run of one worker and one user -/

/-- A run as it is accepted. -/
def queuedRun : RunRow where
  runtimeRunId := "run"
  runIntentId := "intent"
  startIdempotencyKey := "start"
  approvedRequirementRevisionId := "approved"
  status := .queued
  currentStage := "queued"
  currentRound := none
  latestCheckpointId := none
  latestEventSeq := 0
  sourceIds := ["liepin"]
  stopReasonCode := none
  createdAt := 0
  updatedAt := 0
  completedAt := none
  stateRevision := 0
  productOutcome := none
  currentFailureId := none
  currentFailureRevision := none
  currentFailureOwnerLeaseId := none
  currentFailureAuthorityMode := none
  currentActionId := none

/-- The event of a run that is queued. -/
def runQueuedEvent : SubmittedEvent where
  input := {
    eventId := .random "queued"
    eventType := .runQueued
    stage := "queued"
    status := "queued"
    idempotencyKey := some (.runQueued "run")
    createdAt := 0 }
  notDecision := by simp

/-- The call that accepts it. -/
def acceptQueuedRun : ControlProgram RunRow :=
  perform (.acceptRun queuedRun
    runQueuedEvent
    { runtimeRunId := "run", status := .queued, currentStage := "queued", latestEventSeq := 0 })

/-- A worker claims it until the instant 100. -/
def claimQueuedRun : ControlProgram (Option LeaseRow) :=
  perform (.claimNextRunnableRun "worker" "lease" (.random "claimed") 1 100)

/-- The executor of the claimed run. -/
def firstExecution : Execution where
  runtimeRunId := "run"
  executorId := "worker"
  attemptNo := 1
  leaseId := "lease"
  roundNo := none
  resumes := none
  resumesAfterFinalization := false
  draw := fun n => { eventId := "executor-" ++ toString n, now := 2 + n }
  lifecycle := {
    commandId := "unused"
    eventId := fun n => "lifecycle-" ++ toString n
    now := fun _ => 9 }

/-- What a user's command draws. -/
def userDraws : CommandDraws where
  commandId := "command"
  eventId := fun n => "command-" ++ toString n
  now := fun n => 20 + n

/-- A call runs to its end: it is started, and it alone is advanced. -/
def callAlone {α : Type} (index transactions : Nat) (program : ControlProgram α) :
    List ControlChoice :=
  .start program.call :: List.replicate transactions (.advance index)

end SeekTalent.RuntimeControl
