import Mathlib.Data.List.Basic
import SeekTalent.Foundation.Checks

/-!
# The run state machine

The status of a runtime-control run, the errors its operations raise, the table of the transitions
the store admits (`seektalent_runtime_control/fsm.py`) and the check every status write goes
through.
-/

namespace SeekTalent.RuntimeControl

open Foundation

/-- The status of a run (`models.RunStatus`). -/
inductive RunStatus
  | queued
  | starting
  | running
  | pauseRequested
  | paused
  | resumeRequested
  | needsAttention
  | cancellationRequested
  | cancelled
  | completed
  | failed
  deriving DecidableEq, Repr

/-- The reason code of a `RuntimeControlError`, with the payload of the transition error. -/
inductive ReasonCode
  | runtimeRunNotFound
  | runtimeRunInvalidTransition (currentStatus targetStatus : RunStatus)
  | runtimeRunInitialCanonicalTruthForbidden
  | runtimeRunAcceptanceInvalid
  | runtimeRunAcceptanceIncomplete
  | runtimeRunStartIdempotencyConflict
  | runtimeRunNotRunning
  | runtimeRunNotPaused
  | runtimeCommandConflict
  | runtimeCommandNotFound
  | runtimeEventPayloadTooLarge
  | runtimeExecutorStale
  | runtimeExecutorLeaseExpired
  | runtimeExecutorLeaseActive
  | runtimeSourceReconciliationEventInvalid
  | runtimeSourceOperationUnresolvedEvidenceMissing
  | runtimeSourceOperationUnresolved
  | runtimeRecoveryAttentionConflict
  | runtimeRecoveryAttentionNotActive
  | runtimeCheckpointRequirementRevisionMismatch
  | sourceOperationRunNotDispatchable
  | failedOutcomeTerminalImmutable
  | failedOutcomeCancellationWon
  | failedOutcomeRevisionConflict
  | failedOutcomeAuthorityRejected
  | failedOutcomeAuthorityExpired
  | failedOutcomeEnvelopeMismatch
  | failedOutcomeReplayConflict
  | failedOutcomeIntegrityFailed
  | needsAttentionIntegrityFailed
  | needsAttentionReplayConflict
  | needsAttentionCancellationWon
  | needsAttentionTerminalImmutable
  | needsAttentionRevisionConflict
  | needsAttentionTruthConflict
  | needsAttentionAuthorityRejected
  | needsAttentionCheckpointMismatch
  | needsAttentionAdmissionMismatch
  | needsAttentionSatisfactionMismatch
  | needsAttentionResolutionConflict
  | runtimeCheckpointReplayConflict
  | runtimeCheckpointRecoveryAuthorityRejected
  | runtimeCheckpointCompactionRunNotTerminal
  | runtimeCheckpointCompactionSourceMissing
  | runtimeCheckpointCompactionEvidenceMissing
  | runtimeResumeCheckpointMissing
  | runtimeCheckpointUnavailable (code : String)
  deriving DecidableEq, Repr

/-- What an operation raises: a `RuntimeControlError`, which is a `RuntimeError`; a `ValueError`;
or `sqlite3.IntegrityError`, which is neither. -/
inductive Raised
  | control (reason : ReasonCode)
  | valueError
  | integrityError
  deriving DecidableEq, Repr

/-- The statuses a run never leaves (`TERMINAL_RUN_STATUSES`). -/
def terminalRunStatuses : List RunStatus :=
  [.cancelled, .completed, .failed]

/-- The statuses each status may be followed by (`_ALLOWED_TRANSITIONS`). -/
def allowedTransitions : RunStatus → List RunStatus
  | .queued => [.queued, .starting, .cancellationRequested, .cancelled, .failed]
  | .starting =>
    [.starting, .running, .needsAttention, .cancellationRequested, .cancelled, .failed]
  | .running =>
    [.running, .pauseRequested, .paused, .resumeRequested, .needsAttention,
      .cancellationRequested, .cancelled, .completed, .failed]
  | .pauseRequested =>
    [.pauseRequested, .paused, .needsAttention, .cancellationRequested, .cancelled, .failed]
  | .paused => [.paused, .resumeRequested, .cancellationRequested, .cancelled, .failed]
  | .resumeRequested =>
    [.resumeRequested, .starting, .running, .pauseRequested, .needsAttention,
      .cancellationRequested, .cancelled, .failed]
  | .needsAttention => [.needsAttention, .resumeRequested, .cancelled, .failed]
  | .cancellationRequested => [.cancellationRequested, .cancelled, .failed]
  | .cancelled => [.cancelled]
  | .completed => [.completed]
  | .failed => [.failed]

/-- Refuse a status write the table does not allow (`require_run_transition`). -/
def requireRunTransition (currentStatus targetStatus : RunStatus) : Except Raised Unit :=
  require (targetStatus ∈ allowedTransitions currentStatus)
    (.control (.runtimeRunInvalidTransition currentStatus targetStatus))

/-- A status write is admitted exactly when the table allows it. -/
@[simp] theorem requireRunTransition_eq_ok {currentStatus targetStatus : RunStatus} {u : Unit} :
    requireRunTransition currentStatus targetStatus = .ok u ↔
      targetStatus ∈ allowedTransitions currentStatus := by
  simp [requireRunTransition]

/-- Every status may be written over itself. -/
theorem self_mem_allowedTransitions (status : RunStatus) :
    status ∈ allowedTransitions status := by
  cases status <;> decide

end SeekTalent.RuntimeControl
