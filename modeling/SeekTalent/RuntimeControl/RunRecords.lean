import Mathlib.Data.List.Sort
import SeekTalent.RuntimeControl.Fsm
import SeekTalent.RuntimeControl.SourceOperationRecords

/-!
# The rows of one run

The tables of the runtime-control store (`seektalent_runtime_control/store.py`, `_create_schema`)
restricted to one run: its run row, executor leases, events, lifecycle commands, checkpoints,
failure envelopes and source operations, with the lookups the operations share.  Every operation of
the store names one run, or treats the runs of a batch one by one, so the rows of a run are all it
reads and writes.

Timestamps are instants (`Nat`): the store writes one ISO format with a fixed number of digits, so
comparing the texts is comparing the instants.  Columns that no modelled operation reads (summaries,
visibility, projection counters, workbench links) are left out.
-/

namespace SeekTalent.RuntimeControl

open Foundation

/-- `ProductOutcome`. -/
inductive ProductOutcome
  | succeededWithResults
  | succeededEmpty
  | degradedWithResults
  | needsAttention
  | failed
  | cancelled
  deriving DecidableEq, Repr

/-- `current_failure_authority_mode`. -/
inductive AuthorityMode
  | noOwner
  | activeOwner
  deriving DecidableEq, Repr

/-- A row of `runtime_control_runs`. -/
structure RunRow where
  runtimeRunId : String
  runIntentId : String
  startIdempotencyKey : String
  approvedRequirementRevisionId : String
  status : RunStatus
  currentStage : String
  currentRound : Option Nat
  latestCheckpointId : Option String
  latestEventSeq : Nat
  sourceIds : List String
  stopReasonCode : Option String
  createdAt : Nat
  updatedAt : Nat
  completedAt : Option Nat
  stateRevision : Nat
  productOutcome : Option ProductOutcome
  currentFailureId : Option String
  currentFailureRevision : Option Nat
  currentFailureOwnerLeaseId : Option String
  currentFailureAuthorityMode : Option AuthorityMode
  currentActionId : Option String
  deriving DecidableEq, Repr

/-- The status of an executor lease. -/
inductive LeaseStatus
  | active
  | released
  | revoked
  | expired
  | failed
  deriving DecidableEq, Repr

/-- A row of `runtime_control_executor_leases`. -/
structure LeaseRow where
  leaseId : String
  executorId : String
  attemptNo : Nat
  status : LeaseStatus
  acquiredAt : Nat
  heartbeatAt : Option Nat
  leaseExpiresAt : Nat
  releasedAt : Option Nat
  reasonCode : Option String
  deriving DecidableEq, Repr

/-- The event types the store itself writes or compares; every other type is `other`. -/
inductive EventType
  | runQueued
  | workerClaimed
  | executorStarting
  | executorStarted
  | executorLeaseExpired
  | executorCrashed
  | executorStartFailed
  | runPaused
  | runCancelled
  | runCompleted
  | checkpointRestoreFailed
  | checkpointRestored
  | checkpointWritten
  | sourceOperationNeedsReconciliation
  | sourceReconciliationRequired
  | resourceWaiting
  | roundInputLocked
  | commandAccepted
  | commandApplied
  | commandSuperseded
  | other (name : String)
  deriving DecidableEq, Repr

/-- The key that makes an event idempotent.  The first four are built by the store from a run id or
a lease id; a caller's own key is `caller`. -/
inductive EventKey
  | runQueued (runtimeRunId : String)
  | claim (leaseId : String)
  | recoveryExpired (leaseId : String)
  | recoveryDecision (leaseId : String)
  | caller (key : String)
  deriving DecidableEq, Repr

/-- The id of an event: drawn at random by its writer, or derived from the settled lease
(`_recovery_event_id`). -/
inductive EventId
  | random (id : String)
  | recovery (leaseId kind : String)
  deriving DecidableEq, Repr

/-- The fields of an event payload that recovery reads back, and the size of its JSON text. -/
structure EventPayload where
  leaseId : Option String := none
  executorId : Option String := none
  attemptNo : Option Nat := none
  reasonCode : Option String := none
  checkpointId : Option String := none
  sizeBytes : Nat := 0
  deriving DecidableEq, Repr

/-- A row of `runtime_control_events`. -/
structure EventRow where
  eventId : EventId
  eventSeq : Nat
  eventType : EventType
  stage : String
  roundNo : Option Nat
  status : String
  payload : EventPayload
  idempotencyKey : Option EventKey
  createdAt : Nat
  deriving DecidableEq, Repr

/-- `RuntimeControlEventInput`. -/
structure EventInput where
  eventId : EventId
  eventType : EventType
  stage : String
  roundNo : Option Nat := none
  status : String
  payload : EventPayload := {}
  idempotencyKey : Option EventKey := none
  createdAt : Nat
  deriving DecidableEq, Repr

/-- The lifecycle commands a user can ask for. -/
inductive CommandType
  | pause
  | cancel
  | resume
  deriving DecidableEq, Repr

/-- The status of a command. -/
inductive CommandStatus
  | accepted
  | pendingSafeBoundary
  | applied
  | superseded
  | rejected
  deriving DecidableEq, Repr

/-- A row of `runtime_control_commands` of the conflict group `lifecycle`. -/
structure CommandRow where
  commandId : String
  commandType : CommandType
  status : CommandStatus
  targetRoundNo : Option Nat
  idempotencyKey : String
  requestedBy : Option String
  requestedAt : Nat
  appliedAt : Option Nat
  deriving DecidableEq, Repr

/-- A row of `runtime_control_checkpoints`. -/
structure CheckpointRow where
  checkpointId : String
  stage : String
  roundNo : Option Nat
  safeBoundary : String
  createdAt : Nat
  isFinalManifest : Bool
  deriving DecidableEq, Repr

/-- A failure envelope: the fields the runtime-control store compares, and `body` for the rest of
its canonical bytes. -/
structure FailureEnvelope where
  failureId : String
  revision : Nat
  correlationId : Option String
  runId : String
  operationId : Option String
  attemptNo : Option Nat
  reasonCode : String
  currentOutcome : Option ProductOutcome
  occurredAt : Nat
  body : String
  deriving DecidableEq, Repr

/-- The status of a user action. -/
inductive UserActionStatus
  | pending
  | resolved
  | cancelled
  | failed
  deriving DecidableEq, Repr

/-- A row of `runtime_control_user_actions`: the columns that are compared with the run row, its
leases, envelopes and checkpoints, and those its exit writes. -/
structure UserActionRow where
  actionId : String
  status : UserActionStatus
  operationId : String
  checkpointId : String
  failureId : String
  failureRevision : Nat
  authorityMode : AuthorityMode
  ownerLeaseId : Option String
  resolutionEvidenceRef : Option String
  resolutionAt : Option Nat
  createdAt : Nat
  deriving DecidableEq, Repr

/-- The row of `runtime_control_recovery_attention`. -/
structure RecoveryAttentionRow where
  operationId : String
  effectBoundary : SourceOperationPhase
  evidenceDigest : String
  enteredAt : Nat
  resolvedAt : Option Nat
  deriving DecidableEq, Repr

/-- The rows of one run.  Leases and events stand newest first, that is in descending order of
`attempt_no` and `event_seq`: an INSERT uses the maximum plus one.  Commands stand in row order.

`actionHistoryAgrees` is what the validation of the run's user actions finds where it compares them
with the source ledger, the requirement revisions and the archived checkpoint evidence, tables that
the operations on this state do not write. -/
structure RunTables where
  run : Option RunRow := none
  leases : List LeaseRow := []
  events : List EventRow := []
  snapshotEventSeq : Option Nat := none
  commands : List CommandRow := []
  checkpoints : List CheckpointRow := []
  failureEnvelopes : List FailureEnvelope := []
  sourceOperations : List SourceOperationRow := []
  recoveryAttention : Option RecoveryAttentionRow := none
  userActions : List UserActionRow := []
  actionHistoryAgrees : Bool := true
  deriving DecidableEq, Repr

namespace RunTables

variable (t : RunTables)

/-- The run row, or the lookup error. -/
def requireRun : Except Raised RunRow :=
  match t.run with
  | some run => .ok run
  | none => .error (.control .runtimeRunNotFound)

/-- A lookup of the run row succeeds with the run row. -/
@[simp] theorem requireRun_eq_ok {t : RunTables} {run : RunRow} :
    t.requireRun = .ok run ↔ t.run = some run := by
  unfold requireRun
  cases t.run <;> simp

/-- `_active_lease_row`. -/
def activeLeaseRow : Option LeaseRow :=
  t.leases.find? (fun lease => lease.status = .active)

/-- `COALESCE(MAX(attempt_no), 0)` over the run's leases. -/
def latestAttempt : Nat :=
  (t.leases.map (·.attemptNo)).foldr max 0

/-- `_action_row`. -/
def actionRow (actionId : String) : Option UserActionRow :=
  t.userActions.find? (fun action => action.actionId = actionId)

/-- The checkpoint with the given id. -/
def checkpointRow (checkpointId : String) : Option CheckpointRow :=
  t.checkpoints.find? (fun checkpoint => checkpoint.checkpointId = checkpointId)

/-- `write_checkpoint_participant`: a stored checkpoint may only be written again as it is. -/
def storeCheckpoint (checkpoint : CheckpointRow) : Except Raised RunTables :=
  match t.checkpointRow checkpoint.checkpointId with
  | some existing =>
    if existing = checkpoint then .ok t else .error (.control .runtimeCheckpointReplayConflict)
  | none => .ok { t with checkpoints := t.checkpoints ++ [checkpoint] }

/-- `_event_row_by_idempotency_key`. -/
def eventByIdempotencyKey (key : EventKey) : Option EventRow :=
  t.events.find? (fun event => event.idempotencyKey = some key)

/-- Replace the lease row that has the given row's id. -/
def updateLease (row : LeaseRow) : RunTables :=
  { t with leases :=
    t.leases.map (fun lease => if lease.leaseId = row.leaseId then row else lease) }

/-- `UPDATE runtime_control_runs SET state_revision = state_revision + 1`. -/
def bumpRevision : RunTables :=
  { t with run := t.run.map (fun run => { run with stateRevision := run.stateRevision + 1 }) }

/-- `_require_active_executor`. -/
def requireActiveExecutor (executorId : String) (attemptNo observedAt : Option Nat) :
    Except Raised LeaseRow :=
  match t.leases.find? (fun lease => lease.executorId = executorId ∧ lease.status = .active ∧
      ∀ attempt ∈ attemptNo, lease.attemptNo = attempt) with
  | none => .error (.control .runtimeExecutorStale)
  | some lease =>
    if ∃ observed ∈ observedAt, lease.leaseExpiresAt ≤ observed then
      .error (.control .runtimeExecutorLeaseExpired)
    else .ok lease

variable {t}

/-- Storing a checkpoint touches the table of checkpoints only. -/
theorem storeCheckpoint_ok {t' : RunTables} {checkpoint : CheckpointRow}
    (h : t.storeCheckpoint checkpoint = .ok t') :
    ∃ checkpoints, t' = { t with checkpoints := checkpoints } := by
  unfold storeCheckpoint at h
  split at h
  · split at h
    · simp only [Except.ok.injEq] at h
      exact ⟨t.checkpoints, h.symm⟩
    · cases h
  · simp only [Except.ok.injEq] at h
    exact ⟨_, h.symm⟩

/-- No lease is found active exactly when none is. -/
theorem activeLeaseRow_eq_none :
    t.activeLeaseRow = none ↔ ∀ lease ∈ t.leases, lease.status ≠ .active := by
  simp [activeLeaseRow]

/-- The active lease that is found is one of the run's. -/
theorem mem_of_activeLeaseRow {lease : LeaseRow} (h : t.activeLeaseRow = some lease) :
    lease ∈ t.leases ∧ lease.status = .active :=
  ⟨List.mem_of_find?_eq_some h, by simpa using List.find?_some h⟩

/-- An executor that passes the check holds an active lease that has not run out. -/
theorem requireActiveExecutor_ok {executorId : String} {attemptNo observedAt : Option Nat}
    {lease : LeaseRow} (h : t.requireActiveExecutor executorId attemptNo observedAt = .ok lease) :
    lease ∈ t.leases ∧ lease.status = .active ∧ lease.executorId = executorId ∧
      (∀ attempt ∈ attemptNo, lease.attemptNo = attempt) ∧
      ∀ observed ∈ observedAt, observed < lease.leaseExpiresAt := by
  unfold requireActiveExecutor at h
  split at h
  · cases h
  · rename_i found hfound
    have hmem := List.mem_of_find?_eq_some hfound
    have hholds := List.find?_some hfound
    split at h
    · cases h
    · rename_i hlive
      obtain rfl : found = lease := by simpa using h
      simp only [decide_eq_true_eq] at hholds
      refine ⟨hmem, hholds.2.1, hholds.1, hholds.2.2, ?_⟩
      intro observed hobserved
      by_contra hle
      exact hlive ⟨observed, hobserved, by omega⟩

end RunTables

/-- A lease whose time has run out. -/
def expireLease (lease : LeaseRow) (now : Nat) : LeaseRow :=
  { lease with
    status := .expired
    releasedAt := some now
    reasonCode := some "runtime_executor_lease_expired" }

/-- A lease that its owner gives up to the store. -/
def revokeLease (lease : LeaseRow) (releasedAt : Nat) (reasonCode : String) : LeaseRow :=
  { lease with
    status := .revoked
    releasedAt := some releasedAt
    reasonCode := some reasonCode }

/-- No outcome, failure or attention truth stands on the row: the condition of
`require_run_truth_mutable`. -/
def RunRow.TruthMutable (run : RunRow) : Prop :=
  run.productOutcome = none ∧ run.currentFailureId = none ∧ run.currentFailureRevision = none ∧
    run.currentFailureOwnerLeaseId = none ∧ run.currentFailureAuthorityMode = none ∧
    run.currentActionId = none

instance (run : RunRow) : Decidable run.TruthMutable :=
  inferInstanceAs (Decidable (_ ∧ _ ∧ _ ∧ _ ∧ _ ∧ _))

/-- `require_run_truth_mutable`. -/
def requireRunTruthMutable (run : RunRow) : Except Raised Unit :=
  require run.TruthMutable (.control .failedOutcomeTerminalImmutable)

/-- A run row's truth is mutable exactly when the guard passes. -/
@[simp] theorem requireRunTruthMutable_eq_ok {run : RunRow} {u : Unit} :
    requireRunTruthMutable run = .ok u ↔ run.TruthMutable := by
  simp [requireRunTruthMutable]

end SeekTalent.RuntimeControl
