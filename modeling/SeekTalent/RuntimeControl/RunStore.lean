import SeekTalent.RuntimeControl.NeedsAttention

/-!
# The run store

The transactions of `RuntimeControlStore` (`seektalent_runtime_control/store.py`) that write the
status of a run, its executor leases and its events.  Each takes the rows of the run and either
raises, which rolls the transaction back, or returns its result and the rows it commits.

The UPDATE of a run row repeats, in its WHERE clause, the condition of `require_run_truth_mutable`
that the same transaction has just checked; the model checks it once.
-/

namespace SeekTalent.RuntimeControl

open Foundation

variable {t t' : RunTables}
variable {event : EventInput} {executorId : String} {leaseExpiresAt : Nat}

/-- `MAX_RUNTIME_CONTROL_JSON_BYTES`. -/
def maxRuntimeControlJsonBytes : Nat := 16 * 1024

/-- What an event append also writes on the run row. -/
structure RunWrite where
  runStatus : Option RunStatus := none
  stopReasonCode : Option String := none
  completedAt : Option Nat := none
  latestCheckpointId : Option String := none
  replacesSnapshot : Bool := false
  deriving DecidableEq, Repr

/-- The stored row of an event. -/
def EventInput.row (event : EventInput) (eventSeq : Nat) : EventRow where
  eventId := event.eventId
  eventSeq := eventSeq
  eventType := event.eventType
  stage := event.stage
  roundNo := event.roundNo
  status := event.status
  payload := event.payload
  idempotencyKey := event.idempotencyKey
  createdAt := event.createdAt

/-- The run row after an event append. -/
def RunRow.afterEvent (run : RunRow) (event : EventInput) (write : RunWrite) : RunRow :=
  { run with
    latestEventSeq := run.latestEventSeq + 1
    status := write.runStatus.getD run.status
    currentStage := event.stage
    currentRound := event.roundNo
    updatedAt := event.createdAt
    stopReasonCode := write.stopReasonCode.or run.stopReasonCode
    completedAt := write.completedAt.or run.completedAt
    latestCheckpointId := write.latestCheckpointId.or run.latestCheckpointId
    stateRevision := run.stateRevision + 1 }

/-- The rows after an event append. -/
def RunTables.afterEvent (t : RunTables) (run : RunRow) (event : EventInput) (write : RunWrite) :
    RunTables :=
  { t with
    run := some (run.afterEvent event write)
    events := event.row (run.latestEventSeq + 1) :: t.events
    snapshotEventSeq :=
      if write.replacesSnapshot then some (run.latestEventSeq + 1) else t.snapshotEventSeq }

/-- The event an append with this input would replay: the one recorded under its key. -/
def RunTables.recordedEvent (t : RunTables) (event : EventInput) : Option EventRow :=
  event.idempotencyKey.bind t.eventByIdempotencyKey

/-- `_append_event_in_transaction`: a recorded key returns the recorded event and writes nothing,
not even the run status; otherwise the run status moves under the transition table. -/
def appendEventInTransaction (t : RunTables) (event : EventInput) (write : RunWrite) :
    Except Raised (EventRow × RunTables) :=
  match t.recordedEvent event with
  | some existing => .ok (existing, t)
  | none => do
    let run ← t.requireRun
    requireRunTruthMutable run
    requireRunTransition run.status (write.runStatus.getD run.status)
    require (event.payload.sizeBytes ≤ maxRuntimeControlJsonBytes)
      (.control .runtimeEventPayloadTooLarge)
    require (∀ stored ∈ t.events,
        stored.eventId ≠ event.eventId ∧ stored.eventSeq ≠ run.latestEventSeq + 1)
      .integrityError
    .ok (event.row (run.latestEventSeq + 1), t.afterEvent run event write)

/-- What an event append does: it replays a recorded event, or it moves a run row whose truth is
mutable along the transition table. -/
theorem appendEventInTransaction_ok {write : RunWrite}
    {row : EventRow} (h : appendEventInTransaction t event write = .ok (row, t')) :
    (t.recordedEvent event = some row ∧ t' = t) ∨
      ∃ run, t.recordedEvent event = none ∧ t.run = some run ∧ run.TruthMutable ∧
        write.runStatus.getD run.status ∈ allowedTransitions run.status ∧
        row = event.row (run.latestEventSeq + 1) ∧ t' = t.afterEvent run event write := by
  unfold appendEventInTransaction at h
  split at h
  · rename_i existing hrecorded
    simp only [Except.ok.injEq, Prod.mk.injEq] at h
    exact .inl ⟨by rw [hrecorded, h.1], h.2.symm⟩
  · rename_i hrecorded
    simp only [bind_eq_ok, RunTables.requireRun_eq_ok, requireRunTruthMutable_eq_ok,
      requireRunTransition_eq_ok, require_eq_ok, Except.ok.injEq, Prod.mk.injEq] at h
    obtain ⟨run, hrun, -, hmutable, -, hallowed, -, -, -, -, hrow, ht'⟩ := h
    exact .inr ⟨run, hrecorded, hrun, hmutable, hallowed, hrow.symm, ht'.symm⟩

/-- `append_event`: an event that leaves the run status as it is. -/
def appendEvent (t : RunTables) (event : EventInput) : Except Raised (EventRow × RunTables) :=
  appendEventInTransaction t event {}

/-- The executor a call names: its id and, where given, its attempt. -/
structure ExecutorRef where
  executorId : String
  attemptNo : Option Nat
  deriving DecidableEq, Repr

/-- `append_executor_event`: an event of the executor that holds a live lease. -/
def appendExecutorEvent (t : RunTables) (executor : ExecutorRef) (event : EventInput)
    (write : RunWrite) : Except Raised (EventRow × RunTables) := do
  let _ ← t.requireActiveExecutor executor.executorId executor.attemptNo (some event.createdAt)
  appendEventInTransaction t event write

variable {executor : ExecutorRef}

/-- An executor event needs a live lease and is an event append. -/
theorem appendExecutorEvent_ok {write : RunWrite} {row : EventRow}
    (h : appendExecutorEvent t executor event write = .ok (row, t')) :
    (∃ lease ∈ t.leases, lease.status = .active ∧ event.createdAt < lease.leaseExpiresAt) ∧
      appendEventInTransaction t event write = .ok (row, t') := by
  simp only [appendExecutorEvent, bind_eq_ok] at h
  obtain ⟨lease, hlease, happend⟩ := h
  obtain ⟨hmem, hactive, -, -, hlive⟩ := RunTables.requireActiveExecutor_ok hlease
  exact ⟨⟨lease, hmem, hactive, hlive _ rfl⟩, happend⟩

/-- `RuntimeRunSnapshot`, as far as accepting a run reads it. -/
structure RunSnapshot where
  runtimeRunId : String
  status : RunStatus
  currentStage : String
  latestEventSeq : Nat
  deriving DecidableEq, Repr

/-- `validate_initial_run_truth`. -/
def RunRow.InitialTruth (run : RunRow) : Prop :=
  run.TruthMutable ∧ run.stateRevision = 0

instance (run : RunRow) : Decidable run.InitialTruth :=
  inferInstanceAs (Decidable (_ ∧ _))

/-- The condition of `validate_run_acceptance`. -/
def AcceptanceValid (run : RunRow) (initialEvent : EventInput) (snapshot : RunSnapshot) : Prop :=
  run.status = .queued ∧ run.currentStage = "queued" ∧ run.latestEventSeq = 0 ∧
    initialEvent.eventType = .runQueued ∧ initialEvent.stage = "queued" ∧
    initialEvent.status = "queued" ∧
    initialEvent.idempotencyKey = some (.runQueued run.runtimeRunId) ∧
    snapshot.runtimeRunId = run.runtimeRunId ∧ snapshot.status = .queued ∧
    snapshot.currentStage = "queued" ∧ snapshot.latestEventSeq = 0

instance (run : RunRow) (initialEvent : EventInput) (snapshot : RunSnapshot) :
    Decidable (AcceptanceValid run initialEvent snapshot) := by
  unfold AcceptanceValid
  infer_instance

/-- The joins of `RUN_ACCEPTANCE_JOINS`: the run has its snapshot and its initial event. -/
def RunTables.AcceptanceJoined (t : RunTables) (run : RunRow) : Prop :=
  (∃ seq ∈ t.snapshotEventSeq, 0 < seq) ∧
    ∃ event ∈ t.events, event.eventSeq = 1 ∧ event.eventType = .runQueued ∧
      event.stage = "queued" ∧ event.status = "queued" ∧
      event.idempotencyKey = some (.runQueued run.runtimeRunId)

instance (t : RunTables) (run : RunRow) : Decidable (t.AcceptanceJoined run) :=
  inferInstanceAs (Decidable (_ ∧ _))

/-- `accepted_run_row`. -/
def RunTables.acceptedRunRow (t : RunTables) : Except Raised RunRow :=
  match t.run with
  | some run =>
    if 0 < run.latestEventSeq ∧ t.AcceptanceJoined run then .ok run
    else .error (.control .runtimeRunAcceptanceIncomplete)
  | none => .error (.control .runtimeRunAcceptanceIncomplete)

/-- `accept_run`: a start with a known intent or start key replays the accepted run, a new one
inserts the run with its initial event. -/
def acceptRun (t : RunTables) (run : RunRow) (initialEvent : EventInput) (snapshot : RunSnapshot) :
    Except Raised (RunRow × RunTables) := do
  require run.InitialTruth (.control .runtimeRunInitialCanonicalTruthForbidden)
  require (AcceptanceValid run initialEvent snapshot) (.control .runtimeRunAcceptanceInvalid)
  match t.run with
  | some existing =>
    require (existing.runIntentId = run.runIntentId ∨
        existing.startIdempotencyKey = run.startIdempotencyKey)
      .integrityError
    let accepted ← t.acceptedRunRow
    let accepted ← validatedRunFromRow t accepted
    .ok (accepted, t)
  | none => do
    let (_, next) ← appendEventInTransaction { t with run := some run } initialEvent
      { runStatus := some .queued, replacesSnapshot := true }
    let accepted ← next.acceptedRunRow
    let accepted ← validatedRunFromRow next accepted
    .ok (accepted, next)

/-- Accepting a run replays an accepted one, or inserts the row and appends the initial event. -/
theorem acceptRun_ok {run row : RunRow} {initialEvent : EventInput}
    {snapshot : RunSnapshot} (h : acceptRun t run initialEvent snapshot = .ok (row, t')) :
    t' = t ∨ (t.run = none ∧ run.InitialTruth ∧ AcceptanceValid run initialEvent snapshot ∧
      ∃ stored, appendEventInTransaction { t with run := some run } initialEvent
        { runStatus := some .queued, replacesSnapshot := true } = .ok (stored, t')) := by
  simp only [acceptRun, bind_eq_ok, require_eq_ok] at h
  obtain ⟨-, htruth, -, hvalid, h⟩ := h
  split at h
  · simp only [bind_eq_ok, Except.ok.injEq, Prod.mk.injEq] at h
    obtain ⟨-, -, -, -, -, -, -, ht'⟩ := h
    exact .inl ht'.symm
  · rename_i hrun
    simp only [bind_eq_ok, Except.ok.injEq, Prod.mk.injEq] at h
    obtain ⟨⟨stored, next⟩, happend, -, -, -, -, -, rfl⟩ := h
    exact .inr ⟨hrun, htruth, hvalid, stored, happend⟩

/-- The keyword arguments of `update_run_status`. -/
structure StatusUpdate where
  status : RunStatus
  updatedAt : Nat
  currentStage : Option String := none
  currentRound : Option Nat := none
  stopReasonCode : Option String := none
  completedAt : Option Nat := none
  latestCheckpointId : Option String := none
  deriving DecidableEq, Repr

/-- The run row after `update_run_status`. -/
def RunRow.afterStatusUpdate (run : RunRow) (update : StatusUpdate) : RunRow :=
  { run with
    status := update.status
    currentStage := update.currentStage.getD run.currentStage
    currentRound := update.currentRound.or run.currentRound
    updatedAt := update.updatedAt
    stopReasonCode := update.stopReasonCode.or run.stopReasonCode
    completedAt := update.completedAt.or run.completedAt
    latestCheckpointId := update.latestCheckpointId.or run.latestCheckpointId
    stateRevision := run.stateRevision + 1 }

/-- `update_run_status`: a status write that asks for no executor. -/
def updateRunStatus (t : RunTables) (update : StatusUpdate) :
    Except Raised (RunRow × RunTables) := do
  let run ← t.requireRun
  requireRunTruthMutable run
  requireRunTransition run.status update.status
  let next := { t with run := some (run.afterStatusUpdate update) }
  let updated ← validatedRunFromRow next (run.afterStatusUpdate update)
  .ok (updated, next)

/-- What a status write does. -/
theorem updateRunStatus_ok {update : StatusUpdate} {row : RunRow}
    (h : updateRunStatus t update = .ok (row, t')) :
    ∃ run, t.run = some run ∧ run.TruthMutable ∧ update.status ∈ allowedTransitions run.status ∧
      row = run.afterStatusUpdate update ∧
      t' = { t with run := some (run.afterStatusUpdate update) } := by
  simp only [updateRunStatus, bind_eq_ok, RunTables.requireRun_eq_ok, requireRunTruthMutable_eq_ok,
    requireRunTransition_eq_ok, validatedRunFromRow_eq_ok, Except.ok.injEq, Prod.mk.injEq] at h
  obtain ⟨run, hrun, -, hmutable, -, hallowed, _, ⟨-, -, rfl⟩, hrow, ht'⟩ := h
  exact ⟨run, hrun, hmutable, hallowed, hrow.symm, ht'.symm⟩

/-- A new active lease with the next attempt number. -/
def RunTables.newLease (t : RunTables) (leaseId executorId : String)
    (acquiredAt leaseExpiresAt : Nat) : LeaseRow where
  leaseId := leaseId
  executorId := executorId
  attemptNo := t.latestAttempt + 1
  status := .active
  acquiredAt := acquiredAt
  heartbeatAt := none
  leaseExpiresAt := leaseExpiresAt
  releasedAt := none
  reasonCode := none

/-- Insert a lease row; `lease_id` is the primary key of the table. -/
def RunTables.insertLease (t : RunTables) (lease : LeaseRow) : Except Raised RunTables :=
  if ∀ stored ∈ t.leases, stored.leaseId ≠ lease.leaseId then
    .ok { t with leases := lease :: t.leases }
  else .error .integrityError

/-- A lease is inserted when its id is new. -/
theorem insertLease_eq_ok {lease : LeaseRow} :
    t.insertLease lease = .ok t' ↔
      (∀ stored ∈ t.leases, stored.leaseId ≠ lease.leaseId) ∧
        t' = { t with leases := lease :: t.leases } := by
  unfold RunTables.insertLease
  split <;> simp_all [eq_comm]

/-- `acquire_executor_lease`. -/
def acquireExecutorLease (t : RunTables) (leaseId executorId : String)
    (acquiredAt leaseExpiresAt : Nat) : Except Raised (LeaseRow × RunTables) := do
  let run ← t.requireRun
  requireRunTruthMutable run
  require (t.activeLeaseRow = none) (.control .runtimeExecutorLeaseActive)
  let lease := t.newLease leaseId executorId acquiredAt leaseExpiresAt
  let next ← t.insertLease lease
  .ok (lease, next.bumpRevision)

/-- What acquiring a lease does. -/
theorem acquireExecutorLease_ok {leaseId : String}
    {acquiredAt : Nat} {lease : LeaseRow}
    (h : acquireExecutorLease t leaseId executorId acquiredAt leaseExpiresAt = .ok (lease, t')) :
    (∃ run, t.run = some run ∧ run.TruthMutable) ∧ (∀ other ∈ t.leases, other.status ≠ .active) ∧
      lease = t.newLease leaseId executorId acquiredAt leaseExpiresAt ∧
      (∀ stored ∈ t.leases, stored.leaseId ≠ leaseId) ∧
      t' = ({ t with leases := lease :: t.leases } : RunTables).bumpRevision := by
  simp only [acquireExecutorLease, bind_eq_ok, RunTables.requireRun_eq_ok,
    requireRunTruthMutable_eq_ok, require_eq_ok, RunTables.activeLeaseRow_eq_none,
    insertLease_eq_ok, Except.ok.injEq, Prod.mk.injEq] at h
  obtain ⟨run, hrun, -, hmutable, -, hidle, next, ⟨hfresh, rfl⟩, rfl, rfl⟩ := h
  exact ⟨⟨run, hrun, hmutable⟩, hidle, rfl, hfresh, rfl⟩

/-- `heartbeat_executor_lease`. -/
def heartbeatExecutorLease (t : RunTables) (executor : ExecutorRef)
    (heartbeatAt leaseExpiresAt : Nat) : Except Raised (LeaseRow × RunTables) := do
  let lease ← t.requireActiveExecutor executor.executorId executor.attemptNo none
  require (heartbeatAt < lease.leaseExpiresAt) (.control .runtimeExecutorLeaseExpired)
  let run ← t.requireRun
  requireRunTruthMutable run
  let renewed := { lease with
    heartbeatAt := some (max heartbeatAt (max (lease.heartbeatAt.getD 0) lease.acquiredAt))
    leaseExpiresAt := max leaseExpiresAt lease.leaseExpiresAt }
  .ok (renewed, (t.updateLease renewed).bumpRevision)

/-- A heartbeat rewrites the active lease and keeps its identity and status. -/
theorem heartbeatExecutorLease_ok {heartbeatAt : Nat} {renewed : LeaseRow}
    (h : heartbeatExecutorLease t executor heartbeatAt leaseExpiresAt = .ok (renewed, t')) :
    ∃ run lease, t.run = some run ∧ run.TruthMutable ∧ lease ∈ t.leases ∧ lease.status = .active ∧
      renewed.leaseId = lease.leaseId ∧ renewed.attemptNo = lease.attemptNo ∧
      renewed.status = lease.status ∧ t' = (t.updateLease renewed).bumpRevision := by
  simp only [heartbeatExecutorLease, bind_eq_ok, RunTables.requireRun_eq_ok,
    requireRunTruthMutable_eq_ok, require_eq_ok, Except.ok.injEq, Prod.mk.injEq] at h
  obtain ⟨lease, hlease, -, -, run, hrun, -, hmutable, rfl, rfl⟩ := h
  obtain ⟨hmem, hactive, -⟩ := RunTables.requireActiveExecutor_ok hlease
  exact ⟨run, lease, hrun, hmutable, hmem, hactive, rfl, rfl, rfl, rfl⟩

/-- The two ways a caller ends its own lease. -/
inductive LeaseRelease
  | released
  | failed
  deriving DecidableEq, Repr

/-- The lease status a release writes. -/
def LeaseRelease.leaseStatus : LeaseRelease → LeaseStatus
  | .released => .released
  | .failed => .failed

/-- `release_executor_lease`. -/
def releaseExecutorLease (t : RunTables) (executor : ExecutorRef) (releasedAt : Nat)
    (release : LeaseRelease) (reasonCode : Option String) :
    Except Raised (LeaseRow × RunTables) := do
  let lease ← t.requireActiveExecutor executor.executorId executor.attemptNo none
  let run ← t.requireRun
  validateFailedOutcomeRow t run
  requireRunTruthMutable run
  let ended := { lease with
    status := release.leaseStatus
    releasedAt := some (max releasedAt (max (lease.heartbeatAt.getD 0) lease.acquiredAt))
    reasonCode := reasonCode }
  .ok (ended, (t.updateLease ended).bumpRevision)

/-- A release ends the active lease of the caller. -/
theorem releaseExecutorLease_ok {releasedAt : Nat}
    {release : LeaseRelease} {reasonCode : Option String} {ended : LeaseRow}
    (h : releaseExecutorLease t executor releasedAt release reasonCode = .ok (ended, t')) :
    ∃ run lease, t.run = some run ∧ run.TruthMutable ∧ lease ∈ t.leases ∧ lease.status = .active ∧
      ended.leaseId = lease.leaseId ∧ ended.attemptNo = lease.attemptNo ∧
      ended.status = release.leaseStatus ∧ t' = (t.updateLease ended).bumpRevision := by
  simp only [releaseExecutorLease, bind_eq_ok, RunTables.requireRun_eq_ok,
    requireRunTruthMutable_eq_ok, Except.ok.injEq, Prod.mk.injEq] at h
  obtain ⟨lease, hlease, run, hrun, -, -, -, hmutable, rfl, rfl⟩ := h
  obtain ⟨hmem, hactive, -⟩ := RunTables.requireActiveExecutor_ok hlease
  exact ⟨run, lease, hrun, hmutable, hmem, hactive, rfl, rfl, rfl, rfl⟩

/-- `yield_executor_for_automatic_source_reconciliation`: the event append and the revocation of the
executor's lease, in one transaction. -/
def yieldForSourceReconciliation (t : RunTables) (executorId : String) (attemptNo : Nat)
    (event : EventInput) : Except Raised (Unit × RunTables) := do
  require (event.eventType = .sourceReconciliationRequired ∧ event.status = "resume_requested" ∧
      event.stage = "source_reconciliation")
    (.control .runtimeSourceReconciliationEventInvalid)
  let lease ← t.requireActiveExecutor executorId (some attemptNo) (some event.createdAt)
  let run ← t.requireRun
  requireRunTruthMutable run
  require (∃ o ∈ t.sourceOperations, o.RequiresReconciliation)
    (.control .runtimeSourceOperationUnresolvedEvidenceMissing)
  let (_, appended) ← appendEventInTransaction t event { runStatus := some .resumeRequested }
  .ok ((), appended.updateLease
    (revokeLease lease event.createdAt "runtime_source_operation_unresolved"))

/-- A yield appends its event and revokes the lease of the caller. -/
theorem yieldForSourceReconciliation_ok {attemptNo : Nat}
    {u : Unit} (h : yieldForSourceReconciliation t executorId attemptNo event = .ok (u, t')) :
    ∃ run lease row appended, t.run = some run ∧ run.TruthMutable ∧ lease ∈ t.leases ∧
      lease.status = .active ∧ (∃ o ∈ t.sourceOperations, o.RequiresReconciliation) ∧
      appendEventInTransaction t event { runStatus := some .resumeRequested } =
        .ok (row, appended) ∧
      t' = appended.updateLease
        (revokeLease lease event.createdAt "runtime_source_operation_unresolved") := by
  simp only [yieldForSourceReconciliation, bind_eq_ok, RunTables.requireRun_eq_ok,
    requireRunTruthMutable_eq_ok, require_eq_ok, Except.ok.injEq, Prod.mk.injEq] at h
  obtain ⟨-, -, lease, hlease, run, hrun, -, hmutable, -, hpending, ⟨row, appended⟩, happend, -,
    ht'⟩ := h
  obtain ⟨hmem, hactive, -⟩ := RunTables.requireActiveExecutor_ok hlease
  exact ⟨run, lease, row, appended, hrun, hmutable, hmem, hactive, hpending, happend, ht'.symm⟩

/-- `expire_executor_leases`, for the active lease of this run: it picks the leases that have run
out on runs without a committed outcome. -/
def expireExecutorLeases (t : RunTables) (now : Nat) : RunTables :=
  match t.run, t.activeLeaseRow with
  | some run, some lease =>
    if lease.leaseExpiresAt ≤ now ∧ run.productOutcome = none ∧ run.FailureTruthEmpty then
      (t.updateLease (expireLease lease now)).bumpRevision
    else t
  | _, _ => t

/-- The newest event of the run. -/
def RunTables.latestEvent (t : RunTables) (run : RunRow) : Option EventRow :=
  t.events.find? (fun event => event.eventSeq = run.latestEventSeq)

/-- How long a run that waits for a resource is not claimed again, in microseconds. -/
def resourceWaitBackoff : Nat := 500000

/-- Whether `_next_runnable_run_row` may return the run: it is queued or resumable, it has its
acceptance evidence, nobody holds an active lease, no unknown effect blocks a resumption, and its
last resource wait is not too recent. -/
def RunTables.Runnable (t : RunTables) (run : RunRow) (claimedAt : Nat) : Prop :=
  (run.status = .queued ∨ run.status = .resumeRequested) ∧ t.AcceptanceJoined run ∧
    0 < run.latestEventSeq ∧ t.activeLeaseRow = none ∧
    (run.status = .resumeRequested →
      ¬∃ o ∈ t.sourceOperations, o.retryPosture = .reconcileFirst) ∧
    ∀ event ∈ t.latestEvent run, event.eventType = .resourceWaiting →
      event.createdAt + resourceWaitBackoff ≤ claimedAt

instance (t : RunTables) (run : RunRow) (claimedAt : Nat) : Decidable (t.Runnable run claimedAt) :=
  inferInstanceAs (Decidable (_ ∧ _ ∧ _ ∧ _ ∧ _ ∧ _))

/-- The event of a claim. -/
def claimEvent (run : RunRow) (lease : LeaseRow) (eventId : EventId) : EventInput where
  eventId := eventId
  eventType := .workerClaimed
  stage := "starting"
  roundNo := run.currentRound
  status := "completed"
  payload := {
    executorId := some lease.executorId
    leaseId := some lease.leaseId
    attemptNo := some lease.attemptNo }
  idempotencyKey := some (.claim lease.leaseId)
  createdAt := lease.acquiredAt

/-- `claim_next_runnable_run` when the claim query picks this run or finds it not runnable: the
lease and the move to `starting` are one transaction. -/
def claimNextRunnableRun (t : RunTables) (executorId leaseId : String) (eventId : EventId)
    (claimedAt leaseExpiresAt : Nat) : Except Raised (Option LeaseRow × RunTables) :=
  match t.run with
  | none => .ok (none, t)
  | some run =>
    if t.Runnable run claimedAt then do
      let lease := t.newLease leaseId executorId claimedAt leaseExpiresAt
      let leased ← t.insertLease lease
      let (_, next) ← appendEventInTransaction leased (claimEvent run lease eventId)
        { runStatus := some .starting, replacesSnapshot := true }
      let claimed ← next.requireRun
      let _ ← validatedRunFromRow next claimed
      .ok (some lease, next)
    else .ok (none, t)

/-- A claim finds the run not runnable, or gives it a new lease and moves it to `starting`. -/
theorem claimNextRunnableRun_ok {leaseId : String} {eventId : EventId}
    {claimedAt : Nat} {claim : Option LeaseRow}
    (h : claimNextRunnableRun t executorId leaseId eventId claimedAt leaseExpiresAt =
      .ok (claim, t')) :
    (claim = none ∧ t' = t) ∨
      ∃ run lease row, t.run = some run ∧ t.Runnable run claimedAt ∧ claim = some lease ∧
        lease = t.newLease leaseId executorId claimedAt leaseExpiresAt ∧
        (∀ stored ∈ t.leases, stored.leaseId ≠ leaseId) ∧
        appendEventInTransaction { t with leases := lease :: t.leases }
          (claimEvent run lease eventId)
          { runStatus := some .starting, replacesSnapshot := true } = .ok (row, t') := by
  unfold claimNextRunnableRun at h
  split at h
  · simp only [Except.ok.injEq, Prod.mk.injEq] at h
    exact .inl ⟨h.1.symm, h.2.symm⟩
  · rename_i run hrun
    split at h
    · rename_i hrunnable
      simp only [bind_eq_ok, insertLease_eq_ok, RunTables.requireRun_eq_ok, Except.ok.injEq,
        Prod.mk.injEq] at h
      obtain ⟨leased, ⟨hfresh, rfl⟩, ⟨row, next⟩, happend, -, -, -, -, rfl, rfl⟩ := h
      exact .inr ⟨run, _, row, hrun, hrunnable, rfl, rfl, hfresh, happend⟩
    · simp only [Except.ok.injEq, Prod.mk.injEq] at h
      exact .inl ⟨h.1.symm, h.2.symm⟩

/-- The run row after its checkpoint pointer was replaced. -/
def RunRow.atCheckpoint (run : RunRow) (checkpoint : CheckpointRow) : RunRow :=
  { run with
    latestCheckpointId := some checkpoint.checkpointId
    currentStage := checkpoint.stage
    currentRound := checkpoint.roundNo
    updatedAt := checkpoint.createdAt
    stateRevision := run.stateRevision + 1 }

/-- `write_checkpoint` and `write_checkpoint_v2`, as far as the run row and the table of checkpoints
go: an executor with a live lease replaces the run's checkpoint pointer. -/
def writeCheckpoint (t : RunTables) (executor : ExecutorRef) (checkpoint : CheckpointRow) :
    Except Raised (CheckpointRow × RunTables) := do
  let _ ← t.requireActiveExecutor executor.executorId executor.attemptNo (some checkpoint.createdAt)
  let run ← t.requireRun
  requireRunTruthMutable run
  let stored ← t.storeCheckpoint checkpoint
  .ok (checkpoint, { stored with run := some (run.atCheckpoint checkpoint) })

/-- A checkpoint is stored and becomes the run's latest. -/
theorem writeCheckpoint_ok {checkpoint row : CheckpointRow}
    (h : writeCheckpoint t executor checkpoint = .ok (row, t')) :
    ∃ run checkpoints, t.run = some run ∧ run.TruthMutable ∧
      t' = { t with checkpoints := checkpoints, run := some (run.atCheckpoint checkpoint) } := by
  simp only [writeCheckpoint, bind_eq_ok, RunTables.requireRun_eq_ok,
    requireRunTruthMutable_eq_ok, Except.ok.injEq, Prod.mk.injEq] at h
  obtain ⟨-, -, run, hrun, -, hmutable, stored, hstored, -, rfl⟩ := h
  obtain ⟨checkpoints, rfl⟩ := RunTables.storeCheckpoint_ok hstored
  exact ⟨run, checkpoints, hrun, hmutable, rfl⟩

/-- `write_checkpoint_for_recovery`: the checkpoint of a run that waits to be resumed. -/
def writeCheckpointForRecovery (t : RunTables) (checkpoint : CheckpointRow) :
    Except Raised (CheckpointRow × RunTables) := do
  let run ← t.requireRun
  require (run.status = .resumeRequested ∧ t.activeLeaseRow = none)
    (.control .runtimeCheckpointRecoveryAuthorityRejected)
  requireRunTruthMutable run
  let stored ← t.storeCheckpoint checkpoint
  .ok (checkpoint, { stored with run := some (run.atCheckpoint checkpoint) })

/-- A recovery checkpoint is stored and becomes the run's latest. -/
theorem writeCheckpointForRecovery_ok {checkpoint row : CheckpointRow}
    (h : writeCheckpointForRecovery t checkpoint = .ok (row, t')) :
    ∃ run checkpoints, t.run = some run ∧ run.TruthMutable ∧
      t' = { t with checkpoints := checkpoints, run := some (run.atCheckpoint checkpoint) } := by
  simp only [writeCheckpointForRecovery, bind_eq_ok, RunTables.requireRun_eq_ok, require_eq_ok,
    requireRunTruthMutable_eq_ok, Except.ok.injEq, Prod.mk.injEq] at h
  obtain ⟨run, hrun, -, -, -, hmutable, stored, hstored, -, rfl⟩ := h
  obtain ⟨checkpoints, rfl⟩ := RunTables.storeCheckpoint_ok hstored
  exact ⟨run, checkpoints, hrun, hmutable, rfl⟩

/-- The final manifest that replaces the checkpoints of a finished run. -/
def finalManifest (run : RunRow) (source : CheckpointRow) : CheckpointRow :=
  { source with
    checkpointId := "rtmanifest_" ++ run.runtimeRunId
    stage := "finalization"
    roundNo := none
    safeBoundary := "after_finalization_commit"
    isFinalManifest := true }

/-- `compact_terminal_checkpoints`: the checkpoints of a finished run are replaced by one manifest.
Whether the checkpoints its user actions refer to can be archived, and its candidate truth
validates, is `archivable`. -/
def compactTerminalCheckpoints (t : RunTables) (archivable : Bool) :
    Except Raised (CheckpointRow × RunTables) := do
  let run ← t.requireRun
  require (run.status ∈ terminalRunStatuses) (.control .runtimeCheckpointCompactionRunNotTerminal)
  match t.checkpoints.find? (·.isFinalManifest) with
  | some manifest => do
    require (archivable = true) (.control .runtimeCheckpointCompactionEvidenceMissing)
    .ok (manifest, { t with
      checkpoints := t.checkpoints.filter (·.checkpointId = "rtmanifest_" ++ run.runtimeRunId) })
  | none =>
    match run.latestCheckpointId.bind t.checkpointRow with
    | none => .error (.control .runtimeCheckpointCompactionSourceMissing)
    | some source => do
      require (archivable = true) (.control .runtimeCheckpointCompactionEvidenceMissing)
      -- This UPDATE has no guard on the outcome columns, and it takes the time of the source.
      .ok (finalManifest run source, { t with
        checkpoints := [finalManifest run source]
        run := some { run with
          latestCheckpointId := some (finalManifest run source).checkpointId
          updatedAt := source.createdAt } })

/-- The checkpoint from which a compaction of these rows would write a manifest. -/
def RunTables.compactionSource (t : RunTables) : Option CheckpointRow :=
  if t.checkpoints.find? (·.isFinalManifest) = none then
    (t.run.bind (·.latestCheckpointId)).bind t.checkpointRow
  else none

/-- What a compaction does: it replaces checkpoints, and where it writes the manifest it moves the
run's checkpoint pointer and the time of its last update. -/
theorem compactTerminalCheckpoints_ok {archivable : Bool} {row : CheckpointRow}
    (h : compactTerminalCheckpoints t archivable = .ok (row, t')) :
    ∃ run checkpoints, t.run = some run ∧ run.status ∈ terminalRunStatuses ∧ archivable = true ∧
      ((t.compactionSource = none ∧ t' = { t with checkpoints := checkpoints }) ∨
        ∃ source, t.compactionSource = some source ∧
          t' = { t with
            checkpoints := checkpoints
            run := some { run with
              latestCheckpointId := some (finalManifest run source).checkpointId
              updatedAt := source.createdAt } }) := by
  simp only [compactTerminalCheckpoints, bind_eq_ok, RunTables.requireRun_eq_ok, require_eq_ok] at h
  obtain ⟨run, hrun, -, hterminal, h⟩ := h
  cases hmanifest : t.checkpoints.find? (·.isFinalManifest) with
  | some manifest =>
    simp only [hmanifest, bind_eq_ok, require_eq_ok, Except.ok.injEq, Prod.mk.injEq] at h
    obtain ⟨-, harchivable, -, rfl⟩ := h
    exact ⟨run, _, hrun, hterminal, harchivable,
      .inl ⟨by simp [RunTables.compactionSource, hmanifest], rfl⟩⟩
  | none =>
    simp only [hmanifest] at h
    cases hsource : run.latestCheckpointId.bind t.checkpointRow with
    | none => simp [hsource] at h
    | some source =>
      simp only [hsource, bind_eq_ok, require_eq_ok, Except.ok.injEq, Prod.mk.injEq] at h
      obtain ⟨-, harchivable, -, rfl⟩ := h
      refine ⟨run, _, hrun, hterminal, harchivable, .inr ⟨source, ?_, rfl⟩⟩
      simpa [RunTables.compactionSource, hmanifest, hrun] using hsource

end SeekTalent.RuntimeControl
