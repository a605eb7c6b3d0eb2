import SeekTalent.RuntimeControl.RunStore

/-!
# Recovery of a lost executor

The query for the next lease to recover, the decision for the run it belongs to
(`seektalent_runtime_control/checkpoint_recovery.py`) and the transaction that settles it
(`settle_next_expired_executor_lease`), with the attention record of an unresolved external effect
(`seektalent_runtime_control/recovery_attention.py`).

What `_recoverable_checkpoint_from_run_row` makes of the stored checkpoint depends on tables that
are not part of a run's control state (candidate truth, source operations, round barriers); it is an
input of the settlement here, so that a statement about settlements covers every reading.
-/

namespace SeekTalent.RuntimeControl

open Foundation

variable {t t' : RunTables} {now : Nat} {lease : LeaseRow}
variable {run : RunRow}

/-- Why a checkpoint could not be loaded (`RuntimeCheckpointLoadFailure.reason_code`). -/
inductive CheckpointLoadReason
  | missing
  | runMismatch
  | schemaUnsupported
  | corrupt
  | safeBoundaryUnregistered
  | safeBoundaryInvalid
  | sourceOperationUnresolved
  deriving DecidableEq, Repr

/-- The text of a load reason. -/
def CheckpointLoadReason.code : CheckpointLoadReason → String
  | .missing => "runtime_checkpoint_missing"
  | .runMismatch => "runtime_checkpoint_run_mismatch"
  | .schemaUnsupported => "runtime_checkpoint_schema_unsupported"
  | .corrupt => "runtime_checkpoint_corrupt"
  | .safeBoundaryUnregistered => "runtime_checkpoint_safe_boundary_unregistered"
  | .safeBoundaryInvalid => "runtime_checkpoint_safe_boundary_invalid"
  | .sourceOperationUnresolved => "runtime_source_operation_unresolved"

/-- What `_recoverable_checkpoint_from_run_row` returns. -/
inductive CheckpointReading
  | absent
  | loadFailure (checkpointId : String) (reason : CheckpointLoadReason)
  | recoverable (checkpoint : CheckpointRow)
  deriving DecidableEq, Repr

/-- `RuntimeRecoveryPlan`. -/
structure RecoveryPlan where
  reasonCode : String
  targetStatus : RunStatus
  eventType : EventType
  eventStatus : String
  checkpointId : Option String := none
  deriving DecidableEq, Repr

/-- The plan for an executor that was lost without a checkpoint to go back to, or whose checkpoint
the policy does not resume. -/
def executorLostPlan (runStatus : RunStatus) (checkpointId : Option String) : RecoveryPlan :=
  if runStatus = .starting then
    { reasonCode := "runtime_executor_start_timeout"
      targetStatus := .failed
      eventType := .executorStartFailed
      eventStatus := "failed"
      checkpointId := checkpointId }
  else
    { reasonCode := "runtime_executor_crash_timeout"
      targetStatus := .failed
      eventType := .executorCrashed
      eventStatus := "failed"
      checkpointId := checkpointId }

/-- `decide_expired_lease_recovery`. -/
def decideExpiredLeaseRecovery (runStatus : RunStatus) (checkpoint : CheckpointReading)
    (resumeRecoverable : Bool) : RecoveryPlan :=
  match runStatus, checkpoint with
  | .cancellationRequested, _ =>
    { reasonCode := "runtime_cancel_after_executor_lost"
      targetStatus := .cancelled
      eventType := .runCancelled
      eventStatus := "completed" }
  | .pauseRequested, _ =>
    { reasonCode := "runtime_pause_after_executor_lost"
      targetStatus := .failed
      eventType := .executorCrashed
      eventStatus := "failed" }
  | _, .loadFailure checkpointId .sourceOperationUnresolved =>
    { reasonCode := CheckpointLoadReason.sourceOperationUnresolved.code
      targetStatus := .needsAttention
      eventType := .sourceOperationNeedsReconciliation
      eventStatus := "blocked"
      checkpointId := some checkpointId }
  | _, .loadFailure checkpointId reason =>
    { reasonCode := reason.code
      targetStatus := .failed
      eventType := .checkpointRestoreFailed
      eventStatus := "failed"
      checkpointId := some checkpointId }
  | status, .recoverable restored =>
    if resumeRecoverable then
      { reasonCode := "runtime_checkpoint_restored"
        targetStatus := .resumeRequested
        eventType := .checkpointRestored
        eventStatus := "completed"
        checkpointId := some restored.checkpointId }
    else executorLostPlan status (some restored.checkpointId)
  | status, .absent => executorLostPlan status none

/-- The run statuses whose active lease recovery picks up once its time has run out. -/
def activeLeaseRecoveryStatuses : List RunStatus :=
  [.queued, .starting, .running, .pauseRequested, .paused, .resumeRequested,
    .cancellationRequested, .cancelled, .completed, .failed]

/-- The run statuses whose already expired lease recovery still picks up. -/
def expiredLeaseRecoveryStatuses : List RunStatus :=
  [.starting, .running, .cancellationRequested]

/-- Whether the expired lease was settled: its decision event is recorded. -/
def RunTables.Settled (t : RunTables) (leaseId : String) : Prop :=
  ∃ event ∈ t.events, event.idempotencyKey = some (.recoveryDecision leaseId)

instance (t : RunTables) (leaseId : String) : Decidable (t.Settled leaseId) :=
  inferInstanceAs (Decidable (∃ event ∈ t.events, _))

/-- The WHERE clause of `_next_recovery_lease_row`. -/
def RunTables.RecoveryCandidate (t : RunTables) (status : RunStatus) (now : Nat)
    (lease : LeaseRow) : Prop :=
  (lease.status = .active ∧ lease.leaseExpiresAt ≤ now ∧ status ∈ activeLeaseRecoveryStatuses) ∨
    (lease.status = .expired ∧ status ∈ expiredLeaseRecoveryStatuses ∧
      lease.attemptNo = t.latestAttempt ∧ t.activeLeaseRow = none ∧ ¬t.Settled lease.leaseId)

instance (t : RunTables) (status : RunStatus) (now : Nat) (lease : LeaseRow) :
    Decidable (t.RecoveryCandidate status now lease) :=
  inferInstanceAs (Decidable (_ ∨ _))

/-- The ORDER BY clause of `_next_recovery_lease_row`: active leases first, then by expiry, then the
latest attempt. -/
def recoveryOrder (a b : LeaseRow) : Prop :=
  let rank (lease : LeaseRow) := if lease.status = .active then 0 else 1
  rank a < rank b ∨ (rank a = rank b ∧ (a.leaseExpiresAt < b.leaseExpiresAt ∨
    (a.leaseExpiresAt = b.leaseExpiresAt ∧ b.attemptNo ≤ a.attemptNo)))

instance (a b : LeaseRow) : Decidable (recoveryOrder a b) :=
  inferInstanceAs (Decidable (_ ∨ _))

/-- `_next_recovery_lease_row` over the leases of this run. -/
def RunTables.nextRecoveryLeaseRow (t : RunTables) (now : Nat) : Option LeaseRow :=
  match t.run with
  | none => none
  | some run =>
    ((t.leases.filter (t.RecoveryCandidate run.status now)).insertionSort recoveryOrder).head?

/-- The lease recovery picks is one of the run's and meets the WHERE clause. -/
theorem RunTables.nextRecoveryLeaseRow_spec (h : t.nextRecoveryLeaseRow now = some lease) :
    ∃ run, t.run = some run ∧ lease ∈ t.leases ∧ t.RecoveryCandidate run.status now lease := by
  unfold RunTables.nextRecoveryLeaseRow at h
  split at h
  · cases h
  · rename_i run hrun
    have hmem := List.mem_of_mem_head? h
    rw [List.mem_insertionSort, List.mem_filter] at hmem
    exact ⟨run, hrun, hmem.1, by simpa using hmem.2⟩

/-- The run statuses for which settling a lease is only expiring it
(`_LEASE_ONLY_CLEANUP_RUN_STATUSES`). -/
def leaseOnlyCleanupRunStatuses : List RunStatus :=
  terminalRunStatuses ++ [.queued, .paused, .resumeRequested]

/-- `_matching_legacy_expiry_event`. -/
def RunTables.matchingExpiryEvent (t : RunTables) (lease : LeaseRow) : Option EventRow :=
  t.events.find? (fun event => event.eventType = .executorLeaseExpired ∧
    event.payload.executorId = some lease.executorId ∧
    event.payload.attemptNo = some lease.attemptNo)

/-- The types of the decisions that recovery recorded before its events had keys. -/
def legacyDecisionTypes : List EventType :=
  [.executorCrashed, .executorStartFailed, .runCancelled, .checkpointRestoreFailed,
    .checkpointRestored]

/-- `_legacy_decision_event_belongs_to_lease`. -/
def LegacyDecisionBelongs (eventType : EventType) (payload : EventPayload) (lease : LeaseRow) :
    Prop :=
  (∀ id ∈ payload.leaseId, id = lease.leaseId) ∧
    (∀ attempt ∈ payload.attemptNo, attempt = lease.attemptNo) ∧
    if eventType ∈ [EventType.executorCrashed, .executorStartFailed, .runCancelled] then
      payload.executorId = some lease.executorId
    else ∀ id ∈ payload.executorId, id = lease.executorId

instance (eventType : EventType) (payload : EventPayload) (lease : LeaseRow) :
    Decidable (LegacyDecisionBelongs eventType payload lease) := by
  unfold LegacyDecisionBelongs
  infer_instance

/-- `_paired_legacy_decision_event`: the oldest keyless decision between the expiry event and the
next expiry event that belongs to the lease. -/
def RunTables.pairedLegacyDecision (t : RunTables) (lease : LeaseRow) (afterEventSeq : Nat) :
    Option EventRow :=
  let boundaries := (t.events.filter (fun event =>
    event.eventType = .executorLeaseExpired ∧ afterEventSeq < event.eventSeq)).map (·.eventSeq)
  t.events.reverse.find? (fun event => afterEventSeq < event.eventSeq ∧
    (∀ boundary ∈ boundaries, event.eventSeq < boundary) ∧
    event.eventType ∈ legacyDecisionTypes ∧ event.idempotencyKey = none ∧
    LegacyDecisionBelongs event.eventType event.payload lease)

/-- `_legacy_decision_payload_matches`. -/
def LegacyDecisionMatches (payload : EventPayload) (lease : LeaseRow) (plan : RecoveryPlan) :
    Prop :=
  LegacyDecisionBelongs plan.eventType payload lease ∧
    (if plan.eventType = .checkpointRestored then
      ∀ reason ∈ payload.reasonCode, reason = plan.reasonCode
    else payload.reasonCode = some plan.reasonCode) ∧
    payload.checkpointId = plan.checkpointId

instance (payload : EventPayload) (lease : LeaseRow) (plan : RecoveryPlan) :
    Decidable (LegacyDecisionMatches payload lease plan) := by
  unfold LegacyDecisionMatches
  infer_instance

/-- The event that records the expiry of a lease. -/
def expiryEvent (run : RunRow) (lease : LeaseRow) (now : Nat) : EventInput where
  eventId := .recovery lease.leaseId "lease-expired"
  eventType := .executorLeaseExpired
  stage := run.currentStage
  roundNo := run.currentRound
  status := "failed"
  payload := {
    leaseId := some lease.leaseId
    executorId := some lease.executorId
    attemptNo := some lease.attemptNo }
  idempotencyKey := some (.recoveryExpired lease.leaseId)
  createdAt := now

/-- `_append_recovery_expiry_event`. -/
def appendRecoveryExpiryEvent (t : RunTables) (run : RunRow) (lease : LeaseRow) (now : Nat) :
    Except Raised (EventRow × RunTables) :=
  match t.matchingExpiryEvent lease with
  | some legacy => .ok (legacy, t)
  | none => appendEventInTransaction t (expiryEvent run lease now) {}

/-- The expiry is already recorded, or its event is appended. -/
theorem appendRecoveryExpiryEvent_ok
    {row : EventRow} (h : appendRecoveryExpiryEvent t run lease now = .ok (row, t')) :
    t' = t ∨ appendEventInTransaction t (expiryEvent run lease now) {} = .ok (row, t') := by
  unfold appendRecoveryExpiryEvent at h
  split at h
  · simp only [Except.ok.injEq, Prod.mk.injEq] at h
    exact .inl h.2.symm
  · exact .inr h

/-- The stage and round a settled run continues from: the restored checkpoint's, or its own. -/
def settledPosition (run : RunRow) (checkpoint : CheckpointReading) (plan : RecoveryPlan) :
    String × Option Nat :=
  match checkpoint with
  | .recoverable restored =>
    if plan.targetStatus = .resumeRequested then (restored.stage, restored.roundNo)
    else (run.currentStage, run.currentRound)
  | _ => (run.currentStage, run.currentRound)

/-- The event that records the decision about a lease. -/
def decisionEvent (run : RunRow) (lease : LeaseRow) (checkpoint : CheckpointReading)
    (plan : RecoveryPlan) (now : Nat) : EventInput where
  eventId := .recovery lease.leaseId "decision"
  eventType := plan.eventType
  stage := (settledPosition run checkpoint plan).1
  roundNo := (settledPosition run checkpoint plan).2
  status := plan.eventStatus
  payload := {
    reasonCode := some plan.reasonCode
    leaseId := some lease.leaseId
    executorId := some lease.executorId
    attemptNo := some lease.attemptNo
    checkpointId := plan.checkpointId }
  idempotencyKey := some (.recoveryDecision lease.leaseId)
  createdAt := now

/-- `_append_recovery_decision_event`: a matching decision from before the keys is not repeated. -/
def appendRecoveryDecisionEvent (t : RunTables) (run : RunRow) (lease : LeaseRow)
    (checkpoint : CheckpointReading) (plan : RecoveryPlan) (afterEventSeq now : Nat) :
    Except Raised RunTables :=
  let repeated := ∃ paired ∈ t.pairedLegacyDecision lease afterEventSeq,
    paired.eventType = plan.eventType ∧ paired.status = plan.eventStatus ∧
      LegacyDecisionMatches paired.payload lease plan
  if repeated then .ok t
  else do
    let (_, next) ← appendEventInTransaction t (decisionEvent run lease checkpoint plan now) {}
    .ok next

variable {checkpoint : CheckpointReading}

/-- The decision is already recorded, or its event is appended. -/
theorem appendRecoveryDecisionEvent_ok {plan : RecoveryPlan} {afterEventSeq : Nat}
    (h : appendRecoveryDecisionEvent t run lease checkpoint plan afterEventSeq now = .ok t') :
    t' = t ∨ ∃ row, appendEventInTransaction t (decisionEvent run lease checkpoint plan now) {} =
      .ok (row, t') := by
  unfold appendRecoveryDecisionEvent at h
  simp only at h
  split at h
  · simp only [Except.ok.injEq] at h
    exact .inl h.symm
  · simp only [bind_eq_ok, Except.ok.injEq] at h
    obtain ⟨⟨row, next⟩, happend, rfl⟩ := h
    exact .inr ⟨row, happend⟩

/-- `enter_recovery_attention`: record the first operation whose result is not committed. -/
def enterRecoveryAttention (t : RunTables) (enteredAt : Nat) : Except Raised RunTables :=
  let unresolved := (t.sourceOperations.filter (fun o => ¬o.MainCommitted)).insertionSort
    (fun a b => a.operationId ≤ b.operationId)
  match unresolved.head?, t.recoveryAttention with
  | none, _ => .error (.control .runtimeSourceOperationUnresolvedEvidenceMissing)
  | some o, some attention =>
    if attention.resolvedAt = none ∧ attention.operationId = o.operationId ∧
        attention.effectBoundary = o.operationPhase ∧
        attention.evidenceDigest = o.canonicalRequestHash then .ok t
    else .error (.control .runtimeRecoveryAttentionConflict)
  | some o, none =>
    -- The table's CHECK admits the boundaries before the main commit only.
    if o.operationPhase = .mainCommitted then .error .integrityError
    else .ok { t with recoveryAttention := some {
      operationId := o.operationId
      effectBoundary := o.operationPhase
      evidenceDigest := o.canonicalRequestHash
      enteredAt := enteredAt
      resolvedAt := none } }

/-- Entering attention writes the attention record only. -/
theorem enterRecoveryAttention_ok {enteredAt : Nat}
    (h : enterRecoveryAttention t enteredAt = .ok t') :
    ∃ attention, t' = { t with recoveryAttention := attention } := by
  unfold enterRecoveryAttention at h
  dsimp only at h
  split at h
  · cases h
  · split at h
    · simp only [Except.ok.injEq] at h
      exact ⟨t.recoveryAttention, h.symm⟩
    · cases h
  · split at h
    · cases h
    · simp only [Except.ok.injEq] at h
      exact ⟨_, h.symm⟩

/-- The run row of a settled lease. -/
def RunRow.settled (run : RunRow) (plan : RecoveryPlan) (position : String × Option Nat)
    (now : Nat) : RunRow :=
  { run with
    status := plan.targetStatus
    currentStage := position.1
    currentRound := position.2
    updatedAt := now
    stopReasonCode :=
      if plan.targetStatus ∈ terminalRunStatuses then some plan.reasonCode else run.stopReasonCode
    completedAt :=
      if plan.targetStatus ∈ terminalRunStatuses then run.completedAt.or (some now)
      else run.completedAt
    stateRevision := run.stateRevision + 1 }

/-- What a settlement reports: nothing to settle, a lease cleaned up without a decision, or the
decision taken. -/
inductive Settlement
  | nothing
  | cleanedUp
  | decided (reasonCode : String)
  deriving DecidableEq, Repr

/-- What the settlement reads of the stored checkpoint: a run that is about to stop goes back to
none. -/
def settlementReading (run : RunRow) (checkpoint : CheckpointReading) : CheckpointReading :=
  if run.status = .cancellationRequested ∨ run.status = .pauseRequested then .absent
  else checkpoint

/-- Record the attention of a run that the plan hands to its user. -/
def attendIfNeeded (t : RunTables) (plan : RecoveryPlan) (now : Nat) : Except Raised RunTables :=
  if plan.targetStatus = .needsAttention then enterRecoveryAttention t now else .ok t

/-- The part of the settlement that decides about a run whose lease has expired. -/
def decideSettlement (t : RunTables) (run : RunRow) (lease : LeaseRow)
    (checkpoint : CheckpointReading) (resumeRecoverable : Bool) (now : Nat) :
    Except Raised (Settlement × RunTables) := do
  let reading := settlementReading run checkpoint
  let plan := decideExpiredLeaseRecovery run.status reading resumeRecoverable
  let (expiry, expired) ← appendRecoveryExpiryEvent t run lease now
  let decided ← appendRecoveryDecisionEvent expired run lease reading plan expiry.eventSeq now
  requireRunTransition run.status plan.targetStatus
  let attended ← attendIfNeeded decided plan now
  let current ← attended.requireRun
  .ok (.decided plan.reasonCode,
    { attended with run := some (current.settled plan (settledPosition run reading plan) now) })

/-- The rows a settlement starts from: the picked lease is expired if it was active. -/
def RunTables.withExpired (t : RunTables) (lease : LeaseRow) (now : Nat) : RunTables :=
  if lease.status = .active then (t.updateLease (expireLease lease now)).bumpRevision else t

/-- `settle_next_expired_executor_lease` when the recovery query picks this run or finds nothing to
recover. -/
def settleNextExpiredExecutorLease (t : RunTables) (checkpoint : CheckpointReading)
    (resumeRecoverable : Bool) (now : Nat) : Except Raised (Settlement × RunTables) :=
  match t.run, t.nextRecoveryLeaseRow now with
  | some run, some lease => do
    requireRunTruthMutable run
    let expired := t.withExpired lease now
    if lease.status ≠ .active ∧ t.activeLeaseRow ≠ none then .ok (.nothing, t)
    else if run.status ∈ leaseOnlyCleanupRunStatuses then .ok (.cleanedUp, expired)
    else decideSettlement expired run lease checkpoint resumeRecoverable now
  | _, _ => .ok (.nothing, t)

/-- What deciding about a lost executor does: it records the expiry and the decision, may enter
attention, and moves the run to the status of the plan. -/
theorem decideSettlement_ok {resumeRecoverable : Bool} {s : Settlement}
    (h : decideSettlement t run lease checkpoint resumeRecoverable now = .ok (s, t')) :
    ∃ reading plan expiry expired decided attention current,
      plan = decideExpiredLeaseRecovery run.status reading resumeRecoverable ∧
      appendRecoveryExpiryEvent t run lease now = .ok (expiry, expired) ∧
      appendRecoveryDecisionEvent expired run lease reading plan expiry.eventSeq now = .ok decided ∧
      plan.targetStatus ∈ allowedTransitions run.status ∧ decided.run = some current ∧
      t' = { decided with
        recoveryAttention := attention
        run := some (current.settled plan (settledPosition run reading plan) now) } := by
  simp only [decideSettlement, bind_eq_ok, requireRunTransition_eq_ok, RunTables.requireRun_eq_ok,
    Except.ok.injEq, Prod.mk.injEq] at h
  obtain ⟨⟨expiry, expired⟩, hexpiry, decided, hdecided, -, hallowed, attended, hattended, current,
    hcurrent, -, rfl⟩ := h
  have hattention : ∃ attention, attended = { decided with recoveryAttention := attention } := by
    unfold attendIfNeeded at hattended
    split at hattended
    · exact enterRecoveryAttention_ok hattended
    · simp only [Except.ok.injEq] at hattended
      exact ⟨decided.recoveryAttention, hattended.symm⟩
  obtain ⟨attention, rfl⟩ := hattention
  exact ⟨_, _, expiry, expired, decided, attention, current, rfl, hexpiry, hdecided, hallowed,
    hcurrent, rfl⟩

/-- What a settlement does: nothing, only expire the lease, or decide about the run. -/
theorem settleNextExpiredExecutorLease_ok {resumeRecoverable : Bool} {s : Settlement}
    (h : settleNextExpiredExecutorLease t checkpoint resumeRecoverable now = .ok (s, t')) :
    t' = t ∨ ∃ run lease, t.run = some run ∧ run.TruthMutable ∧ lease ∈ t.leases ∧
      t.RecoveryCandidate run.status now lease ∧
      ((run.status ∈ leaseOnlyCleanupRunStatuses ∧ t' = t.withExpired lease now) ∨
        decideSettlement (t.withExpired lease now) run lease checkpoint resumeRecoverable now =
          .ok (s, t')) := by
  unfold settleNextExpiredExecutorLease at h
  split at h
  · rename_i run lease hrun hlease
    obtain ⟨run', hrun', hmem, hcandidate⟩ := RunTables.nextRecoveryLeaseRow_spec hlease
    obtain rfl : run = run' := by simpa [hrun] using hrun'
    simp only [bind_eq_ok, requireRunTruthMutable_eq_ok] at h
    obtain ⟨-, hmutable, h⟩ := h
    split at h
    · simp only [Except.ok.injEq, Prod.mk.injEq] at h
      exact .inl h.2.symm
    · split at h
      · rename_i hcleanup
        simp only [Except.ok.injEq, Prod.mk.injEq] at h
        exact .inr ⟨run, lease, hrun, hmutable, hmem, hcandidate, .inl ⟨hcleanup, h.2.symm⟩⟩
      · exact .inr ⟨run, lease, hrun, hmutable, hmem, hcandidate, .inr h⟩
  · simp only [Except.ok.injEq, Prod.mk.injEq] at h
    exact .inl h.2.symm

/-- `resolve_source_operation_recovery_attention`: the run resumes once every source operation is
committed, or its latest reconciliation proved that nothing was dispatched (`provedNoDispatch`, the
EXISTS subquery over the reconciliations). -/
def resolveRecoveryAttention (t : RunTables) (provedNoDispatch : SourceOperationRow → Bool)
    (resolvedAt : Nat) : Except Raised (RunRow × RunTables) := do
  let run ← t.requireRun
  require (run.status = .needsAttention ∧ run.currentActionId = none ∧ t.activeLeaseRow = none)
    (.control .runtimeRecoveryAttentionNotActive)
  match t.recoveryAttention with
  | none => .error (.control .runtimeRecoveryAttentionNotActive)
  | some attention => do
    require (attention.resolvedAt = none) (.control .runtimeRecoveryAttentionNotActive)
    require (∀ o ∈ t.sourceOperations, o.MainCommitted ∨
        (o.retryPosture = .safeRetry ∧ o.conclusiveObservationRef = none ∧
          provedNoDispatch o = true))
      (.control .runtimeSourceOperationUnresolved)
    let resumed := { run with
      status := .resumeRequested
      productOutcome := none
      updatedAt := resolvedAt
      stateRevision := run.stateRevision + 1 }
    .ok (resumed, { t with
      run := some resumed
      recoveryAttention := some { attention with resolvedAt := some resolvedAt } })

/-- What resolving attention does. -/
theorem resolveRecoveryAttention_ok {provedNoDispatch : SourceOperationRow → Bool}
    {resolvedAt : Nat} {row : RunRow}
    (h : resolveRecoveryAttention t provedNoDispatch resolvedAt = .ok (row, t')) :
    ∃ run attention, t.run = some run ∧ run.status = .needsAttention ∧
      run.currentActionId = none ∧ t.activeLeaseRow = none ∧
      row = { run with
        status := .resumeRequested
        productOutcome := none
        updatedAt := resolvedAt
        stateRevision := run.stateRevision + 1 } ∧
      t' = { t with run := some row, recoveryAttention := attention } := by
  simp only [resolveRecoveryAttention, bind_eq_ok, RunTables.requireRun_eq_ok, require_eq_ok] at h
  obtain ⟨run, hrun, -, ⟨hstatus, haction, hidle⟩, h⟩ := h
  split at h
  · cases h
  · simp only [bind_eq_ok, require_eq_ok, Except.ok.injEq, Prod.mk.injEq] at h
    obtain ⟨-, -, -, -, rfl, rfl⟩ := h
    exact ⟨run, _, hrun, hstatus, haction, hidle, rfl, rfl⟩

end SeekTalent.RuntimeControl
