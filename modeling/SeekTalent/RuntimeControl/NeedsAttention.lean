import SeekTalent.RuntimeControl.FailedOutcome

/-!
# Needs attention

The lifecycle by which a run waits for its user (`seektalent_runtime_control/needs_attention.py`):
entering it with a stored failure envelope and a pending action, leaving it resolved, cancelled or
failed, and the validation of a run row that every read goes through.

Entering and leaving are admitted after comparisons with the source ledger and the evidence of the
action; what those comparisons find is an input here (`admitted`, `agrees`), so that a statement
about these transactions covers every finding.
-/

namespace SeekTalent.RuntimeControl

open Foundation

variable {t t' : RunTables} {row : RunRow}

/-- A pending action is the one the run row names. -/
def UserActionRow.Current (action : UserActionRow) (run : RunRow) : Prop :=
  action.status = .pending ∧ run.currentFailureId = some action.failureId ∧
    run.currentFailureRevision = some action.failureRevision ∧
    run.latestCheckpointId = some action.checkpointId ∧
    run.currentFailureAuthorityMode = some action.authorityMode ∧
    run.currentFailureOwnerLeaseId = action.ownerLeaseId

instance (action : UserActionRow) (run : RunRow) : Decidable (action.Current run) :=
  inferInstanceAs (Decidable (_ ∧ _ ∧ _ ∧ _ ∧ _ ∧ _))

/-- The envelope of a current action is stored and says that the run needs attention. -/
def RunTables.ActionEnvelopeAgrees (t : RunTables) (run : RunRow) (action : UserActionRow) : Prop :=
  ∃ envelope ∈ t.loadFailureEnvelope action.failureId action.failureRevision,
    envelope.runId = run.runtimeRunId ∧ envelope.currentOutcome = some .needsAttention ∧
      envelope.operationId = some action.operationId

instance (t : RunTables) (run : RunRow) (action : UserActionRow) :
    Decidable (t.ActionEnvelopeAgrees run action) := by
  unfold RunTables.ActionEnvelopeAgrees
  infer_instance

/-- The lease that a current action names was revoked for it. -/
def RunTables.ActionLeaseAgrees (t : RunTables) (action : UserActionRow) : Prop :=
  action.authorityMode = .activeOwner →
    ∃ lease ∈ t.leases.find? (fun lease => some lease.leaseId = action.ownerLeaseId),
      lease.status = .revoked ∧ lease.reasonCode = some "runtime_needs_attention"

instance (t : RunTables) (action : UserActionRow) : Decidable (t.ActionLeaseAgrees action) :=
  inferInstanceAs (Decidable (_ → _))

/-- The checks on a run row whose status is not `needs_attention`. -/
def validateUnattendedRow (run : RunRow) : Except Raised Unit :=
  if run.productOutcome ≠ some .failed ∧ ¬run.FailureTruthEmpty then
    .error (.control .failedOutcomeIntegrityFailed)
  else
    require (run.productOutcome ≠ some .needsAttention ∧ run.currentActionId = none)
      (.control .needsAttentionIntegrityFailed)

/-- The checks on a run row that waits for its user. -/
def validateAttendedRow (t : RunTables) (run : RunRow) : Except Raised Unit :=
  match run.currentActionId with
  | none =>
    require ((∃ attention ∈ t.recoveryAttention, attention.resolvedAt = none) ∧
        run.productOutcome = none ∧ run.FailureTruthEmpty ∧ t.activeLeaseRow = none)
      (.control .needsAttentionIntegrityFailed)
  | some actionId =>
    match t.actionRow actionId with
    | none => .error (.control .needsAttentionIntegrityFailed)
    | some action =>
      require (run.productOutcome = some .needsAttention ∧ action.Current run ∧
          t.ActionEnvelopeAgrees run action ∧ t.ActionLeaseAgrees action ∧
          t.activeLeaseRow = none)
        (.control .needsAttentionIntegrityFailed)

/-- `validate_needs_attention_row`: the history of the run's actions, then the run row. -/
def validateNeedsAttentionRow (t : RunTables) (run : RunRow) : Except Raised Unit := do
  require (t.userActions = [] ∨ t.actionHistoryAgrees = true)
    (.control .needsAttentionIntegrityFailed)
  if run.status = .needsAttention then validateAttendedRow t run else validateUnattendedRow run

/-- `_validated_run_from_row`. -/
def validatedRunFromRow (t : RunTables) (run : RunRow) : Except Raised RunRow := do
  validateNeedsAttentionRow t run
  validateFailedOutcomeRow t run
  .ok run

/-- A validated read returns the row it validated. -/
theorem validatedRunFromRow_eq_ok {run : RunRow} :
    validatedRunFromRow t run = .ok row ↔
      validateNeedsAttentionRow t run = .ok () ∧ validateFailedOutcomeRow t run = .ok () ∧
        run = row := by
  simp only [validatedRunFromRow, check_bind_eq_ok, Except.ok.injEq]

/-- The arguments of `commit_needs_attention`. -/
structure AttentionRequest where
  actionId : String
  operationId : String
  checkpoint : CheckpointRow
  envelope : FailureEnvelope
  expectedStateRevision : Nat
  enteredAt : Nat
  executorId : Option String
  attemptNo : Option Nat
  admitted : Bool
  deriving DecidableEq, Repr

/-- The owner whose lease an entry revokes: the live owner the caller names, or nobody for a run
that waits to be resumed. -/
def attentionOwner (t : RunTables) (run : RunRow) (a : AttentionRequest) :
    Except Raised (Option LeaseRow) :=
  match a.executorId, a.attemptNo with
  | some executorId, some attemptNo =>
    match t.activeLeaseRow with
    | some lease =>
      if run.status ∈ [RunStatus.starting, .running, .pauseRequested] ∧
          lease.executorId = executorId ∧ lease.attemptNo = attemptNo ∧
          a.enteredAt < lease.leaseExpiresAt then .ok (some lease)
      else .error (.control .needsAttentionAuthorityRejected)
    | none => .error (.control .needsAttentionAuthorityRejected)
  | none, none => do
    require (run.status = .resumeRequested ∧ t.activeLeaseRow = none)
      (.control .needsAttentionAuthorityRejected)
    require (¬∃ o ∈ t.sourceOperations, o.retryPosture = .reconcileFirst)
      (.control .runtimeSourceOperationUnresolved)
    require (run.latestCheckpointId = some a.checkpoint.checkpointId)
      (.control .needsAttentionCheckpointMismatch)
    .ok none
  | _, _ => .error (.control .needsAttentionAuthorityRejected)

/-- An owner whose lease an entry revokes holds the active lease. -/
theorem attentionOwner_ok {run : RunRow} {a : AttentionRequest}
    {owner : Option LeaseRow} (h : attentionOwner t run a = .ok owner) :
    t.activeLeaseRow = owner := by
  unfold attentionOwner at h
  split at h
  · split at h
    · rename_i lease hlease
      split at h
      · simp only [Except.ok.injEq] at h
        exact hlease.trans h
      · cases h
    · cases h
  · simp only [bind_eq_ok, require_eq_ok, Except.ok.injEq] at h
    obtain ⟨-, ⟨-, hidle⟩, -, -, -, -, rfl⟩ := h
    exact hidle
  · cases h

/-- The action of an entry. -/
def AttentionRequest.action (a : AttentionRequest) (owner : Option LeaseRow) : UserActionRow where
  actionId := a.actionId
  status := .pending
  operationId := a.operationId
  checkpointId := a.checkpoint.checkpointId
  failureId := a.envelope.failureId
  failureRevision := a.envelope.revision
  authorityMode := if owner.isSome then .activeOwner else .noOwner
  ownerLeaseId := owner.map (·.leaseId)
  resolutionEvidenceRef := none
  resolutionAt := none
  createdAt := a.enteredAt

/-- The run row after an entry. -/
def RunRow.attended (run : RunRow) (a : AttentionRequest) (owner : Option LeaseRow) : RunRow :=
  { run with
    status := .needsAttention
    currentStage := a.checkpoint.stage
    currentRound := a.checkpoint.roundNo
    latestCheckpointId := some a.checkpoint.checkpointId
    productOutcome := some .needsAttention
    currentFailureId := some a.envelope.failureId
    currentFailureRevision := some a.envelope.revision
    currentFailureOwnerLeaseId := owner.map (·.leaseId)
    currentFailureAuthorityMode := some (if owner.isSome then .activeOwner else .noOwner)
    currentActionId := some a.actionId
    stopReasonCode := some a.envelope.reasonCode
    updatedAt := a.enteredAt
    completedAt := none
    stateRevision := run.stateRevision + 1 }

/-- The lease table after an owner gave up its lease to the user's attention. -/
def RunTables.releasedForAttention (t : RunTables) (owner : Option LeaseRow) (enteredAt : Nat) :
    RunTables :=
  match owner with
  | some lease => t.updateLease (revokeLease lease enteredAt "runtime_needs_attention")
  | none => t

/-- `commit_needs_attention`. -/
def commitNeedsAttention (t : RunTables) (a : AttentionRequest) :
    Except Raised (RunRow × RunTables) := do
  let run ← t.requireRun
  if run.status = .needsAttention then
    require (a.admitted = true ∧ run.stateRevision = a.expectedStateRevision + 1 ∧
        run.currentActionId = some a.actionId ∧ t.activeLeaseRow = none)
      (.control .needsAttentionReplayConflict)
    let replayed ← validatedRunFromRow t run
    .ok (replayed, t)
  else do
    require (run.status ≠ .cancellationRequested ∧ run.status ≠ .cancelled)
      (.control .needsAttentionCancellationWon)
    require (run.status ≠ .completed ∧ run.status ≠ .failed)
      (.control .needsAttentionTerminalImmutable)
    require (run.stateRevision = a.expectedStateRevision)
      (.control .needsAttentionRevisionConflict)
    require run.TruthMutable (.control .needsAttentionTruthConflict)
    let owner ← attentionOwner t run a
    require (a.admitted = true) (.control .needsAttentionAdmissionMismatch)
    let checkpointed ← t.storeCheckpoint a.checkpoint
    let stored ← storeFailureEnvelopeRevision checkpointed a.envelope
    require (∀ action ∈ stored.userActions, action.actionId ≠ a.actionId) .integrityError
    let released := stored.releasedForAttention owner a.enteredAt
    let committed := run.attended a owner
    let next := { released with
      userActions := released.userActions ++ [a.action owner]
      run := some committed }
    validateNeedsAttentionRow next committed
    .ok (committed, next)

/-- What an entry does: it replays, or it stores the checkpoint, the envelope and the action,
revokes the owner's lease and moves the run. -/
theorem commitNeedsAttention_ok {a : AttentionRequest}
    (h : commitNeedsAttention t a = .ok (row, t')) :
    t' = t ∨ ∃ run checkpoints envelopes,
      t.run = some run ∧ run.TruthMutable ∧
      run.status ∉ [RunStatus.cancellationRequested, .cancelled, .completed, .failed,
        .needsAttention] ∧
      t' = { ({ t with
          checkpoints := checkpoints
          failureEnvelopes := envelopes } : RunTables).releasedForAttention t.activeLeaseRow
            a.enteredAt with
        userActions := t.userActions ++ [a.action t.activeLeaseRow]
        run := some (run.attended a t.activeLeaseRow) } := by
  simp only [commitNeedsAttention, bind_eq_ok, RunTables.requireRun_eq_ok] at h
  obtain ⟨run, hrun, h⟩ := h
  split at h
  · simp only [bind_eq_ok, Except.ok.injEq, Prod.mk.injEq] at h
    obtain ⟨-, -, -, -, -, rfl⟩ := h
    exact .inl rfl
  · rename_i hattended
    simp only [bind_eq_ok, require_eq_ok, Except.ok.injEq, Prod.mk.injEq] at h
    obtain ⟨-, ⟨hrequested, hcancelled⟩, -, ⟨hcompleted, hfailed⟩, -, -, -, hmutable, owner, howner,
      -, -, checkpointed, hcheckpoint, stored, hstored, -, -, -, -, -, rfl⟩ := h
    obtain rfl := attentionOwner_ok howner
    obtain ⟨checkpoints, rfl⟩ := RunTables.storeCheckpoint_ok hcheckpoint
    obtain ⟨envelopes, rfl⟩ : ∃ envelopes, stored =
        { t with checkpoints := checkpoints, failureEnvelopes := envelopes } := by
      rcases (storeFailureEnvelopeRevision_ok hstored).2 with rfl | rfl
      · exact ⟨t.failureEnvelopes, rfl⟩
      · exact ⟨_, rfl⟩
    refine .inr ⟨run, checkpoints, envelopes, hrun, hmutable,
      by simp [hrequested, hcancelled, hcompleted, hfailed, hattended], ?_⟩
    cases t.activeLeaseRow <;> rfl

/-- The three ways out of needs attention. -/
inductive AttentionExit
  | resolved
  | cancelled
  | failed (envelope : FailureEnvelope) (terminalReasonCode : String)
  deriving DecidableEq, Repr

/-- The status an exit moves the run to. -/
def AttentionExit.targetStatus : AttentionExit → RunStatus
  | .resolved => .resumeRequested
  | .cancelled => .cancelled
  | .failed _ _ => .failed

/-- The status an exit gives the action. -/
def AttentionExit.actionStatus : AttentionExit → UserActionStatus
  | .resolved => .resolved
  | .cancelled => .cancelled
  | .failed _ _ => .failed

/-- The outcome an exit commits. -/
def AttentionExit.outcome : AttentionExit → Option ProductOutcome
  | .resolved => none
  | .cancelled => some .cancelled
  | .failed _ _ => some .failed

/-- The envelope of a failing exit. -/
def AttentionExit.envelope : AttentionExit → Option FailureEnvelope
  | .failed envelope _ => some envelope
  | _ => none

/-- The reason an exit leaves on the run row. -/
def AttentionExit.reasonCode : AttentionExit → Option String
  | .failed _ terminalReasonCode => some terminalReasonCode
  | _ => none

/-- The arguments of an exit. -/
structure ExitRequest where
  actionId : String
  exit : AttentionExit
  resolutionEvidenceRef : String
  expectedStateRevision : Nat
  resolvedAt : Nat
  admitted : Bool
  deriving DecidableEq, Repr

/-- The run row after an exit. -/
def RunRow.exited (run : RunRow) (a : ExitRequest) (checkpointStage : String) : RunRow :=
  { run with
    status := a.exit.targetStatus
    currentStage := match a.exit with
      | .resolved => checkpointStage
      | .cancelled => "cancelled"
      | .failed _ _ => "failed"
    productOutcome := a.exit.outcome
    currentFailureId := a.exit.envelope.map (·.failureId)
    currentFailureRevision := a.exit.envelope.map (·.revision)
    currentFailureOwnerLeaseId := none
    currentFailureAuthorityMode := a.exit.envelope.map fun _ => .noOwner
    currentActionId := none
    stopReasonCode := a.exit.reasonCode
    updatedAt := a.resolvedAt
    completedAt := match a.exit with
      | .resolved => none
      | _ => some a.resolvedAt
    stateRevision := run.stateRevision + 1 }

/-- The actions after an exit. -/
def RunTables.exitedActions (t : RunTables) (a : ExitRequest) : List UserActionRow :=
  t.userActions.map fun action =>
    if action.actionId = a.actionId then
      { action with
        status := a.exit.actionStatus
        resolutionEvidenceRef := some a.resolutionEvidenceRef
        resolutionAt := some a.resolvedAt }
    else action

/-- Store the envelope of a failing exit. -/
def storeExitEnvelope (t : RunTables) : AttentionExit → Except Raised RunTables
  | .failed envelope _ => storeFailureEnvelopeRevision t envelope
  | _ => .ok t

/-- Storing the envelope of an exit touches the table of envelopes only. -/
theorem storeExitEnvelope_ok {exit : AttentionExit} (h : storeExitEnvelope t exit = .ok t') :
    ∃ envelopes, t' = { t with failureEnvelopes := envelopes } := by
  cases exit with
  | failed envelope reasonCode =>
    rcases (storeFailureEnvelopeRevision_ok h).2 with rfl | rfl
    · exact ⟨t'.failureEnvelopes, rfl⟩
    · exact ⟨_, rfl⟩
  | resolved | cancelled =>
    simp only [storeExitEnvelope, Except.ok.injEq] at h
    exact ⟨_, h.symm⟩

/-- A failing exit's envelope says about the failure what the exit says. -/
def AttentionExit.EnvelopeMatches (exit : AttentionExit) (runtimeRunId : String)
    (resolvedAt : Nat) : Prop :=
  match exit with
  | .failed envelope terminalReasonCode =>
    envelope.runId = runtimeRunId ∧ envelope.currentOutcome = some .failed ∧
      envelope.reasonCode = terminalReasonCode ∧ envelope.occurredAt = resolvedAt
  | _ => True

instance (exit : AttentionExit) (runtimeRunId : String) (resolvedAt : Nat) :
    Decidable (exit.EnvelopeMatches runtimeRunId resolvedAt) := by
  unfold AttentionExit.EnvelopeMatches
  split <;> infer_instance

/-- A repeated exit finds the action as it left it. -/
def ExitReplayed (t : RunTables) (run : RunRow) (a : ExitRequest) : Prop :=
  run.status = a.exit.targetStatus ∧
    ∃ action ∈ t.actionRow a.actionId, action.status = a.exit.actionStatus

instance (t : RunTables) (run : RunRow) (a : ExitRequest) : Decidable (ExitReplayed t run a) := by
  unfold ExitReplayed
  infer_instance

/-- `_checkpoint_from_action`, for a run that has not finished: its checkpoints are not archived. -/
def checkpointFromAction (t : RunTables) (actionId : String) : Except Raised CheckpointRow :=
  match (t.actionRow actionId).bind (fun action => t.checkpointRow action.checkpointId) with
  | some checkpoint => .ok checkpoint
  | none => .error (.control .needsAttentionIntegrityFailed)

/-- `_exit_needs_attention`, under `resolve_needs_attention`, `cancel_needs_attention` and
`fail_needs_attention`. -/
def exitNeedsAttention (t : RunTables) (a : ExitRequest) : Except Raised (RunRow × RunTables) := do
  let run ← t.requireRun
  require (a.exit.EnvelopeMatches run.runtimeRunId a.resolvedAt)
    (.control .needsAttentionAdmissionMismatch)
  if ExitReplayed t run a then
    require (a.admitted = true ∧ run.stateRevision = a.expectedStateRevision + 1 ∧
        run.productOutcome = a.exit.outcome ∧ run.currentActionId = none ∧
        t.activeLeaseRow = none)
      (.control .needsAttentionReplayConflict)
    let replayed ← validatedRunFromRow t run
    .ok (replayed, t)
  else do
    require (run.status = .needsAttention) (.control .needsAttentionResolutionConflict)
    validateNeedsAttentionRow t run
    require (run.stateRevision = a.expectedStateRevision ∧ run.currentActionId = some a.actionId ∧
        (∃ action ∈ t.actionRow a.actionId, action.status = .pending) ∧ t.activeLeaseRow = none)
      (.control .needsAttentionRevisionConflict)
    let checkpoint ← checkpointFromAction t a.actionId
    require (a.admitted = true) (.control .needsAttentionSatisfactionMismatch)
    let stored ← storeExitEnvelope t a.exit
    require (run.productOutcome = some .needsAttention) (.control .needsAttentionRevisionConflict)
    let committed := run.exited a checkpoint.stage
    let next := { stored with
      userActions := stored.exitedActions a
      run := some committed }
    validateNeedsAttentionRow next committed
    validateFailedOutcomeRow next committed
    .ok (committed, next)

/-- What an exit does: it replays, or it stores the envelope of a failure, settles the action and
moves the run, whose row then validates. -/
theorem exitNeedsAttention_ok {a : ExitRequest} (h : exitNeedsAttention t a = .ok (row, t')) :
    t' = t ∨ ∃ run envelopes stage, t.run = some run ∧ run.status = .needsAttention ∧
      run.productOutcome = some .needsAttention ∧ t.activeLeaseRow = none ∧
      row = run.exited a stage ∧ validateFailedOutcomeRow t' row = .ok () ∧
      t' = { t with
        failureEnvelopes := envelopes
        userActions := t.exitedActions a
        run := some (run.exited a stage) } := by
  simp only [exitNeedsAttention, bind_eq_ok, RunTables.requireRun_eq_ok, require_eq_ok] at h
  obtain ⟨run, hrun, -, -, h⟩ := h
  split at h
  · simp only [bind_eq_ok, Except.ok.injEq, Prod.mk.injEq] at h
    obtain ⟨-, -, -, -, -, rfl⟩ := h
    exact .inl rfl
  · simp only [bind_eq_ok, require_eq_ok, Except.ok.injEq, Prod.mk.injEq] at h
    obtain ⟨-, hstatus, -, -, -, ⟨-, -, -, hidle⟩, checkpoint, -, -, -, stored, hstored, -,
      houtcome, -, -, ⟨⟩, hvalid, rfl, rfl⟩ := h
    obtain ⟨envelopes, rfl⟩ := storeExitEnvelope_ok hstored
    exact .inr ⟨run, envelopes, _, hrun, hstatus, houtcome, hidle, rfl, hvalid, rfl⟩

end SeekTalent.RuntimeControl
