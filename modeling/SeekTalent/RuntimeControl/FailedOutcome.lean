import SeekTalent.RuntimeControl.RunRecords

/-!
# The failed outcome

The terminal failure boundary of a run (`seektalent_runtime_control/failed_outcome.py`): storing an
immutable failure envelope (`seektalent/diagnostics_storage.py`), committing the failed outcome with
or without an owner, the branch that expires a stale owner, the exact replay of a committed call and
the validation every read of a run row goes through.

A commit either rolls back, or commits the outcome, or commits only the expiry of the owner's lease
and raises.  The result type says so: an outer error is a rollback, an inner error is raised after a
commit.
-/

namespace SeekTalent.RuntimeControl

open Foundation

/-- The arguments of `commit_failed_outcome`, with the store's clock reading. -/
structure OutcomeRequest where
  envelope : FailureEnvelope
  terminalReasonCode : String
  terminalAt : Nat
  expectedStateRevision : Nat
  executorId : Option String
  attemptNo : Option Nat
  operationId : Option String
  decisionAt : Nat
  deriving DecidableEq, Repr

/-- The caller claims to own the run. -/
def OutcomeRequest.OwnerSupplied (a : OutcomeRequest) : Prop :=
  a.executorId ≠ none ∨ a.attemptNo ≠ none

instance (a : OutcomeRequest) : Decidable a.OwnerSupplied :=
  inferInstanceAs (Decidable (_ ∨ _))

/-- The caller gives both halves of an owner's identity. -/
def OutcomeRequest.OwnerComplete (a : OutcomeRequest) : Prop :=
  a.executorId ≠ none ∧ a.attemptNo ≠ none

instance (a : OutcomeRequest) : Decidable a.OwnerComplete :=
  inferInstanceAs (Decidable (_ ∧ _))

/-- The lease belongs to the owner the caller names. -/
def OutcomeRequest.Owns (a : OutcomeRequest) (lease : LeaseRow) : Prop :=
  a.executorId = some lease.executorId ∧ a.attemptNo = some lease.attemptNo

instance (a : OutcomeRequest) (lease : LeaseRow) : Decidable (a.Owns lease) :=
  inferInstanceAs (Decidable (_ ∧ _))

/-- Which columns two revisions of one failure share (`frozen_identity_fields`). -/
def FailureEnvelope.SameIdentity (e f : FailureEnvelope) : Prop :=
  e.correlationId = f.correlationId ∧ e.runId = f.runId ∧ e.operationId = f.operationId ∧
    e.attemptNo = f.attemptNo

instance (e f : FailureEnvelope) : Decidable (e.SameIdentity f) :=
  inferInstanceAs (Decidable (_ ∧ _ ∧ _ ∧ _))

/-- `load_failure_envelope_revision`. -/
def RunTables.loadFailureEnvelope (t : RunTables) (failureId : String) (revision : Nat) :
    Option FailureEnvelope :=
  t.failureEnvelopes.find? (fun e => e.failureId = failureId ∧ e.revision = revision)

/-- The highest stored revision of a failure. -/
def RunTables.latestFailureRevision (t : RunTables) (failureId : String) : Option FailureEnvelope :=
  (t.failureEnvelopes.filter (fun e => e.failureId = failureId)).foldl
    (fun best e => match best with
      | none => some e
      | some b => if b.revision < e.revision then some e else some b) none

/-- The revision a new envelope has to have: one more than the latest of its failure, whose identity
it keeps. -/
def nextFailureRevision (t : RunTables) (envelope : FailureEnvelope) : Except Raised Nat :=
  match t.latestFailureRevision envelope.failureId with
  | none => .ok 1
  | some predecessor =>
    if envelope.SameIdentity predecessor then .ok (predecessor.revision + 1)
    else .error (.control .failedOutcomeIntegrityFailed)

/-- `store_failure_envelope_revision`: an exact replay changes nothing, a new revision follows the
latest one of its failure, anything else is an integrity failure. -/
def storeFailureEnvelopeRevision (t : RunTables) (envelope : FailureEnvelope) :
    Except Raised RunTables :=
  match t.loadFailureEnvelope envelope.failureId envelope.revision with
  | some existing =>
    if existing = envelope then .ok t else .error (.control .failedOutcomeIntegrityFailed)
  | none => do
    let next ← nextFailureRevision t envelope
    require (envelope.revision = next) (.control .failedOutcomeIntegrityFailed)
    .ok { t with failureEnvelopes := t.failureEnvelopes ++ [envelope] }

/-- What storing an envelope does: it is stored afterwards, and only the table of envelopes may have
grown, by that envelope. -/
theorem storeFailureEnvelopeRevision_ok {t t' : RunTables} {envelope : FailureEnvelope}
    (h : storeFailureEnvelopeRevision t envelope = .ok t') :
    t'.loadFailureEnvelope envelope.failureId envelope.revision = some envelope ∧
      (t' = t ∨ t' = { t with failureEnvelopes := t.failureEnvelopes ++ [envelope] }) := by
  unfold storeFailureEnvelopeRevision at h
  split at h
  · rename_i existing hload
    split at h
    · rename_i heq
      simp only [Except.ok.injEq] at h
      subst h heq
      exact ⟨hload, .inl rfl⟩
    · cases h
  · rename_i hload
    simp only [bind_eq_ok, require_eq_ok, Except.ok.injEq] at h
    obtain ⟨-, -, -, -, rfl⟩ := h
    refine ⟨?_, .inr rfl⟩
    simp only [RunTables.loadFailureEnvelope] at hload ⊢
    rw [List.find?_append, hload]
    simp

/-- `_require_envelope_matches`. -/
def requireEnvelopeMatches (a : OutcomeRequest) (runtimeRunId : String) : Except Raised Unit :=
  require (a.envelope.runId = runtimeRunId ∧ a.envelope.currentOutcome = some .failed ∧
      a.envelope.reasonCode = a.terminalReasonCode ∧ a.envelope.occurredAt = a.terminalAt ∧
      (a.attemptNo ≠ none → a.envelope.attemptNo = a.attemptNo) ∧
      (a.operationId ≠ none → a.envelope.operationId = a.operationId))
    (.control .failedOutcomeEnvelopeMismatch)

/-- The part of the validation that reads the lease of the owner that failed the run. -/
def OwnerLeaseAgrees (t : RunTables) (run : RunRow) (envelope : FailureEnvelope) : Prop :=
  match run.currentFailureAuthorityMode with
  | some .activeOwner =>
    match t.leases.find? (fun lease => some lease.leaseId = run.currentFailureOwnerLeaseId) with
    | none => False
    | some lease =>
      envelope.attemptNo = some lease.attemptNo ∧ lease.status = .revoked ∧
        lease.releasedAt = some run.updatedAt ∧ lease.reasonCode = run.stopReasonCode ∧
        run.updatedAt < lease.leaseExpiresAt
  | _ => True

instance (t : RunTables) (run : RunRow) (envelope : FailureEnvelope) :
    Decidable (OwnerLeaseAgrees t run envelope) := by
  unfold OwnerLeaseAgrees
  split
  · split <;> infer_instance
  · infer_instance

/-- No failure truth stands on the row. -/
def RunRow.FailureTruthEmpty (run : RunRow) : Prop :=
  run.currentFailureId = none ∧ run.currentFailureRevision = none ∧
    run.currentFailureOwnerLeaseId = none ∧ run.currentFailureAuthorityMode = none

instance (run : RunRow) : Decidable run.FailureTruthEmpty :=
  inferInstanceAs (Decidable (_ ∧ _ ∧ _ ∧ _))

/-- The authority mode of a failure says whether a lease is named as its owner. -/
def RunRow.AuthorityNamesOwner (run : RunRow) : Prop :=
  (run.currentFailureAuthorityMode = some .noOwner ∧ run.currentFailureOwnerLeaseId = none) ∨
    (run.currentFailureAuthorityMode = some .activeOwner ∧ run.currentFailureOwnerLeaseId ≠ none)

instance (run : RunRow) : Decidable run.AuthorityNamesOwner :=
  inferInstanceAs (Decidable (_ ∨ _))

/-- The columns of a failed outcome that do not depend on other tables are complete. -/
def RunRow.FailedColumns (run : RunRow) : Prop :=
  run.status = .failed ∧ run.productOutcome = some .failed ∧ run.currentFailureId ≠ none ∧
    (∃ revision ∈ run.currentFailureRevision, 1 ≤ revision) ∧ run.AuthorityNamesOwner

instance (run : RunRow) : Decidable run.FailedColumns :=
  inferInstanceAs (Decidable (_ ∧ _ ∧ _ ∧ _ ∧ _))

/-- The stored envelope says about the failure what the run row says. -/
def FailureEnvelope.Describes (envelope : FailureEnvelope) (run : RunRow) : Prop :=
  envelope.runId = run.runtimeRunId ∧ envelope.currentOutcome = some .failed ∧
    some envelope.reasonCode = run.stopReasonCode ∧ some envelope.occurredAt = run.completedAt

instance (envelope : FailureEnvelope) (run : RunRow) : Decidable (envelope.Describes run) :=
  inferInstanceAs (Decidable (_ ∧ _ ∧ _ ∧ _))

/-- The envelope a run row refers to. -/
def RunTables.currentFailureEnvelope (t : RunTables) (run : RunRow) : Option FailureEnvelope :=
  match run.currentFailureId, run.currentFailureRevision with
  | some failureId, some revision => t.loadFailureEnvelope failureId revision
  | _, _ => none

/-- `validate_failed_outcome_row`. -/
def validateFailedOutcomeRow (t : RunTables) (run : RunRow) : Except Raised Unit :=
  if run.productOutcome = none ∧ run.FailureTruthEmpty then .ok ()
  else
    match run.productOutcome with
    | some .needsAttention =>
      require (run.status = .needsAttention ∧ run.currentFailureId ≠ none ∧
          run.currentFailureRevision ≠ none ∧ run.AuthorityNamesOwner)
        (.control .failedOutcomeIntegrityFailed)
    | some .cancelled =>
      require (run.status = .cancelled ∧ run.FailureTruthEmpty)
        (.control .failedOutcomeIntegrityFailed)
    | some .succeededWithResults | some .succeededEmpty | some .degradedWithResults =>
      require (run.status = .completed ∧ run.FailureTruthEmpty)
        (.control .failedOutcomeIntegrityFailed)
    | some .failed | none => do
      require (run.FailedColumns ∧ t.activeLeaseRow = none)
        (.control .failedOutcomeIntegrityFailed)
      match t.currentFailureEnvelope run with
      | none => .error (.control .failedOutcomeIntegrityFailed)
      | some envelope =>
        require (envelope.Describes run ∧ OwnerLeaseAgrees t run envelope)
          (.control .failedOutcomeIntegrityFailed)

/-- A row on which no truth stands validates. -/
theorem RunTables.validate_of_mutable {t : RunTables} {run : RunRow} (hmutable : run.TruthMutable) :
    validateFailedOutcomeRow t run = .ok () := by
  obtain ⟨houtcome, hid, hrevision, howner, hmode, -⟩ := hmutable
  simp [validateFailedOutcomeRow, RunRow.FailureTruthEmpty, houtcome, hid, hrevision, howner, hmode]

/-- The lease that the caller of a replay names still carries the committed outcome. -/
def ReplayOwnerAgrees (t : RunTables) (run : RunRow) (a : OutcomeRequest) : Prop :=
  match t.leases.find? (fun lease => a.Owns lease) with
  | none => False
  | some lease =>
    some lease.leaseId = run.currentFailureOwnerLeaseId ∧ lease.status = .revoked ∧
      lease.releasedAt = some run.updatedAt ∧ lease.reasonCode = some a.terminalReasonCode ∧
      run.updatedAt < lease.leaseExpiresAt

instance (t : RunTables) (run : RunRow) (a : OutcomeRequest) :
    Decidable (ReplayOwnerAgrees t run a) := by
  unfold ReplayOwnerAgrees
  split <;> infer_instance

/-- The caller of a replay gives an owner exactly when the committed outcome has one. -/
def ReplayAuthorityAgrees (run : RunRow) (a : OutcomeRequest) : Prop :=
  (run.currentFailureAuthorityMode = some .activeOwner ∧ a.OwnerComplete) ∨
    (run.currentFailureAuthorityMode = some .noOwner ∧ ¬a.OwnerSupplied)

instance (run : RunRow) (a : OutcomeRequest) : Decidable (ReplayAuthorityAgrees run a) :=
  inferInstanceAs (Decidable (_ ∨ _))

/-- `_require_exact_replay`. -/
def requireExactReplay (t : RunTables) (run : RunRow) (a : OutcomeRequest) :
    Except Raised RunRow := do
  requireEnvelopeMatches a run.runtimeRunId
  require (run.stateRevision = a.expectedStateRevision + 1 ∧
      run.stopReasonCode = some a.terminalReasonCode ∧ run.completedAt = some a.terminalAt ∧
      run.currentFailureId = some a.envelope.failureId ∧
      run.currentFailureRevision = some a.envelope.revision ∧ t.activeLeaseRow = none)
    (.control .failedOutcomeReplayConflict)
  require (ReplayAuthorityAgrees run a) (.control .failedOutcomeReplayConflict)
  require (a.OwnerComplete → ReplayOwnerAgrees t run a) (.control .failedOutcomeReplayConflict)
  match t.loadFailureEnvelope a.envelope.failureId a.envelope.revision with
  | none => .error (.control .failedOutcomeIntegrityFailed)
  | some loaded => do
    require (loaded = a.envelope) (.control .failedOutcomeReplayConflict)
    validateFailedOutcomeRow t run
    .ok run

/-- `_commit_expired_authority`: the owner's lease has run out, so only its expiry is committed. -/
def commitExpiredAuthority (t : RunTables) (lease : LeaseRow) (decisionAt : Nat) : RunTables :=
  (t.updateLease (expireLease lease decisionAt)).bumpRevision

/-- The run row of a committed failed outcome. -/
def failedOutcomeRow (run : RunRow) (a : OutcomeRequest) (owner : Option LeaseRow) : RunRow :=
  { run with
    status := .failed
    currentStage := "failed"
    productOutcome := some .failed
    currentFailureId := some a.envelope.failureId
    currentFailureRevision := some a.envelope.revision
    currentFailureOwnerLeaseId := owner.map (·.leaseId)
    currentFailureAuthorityMode := some (if owner.isSome then .activeOwner else .noOwner)
    stopReasonCode := some a.terminalReasonCode
    updatedAt := a.decisionAt
    completedAt := some a.terminalAt
    stateRevision := run.stateRevision + 1 }

/-- The committing part of `commit_failed_outcome`: the envelope, the owner's lease and the run row,
and the validation of the row just written. -/
def writeFailedOutcome (t : RunTables) (run : RunRow) (a : OutcomeRequest)
    (owner : Option LeaseRow) : Except Raised (RunRow × RunTables) := do
  let stored ← storeFailureEnvelopeRevision t a.envelope
  let released := match owner with
    | some lease => stored.updateLease (revokeLease lease a.decisionAt a.terminalReasonCode)
    | none => stored
  let committed := failedOutcomeRow run a owner
  let next := { released with run := some committed }
  validateFailedOutcomeRow next committed
  require (next.activeLeaseRow = none) (.control .failedOutcomeIntegrityFailed)
  .ok (committed, next)

/-- What committing the outcome writes. -/
theorem writeFailedOutcome_ok {t t' : RunTables} {run row : RunRow} {a : OutcomeRequest}
    {owner : Option LeaseRow} (h : writeFailedOutcome t run a owner = .ok (row, t')) :
    ∃ stored, storeFailureEnvelopeRevision t a.envelope = .ok stored ∧
      row = failedOutcomeRow run a owner ∧
      t' = { (match owner with
        | some lease => stored.updateLease (revokeLease lease a.decisionAt a.terminalReasonCode)
        | none => stored) with run := some row } ∧
      validateFailedOutcomeRow t' row = .ok () ∧ t'.activeLeaseRow = none := by
  simp only [writeFailedOutcome, bind_eq_ok, require_eq_ok, Except.ok.injEq, Prod.mk.injEq] at h
  obtain ⟨stored, hstored, ⟨⟩, hvalid, -, hidle, rfl, rfl⟩ := h
  exact ⟨stored, hstored, rfl, rfl, hvalid, hidle⟩

/-- The owner that the caller names may fail the run: it holds the active lease of a run that is
executing. -/
def OwnerMayFail (run : RunRow) (active : Option LeaseRow) (a : OutcomeRequest) : Prop :=
  run.status ∈ [RunStatus.starting, .running, .pauseRequested] ∧ ∃ lease ∈ active, a.Owns lease

instance (run : RunRow) (active : Option LeaseRow) (a : OutcomeRequest) :
    Decidable (OwnerMayFail run active a) :=
  inferInstanceAs (Decidable (_ ∧ _))

/-- `commit_failed_outcome`. -/
def commitFailedOutcome (t : RunTables) (a : OutcomeRequest) :
    Except Raised (Except Raised RunRow × RunTables) := do
  let run ← t.requireRun
  if run.status = .failed then
    let row ← requireExactReplay t run a
    .ok (.ok row, t)
  else do
    require (run.status ≠ .cancelled ∧ run.status ≠ .completed)
      (.control .failedOutcomeTerminalImmutable)
    require (run.status ≠ .cancellationRequested) (.control .failedOutcomeCancellationWon)
    requireRunTruthMutable run
    require (run.stateRevision = a.expectedStateRevision) (.control .failedOutcomeRevisionConflict)
    requireEnvelopeMatches a run.runtimeRunId
    require (a.OwnerSupplied → OwnerMayFail run t.activeLeaseRow a)
      (.control .failedOutcomeAuthorityRejected)
    match t.activeLeaseRow with
    | none =>
      let (row, next) ← writeFailedOutcome t run a none
      .ok (.ok row, next)
    | some lease =>
      if lease.leaseExpiresAt ≤ a.decisionAt then
        .ok (.error (.control .failedOutcomeAuthorityExpired),
          commitExpiredAuthority t lease a.decisionAt)
      else do
        require a.OwnerSupplied (.control .failedOutcomeAuthorityRejected)
        let (row, next) ← writeFailedOutcome t run a (some lease)
        .ok (.ok row, next)

/-- What a call of `commit_failed_outcome` that does not roll back has done: replayed the committed
outcome, committed the expiry of the active lease, or committed the outcome. -/
theorem commitFailedOutcome_ok {t t' : RunTables} {a : OutcomeRequest}
    {answer : Except Raised RunRow} (h : commitFailedOutcome t a = .ok (answer, t')) :
    ∃ run, t.run = some run ∧
      ((run.status = .failed ∧ t' = t ∧
          ∃ row, requireExactReplay t run a = .ok row ∧ answer = .ok row) ∨
        (run.status ∉ [RunStatus.failed, .cancelled, .completed, .cancellationRequested] ∧
          run.TruthMutable ∧ run.stateRevision = a.expectedStateRevision ∧
          requireEnvelopeMatches a run.runtimeRunId = .ok () ∧
          (a.OwnerSupplied → OwnerMayFail run t.activeLeaseRow a) ∧
          ((∃ lease, t.activeLeaseRow = some lease ∧ lease.leaseExpiresAt ≤ a.decisionAt ∧
              answer = .error (.control .failedOutcomeAuthorityExpired) ∧
              t' = commitExpiredAuthority t lease a.decisionAt) ∨
            ((∀ lease ∈ t.activeLeaseRow,
                a.decisionAt < lease.leaseExpiresAt ∧ a.OwnerSupplied) ∧
              ∃ row, writeFailedOutcome t run a t.activeLeaseRow = .ok (row, t') ∧
                answer = .ok row)))) := by
  simp only [commitFailedOutcome, bind_eq_ok, RunTables.requireRun_eq_ok] at h
  obtain ⟨run, hrun, h⟩ := h
  refine ⟨run, hrun, ?_⟩
  split at h
  · rename_i hfailed
    simp only [bind_eq_ok, Except.ok.injEq, Prod.mk.injEq] at h
    obtain ⟨row, hreplay, rfl, rfl⟩ := h
    exact .inl ⟨hfailed, rfl, row, hreplay, rfl⟩
  · rename_i hfailed
    simp only [bind_eq_ok, require_eq_ok, requireRunTruthMutable_eq_ok] at h
    obtain ⟨-, ⟨hcancelled, hcompleted⟩, -, hrequested, -, hmutable, -, hrevision, ⟨⟩, hmatches, -,
      howner, h⟩ := h
    refine .inr
      ⟨by simp [hfailed, hcancelled, hcompleted, hrequested], hmutable, hrevision, hmatches, howner,
        ?_⟩
    cases hactive : t.activeLeaseRow with
    | none =>
      simp only [hactive, bind_eq_ok, Except.ok.injEq, Prod.mk.injEq] at h
      obtain ⟨⟨row, next⟩, hwrite, rfl, rfl⟩ := h
      exact .inr ⟨by simp, row, hwrite, rfl⟩
    | some lease =>
      simp only [hactive] at h
      split at h
      · rename_i hexpired
        simp only [Except.ok.injEq, Prod.mk.injEq] at h
        exact .inl ⟨lease, rfl, hexpired, h.1.symm, h.2.symm⟩
      · rename_i hlive
        simp only [bind_eq_ok, require_eq_ok, Except.ok.injEq, Prod.mk.injEq] at h
        obtain ⟨-, hsupplied, ⟨row, next⟩, hwrite, rfl, rfl⟩ := h
        exact .inr ⟨by simpa using ⟨by omega, hsupplied⟩, row, hwrite, rfl⟩

end SeekTalent.RuntimeControl
