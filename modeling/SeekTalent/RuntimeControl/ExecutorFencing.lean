import Mathlib.Data.List.Range
import SeekTalent.RuntimeControl.ExecutorRuns
import SeekTalent.RuntimeControl.LeaseHistory

/-!
# The executor leases as a fence

Attempts of a run are numbered from one, one lease is active at a time and its expiry only moves
forward, a write that names an attempt is refused once a later attempt exists, and the run's state
revision counts every change of its leases and its events.  The first four hold in every history.
The last fails where a transaction changes a lease and leaves it to an event append to move the
revision, and the event turns out to be recorded already: `ReplaysOwnEvent`.
-/

namespace SeekTalent.RuntimeControl

open Foundation

namespace RunTables

/-- The rows after a transaction. -/
def after (t : RunTables) (q : Transaction) : RunTables :=
  (exec q t).2

/-- What a transaction does to the lease table, row by row. -/
inductive LeaseWrite (t t' : RunTables) : Prop
  | kept (hleases : t'.leases = t.leases)
  | given {lease : LeaseRow} (hidle : ∀ other ∈ t.leases, other.status ≠ .active)
      (hfresh : ∀ other ∈ t.leases, other.leaseId ≠ lease.leaseId)
      (hattempt : lease.attemptNo = t.latestAttempt + 1) (hleases : t'.leases = lease :: t.leases)
  | rewritten (row : LeaseRow) {lease : LeaseRow} (hmem : lease ∈ t.leases)
      (hactive : lease.status = .active)
      (hid : row.leaseId = lease.leaseId) (hattempt : row.attemptNo = lease.attemptNo)
      (hexpiry : row.status = .active → lease.leaseExpiresAt ≤ row.leaseExpiresAt)
      (hleases : t'.leases = (t.updateLease row).leases)

/-- The state revision of the run has grown. -/
def RevisionGrown (t t' : RunTables) : Prop :=
  ∀ run, t.run = some run → ∃ run', t'.run = some run' ∧ run.stateRevision < run'.stateRevision

/-- Leases and events are as they were, or the state revision has grown. -/
def RevisionCounts (t t' : RunTables) : Prop :=
  (t'.leases = t.leases ∧ t'.events = t.events) ∨ t.RevisionGrown t'

/-- A yield passes every check that it makes before it appends its event. -/
def YieldAdmitted (t : RunTables) (executorId : String) (attemptNo : Nat) (event : EventInput) :
    Prop :=
  (event.eventType = .sourceReconciliationRequired ∧ event.status = "resume_requested" ∧
      event.stage = "source_reconciliation") ∧
    (∃ lease, t.requireActiveExecutor executorId (some attemptNo) (some event.createdAt) =
      .ok lease) ∧
    (∃ run, t.run = some run ∧ run.TruthMutable) ∧
    ∃ o ∈ t.sourceOperations, o.RequiresReconciliation

/-- A claim passes every check that it makes beside the append of its event. -/
def ClaimAdmitted (t : RunTables) (executorId leaseId : String) (claimedAt leaseExpiresAt : Nat) :
    Prop :=
  ∃ run, t.run = some run ∧ t.Runnable run claimedAt ∧
    (∀ stored ∈ t.leases, stored.leaseId ≠ leaseId) ∧
    ∃ row, validatedRunFromRow
      { t with leases := t.newLease leaseId executorId claimedAt leaseExpiresAt :: t.leases } run =
        .ok row

/-- A yield or a claim that would go through although the event it appends is recorded already. -/
def ReplaysOwnEvent (t : RunTables) : Transaction → Prop
  | .yieldForSourceReconciliation executorId attemptNo event =>
    t.recordedEvent event.input ≠ none ∧ t.YieldAdmitted executorId attemptNo event.input
  | .claimNextRunnableRun executorId leaseId _ claimedAt leaseExpiresAt =>
    t.eventByIdempotencyKey (.claim leaseId) ≠ none ∧
      t.ClaimAdmitted executorId leaseId claimedAt leaseExpiresAt
  | _ => False

/-- A transaction rewrites the lease table as one lease history does, and counts what it changes
unless it replays the event that it appends. -/
structure StepCounted (t : RunTables) (q : Transaction) (t' : RunTables) : Prop where
  write : t.LeaseWrite t'
  counts : ¬t.ReplaysOwnEvent q → t.RevisionCounts t'

/-- The attempt under which a transaction writes, where its caller names one. -/
def fencedBy : Transaction → Option (String × Nat)
  | .appendExecutorEvent executor _ _ => executor.attemptNo.map (executor.executorId, ·)
  | .writeCheckpoint executor _ => executor.attemptNo.map (executor.executorId, ·)
  | .heartbeatExecutorLease executor _ _ => executor.attemptNo.map (executor.executorId, ·)
  | .releaseExecutorLease executor _ _ _ => executor.attemptNo.map (executor.executorId, ·)
  | .yieldForSourceReconciliation executorId attemptNo _ => some (executorId, attemptNo)
  | .commitFailedOutcome request => request.executorId.bind fun executorId =>
      request.attemptNo.map (executorId, ·)
  | .commitNeedsAttention request => request.executorId.bind fun executorId =>
      request.attemptNo.map (executorId, ·)
  | _ => none

section LeaseWrites

variable {t t' t'' : RunTables}
variable {event : EventInput} {executorId : String}
variable {run : RunRow} {row : EventRow} {write : RunWrite} {leaseExpiresAt : Nat}

/-- A transaction that writes nothing. -/
theorem LeaseWrite.refl (t : RunTables) : t.LeaseWrite t :=
  .kept rfl

/-- Nothing changed, so there is nothing to count. -/
theorem RevisionCounts.refl (t : RunTables) : t.RevisionCounts t :=
  .inl ⟨rfl, rfl⟩

/-- A transaction that writes nothing is a counted step. -/
theorem StepCounted.refl (t : RunTables) (q : Transaction) : t.StepCounted q t :=
  ⟨.refl t, fun _ => .refl t⟩

/-- A transaction that touches neither leases nor events is a counted step. -/
theorem StepCounted.of_eq {q : Transaction} (hleases : t'.leases = t.leases)
    (hevents : t'.events = t.events) : t.StepCounted q t' :=
  ⟨.kept hleases, fun _ => .inl ⟨hleases, hevents⟩⟩

/-- Bumping the revision makes it grow. -/
theorem revisionGrown_bumpRevision (s : RunTables) (hrun : s.run = t.run) :
    t.RevisionGrown s.bumpRevision := by
  intro run h
  refine ⟨{ run with stateRevision := run.stateRevision + 1 }, ?_, Nat.lt_succ_self _⟩
  simp [bumpRevision, hrun, h]

/-- A run row with the next revision. -/
theorem revisionGrown_of_run {row : RunRow} (hrun : t.run = some run)
    (hrun' : t'.run = some row) (hrevision : row.stateRevision = run.stateRevision + 1) :
    t.RevisionGrown t' := by
  intro other hother
  obtain rfl := Option.some.inj (hrun.symm.trans hother)
  exact ⟨row, hrun', by omega⟩

/-- An event append that is no replay makes the revision grow; a replay changes nothing. -/
theorem append_revisionCounts (h : appendEventInTransaction t event write = .ok (row, t')) :
    (t.recordedEvent event ≠ none ∧ t' = t) ∨
      (t.recordedEvent event = none ∧ t.RevisionGrown t' ∧ t'.leases = t.leases) := by
  rcases appendEventInTransaction_ok h with ⟨hrecorded, rfl⟩ | ⟨run, hnone, hrun, -, -, -, rfl⟩
  · exact .inl ⟨by simp [hrecorded], rfl⟩
  · exact .inr ⟨hnone, revisionGrown_of_run hrun rfl rfl, rfl⟩

/-- The revision never decreases in an event append. -/
theorem append_revision_le
    (h : appendEventInTransaction t event write = .ok (row, t')) (hrun : t.run = some run) :
    ∃ run', t'.run = some run' ∧ run.stateRevision ≤ run'.stateRevision := by
  rcases append_revisionCounts h with ⟨-, rfl⟩ | ⟨-, hgrown, -⟩
  · exact ⟨run, hrun, le_rfl⟩
  · obtain ⟨run', hrun', hlt⟩ := hgrown run hrun
    exact ⟨run', hrun', hlt.le⟩

/-- A heartbeat never moves the expiry of its lease backwards. -/
theorem heartbeat_extends {executor : ExecutorRef} {heartbeatAt : Nat}
    {renewed : LeaseRow}
    (h : heartbeatExecutorLease t executor heartbeatAt leaseExpiresAt = .ok (renewed, t')) :
    ∃ lease ∈ t.leases, lease.status = .active ∧ renewed.leaseId = lease.leaseId ∧
      renewed.attemptNo = lease.attemptNo ∧ lease.leaseExpiresAt ≤ renewed.leaseExpiresAt ∧
      t' = (t.updateLease renewed).bumpRevision := by
  simp only [heartbeatExecutorLease, bind_eq_ok, RunTables.requireRun_eq_ok,
    requireRunTruthMutable_eq_ok, require_eq_ok, Except.ok.injEq, Prod.mk.injEq] at h
  obtain ⟨lease, hlease, -, -, run, -, -, -, rfl, rfl⟩ := h
  obtain ⟨hmem, hactive, -⟩ := requireActiveExecutor_ok hlease
  exact ⟨lease, hmem, hactive, rfl, rfl, Nat.le_max_right _ _, rfl⟩

/-- Deciding about a lost executor leaves the leases alone and makes the revision grow. -/
theorem decideSettlement_revisionGrown {lease : LeaseRow}
    {checkpoint : CheckpointReading} {resumeRecoverable : Bool} {now : Nat} {s : Settlement}
    (h : decideSettlement t run lease checkpoint resumeRecoverable now = .ok (s, t')) :
    t.RevisionGrown t' := by
  obtain ⟨reading, plan, expiry, expired, decided, attention, current, -, hexpiry, hdecided, -,
    hcurrent, rfl⟩ := decideSettlement_ok h
  intro before hbefore
  have hfirst : ∃ middle, expired.run = some middle ∧
      before.stateRevision ≤ middle.stateRevision := by
    rcases appendRecoveryExpiryEvent_ok hexpiry with rfl | happend
    · exact ⟨before, hbefore, le_rfl⟩
    · exact append_revision_le happend hbefore
  obtain ⟨middle, hmiddle, hle⟩ := hfirst
  have hsecond : ∃ last, decided.run = some last ∧ middle.stateRevision ≤ last.stateRevision := by
    rcases appendRecoveryDecisionEvent_ok hdecided with rfl | ⟨row, happend⟩
    · exact ⟨middle, hmiddle, le_rfl⟩
    · exact append_revision_le happend hmiddle
  obtain ⟨last, hlast, hle'⟩ := hsecond
  obtain rfl := Option.some.inj (hcurrent.symm.trans hlast)
  refine ⟨_, rfl, ?_⟩
  change before.stateRevision < current.stateRevision + 1
  omega

/-- Growth after a first part that does not lose the revision. -/
theorem RevisionGrown.after_bump (hgrown : t'.bumpRevision.RevisionGrown t'')
    (hrun : t'.run = t.run) : t.RevisionGrown t'' := by
  intro run h
  obtain ⟨run'', hrun'', hlt⟩ := hgrown { run with stateRevision := run.stateRevision + 1 }
    (by simp [bumpRevision, hrun, h])
  exact ⟨run'', hrun'', by simp only at hlt; omega⟩

/-- Settling a lease rewrites it if it was active, and counts. -/
theorem settle_leaseWrite {checkpoint : CheckpointReading} {resumeRecoverable : Bool} {now : Nat}
    {s : Settlement}
    (h : settleNextExpiredExecutorLease t checkpoint resumeRecoverable now = .ok (s, t')) :
    t.LeaseWrite t' ∧ t.RevisionCounts t' := by
  rcases settleNextExpiredExecutorLease_ok h with rfl | ⟨run, lease, hrun, -, hmem, -, hdone⟩
  · exact ⟨.refl _, .refl _⟩
  by_cases hactive : lease.status = .active
  · have hgrown : t.RevisionGrown t' := by
      rcases hdone with ⟨-, rfl⟩ | hdecided
      · simp only [withExpired, hactive, if_true]
        exact revisionGrown_bumpRevision _ rfl
      · have hrest := decideSettlement_revisionGrown hdecided
        simp only [withExpired, hactive, if_true] at hrest
        exact hrest.after_bump rfl
    have hleases : t'.leases = (t.updateLease (expireLease lease now)).leases := by
      rcases hdone with ⟨-, rfl⟩ | hdecided
      · simp [withExpired, hactive]
      · rw [(decideSettlement_leases hdecided).1]
        simp [withExpired, hactive]
    exact ⟨.rewritten (expireLease lease now) hmem hactive rfl rfl
      (fun hstatus => by simp [expireLease] at hstatus) hleases, .inr hgrown⟩
  · simp only [withExpired, hactive, if_false] at hdone
    rcases hdone with ⟨-, rfl⟩ | hdecided
    · exact ⟨.refl _, .refl _⟩
    · exact ⟨.kept (decideSettlement_leases hdecided).1,
        .inr (decideSettlement_revisionGrown hdecided)⟩

/-- Committing a failed outcome ends the active lease, if there is one, and counts. -/
theorem commitFailedOutcome_leaseWrite {a : OutcomeRequest} {answer : Except Raised RunRow}
    (h : commitFailedOutcome t a = .ok (answer, t')) : t.LeaseWrite t' ∧ t.RevisionCounts t' := by
  obtain ⟨run, hrun, ⟨-, rfl, -⟩ | ⟨-, -, -, -, -, hdone⟩⟩ := commitFailedOutcome_ok h
  · exact ⟨.refl _, .refl _⟩
  rcases hdone with ⟨lease, hlease, -, -, rfl⟩ | ⟨-, row, hwrite, -⟩
  · obtain ⟨hmem, hactive⟩ := mem_of_activeLeaseRow hlease
    refine ⟨.rewritten (expireLease lease a.decisionAt) hmem hactive rfl rfl
      (fun hstatus => by simp [expireLease] at hstatus) rfl, .inr ?_⟩
    exact revisionGrown_bumpRevision (t.updateLease (expireLease lease a.decisionAt)) rfl
  · obtain ⟨stored, hstored, rfl, rfl, -, -⟩ := writeFailedOutcome_ok hwrite
    have hleases : stored.leases = t.leases := by
      rcases (storeFailureEnvelopeRevision_ok hstored).2 with rfl | rfl <;> rfl
    refine ⟨?_, .inr (revisionGrown_of_run hrun rfl rfl)⟩
    cases hlease : t.activeLeaseRow with
    | none => exact .kept hleases
    | some lease =>
      obtain ⟨hmem, hactive⟩ := mem_of_activeLeaseRow hlease
      refine .rewritten (revokeLease lease a.decisionAt a.terminalReasonCode) hmem hactive
        rfl rfl (fun hstatus => by simp [revokeLease] at hstatus) ?_
      simp [updateLease, hleases]

/-- Entering needs attention ends the active lease, if there is one, and counts. -/
theorem commitNeedsAttention_leaseWrite {a : AttentionRequest} {row : RunRow}
    (h : commitNeedsAttention t a = .ok (row, t')) : t.LeaseWrite t' ∧ t.RevisionCounts t' := by
  rcases commitNeedsAttention_ok h with rfl | ⟨run, checkpoints, envelopes, hrun, -, -, rfl⟩
  · exact ⟨.refl _, .refl _⟩
  · refine ⟨?_, .inr (revisionGrown_of_run hrun rfl rfl)⟩
    cases hlease : t.activeLeaseRow with
    | none => exact .kept rfl
    | some lease =>
      obtain ⟨hmem, hactive⟩ := mem_of_activeLeaseRow hlease
      exact .rewritten (revokeLease lease a.enteredAt "runtime_needs_attention") hmem hactive
        rfl rfl (fun hstatus => by simp [revokeLease] at hstatus) rfl

/-- An event append leaves the leases alone, and counts. -/
theorem append_stepCounted {q : Transaction}
    (h : appendEventInTransaction t event write = .ok (row, t')) : t.StepCounted q t' := by
  rcases append_revisionCounts h with ⟨-, rfl⟩ | ⟨-, hgrown, hleases⟩
  · exact .refl _ _
  · exact ⟨.kept hleases, fun _ => .inr hgrown⟩

/-- What a yield that goes through has found, and does. -/
theorem yield_cases {attemptNo : Nat} {u : Unit}
    (h : yieldForSourceReconciliation t executorId attemptNo event = .ok (u, t')) :
    t.YieldAdmitted executorId attemptNo event ∧ ∃ lease row appended, lease ∈ t.leases ∧
      lease.status = .active ∧
      appendEventInTransaction t event { runStatus := some .resumeRequested } =
        .ok (row, appended) ∧
      t' = appended.updateLease
        (revokeLease lease event.createdAt "runtime_source_operation_unresolved") := by
  simp only [yieldForSourceReconciliation, bind_eq_ok, RunTables.requireRun_eq_ok,
    requireRunTruthMutable_eq_ok, require_eq_ok, Except.ok.injEq, Prod.mk.injEq] at h
  obtain ⟨-, hshape, lease, hlease, run, hrun, -, hmutable, -, hpending, ⟨row, appended⟩, happend,
    -, ht'⟩ := h
  obtain ⟨hmem, hactive, -⟩ := requireActiveExecutor_ok hlease
  exact ⟨⟨hshape, ⟨lease, hlease⟩, ⟨run, hrun, hmutable⟩, hpending⟩, lease, row, appended, hmem,
    hactive, happend, ht'.symm⟩

/-- A yield that finds everything in order but its event recorded revokes the lease and leaves the
run row as it is. -/
theorem yield_replays {attemptNo : Nat}
    (hrecorded : t.recordedEvent event ≠ none) (h : t.YieldAdmitted executorId attemptNo event) :
    ∃ lease ∈ t.leases, lease.status = .active ∧
      yieldForSourceReconciliation t executorId attemptNo event = .ok ((), t.updateLease
        (revokeLease lease event.createdAt "runtime_source_operation_unresolved")) := by
  obtain ⟨hshape, ⟨lease, hlease⟩, ⟨run, hrun, hmutable⟩, hpending⟩ := h
  obtain ⟨hmem, hactive, -⟩ := requireActiveExecutor_ok hlease
  obtain ⟨existing, hexisting⟩ := Option.ne_none_iff_exists'.mp hrecorded
  refine ⟨lease, hmem, hactive, ?_⟩
  have happend : appendEventInTransaction t event { runStatus := some .resumeRequested } =
      .ok (existing, t) := by
    simp [appendEventInTransaction, hexisting]
  have hrow : t.requireRun = .ok run := requireRun_eq_ok.mpr hrun
  have hguard : requireRunTruthMutable run = .ok () := requireRunTruthMutable_eq_ok.mpr hmutable
  simp only [yieldForSourceReconciliation, require, if_pos hshape, if_pos hpending, hlease, hrow,
    hguard, happend, bind, Except.bind]

/-- What a claim that goes through has found: its event is recorded and it only adds the lease, or
it is not and the run moves. -/
theorem claimNextRunnableRun_cases {leaseId : String} {eventId : EventId}
    {claimedAt : Nat} {claim : Option LeaseRow}
    (h : claimNextRunnableRun t executorId leaseId eventId claimedAt leaseExpiresAt =
      .ok (claim, t')) :
    t' = t ∨ ∃ run, t.run = some run ∧ t.Runnable run claimedAt ∧
      (∀ stored ∈ t.leases, stored.leaseId ≠ leaseId) ∧
      ((t.eventByIdempotencyKey (.claim leaseId) ≠ none ∧
          (∃ row, validatedRunFromRow
            { t with leases := t.newLease leaseId executorId claimedAt leaseExpiresAt :: t.leases }
            run = .ok row) ∧
          t' = { t with
            leases := t.newLease leaseId executorId claimedAt leaseExpiresAt :: t.leases }) ∨
        (t.eventByIdempotencyKey (.claim leaseId) = none ∧ t.RevisionGrown t' ∧
          t'.leases = t.newLease leaseId executorId claimedAt leaseExpiresAt :: t.leases)) := by
  unfold claimNextRunnableRun at h
  split at h
  · simp only [Except.ok.injEq, Prod.mk.injEq] at h
    exact .inl h.2.symm
  · rename_i run hrun
    split at h
    · rename_i hrunnable
      simp only [bind_eq_ok, insertLease_eq_ok, RunTables.requireRun_eq_ok, Except.ok.injEq,
        Prod.mk.injEq] at h
      obtain ⟨leased, ⟨hfresh, rfl⟩, ⟨row, next⟩, happend, claimed, hclaimed, validated, hvalid, -,
        rfl⟩ := h
      refine .inr ⟨run, hrun, hrunnable, hfresh, ?_⟩
      rcases append_revisionCounts happend with ⟨hrecorded, rfl⟩ | ⟨hnone, hgrown, hleases⟩
      · obtain rfl := Option.some.inj (hrun.symm.trans hclaimed)
        exact .inl ⟨hrecorded, ⟨validated, hvalid⟩, rfl⟩
      · exact .inr ⟨hnone, hgrown, hleases⟩
    · simp only [Except.ok.injEq, Prod.mk.injEq] at h
      exact .inl h.2.symm

/-- A claim that finds everything in order but its event recorded adds the lease and leaves the run
row as it is. -/
theorem claim_replays {leaseId : String} (eventId : EventId)
    {claimedAt : Nat} (hrecorded : t.eventByIdempotencyKey (.claim leaseId) ≠ none)
    (h : t.ClaimAdmitted executorId leaseId claimedAt leaseExpiresAt) :
    claimNextRunnableRun t executorId leaseId eventId claimedAt leaseExpiresAt =
      .ok (some (t.newLease leaseId executorId claimedAt leaseExpiresAt),
        { t with leases := t.newLease leaseId executorId claimedAt leaseExpiresAt ::
          t.leases }) := by
  obtain ⟨run, hrun, hrunnable, hfresh, row, hvalid⟩ := h
  obtain ⟨existing, hexisting⟩ := Option.ne_none_iff_exists'.mp hrecorded
  obtain ⟨lease, hlease⟩ : ∃ lease,
      lease = t.newLease leaseId executorId claimedAt leaseExpiresAt :=
    ⟨_, rfl⟩
  have hid : lease.leaseId = leaseId := by rw [hlease]; rfl
  obtain ⟨leased, hleased⟩ : ∃ leased : RunTables,
      leased = { t with leases := lease :: t.leases } :=
    ⟨_, rfl⟩
  have hinsert : t.insertLease lease = .ok leased :=
    insertLease_eq_ok.mpr ⟨fun stored hstored => hid ▸ hfresh stored hstored, hleased⟩
  have hlookup : leased.recordedEvent (claimEvent run lease eventId) = some existing := by
    rw [hleased]
    simpa [recordedEvent, claimEvent, hid, eventByIdempotencyKey] using hexisting
  have happend : appendEventInTransaction leased (claimEvent run lease eventId)
      { runStatus := some .starting, replacesSnapshot := true } = .ok (existing, leased) := by
    simp only [appendEventInTransaction, hlookup]
  have hrow : leased.requireRun = .ok run := by
    rw [requireRun_eq_ok, hleased]
    exact hrun
  rw [← hlease, ← hleased] at hvalid ⊢
  simp only [claimNextRunnableRun, hrun, if_pos hrunnable, ← hlease, hinsert, happend, hrow, hvalid,
    bind, Except.bind]

/-- Every transaction is a counted step. -/
theorem exec_stepCounted (q : Transaction) : t.StepCounted q (t.after q) := by
  have hnothing : t.StepCounted q t := .refl t q
  unfold after
  cases q with
  | getRun => exact hnothing
  | hasSourceOperationsRequiringReconciliation => exact hnothing
  | getCommand commandId => exact hnothing
  | getCommandByIdempotency key => exact hnothing
  | listPendingLifecycleCommands => exact hnothing
  | saveCommand command =>
    refine transact_rule hnothing fun value t' hok => ?_
    simp only [saveCommand, bind_eq_ok, require_eq_ok, Except.ok.injEq, Prod.mk.injEq] at hok
    obtain ⟨-, -, -, rfl⟩ := hok
    exact .of_eq rfl rfl
  | updateCommandStatus commandId status appliedAt =>
    refine transact_rule hnothing fun value t' hok => ?_
    simp only [updateCommandStatus, bind_eq_ok, Except.ok.injEq, Prod.mk.injEq] at hok
    obtain ⟨-, -, -, rfl⟩ := hok
    exact .of_eq rfl rfl
  | acceptRun run initialEvent snapshot =>
    refine transact_rule hnothing fun value t' hok => ?_
    rcases acceptRun_ok hok with rfl | ⟨hnone, -, -, stored, happend⟩
    · exact hnothing
    · refine ⟨.kept (append_leases happend).1, fun _ => .inr fun other hother => ?_⟩
      simp [hnone] at hother
  | updateRunStatus update =>
    refine transact_rule hnothing fun value t' hok => ?_
    obtain ⟨run, -, -, -, -, rfl⟩ := updateRunStatus_ok hok
    exact .of_eq rfl rfl
  | appendEvent event =>
    refine transact_rule hnothing fun value t' hok => ?_
    exact append_stepCounted hok
  | appendExecutorEvent executor event write =>
    refine transact_rule hnothing fun value t' hok => ?_
    exact append_stepCounted (appendExecutorEvent_ok hok).2
  | writeCheckpoint executor checkpoint =>
    refine transact_rule hnothing fun value t' hok => ?_
    obtain ⟨run, checkpoints, -, -, rfl⟩ := writeCheckpoint_ok hok
    exact .of_eq rfl rfl
  | claimNextRunnableRun executorId leaseId eventId claimedAt leaseExpiresAt =>
    refine transact_rule hnothing fun value t' hok => ?_
    rcases claimNextRunnableRun_cases hok with rfl | ⟨run, hrun, hrunnable, hfresh, hdone⟩
    · exact hnothing
    have hidle := activeLeaseRow_eq_none.mp hrunnable.2.2.2.1
    rcases hdone with ⟨hrecorded, hvalid, rfl⟩ | ⟨-, hgrown, hleases⟩
    · refine ⟨.given hidle hfresh rfl rfl, fun hreplays => ?_⟩
      exact absurd ⟨hrecorded, run, hrun, hrunnable, hfresh, hvalid⟩ hreplays
    · exact ⟨.given hidle hfresh rfl hleases, fun _ => .inr hgrown⟩
  | acquireExecutorLease leaseId executorId acquiredAt leaseExpiresAt =>
    refine transact_rule hnothing fun value t' hok => ?_
    obtain ⟨-, hidle, rfl, hfresh, rfl⟩ := acquireExecutorLease_ok hok
    exact ⟨.given hidle hfresh rfl rfl, fun _ => .inr (revisionGrown_bumpRevision _ rfl)⟩
  | heartbeatExecutorLease executor heartbeatAt leaseExpiresAt =>
    refine transact_rule hnothing fun value t' hok => ?_
    obtain ⟨lease, hmem, hactive, hid, hattempt, hexpiry, rfl⟩ := heartbeat_extends hok
    exact ⟨.rewritten value hmem hactive hid hattempt (fun _ => hexpiry) rfl,
      fun _ => .inr (revisionGrown_bumpRevision (t.updateLease value) rfl)⟩
  | releaseExecutorLease executor releasedAt release reasonCode =>
    refine transact_rule hnothing fun value t' hok => ?_
    obtain ⟨run, lease, -, -, hmem, hactive, hid, hattempt, hstatus, rfl⟩ :=
      releaseExecutorLease_ok hok
    have hended : value.status ≠ .active := by
      rw [hstatus]
      cases release <;> simp [LeaseRelease.leaseStatus]
    exact ⟨.rewritten value hmem hactive hid hattempt (fun h => absurd h hended) rfl,
      fun _ => .inr (revisionGrown_bumpRevision (t.updateLease value) rfl)⟩
  | yieldForSourceReconciliation executorId attemptNo event =>
    refine transact_rule hnothing fun value t' hok => ?_
    obtain ⟨hadmitted, lease, row, appended, hmem, hactive, happend, rfl⟩ := yield_cases hok
    have hleases : appended.leases = t.leases := (append_leases happend).1
    refine ⟨.rewritten (revokeLease lease event.input.createdAt
      "runtime_source_operation_unresolved") hmem hactive rfl rfl
      (fun hstatus => by simp [revokeLease] at hstatus) (by simp [updateLease, hleases]), ?_⟩
    intro hreplays
    rcases append_revisionCounts happend with ⟨hrecorded, -⟩ | ⟨-, hgrown, -⟩
    · exact absurd ⟨hrecorded, hadmitted⟩ hreplays
    · exact .inr hgrown
  | expireExecutorLeases now =>
    simp only [exec, expireExecutorLeases]
    split
    · rename_i run lease hrun hlease
      split
      · obtain ⟨hmem, hactive⟩ := mem_of_activeLeaseRow hlease
        exact ⟨.rewritten (expireLease lease now) hmem hactive rfl rfl
          (fun hstatus => by simp [expireLease] at hstatus) rfl,
          fun _ => .inr (revisionGrown_bumpRevision (t.updateLease (expireLease lease now)) rfl)⟩
      · exact hnothing
    · exact hnothing
  | settleNextExpiredExecutorLease checkpoint resumeRecoverable now =>
    refine transact_rule hnothing fun value t' hok => ?_
    obtain ⟨hwrite, hcounts⟩ := settle_leaseWrite hok
    exact ⟨hwrite, fun _ => hcounts⟩
  | resolveRecoveryAttention provedNoDispatch resolvedAt =>
    refine transact_rule hnothing fun value t' hok => ?_
    obtain ⟨run, attention, -, -, -, -, -, rfl⟩ := resolveRecoveryAttention_ok hok
    exact .of_eq rfl rfl
  | commitFailedOutcome request =>
    simp only [exec]
    cases hcommit : commitFailedOutcome t request with
    | error e => exact hnothing
    | ok committed =>
      obtain ⟨hwrite, hcounts⟩ := commitFailedOutcome_leaseWrite hcommit
      exact ⟨hwrite, fun _ => hcounts⟩
  | commitNeedsAttention request =>
    refine transact_rule hnothing fun value t' hok => ?_
    obtain ⟨hwrite, hcounts⟩ := commitNeedsAttention_leaseWrite hok
    exact ⟨hwrite, fun _ => hcounts⟩
  | exitNeedsAttention request =>
    refine transact_rule hnothing fun value t' hok => ?_
    rcases exitNeedsAttention_ok hok with rfl | ⟨run, envelopes, stage, -, -, -, -, -, -, rfl⟩
    · exact hnothing
    · exact .of_eq rfl rfl
  | writeCheckpointForRecovery checkpoint =>
    refine transact_rule hnothing fun value t' hok => ?_
    obtain ⟨run, checkpoints, -, -, rfl⟩ := writeCheckpointForRecovery_ok hok
    exact .of_eq rfl rfl
  | compactTerminalCheckpoints archivable =>
    refine transact_rule hnothing fun value t' hok => ?_
    obtain ⟨run, checkpoints, -, -, -, ⟨-, rfl⟩ | ⟨source, -, rfl⟩⟩ :=
      compactTerminalCheckpoints_ok hok
    · exact .of_eq rfl rfl
    · exact .of_eq rfl rfl
  | writeSourceLedger rows agrees => exact .of_eq rfl rfl

end LeaseWrites

/-! ## What one transaction keeps -/

/-- The attempts of the run, oldest first, are one, two, three and so on. -/
def AttemptsNumbered (t : RunTables) : Prop :=
  t.leases.reverse.map (·.attemptNo) = List.range' 1 t.leases.length

/-- At most one lease of the run is active. -/
def OneActive (t : RunTables) : Prop :=
  ∀ a ∈ t.leases, ∀ b ∈ t.leases, a.status = .active → b.status = .active → a = b

/-- No lease that stays active loses time. -/
def ExpiryKept (t t' : RunTables) : Prop :=
  ∀ lease ∈ t.leases, ∀ lease' ∈ t'.leases, lease'.leaseId = lease.leaseId →
    lease.status = .active → lease'.status = .active → lease.leaseExpiresAt ≤ lease'.leaseExpiresAt

section Steps

variable {t t' : RunTables}
variable {executorId : String} {attemptNo : Nat}

/-- In a sound table only the newest lease can be active. -/
theorem LeasesSound.oneActive (h : t.LeasesSound) : t.OneActive := by
  intro a ha b hb hactive hactive'
  obtain ⟨rest, hleases, -⟩ := h.active_is_newest ha hactive
  obtain ⟨rest', hleases', -⟩ := h.active_is_newest hb hactive'
  exact (List.cons.inj (hleases.symm.trans hleases')).1

/-- In a sound table a lease is known by its id. -/
theorem LeasesSound.eq_of_leaseId (h : t.LeasesSound) {a b : LeaseRow} (ha : a ∈ t.leases)
    (hb : b ∈ t.leases) (hid : a.leaseId = b.leaseId) : a = b := by
  have hids := h.ids
  rw [leaseViews, List.pairwise_map] at hids
  have hnodup : (t.leases.map (·.leaseId)).Nodup := List.pairwise_map.mpr hids
  exact List.inj_on_of_nodup_map hnodup ha hb hid

/-- Where attempts are numbered, the latest attempt is their number. -/
theorem AttemptsNumbered.latestAttempt_eq (h : t.AttemptsNumbered) (hsound : t.LeasesSound) :
    t.latestAttempt = t.leases.length := by
  cases hleases : t.leases with
  | nil => simp [latestAttempt, hleases]
  | cons newest rest =>
    rw [hsound.latestAttempt_eq hleases]
    rw [AttemptsNumbered, hleases, List.reverse_cons, List.map_append, List.length_cons,
      List.range'_1_concat] at h
    have hlast := congrArg List.getLast? h
    simp only [List.map_cons, List.map_nil, List.getLast?_append_of_ne_nil _ (List.cons_ne_nil _ _),
      List.getLast?_singleton, Option.some.injEq] at hlast
    rw [List.length_cons, hlast]
    omega

/-- A lease write keeps the attempts numbered. -/
theorem LeaseWrite.attemptsNumbered (hwrite : t.LeaseWrite t') (hsound : t.LeasesSound)
    (h : t.AttemptsNumbered) : t'.AttemptsNumbered := by
  cases hwrite with
  | kept hleases => rwa [AttemptsNumbered, hleases]
  | given hidle hfresh hattempt hleases =>
    rw [h.latestAttempt_eq hsound] at hattempt
    rw [AttemptsNumbered, hleases, List.reverse_cons, List.map_append, h, List.length_cons,
      List.range'_1_concat]
    simp [hattempt, Nat.add_comm]
  | rewritten row hmem hactive hid hattempt hexpiry hleases =>
    obtain ⟨rest, hbefore, hafter⟩ := hsound.updateLease_leases hmem hactive hid
    rw [AttemptsNumbered, hbefore] at h
    rw [AttemptsNumbered, hleases, hafter]
    simpa [hattempt] using h

/-- A lease write takes no time from a lease that stays active. -/
theorem LeaseWrite.expiryKept (hwrite : t.LeaseWrite t') (hsound : t.LeasesSound) :
    t.ExpiryKept t' := by
  intro lease hlease lease' hlease' hsame hactive hactive'
  cases hwrite with
  | kept hleases =>
    rw [hleases] at hlease'
    rw [hsound.eq_of_leaseId hlease' hlease hsame]
  | given hidle hfresh hattempt hleases =>
    exact absurd hactive (hidle lease hlease)
  | rewritten row hmem hstatus hid hattempt hexpiry hleases =>
    obtain ⟨rest, hbefore, hafter⟩ := hsound.updateLease_leases hmem hstatus hid
    rw [hleases, hafter] at hlease'
    rcases List.mem_cons.mp hlease' with rfl | hrest
    · have hold := hsound.eq_of_leaseId hmem hlease (hid.symm.trans hsame)
      exact hold ▸ hexpiry hactive'
    · have hmem' : lease' ∈ t.leases := by
        rw [hbefore]
        exact List.mem_cons_of_mem _ hrest
      rw [hsound.eq_of_leaseId hmem' hlease hsame]

/-- The attempt of the active lease is the largest. -/
theorem LeasesSound.attemptNo_le_active (h : t.LeasesSound) {active lease : LeaseRow}
    (hmem : active ∈ t.leases) (hactive : active.status = .active) (hlease : lease ∈ t.leases) :
    lease.attemptNo ≤ active.attemptNo := by
  obtain ⟨rest, hleases, -⟩ := h.active_is_newest hmem hactive
  rw [← h.latestAttempt_eq hleases]
  exact attemptNo_le_latestAttempt hlease

/-- An executor whose attempt has been followed by another is stale. -/
theorem LeasesSound.requireActiveExecutor_ne_ok (h : t.LeasesSound)
    {observedAt : Option Nat} (hlater : ∃ lease ∈ t.leases, attemptNo < lease.attemptNo)
    (active : LeaseRow) :
    t.requireActiveExecutor executorId (some attemptNo) observedAt ≠ .ok active := by
  intro hok
  obtain ⟨hmem, hactive, -, hattempt, -⟩ := requireActiveExecutor_ok hok
  obtain ⟨lease, hlease, hlt⟩ := hlater
  have hle := h.attemptNo_le_active hmem hactive hlease
  rw [hattempt attemptNo rfl] at hle
  omega

/-- An entry into needs attention by a named owner is a replay, or the owner holds the active
lease. -/
theorem commitNeedsAttention_owner {a : AttentionRequest}
    {row : RunRow} (hexecutor : a.executorId = some executorId)
    (hattemptNo : a.attemptNo = some attemptNo) (h : commitNeedsAttention t a = .ok (row, t')) :
    t' = t ∨ ∃ lease, t.activeLeaseRow = some lease ∧ lease.attemptNo = attemptNo := by
  simp only [commitNeedsAttention, bind_eq_ok, requireRun_eq_ok] at h
  obtain ⟨run, hrun, h⟩ := h
  split at h
  · simp only [bind_eq_ok, Except.ok.injEq, Prod.mk.injEq] at h
    obtain ⟨-, -, -, -, -, rfl⟩ := h
    exact .inl rfl
  · simp only [bind_eq_ok, require_eq_ok, Except.ok.injEq, Prod.mk.injEq] at h
    obtain ⟨-, -, -, -, -, -, -, -, owner, howner, -⟩ := h
    refine .inr ?_
    simp only [attentionOwner, hexecutor, hattemptNo] at howner
    split at howner
    · rename_i lease hlease
      split at howner
      · rename_i howns
        exact ⟨lease, hlease, howns.2.2.1⟩
      · cases howner
    · cases howner

/-- A commit of a failed outcome by a named owner is a replay, or the owner holds the active
lease. -/
theorem commitFailedOutcome_owner {a : OutcomeRequest}
    {answer : Except Raised RunRow} (hexecutor : a.executorId = some executorId)
    (hattemptNo : a.attemptNo = some attemptNo) (h : commitFailedOutcome t a = .ok (answer, t')) :
    t' = t ∨ ∃ lease, t.activeLeaseRow = some lease ∧ lease.attemptNo = attemptNo := by
  obtain ⟨run, -, ⟨-, rfl, -⟩ | ⟨-, -, -, -, howner, -⟩⟩ := commitFailedOutcome_ok h
  · exact .inl rfl
  · obtain ⟨-, lease, hlease, -, hattempt⟩ := howner (.inl (by simp [hexecutor]))
    rw [hattemptNo, Option.some.injEq] at hattempt
    exact .inr ⟨lease, by simpa using hlease, hattempt.symm⟩

/-- A transaction that writes nothing where it does not raise. -/
theorem transact_eq_self {α : Type} {outcome : Except Raised (α × RunTables)}
    (h : ∀ value t', outcome = .ok (value, t') → t' = t) : (transact t outcome).2 = t :=
  transact_rule (P := fun s => s = t) rfl h

/-- The executor that a fence names. -/
theorem executor_of_fence {executor : ExecutorRef}
    (h : executor.attemptNo.map (executor.executorId, ·) = some (executorId, attemptNo)) :
    executor.executorId = executorId ∧ executor.attemptNo = some attemptNo := by
  obtain ⟨attempt, hattempt, heq⟩ := Option.map_eq_some_iff.mp h
  obtain ⟨rfl, rfl⟩ := Prod.mk.inj heq
  exact ⟨rfl, hattempt⟩

/-- The owner that a fence names. -/
theorem owner_of_fence {executor : Option String} {attempt : Option Nat}
    (h : executor.bind (fun named => attempt.map (named, ·)) = some (executorId, attemptNo)) :
    executor = some executorId ∧ attempt = some attemptNo := by
  obtain ⟨named, hnamed, h⟩ := Option.bind_eq_some_iff.mp h
  obtain ⟨number, hnumber, heq⟩ := Option.map_eq_some_iff.mp h
  obtain ⟨rfl, rfl⟩ := Prod.mk.inj heq
  exact ⟨hnamed, hnumber⟩

/-- A write under an attempt that has been followed by another changes nothing. -/
theorem LeasesSound.after_eq_of_fenced (h : t.LeasesSound) {q : Transaction}
    (hfence : fencedBy q = some (executorId, attemptNo))
    (hlater : ∃ lease ∈ t.leases, attemptNo < lease.attemptNo) : t.after q = t := by
  have hstale : ∀ observedAt active,
      t.requireActiveExecutor executorId (some attemptNo) observedAt ≠ .ok active :=
    fun observedAt active => h.requireActiveExecutor_ne_ok hlater active
  have hnotActive : ∀ lease, t.activeLeaseRow = some lease → lease.attemptNo ≠ attemptNo := by
    intro active hfound hattempt
    obtain ⟨hmem, hactive⟩ := mem_of_activeLeaseRow hfound
    obtain ⟨lease, hlease, hlt⟩ := hlater
    have hle := h.attemptNo_le_active hmem hactive hlease
    omega
  unfold after
  cases q with
  | appendExecutorEvent executor event write =>
    obtain ⟨hexecutor, hattempt⟩ := executor_of_fence hfence
    refine transact_eq_self fun value t' hok => ?_
    simp only [appendExecutorEvent, bind_eq_ok, hexecutor, hattempt] at hok
    obtain ⟨active, hactive, -⟩ := hok
    exact absurd hactive (hstale _ active)
  | writeCheckpoint executor checkpoint =>
    obtain ⟨hexecutor, hattempt⟩ := executor_of_fence hfence
    refine transact_eq_self fun value t' hok => ?_
    simp only [writeCheckpoint, bind_eq_ok, hexecutor, hattempt] at hok
    obtain ⟨active, hactive, -⟩ := hok
    exact absurd hactive (hstale _ active)
  | heartbeatExecutorLease executor heartbeatAt leaseExpiresAt =>
    obtain ⟨hexecutor, hattempt⟩ := executor_of_fence hfence
    refine transact_eq_self fun value t' hok => ?_
    simp only [heartbeatExecutorLease, bind_eq_ok, hexecutor, hattempt] at hok
    obtain ⟨active, hactive, -⟩ := hok
    exact absurd hactive (hstale _ active)
  | releaseExecutorLease executor releasedAt release reasonCode =>
    obtain ⟨hexecutor, hattempt⟩ := executor_of_fence hfence
    refine transact_eq_self fun value t' hok => ?_
    simp only [releaseExecutorLease, bind_eq_ok, hexecutor, hattempt] at hok
    obtain ⟨active, hactive, -⟩ := hok
    exact absurd hactive (hstale _ active)
  | yieldForSourceReconciliation executor attempt event =>
    obtain ⟨rfl, rfl⟩ : executor = executorId ∧
      attempt = attemptNo := by simpa [fencedBy] using hfence
    refine transact_eq_self fun value t' hok => ?_
    obtain ⟨⟨-, ⟨active, hactive⟩, -⟩, -⟩ := yield_cases hok
    exact absurd hactive (hstale _ active)
  | commitFailedOutcome request =>
    obtain ⟨hexecutor, hattempt⟩ := owner_of_fence hfence
    simp only [exec]
    cases hcommit : commitFailedOutcome t request with
    | error e => rfl
    | ok committed =>
      rcases commitFailedOutcome_owner hexecutor hattempt hcommit with hsame | ⟨lease, hlease, heq⟩
      · exact hsame
      · exact absurd heq (hnotActive lease hlease)
  | commitNeedsAttention request =>
    obtain ⟨hexecutor, hattempt⟩ := owner_of_fence hfence
    refine transact_eq_self fun value t' hok => ?_
    rcases commitNeedsAttention_owner hexecutor hattempt hok with hsame | ⟨lease, hlease, heq⟩
    · exact hsame
    · exact absurd heq (hnotActive lease hlease)
  | _ => simp [fencedBy] at hfence

end Steps

end RunTables

open RunTables

/-! ## Histories -/

/-- The rows of a run after a sequence of transactions, whoever performed them. -/
def rowsAfter (transactions : List Transaction) : RunTables :=
  run RunTables.after {} transactions

/-- The leases fence the executors of a run all along a history. -/
structure ExecutorsFenced (transactions : List Transaction) : Prop where
  oneActive : ∀ before, before <+: transactions → (rowsAfter before).OneActive
  attempts : ∀ before, before <+: transactions → (rowsAfter before).AttemptsNumbered
  expiry : ∀ before q, before ++ [q] <+: transactions →
    (rowsAfter before).ExpiryKept (rowsAfter (before ++ [q]))
  revision : ∀ before q, before ++ [q] <+: transactions →
    (rowsAfter before).RevisionCounts (rowsAfter (before ++ [q]))
  fenced : ∀ before q executorId attemptNo, before ++ [q] <+: transactions →
    fencedBy q = some (executorId, attemptNo) →
    (∃ lease ∈ (rowsAfter before).leases, attemptNo < lease.attemptNo) →
    rowsAfter (before ++ [q]) = rowsAfter before

/-- The lease table is sound and its attempts are numbered after every history. -/
theorem rowsAfter_sound (transactions : List Transaction) :
    (rowsAfter transactions).LeasesSound ∧ (rowsAfter transactions).AttemptsNumbered := by
  refine run_invariant (I := fun t : RunTables => t.LeasesSound ∧ t.AttemptsNumbered)
    (fun t q h => ?_) ⟨LeasesSound.empty, rfl⟩ transactions
  exact ⟨exec_leasesSound h.1 q, (exec_stepCounted q).write.attemptsNumbered h.1 h.2⟩

/-- A transaction that replays its own event changes a lease, and leaves the run row as it is. -/
theorem not_revisionCounts_of_replay {t : RunTables} {q : Transaction} (hsound : t.LeasesSound)
    (h : t.ReplaysOwnEvent q) : ¬t.RevisionCounts (t.after q) := by
  have hstays : ∃ run, t.run = some run ∧ (t.after q).run = some run ∧
      (t.after q).leases ≠ t.leases := by
    cases q with
    | yieldForSourceReconciliation executorId attemptNo event =>
      obtain ⟨hrecorded, hadmitted⟩ := h
      obtain ⟨lease, hmem, hactive, hyield⟩ := yield_replays hrecorded hadmitted
      obtain ⟨-, -, ⟨run, hrun, -⟩, -⟩ := hadmitted
      refine ⟨run, hrun, ?_, ?_⟩
      · simp only [RunTables.after, exec, hyield, transact]
        exact hrun
      · have hid : (revokeLease lease event.input.createdAt
            "runtime_source_operation_unresolved").leaseId = lease.leaseId := rfl
        obtain ⟨rest, hbefore, hafter⟩ := hsound.updateLease_leases hmem hactive hid
        simp only [RunTables.after, exec, hyield, transact]
        rw [hafter, hbefore]
        intro hsame
        have hrow := congrArg LeaseRow.status (List.cons.inj hsame).1
        simp [revokeLease, hactive] at hrow
    | claimNextRunnableRun executorId leaseId eventId claimedAt leaseExpiresAt =>
      obtain ⟨hrecorded, hadmitted⟩ := h
      have hclaim := claim_replays eventId hrecorded hadmitted
      obtain ⟨run, hrun, -⟩ := hadmitted
      refine ⟨run, hrun, ?_, ?_⟩
      · simp only [RunTables.after, exec, hclaim, transact]
        exact hrun
      · simp [RunTables.after, exec, hclaim, transact]
    | _ => exact h.elim
  obtain ⟨run, hrun, hrun', hleases⟩ := hstays
  rintro (⟨hsame, -⟩ | hgrown)
  · exact hleases hsame
  · obtain ⟨row, hrow, hlt⟩ := hgrown run hrun
    obtain rfl := Option.some.inj (hrun'.symm.trans hrow)
    omega

/-- The leases fence the executors of a run all along a history exactly when no yield and no claim
of it goes through on an event that is recorded already. -/
theorem executorsFenced_iff_no_replay (transactions : List Transaction) :
    ExecutorsFenced transactions ↔
      Along RunTables.after (fun t q => ¬t.ReplaysOwnEvent q) {} transactions := by
  rw [along_iff_each_step]
  have hnext : ∀ before q, rowsAfter (before ++ [q]) = (rowsAfter before).after q :=
    fun before q => run_concat before q
  constructor
  · intro h before q hbegins hreplays
    have hcounts := h.revision before q hbegins
    rw [hnext] at hcounts
    exact not_revisionCounts_of_replay (rowsAfter_sound before).1 hreplays hcounts
  · intro h
    refine ⟨fun before _ => (rowsAfter_sound before).1.oneActive,
      fun before _ => (rowsAfter_sound before).2, ?_, ?_, ?_⟩
    · intro before q _
      rw [hnext]
      exact (exec_stepCounted q).write.expiryKept (rowsAfter_sound before).1
    · intro before q hbegins
      rw [hnext]
      exact (exec_stepCounted q).counts (h before q hbegins)
    · intro before q executorId attemptNo _ hfence hlater
      rw [hnext]
      exact (rowsAfter_sound before).1.after_eq_of_fenced hfence hlater

/-- An operation whose effect is unknown. -/
def unknownOperation : SourceOperationRow where
  operationId := "operation"
  operationKind := .cards
  canonicalRequestHash := "hash"
  idempotencyKey := "key"
  acceptedRequirementRevisionId := "approved"
  runtimeAttemptNo := 1
  runtimeAttemptAuthorityRef := "authority"
  operationPhase := .reconciled
  dispatchIntentRef := none
  conclusiveObservationRef := none
  sourceOperationDisposition := some .reconciliationUnknown
  retryPosture := .reconcileFirst
  reconciliationRevision := 1
  mainCommitRef := none
  ledgerRevision := 2

/-- The event of a yield, under one key whichever attempt yields. -/
def reconciliationRequired (eventId : String) (createdAt : Nat) : SubmittedEvent where
  input := {
    eventId := .random eventId
    eventType := .sourceReconciliationRequired
    stage := "source_reconciliation"
    status := "resume_requested"
    idempotencyKey := some (.caller "reconciliation-required")
    createdAt := createdAt }
  notDecision := by simp

/-- Two attempts of one run yield under the same key: the second loses its lease, and the run stays
`running` at the revision it had. -/
def yieldTwice : List Transaction := [
  .acceptRun queuedRun
    runQueuedEvent
    { runtimeRunId := "run", status := .queued, currentStage := "queued", latestEventSeq := 0 },
  .claimNextRunnableRun "worker" "first" (.random "claim-1") 1 100,
  .updateRunStatus { status := .running, updatedAt := 1 },
  .writeSourceLedger [unknownOperation] true,
  .yieldForSourceReconciliation "worker" 1 (reconciliationRequired "yield-1" 2),
  .writeSourceLedger [{ unknownOperation with retryPosture := .safeRetry }] true,
  .claimNextRunnableRun "worker" "second" (.random "claim-2") 3 100,
  .updateRunStatus { status := .running, updatedAt := 3 },
  .writeSourceLedger [unknownOperation] true,
  .yieldForSourceReconciliation "worker" 2 (reconciliationRequired "yield-2" 4)]

/-- The second yield revokes its lease without moving the state revision. -/
theorem yieldTwice_not_fenced : ¬ExecutorsFenced yieldTwice := by
  intro h
  have hcounts := h.revision (yieldTwice.take 9)
    (.yieldForSourceReconciliation "worker" 2 (reconciliationRequired "yield-2" 4))
    List.prefix_rfl
  rcases hcounts with ⟨hleases, -⟩ | hgrown
  · revert hleases
    decide +kernel
  · obtain ⟨run, hrun⟩ : ∃ run, (rowsAfter (yieldTwice.take 9)).run = some run :=
      Option.isSome_iff_exists.mp (by decide +kernel)
    obtain ⟨row, hrow, hlt⟩ := hgrown run hrun
    have hrevisions : ((rowsAfter (yieldTwice.take 9)).run.map (·.stateRevision)) =
        ((rowsAfter yieldTwice).run.map (·.stateRevision)) := by
      decide +kernel
    have hafter : (rowsAfter yieldTwice).run = some row := hrow
    rw [hrun, hafter, Option.map_some, Option.map_some, Option.some.injEq] at hrevisions
    omega

end SeekTalent.RuntimeControl
