import SeekTalent.RuntimeControl.LeaseHistory

/-!
# What a transaction does to the truth of a run

A run row carries its truth in six columns: the product outcome, the identity and the authority of a
failure, and the action it waits for.  A transaction leaves the row, its leases and its envelopes
alone, moves a row on which no truth stands, commits a failed outcome, enters or leaves needs
attention, or compacts the checkpoints of a finished run (`TruthEffect`).  That each truth stands
only on a row of the status it belongs to follows from these effects alone.
-/

namespace SeekTalent.RuntimeControl

open Foundation

/-- The truth that stands on a run row, if any, belongs to the status of the row. -/
def RunRow.TruthBelongs (run : RunRow) : Prop :=
  run.TruthMutable ∨
    (run.status = .needsAttention ∧ run.productOutcome = some .needsAttention ∧
      run.currentActionId ≠ none) ∨
    (run.status = .cancelled ∧ run.productOutcome = some .cancelled ∧ run.FailureTruthEmpty) ∨
    (run.status = .failed ∧ run.productOutcome = some .failed)

/-- A failed outcome stands on the run. -/
def RunRow.OutcomeFailed (run : RunRow) : Prop :=
  run.productOutcome = some .failed

instance (run : RunRow) : Decidable run.OutcomeFailed :=
  inferInstanceAs (Decidable (_ = _))

namespace RunTables

/-- The truth on the run row belongs to its status. -/
def TruthBelongs (t : RunTables) : Prop :=
  ∀ run, t.run = some run → run.TruthBelongs

/-- What a transaction does to the run row, taking `t` to `t'`. -/
inductive TruthEffect (t : RunTables) (q : Transaction) (t' : RunTables) : Prop
  | untouched (hrun : t'.run = t.run) (hleases : t'.leases = t.leases)
      (henvelopes : t'.failureEnvelopes = t.failureEnvelopes)
  | moved {row : RunRow} (hmutable : ∀ run, t.run = some run → run.TruthMutable)
      (hrun' : t'.run = some row) (hmutable' : row.TruthMutable)
      (hallowed : ∀ run, t.run = some run → row.status ∈ allowedTransitions run.status)
  | failed {run : RunRow} {a : OutcomeRequest} (hrun : t.run = some run)
      (hmutable : run.TruthMutable)
      (hstatus : run.status ∉ [RunStatus.failed, .cancelled, .completed, .cancellationRequested])
      (hrun' : t'.run = some (failedOutcomeRow run a t.activeLeaseRow))
      (hvalid : validateFailedOutcomeRow t' (failedOutcomeRow run a t.activeLeaseRow) = .ok ())
      (hidle : t'.activeLeaseRow = none)
  | attended {run : RunRow} {a : AttentionRequest} (hrun : t.run = some run)
      (hmutable : run.TruthMutable)
      (hstatus : run.status ∉ [RunStatus.cancellationRequested, .cancelled, .completed, .failed,
        .needsAttention])
      (hrun' : t'.run = some (run.attended a t.activeLeaseRow))
  | exited {run : RunRow} {a : ExitRequest} {stage : String} (hrun : t.run = some run)
      (hstatus : run.status = .needsAttention)
      (houtcome : run.productOutcome = some .needsAttention) (hidle : t.activeLeaseRow = none)
      (hrun' : t'.run = some (run.exited a stage)) (hleases : t'.leases = t.leases)
      (hvalid : validateFailedOutcomeRow t' (run.exited a stage) = .ok ())
  | compacted {run : RunRow} {source : CheckpointRow} {checkpointId : String}
      (hq : q = .compactTerminalCheckpoints true) (hrun : t.run = some run)
      (hterminal : run.status ∈ terminalRunStatuses) (hsource : t.compactionSource = some source)
      (hrun' : t'.run = some { run with
        latestCheckpointId := some checkpointId
        updatedAt := source.createdAt })
      (hleases : t'.leases = t.leases) (henvelopes : t'.failureEnvelopes = t.failureEnvelopes)

/-- No truth stands on the run row. -/
def Mutable (t : RunTables) : Prop :=
  ∀ run, t.run = some run → run.TruthMutable

section Basic

variable {t t' : RunTables} {run row : RunRow} {q : Transaction}
variable {event : EventInput} {write : RunWrite} {stored : EventRow}

/-- Where no outcome stands, no truth does. -/
theorem TruthBelongs.mutable_of_outcome (h : t.TruthBelongs) (hrun : t.run = some run)
    (houtcome : run.productOutcome = none) : run.TruthMutable := by
  rcases h run hrun with hmutable | ⟨-, hother, -⟩ | ⟨-, hother, -⟩ | ⟨-, hother⟩
  · exact hmutable
  all_goals simp [houtcome] at hother

/-- Where the status is none of those that an outcome belongs to, no truth stands. -/
theorem TruthBelongs.mutable_of_status (h : t.TruthBelongs) (hrun : t.run = some run)
    (hstatus : run.status ∉ [RunStatus.needsAttention, .cancelled, .failed]) :
    run.TruthMutable := by
  simp only [List.mem_cons, List.not_mem_nil, or_false, not_or] at hstatus
  rcases h run hrun with hmutable | ⟨hother, -⟩ | ⟨hother, -⟩ | ⟨hother, -⟩
  · exact hmutable
  · exact absurd hother hstatus.1
  · exact absurd hother hstatus.2.1
  · exact absurd hother hstatus.2.2

/-- A transaction that writes nothing. -/
theorem TruthEffect.refl (t : RunTables) (q : Transaction) : t.TruthEffect q t :=
  .untouched rfl rfl rfl

/-- Moving a row on which no truth stands. -/
theorem TruthEffect.of_moved (hrun : t.run = some run) (hmutable : run.TruthMutable)
    (hrun' : t'.run = some row) (hmutable' : row.TruthMutable)
    (hallowed : row.status ∈ allowedTransitions run.status) : t.TruthEffect q t' := by
  have hsome : ∀ other, t.run = some other → other = run := fun other hother =>
    Option.some.inj (hother.symm.trans hrun)
  refine .moved (fun other hother => ?_) hrun' hmutable' fun other hother => ?_
  · rwa [hsome other hother]
  · rwa [hsome other hother]

/-- Bumping the revision of a row on which no truth stands. -/
theorem TruthEffect.of_bumped (hrun : t.run = some run) (hmutable : run.TruthMutable)
    (hrun' : t'.run = some { run with stateRevision := run.stateRevision + 1 }) :
    t.TruthEffect q t' :=
  .of_moved hrun hmutable hrun' hmutable (self_mem_allowedTransitions run.status)

/-- An event append onto a row on which no truth stands moves it along the transition table. -/
theorem append_moves {s : RunTables}
    (h : appendEventInTransaction s event write = .ok (stored, t')) (hrun : s.run = some run)
    (hmutable : run.TruthMutable) :
    ∃ row, t'.run = some row ∧ row.TruthMutable ∧ row.status ∈ allowedTransitions run.status := by
  rcases appendEventInTransaction_ok h with ⟨-, rfl⟩ | ⟨run', -, hrun', -, hallowed, -, rfl⟩
  · exact ⟨run, hrun, hmutable, self_mem_allowedTransitions run.status⟩
  · obtain rfl : run' = run := Option.some.inj (hrun'.symm.trans hrun)
    exact ⟨run'.afterEvent event write, rfl, hmutable, hallowed⟩

/-- An event append by itself. -/
theorem append_truthEffect
    (h : appendEventInTransaction t event write = .ok (stored, t')) : t.TruthEffect q t' := by
  rcases appendEventInTransaction_ok h with ⟨-, rfl⟩ | ⟨run, -, hrun, hmutable, hallowed, -, rfl⟩
  · exact .refl _ _
  · exact .of_moved hrun hmutable rfl hmutable hallowed

/-- An event append keeps a row free of truth. -/
theorem append_mutable
    (h : appendEventInTransaction t event write = .ok (stored, t')) (hmutable : t.Mutable) :
    t'.Mutable := by
  rcases appendEventInTransaction_ok h with ⟨-, rfl⟩ | ⟨run, -, -, hrun, -, -, rfl⟩
  · exact hmutable
  · intro row hrow
    obtain rfl : run.afterEvent event write = row := by simpa [afterEvent] using hrow
    exact hrun

/-- Deciding about a lost executor moves the run to the status of the plan. -/
theorem decideSettlement_moves {s : RunTables} {lease : LeaseRow} {checkpoint : CheckpointReading}
    {resumeRecoverable : Bool} {now : Nat} {outcome : Settlement} (hmutable : s.Mutable)
    (h : decideSettlement s run lease checkpoint resumeRecoverable now = .ok (outcome, t')) :
    ∃ row, t'.run = some row ∧ row.TruthMutable ∧ row.status ∈ allowedTransitions run.status := by
  obtain ⟨reading, plan, expiry, expired, decided, attention, current, -, hexpiry, hdecided,
    hallowed, hcurrent, rfl⟩ := decideSettlement_ok h
  have hexpired : expired.Mutable := by
    rcases appendRecoveryExpiryEvent_ok hexpiry with rfl | happend
    · exact hmutable
    · exact append_mutable happend hmutable
  have hdecidedMutable : decided.Mutable := by
    rcases appendRecoveryDecisionEvent_ok hdecided with rfl | ⟨row, happend⟩
    · exact hexpired
    · exact append_mutable happend hexpired
  exact ⟨_, rfl, hdecidedMutable current hcurrent, hallowed⟩

end Basic

section Effects

variable {t t' : RunTables} {q : Transaction}

/-- Settling an expired lease bumps or moves a row on which no truth stands. -/
theorem settle_truthEffect {checkpoint : CheckpointReading} {resumeRecoverable : Bool} {now : Nat}
    {s : Settlement}
    (h : settleNextExpiredExecutorLease t checkpoint resumeRecoverable now = .ok (s, t')) :
    t.TruthEffect q t' := by
  rcases settleNextExpiredExecutorLease_ok h with
    rfl | ⟨run, lease, hrun, hmutable, -, -, hdone⟩
  · exact .refl _ _
  have hexpired : ∃ row, (t.withExpired lease now).run = some row ∧ row.TruthMutable ∧
      row.status = run.status := by
    unfold withExpired
    split
    · exact ⟨{ run with stateRevision := run.stateRevision + 1 }, by simp [bumpRevision, hrun],
        hmutable, rfl⟩
    · exact ⟨run, hrun, hmutable, rfl⟩
  obtain ⟨row, hrow, hrowMutable, hrowStatus⟩ := hexpired
  rcases hdone with ⟨-, rfl⟩ | hdecided
  · exact .of_moved hrun hmutable hrow hrowMutable
      (hrowStatus ▸ self_mem_allowedTransitions run.status)
  · have hexpiredMutable : (t.withExpired lease now).Mutable := by
      intro other hother
      obtain rfl : row = other := Option.some.inj (hrow.symm.trans hother)
      exact hrowMutable
    obtain ⟨settled, hsettled, hsettledMutable, hallowed⟩ :=
      decideSettlement_moves hexpiredMutable hdecided
    exact .of_moved hrun hmutable hsettled hsettledMutable hallowed

/-- Committing a failed outcome: the outcome is committed, or only a lease expires. -/
theorem commitFailedOutcome_truthEffect {a : OutcomeRequest} {answer : Except Raised RunRow}
    (h : commitFailedOutcome t a = .ok (answer, t')) : t.TruthEffect q t' := by
  obtain ⟨run, hrun, ⟨-, rfl, -⟩ | ⟨hstatus, hmutable, -, -, -, hdone⟩⟩ :=
    commitFailedOutcome_ok h
  · exact .refl _ _
  rcases hdone with ⟨lease, -, -, -, rfl⟩ | ⟨-, row, hwrite, -⟩
  · exact .of_bumped hrun hmutable (by simp [commitExpiredAuthority, bumpRevision, hrun])
  · obtain ⟨stored, -, rfl, rfl, hvalid, hidle⟩ := writeFailedOutcome_ok hwrite
    exact .failed hrun hmutable hstatus rfl hvalid hidle

/-- Every transaction has one of the six effects on the run row. -/
theorem exec_truthEffect (h : t.TruthBelongs) (q : Transaction) : t.TruthEffect q (exec q t).2 := by
  cases q with
  | getRun => exact .refl t _
  | hasSourceOperationsRequiringReconciliation => exact .refl t _
  | getCommand commandId => exact .refl t _
  | getCommandByIdempotency key => exact .refl t _
  | listPendingLifecycleCommands => exact .refl t _
  | saveCommand command =>
    refine transact_rule (.refl t _) fun value t' hok => ?_
    simp only [saveCommand, bind_eq_ok, require_eq_ok, Except.ok.injEq, Prod.mk.injEq] at hok
    obtain ⟨-, -, -, rfl⟩ := hok
    exact .untouched rfl rfl rfl
  | updateCommandStatus commandId status appliedAt =>
    refine transact_rule (.refl t _) fun value t' hok => ?_
    simp only [updateCommandStatus, bind_eq_ok, Except.ok.injEq, Prod.mk.injEq] at hok
    obtain ⟨-, -, -, rfl⟩ := hok
    exact .untouched rfl rfl rfl
  | acceptRun run initialEvent snapshot =>
    refine transact_rule (.refl t _) fun value t' hok => ?_
    rcases acceptRun_ok hok with rfl | ⟨hnone, htruth, -, stored, happend⟩
    · exact .refl _ _
    · obtain ⟨row, hrow, hmutable, -⟩ := append_moves happend rfl htruth.1
      exact .moved (by simp [hnone]) hrow hmutable (by simp [hnone])
  | updateRunStatus update =>
    refine transact_rule (.refl t _) fun value t' hok => ?_
    obtain ⟨run, hrun, hmutable, hallowed, -, rfl⟩ := updateRunStatus_ok hok
    exact .of_moved hrun hmutable rfl hmutable hallowed
  | appendEvent event =>
    exact transact_rule (.refl t _) fun value t' hok => append_truthEffect hok
  | appendExecutorEvent executor event write =>
    exact transact_rule (.refl t _) fun value t' hok =>
      append_truthEffect (appendExecutorEvent_ok hok).2
  | writeCheckpoint executor checkpoint =>
    refine transact_rule (.refl t _) fun value t' hok => ?_
    obtain ⟨run, checkpoints, hrun, hmutable, rfl⟩ := writeCheckpoint_ok hok
    exact .of_moved hrun hmutable rfl hmutable (self_mem_allowedTransitions run.status)
  | claimNextRunnableRun executorId leaseId eventId claimedAt leaseExpiresAt =>
    refine transact_rule (.refl t _) fun value t' hok => ?_
    rcases claimNextRunnableRun_ok hok with
      ⟨-, rfl⟩ | ⟨run, lease, row, hrun, hrunnable, -, -, -, happend⟩
    · exact .refl _ _
    · have hmutable : run.TruthMutable := by
        apply h.mutable_of_status hrun
        rcases hrunnable.1 with hstatus | hstatus <;> simp [hstatus]
      obtain ⟨moved, hmoved, hmovedMutable, hallowed⟩ := append_moves happend hrun hmutable
      exact .of_moved hrun hmutable hmoved hmovedMutable hallowed
  | acquireExecutorLease leaseId executorId acquiredAt leaseExpiresAt =>
    refine transact_rule (.refl t _) fun value t' hok => ?_
    obtain ⟨⟨run, hrun, hmutable⟩, -, rfl, -, rfl⟩ := acquireExecutorLease_ok hok
    exact .of_bumped hrun hmutable (by simp [bumpRevision, hrun])
  | heartbeatExecutorLease executor heartbeatAt leaseExpiresAt =>
    refine transact_rule (.refl t _) fun value t' hok => ?_
    obtain ⟨run, lease, hrun, hmutable, -, -, -, -, -, rfl⟩ := heartbeatExecutorLease_ok hok
    exact .of_bumped hrun hmutable (by simp [bumpRevision, hrun])
  | releaseExecutorLease executor releasedAt release reasonCode =>
    refine transact_rule (.refl t _) fun value t' hok => ?_
    obtain ⟨run, lease, hrun, hmutable, -, -, -, -, -, rfl⟩ := releaseExecutorLease_ok hok
    exact .of_bumped hrun hmutable (by simp [bumpRevision, hrun])
  | yieldForSourceReconciliation executorId attemptNo event =>
    refine transact_rule (.refl t _) fun value t' hok => ?_
    obtain ⟨run, lease, row, appended, hrun, hmutable, -, -, -, happend, rfl⟩ :=
      yieldForSourceReconciliation_ok hok
    obtain ⟨moved, hmoved, hmovedMutable, hallowed⟩ := append_moves happend hrun hmutable
    exact .of_moved hrun hmutable hmoved hmovedMutable hallowed
  | expireExecutorLeases now =>
    simp only [exec, expireExecutorLeases]
    split
    · rename_i run lease hrun hlease
      split
      · rename_i hexpires
        exact .of_bumped hrun (h.mutable_of_outcome hrun hexpires.2.1)
          (by simp [bumpRevision, hrun])
      · exact .refl t _
    · exact .refl t _
  | settleNextExpiredExecutorLease checkpoint resumeRecoverable now =>
    exact transact_rule (.refl t _) fun value t' hok => settle_truthEffect hok
  | resolveRecoveryAttention provedNoDispatch resolvedAt =>
    refine transact_rule (.refl t _) fun value t' hok => ?_
    obtain ⟨run, attention, hrun, hstatus, haction, -, rfl, rfl⟩ := resolveRecoveryAttention_ok hok
    have hmutable : run.TruthMutable := by
      rcases h run hrun with hmutable | ⟨-, -, hother⟩ | ⟨hother, -⟩ | ⟨hother, -⟩
      · exact hmutable
      · exact absurd haction hother
      · simp [hstatus] at hother
      · simp [hstatus] at hother
    exact .of_moved hrun hmutable rfl ⟨rfl, hmutable.2⟩ (by simp [hstatus, allowedTransitions])
  | commitFailedOutcome request =>
    simp only [exec]
    cases hcommit : commitFailedOutcome t request with
    | error e => exact .refl t _
    | ok committed => exact commitFailedOutcome_truthEffect hcommit
  | commitNeedsAttention request =>
    refine transact_rule (.refl t _) fun value t' hok => ?_
    rcases commitNeedsAttention_ok hok with
      rfl | ⟨run, checkpoints, envelopes, hrun, hmutable, hstatus, rfl⟩
    · exact .refl _ _
    · exact .attended hrun hmutable hstatus rfl
  | exitNeedsAttention request =>
    refine transact_rule (.refl t _) fun value t' hok => ?_
    rcases exitNeedsAttention_ok hok with
      rfl | ⟨run, envelopes, stage, hrun, hstatus, houtcome, hidle, rfl, hvalid, rfl⟩
    · exact .refl _ _
    · exact .exited hrun hstatus houtcome hidle rfl rfl hvalid
  | writeCheckpointForRecovery checkpoint =>
    refine transact_rule (.refl t _) fun value t' hok => ?_
    obtain ⟨run, checkpoints, hrun, hmutable, rfl⟩ := writeCheckpointForRecovery_ok hok
    exact .of_moved hrun hmutable rfl hmutable (self_mem_allowedTransitions run.status)
  | compactTerminalCheckpoints archivable =>
    refine transact_rule (.refl t _) fun value t' hok => ?_
    obtain ⟨run, checkpoints, hrun, hterminal, harchivable, ⟨-, rfl⟩ | ⟨source, hsource, rfl⟩⟩ :=
      compactTerminalCheckpoints_ok hok
    · exact .untouched rfl rfl rfl
    · exact .compacted (by rw [harchivable]) hrun hterminal hsource rfl rfl rfl
  | writeSourceLedger rows agrees => exact .untouched rfl rfl rfl

/-- The effects keep every truth on a row of the status it belongs to. -/
theorem TruthBelongs.of_effect (h : t.TruthBelongs) (heffect : t.TruthEffect q t') :
    t'.TruthBelongs := by
  intro row hrow
  cases heffect with
  | untouched hrun => exact h row (hrun ▸ hrow)
  | moved hmutable hrun' hmutable' =>
    obtain rfl := Option.some.inj (hrun'.symm.trans hrow)
    exact .inl hmutable'
  | failed hrun hmutable hstatus hrun' =>
    obtain rfl := Option.some.inj (hrun'.symm.trans hrow)
    exact .inr (.inr (.inr ⟨rfl, rfl⟩))
  | attended hrun hmutable hstatus hrun' =>
    obtain rfl := Option.some.inj (hrun'.symm.trans hrow)
    exact .inr (.inl ⟨rfl, rfl, by simp [RunRow.attended]⟩)
  | @exited run a stage hrun hstatus houtcome hidle hrun' =>
    obtain rfl := Option.some.inj (hrun'.symm.trans hrow)
    cases hexit : a.exit with
    | resolved =>
      refine .inl ?_
      simp [RunRow.TruthMutable, RunRow.exited, hexit, AttentionExit.outcome,
        AttentionExit.envelope]
    | cancelled =>
      refine .inr (.inr (.inl ?_))
      simp [RunRow.FailureTruthEmpty, RunRow.exited, hexit, AttentionExit.outcome,
        AttentionExit.envelope, AttentionExit.targetStatus]
    | failed envelope reasonCode =>
      refine .inr (.inr (.inr ?_))
      simp [RunRow.exited, hexit, AttentionExit.outcome, AttentionExit.targetStatus]
  | @compacted run source checkpointId hq hrun hterminal hsource hrun' =>
    obtain rfl := Option.some.inj (hrun'.symm.trans hrow)
    exact h run hrun

/-- Every transaction keeps every truth on a row of the status it belongs to. -/
theorem exec_truthBelongs (h : t.TruthBelongs) (q : Transaction) : (exec q t).2.TruthBelongs :=
  h.of_effect (exec_truthEffect h q)

/-- No truth stands anywhere before the run is accepted. -/
theorem TruthBelongs.empty : TruthBelongs {} := fun run hrun => by cases hrun

end Effects

end RunTables

end SeekTalent.RuntimeControl
