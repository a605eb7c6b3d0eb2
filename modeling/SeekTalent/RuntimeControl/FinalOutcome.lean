import SeekTalent.RuntimeControl.ExecutorRuns
import SeekTalent.RuntimeControl.RunTruth

/-!
# A failed outcome is final

Once a failed outcome stands on a run, its columns stay, no lease is active, the row validates, and
a repeated commit returns the committed row; no outcome is committed after a cancellation or by an
owner that lost its lease.  All of it holds along every history in which the compaction of
checkpoints, which writes the run row without looking at its outcome, takes the time that already
stands there.
-/

namespace SeekTalent.RuntimeControl

open Foundation

/-- The columns of a failed outcome agree. -/
def RunRow.SameOutcome (run run' : RunRow) : Prop :=
  run'.status = run.status ∧ run'.productOutcome = run.productOutcome ∧
    run'.currentFailureId = run.currentFailureId ∧
    run'.currentFailureRevision = run.currentFailureRevision ∧
    run'.currentFailureOwnerLeaseId = run.currentFailureOwnerLeaseId ∧
    run'.currentFailureAuthorityMode = run.currentFailureAuthorityMode ∧
    run'.stopReasonCode = run.stopReasonCode ∧ run'.completedAt = run.completedAt ∧
    run'.updatedAt = run.updatedAt

namespace RunTables

/-- The failed outcome of an earlier state still stands in a later one. -/
def OutcomeKept (t t' : RunTables) : Prop :=
  ∀ run, t.run = some run → run.OutcomeFailed →
    ∃ run', t'.run = some run' ∧ run.SameOutcome run'

/-- The run row passes the validation of its outcome. -/
def OutcomeValid (t : RunTables) : Prop :=
  ∀ run, t.run = some run → validateFailedOutcomeRow t run = .ok ()

instance (t : RunTables) : Decidable t.OutcomeValid :=
  decidable_of_iff (∀ run ∈ t.run, validateFailedOutcomeRow t run = .ok ()) Iff.rfl

/-- A run with a failed outcome has no active lease. -/
def OutcomeIdle (t : RunTables) : Prop :=
  ∀ run, t.run = some run → run.OutcomeFailed → ∀ lease ∈ t.leases, lease.status ≠ .active

/-- A repeated commit returns the committed row and writes nothing. -/
def Replays (t : RunTables) (a : OutcomeRequest) : Prop :=
  ∃ run, t.run = some run ∧ exec (.commitFailedOutcome a) t = (.ok run, t)

/-- The commit succeeds on a run without a failed outcome. -/
def CommitsOutcome (t : RunTables) (a : OutcomeRequest) : Prop :=
  (∀ run, t.run = some run → ¬run.OutcomeFailed) ∧
    ∃ row, (exec (.commitFailedOutcome a) t).1 = .ok row

/-- Whoever commits the outcome may: an active lease is the newest, has not run out and belongs to
the caller, and a caller that names itself as the owner holds one. -/
def OutcomeAuthorised (t : RunTables) (a : OutcomeRequest) : Prop :=
  (∀ lease ∈ t.leases, lease.status = .active →
    t.leases.head? = some lease ∧ a.Owns lease ∧ a.decisionAt < lease.leaseExpiresAt) ∧
    (a.OwnerSupplied → ∃ lease ∈ t.leases, lease.status = .active)

/-- The run was cancelled, or its cancellation was requested. -/
def CancellationAsked (t : RunTables) : Prop :=
  ∃ status ∈ t.runStatus, status ∈ [RunStatus.cancellationRequested, .cancelled]

end RunTables

/-- A compaction that writes a manifest for a run with a failed outcome takes it from a checkpoint
of the time the outcome was committed. -/
def CompactsInPlace (t : RunTables) : Transaction → Prop
  | .compactTerminalCheckpoints archivable =>
    archivable = true → ∀ run, t.run = some run → run.OutcomeFailed →
      ∀ source, t.compactionSource = some source → source.createdAt = run.updatedAt
  | _ => True

/-- The failed outcomes of a history are final. -/
structure OutcomesFinal (choices : List ControlChoice) : Prop where
  kept : ∀ earlier later, earlier <+: later → later <+: choices →
    (ControlPool.after earlier).shared.OutcomeKept (ControlPool.after later).shared
  idle : ∀ before, before <+: choices → (ControlPool.after before).shared.OutcomeIdle
  valid : ∀ before, before <+: choices → (ControlPool.after before).shared.OutcomeValid
  replayed : ∀ before choice a row later,
    (ControlPool.after before).called choice = some (.commitFailedOutcome a) →
    (exec (.commitFailedOutcome a) (ControlPool.after before).shared).1 = .ok row →
    before ++ [choice] <+: later → later <+: choices →
    (ControlPool.after later).shared.Replays a
  uncancelled : ∀ earlier later, earlier <+: later → later <+: choices →
    (ControlPool.after earlier).shared.CancellationAsked →
    ∀ run, (ControlPool.after later).shared.run = some run → ¬run.OutcomeFailed
  authorised : ∀ before choice a, before ++ [choice] <+: choices →
    (ControlPool.after before).called choice = some (.commitFailedOutcome a) →
    (ControlPool.after before).shared.CommitsOutcome a →
    (ControlPool.after before).shared.OutcomeAuthorised a

namespace RunTables

variable {t t' : RunTables} {run row : RunRow}
variable {a : OutcomeRequest}

/-! ## What the validation reads -/

/-- The validation of an outcome reads leases and envelopes, and no checkpoint pointer. -/
theorem validate_congr (hleases : t'.leases = t.leases)
    (henvelopes : t'.failureEnvelopes = t.failureEnvelopes) (checkpointId : Option String) :
    validateFailedOutcomeRow t' { run with latestCheckpointId := checkpointId } =
      validateFailedOutcomeRow t run := by
  have hactive : t'.activeLeaseRow = t.activeLeaseRow := by simp [activeLeaseRow, hleases]
  have henvelope : t'.currentFailureEnvelope { run with latestCheckpointId := checkpointId } =
      t.currentFailureEnvelope run := by
    simp [currentFailureEnvelope, loadFailureEnvelope, henvelopes]
  have howner : ∀ envelope, OwnerLeaseAgrees t' { run with latestCheckpointId := checkpointId }
      envelope ↔ OwnerLeaseAgrees t run envelope := by
    intro envelope
    simp [OwnerLeaseAgrees, hleases]
  unfold validateFailedOutcomeRow
  rw [henvelope, hactive]
  simp only [howner]
  rfl

/-- The row of a cancelled outcome validates. -/
theorem validate_of_cancelled (hstatus : run.status = .cancelled)
    (houtcome : run.productOutcome = some .cancelled) (hempty : run.FailureTruthEmpty) :
    validateFailedOutcomeRow t run = .ok () := by
  simp [validateFailedOutcomeRow, hstatus, houtcome, hempty]

/-- The row of a run that has just entered needs attention validates. -/
theorem validate_attended (a : AttentionRequest) (owner : Option LeaseRow) :
    validateFailedOutcomeRow t (run.attended a owner) = .ok () := by
  cases owner <;>
    simp [validateFailedOutcomeRow, RunRow.attended, RunRow.FailureTruthEmpty,
      RunRow.AuthorityNamesOwner]

/-! ## The invariant and the steps -/

/-- What holds in every state of a history whose compactions are in place. -/
structure OutcomeSound (t : RunTables) : Prop where
  leases : t.LeasesSound
  truth : t.TruthBelongs
  valid : t.OutcomeValid
  idle : t.OutcomeIdle

/-- The failed outcome and everything its validation and its replay read are untouched: of the run
row only the checkpoint pointer may have moved. -/
def OutcomeFrozen (t t' : RunTables) : Prop :=
  ∀ run, t.run = some run → run.OutcomeFailed →
    (∃ checkpointId, t'.run = some { run with latestCheckpointId := checkpointId }) ∧
      t'.leases = t.leases ∧ t'.failureEnvelopes = t.failureEnvelopes

/-- A frozen outcome of no move. -/
theorem OutcomeFrozen.refl (t : RunTables) : t.OutcomeFrozen t := fun run hrun _ =>
  ⟨⟨run.latestCheckpointId, hrun⟩, rfl, rfl⟩

/-- Frozen outcomes compose. -/
theorem OutcomeFrozen.trans {t'' : RunTables} (h : t.OutcomeFrozen t') (h' : t'.OutcomeFrozen t'') :
    t.OutcomeFrozen t'' := by
  intro run hrun hfailed
  obtain ⟨⟨_, hrun'⟩, hleases, henvelopes⟩ := h run hrun hfailed
  obtain ⟨⟨checkpointId, hrun''⟩, hleases', henvelopes'⟩ := h' _ hrun' hfailed
  exact ⟨⟨checkpointId, hrun''⟩, hleases'.trans hleases, henvelopes'.trans henvelopes⟩

/-- A frozen outcome is kept. -/
theorem OutcomeFrozen.kept (h : t.OutcomeFrozen t') : t.OutcomeKept t' := by
  intro run hrun hfailed
  obtain ⟨⟨checkpointId, hrun'⟩, -⟩ := h run hrun hfailed
  exact ⟨_, hrun', rfl, rfl, rfl, rfl, rfl, rfl, rfl, rfl, rfl⟩

/-- On a row without truth no failed outcome stands. -/
theorem not_outcomeFailed_of_mutable (hmutable : run.TruthMutable) : ¬run.OutcomeFailed := by
  simp [RunRow.OutcomeFailed, hmutable.1]

/-- What one effect does to a sound outcome. -/
theorem OutcomeSound.of_effect (h : t.OutcomeSound) {q : Transaction} (hleases : t'.LeasesSound)
    (heffect : t.TruthEffect q t') (hinPlace : CompactsInPlace t q) :
    t'.OutcomeSound ∧ t.OutcomeFrozen t' := by
  have htruth := h.truth.of_effect heffect
  cases heffect with
  | untouched hrun hleases' henvelopes =>
    refine ⟨⟨hleases, htruth, fun run hrun' => ?_, fun run hrun' hfailed => ?_⟩,
      fun run hrun' _ => ⟨⟨run.latestCheckpointId, hrun.trans hrun'⟩, hleases', henvelopes⟩⟩
    · have hvalid : validateFailedOutcomeRow t' run = validateFailedOutcomeRow t run :=
        validate_congr hleases' henvelopes run.latestCheckpointId
      exact hvalid.trans (h.valid run (hrun ▸ hrun'))
    · rw [hleases']
      exact h.idle run (hrun ▸ hrun') hfailed
  | moved hmutable hrun' hmutable' =>
    have hsome : ∀ other, t'.run = some other → other.TruthMutable := fun other hother =>
      Option.some.inj (hrun'.symm.trans hother) ▸ hmutable'
    refine ⟨⟨hleases, htruth, fun run hother => validate_of_mutable (hsome run hother), ?_⟩, ?_⟩
    · exact fun run hother hfailed =>
        absurd hfailed (not_outcomeFailed_of_mutable (hsome run hother))
    · exact fun run hrun hfailed =>
        absurd hfailed (not_outcomeFailed_of_mutable (hmutable run hrun))
  | failed hrun hmutable hstatus hrun' hvalid hidle =>
    refine ⟨⟨hleases, htruth, fun other hother => ?_, fun other hother hfailed => ?_⟩, ?_⟩
    · obtain rfl := Option.some.inj (hrun'.symm.trans hother)
      exact hvalid
    · exact activeLeaseRow_eq_none.mp hidle
    · intro other hother hfailed
      obtain rfl := Option.some.inj (hrun.symm.trans hother)
      exact absurd hfailed (not_outcomeFailed_of_mutable hmutable)
  | attended hrun hmutable hstatus hrun' =>
    refine ⟨⟨hleases, htruth, fun other hother => ?_, fun other hother hfailed => ?_⟩, ?_⟩
    · obtain rfl := Option.some.inj (hrun'.symm.trans hother)
      exact validate_attended _ _
    · obtain rfl := Option.some.inj (hrun'.symm.trans hother)
      simp [RunRow.OutcomeFailed, RunRow.attended] at hfailed
    · intro other hother hfailed
      obtain rfl := Option.some.inj (hrun.symm.trans hother)
      exact absurd hfailed (not_outcomeFailed_of_mutable hmutable)
  | exited hrun hstatus houtcome hidle hrun' hleases' hvalid =>
    refine ⟨⟨hleases, htruth, fun other hother => ?_, fun other hother hfailed => ?_⟩, ?_⟩
    · obtain rfl := Option.some.inj (hrun'.symm.trans hother)
      exact hvalid
    · rw [hleases']
      exact activeLeaseRow_eq_none.mp hidle
    · intro other hother hfailed
      obtain rfl := Option.some.inj (hrun.symm.trans hother)
      simp [RunRow.OutcomeFailed, houtcome] at hfailed
  | @compacted run source checkpointId hq hrun hterminal hsource hrun' hleases' henvelopes =>
    subst hq
    have hkept : run.OutcomeFailed → source.createdAt = run.updatedAt := fun hfailed =>
      hinPlace rfl run hrun hfailed source hsource
    refine ⟨⟨hleases, htruth, fun other hother => ?_, fun other hother hfailed => ?_⟩, ?_⟩
    · obtain rfl := Option.some.inj (hrun'.symm.trans hother)
      rcases h.truth run hrun with
        hmutable | ⟨hstatus, -⟩ | ⟨hstatus, houtcome, hempty⟩ | ⟨-, houtcome⟩
      · exact validate_of_mutable hmutable
      · simp [hstatus, terminalRunStatuses] at hterminal
      · exact validate_of_cancelled hstatus houtcome hempty
      · rw [hkept houtcome]
        exact (validate_congr hleases' henvelopes _).trans (h.valid run hrun)
    · obtain rfl := Option.some.inj (hrun'.symm.trans hother)
      rw [hleases']
      exact h.idle run hrun hfailed
    · intro other hother hfailed
      obtain rfl := Option.some.inj (hrun.symm.trans hother)
      rw [hkept hfailed] at hrun'
      exact ⟨⟨_, hrun'⟩, hleases', henvelopes⟩

/-! ## Replays -/

/-- What an exact replay checks. -/
theorem requireExactReplay_eq_ok :
    requireExactReplay t run a = .ok row ↔
      requireEnvelopeMatches a run.runtimeRunId = .ok () ∧
        (run.stateRevision = a.expectedStateRevision + 1 ∧
          run.stopReasonCode = some a.terminalReasonCode ∧ run.completedAt = some a.terminalAt ∧
          run.currentFailureId = some a.envelope.failureId ∧
          run.currentFailureRevision = some a.envelope.revision ∧ t.activeLeaseRow = none) ∧
        ReplayAuthorityAgrees run a ∧ (a.OwnerComplete → ReplayOwnerAgrees t run a) ∧
        t.loadFailureEnvelope a.envelope.failureId a.envelope.revision = some a.envelope ∧
        validateFailedOutcomeRow t run = .ok () ∧ run = row := by
  unfold requireExactReplay
  cases hload : t.loadFailureEnvelope a.envelope.failureId a.envelope.revision with
  | none => simp
  | some loaded =>
    simp only [check_bind_eq_ok, require_eq_ok, Except.ok.injEq, Option.some.injEq]

/-- A replay stays possible while the outcome is frozen. -/
theorem replay_congr (hleases : t'.leases = t.leases)
    (henvelopes : t'.failureEnvelopes = t.failureEnvelopes) (checkpointId : Option String)
    (h : requireExactReplay t run a = .ok run) :
    requireExactReplay t' { run with latestCheckpointId := checkpointId } a =
      .ok { run with latestCheckpointId := checkpointId } := by
  rw [requireExactReplay_eq_ok] at h ⊢
  obtain ⟨hmatches, ⟨hrevision, hreason, hcompleted, hid, hfailure, hidle⟩, hauthority, howner,
    hload, hvalid, -⟩ := h
  have hidle' : t'.activeLeaseRow = none := by simpa [activeLeaseRow, hleases] using hidle
  refine ⟨hmatches, ⟨hrevision, hreason, hcompleted, hid, hfailure, hidle'⟩, hauthority, ?_, ?_, ?_,
    rfl⟩
  · simpa [ReplayOwnerAgrees, hleases] using howner
  · simpa [loadFailureEnvelope, henvelopes] using hload
  · exact (validate_congr hleases henvelopes checkpointId).trans hvalid

/-- The lease that an owner's outcome was committed under is the one its replay finds. -/
theorem revoked_found (h : t.LeasesSound) {lease : LeaseRow}
    (hactive : t.activeLeaseRow = some lease) (howns : a.Owns lease) :
    (t.updateLease (revokeLease lease a.decisionAt a.terminalReasonCode)).leases.find?
        (fun other => a.Owns other) =
      some (revokeLease lease a.decisionAt a.terminalReasonCode) := by
  obtain ⟨hmem, hstatus⟩ := mem_of_activeLeaseRow hactive
  have hid : (revokeLease lease a.decisionAt a.terminalReasonCode).leaseId = lease.leaseId := rfl
  obtain ⟨rest, -, hafter⟩ := h.updateLease_leases hmem hstatus hid
  have howns' : a.Owns (revokeLease lease a.decisionAt a.terminalReasonCode) := howns
  rw [hafter, List.find?_cons_of_pos (by simpa using howns')]

/-- Storing an envelope leaves the leases alone. -/
theorem storeFailureEnvelopeRevision_leases {stored : RunTables} {envelope : FailureEnvelope}
    (h : storeFailureEnvelopeRevision t envelope = .ok stored) : stored.leases = t.leases := by
  rcases (storeFailureEnvelopeRevision_ok h).2 with rfl | rfl <;> rfl

/-- A committed outcome can be replayed at once. -/
theorem committed_replays (h : t.LeasesSound)
    (hrevision : run.stateRevision = a.expectedStateRevision)
    (hmatches : requireEnvelopeMatches a run.runtimeRunId = .ok ())
    (hmay : a.OwnerSupplied → OwnerMayFail run t.activeLeaseRow a)
    (hlive : ∀ lease ∈ t.activeLeaseRow, a.decisionAt < lease.leaseExpiresAt ∧ a.OwnerSupplied)
    (hwrite : writeFailedOutcome t run a t.activeLeaseRow = .ok (row, t')) :
    t'.run = some row ∧ row.OutcomeFailed ∧ requireExactReplay t' row a = .ok row := by
  obtain ⟨stored, hstored, rfl, rfl, hvalid, hidle⟩ := writeFailedOutcome_ok hwrite
  refine ⟨rfl, rfl, requireExactReplay_eq_ok.mpr ⟨hmatches, ⟨?_, rfl, rfl, rfl, rfl, hidle⟩,
    ?_, ?_, ?_, hvalid, rfl⟩⟩
  · simp [failedOutcomeRow, hrevision]
  · cases hactive : t.activeLeaseRow with
    | none =>
      refine .inr ⟨rfl, fun hsupplied => ?_⟩
      obtain ⟨-, owned, howned, -⟩ := hmay hsupplied
      simp [hactive] at howned
    | some lease =>
      obtain ⟨-, owned, howned, howns⟩ := hmay (hlive lease hactive).2
      exact .inl ⟨rfl, by simp [howns.1], by simp [howns.2]⟩
  · intro hcomplete
    obtain ⟨-, owned, howned, howns⟩ := hmay (.inl hcomplete.1)
    have hactive : t.activeLeaseRow = some owned := howned
    have hfound := revoked_found h hactive howns
    have hstoredLeases := storeFailureEnvelopeRevision_leases hstored
    simp only [updateLease] at hfound
    simp only [ReplayOwnerAgrees, hactive, updateLease, hstoredLeases, hfound]
    exact ⟨rfl, rfl, rfl, rfl, (hlive owned hactive).1⟩
  · have henvelope := (storeFailureEnvelopeRevision_ok hstored).1
    cases t.activeLeaseRow <;> simpa [loadFailureEnvelope, updateLease] using henvelope

/-- A call that succeeds leaves an outcome that the same call replays. -/
theorem replayable_after_commit (h : t.OutcomeSound)
    (hok : (exec (.commitFailedOutcome a) t).1 = .ok row) :
    ∃ run, (exec (.commitFailedOutcome a) t).2.run = some run ∧ run.OutcomeFailed ∧
      requireExactReplay (exec (.commitFailedOutcome a) t).2 run a = .ok run := by
  simp only [exec] at hok ⊢
  cases hcommit : commitFailedOutcome t a with
  | error e => simp [hcommit] at hok
  | ok committed =>
    obtain ⟨answer, t'⟩ := committed
    simp only [hcommit] at hok ⊢
    obtain ⟨run, hrun, ⟨hstatus, rfl, replayed, hreplay, rfl⟩ | ⟨-, -, hrevision, hmatches, hmay,
      hdone⟩⟩ := commitFailedOutcome_ok hcommit
    · obtain ⟨hmatches, hcolumns, hauthority, howner, hload, hvalid, rfl⟩ :=
        requireExactReplay_eq_ok.mp hreplay
      refine ⟨run, hrun, ?_, hreplay⟩
      rcases h.truth run hrun with hmutable | ⟨hother, -⟩ | ⟨hother, -⟩ | ⟨-, houtcome⟩
      · simp [hmutable.2.1] at hcolumns
      · simp [hstatus] at hother
      · simp [hstatus] at hother
      · exact houtcome
    · rcases hdone with ⟨lease, -, -, rfl, -⟩ | ⟨hlive, written, hwrite, rfl⟩
      · simp at hok
      · obtain ⟨hrun', hfailed, hreplay⟩ :=
          committed_replays h.leases hrevision hmatches hmay hlive hwrite
        exact ⟨written, hrun', hfailed, hreplay⟩

/-- A call whose outcome stands replays it. -/
theorem exec_replay (hrun : t.run = some run) (hstatus : run.status = .failed)
    (hreplay : requireExactReplay t run a = .ok run) :
    exec (.commitFailedOutcome a) t = (.ok run, t) := by
  have hfound : t.requireRun = .ok run := by simpa using hrun
  simp only [exec, commitFailedOutcome, hfound, hstatus, if_true, hreplay, bind, Except.bind]

/-- A replayable outcome is replayed in every state in which it is frozen. -/
theorem OutcomeFrozen.replays (h : t.OutcomeFrozen t') (htruth : t.TruthBelongs)
    (hrun : t.run = some run) (hfailed : run.OutcomeFailed)
    (hreplay : requireExactReplay t run a = .ok run) : t'.Replays a := by
  obtain ⟨⟨checkpointId, hrun'⟩, hleases, henvelopes⟩ := h run hrun hfailed
  have hreplay' := replay_congr hleases henvelopes checkpointId hreplay
  have hstatus : run.status = .failed := by
    rcases htruth run hrun with hmutable | ⟨-, hother, -⟩ | ⟨-, hother, -⟩ | ⟨hstatus, -⟩
    · exact absurd hfailed (not_outcomeFailed_of_mutable hmutable)
    · simp [RunRow.OutcomeFailed, hother] at hfailed
    · simp [RunRow.OutcomeFailed, hother] at hfailed
    · exact hstatus
  exact ⟨_, hrun', exec_replay hrun' hstatus hreplay'⟩

/-! ## Authority -/

/-- A commit that succeeds was authorised. -/
theorem outcomeAuthorised_of_commits (h : t.OutcomeSound)
    (hcommits : t.CommitsOutcome a) : t.OutcomeAuthorised a := by
  obtain ⟨hnone, row, hok⟩ := hcommits
  simp only [exec] at hok
  cases hcommit : commitFailedOutcome t a with
  | error e => simp [hcommit] at hok
  | ok committed =>
    obtain ⟨answer, t'⟩ := committed
    simp only [hcommit] at hok
    obtain ⟨run, hrun, ⟨hstatus, rfl, replayed, hreplay, rfl⟩ | ⟨-, -, -, -, hmay, hdone⟩⟩ :=
      commitFailedOutcome_ok hcommit
    · obtain ⟨-, hcolumns, -⟩ := requireExactReplay_eq_ok.mp hreplay
      rcases h.truth run hrun with hmutable | ⟨hother, -⟩ | ⟨hother, -⟩ | ⟨-, houtcome⟩
      · simp [hmutable.2.1] at hcolumns
      · simp [hstatus] at hother
      · simp [hstatus] at hother
      · exact absurd houtcome (hnone run hrun)
    · rcases hdone with ⟨lease, -, -, rfl, -⟩ | ⟨hlive, written, hwrite, rfl⟩
      · simp at hok
      · have hfind : ∀ lease ∈ t.leases, lease.status = .active →
            t.activeLeaseRow = some lease ∧ t.leases.head? = some lease := by
          intro lease hmem hactive
          obtain ⟨rest, hleases, -⟩ := h.leases.active_is_newest hmem hactive
          simp [activeLeaseRow, hleases, hactive]
        refine ⟨fun lease hmem hactive => ?_, fun hsupplied => ?_⟩
        · obtain ⟨hfound, hhead⟩ := hfind lease hmem hactive
          obtain ⟨hbefore, hsupplied⟩ := hlive lease hfound
          obtain ⟨-, owned, howned, howns⟩ := hmay hsupplied
          obtain rfl : lease = owned := Option.some.inj (hfound.symm.trans howned)
          exact ⟨hhead, howns, hbefore⟩
        · obtain ⟨-, owned, howned, -⟩ := hmay hsupplied
          exact ⟨owned, mem_of_activeLeaseRow howned⟩

/-! ## Cancellation -/

/-- The run was asked to stop, or has stopped, without a failed outcome. -/
def StoppedWithoutOutcome (t : RunTables) : Prop :=
  ∃ run, t.run = some run ∧ ¬run.OutcomeFailed ∧
    run.status ∈ [RunStatus.cancellationRequested, .cancelled, .failed]

/-- A run that was asked to stop gets no failed outcome. -/
theorem StoppedWithoutOutcome.of_effect (h : t.StoppedWithoutOutcome) {q : Transaction}
    (heffect : t.TruthEffect q t') : t'.StoppedWithoutOutcome := by
  obtain ⟨run, hrun, hnone, hstopped⟩ := h
  have hsame : ∀ {other}, t.run = some other → other = run := fun hother =>
    Option.some.inj (hother.symm.trans hrun)
  cases heffect with
  | untouched hrun' => exact ⟨run, hrun'.trans hrun, hnone, hstopped⟩
  | @moved row hmutable hrun' hmutable' hallowed =>
    refine ⟨row, hrun', not_outcomeFailed_of_mutable hmutable', ?_⟩
    have hmove := hallowed run hrun
    revert hmove hstopped
    cases run.status <;> cases row.status <;> decide
  | failed hrun' hmutable hstatus =>
    obtain rfl := hsame hrun'
    simp only [List.mem_cons, List.not_mem_nil, or_false, not_or] at hstatus hstopped
    rcases hstopped with hother | hother | hother
    · exact absurd hother hstatus.2.2.2
    · exact absurd hother hstatus.2.1
    · exact absurd hother hstatus.1
  | attended hrun' hmutable hstatus =>
    obtain rfl := hsame hrun'
    simp only [List.mem_cons, List.not_mem_nil, or_false, not_or] at hstatus hstopped
    rcases hstopped with hother | hother | hother
    · exact absurd hother hstatus.1
    · exact absurd hother hstatus.2.1
    · exact absurd hother hstatus.2.2.2.1
  | exited hrun' hstatus =>
    obtain rfl := hsame hrun'
    simp [hstatus] at hstopped
  | compacted hq hrun' hterminal hsource hafter =>
    obtain rfl := hsame hrun'
    exact ⟨_, hafter, hnone, hstopped⟩

/-- A run whose cancellation was asked for has no failed outcome. -/
theorem CancellationAsked.stopped (h : t.CancellationAsked) (htruth : t.TruthBelongs) :
    t.StoppedWithoutOutcome := by
  obtain ⟨status, hstatus, hasked⟩ := h
  obtain ⟨run, hrun, rfl⟩ := Option.map_eq_some_iff.mp hstatus
  refine ⟨run, hrun, fun hfailed => ?_, ?_⟩
  · rcases htruth run hrun with hmutable | ⟨-, hother, -⟩ | ⟨-, hother, -⟩ | ⟨hother, -⟩
    · exact not_outcomeFailed_of_mutable hmutable hfailed
    · simp [RunRow.OutcomeFailed, hother] at hfailed
    · simp [RunRow.OutcomeFailed, hother] at hfailed
    · simp [hother] at hasked
  · simp only [List.mem_cons, List.not_mem_nil, or_false] at hasked ⊢
    exact hasked.imp_right .inl

/-! ## Runs -/

/-- A transaction that compacts in place keeps everything about a failed outcome. -/
theorem exec_outcomeSound (h : t.OutcomeSound) (q : Transaction) (hinPlace : CompactsInPlace t q) :
    (exec q t).2.OutcomeSound ∧ t.OutcomeFrozen (exec q t).2 :=
  h.of_effect (exec_leasesSound h.leases q) (exec_truthEffect h.truth q) hinPlace

/-- Before the run is accepted there is no outcome. -/
theorem OutcomeSound.empty : OutcomeSound {} where
  leases := .empty
  truth := .empty
  valid := fun run hrun => by cases hrun
  idle := fun run hrun => by cases hrun

end RunTables

open RunTables

/-- The truth on the run row belongs to its status after every history. -/
theorem truthBelongs_after (choices : List ControlChoice) :
    (ControlPool.after choices).shared.TruthBelongs :=
  Pool.run_keeps (I := TruthBelongs) (fun _ q h => exec_truthBelongs h q) TruthBelongs.empty choices

/-- A compaction out of place changes the time of a failed outcome. -/
theorem compactsInPlace_of_kept {t : RunTables} (h : t.TruthBelongs) (q : Transaction)
    (hkept : t.OutcomeKept (exec q t).2) : CompactsInPlace t q := by
  cases q with
  | compactTerminalCheckpoints archivable =>
    intro harchivable run hrun hfailed source hsource
    subst harchivable
    have hstatus : run.status = .failed := by
      rcases h run hrun with hmutable | ⟨-, hother, -⟩ | ⟨-, hother, -⟩ | ⟨hstatus, -⟩
      · exact absurd hfailed (not_outcomeFailed_of_mutable hmutable)
      · simp [RunRow.OutcomeFailed, hother] at hfailed
      · simp [RunRow.OutcomeFailed, hother] at hfailed
      · exact hstatus
    obtain ⟨run', hrun', -, -, -, -, -, -, -, -, hupdated⟩ := hkept run hrun hfailed
    have hmanifest : t.checkpoints.find? (·.isFinalManifest) = none := by
      by_contra hsome
      simp [compactionSource, hsome] at hsource
    have hfound : run.latestCheckpointId.bind t.checkpointRow = some source := by
      simpa [compactionSource, hmanifest, hrun] using hsource
    have hlookup : t.requireRun = .ok run := by simpa using hrun
    simp only [exec, compactTerminalCheckpoints, hlookup, require, hstatus, hmanifest, hfound,
      terminalRunStatuses, List.mem_cons, or_true, true_or, if_true, bind, Except.bind, transact,
      Option.some.injEq] at hrun'
    exact (congrArg RunRow.updatedAt hrun').trans hupdated
  | _ => trivial

/-- The failed outcomes of a history are final exactly when its compactions are in place. -/
theorem outcomesFinal_iff_compactsInPlace (choices : List ControlChoice) :
    OutcomesFinal choices ↔
      Along (Pool.step exec) (Pool.Guarded CompactsInPlace) ControlPool.initial choices := by
  constructor
  · intro hfinal
    rw [along_iff_each_step]
    intro before choice hbegins q hcalled
    have hkept := hfinal.kept before (before ++ [choice]) (by simp) hbegins
    simp only [ControlPool.after, run_concat] at hkept
    rw [Pool.step_shared_of_called hcalled] at hkept
    exact compactsInPlace_of_kept (truthBelongs_after before) q hkept
  · intro halong
    have hsound : ∀ before, before <+: choices → (ControlPool.after before).shared.OutcomeSound :=
      fun before hbefore => Pool.prefix_keeps (I := OutcomeSound)
        (fun _ q h hguard => (exec_outcomeSound h q hguard).1) OutcomeSound.empty halong hbefore
    have hfrozen : ∀ earlier later, earlier <+: later → later <+: choices →
        (ControlPool.after earlier).shared.OutcomeFrozen (ControlPool.after later).shared :=
      fun earlier later hearlier hlater => Pool.prefix_relates (I := OutcomeSound)
        (R := OutcomeFrozen) OutcomeFrozen.refl OutcomeFrozen.trans
        (fun _ q h hguard => exec_outcomeSound h q hguard) OutcomeSound.empty halong hearlier hlater
    refine ⟨fun earlier later hearlier hlater => (hfrozen earlier later hearlier hlater).kept,
      fun before hbefore => (hsound before hbefore).idle,
      fun before hbefore => (hsound before hbefore).valid, ?_, ?_, ?_⟩
    · intro before choice a row later hcalled hok hnext hlater
      have hbefore : before <+: choices := (List.prefix_append _ _).trans (hnext.trans hlater)
      obtain ⟨run, hrun, hfailed, hreplay⟩ := replayable_after_commit (hsound before hbefore) hok
      have hshared : (ControlPool.after (before ++ [choice])).shared =
          (exec (.commitFailedOutcome a) (ControlPool.after before).shared).2 := by
        simp only [ControlPool.after, run_concat]
        exact Pool.step_shared_of_called hcalled
      rw [← hshared] at hrun hreplay
      exact (hfrozen _ _ hnext hlater).replays (truthBelongs_after _) hrun hfailed hreplay
    · intro earlier later hearlier hlater hasked run hrun
      obtain ⟨rest, rfl⟩ := hearlier
      have hstopped := hasked.stopped (truthBelongs_after earlier)
      have hkeeps : (ControlPool.after (earlier ++ rest)).shared.StoppedWithoutOutcome := by
        simp only [ControlPool.after, run_append]
        exact (Pool.run_keeps (I := fun t : RunTables => t.TruthBelongs ∧ t.StoppedWithoutOutcome)
          (fun _ q h => ⟨exec_truthBelongs h.1 q, h.2.of_effect (exec_truthEffect h.1 q)⟩)
          ⟨truthBelongs_after earlier, hstopped⟩ rest).2
      obtain ⟨other, hother, hnone, -⟩ := hkeeps
      obtain rfl := Option.some.inj (hrun.symm.trans hother)
      exact hnone
    · intro before choice a hbegins hcalled hcommits
      have hbefore : before <+: choices := (List.prefix_append _ _).trans hbegins
      exact outcomeAuthorised_of_commits (hsound before hbefore) hcommits

/-- The checkpoint of the first round, written at the instant 10. -/
def firstCheckpoint : CheckpointRow where
  checkpointId := "checkpoint"
  stage := "round"
  roundNo := some 1
  safeBoundary := "before_round_controller"
  createdAt := 10
  isFinalManifest := false

/-- The workflow starts and writes its first checkpoint; the failure is committed by a component
that the executor calls, so that the workflow does not go on. -/
def checkpointedWorkflow : Workflow :=
  .call (.started { eventId := "started", now := 3 } "startup" none) fun _ =>
    .call (.checkpointWritten firstCheckpoint "written") fun _ => .done .finished

/-- The call that fails the run at the instant 50, under the executor's lease. -/
def failureRequest : OutcomeRequest where
  envelope := {
    failureId := "failure"
    revision := 1
    correlationId := none
    runId := "run"
    operationId := none
    attemptNo := some 1
    reasonCode := "source_failed"
    currentOutcome := some .failed
    occurredAt := 50
    body := "" }
  terminalReasonCode := "source_failed"
  terminalAt := 50
  expectedStateRevision := 6
  executorId := some "worker"
  attemptNo := some 1
  operationId := none
  decisionAt := 50

/-- The executor has written a checkpoint, the run is failed under its lease, and the store, opened
again, compacts the checkpoints of the finished run. -/
def compactAfterFailure : List ControlChoice :=
  callAlone 0 1 acceptQueuedRun ++ callAlone 1 1 claimQueuedRun ++
    callAlone 2 5 (runClaimed firstExecution checkpointedWorkflow) ++
    callAlone 3 1 (perform (.commitFailedOutcome failureRequest)) ++
    callAlone 4 1 (perform (.compactTerminalCheckpoints true))

/-- The compaction takes the failed outcome back to the time of the checkpoint, and the row no
longer validates. -/
theorem compactAfterFailure_not_final :
    ¬OutcomesFinal compactAfterFailure ∧
      ¬(ControlPool.after compactAfterFailure).shared.OutcomeValid := by
  have hinvalid : ¬(ControlPool.after compactAfterFailure).shared.OutcomeValid := by
    decide +kernel
  exact ⟨fun hfinal => hinvalid (hfinal.valid _ List.prefix_rfl), hinvalid⟩

end SeekTalent.RuntimeControl
