import Mathlib.Data.List.MinMax
import Mathlib.Order.Nat
import SeekTalent.RuntimeControl.Transactions

/-!
# What a transaction does to the leases of a run

Claims and recovery read three columns of a lease: its id, its attempt and its status.  Seen through
them, a transaction leaves the leases alone, adds an active one, ends the active one, or records the
decision about one that has ended (`LeaseEffect`).  The invariant of the lease table, that attempts
increase, that only the newest lease can be active and that a decision is only recorded about a
lease that has ended, is derived from these four effects alone.
-/

namespace SeekTalent.RuntimeControl

open Foundation

/-- The columns of a lease that claims and recovery read. -/
structure LeaseView where
  leaseId : String
  attemptNo : Nat
  status : LeaseStatus
  deriving DecidableEq, Repr

/-- The view of a lease row. -/
def LeaseRow.view (lease : LeaseRow) : LeaseView where
  leaseId := lease.leaseId
  attemptNo := lease.attemptNo
  status := lease.status

namespace RunTables

/-- The views of the run's leases, newest first. -/
def leaseViews (t : RunTables) : List LeaseView :=
  t.leases.map (·.view)

/-- The status of the run, when it has been accepted. -/
def runStatus (t : RunTables) : Option RunStatus :=
  t.run.map (·.status)

/-- The invariant of the lease table. -/
structure LeasesSound (t : RunTables) : Prop where
  attempts : t.leaseViews.Pairwise (fun newer older => older.attemptNo < newer.attemptNo)
  ids : t.leaseViews.Pairwise (fun newer older => newer.leaseId ≠ older.leaseId)
  onlyNewestActive : ∀ v ∈ t.leaseViews.tail, v.status ≠ .active
  decided : ∀ id, t.Settled id → ∃ v ∈ t.leaseViews, v.leaseId = id ∧ v.status ≠ .active

/-- A transaction that leaves the leases and the recorded decisions alone. -/
def SameLeases (t t' : RunTables) : Prop :=
  t'.leaseViews = t.leaseViews ∧ ∀ id, t'.Settled id ↔ t.Settled id

/-- What a transaction does to the leases. -/
inductive LeaseEffect (t t' : RunTables) : Prop
  | kept (hsame : t.SameLeases t')
  | leased {v : LeaseView} (hidle : ∀ w ∈ t.leaseViews, w.status ≠ .active)
      (hfresh : ∀ w ∈ t.leaseViews, v.leaseId ≠ w.leaseId)
      (hattempt : ∀ w ∈ t.leaseViews, w.attemptNo < v.attemptNo) (hactive : v.status = .active)
      (hviews : t'.leaseViews = v :: t.leaseViews) (hsettled : ∀ id, t'.Settled id ↔ t.Settled id)
  | ended {v : LeaseView} {rest : List LeaseView} {status : LeaseStatus}
      (hbefore : t.leaseViews = v :: rest) (hactive : v.status = .active)
      (hstatus : status ≠ .active) (hviews : t'.leaseViews = { v with status := status } :: rest)
      (hsettled : ∀ id, t'.Settled id → t.Settled id ∨ id = v.leaseId)
  | decided {v : LeaseView} (hmem : v ∈ t.leaseViews) (hended : v.status ≠ .active)
      (hviews : t'.leaseViews = t.leaseViews)
      (hsettled : ∀ id, t'.Settled id → t.Settled id ∨ id = v.leaseId)

section Basic

variable {t t' t'' : RunTables}

/-- A transaction that changes neither table leaves the leases alone. -/
theorem sameLeases_of_eq (hleases : t'.leases = t.leases) (hevents : t'.events = t.events) :
    t.SameLeases t' := by
  refine ⟨by simp [leaseViews, hleases], fun id => ?_⟩
  simp [Settled, hevents]

/-- Leaving the leases alone composes. -/
theorem SameLeases.trans (h : t.SameLeases t') (h' : t'.SameLeases t'') : t.SameLeases t'' :=
  ⟨h'.1.trans h.1, fun id => (h'.2 id).trans (h.2 id)⟩

/-- The lease table of a run that has not been accepted is sound. -/
theorem LeasesSound.empty : LeasesSound {} where
  attempts := List.Pairwise.nil
  ids := List.Pairwise.nil
  onlyNewestActive := by simp [leaseViews]
  decided := by simp [Settled]

/-- The four effects keep the lease table sound. -/
theorem LeasesSound.of_effect (h : t.LeasesSound) (heffect : t.LeaseEffect t') :
    t'.LeasesSound := by
  cases heffect with
  | kept hsame =>
    obtain ⟨hviews, hsettled⟩ := hsame
    refine ⟨hviews ▸ h.attempts, hviews ▸ h.ids, hviews ▸ h.onlyNewestActive, fun id hid => ?_⟩
    rw [hviews]
    exact h.decided id ((hsettled id).mp hid)
  | leased hidle hfresh hattempt hactive hviews hsettled =>
    refine ⟨?_, ?_, ?_, fun id hid => ?_⟩
    · rw [hviews]
      exact List.Pairwise.cons hattempt h.attempts
    · rw [hviews]
      exact List.Pairwise.cons hfresh h.ids
    · rw [hviews]
      exact hidle
    · obtain ⟨v, hv, hvid, hended⟩ := h.decided id ((hsettled id).mp hid)
      exact ⟨v, hviews ▸ List.mem_cons_of_mem _ hv, hvid, hended⟩
  | ended hbefore hactive hstatus hviews hsettled =>
    have hattempts := h.attempts
    have hids := h.ids
    have hnewest := h.onlyNewestActive
    rw [hbefore] at hattempts hids hnewest
    refine ⟨?_, ?_, ?_, fun id hid => ?_⟩
    · rw [hviews]
      exact List.Pairwise.cons (List.pairwise_cons.mp hattempts).1
        (List.pairwise_cons.mp hattempts).2
    · rw [hviews]
      exact List.Pairwise.cons (List.pairwise_cons.mp hids).1 (List.pairwise_cons.mp hids).2
    · rw [hviews]
      exact hnewest
    · rw [hviews]
      rcases hsettled id hid with hold | rfl
      · obtain ⟨v, hv, hvid, hended⟩ := h.decided id hold
        rw [hbefore] at hv
        rcases List.mem_cons.mp hv with rfl | hv
        · exact absurd hactive hended
        · exact ⟨v, List.mem_cons_of_mem _ hv, hvid, hended⟩
      · exact ⟨_, List.mem_cons_self, rfl, hstatus⟩
  | decided hmem hended hviews hsettled =>
    refine ⟨hviews ▸ h.attempts, hviews ▸ h.ids, hviews ▸ h.onlyNewestActive, fun id hid => ?_⟩
    rw [hviews]
    rcases hsettled id hid with hold | rfl
    · exact h.decided id hold
    · exact ⟨_, hmem, rfl, hended⟩

/-- The active lease is the newest, and no other has its id. -/
theorem LeasesSound.active_is_newest (h : t.LeasesSound) {lease : LeaseRow}
    (hmem : lease ∈ t.leases) (hactive : lease.status = .active) :
    ∃ rest, t.leases = lease :: rest ∧ ∀ other ∈ rest, other.leaseId ≠ lease.leaseId := by
  cases hleases : t.leases with
  | nil => simp [hleases] at hmem
  | cons newest rest =>
    have hnewest := h.onlyNewestActive
    have hids := h.ids
    simp only [leaseViews, hleases, List.map_cons, List.tail_cons, List.mem_map,
      List.pairwise_cons, forall_exists_index, and_imp, forall_apply_eq_imp_iff₂] at hnewest hids
    rw [hleases] at hmem
    rcases List.mem_cons.mp hmem with rfl | hmem
    · exact ⟨rest, rfl, fun other hother => (hids.1 other hother).symm⟩
    · exact absurd hactive (hnewest lease hmem)

/-- Every attempt is at most the latest. -/
theorem attemptNo_le_latestAttempt {lease : LeaseRow} (hmem : lease ∈ t.leases) :
    lease.attemptNo ≤ t.latestAttempt := by
  have hle := List.le_max_of_le (List.mem_map_of_mem (f := LeaseRow.attemptNo) hmem) le_rfl
  simpa [latestAttempt] using hle

/-- The newest lease has the latest attempt. -/
theorem LeasesSound.latestAttempt_eq (h : t.LeasesSound) {newest : LeaseRow} {rest : List LeaseRow}
    (hleases : t.leases = newest :: rest) : t.latestAttempt = newest.attemptNo := by
  have hattempts := h.attempts
  simp only [leaseViews, hleases, List.map_cons, List.pairwise_cons, List.mem_map,
    forall_exists_index, and_imp, forall_apply_eq_imp_iff₂] at hattempts
  have hle : (t.leases.map (·.attemptNo)).foldr max ⊥ ≤ newest.attemptNo := by
    refine List.max_le_of_forall_le _ _ ?_
    intro attempt hattempt
    obtain ⟨lease, hlease, rfl⟩ := List.mem_map.mp hattempt
    rw [hleases] at hlease
    rcases List.mem_cons.mp hlease with rfl | hlease
    · exact le_rfl
    · exact (hattempts.1 lease hlease).le
  exact le_antisymm (by simpa [latestAttempt] using hle)
    (attemptNo_le_latestAttempt (by simp [hleases]))

/-- Bumping the revision touches neither leases nor events. -/
@[simp] theorem bumpRevision_leases : t.bumpRevision.leases = t.leases := rfl

@[simp] theorem bumpRevision_events : t.bumpRevision.events = t.events := rfl

@[simp] theorem bumpRevision_runStatus : t.bumpRevision.runStatus = t.runStatus := by
  cases hrun : t.run <;> simp [bumpRevision, runStatus, hrun]

@[simp] theorem updateLease_events (row : LeaseRow) : (t.updateLease row).events = t.events := rfl

@[simp] theorem updateLease_run (row : LeaseRow) : (t.updateLease row).run = t.run := rfl

/-- Rewriting the active lease replaces the newest view. -/
theorem LeasesSound.updateLease_leases (h : t.LeasesSound) {lease row : LeaseRow}
    (hmem : lease ∈ t.leases) (hactive : lease.status = .active)
    (hid : row.leaseId = lease.leaseId) :
    ∃ rest, t.leases = lease :: rest ∧ (t.updateLease row).leases = row :: rest := by
  obtain ⟨rest, hleases, hother⟩ := h.active_is_newest hmem hactive
  refine ⟨rest, hleases, ?_⟩
  simp only [updateLease, hleases, List.map_cons, hid, if_true, List.cons.injEq, true_and]
  refine (List.map_congr_left (g := id) fun other hmem => ?_).trans (List.map_id rest)
  simp [hother other hmem]

end Basic

/-! ## The effect of each transaction -/

section Effects

variable {t t' : RunTables}
variable {event : EventInput} {write : RunWrite} {row : EventRow}

/-- An event append leaves the leases alone and records at most the decision its key names. -/
theorem append_leases (h : appendEventInTransaction t event write = .ok (row, t')) :
    t'.leases = t.leases ∧ ∀ id, t'.Settled id →
      t.Settled id ∨ event.idempotencyKey = some (.recoveryDecision id) := by
  rcases appendEventInTransaction_ok h with ⟨-, rfl⟩ | ⟨run, -, -, -, -, -, rfl⟩
  · exact ⟨rfl, fun id hid => .inl hid⟩
  · refine ⟨rfl, fun id hid => ?_⟩
    obtain ⟨stored, hstored, hkey⟩ := hid
    rcases List.mem_cons.mp hstored with rfl | hstored
    · exact .inr hkey
    · exact .inl ⟨stored, hstored, hkey⟩

/-- An event append keeps the recorded decisions. -/
theorem append_settled (h : appendEventInTransaction t event write = .ok (row, t')) {id : String}
    (hid : t.Settled id) : t'.Settled id := by
  rcases appendEventInTransaction_ok h with ⟨-, rfl⟩ | ⟨run, -, -, -, -, -, rfl⟩
  · exact hid
  · obtain ⟨stored, hstored, hkey⟩ := hid
    exact ⟨stored, List.mem_cons_of_mem _ hstored, hkey⟩

/-- An event whose key is not that of a decision leaves the leases alone. -/
theorem append_sameLeases (h : appendEventInTransaction t event write = .ok (row, t'))
    (hkey : ∀ id, event.idempotencyKey ≠ some (.recoveryDecision id)) : t.SameLeases t' := by
  obtain ⟨hleases, hsettled⟩ := append_leases h
  refine ⟨by simp [leaseViews, hleases], fun id => ⟨fun hid => ?_, append_settled h⟩⟩
  exact (hsettled id hid).resolve_right (hkey id)

/-- Where an event append moves the run: nowhere when the event is a replay, else to the status it
writes. -/
theorem append_runStatus (h : appendEventInTransaction t event write = .ok (row, t')) :
    (t.recordedEvent event ≠ none ∧ t' = t) ∨
      (t.recordedEvent event = none ∧ ∃ status, t.runStatus = some status ∧
        write.runStatus.getD status ∈ allowedTransitions status ∧
        t'.runStatus = some (write.runStatus.getD status)) := by
  rcases appendEventInTransaction_ok
    h with ⟨hrecorded, rfl⟩ | ⟨run, hnone, hrun, -, hallowed, -, rfl⟩
  · exact .inl ⟨by simp [hrecorded], rfl⟩
  · exact .inr ⟨hnone, run.status, by simp [runStatus, hrun], hallowed, rfl⟩

/-- An event that names no status leaves the run where it is. -/
theorem append_runStatus_eq
    (h : appendEventInTransaction t event {} = .ok (row, t')) : t'.runStatus = t.runStatus := by
  rcases append_runStatus h with ⟨-, rfl⟩ | ⟨-, status, hstatus, -, hstatus'⟩
  · rfl
  · rw [hstatus', hstatus]
    rfl

/-- Ending the active lease, seen through the views. -/
theorem LeasesSound.ended_of_update (h : t.LeasesSound) (row : LeaseRow) {lease : LeaseRow}
    (hmem : lease ∈ t.leases) (hactive : lease.status = .active)
    (hid : row.leaseId = lease.leaseId) (hattempt : row.attemptNo = lease.attemptNo)
    (hstatus : row.status ≠ .active) (hleases : t'.leases = (t.updateLease row).leases)
    (hsettled : ∀ id, t'.Settled id → t.Settled id ∨ id = lease.leaseId) : t.LeaseEffect t' := by
  obtain ⟨rest, hbefore, hafter⟩ := h.updateLease_leases hmem hactive hid
  have hviews : t.leaseViews = lease.view :: rest.map (·.view) := by
    simp [leaseViews, hbefore]
  refine .ended hviews hactive hstatus ?_ hsettled
  simp [leaseViews, hleases, hafter, LeaseRow.view, hid, hattempt]

/-- Giving out a new lease, seen through the views. -/
theorem leased_of_insert {leaseId executorId : String} {acquiredAt leaseExpiresAt : Nat}
    (hidle : ∀ lease ∈ t.leases, lease.status ≠ .active)
    (hfresh : ∀ stored ∈ t.leases, stored.leaseId ≠ leaseId)
    (hleases : t'.leases = t.newLease leaseId executorId acquiredAt leaseExpiresAt :: t.leases)
    (hsettled : ∀ id, t'.Settled id ↔ t.Settled id) : t.LeaseEffect t' := by
  have hviews : ∀ {p : LeaseView → Prop}, (∀ lease ∈ t.leases, p lease.view) →
      ∀ w ∈ t.leaseViews, p w := by
    intro p hall w hw
    obtain ⟨lease, hlease, rfl⟩ := List.mem_map.mp hw
    exact hall lease hlease
  refine .leased (v := (t.newLease leaseId executorId acquiredAt leaseExpiresAt).view)
    (hviews hidle) (hviews fun lease hlease => (hfresh lease hlease).symm)
    (hviews fun lease hlease => ?_) rfl ?_ hsettled
  · exact Nat.lt_succ_of_le (attemptNo_le_latestAttempt hlease)
  · simp [leaseViews, hleases]

/-- A transaction that writes nothing has no effect on the leases. -/
theorem LeaseEffect.refl (t : RunTables) : t.LeaseEffect t :=
  .kept (sameLeases_of_eq rfl rfl)

/-- What deciding about a lost executor does to the leases: it records the decision. -/
theorem decideSettlement_leases {run : RunRow} {lease : LeaseRow}
    {checkpoint : CheckpointReading} {resumeRecoverable : Bool} {now : Nat} {s : Settlement}
    (h : decideSettlement t run lease checkpoint resumeRecoverable now = .ok (s, t')) :
    t'.leases = t.leases ∧ ∀ id, t'.Settled id → t.Settled id ∨ id = lease.leaseId := by
  obtain ⟨reading, plan, expiry, expired, decided, attention, current, -, hexpiry, hdecided, -, -,
    rfl⟩ := decideSettlement_ok h
  have hfirst : expired.leases = t.leases ∧ ∀ id, expired.Settled id → t.Settled id := by
    rcases appendRecoveryExpiryEvent_ok hexpiry with rfl | happend
    · exact ⟨rfl, fun id hid => hid⟩
    · obtain ⟨hleases, hsettled⟩ := append_leases happend
      exact ⟨hleases, fun id hid => (hsettled id hid).resolve_right (by simp [expiryEvent])⟩
  have hsecond : decided.leases = expired.leases ∧
      ∀ id, decided.Settled id → expired.Settled id ∨ id = lease.leaseId := by
    rcases appendRecoveryDecisionEvent_ok hdecided with rfl | ⟨row, happend⟩
    · exact ⟨rfl, fun id hid => .inl hid⟩
    · obtain ⟨hleases, hsettled⟩ := append_leases happend
      refine ⟨hleases, fun id hid => (hsettled id hid).imp_right fun hkey => ?_⟩
      simpa [decisionEvent, eq_comm] using hkey
  refine ⟨hsecond.1.trans hfirst.1, fun id hid => ?_⟩
  exact (hsecond.2 id hid).imp_left (hfirst.2 id)

/-- Settling a lease ends it if it is active, and may record the decision about it. -/
theorem settle_leaseEffect (h : t.LeasesSound) {checkpoint : CheckpointReading}
    {resumeRecoverable : Bool} {now : Nat} {s : Settlement}
    (hsettle : settleNextExpiredExecutorLease t checkpoint resumeRecoverable now = .ok (s, t')) :
    t.LeaseEffect t' := by
  rcases settleNextExpiredExecutorLease_ok hsettle with
    rfl | ⟨run, lease, hrun, -, hmem, hcandidate, hdone⟩
  · exact .refl _
  have heffect : t'.leases = (t.withExpired lease now).leases ∧
      ∀ id, t'.Settled id → (t.withExpired lease now).Settled id ∨ id = lease.leaseId := by
    rcases hdone with ⟨-, rfl⟩ | hdecided
    · exact ⟨rfl, fun id hid => .inl hid⟩
    · exact decideSettlement_leases hdecided
  obtain ⟨hleases, hsettled⟩ := heffect
  by_cases hactive : lease.status = .active
  · simp only [withExpired, hactive, if_true] at hleases hsettled
    exact h.ended_of_update (expireLease lease now) hmem hactive rfl rfl (by simp [expireLease])
      hleases hsettled
  · simp only [withExpired, hactive, if_false] at hleases hsettled
    refine .decided (v := lease.view) (List.mem_map_of_mem hmem) hactive ?_ hsettled
    simp [leaseViews, hleases]

/-- Committing a failed outcome ends the active lease, if there is one. -/
theorem commitFailedOutcome_leaseEffect (h : t.LeasesSound) {a : OutcomeRequest}
    {answer : Except Raised RunRow} (hcommit : commitFailedOutcome t a = .ok (answer, t')) :
    t.LeaseEffect t' := by
  obtain ⟨run, hrun, ⟨-, rfl, -⟩ | ⟨-, -, -, -, -, hdone⟩⟩ := commitFailedOutcome_ok hcommit
  · exact .refl _
  rcases hdone with ⟨lease, hactive, -, -, rfl⟩ | ⟨-, row, hwrite, -⟩
  · obtain ⟨hmem, hactive⟩ := mem_of_activeLeaseRow hactive
    exact h.ended_of_update (expireLease lease a.decisionAt) hmem hactive rfl rfl
      (by simp [expireLease]) rfl fun id hid => .inl hid
  · obtain ⟨stored, hstored, -, rfl, -, -⟩ := writeFailedOutcome_ok hwrite
    have htables : stored.leases = t.leases ∧ stored.events = t.events := by
      rcases (storeFailureEnvelopeRevision_ok hstored).2 with rfl | rfl <;> exact ⟨rfl, rfl⟩
    cases hactive : t.activeLeaseRow with
    | none => exact .kept (sameLeases_of_eq htables.1 htables.2)
    | some lease =>
      obtain ⟨hmem, hstatus⟩ := mem_of_activeLeaseRow hactive
      refine h.ended_of_update (revokeLease lease a.decisionAt a.terminalReasonCode) hmem hstatus
        rfl rfl (by simp [revokeLease]) ?_ ?_
      · simp [updateLease, htables.1]
      · intro id hid
        simpa [Settled, htables.2] using Or.inl hid

/-- Entering needs attention ends the active lease, if there is one. -/
theorem commitNeedsAttention_leaseEffect (h : t.LeasesSound) {a : AttentionRequest} {row : RunRow}
    (hcommit : commitNeedsAttention t a = .ok (row, t')) : t.LeaseEffect t' := by
  rcases commitNeedsAttention_ok hcommit with rfl | ⟨run, checkpoints, envelopes, -, -, -, rfl⟩
  · exact .refl _
  · cases hactive : t.activeLeaseRow with
    | none => exact .kept (sameLeases_of_eq rfl rfl)
    | some lease =>
      obtain ⟨hmem, hstatus⟩ := mem_of_activeLeaseRow hactive
      exact h.ended_of_update (revokeLease lease a.enteredAt "runtime_needs_attention") hmem hstatus
        rfl rfl (by simp [revokeLease]) rfl fun id hid => .inl hid

/-- Every transaction has one of the four effects on the leases. -/
theorem exec_leaseEffect (h : t.LeasesSound) (q : Transaction) : t.LeaseEffect (exec q t).2 := by
  cases q with
  | getRun => exact .refl t
  | hasSourceOperationsRequiringReconciliation => exact .refl t
  | getCommand commandId => exact .refl t
  | getCommandByIdempotency key => exact .refl t
  | listPendingLifecycleCommands => exact .refl t
  | saveCommand command =>
    refine transact_rule (.refl t) fun value t' hok => ?_
    simp only [saveCommand, bind_eq_ok, require_eq_ok, Except.ok.injEq, Prod.mk.injEq] at hok
    obtain ⟨-, -, -, rfl⟩ := hok
    exact .kept (sameLeases_of_eq rfl rfl)
  | updateCommandStatus commandId status appliedAt =>
    refine transact_rule (.refl t) fun value t' hok => ?_
    simp only [updateCommandStatus, bind_eq_ok, Except.ok.injEq, Prod.mk.injEq] at hok
    obtain ⟨-, -, -, rfl⟩ := hok
    exact .kept (sameLeases_of_eq rfl rfl)
  | acceptRun run initialEvent snapshot =>
    refine transact_rule (.refl t) fun value t' hok => ?_
    rcases acceptRun_ok hok with rfl | ⟨-, -, -, stored, happend⟩
    · exact .refl _
    · have hsame := append_sameLeases happend initialEvent.notDecision
      exact .kept (SameLeases.trans (sameLeases_of_eq rfl rfl) hsame)
  | updateRunStatus update =>
    refine transact_rule (.refl t) fun value t' hok => ?_
    obtain ⟨run, -, -, -, -, rfl⟩ := updateRunStatus_ok hok
    exact .kept (sameLeases_of_eq rfl rfl)
  | appendEvent event =>
    refine transact_rule (.refl t) fun value t' hok => ?_
    exact .kept (append_sameLeases hok event.notDecision)
  | appendExecutorEvent executor event write =>
    refine transact_rule (.refl t) fun value t' hok => ?_
    exact .kept (append_sameLeases (appendExecutorEvent_ok hok).2 event.notDecision)
  | writeCheckpoint executor checkpoint =>
    refine transact_rule (.refl t) fun value t' hok => ?_
    obtain ⟨run, checkpoints, -, -, rfl⟩ := writeCheckpoint_ok hok
    exact .kept (sameLeases_of_eq rfl rfl)
  | claimNextRunnableRun executorId leaseId eventId claimedAt leaseExpiresAt =>
    refine transact_rule (.refl t) fun value t' hok => ?_
    rcases claimNextRunnableRun_ok hok with
      ⟨-, rfl⟩ | ⟨run, lease, row, -, hrunnable, -, rfl, hfresh, happend⟩
    · exact .refl _
    · obtain ⟨hleases, -⟩ := append_leases happend
      have hsame := append_sameLeases happend (by simp [claimEvent])
      exact leased_of_insert (activeLeaseRow_eq_none.mp hrunnable.2.2.2.1) hfresh hleases
        fun id => (hsame.2 id).trans (by simp [Settled])
  | acquireExecutorLease leaseId executorId acquiredAt leaseExpiresAt =>
    refine transact_rule (.refl t) fun value t' hok => ?_
    obtain ⟨-, hidle, rfl, hfresh, rfl⟩ := acquireExecutorLease_ok hok
    exact leased_of_insert hidle hfresh rfl fun id => Iff.rfl
  | heartbeatExecutorLease executor heartbeatAt leaseExpiresAt =>
    refine transact_rule (.refl t) fun value t' hok => ?_
    obtain ⟨run, lease, -, -, hmem, hactive, hid, hattempt, hstatus, rfl⟩ :=
      heartbeatExecutorLease_ok hok
    obtain ⟨rest, hbefore, hafter⟩ := h.updateLease_leases hmem hactive hid
    refine .kept ⟨?_, fun id => Iff.rfl⟩
    simp [leaseViews, hbefore, hafter, LeaseRow.view, hid, hattempt, hstatus]
  | releaseExecutorLease executor releasedAt release reasonCode =>
    refine transact_rule (.refl t) fun value t' hok => ?_
    obtain ⟨run, lease, -, -, hmem, hactive, hid, hattempt, hstatus, rfl⟩ :=
      releaseExecutorLease_ok hok
    refine h.ended_of_update value hmem hactive hid hattempt ?_ rfl fun id hid => .inl hid
    rw [hstatus]
    cases release <;> simp [LeaseRelease.leaseStatus]
  | yieldForSourceReconciliation executorId attemptNo event =>
    refine transact_rule (.refl t) fun value t' hok => ?_
    obtain ⟨run, lease, row, appended, -, -, hmem, hactive, -, happend, rfl⟩ :=
      yieldForSourceReconciliation_ok hok
    obtain ⟨hleases, -⟩ := append_leases happend
    have hsame := append_sameLeases happend event.notDecision
    refine h.ended_of_update
      (revokeLease lease event.input.createdAt "runtime_source_operation_unresolved") hmem hactive
      rfl rfl (by simp [revokeLease]) (by simp [updateLease, hleases]) ?_
    exact fun id hid => .inl ((hsame.2 id).mp hid)
  | expireExecutorLeases now =>
    simp only [exec, expireExecutorLeases]
    split
    · rename_i run lease hrun hlease
      split
      · obtain ⟨hmem, hactive⟩ := mem_of_activeLeaseRow hlease
        exact h.ended_of_update (expireLease lease now) hmem hactive rfl rfl
          (by simp [expireLease]) rfl fun id hid => .inl hid
      · exact .refl t
    · exact .refl t
  | settleNextExpiredExecutorLease checkpoint resumeRecoverable now =>
    exact transact_rule (.refl t) fun value t' hok => settle_leaseEffect h hok
  | resolveRecoveryAttention provedNoDispatch resolvedAt =>
    refine transact_rule (.refl t) fun value t' hok => ?_
    obtain ⟨run, attention, -, -, -, -, -, rfl⟩ := resolveRecoveryAttention_ok hok
    exact .kept (sameLeases_of_eq rfl rfl)
  | commitFailedOutcome request =>
    simp only [exec]
    cases hcommit : commitFailedOutcome t request with
    | error e => exact .refl t
    | ok committed => exact commitFailedOutcome_leaseEffect h hcommit
  | commitNeedsAttention request =>
    exact transact_rule (.refl t) fun value t' hok => commitNeedsAttention_leaseEffect h hok
  | exitNeedsAttention request =>
    refine transact_rule (.refl t) fun value t' hok => ?_
    rcases exitNeedsAttention_ok hok with rfl | ⟨run, envelopes, stage, -, -, -, -, -, -, rfl⟩
    · exact .refl _
    · exact .kept (sameLeases_of_eq rfl rfl)
  | writeCheckpointForRecovery checkpoint =>
    refine transact_rule (.refl t) fun value t' hok => ?_
    obtain ⟨run, checkpoints, -, -, rfl⟩ := writeCheckpointForRecovery_ok hok
    exact .kept (sameLeases_of_eq rfl rfl)
  | compactTerminalCheckpoints archivable =>
    refine transact_rule (.refl t) fun value t' hok => ?_
    obtain ⟨run, checkpoints, -, -, -, ⟨-, rfl⟩ | ⟨source, -, rfl⟩⟩ :=
      compactTerminalCheckpoints_ok hok
    · exact .kept (sameLeases_of_eq rfl rfl)
    · exact .kept (sameLeases_of_eq rfl rfl)
  | writeSourceLedger rows agrees => exact .kept (sameLeases_of_eq rfl rfl)

/-- Every transaction keeps the lease table sound. -/
theorem exec_leasesSound (h : t.LeasesSound) (q : Transaction) : (exec q t).2.LeasesSound :=
  h.of_effect (exec_leaseEffect h q)

end Effects

end RunTables

end SeekTalent.RuntimeControl
