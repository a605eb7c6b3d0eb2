import SeekTalent.RuntimeControl.ExecutorRuns
import SeekTalent.RuntimeControl.RunTruth

/-!
# Pending requests

A pause or a cancellation of a run that is being executed only writes a status; the executor goes on
until it notices.  Meanwhile its own steps assert the status they expect the run to be in, and the
transition table admits none of these statuses after a request.  This module says exactly which
steps of an executor survive a pending request: those that replay an event already recorded.
-/

namespace SeekTalent.RuntimeControl

open Foundation

/-- The statuses of a run whose user has asked for something. -/
def requestStatuses : List RunStatus :=
  [.pauseRequested, .cancellationRequested]

/-- The statuses that an executor at work asserts: its events and locks assert `running`, its yields
`resume_requested`, its end `completed`. -/
def executorStatuses : List RunStatus :=
  [.running, .resumeRequested, .completed]

/-- None of the statuses an executor asserts is admitted while a request is pending. -/
theorem not_mem_allowedTransitions_of_request {current target : RunStatus}
    (hcurrent : current ∈ requestStatuses) (htarget : target ∈ executorStatuses) :
    target ∉ allowedTransitions current := by
  revert hcurrent htarget
  cases current <;> cases target <;> decide

/-- The transition table refuses the write. -/
def Refused {α : Type} (answer : Except Raised α) : Prop :=
  ∃ current target, answer = .error (.control (.runtimeRunInvalidTransition current target))

/-- The event and the status that a transaction appends for the owner of a live lease, when it gets
as far as the append. -/
def RunTables.statusWrite (t : RunTables) : Transaction → Option (EventInput × RunStatus)
  | .appendExecutorEvent executor event write =>
    match t.requireActiveExecutor executor.executorId executor.attemptNo
        (some event.input.createdAt) with
    | .ok _ => write.runStatus.map fun status => (event.input, status)
    | .error _ => none
  | .yieldForSourceReconciliation executorId attemptNo event =>
    match t.requireActiveExecutor executorId (some attemptNo) (some event.input.createdAt) with
    | .ok _ =>
      if (event.input.eventType = .sourceReconciliationRequired ∧
          event.input.status = "resume_requested" ∧ event.input.stage = "source_reconciliation") ∧
          ∃ o ∈ t.sourceOperations, o.RequiresReconciliation then
        some (event.input, .resumeRequested)
      else none
    | .error _ => none
  | _ => none

/-- The transaction is a status-writing step of the run's executor, and a request is pending. -/
def PendingStep (t : RunTables) (q : Transaction) (event : EventInput) : Prop :=
  (∃ status ∈ t.runStatus, status ∈ requestStatuses) ∧
    ∃ status ∈ executorStatuses, t.statusWrite q = some (event, status)

/-- A pending request is honoured: it does not make a step of the executor raise. -/
def Honours (t : RunTables) (q : Transaction) : Prop :=
  ∀ event, PendingStep t q event → ¬Refused (exec q t).1

/-- Steps of the executor under a pending request replay events that are already recorded. -/
def ReplaysUnderRequest (t : RunTables) (q : Transaction) : Prop :=
  ∀ event, PendingStep t q event → t.recordedEvent event ≠ none

section Steps

variable {t : RunTables} {event : EventInput} {write : RunWrite} {status target : RunStatus}

/-- Appending an unrecorded event that asserts a status of an executor is refused while a request is
pending. -/
theorem append_refused (h : t.TruthBelongs) (hstatus : t.runStatus = some status)
    (hrequest : status ∈ requestStatuses) (hwrite : write.runStatus = some target)
    (htarget : target ∈ executorStatuses) (hfresh : t.recordedEvent event = none) :
    appendEventInTransaction t event write =
      .error (.control (.runtimeRunInvalidTransition status target)) := by
  obtain ⟨run, hrun, rfl⟩ := Option.map_eq_some_iff.mp hstatus
  have hmutable : run.TruthMutable := by
    apply h.mutable_of_status hrun
    revert hrequest
    cases run.status <;> decide
  have hrefused : requireRunTransition run.status target =
      .error (.control (.runtimeRunInvalidTransition run.status target)) := by
    simp [requireRunTransition, not_mem_allowedTransitions_of_request hrequest htarget]
  have hpasses : requireRunTruthMutable run = .ok () := by
    simpa using hmutable
  have hfound : t.requireRun = .ok run := by
    simpa using hrun
  simp only [appendEventInTransaction, hfresh, hfound, hpasses, hwrite, Option.getD_some, hrefused,
    bind, Except.bind]

/-- Appending a recorded event returns it. -/
theorem append_recorded (w : RunWrite) (hrecorded : t.recordedEvent event ≠ none) :
    ∃ row, appendEventInTransaction t event w = .ok (row, t) := by
  obtain ⟨row, hrow⟩ := Option.ne_none_iff_exists'.mp hrecorded
  exact ⟨row, by simp [appendEventInTransaction, hrow]⟩

/-- A step of an executor under a pending request survives exactly as a replay. -/
theorem refused_iff_unrecorded (h : t.TruthBelongs) {q : Transaction}
    (hstep : PendingStep t q event) : Refused (exec q t).1 ↔ t.recordedEvent event = none := by
  obtain ⟨⟨status, hstatus, hrequest⟩, target, htarget, hwrite⟩ := hstep
  cases q with
  | appendExecutorEvent executor submitted write =>
    simp only [RunTables.statusWrite] at hwrite
    split at hwrite
    · rename_i lease hlease
      obtain ⟨asserted, hasserted, heq⟩ := Option.map_eq_some_iff.mp hwrite
      simp only [Prod.mk.injEq] at heq
      obtain ⟨rfl, rfl⟩ := heq
      simp only [exec, appendExecutorEvent, hlease, bind, Except.bind]
      constructor
      · rintro ⟨current, refused, hrefused⟩
        by_contra hrecorded
        obtain ⟨row, hok⟩ := append_recorded write hrecorded
        simp [hok, transact] at hrefused
      · intro hfresh
        rw [append_refused h hstatus hrequest hasserted htarget hfresh]
        exact ⟨status, asserted, rfl⟩
    · cases hwrite
  | yieldForSourceReconciliation executorId attemptNo submitted =>
    simp only [RunTables.statusWrite] at hwrite
    split at hwrite
    · rename_i lease hlease
      split at hwrite
      · rename_i hready
        simp only [Option.some.injEq, Prod.mk.injEq] at hwrite
        obtain ⟨rfl, rfl⟩ := hwrite
        obtain ⟨run, hrun, rfl⟩ := Option.map_eq_some_iff.mp hstatus
        have hmutable : run.TruthMutable := by
          apply h.mutable_of_status hrun
          revert hrequest
          cases run.status <;> decide
        have hpasses : requireRunTruthMutable run = .ok () := by
          simpa using hmutable
        have hfound : t.requireRun = .ok run := by
          simpa using hrun
        simp only [exec, yieldForSourceReconciliation, require, hready.1, hready.2, hlease, hfound,
          hpasses, bind, Except.bind, and_self, if_true]
        constructor
        · rintro ⟨current, refused, hrefused⟩
          by_contra hrecorded
          obtain ⟨row, hok⟩ := append_recorded { runStatus := some .resumeRequested } hrecorded
          simp [hok, transact] at hrefused
        · intro hfresh
          rw [append_refused h (by simp [RunTables.runStatus, hrun]) hrequest
            rfl htarget hfresh]
          exact ⟨run.status, .resumeRequested, rfl⟩
      · cases hwrite
    · cases hwrite
  | _ => simp [RunTables.statusWrite] at hwrite

/-- A transaction honours a pending request exactly when, as a step of the executor, it is a
replay. -/
theorem honours_iff_replays (h : t.TruthBelongs) (q : Transaction) :
    Honours t q ↔ ReplaysUnderRequest t q := by
  constructor
  · intro hhonours event hstep hfresh
    exact hhonours event hstep ((refused_iff_unrecorded h hstep).mpr hfresh)
  · intro hreplays event hstep hrefused
    exact hreplays event hstep ((refused_iff_unrecorded h hstep).mp hrefused)

end Steps

/-- Exactly the histories in which the executor's steps under a pending request are replays honour
every request. -/
theorem honours_throughout_iff_replays (choices : List ControlChoice) :
    Along (Pool.step exec) (Pool.Guarded Honours) ControlPool.initial choices ↔
      Along (Pool.step exec) (Pool.Guarded ReplaysUnderRequest) ControlPool.initial choices :=
  Pool.along_guarded_congr (I := RunTables.TruthBelongs)
    (fun _ q h => RunTables.exec_truthBelongs h q) (fun _ q h => honours_iff_replays h q)
    RunTables.TruthBelongs.empty choices

/-- An event by which the workflow reports progress. -/
def progressEvent : SubmittedEvent :=
  unkeyedEvent "progress" (.other "runtime_round_started") "round" "completed" (some 1) {} 40

/-- The workflow starts and reports progress, and it ends as the report does. -/
def reportingWorkflow : Workflow :=
  .call (.started { eventId := "started", now := 3 } "startup" none) fun _ =>
    .call (.progress progressEvent) fun answer =>
      match answer with
      | .ok _ => .done .finished
      | .error error => .done (.raised error)

/-- The executor has started its run, and the user then pauses it. -/
def pauseWhileRunning : List ControlChoice :=
  callAlone 0 1 acceptQueuedRun ++ callAlone 1 1 claimQueuedRun ++
    callAlone 2 3 (runClaimed firstExecution reportingWorkflow) ++
    callAlone 3 10 (requestPause none "pause" userDraws)

/-- The pause makes the next progress report raise, and the run fails. -/
theorem pauseWhileRunning_fails_run :
    ¬Along (Pool.step exec) (Pool.Guarded Honours) ControlPool.initial
        (pauseWhileRunning ++ List.replicate 6 (.advance 2)) ∧
      (ControlPool.after (pauseWhileRunning ++ List.replicate 6 (.advance 2))).shared.runStatus =
        some .failed := by
  refine ⟨fun halong => ?_, by decide +kernel⟩
  have hrest := ((along_append pauseWhileRunning _).mp halong).2
  let t := (ControlPool.after pauseWhileRunning).shared
  have htruth : t.TruthBelongs :=
    Pool.run_keeps (I := RunTables.TruthBelongs) (fun _ q h => RunTables.exec_truthBelongs h q)
      RunTables.TruthBelongs.empty pauseWhileRunning
  have hcalled : (ControlPool.after pauseWhileRunning).called (.advance 2) =
      some (.appendExecutorEvent firstExecution.ref progressEvent
        { runStatus := some .running }) := rfl
  have hstep : PendingStep t (.appendExecutorEvent firstExecution.ref progressEvent
      { runStatus := some .running }) progressEvent.input := by
    refine ⟨⟨.pauseRequested, ?_, by decide⟩, .running, by decide, ?_⟩
    · decide +kernel
    · decide +kernel
  have hfresh : t.recordedEvent progressEvent.input = none := rfl
  exact hrest.1 _ hcalled _ hstep ((refused_iff_unrecorded htruth hstep).mpr hfresh)

end SeekTalent.RuntimeControl
