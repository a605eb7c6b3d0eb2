import SeekTalent.RuntimeControl.CommandRequests
import SeekTalent.RuntimeControl.PendingRequests

/-!
# Commands at a safe boundary

An executor applies a pending pause or cancellation in up to seven transactions.  The second or
third of them marks the command applied; only then is the executor's lease checked, the run moved
and the lease given up.  A call that is refused or dies in between has marked a command without its
effect.  This module says for which stores, arguments, transactions of others and deaths of the
process a call marks its command only together with the effect (`BoundaryUnhindered`).
-/

namespace SeekTalent.RuntimeControl

open Foundation

/-- What a call at a safe boundary did: a call that died has no result. -/
abbrev BoundaryCourse : Type :=
  Course RunTables Transaction (Option (Except Raised (Option CommandRow)))

/-- The course of `apply_lifecycle_command_at_safe_boundary` from a store, among others; the process
dies when it has performed `left` transactions. -/
def boundaryCourse (executor : ExecutorRef) (checkpoint : Option CheckpointRow) (d : CommandDraws)
    (t : RunTables) (schedule : List (List Transaction)) (left : Nat) : BoundaryCourse :=
  ((applyLifecycleCommandAtSafeBoundary executor checkpoint d).run.dying left).among exec t schedule

/-- The status in which a command puts the run when it takes effect, for the commands that stop a
run. -/
def CommandType.stopped : CommandType → Option RunStatus
  | .pause => some .paused
  | .cancel => some .cancelled
  | .resume => none

/-- The call picks a pause or a cancellation. -/
def Picks (course : BoundaryCourse) (command : CommandRow) : Prop :=
  command.commandType.stopped ≠ none ∧ ∃ first ∈ course.steps.head?,
    nextLifecycleCommand first.before.pendingLifecycleCommands = some command

/-- A transaction of the call has marked the command applied. -/
def Marked (command : CommandRow) (step : Performed RunTables Transaction) : Prop :=
  (∃ appliedAt, step.op = .updateCommandStatus command.commandId .applied appliedAt) ∧
    ¬step.Raises exec

/-- A transaction of the call has put the run in the status that the command stands for. -/
def Moved (command : CommandRow) (step : Performed RunTables Transaction) : Prop :=
  (∃ executor event write, step.op = .appendExecutorEvent executor event write) ∧
    ¬step.Raises exec ∧ (step.after exec).runStatus = command.commandType.stopped

/-- The command is marked applied exactly if the run has been moved, and a call that raises or dies
has not marked it: it leaves all commands as they are, for the next boundary to pick up. -/
structure AppliedWithEffect (command : CommandRow) (course : BoundaryCourse) : Prop where
  together : (∃ step ∈ course.steps, Marked command step) ↔ ∃ step ∈ course.steps,
    Moved command step
  pending : (∀ answer, course.result ≠ some (.ok answer)) →
    (∀ step ∈ course.steps, ¬Marked command step) ∧
      ∀ step ∈ course.steps, (step.after exec).commands = step.before.commands

/-! ## The rows that a call needs -/

namespace RunTables

/-- The executor holds the active lease, and at the given instant it has not run out. -/
def Holds (t : RunTables) (executor : ExecutorRef) (observedAt : Option Nat) : Prop :=
  ∃ lease, t.requireActiveExecutor executor.executorId executor.attemptNo observedAt = .ok lease

/-- The executor holds a live lease, and the run may be stopped and the stop noted. -/
def MayStop (t : RunTables) (executor : ExecutorRef) (observedAt : Nat) (command : CommandRow)
    (eventId : String) : Prop :=
  t.Holds executor (some observedAt) ∧ t.Notes eventId ∧ ∃ run stopped, t.run = some run ∧
    command.commandType.stopped = some stopped ∧ stopped ∈ allowedTransitions run.status

/-- The executor holds the active lease, and no outcome stands on the run. -/
def MayRelease (t : RunTables) (executor : ExecutorRef) : Prop :=
  t.Holds executor none ∧ ∃ run, t.run = some run ∧ run.TruthMutable

/-- The executor holds a live lease, no outcome stands on the run, and the checkpoint is new or
stored already as it is. -/
def MayCheckpoint (t : RunTables) (executor : ExecutorRef) (checkpoint : CheckpointRow) : Prop :=
  t.Holds executor (some checkpoint.createdAt) ∧ (∃ run, t.run = some run ∧ run.TruthMutable) ∧
    ∃ stored, t.storeCheckpoint checkpoint = .ok stored

end RunTables

section Transactions

variable (command : CommandRow) (executor : ExecutorRef) (checkpoint : Option CheckpointRow)
  (d : CommandDraws)

/-- The transaction that marks a command applied. -/
def marking : Transaction :=
  .updateCommandStatus command.commandId .applied (some (d.now 0))

/-- The transaction that notes that a command has been applied, and moves the run. -/
def applying : Transaction :=
  .appendExecutorEvent executor
    (unkeyedEvent (d.eventId 0) .commandApplied "command" "completed" (checkpoint.bind (·.roundNo))
      {} (d.now 0))
    { runStatus := some (appliedRunStatus command.commandType)
      latestCheckpointId := checkpoint.map (·.checkpointId) }

/-- The transaction that notes that the run has stopped. -/
def stopping : Transaction :=
  .appendExecutorEvent executor
    (unkeyedEvent (d.eventId 1) (if command.commandType = .pause then .runPaused else .runCancelled)
      "command" "completed" (checkpoint.bind (·.roundNo)) {} (d.now 0))
    { runStatus := some (appliedRunStatus command.commandType)
      completedAt := if command.commandType = .cancel then some (d.now 0) else none }

/-- The transaction by which the executor gives up its lease. -/
def releasing : Transaction :=
  .releaseExecutorLease executor (d.now 0) .released (some (appliedReasonCode command.commandType))

/-- The mark of a command that is there is followed by its effect: the process lives for five more
transactions, the mark included, and finds the rows it needs. -/
def MarkUnhindered (left : Nat) (t : RunTables) (schedule : List (List Transaction)) : Prop :=
  left = 0 ∨ AtNext exec t schedule fun found schedule => found.HasCommand command.commandId →
    5 ≤ left ∧
  AtNext exec (exec (marking command d) found).2 schedule fun found schedule =>
    found.MayStop executor (d.now 0) command (d.eventId 0) ∧
  AtNext exec (exec (applying command executor checkpoint d) found).2 schedule fun found schedule =>
    found.MayStop executor (d.now 0) command (d.eventId 1) ∧
  AtNext exec (exec (stopping command executor checkpoint d) found).2 schedule fun found schedule =>
    found.MayRelease executor ∧
  AtNext exec (exec (releasing command executor d) found).2 schedule fun found _ =>
    found.HasCommand command.commandId

/-- A checkpoint that is written before the mark, and the mark. -/
def PickUnhindered (left : Nat) (t : RunTables) (schedule : List (List Transaction)) : Prop :=
  match checkpoint with
  | none => MarkUnhindered command executor checkpoint d left t schedule
  | some row => left = 0 ∨ AtNext exec t schedule fun found schedule =>
    found.MayCheckpoint executor row →
      MarkUnhindered command executor checkpoint d (left - 1)
        (exec (.writeCheckpoint executor row) found).2 schedule

end Transactions

/-- A call that gets to mark the pause or cancellation that it picks is carried through. -/
def BoundaryUnhindered (executor : ExecutorRef) (checkpoint : Option CheckpointRow)
    (d : CommandDraws) (t : RunTables) (schedule : List (List Transaction)) (left : Nat) : Prop :=
  left = 0 ∨ AtNext exec t schedule fun found schedule =>
    ∀ command, command.commandType.stopped ≠ none →
      nextLifecycleCommand found.pendingLifecycleCommands = some command →
        PickUnhindered command executor checkpoint d (left - 1) found schedule

/-! ## What is accepted -/

section Accepts

variable {command : CommandRow} {executor : ExecutorRef} {eventId stage status : String}
  {eventType : EventType} {roundNo : Option Nat} {appliedAt : Nat} {write : RunWrite}

/-- A command that stops a run stands for the status that applying it writes. -/
theorem stopped_eq_applied (h : command.commandType.stopped ≠ none) :
    command.commandType.stopped = some (appliedRunStatus command.commandType) := by
  cases htype : command.commandType with
  | resume => exact absurd (htype ▸ rfl) h
  | pause | cancel => rfl

/-- The events by which an executor stops a run are appended when it may stop the run. -/
theorem appendStop_accepts (hstops : command.commandType.stopped ≠ none)
    (hwrite : write.runStatus = some (appliedRunStatus command.commandType)) (found : RunTables) :
    (∃ value, (exec (.appendExecutorEvent executor
        (unkeyedEvent eventId eventType stage status roundNo {} appliedAt) write) found).1 =
        .ok value) ↔
      found.MayStop executor appliedAt command eventId := by
  refine transact_ok_iff.trans ?_
  simp only [appendExecutorEvent, bind_eq_ok]
  constructor
  · rintro ⟨done, lease, hlease, hdone⟩
    obtain ⟨⟨run, hrun, hallowed⟩, hnotes⟩ := appendUnkeyed_ok_iff.mp ⟨done, hdone⟩
    rw [hwrite] at hallowed
    exact ⟨⟨lease, hlease⟩, hnotes, run, _, hrun, stopped_eq_applied hstops, hallowed⟩
  · rintro ⟨⟨lease, hlease⟩, hnotes, run, stopped, hrun, hstopped, hallowed⟩
    obtain rfl := Option.some.inj (hstopped.symm.trans (stopped_eq_applied hstops))
    have hadmits : write.runStatus.getD run.status ∈ allowedTransitions run.status := by
      rw [hwrite]
      exact hallowed
    obtain ⟨done, hdone⟩ := appendUnkeyed_ok_iff.mpr ⟨⟨run, hrun, hadmits⟩, hnotes⟩
    exact ⟨done, lease, hlease, hdone⟩

/-- Each of them moves the run. -/
theorem appendStop_moved (hstops : command.commandType.stopped ≠ none)
    (hwrite : write.runStatus = some (appliedRunStatus command.commandType)) {found : RunTables}
    (h : found.MayStop executor appliedAt command eventId) :
    Moved command {
      before := found
      op := .appendExecutorEvent executor
        (unkeyedEvent eventId eventType stage status roundNo {} appliedAt) write } := by
  have haccepted : ∃ value, (exec (.appendExecutorEvent executor
      (unkeyedEvent eventId eventType stage status roundNo {} appliedAt) write) found).1 =
      .ok value :=
    (appendStop_accepts hstops hwrite found).mpr h
  refine ⟨⟨_, _, _, rfl⟩, ?_, ?_⟩
  · rintro ⟨e, he⟩
    obtain ⟨value, hvalue⟩ := haccepted
    cases hvalue.symm.trans he
  · obtain ⟨done, hdone⟩ := transact_ok_iff.mp haccepted
    obtain ⟨hrecorded, -⟩ | ⟨-, run, -, -, hstatus⟩ :=
      RunTables.append_runStatus (appendExecutorEvent_ok hdone).2
    · exact absurd rfl hrecorded
    · rw [stopped_eq_applied hstops, Performed.after, exec, hdone]
      simpa only [transact, hwrite, Option.getD_some] using hstatus

/-- A lease is released when its executor may release it. -/
theorem releaseExecutorLease_accepts {release : LeaseRelease} {reasonCode : Option String}
    (found : RunTables) :
    (∃ value, (exec (.releaseExecutorLease executor appliedAt release reasonCode) found).1 =
      .ok value) ↔ found.MayRelease executor := by
  refine transact_ok_iff.trans ?_
  simp only [releaseExecutorLease, bind_eq_ok, RunTables.requireRun_eq_ok,
    requireRunTruthMutable_eq_ok, Except.ok.injEq, RunTables.MayRelease, RunTables.Holds]
  constructor
  · rintro ⟨done, lease, hlease, run, hrun, -, -, -, hmutable, -⟩
    exact ⟨⟨lease, hlease⟩, run, hrun, hmutable⟩
  · rintro ⟨⟨lease, hlease⟩, run, hrun, hmutable⟩
    exact ⟨_, lease, hlease, run, hrun, (), RunTables.validate_of_mutable hmutable, (), hmutable,
      rfl⟩

/-- A checkpoint is written when its executor may write it. -/
theorem writeCheckpoint_accepts {checkpoint : CheckpointRow} (found : RunTables) :
    (∃ value, (exec (.writeCheckpoint executor checkpoint) found).1 = .ok value) ↔
      found.MayCheckpoint executor checkpoint := by
  refine transact_ok_iff.trans ?_
  simp only [writeCheckpoint, bind_eq_ok, RunTables.requireRun_eq_ok, requireRunTruthMutable_eq_ok,
    Except.ok.injEq, RunTables.MayCheckpoint, RunTables.Holds]
  constructor
  · rintro ⟨done, lease, hlease, run, hrun, -, hmutable, stored, hstored, -⟩
    exact ⟨⟨lease, hlease⟩, ⟨run, hrun, hmutable⟩, stored, hstored⟩
  · rintro ⟨⟨lease, hlease⟩, ⟨run, hrun, hmutable⟩, stored, hstored⟩
    exact ⟨_, lease, hlease, run, hrun, (), hmutable, stored, hstored, rfl⟩

/-- Writing a checkpoint leaves the commands as they are. -/
theorem writeCheckpoint_commands {checkpoint : CheckpointRow} (found : RunTables) :
    (exec (.writeCheckpoint executor checkpoint) found).2.commands = found.commands := by
  refine transact_rule (P := fun t => t.commands = found.commands) rfl fun value t' hok => ?_
  obtain ⟨run, checkpoints, -, -, rfl⟩ := writeCheckpoint_ok hok
  rfl

end Accepts

/-! ## The rest of a call -/

/-- `AppliedWithEffect` for the rest of a call: what the call has done before counts. -/
structure AppliedFrom (command : CommandRow) (marked moved : Prop) (course : BoundaryCourse) :
    Prop where
  together : (marked ∨ ∃ step ∈ course.steps, Marked command step) ↔
    (moved ∨ ∃ step ∈ course.steps, Moved command step)
  pending : (∀ answer, course.result ≠ some (.ok answer)) → ¬marked ∧
    (∀ step ∈ course.steps, ¬Marked command step) ∧
      ∀ step ∈ course.steps, (step.after exec).commands = step.before.commands

section Rules

variable {command : CommandRow} {marked moved : Prop} {t : RunTables}
  {schedule : List (List Transaction)} {left : Nat} {q : Transaction}
  {next : q.Value → ControlProgram (Option CommandRow)} {A : RunTables → Prop}

/-- A call that ends without an answer, and that does nothing before, must not have marked its
command. -/
theorem applied_nil {course : BoundaryCourse} (hsteps : course.steps = [])
    (hresult : ∀ answer, course.result ≠ some (.ok answer)) :
    AppliedFrom command marked moved course ↔ ¬(marked ∨ moved) := by
  constructor
  · rintro ⟨htogether, hpending⟩ hdone
    have hunmarked := (hpending hresult).1
    simp only [hsteps, List.not_mem_nil, false_and, exists_false, or_false] at htogether
    exact hdone.elim hunmarked fun hmoved => hunmarked (htogether.mpr hmoved)
  · intro h
    obtain ⟨hunmarked, hunmoved⟩ := not_or.mp h
    refine ⟨?_, fun _ => ⟨hunmarked, ?_, ?_⟩⟩
    · simp [hsteps, hunmarked, hunmoved]
    · simp [hsteps]
    · simp [hsteps]

/-- A process that dies before its next transaction must not have marked the command. -/
theorem applied_died : AppliedFrom command marked moved
    (((perform q >>= next).run.dying 0).among exec t schedule) ↔ ¬(marked ∨ moved) :=
  applied_nil rfl nofun

/-- A call that has marked its command and moved the run may end. -/
theorem applied_pure {answer : Option CommandRow} : AppliedFrom command True True
    (((pure answer : ControlProgram (Option CommandRow)).run.dying left).among exec t
      schedule) := by
  have hdone : (pure answer : ControlProgram (Option CommandRow)).run.dying left =
      .done (some (.ok answer)) := by cases left <;> rfl
  rw [hdone]
  exact ⟨by simp, fun h => absurd rfl (h answer)⟩

/-- The first transaction of a call counts for the rest of it. -/
theorem applied_cons {first : Performed RunTables Transaction} {course : BoundaryCourse}
    (hkeeps : marked ∨ Marked command first ∨ (first.after exec).commands = first.before.commands) :
    AppliedFrom command marked moved { course with steps := first :: course.steps } ↔
      AppliedFrom command (marked ∨ Marked command first) (moved ∨ Moved command first) course := by
  constructor
  · rintro ⟨htogether, hpending⟩
    refine ⟨?_, fun hresult => ?_⟩
    · simpa only [List.exists_mem_cons_iff, or_assoc] using htogether
    · obtain ⟨hunmarked, hmarks, hkept⟩ := hpending hresult
      obtain ⟨hfirst, hmarks⟩ := List.forall_mem_cons.mp hmarks
      exact ⟨not_or.mpr ⟨hunmarked, hfirst⟩, hmarks, (List.forall_mem_cons.mp hkept).2⟩
  · rintro ⟨htogether, hpending⟩
    refine ⟨?_, fun hresult => ?_⟩
    · simpa only [List.exists_mem_cons_iff, or_assoc] using htogether
    · obtain ⟨hunmarked, hmarks, hkept⟩ := hpending hresult
      obtain ⟨hunmarked, hfirst⟩ := not_or.mp hunmarked
      have hfirstKept := (hkeeps.resolve_left hunmarked).resolve_left hfirst
      exact ⟨hunmarked, List.forall_mem_cons.mpr ⟨hfirst, hmarks⟩,
        List.forall_mem_cons.mpr ⟨hfirstKept, hkept⟩⟩

/-- One transaction of a call, and what follows it. -/
theorem applied_call (haccepts : ∀ found, (∃ value, (exec q found).1 = .ok value) ↔ A found)
    (hkeeps : ∀ found, marked ∨ Marked command { before := found, op := q } ∨
      (exec q found).2.commands = found.commands) :
    AppliedFrom command marked moved
        (((perform q >>= next).run.dying (left + 1)).among exec t schedule) ↔
      AtNext exec t schedule fun found schedule => (marked ∨ moved → A found) ∧
        ∀ value, (exec q found).1 = .ok value →
          AppliedFrom command (marked ∨ Marked command { before := found, op := q })
            (moved ∨ Moved command { before := found, op := q })
            (((next value).run.dying left).among exec (exec q found).2 schedule) := by
  generalize hfound : performAll exec t (schedule.headD []) = found
  have hcourse : ((perform q >>= next).run.dying (left + 1)).among exec t schedule =
      { ((ExceptT.bindCont next (exec q found).1).dying left).among exec (exec q found).2
          schedule.tail with
        steps := { before := found, op := q } ::
          (((ExceptT.bindCont next (exec q found).1).dying left).among exec (exec q found).2
            schedule.tail).steps } := among_call hfound
  rw [hcourse, applied_cons (hkeeps found), AtNext, hfound, ← haccepts]
  cases hanswer : (exec q found).1 with
  | error e =>
    have hraises : ({ before := found, op := q } : Performed RunTables Transaction).Raises exec :=
      ⟨e, hanswer⟩
    have hunmarked : ¬Marked command { before := found, op := q } := fun h => h.2 hraises
    have hunmoved : ¬Moved command { before := found, op := q } := fun h => h.2.1 hraises
    have hdone : (ExceptT.bindCont next (.error e)).dying left =
        (.done (some (.error e)) : Program Transaction Transaction.Answer _) := by
      cases left <;> rfl
    rw [hdone, applied_nil rfl (by simp)]
    simp [hunmarked, hunmoved]
  | ok value =>
    constructor
    · exact fun h => ⟨fun _ => ⟨value, rfl⟩, fun _ hok => Except.ok.inj hok ▸ h⟩
    · exact fun h => h.2 value rfl

/-- A transaction behind the mark: it must be accepted, and the process must live on. -/
theorem applied_needed {needed : Nat} {P : RunTables → List (List Transaction) → Prop}
    (haccepts : ∀ found, (∃ value, (exec q found).1 = .ok value) ↔ A found)
    (hmoves : ∀ found, A found → moved ∨ Moved command { before := found, op := q })
    (hnext : ∀ value left t schedule, AppliedFrom command True True
      (((next value).run.dying left).among exec t schedule) ↔ needed ≤ left ∧ P t schedule) :
    AppliedFrom command True moved (((perform q >>= next).run.dying left).among exec t schedule) ↔
      needed + 1 ≤ left ∧ AtNext exec t schedule fun found schedule =>
        A found ∧ P (exec q found).2 schedule := by
  cases left with
  | zero => exact applied_died.trans (by simp)
  | succ left =>
    rw [applied_call haccepts fun _ => .inl trivial, Nat.add_le_add_iff_right]
    unfold AtNext
    constructor
    · rintro ⟨haccepted, hrest⟩
      have hA := haccepted (.inl trivial)
      obtain ⟨value, hvalue⟩ := (haccepts _).mpr hA
      have hfrom := hrest value hvalue
      rw [true_or, eq_true (hmoves _ hA)] at hfrom
      obtain ⟨hlives, hP⟩ := (hnext value left _ _).mp hfrom
      exact ⟨hlives, hA, hP⟩
    · rintro ⟨hlives, hA, hP⟩
      refine ⟨fun _ => hA, fun value _ => ?_⟩
      rw [true_or, eq_true (hmoves _ hA)]
      exact (hnext value left _ _).mpr ⟨hlives, hP⟩

end Rules

/-! ## The call -/

section Calls

variable {command : CommandRow} {executor : ExecutorRef} {checkpoint : Option CheckpointRow}
  {d : CommandDraws} {t : RunTables} {schedule : List (List Transaction)} {left : Nat}

/-- What a call does from the mark on. -/
def carryOut (command : CommandRow) (executor : ExecutorRef) (checkpoint : Option CheckpointRow)
    (d : CommandDraws) : ControlProgram (Option CommandRow) := do
  let _ ← perform (marking command d)
  let _ ← perform (applying command executor checkpoint d)
  let _ ← perform (stopping command executor checkpoint d)
  let _ ← perform (releasing command executor d)
  let applied ← perform (.getCommand command.commandId)
  pure (some applied)

/-- What a call does with the pause or cancellation that it picks. -/
theorem applyPicked_eq (hstops : command.commandType.stopped ≠ none) :
    (applyLifecycleCommand command executor checkpoint d >>= fun applied => pure (some applied)) =
      match checkpoint with
      | none => carryOut command executor checkpoint d
      | some row => perform (.writeCheckpoint executor row) >>= fun _ =>
        carryOut command executor checkpoint d := by
  have hstops' : command.commandType = .pause ∨ command.commandType = .cancel := by
    cases htype : command.commandType with
    | pause => exact .inl rfl
    | cancel => exact .inr rfl
    | resume => exact absurd (htype ▸ rfl) hstops
  unfold applyLifecycleCommand carryOut stopAtSafeBoundary
  cases checkpoint with
  | none =>
    simp only [if_pos hstops', bind_assoc, pure_bind]
    rfl
  | some row =>
    simp only [if_pos hstops', bind_assoc, pure_bind]
    rfl

/-- The mark is accepted when the command is there. -/
theorem marking_accepts (found : RunTables) :
    (∃ value, (exec (marking command d) found).1 = .ok value) ↔
      found.HasCommand command.commandId :=
  updateCommandStatus_accepts found

/-- The event that moves the run is accepted when the executor may stop the run. -/
theorem applying_accepts (hstops : command.commandType.stopped ≠ none) (found : RunTables) :
    (∃ value, (exec (applying command executor checkpoint d) found).1 = .ok value) ↔
      found.MayStop executor (d.now 0) command (d.eventId 0) :=
  appendStop_accepts hstops rfl found

/-- The event that notes the stop is accepted when the executor may stop the run. -/
theorem stopping_accepts (hstops : command.commandType.stopped ≠ none) (found : RunTables) :
    (∃ value, (exec (stopping command executor checkpoint d) found).1 = .ok value) ↔
      found.MayStop executor (d.now 0) command (d.eventId 1) :=
  appendStop_accepts hstops rfl found

/-- The release is accepted when the executor may release its lease. -/
theorem releasing_accepts (found : RunTables) :
    (∃ value, (exec (releasing command executor d) found).1 = .ok value) ↔
      found.MayRelease executor :=
  releaseExecutorLease_accepts found

/-- The event that moves the run moves it. -/
theorem applying_moved (hstops : command.commandType.stopped ≠ none) (found : RunTables)
    (h : found.MayStop executor (d.now 0) command (d.eventId 0)) :
    Moved command { before := found, op := applying command executor checkpoint d } :=
  appendStop_moved hstops rfl h

/-- Behind the mark, a call has to be carried through. -/
theorem effect_iff (hstops : command.commandType.stopped ≠ none) :
    AppliedFrom command True False
        (((perform (applying command executor checkpoint d) >>= fun _ =>
          perform (stopping command executor checkpoint d) >>= fun _ =>
            perform (releasing command executor d) >>= fun _ =>
              perform (.getCommand command.commandId) >>= fun applied =>
                (pure (some applied) : ControlProgram (Option CommandRow))).run.dying left).among
          exec t schedule) ↔
      4 ≤ left ∧ AtNext exec t schedule fun found schedule =>
        found.MayStop executor (d.now 0) command (d.eventId 0) ∧
      AtNext exec (exec (applying command executor checkpoint d) found).2 schedule
        fun found schedule => found.MayStop executor (d.now 0) command (d.eventId 1) ∧
      AtNext exec (exec (stopping command executor checkpoint d) found).2 schedule
        fun found schedule => found.MayRelease executor ∧
      AtNext exec (exec (releasing command executor d) found).2 schedule
        fun found _ => found.HasCommand command.commandId := by
  refine applied_needed (P := fun t schedule => AtNext exec t schedule fun found schedule =>
      found.MayStop executor (d.now 0) command (d.eventId 1) ∧
    AtNext exec (exec (stopping command executor checkpoint d) found).2 schedule
      fun found schedule => found.MayRelease executor ∧
    AtNext exec (exec (releasing command executor d) found).2 schedule
      fun found _ => found.HasCommand command.commandId) (applying_accepts hstops)
    (fun found h => .inr (applying_moved hstops found h)) fun _ left t schedule => ?_
  refine applied_needed (P := fun t schedule => AtNext exec t schedule fun found schedule =>
      found.MayRelease executor ∧
    AtNext exec (exec (releasing command executor d) found).2 schedule
      fun found _ => found.HasCommand command.commandId) (stopping_accepts hstops)
    (fun _ _ => .inl trivial) fun _ left t schedule => ?_
  refine applied_needed (P := fun t schedule => AtNext exec t schedule fun found _ =>
    found.HasCommand command.commandId) releasing_accepts (fun _ _ => .inl trivial)
    fun _ left t schedule => ?_
  have hlast : ∀ found : RunTables, (∃ value, (exec (.getCommand command.commandId) found).1 =
      .ok value) ↔ found.HasCommand command.commandId := fun _ => command_ok_iff
  refine (applied_needed hlast (fun _ _ => .inl trivial) fun _ left _ _ =>
    iff_of_true applied_pure ⟨Nat.zero_le left, trivial⟩).trans ?_
  simp only [and_true, Nat.zero_add]

/-- A mark that is accepted is a mark, and one that is refused leaves the commands as they are. -/
theorem marking_marks (found : RunTables) :
    (found.HasCommand command.commandId →
      Marked command { before := found, op := marking command d }) ∧
      (Marked command { before := found, op := marking command d } ∨
        (exec (marking command d) found).2.commands = found.commands) := by
  cases hanswer : (exec (marking command d) found).1 with
  | error e =>
    refine ⟨fun hpresent => ?_, .inr (congrArg RunTables.commands (transact_error hanswer))⟩
    obtain ⟨value, hvalue⟩ := (marking_accepts found).mpr hpresent
    cases hanswer.symm.trans hvalue
  | ok value =>
    have hmarked : Marked command { before := found, op := marking command d } := by
      refine ⟨⟨_, rfl⟩, ?_⟩
      rintro ⟨e, he⟩
      cases hanswer.symm.trans he
    exact ⟨fun _ => hmarked, .inl hmarked⟩

/-- From the mark on, a call marks its command only with the effect when the mark is unhindered. -/
theorem carryOut_iff (hstops : command.commandType.stopped ≠ none) :
    AppliedFrom command False False
        (((carryOut command executor checkpoint d).run.dying left).among exec t schedule) ↔
      MarkUnhindered command executor checkpoint d left t schedule := by
  unfold carryOut MarkUnhindered
  cases left with
  | zero => exact applied_died.trans (by simp)
  | succ left =>
    rw [or_iff_right (Nat.succ_ne_zero left)]
    refine (applied_call marking_accepts fun found => .inr (marking_marks found).2).trans
      (atNext_congr fun found schedule => ?_)
    have hunmoved : ¬Moved command { before := found, op := marking command d } := by
      rintro ⟨⟨_, _, _, hop⟩, -⟩
      cases hop
    constructor
    · rintro ⟨-, hrest⟩ hpresent
      obtain ⟨value, hvalue⟩ := (marking_accepts found).mpr hpresent
      have hfrom := hrest value hvalue
      rw [eq_true (Or.inr ((marking_marks found).1 hpresent)), eq_false (not_or.mpr ⟨id, hunmoved⟩)]
        at hfrom
      obtain ⟨hlives, hnext⟩ := (effect_iff hstops).mp hfrom
      exact ⟨Nat.succ_le_succ hlives, hnext⟩
    · intro h
      refine ⟨fun hdone => (or_self_iff.mp hdone).elim, fun value hvalue => ?_⟩
      have hpresent := (marking_accepts found).mp ⟨value, hvalue⟩
      rw [eq_true (Or.inr ((marking_marks found).1 hpresent)), eq_false (not_or.mpr ⟨id, hunmoved⟩)]
      obtain ⟨hlives, hnext⟩ := h hpresent
      exact (effect_iff hstops).mpr ⟨Nat.le_of_succ_le_succ hlives, hnext⟩

/-- What a call does with its pick is judged as the whole call. -/
theorem applied_iff_from {course : BoundaryCourse} :
    AppliedWithEffect command course ↔ AppliedFrom command False False course := by
  constructor
  · rintro ⟨htogether, hpending⟩
    exact ⟨by simpa only [false_or] using htogether, fun h => ⟨not_false, hpending h⟩⟩
  · rintro ⟨htogether, hpending⟩
    exact ⟨by simpa only [false_or] using htogether, fun h => (hpending h).2⟩

/-- Behind the pick, a call marks its command only with the effect when it is unhindered. -/
theorem applyPicked_iff (hstops : command.commandType.stopped ≠ none) :
    AppliedFrom command False False
        (((applyLifecycleCommand command executor checkpoint d >>= fun applied =>
          (pure (some applied) : ControlProgram (Option CommandRow))).run.dying left).among exec t
            schedule) ↔
      PickUnhindered command executor checkpoint d left t schedule := by
  rw [applyPicked_eq hstops]
  cases checkpoint with
  | none => exact carryOut_iff hstops
  | some row =>
    cases left with
    | zero => exact applied_died.trans (by simp [PickUnhindered])
    | succ left =>
      unfold PickUnhindered
      dsimp only
      rw [or_iff_right (Nat.succ_ne_zero left), Nat.add_sub_cancel]
      refine (applied_call writeCheckpoint_accepts fun found =>
        .inr (.inr (writeCheckpoint_commands found))).trans (atNext_congr fun found schedule => ?_)
      have hunmarked : ¬Marked command
          { before := found, op := .writeCheckpoint executor row } := by
        rintro ⟨⟨_, hop⟩, -⟩
        cases hop
      have hunmoved : ¬Moved command { before := found, op := .writeCheckpoint executor row } := by
        rintro ⟨⟨_, _, _, hop⟩, -⟩
        cases hop
      simp only [hunmarked, hunmoved, or_self, false_implies, true_and, carryOut_iff hstops,
        ← writeCheckpoint_accepts, forall_exists_index]

end Calls

/-- What a call does once it has picked a command. -/
def pickedCourse (command : CommandRow) (executor : ExecutorRef) (checkpoint : Option CheckpointRow)
    (d : CommandDraws) (found : RunTables) (schedule : List (List Transaction)) (left : Nat) :
    BoundaryCourse :=
  ((applyLifecycleCommand command executor checkpoint d >>= fun applied =>
    (pure (some applied) : ControlProgram (Option CommandRow))).run.dying left).among exec found
      schedule

/-- What a call does behind its reading of the pending commands. -/
def behindReading (executor : ExecutorRef) (checkpoint : Option CheckpointRow) (d : CommandDraws)
    (pending : List CommandRow) : ControlProgram (Option CommandRow) :=
  match nextLifecycleCommand pending with
  | none => pure none
  | some command => applyLifecycleCommand command executor checkpoint d >>= fun applied =>
    pure (some applied)

/-- A call lists the pending commands and goes on with the one it picks. -/
theorem boundaryCourse_of_picks (executor : ExecutorRef) (checkpoint : Option CheckpointRow)
    (d : CommandDraws) {found : RunTables} (t : RunTables) (schedule : List (List Transaction))
    (left : Nat) {command : CommandRow} (hfound : performAll exec t (schedule.headD []) = found)
    (hpick : nextLifecycleCommand found.pendingLifecycleCommands = some command) :
    boundaryCourse executor checkpoint d t schedule (left + 1) =
      { pickedCourse command executor checkpoint d found schedule.tail left with
        steps := { before := found, op := .listPendingLifecycleCommands } ::
          (pickedCourse command executor checkpoint d found schedule.tail left).steps } := by
  have hprogram : (applyLifecycleCommandAtSafeBoundary executor checkpoint d).run =
      .call .listPendingLifecycleCommands (fun answer =>
        ExceptT.bindCont (behindReading executor checkpoint d) answer) := by
    change Program.call _ _ = Program.call _ _
    congr 1
  unfold boundaryCourse
  rw [hprogram, Program.dying, among_call hfound]
  simp only [exec, readOnly, ExceptT.bindCont, behindReading, hpick]
  rfl

/-- A call at a safe boundary marks the pause or cancellation it picks only together with its effect
exactly when it does not get to mark it, or is carried through to its end. -/
theorem boundary_appliedWithEffect_iff (executor : ExecutorRef) (checkpoint : Option CheckpointRow)
    (d : CommandDraws) (t : RunTables) (schedule : List (List Transaction)) (left : Nat) :
    (∀ command, Picks (boundaryCourse executor checkpoint d t schedule left) command →
        AppliedWithEffect command (boundaryCourse executor checkpoint d t schedule left)) ↔
      BoundaryUnhindered executor checkpoint d t schedule left := by
  cases left with
  | zero =>
    refine iff_of_true (fun command hpicks => ?_) (.inl rfl)
    obtain ⟨-, first, hfirst, -⟩ := hpicks
    exact (nomatch hfirst)
  | succ left =>
    unfold BoundaryUnhindered
    rw [or_iff_right (Nat.succ_ne_zero left)]
    generalize hfound : performAll exec t (schedule.headD []) = found
    have hpicks : ∀ command,
        Picks (boundaryCourse executor checkpoint d t schedule (left + 1)) command ↔
          command.commandType.stopped ≠ none ∧
            nextLifecycleCommand found.pendingLifecycleCommands = some command := by
      intro command
      refine and_congr_right fun _ => ?_
      rw [← hfound]
      constructor
      · rintro ⟨first, hfirst, hpick⟩
        obtain rfl := Option.some.inj hfirst
        exact hpick
      · exact fun hpick => ⟨_, rfl, hpick⟩
    rw [AtNext, hfound]
    refine forall_congr' fun command => ?_
    rw [hpicks, and_imp]
    refine imp_congr_right fun hstops => imp_congr_right fun hpick => ?_
    have hcourse := boundaryCourse_of_picks executor checkpoint d t schedule left hfound hpick
    have hunmarked : ¬Marked command { before := found, op := .listPendingLifecycleCommands } := by
      rintro ⟨⟨_, hop⟩, -⟩
      cases hop
    have hunmoved : ¬Moved command { before := found, op := .listPendingLifecycleCommands } := by
      rintro ⟨⟨_, _, _, hop⟩, -⟩
      cases hop
    rw [applied_iff_from, hcourse, applied_cons (.inr (.inr rfl)), Nat.add_sub_cancel]
    simp only [hunmarked, hunmoved, or_self]
    exact applyPicked_iff hstops

/-- What the call of a late executor draws. -/
def lateDraws : CommandDraws where
  commandId := "unused"
  eventId := fun n => "late-" ++ toString n
  now := fun _ => 200

/-- The pause that the user has asked for. -/
def pendingPause : CommandRow where
  commandId := "command"
  commandType := .pause
  status := .accepted
  targetRoundNo := none
  idempotencyKey := "pause"
  requestedBy := none
  requestedAt := 20
  appliedAt := none

/-- An executor whose lease has run out marks a pause applied, and then it is refused. -/
theorem late_executor_marks_pause :
    ¬∀ command, Picks (boundaryCourse firstExecution.ref none lateDraws
          (ControlPool.after pauseWhileRunning).shared [] 10) command →
        AppliedWithEffect command (boundaryCourse firstExecution.ref none lateDraws
          (ControlPool.after pauseWhileRunning).shared [] 10) := by
  intro h
  have hpicks : Picks (boundaryCourse firstExecution.ref none lateDraws
      (ControlPool.after pauseWhileRunning).shared [] 10) pendingPause :=
    ⟨nofun, _, rfl, by decide +kernel⟩
  have hresult : (boundaryCourse firstExecution.ref none lateDraws
      (ControlPool.after pauseWhileRunning).shared [] 10).result =
        some (.error (.control .runtimeExecutorLeaseExpired)) := by decide +kernel
  have hpending := (h pendingPause hpicks).pending fun answer hanswer =>
    nomatch hresult.symm.trans hanswer
  refine hpending.1 _ (List.mem_of_getElem? (i := 1) rfl) ((marking_marks _).1 ?_)
  exact ⟨pendingPause, by decide +kernel, rfl⟩

end SeekTalent.RuntimeControl
