import SeekTalent.Foundation.Programs
import SeekTalent.RuntimeControl.Recovery

/-!
# The transactions of the run store

The lifecycle commands of a run as rows, and every transaction that users, workers, executors and
recovery perform on a run, as one type with one semantics.  A service call of the control plane is a
program over these transactions; between two transactions of one call, any other party may perform
its own.

Event keys of the form `runtime-recovery:…:decision` are built in one place, the settlement of an
expired lease.  An event that any other party submits is therefore a `SubmittedEvent`, which cannot
carry such a key.
-/

namespace SeekTalent.RuntimeControl

open Foundation

/-- An event submitted from outside the store: its key is not that of a recovery decision. -/
structure SubmittedEvent where
  input : EventInput
  notDecision : ∀ leaseId, input.idempotencyKey ≠ some (.recoveryDecision leaseId)

/-- The statuses of a command that has not been carried out (`_PENDING_COMMAND_STATUSES`). -/
def pendingCommandStatuses : List CommandStatus :=
  [.accepted, .pendingSafeBoundary]

/-- `get_command_by_idempotency`. -/
def RunTables.commandByIdempotency (t : RunTables) (key : String) : Option CommandRow :=
  t.commands.find? (fun command => command.idempotencyKey = key)

/-- `get_command`. -/
def RunTables.command (t : RunTables) (commandId : String) : Except Raised CommandRow :=
  match t.commands.find? (fun command => command.commandId = commandId) with
  | some command => .ok command
  | none => .error (.control .runtimeCommandNotFound)

/-- `list_commands` for the pending lifecycle commands: in the order of their request, then of their
rows. -/
def RunTables.pendingLifecycleCommands (t : RunTables) : List CommandRow :=
  (t.commands.filter (fun command => command.status ∈ pendingCommandStatuses)).insertionSort
    (fun a b => a.requestedAt ≤ b.requestedAt)

/-- `save_command`: the id and the idempotency key of a command are unique. -/
def saveCommand (t : RunTables) (command : CommandRow) :
    Except Raised (CommandRow × RunTables) := do
  require (∀ stored ∈ t.commands, stored.commandId ≠ command.commandId ∧
      stored.idempotencyKey ≠ command.idempotencyKey) .integrityError
  .ok (command, { t with commands := t.commands ++ [command] })

/-- `update_command_status`. -/
def updateCommandStatus (t : RunTables) (commandId : String) (status : CommandStatus)
    (appliedAt : Option Nat) : Except Raised (CommandRow × RunTables) := do
  let next := { t with commands := t.commands.map (fun command =>
    if command.commandId = commandId then
      { command with status := status, appliedAt := appliedAt.or command.appliedAt }
    else command) }
  let updated ← next.command commandId
  .ok (updated, next)

/-- A transaction on the rows of one run. -/
inductive Transaction
  | getRun
  | hasSourceOperationsRequiringReconciliation
  | getCommand (commandId : String)
  | getCommandByIdempotency (key : String)
  | listPendingLifecycleCommands
  | saveCommand (command : CommandRow)
  | updateCommandStatus (commandId : String) (status : CommandStatus) (appliedAt : Option Nat)
  | acceptRun (run : RunRow) (initialEvent : SubmittedEvent) (snapshot : RunSnapshot)
  | updateRunStatus (update : StatusUpdate)
  | appendEvent (event : SubmittedEvent)
  | appendExecutorEvent (executor : ExecutorRef) (event : SubmittedEvent) (write : RunWrite)
  | writeCheckpoint (executor : ExecutorRef) (checkpoint : CheckpointRow)
  | claimNextRunnableRun (executorId leaseId : String) (eventId : EventId)
      (claimedAt leaseExpiresAt : Nat)
  | acquireExecutorLease (leaseId executorId : String) (acquiredAt leaseExpiresAt : Nat)
  | heartbeatExecutorLease (executor : ExecutorRef) (heartbeatAt leaseExpiresAt : Nat)
  | releaseExecutorLease (executor : ExecutorRef) (releasedAt : Nat) (release : LeaseRelease)
      (reasonCode : Option String)
  | yieldForSourceReconciliation (executorId : String) (attemptNo : Nat) (event : SubmittedEvent)
  | expireExecutorLeases (now : Nat)
  | settleNextExpiredExecutorLease (checkpoint : CheckpointReading) (resumeRecoverable : Bool)
      (now : Nat)
  | resolveRecoveryAttention (provedNoDispatch : SourceOperationRow → Bool) (resolvedAt : Nat)
  | commitFailedOutcome (request : OutcomeRequest)
  | commitNeedsAttention (request : AttentionRequest)
  | exitNeedsAttention (request : ExitRequest)
  | writeCheckpointForRecovery (checkpoint : CheckpointRow)
  | compactTerminalCheckpoints (archivable : Bool)
  | writeSourceLedger (rows : List SourceOperationRow) (actionHistoryAgrees : Bool)

namespace Transaction

/-- What a transaction returns when it does not raise. -/
@[reducible] def Value : Transaction → Type
  | getRun => RunRow
  | hasSourceOperationsRequiringReconciliation => Bool
  | getCommand _ => CommandRow
  | getCommandByIdempotency _ => Option CommandRow
  | listPendingLifecycleCommands => List CommandRow
  | saveCommand _ => CommandRow
  | updateCommandStatus _ _ _ => CommandRow
  | acceptRun _ _ _ => RunRow
  | updateRunStatus _ => RunRow
  | appendEvent _ => EventRow
  | appendExecutorEvent _ _ _ => EventRow
  | writeCheckpoint _ _ => CheckpointRow
  | claimNextRunnableRun _ _ _ _ _ => Option LeaseRow
  | acquireExecutorLease _ _ _ _ => LeaseRow
  | heartbeatExecutorLease _ _ _ => LeaseRow
  | releaseExecutorLease _ _ _ _ => LeaseRow
  | yieldForSourceReconciliation _ _ _ => Unit
  | expireExecutorLeases _ => Unit
  | settleNextExpiredExecutorLease _ _ _ => Settlement
  | resolveRecoveryAttention _ _ => RunRow
  | commitFailedOutcome _ => RunRow
  | commitNeedsAttention _ => RunRow
  | exitNeedsAttention _ => RunRow
  | writeCheckpointForRecovery _ => CheckpointRow
  | compactTerminalCheckpoints _ => CheckpointRow
  | writeSourceLedger _ _ => Unit

/-- The answer of a transaction: its value, or what it raises. -/
@[reducible] def Answer (q : Transaction) : Type :=
  Except Raised q.Value

end Transaction

/-- Commit the rows of a transaction that succeeds, roll back one that raises. -/
def transact {α : Type} (t : RunTables) (outcome : Except Raised (α × RunTables)) :
    Except Raised α × RunTables :=
  match outcome with
  | .ok (value, next) => (.ok value, next)
  | .error e => (.error e, t)

/-- A read transaction. -/
def readOnly {α : Type} (t : RunTables) (outcome : Except Raised α) : Except Raised α × RunTables :=
  (outcome, t)

/-- `get_run`. -/
def getRun (t : RunTables) : Except Raised RunRow := do
  let run ← t.requireRun
  validatedRunFromRow t run

/-- The effect of a transaction on the rows of the run.  The source operations, and what the history
of the user actions is compared with, are written by the source ledger, whose writers touch no row
that the other transactions write. -/
def exec : (q : Transaction) → RunTables → q.Answer × RunTables
  | .getRun, t => readOnly t (getRun t)
  | .hasSourceOperationsRequiringReconciliation, t =>
    readOnly t (.ok (decide (∃ o ∈ t.sourceOperations, o.RequiresReconciliation)))
  | .getCommand commandId, t => readOnly t (t.command commandId)
  | .getCommandByIdempotency key, t => readOnly t (.ok (t.commandByIdempotency key))
  | .listPendingLifecycleCommands, t => readOnly t (.ok t.pendingLifecycleCommands)
  | .saveCommand command, t => transact t (saveCommand t command)
  | .updateCommandStatus commandId status appliedAt, t =>
    transact t (updateCommandStatus t commandId status appliedAt)
  | .acceptRun run initialEvent snapshot, t =>
    transact t (acceptRun t run initialEvent.input snapshot)
  | .updateRunStatus update, t => transact t (updateRunStatus t update)
  | .appendEvent event, t => transact t (appendEvent t event.input)
  | .appendExecutorEvent executor event write, t =>
    transact t (appendExecutorEvent t executor event.input write)
  | .writeCheckpoint executor checkpoint, t => transact t (writeCheckpoint t executor checkpoint)
  | .claimNextRunnableRun executorId leaseId eventId claimedAt leaseExpiresAt, t =>
    transact t (claimNextRunnableRun t executorId leaseId eventId claimedAt leaseExpiresAt)
  | .acquireExecutorLease leaseId executorId acquiredAt leaseExpiresAt, t =>
    transact t (acquireExecutorLease t leaseId executorId acquiredAt leaseExpiresAt)
  | .heartbeatExecutorLease executor heartbeatAt leaseExpiresAt, t =>
    transact t (heartbeatExecutorLease t executor heartbeatAt leaseExpiresAt)
  | .releaseExecutorLease executor releasedAt release reasonCode, t =>
    transact t (releaseExecutorLease t executor releasedAt release reasonCode)
  | .yieldForSourceReconciliation executorId attemptNo event, t =>
    transact t (yieldForSourceReconciliation t executorId attemptNo event.input)
  | .expireExecutorLeases now, t => (.ok (), expireExecutorLeases t now)
  | .settleNextExpiredExecutorLease checkpoint resumeRecoverable now, t =>
    transact t (settleNextExpiredExecutorLease t checkpoint resumeRecoverable now)
  | .resolveRecoveryAttention provedNoDispatch resolvedAt, t =>
    transact t (resolveRecoveryAttention t provedNoDispatch resolvedAt)
  | .commitFailedOutcome request, t =>
    match commitFailedOutcome t request with
    | .ok (answer, next) => (answer, next)
    | .error e => (.error e, t)
  | .commitNeedsAttention request, t => transact t (commitNeedsAttention t request)
  | .exitNeedsAttention request, t => transact t (exitNeedsAttention t request)
  | .writeCheckpointForRecovery checkpoint, t =>
    transact t (writeCheckpointForRecovery t checkpoint)
  | .compactTerminalCheckpoints archivable, t =>
    transact t (compactTerminalCheckpoints t archivable)
  | .writeSourceLedger rows agrees, t =>
    (.ok (), { t with sourceOperations := rows, actionHistoryAgrees := agrees })

/-- A transaction either rolls back, or commits the rows it returns. -/
theorem transact_rule {α : Type} {P : RunTables → Prop} {t : RunTables}
    {outcome : Except Raised (α × RunTables)} (hrollback : P t)
    (hcommit : ∀ value t', outcome = .ok (value, t') → P t') : P (transact t outcome).2 := by
  cases outcome with
  | error e => exact hrollback
  | ok committed => exact hcommit committed.1 committed.2 rfl

/-- The control plane of one run: its rows and the calls that are under way. -/
abbrev ControlPool : Type :=
  Pool RunTables Transaction Transaction.Answer (Except Raised Unit)

/-- What happens next in the control plane. -/
abbrev ControlChoice : Type :=
  Choice Transaction Transaction.Answer (Except Raised Unit)

/-- Before the run is accepted there are no rows, and nobody has called anything. -/
def ControlPool.initial : ControlPool where
  shared := {}
  programs := []

/-- The control plane after an interleaving of calls. -/
def ControlPool.after (choices : List ControlChoice) : ControlPool :=
  run (Pool.step exec) ControlPool.initial choices

end SeekTalent.RuntimeControl
