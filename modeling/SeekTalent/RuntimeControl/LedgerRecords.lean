import SeekTalent.Foundation.Tables
import SeekTalent.RuntimeControl.RunRecords

/-!
# The reconciliations of the source ledger

What the main store records about the source operations of a run beside the operation row itself, as
far as the browser lane reads it (`seektalent_runtime_control/source_reconciliation.py`): the
decisions of the reconciliations, with the revisions that each committed.  `LedgerTables` adds them
to the rows of the run.
-/

namespace SeekTalent.RuntimeControl

open Foundation

/-- `SourceOperationReconciliationDecisionKind`. -/
inductive ReconciliationDecisionKind
  | noDispatchProved
  | unresolved
  | conclusiveObservation
  deriving DecidableEq, Repr

/-- `SourceOperationHistoryOutcome`. -/
inductive HistoryOutcome
  | matched
  | notFound
  | historyUnavailable
  deriving DecidableEq, Repr

/-- `SourceOperationHistoryConclusion`. -/
inductive HistoryConclusion
  | acceptedNoDispatch
  | dispatchNotObserved
  | observedResult
  | observedFailure
  deriving DecidableEq, Repr

/-- `SourceOperationReconciliationDecision`. -/
structure ReconciliationDecision where
  reconciliationId : String
  operationId : String
  operationKind : SourceOperationKind
  canonicalRequestHash : String
  idempotencyKey : String
  acceptedRequirementRevisionId : String
  runtimeAttemptNo : Nat
  runtimeAttemptAuthorityRef : String
  historyResultRef : String
  historyResultDigest : String
  decisionKind : ReconciliationDecisionKind
  historyOutcome : HistoryOutcome
  historyConclusion : Option HistoryConclusion
  dispatchIntentRef : Option String
  conclusiveObservationRef : Option String
  sourceOperationDisposition : Option SourceOperationDisposition
  retryPosture : RetryPosture
  expectedLedgerRevision : Nat
  expectedReconciliationRevision : Nat
  committedAt : String
  deriving DecidableEq, Repr

/-- `SourceOperationReconciliationRecord`: a decision with the revisions it committed.  Its
committed phase is always `reconciled`. -/
structure ReconciliationRow extends ReconciliationDecision where
  committedLedgerRevision : Nat
  committedReconciliationRevision : Nat
  deriving DecidableEq, Repr

/-- The rows of one run with the reconciliations of its source ledger, in the order of their
insertion. -/
structure LedgerTables extends RunTables where
  reconciliations : List ReconciliationRow := []
  deriving DecidableEq, Repr

/-- `_source_operation_row`. -/
def LedgerTables.operationRow (t : LedgerTables) (operationId : String) :
    Option SourceOperationRow :=
  rowAt (·.operationId) t.sourceOperations operationId

end SeekTalent.RuntimeControl
