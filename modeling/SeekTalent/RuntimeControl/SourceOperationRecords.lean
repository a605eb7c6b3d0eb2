import Mathlib.Data.List.Basic

/-!
# Source operation rows

The main store's row of one source operation (`seektalent_runtime_control/source_operations.py`),
without the run's own identity: every table of this development holds the rows of one run.
-/

namespace SeekTalent.RuntimeControl

/-- `SourceOperationKind`. -/
inductive SourceOperationKind
  | verifySession
  | search
  | cards
  | details
  | continuation
  | cleanup
  deriving DecidableEq, Repr

/-- `SourceOperationPhase`. -/
inductive SourceOperationPhase
  | accepted
  | dispatchIntent
  | observed
  | reconciled
  | mainCommitted
  deriving DecidableEq, Repr

/-- `SourceOperationDisposition`. -/
inductive SourceOperationDisposition
  | completed
  | partialResult
  | userActionRequired
  | incompatible
  | failed
  | cancelled
  | reconciliationUnknown
  deriving DecidableEq, Repr

/-- `RetryPosture`. -/
inductive RetryPosture
  | noRetry
  | safeRetry
  | reconcileFirst
  deriving DecidableEq, Repr

/-- A row of `runtime_control_source_operations` (`SourceOperationRecord`). -/
structure SourceOperationRow where
  operationId : String
  operationKind : SourceOperationKind
  canonicalRequestHash : String
  idempotencyKey : String
  acceptedRequirementRevisionId : String
  runtimeAttemptNo : Nat
  runtimeAttemptAuthorityRef : String
  operationPhase : SourceOperationPhase
  dispatchIntentRef : Option String
  conclusiveObservationRef : Option String
  sourceOperationDisposition : Option SourceOperationDisposition
  retryPosture : RetryPosture
  reconciliationRevision : Nat
  mainCommitRef : Option String
  ledgerRevision : Nat
  deriving DecidableEq, Repr

/-- Whether the main store has committed the operation's result: the negation of the condition that
`_all_source_operations_main_committed` searches for. -/
def SourceOperationRow.MainCommitted (o : SourceOperationRow) : Prop :=
  o.operationPhase = .mainCommitted ∧ o.mainCommitRef ≠ none

instance (o : SourceOperationRow) : Decidable o.MainCommitted :=
  inferInstanceAs (Decidable (_ ∧ _))

/-- Whether an executor that fails has to hand the operation to reconciliation: the condition of
`has_source_operations_requiring_reconciliation`. -/
def SourceOperationRow.RequiresReconciliation (o : SourceOperationRow) : Prop :=
  o.operationPhase = .reconciled ∧ o.retryPosture = .reconcileFirst ∧ o.mainCommitRef = none

instance (o : SourceOperationRow) : Decidable o.RequiresReconciliation :=
  inferInstanceAs (Decidable (_ ∧ _ ∧ _))

end SeekTalent.RuntimeControl
