import SeekTalent.Foundation.Checks
import SeekTalent.Foundation.Sha256
import SeekTalent.RuntimeControl.LedgerRecords
import SeekTalent.SourcePort.StrictJson

/-!
# The store of the browser lane

The single-writer lease of the browser effects, `seektalent_runtime_control/browser_lane.py`: one
row that is acquired, renewed, released or marked by the owner of its fencing token, and that a lane
whose owner is gone leaves only by what the source ledger proves about its own operation.

Every operation here is one transaction; what raises is rolled back.  The ledger of each run is part
of the store, and other writers change it.
-/

namespace SeekTalent.BrowserLane

open Foundation RuntimeControl SourcePort

/-! ## Data -/

/-- `LIEPIN_BROWSER_LANE` -/
def liepinBrowserLane : String := "liepin_browser"

/-- `BrowserLaneOperationKind`. -/
inductive BrowserLaneOperationKind
  | cards
  | details
  | continuation
  | recheck
  | prepareReadiness
  deriving DecidableEq, Repr

/-- The status of a lane. -/
inductive BrowserLaneStatus
  | active
  | completed
  | failed
  deriving DecidableEq, Repr

/-- `BrowserLaneLease`. -/
structure BrowserLaneLease where
  laneKey : String
  fencingToken : Nat
  ownerId : String
  ownerProcessId : Int
  processBootId : String
  runtimeRunId : Option String
  operationId : String
  operationKind : BrowserLaneOperationKind
  acquiredAt : Nat
  heartbeatAt : Nat
  leaseExpiresAt : Nat
  deriving DecidableEq, Repr

/-- A row of `runtime_control_browser_lanes` (`BrowserLaneSnapshot`). -/
structure BrowserLaneSnapshot where
  laneKey : String
  fencingToken : Nat
  status : BrowserLaneStatus
  ownerId : String
  ownerProcessId : Int
  processBootId : String
  runtimeRunId : Option String
  operationId : String
  operationKind : BrowserLaneOperationKind
  acquiredAt : Nat
  heartbeatAt : Nat
  leaseExpiresAt : Option Nat
  releasedAt : Option Nat
  lastFailureCode : Option String
  updatedAt : Nat
  deriving DecidableEq, Repr

/-- The outcome of a resolution. -/
inductive ResolutionOutcome
  | noEffect
  | terminalObserved
  | unknown
  deriving DecidableEq, Repr

/-- A row of `runtime_control_browser_lane_resolutions`, without its random id. -/
structure LaneResolution where
  fencingToken : Nat
  runtimeRunId : String
  operationId : String
  outcome : ResolutionOutcome
  historyConclusion : Option HistoryConclusion
  evidenceRef : String
  evidenceDigest : String
  resolvedAt : Nat
  deriving DecidableEq, Repr

/-- What an operation raises. -/
inductive LaneFault
  | valueError (message : String)
  | control (reasonCode : String)
  /-- An expiry that is null is compared. -/
  | typeError
  deriving DecidableEq, Repr

/-- The lane, its resolutions, and the source ledger of each run. -/
structure LaneStore where
  lane : Option BrowserLaneSnapshot := none
  resolutions : List LaneResolution := []
  ledger : String → LedgerTables

/-- `SELECT * FROM runtime_control_browser_lanes WHERE lane_key = ?` -/
def LaneStore.laneAt (s : LaneStore) (laneKey : String) : Option BrowserLaneSnapshot :=
  s.lane.filter fun row => row.laneKey = laneKey

/-- `_lease_from_row` -/
def leaseFromRow (row : BrowserLaneSnapshot) : Except LaneFault BrowserLaneLease :=
  match row.status, row.leaseExpiresAt with
  | .active, some leaseExpiresAt =>
    .ok
      { laneKey := row.laneKey
        fencingToken := row.fencingToken
        ownerId := row.ownerId
        ownerProcessId := row.ownerProcessId
        processBootId := row.processBootId
        runtimeRunId := row.runtimeRunId
        operationId := row.operationId
        operationKind := row.operationKind
        acquiredAt := row.acquiredAt
        heartbeatAt := row.heartbeatAt
        leaseExpiresAt := leaseExpiresAt }
  | _, _ => .error (.control "liepin_browser_lane_state_invalid")

/-! ## Checks of texts -/

/-- A character of an id. -/
def isSafeIdChar (c : Char) : Bool :=
  c.isAlphanum || c ∈ ['_', '.', ':', '/', '-']

/-- `_SAFE_ID.fullmatch(value)` -/
def isSafeId (value : String) : Bool :=
  1 ≤ value.toList.length && value.toList.length ≤ 256 && value.toList.all isSafeIdChar

/-- `_SAFE_REASON.fullmatch(value)` -/
def isSafeReason (value : String) : Bool :=
  match value.toList with
  | [] => false
  | first :: rest =>
    first.isLower && rest.length ≤ 159 && rest.all fun c => c.isLower || c.isDigit || c = '_'

/-- `_require_safe_id` -/
def requireSafeId (value label : String) : Except LaneFault Unit :=
  require (isSafeId value = true) (.valueError (label ++ " is invalid"))

/-! ## The owner's operations -/

/-- What `try_acquire_browser_lane` is called with. -/
structure AcquireRequest where
  laneKey : String
  ownerId : String
  ownerProcessId : Int
  processBootId : String
  runtimeRunId : Option String
  operationId : String
  operationKind : BrowserLaneOperationKind
  acquiredAt : Nat
  leaseExpiresAt : Nat
  deriving DecidableEq, Repr

/-- `_validate_lane_write` -/
def validateLaneWrite (r : AcquireRequest) : Except LaneFault Unit := do
  require (r.laneKey = liepinBrowserLane) (.valueError "browser lane key is invalid")
  requireSafeId r.ownerId "owner_id"
  requireSafeId r.processBootId "process_boot_id"
  requireSafeId r.operationId "operation_id"
  match r.runtimeRunId with
  | some runtimeRunId => requireSafeId runtimeRunId "runtime_run_id"
  | none => pure ()
  require (1 ≤ r.ownerProcessId) (.valueError "owner_process_id is invalid")
  require (r.acquiredAt < r.leaseExpiresAt) (.valueError "browser lane expiry is invalid")

/-- The row of a lane that is acquired. -/
def AcquireRequest.row (r : AcquireRequest) (fencingToken : Nat) : BrowserLaneSnapshot where
  laneKey := r.laneKey
  fencingToken := fencingToken
  status := .active
  ownerId := r.ownerId
  ownerProcessId := r.ownerProcessId
  processBootId := r.processBootId
  runtimeRunId := r.runtimeRunId
  operationId := r.operationId
  operationKind := r.operationKind
  acquiredAt := r.acquiredAt
  heartbeatAt := r.acquiredAt
  leaseExpiresAt := some r.leaseExpiresAt
  releasedAt := none
  lastFailureCode := none
  updatedAt := r.acquiredAt

/-- The next fencing token. -/
def nextFencingToken : Option BrowserLaneSnapshot → Nat
  | none => 1
  | some row => row.fencingToken + 1

/-- `try_acquire_browser_lane` -/
def tryAcquireBrowserLane (s : LaneStore) (r : AcquireRequest) :
    Except LaneFault (Option BrowserLaneLease × LaneStore) := do
  validateLaneWrite r
  if (s.laneAt r.laneKey).any (fun row => row.status = .active) then .ok (none, s)
  else
    let acquired := r.row (nextFencingToken (s.laneAt r.laneKey))
    let lease ← leaseFromRow acquired
    .ok (some lease, { s with lane := some acquired })

/-- `WHERE lane_key = ? AND owner_id = ? AND fencing_token = ? AND status = 'active'` -/
def LaneStore.ownedLane (s : LaneStore) (laneKey ownerId : String) (fencingToken : Nat) :
    Option BrowserLaneSnapshot :=
  (s.laneAt laneKey).filter fun row =>
    row.ownerId = ownerId ∧ row.fencingToken = fencingToken ∧ row.status = .active

/-- `heartbeat_browser_lane` -/
def heartbeatBrowserLane (s : LaneStore) (laneKey ownerId : String)
    (fencingToken heartbeatAt leaseExpiresAt : Nat) :
    Except LaneFault (BrowserLaneLease × LaneStore) :=
  match (s.ownedLane laneKey ownerId fencingToken).filter fun row =>
      row.leaseExpiresAt.any fun expires => heartbeatAt < expires with
  | none => .error (.control "liepin_browser_lane_lost")
  | some row => do
    let renewed : BrowserLaneSnapshot :=
      { row with heartbeatAt := heartbeatAt, leaseExpiresAt := some leaseExpiresAt, updatedAt :=
        heartbeatAt }
    let lease ← leaseFromRow renewed
    .ok (lease, { s with lane := some renewed })

/-- The status with which a lane is released. -/
inductive ReleaseStatus
  | completed
  | failed
  deriving DecidableEq, Repr

/-- The status of the row. -/
def ReleaseStatus.laneStatus : ReleaseStatus → BrowserLaneStatus
  | .completed => .completed
  | .failed => .failed

/-- `release_browser_lane` -/
def releaseBrowserLane (s : LaneStore) (laneKey ownerId : String) (fencingToken releasedAt : Nat)
    (status : ReleaseStatus) (failureCode : Option String) :
    Except LaneFault (BrowserLaneSnapshot × LaneStore) := do
  require (¬ (status = .completed ∧ failureCode ≠ none))
    (.valueError "completed browser lane cannot retain a failure")
  let failureCode := failureCode.map fun code =>
    if isSafeReason code then code else "liepin_browser_lane_failed"
  match s.ownedLane laneKey ownerId fencingToken with
  | none => .error (.control "liepin_browser_lane_lost")
  | some row =>
    let released : BrowserLaneSnapshot :=
      { row with
        status := status.laneStatus
        leaseExpiresAt := none
        releasedAt := some releasedAt
        lastFailureCode := failureCode
        updatedAt := releasedAt }
    .ok (released, { s with lane := some released })

/-- `mark_browser_lane_unresolved` -/
def markBrowserLaneUnresolved (s : LaneStore) (laneKey ownerId : String) (fencingToken : Nat)
    (failureCode : String) (observedAt : Nat) :
    Except LaneFault (BrowserLaneSnapshot × LaneStore) := do
  require (isSafeReason failureCode = true) (.valueError "browser_lane_failure_code_invalid")
  match s.ownedLane laneKey ownerId fencingToken with
  | none => .error (.control "liepin_browser_lane_lost")
  | some row =>
    let marked : BrowserLaneSnapshot :=
      { row with lastFailureCode := some failureCode, updatedAt := observedAt }
    .ok (marked, { s with lane := some marked })

/-! ## Resolutions from the source ledger -/

/-- What `resolve_expired_browser_lane_after_reconciliation` is called with. -/
structure ResolveRequest where
  fencingToken : Nat
  runtimeRunId : String
  operationId : String
  outcome : ResolutionOutcome
  historyConclusion : Option HistoryConclusion
  evidenceRef : String
  evidenceDigest : String
  resolvedAt : Nat
  deriving DecidableEq, Repr

/-- The reconciliation that a resolution rests on: the last one of the operation with its
evidence. -/
def LaneStore.evidence (s : LaneStore) (r : ResolveRequest) : Option ReconciliationRow :=
  ((s.ledger r.runtimeRunId).reconciliations.filter fun row =>
    row.operationId = r.operationId ∧ row.historyResultRef = r.evidenceRef ∧
      row.historyResultDigest = r.evidenceDigest ∧
      row.historyConclusion = r.historyConclusion).argmax (·.committedReconciliationRevision)

/-- `expected_decision` -/
def ResolutionOutcome.expectedDecision : ResolutionOutcome → ReconciliationDecisionKind
  | .unknown => .unresolved
  | .noEffect => .noDispatchProved
  | .terminalObserved => .conclusiveObservation

/-- Whether the expired lane is still the one that is resolved. -/
def LaneStore.expiredLane (s : LaneStore) (r : ResolveRequest) :
    Except LaneFault BrowserLaneSnapshot :=
  match s.laneAt liepinBrowserLane with
  | none => .error (.control "liepin_browser_lane_resolution_conflict")
  | some lane =>
    if lane.status ≠ .active ∨ lane.fencingToken ≠ r.fencingToken ∨
        lane.runtimeRunId ≠ some r.runtimeRunId ∨ lane.operationId ≠ r.operationId then
      .error (.control "liepin_browser_lane_resolution_conflict")
    else
      match lane.leaseExpiresAt with
      | none => .error .typeError
      | some leaseExpiresAt =>
        if r.resolvedAt < leaseExpiresAt then .error
          (.control "liepin_browser_lane_resolution_conflict")
        else .ok lane

/-- The row of a resolution. -/
def ResolveRequest.resolution (r : ResolveRequest) : LaneResolution where
  fencingToken := r.fencingToken
  runtimeRunId := r.runtimeRunId
  operationId := r.operationId
  outcome := r.outcome
  historyConclusion := r.historyConclusion
  evidenceRef := r.evidenceRef
  evidenceDigest := r.evidenceDigest
  resolvedAt := r.resolvedAt

/-- The lane behind a resolution. -/
def BrowserLaneSnapshot.reconciled (row : BrowserLaneSnapshot) (resolvedAt : Nat) :
    BrowserLaneSnapshot :=
  { row with
    status := .failed
    leaseExpiresAt := none
    releasedAt := some resolvedAt
    lastFailureCode := some "liepin_browser_lane_reconciled"
    updatedAt := resolvedAt }

/-- What is checked of the ledger, by outcome. -/
def checkEvidence (outcome : ResolutionOutcome) (operation : SourceOperationRow)
    (reconciliation : ReconciliationRow) : Except LaneFault Unit := do
  require (¬ (outcome = .noEffect ∧
      (reconciliation.retryPosture ≠ .safeRetry ∨ reconciliation.dispatchIntentRef ≠ none)))
    (.control "liepin_browser_lane_no_effect_evidence_missing")
  require (¬ (outcome = .terminalObserved ∧
      (operation.operationPhase ∉ [.reconciled, .mainCommitted] ∨
        operation.conclusiveObservationRef = none ∨
        operation.sourceOperationDisposition = some .reconciliationUnknown ∨
        reconciliation.conclusiveObservationRef ≠ operation.conclusiveObservationRef)))
    (.control "liepin_browser_lane_terminal_evidence_missing")

/-- `resolve_expired_browser_lane_after_reconciliation` -/
def resolveExpiredBrowserLane (s : LaneStore) (r : ResolveRequest) :
    Except LaneFault (Bool × LaneStore) := do
  require (isSafeId r.evidenceRef = true ∧ isSha256 r.evidenceDigest = true)
    (.valueError "browser_lane_resolution_evidence_invalid")
  require (¬ (r.outcome = .noEffect ∧ r.historyConclusion ∉ [none, some .acceptedNoDispatch]))
    (.valueError "browser_lane_no_effect_evidence_invalid")
  let lane ← s.expiredLane r
  match (s.ledger r.runtimeRunId).operationRow r.operationId with
  | none => .error (.control "liepin_browser_lane_source_operation_missing")
  | some operation =>
    match (s.evidence r).filter fun row => row.decisionKind = r.outcome.expectedDecision with
    | none => .error (.control "liepin_browser_lane_reconciliation_evidence_missing")
    | some reconciliation =>
      checkEvidence r.outcome operation reconciliation
      let resolved := { s with resolutions := s.resolutions ++ [r.resolution] }
      if r.outcome = .unknown then .ok (false, resolved)
      else .ok (true, { resolved with lane := some (lane.reconciled r.resolvedAt) })

/-- The last reconciliation of an operation. -/
def LaneStore.lastReconciliation (s : LaneStore) (runtimeRunId operationId : String) :
    Option ReconciliationRow :=
  ((s.ledger runtimeRunId).reconciliations.filter fun row => row.operationId = operationId).argmax
    (·.committedReconciliationRevision)

/-- What the second transaction of `reconcile_expired_browser_lane_from_durable_evidence` leaves to
the third one. -/
inductive Reconcile
  | needsAttention
  | resolve (request : ResolveRequest)
  deriving DecidableEq, Repr

/-- The second transaction of `reconcile_expired_browser_lane_from_durable_evidence`: the lane that
was read needs attention, or the last reconciliation decides its outcome. -/
def reconcileEvidence (s : LaneStore) (lane : BrowserLaneSnapshot) (runtimeRunId : String)
    (observedAt : Nat) : Reconcile × LaneStore :=
  let request (row : ReconciliationRow) (outcome : ResolutionOutcome) : ResolveRequest :=
    { fencingToken := lane.fencingToken
      runtimeRunId := runtimeRunId
      operationId := lane.operationId
      outcome := outcome
      historyConclusion := row.historyConclusion
      evidenceRef := row.historyResultRef
      evidenceDigest := row.historyResultDigest
      resolvedAt := observedAt }
  let flagged : LaneStore :=
    { s with
      lane := s.lane.map fun row =>
        if row.laneKey = lane.laneKey ∧ row.fencingToken = lane.fencingToken ∧
          row.status = .active then
          { row with
            lastFailureCode := some "liepin_browser_lane_reconciliation_required"
            updatedAt := observedAt }
        else row }
  match s.lastReconciliation runtimeRunId lane.operationId with
  | none => (.needsAttention, flagged)
  | some row =>
    match row.decisionKind with
    | .unresolved => (.needsAttention, flagged)
    | .noDispatchProved => (.resolve (request row .noEffect), s)
    | .conclusiveObservation => (.resolve (request row .terminalObserved), s)

/-- The operation whose observation `resolve_browser_lane_from_conclusive_observation` goes by, with
its reference. -/
def LaneStore.observedOperation (s : LaneStore) (runtimeRunId operationId : String) :
    Option (SourceOperationRow × String) :=
  match (s.ledger runtimeRunId).operationRow operationId with
  | none => none
  | some operation =>
    match operation.conclusiveObservationRef with
    | none => none
    | some evidenceRef =>
      if operation.operationPhase ∈ [.observed, .mainCommitted] ∧
          operation.sourceOperationDisposition ≠ some .reconciliationUnknown then
        some (operation, evidenceRef)
      else none

/-- The lane of an operation, while it is active. -/
def LaneStore.activeLaneOf (s : LaneStore) (runtimeRunId operationId : String) :
    Option BrowserLaneSnapshot :=
  (s.laneAt liepinBrowserLane).filter fun row =>
    row.status = .active ∧ row.runtimeRunId = some runtimeRunId ∧ row.operationId = operationId

/-- `resolve_browser_lane_from_conclusive_observation` -/
def resolveObservedBrowserLane (s : LaneStore) (runtimeRunId operationId : String)
    (resolvedAt : Nat) : Bool × LaneStore :=
  match s.activeLaneOf runtimeRunId operationId, s.observedOperation runtimeRunId operationId with
  | some lane, some (_, evidenceRef) =>
    (true,
      { s with
        lane := some (lane.reconciled resolvedAt)
        resolutions := s.resolutions ++
          [{ fencingToken := lane.fencingToken
             runtimeRunId := runtimeRunId
             operationId := operationId
             outcome := .terminalObserved
             historyConclusion := some .observedResult
             evidenceRef := evidenceRef
             evidenceDigest := hexdigest (sha256 evidenceRef.toUTF8.toList)
             resolvedAt := resolvedAt }] })
  | _, _ => (false, s)

end SeekTalent.BrowserLane
