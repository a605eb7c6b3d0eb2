import Mathlib.Data.Finset.Card
import SeekTalent.Foundation.Tables
import SeekTalent.SourcePort.HistorySqliteReader

/-!
# History queries

`SourceHistorySQLiteReader.query` over a journal: the request and result models of
`history_contract.py`, the selection of the heads that a request is about, and the answer.  The
fields that a strict literal fixes (`contract_version`, `outcome`, `history_complete`,
`history_truncated`) are the constructors themselves.  The file, its pragmas and the deadline are
not part of the model; a journal that its validation refuses is answered as in the source.
-/

namespace SeekTalent.SourcePort

open Foundation

variable (py : PythonRuntime)

/-! ## Requests -/

/-- `AuthorizationSelector`. -/
inductive AuthorizationSelector
  | exact (ordinal : Int)
  | all
deriving DecidableEq, Repr

/-- The fields of a query that `_query_echo` repeats in its result. -/
structure QueryEcho where
  runId : String
  operationId : String
  source : String
  operationKind : String
  idempotencyKey : String
  requestHash : String
  attemptNo : Int
  authorizationSelector : AuthorizationSelector
  acceptedGenerationHint : Option Int := none
  searchedFirstGeneration : Int
  searchedLastGeneration : Int
  expectedSourceOperationLedgerRevision : Int
  expectedReconciliationRevision : Int
deriving DecidableEq, Repr

/-- The field of a selector. -/
def AuthorizationSelector.isWellFormed : AuthorizationSelector → Bool
  | .exact ordinal => positiveJsonInteger ordinal
  | .all => true

/-- The typed fields that requests and results share, by name. -/
def echoFields (echo : QueryEcho) : List (String × Bool) :=
  [("run_id", opaque96 echo.runId),
    ("operation_id", opaque96 echo.operationId),
    ("source", echo.source == "liepin"),
    ("operation_kind", isOperationKind echo.operationKind),
    ("idempotency_key", opaque128 echo.idempotencyKey),
    ("request_hash", isSha256 echo.requestHash),
    ("attempt_no", positiveJsonInteger echo.attemptNo),
    ("authorization_selector", echo.authorizationSelector.isWellFormed),
    ("accepted_generation_hint", echo.acceptedGenerationHint.all positiveJsonInteger),
    ("searched_first_generation", positiveJsonInteger echo.searchedFirstGeneration),
    ("searched_last_generation", positiveJsonInteger echo.searchedLastGeneration),
    ("expected_source_operation_ledger_revision",
      positiveJsonInteger echo.expectedSourceOperationLedgerRevision),
    ("expected_reconciliation_revision",
      nonNegativeJsonInteger echo.expectedReconciliationRevision)]

/-- `validate_generation_range` of a request and `validate_echoed_generation_range` of a result. -/
def validateGenerationRange (echo : QueryEcho) : Except JournalFailure Unit := do
  require (echo.searchedFirstGeneration ≤ echo.searchedLastGeneration)
    (.valueError "source_history_invalid_generation_range")
  require (∀ hint ∈ echo.acceptedGenerationHint,
      echo.searchedFirstGeneration ≤ hint ∧ hint ≤ echo.searchedLastGeneration)
    (.valueError "source_history_generation_hint_out_of_range")

/-- `SourceHistoryQueryV1`: fields that validate. -/
structure SourceHistoryQueryV1 extends QueryEcho where
  fields : validateFields (echoFields toQueryEcho) = .ok ()
  range : validateGenerationRange toQueryEcho = .ok ()

/-! ## Results -/

/-- `HistoryUnavailableReason`. -/
inductive HistoryUnavailableReason
  | unknownGeneration
  | retentionGap
  | truncated
  | corrupt
  | unreadable
  | schemaMismatch
  | pragmaMismatch
  | busy
deriving DecidableEq, Repr

/-- `IdentityConflictReason`. -/
inductive IdentityConflictReason
  | runIdMismatch
  | operationIdMismatch
  | sourceMismatch
  | operationKindMismatch
  | idempotencyKeyMismatch
  | requestHashMismatch
  | attemptNoMismatch
  | acceptedRequirementRevisionMismatch
  | acceptedFactMismatch
deriving DecidableEq, Repr

/-- The values of a query result, by its outcome. -/
inductive ResultValues
  | matched (echo : QueryEcho) (oldestRetained newestKnown : Int)
      (facts : List (MatchedHistoryFact py))
  | notFound (echo : QueryEcho) (oldestRetained newestKnown : Int)
  | identityConflict (echo : QueryEcho) (conflictReasons : List IdentityConflictReason)
      (oldestRetained newestKnown : Option Int)
  | historyUnavailable (echo : QueryEcho) (reason : HistoryUnavailableReason)
      (oldestRetained newestKnown : Option Int)

/-- The `outcome` of a result. -/
inductive QueryOutcome
  | matched
  | notFound
  | identityConflict
  | historyUnavailable
deriving DecidableEq, Repr

variable {py} in
/-- The outcome that the model of a result fixes. -/
def ResultValues.outcome : ResultValues py → QueryOutcome
  | .matched .. => .matched
  | .notFound .. => .notFound
  | .identityConflict .. => .identityConflict
  | .historyUnavailable .. => .historyUnavailable

variable {py} in
/-- The fields of the query that a result repeats. -/
def ResultValues.echo : ResultValues py → QueryEcho
  | .matched echo _ _ _ | .notFound echo _ _ | .identityConflict echo _ _ _
  | .historyUnavailable echo _ _ _ => echo

variable {py} in
/-- The bounds of a result; an answer about complete coverage has both. -/
def ResultValues.bounds : ResultValues py → Option Int × Option Int
  | .matched _ oldest newest _ | .notFound _ oldest newest => (some oldest, some newest)
  | .identityConflict _ _ oldest newest | .historyUnavailable _ _ oldest newest => (oldest, newest)

variable {py} in
/-- The typed fields of a result, by name. -/
def resultFields (result : ResultValues py) : List (String × Bool) :=
  echoFields result.echo ++
    [("oldest_retained_generation", result.bounds.1.all positiveJsonInteger),
      ("newest_known_generation", result.bounds.2.all positiveJsonInteger)]

/-- `_CompleteCoverageResult.validate_complete_coverage`. -/
def validateCompleteCoverage (echo : QueryEcho) (oldest newest : Int) :
    Except JournalFailure Unit :=
  require (oldest ≤ echo.searchedFirstGeneration ∧
      echo.searchedFirstGeneration ≤ echo.searchedLastGeneration ∧
      echo.searchedLastGeneration ≤ newest)
    (.valueError "source_history_incomplete_coverage")

/-- The check that the optional bounds of a result are in order. -/
def validateAvailableBounds (oldest newest : Option Int) : Except JournalFailure Unit :=
  require (∀ first ∈ oldest, ∀ last ∈ newest, first ≤ last)
    (.valueError "source_history_invalid_available_bounds")

/-- The selector of a query against the ordinals of the facts that matched. -/
def validateSelectedOrdinals (selector : AuthorizationSelector) (ordinals : List Int) :
    Except JournalFailure Unit :=
  match selector with
  | .exact ordinal =>
    require (ordinals = [ordinal]) (.valueError "source_history_exact_selector_mismatch")
  | .all =>
    require (ordinals = countFromOne ordinals.length)
      (.valueError "source_history_all_selector_ordinal_gap")

/-- The body of the loop of `validate_matched_facts` for one fact. -/
def validateMatchedFact (echo : QueryEcho) (newest : Int) (requirement : String)
    (fact : FactValues) : Except JournalFailure Unit := do
  require (fact.command.runId = echo.runId ∧ fact.command.operationId = echo.operationId ∧
      fact.command.source = echo.source ∧ fact.command.operationKind = echo.operationKind ∧
      fact.command.idempotencyKey = echo.idempotencyKey ∧
      fact.command.requestHash = echo.requestHash)
    (.valueError "source_history_matched_identity_mismatch")
  require (fact.command.acceptedRequirementRevisionId = requirement)
    (.valueError "source_history_matched_requirement_revision_mismatch")
  require (echo.searchedFirstGeneration ≤ fact.acceptedGeneration ∧
      fact.acceptedGeneration ≤ echo.searchedLastGeneration)
    (.valueError "source_history_fact_outside_searched_range")
  require (fact.headGeneration ≤ newest)
    (.valueError "source_history_fact_head_after_newest_generation")

/-- The last part of `validate_matched_facts`, by the selector; `first` is the first fact. -/
def validateSelectedAttempts (echo : QueryEcho) (first : AcceptedCommand)
    (commands : List AcceptedCommand) : Except JournalFailure Unit :=
  match echo.authorizationSelector with
  | .exact _ =>
    require (first.attemptNo = echo.attemptNo)
      (.valueError "source_history_exact_attempt_mismatch")
  | .all => do
    require ((commands.getLast?.map (·.attemptNo)) = some echo.attemptNo)
      (.valueError "source_history_all_latest_attempt_mismatch")
    require ((commands.filterMap (·.safeRetryCommitRef)).Nodup)
      (.valueError "source_history_safe_retry_commit_ref_reused")
    checkAll (fun field =>
      require (strictlyIncreasing (commands.map field.2) = true)
        (.valueError ("source_history_" ++ field.1 ++ "_not_increasing"))) monotonicFields

variable {py} in
/-- `SourceHistoryMatched.validate_matched_facts`.  The tuple of ordinals equals its own
`sorted(set(...))` when it is strictly ascending. -/
def validateMatchedFacts (echo : QueryEcho) (newest : Int) (facts : List (MatchedHistoryFact py)) :
    Except JournalFailure Unit :=
  match facts with
  | [] => .error (.valueError "source_history_matched_without_facts")
  | first :: _ => do
    let commands := facts.map (·.values.command)
    let ordinals : List Int := commands.map (·.dispatchAuthorizationOrdinal)
    require (ordinals.Pairwise (· < ·))
      (.valueError "source_history_matched_ordinals_not_unique_ascending")
    validateSelectedOrdinals echo.authorizationSelector ordinals
    checkAll (fun fact => validateMatchedFact echo newest
      first.values.command.acceptedRequirementRevisionId fact.values) facts
    validateSelectedAttempts echo first.values.command commands

variable {py} in
/-- The `mode="after"` validators that the outcome of a result adds. -/
def validateOutcome : ResultValues py → Except JournalFailure Unit
  | .matched echo oldest newest facts => do
    validateCompleteCoverage echo oldest newest
    validateMatchedFacts echo newest facts
  | .notFound echo oldest newest => validateCompleteCoverage echo oldest newest
  | .identityConflict _ reasons oldest newest => do
    require (reasons ≠ []) (.valueError "source_history_conflict_without_reason")
    require reasons.Nodup (.valueError "source_history_duplicate_conflict_reason")
    validateAvailableBounds oldest newest
  | .historyUnavailable echo reason oldest newest => do
    validateAvailableBounds oldest newest
    require (reason = .unknownGeneration →
        ∀ last ∈ newest, last < echo.searchedLastGeneration)
      (.valueError "source_history_unknown_generation_within_known_range")

variable {py} in
/-- `model_validate(values, strict=True)` of the result model of an outcome. -/
def ResultValues.validate (result : ResultValues py) : Except JournalFailure Unit := do
  validateFields (resultFields result)
  validateGenerationRange result.echo
  validateOutcome result

/-- `SourceHistoryQueryResultV1`: result values that validate. -/
structure SourceHistoryQueryResultV1 where
  values : ResultValues py
  valid : values.validate = .ok ()

/-- What `query` raises. -/
inductive HistoryQueryFailure
  /-- A result that does not validate. -/
  | invalidResult (failure : JournalFailure)
  /-- `KeyError`. -/
  | keyError (key : HeadKey)
  /-- `AssertionError`, with its text. -/
  | assertion (text : String)
deriving DecidableEq, Repr

variable {py} in
/-- Build a result from values that validate, and raise what the validation raises otherwise. -/
def buildResult (values : ResultValues py) :
    Except HistoryQueryFailure (SourceHistoryQueryResultV1 py) :=
  match h : values.validate with
  | .ok () => .ok ⟨values, h⟩
  | .error failure => .error (.invalidResult failure)

/-! ## The answer to a request -/

/-- `generation_bounds`: the oldest retained and the newest known generation. -/
def generationBounds (journal : Journal) : Option Int × Option Int :=
  (((journal.generations.filter (fun row => row.retained == 1)).map (·.generation)).min?,
    (journal.generations.map (·.generation)).max?)

/-- The loop of `_coverage_failure` over the generations after `previous`: they are consecutive and
retained. -/
def retainedFrom (previous : Int) : List GenerationRow → Bool
  | [] => true
  | row :: rows =>
    row.generation == previous + 1 && row.retained == 1 && retainedFrom row.generation rows

/-- `_coverage_failure`. -/
def coverageFailure (journal : Journal) (request : QueryEcho) (oldest newest : Option Int) :
    Option HistoryUnavailableReason :=
  if newest.all (fun last => last < request.searchedLastGeneration) then
    some .unknownGeneration
  else if oldest.all (fun first => request.searchedFirstGeneration < first) then
    some .retentionGap
  else
    let rows := journal.selectGenerations.filter (fun row =>
      request.searchedFirstGeneration ≤ row.generation &&
        row.generation ≤ request.searchedLastGeneration)
    if (rows.length : Int) ≠
        request.searchedLastGeneration - request.searchedFirstGeneration + 1 then
      some .retentionGap
    else if ¬ retainedFrom (request.searchedFirstGeneration - 1) rows then
      some .retentionGap
    else if rows.any (fun row => row.complete != 1) then
      some .truncated
    else
      none

/-- A head was accepted in the searched generations. -/
def inSearchedRange (request : QueryEcho) (head : HeadRow) : Bool :=
  request.searchedFirstGeneration ≤ head.columns.acceptedGeneration &&
    head.columns.acceptedGeneration ≤ request.searchedLastGeneration

/-- `ordinal_matches` of `_partition_rows`. -/
def ordinalMatches (request : QueryEcho) (command : AcceptedCommand) : Bool :=
  match request.authorizationSelector with
  | .exact ordinal => command.dispatchAuthorizationOrdinal == ordinal
  | .all => true

/-- `stable_identity_matches` of `_partition_rows`. -/
def stableIdentityMatches (request : QueryEcho) (command : AcceptedCommand) : Bool :=
  command.runId == request.runId && command.operationId == request.operationId &&
    command.source == request.source && command.operationKind == request.operationKind &&
    command.idempotencyKey == request.idempotencyKey &&
    command.requestHash == request.requestHash

/-- `attempt_matches` of `_partition_rows`. -/
def attemptMatches (request : QueryEcho) (command : AcceptedCommand) : Bool :=
  match request.authorizationSelector with
  | .exact _ => command.attemptNo == request.attemptNo
  | .all => true

/-- `collision` of `_partition_rows`. -/
def sharesAlias (request : QueryEcho) (command : AcceptedCommand) : Bool :=
  (command.runId == request.runId && (command.operationId == request.operationId ||
      command.idempotencyKey == request.idempotencyKey)) ||
    (command.operationId == request.operationId &&
      command.idempotencyKey == request.idempotencyKey)

/-- Where the loop of `_partition_rows` puts a row. -/
inductive RowPart
  | exact
  | collision
  | neither
deriving DecidableEq, Repr

/-- The body of the loop of `_partition_rows`. -/
def rowPart (request : QueryEcho) (command : AcceptedCommand) : RowPart :=
  if ordinalMatches request command && stableIdentityMatches request command &&
      attemptMatches request command then
    .exact
  else if request.authorizationSelector != .all && !ordinalMatches request command &&
      stableIdentityMatches request command then
    .neither
  else if sharesAlias request command then
    .collision
  else
    .neither

/-- `_partition_rows`. -/
def partitionRows (request : QueryEcho) (rows : List HeadRow) : List HeadRow × List HeadRow :=
  (rows.filter (fun row => rowPart request row.columns.toAcceptedCommand == .exact),
    rows.filter (fun row => rowPart request row.columns.toAcceptedCommand == .collision))

/-- The columns that `_conflict_reasons` compares, with the reason for each that differs. -/
def comparisons (request : QueryEcho) (command : AcceptedCommand) :
    List (Bool × IdentityConflictReason) :=
  [(command.runId != request.runId, .runIdMismatch),
    (command.operationId != request.operationId, .operationIdMismatch),
    (command.source != request.source, .sourceMismatch),
    (command.operationKind != request.operationKind, .operationKindMismatch),
    (command.idempotencyKey != request.idempotencyKey, .idempotencyKeyMismatch),
    (command.requestHash != request.requestHash, .requestHashMismatch)] ++
  match request.authorizationSelector with
  | .exact _ => [(command.attemptNo != request.attemptNo, .attemptNoMismatch)]
  | .all => []

/-- The reasons of the columns of a row that differ. -/
def mismatches (request : QueryEcho) (row : HeadRow) : List IdentityConflictReason :=
  ((comparisons request row.columns.toAcceptedCommand).filter (·.1)).map (·.2)

/-- Append a reason that is not among the reasons yet. -/
def addReason (reasons : List IdentityConflictReason) (reason : IdentityConflictReason) :
    List IdentityConflictReason :=
  if reason ∈ reasons then reasons else reasons ++ [reason]

/-- `_conflict_reasons`. -/
def conflictReasons (request : QueryEcho) (exactRows collisionRows : List HeadRow) :
    List IdentityConflictReason :=
  let reasons := (collisionRows.flatMap (mismatches request)).foldl addReason []
  if 1 < exactRows.length ∧
      1 < (exactRows.map (·.columns.acceptedRequirementRevisionId)).toFinset.card then
    reasons ++ [.acceptedRequirementRevisionMismatch]
  else
    reasons

/-- `_unavailable`. -/
def unavailable (request : QueryEcho) (reason : HistoryUnavailableReason)
    (oldest newest : Option Int) : Except HistoryQueryFailure (SourceHistoryQueryResultV1 py) :=
  buildResult (.historyUnavailable request reason oldest newest)

variable {py} in
/-- `facts_by_key[_head_key(row)]`. -/
def factsByKey (facts : List (MatchedHistoryFact py)) (row : HeadRow) :
    Except HistoryQueryFailure (MatchedHistoryFact py) :=
  match rowAt (fun fact : MatchedHistoryFact py => fact.values.command.key) facts row.key with
  | some fact => .ok fact
  | none => .error (.keyError row.key)

/-- The part of `query` after the exact rows are known to be free of conflicts and covered. -/
def answerComplete (request : QueryEcho) (oldest newest : Int)
    (facts : List (MatchedHistoryFact py)) (exactRows : List HeadRow) :
    Except HistoryQueryFailure (SourceHistoryQueryResultV1 py) :=
  if exactRows = [] then
    buildResult (.notFound request oldest newest)
  else do
    let matched ← exactRows.mapM (factsByKey facts)
    match buildResult (.matched request oldest newest matched) with
    | .ok result => .ok result
    | .error _ => unavailable py request .corrupt (some oldest) (some newest)

/-- The part of `query` after the facts of the journal are loaded. -/
def answer (journal : Journal) (facts : List (MatchedHistoryFact py)) (request : QueryEcho) :
    Except HistoryQueryFailure (SourceHistoryQueryResultV1 py) :=
  let bounds := generationBounds journal
  let rows := journal.selectHeads.filter (inSearchedRange request)
  let parts := partitionRows request rows
  let reasons := conflictReasons request parts.1 parts.2
  if reasons ≠ [] then
    buildResult (.identityConflict request reasons bounds.1 bounds.2)
  else
    match coverageFailure journal request bounds.1 bounds.2 with
    | some reason => unavailable py request reason bounds.1 bounds.2
    | none =>
      match bounds with
      | (some oldest, some newest) => answerComplete py request oldest newest facts parts.1
      | _ => .error (.assertion "source_history_complete_range_without_bounds")

/-- `SourceHistorySQLiteReader.query`. -/
def query (journal : Journal) (request : SourceHistoryQueryV1) :
    Except HistoryQueryFailure (SourceHistoryQueryResultV1 py) :=
  match verifySchema py journal with
  | .error _ => unavailable py request.toQueryEcho .corrupt none none
  | .ok () =>
    match loadValidatedHistoryFacts py journal with
    | .error _ => unavailable py request.toQueryEcho .corrupt none none
    | .ok facts => answer py journal facts request.toQueryEcho

end SeekTalent.SourcePort
