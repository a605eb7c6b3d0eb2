import Mathlib.Data.Finset.Dedup
import SeekTalent.Foundation.Checks
import SeekTalent.Foundation.Dicts
import SeekTalent.Foundation.Lists
import SeekTalent.Rounds.ScoredCandidates

/-!
# Expanding the first page of a query

`seektalent/runtime/first_page_expansion.py`.  A query whose first page was not opened to its end
leaves continuations.  `select_qualified_first_page_expansions` decides for each query that has some
whether they are expanded or discarded, `execute_first_page_decisions` asks the source to do so and
checks what it returns, and `apply_first_page_expansion_to_receipts` adds the counts to the receipt
of the query.

The counts of a continuation and of a receipt are natural numbers, as the models they are read from
demand; those that a source returns are whatever it returns.
-/

namespace SeekTalent.Rounds

open Foundation

/-! ## Data -/

/-- `QueryExecutionStatus` and `ExpansionStatus`. -/
inductive ExecutionStatus
  | completed
  | partialResult
  | blocked
  | failed
  deriving DecidableEq, Repr

/-- The status of a receipt's expansion. -/
inductive FirstPageExpansionStatus
  | notQualified
  | executed (status : ExecutionStatus)
  deriving DecidableEq, Repr

/-- `(source_kind, query_instance_id)`. -/
abbrev QueryKey := String × String

/-- `ProviderSearchContinuation`. -/
structure ProviderSearchContinuation where
  continuationId : String
  sourceKind : String
  queryInstanceId : String
  visibleCandidateCount : Nat
  eligibleCandidateCount : Nat
  initialOpenedCount : Nat
  deriving DecidableEq, Repr

/-- `ResumeCandidate`, as far as expansions read it. -/
structure ExpandedCandidate where
  resumeId : String
  dedupKey : String
  deriving DecidableEq, Repr

/-- `RuntimeQueryCandidateAttribution`. -/
structure RuntimeQueryCandidateAttribution where
  sourceKind : String
  queryInstanceId : String
  resumeId : String
  dedupKey : Option String
  deriving DecidableEq, Repr

/-- `SourceFirstPageExpansionResult`. -/
structure SourceFirstPageExpansionResult where
  sourceKind : String
  queryInstanceId : String
  continuationId : String
  status : ExecutionStatus
  candidates : List ExpandedCandidate := []
  candidateQueryAttributions : List RuntimeQueryCandidateAttribution := []
  firstPageVisibleCount : Int := 0
  firstPageEligibleCount : Int := 0
  initialOpenedCount : Int := 0
  expansionOpenedCount : Int := 0
  expansionSkippedSeenCount : Int := 0
  expansionTerminalFailureCount : Int := 0
  safeReasonCode : Option String := none
  continuationDeleted : Bool := false
  deriving DecidableEq, Repr

/-- `SourceFirstPageExpansionError`. -/
structure SourceFirstPageExpansionError where
  status : ExecutionStatus
  safeReasonCode : String
  continuationDeleted : Bool := false
  deriving DecidableEq, Repr

/-- `QueryExecutionReceipt`, as far as expansions read and write it. -/
structure QueryExecutionReceipt where
  sourceKind : String
  queryInstanceId : String
  requestedCount : Int
  status : ExecutionStatus
  dispatchStarted : Bool
  rawCandidateCount : Nat := 0
  uniqueCandidateCount : Nat := 0
  duplicateCandidateCount : Nat := 0
  firstPageVisibleCount : Nat := 0
  firstPageEligibleCount : Nat := 0
  initialOpenedCount : Nat := 0
  expansionOpenedCount : Nat := 0
  expansionSkippedSeenCount : Nat := 0
  expansionTerminalFailureCount : Nat := 0
  expansionScoringFailureCount : Nat := 0
  firstPageExpansionQualified : Option Bool := none
  firstPageExpansionStatus : Option FirstPageExpansionStatus := none
  firstPageExpansionReasonCode : Option String := none
  deriving DecidableEq, Repr

/-- `FirstPageExpansionDecision`. -/
structure FirstPageExpansionDecision where
  sourceKind : String
  queryInstanceId : String
  expand : Bool
  reasonCode : String
  continuations : List ProviderSearchContinuation
  deriving DecidableEq, Repr

/-- `ExpansionQueryMergeCounts`. -/
structure ExpansionQueryMergeCounts where
  sourceKind : String
  queryInstanceId : String
  uniqueCandidateCount : Nat
  duplicateCandidateCount : Nat
  deriving DecidableEq, Repr

/-- The query that a continuation belongs to. -/
def ProviderSearchContinuation.key (c : ProviderSearchContinuation) : QueryKey :=
    (c.sourceKind, c.queryInstanceId)

/-- The query that a candidate is attributed to. -/
def RuntimeQueryCandidateAttribution.key (a : RuntimeQueryCandidateAttribution) : QueryKey :=
  (a.sourceKind, a.queryInstanceId)

/-- The query that a result belongs to. -/
def SourceFirstPageExpansionResult.key (r : SourceFirstPageExpansionResult) : QueryKey :=
  (r.sourceKind, r.queryInstanceId)

/-- The query that a receipt is for. -/
def QueryExecutionReceipt.key (r : QueryExecutionReceipt) : QueryKey :=
    (r.sourceKind, r.queryInstanceId)

/-- The query that is decided about. -/
def FirstPageExpansionDecision.key (d : FirstPageExpansionDecision) : QueryKey :=
    (d.sourceKind, d.queryInstanceId)

/-- The query that is counted for. -/
def ExpansionQueryMergeCounts.key (m : ExpansionQueryMergeCounts) : QueryKey :=
    (m.sourceKind, m.queryInstanceId)

/-- What a round raises when an expansion goes wrong. -/
inductive ExpansionFailure
  /-- `ValueError`. -/
  | value (reason : String)
  /-- `RuntimeSourceInvariantError`. -/
  | invariant (reason : String)
  /-- What a source raises other than its own error. -/
  | source (reason : String)
  /-- The `ValidationError` of a receipt. -/
  | receipt
  deriving DecidableEq, Repr

/-! ## Reason codes -/

/-- `_SAFE_FIRST_PAGE_REASON_CODES`. -/
def safeFirstPageReasonCodes : List String :=
  ["baseline_quality_gate_passed", "baseline_target_not_met", "baseline_scoring_incomplete",
    "baseline_not_fit", "baseline_quality_below_threshold", "baseline_risk_above_threshold",
    "baseline_query_not_completed", "first_page_continuation_discard_partial",
    "first_page_continuation_discard_blocked", "first_page_continuation_discard_failed",
    "first_page_continuation_cleanup_failed", "first_page_continuation_cleanup_unacknowledged",
    "first_page_expansion_partial", "first_page_expansion_blocked", "first_page_expansion_failed",
    "liepin_first_page_expansion_partial", "liepin_first_page_expansion_blocked",
    "liepin_first_page_continuation_cleanup_failed"]

/-- `safe_first_page_reason_code`. -/
def safeFirstPageReasonCode (value : String) (fallback : Option String)
    (status : Option ExecutionStatus) : String :=
  if value ∈ safeFirstPageReasonCodes then value
  else
    match fallback, status with
    | some fallback, _ => fallback
    | none, some .blocked => "first_page_expansion_blocked"
    | none, some .partialResult => "first_page_expansion_partial"
    | none, _ => "first_page_expansion_failed"

/-! ## Decisions -/

/-- `MIN_OVERALL_SCORE`. -/
def minOverallScore : Nat := 80

/-- `MIN_MUST_HAVE_SCORE`. -/
def minMustHaveScore : Nat := 70

/-- `MAX_APPLICABLE_RISK_SCORE`. -/
def maxApplicableRiskScore : Nat := 30

/-- The reason for what `decide_first_page_expansion` decides. -/
def firstPageExpansionReason (requestedCount baselineOpenedCount baselineIdentityCount : Int)
    (scorecards : List ScoredCandidate) : String :=
  if baselineOpenedCount < requestedCount ∨ baselineIdentityCount < requestedCount then
    "baseline_target_not_met"
  else if (scorecards.length : Int) ≠ baselineIdentityCount then "baseline_scoring_incomplete"
  else if ∃ item ∈ scorecards, item.fitBucket ≠ .fit then "baseline_not_fit"
  else if ∃ item ∈ scorecards,
      item.overallScore.val < minOverallScore ∨ item.mustHaveMatchScore.val < minMustHaveScore then
    "baseline_quality_below_threshold"
  else if ∃ item ∈ scorecards, ∃ risk ∈ item.riskScore, maxApplicableRiskScore < risk.val then
    "baseline_risk_above_threshold"
  else "baseline_quality_gate_passed"

/-- `decide_first_page_expansion`. -/
def decideFirstPageExpansion (continuations : List ProviderSearchContinuation)
    (requestedCount baselineOpenedCount baselineIdentityCount : Int)
    (scorecards : List ScoredCandidate) : Except ExpansionFailure FirstPageExpansionDecision :=
  match continuations with
  | [] => .error (.value "first_page_continuation_group_empty")
  | first :: rest => do
    require (∀ item ∈ first :: rest, item.key = first.key)
      (.value "first_page_continuation_group_mixed_query")
    let reason :=
      firstPageExpansionReason requestedCount baselineOpenedCount baselineIdentityCount scorecards
    return ⟨first.sourceKind, first.queryInstanceId, reason = "baseline_quality_gate_passed",
      reason, first :: rest⟩

/-- The identities that a query has been attributed, each once. -/
def attributedIdentities (attributions : List RuntimeQueryCandidateAttribution)
    (candidateIdentityByResumeId : Dict String String) (key : QueryKey) : List String :=
  ((attributions.filter fun item => item.key = key).map fun item =>
    (candidateIdentityByResumeId.lookup item.resumeId).getD item.resumeId).eraseDups

/-- What `select_qualified_first_page_expansions` decides about one query. -/
def decideGroup (receiptsByKey : Dict QueryKey QueryExecutionReceipt)
    (attributions : List RuntimeQueryCandidateAttribution)
    (candidateIdentityByResumeId : Dict String String)
    (scorecardsByIdentityId : Dict String ScoredCandidate)
    (group : QueryKey × List ProviderSearchContinuation) :
    Except ExpansionFailure FirstPageExpansionDecision :=
  match receiptsByKey.lookup group.1 with
  | none => .error (.value "first_page_continuation_missing_receipt")
  | some receipt =>
    if receipt.status ≠ .completed ∨ receipt.dispatchStarted = false then
      .ok ⟨group.1.1, group.1.2, false, "baseline_query_not_completed", group.2⟩
    else
      let identityIds := attributedIdentities attributions candidateIdentityByResumeId group.1
      decideFirstPageExpansion group.2 receipt.requestedCount
        (group.2.map ProviderSearchContinuation.initialOpenedCount).sum identityIds.length
        (identityIds.filterMap scorecardsByIdentityId.lookup)

/-- `select_qualified_first_page_expansions`. -/
def selectQualifiedFirstPageExpansions (continuations : List ProviderSearchContinuation)
    (receipts : List QueryExecutionReceipt)
    (candidateAttributions : List RuntimeQueryCandidateAttribution)
    (candidateIdentityByResumeId : Dict String String)
    (scorecardsByIdentityId : Dict String ScoredCandidate) :
    Except ExpansionFailure (List FirstPageExpansionDecision) := do
  require (continuations.map ProviderSearchContinuation.continuationId).Nodup
    (.value "duplicate_first_page_continuation")
  (groupedBy ProviderSearchContinuation.key continuations).mapM
    (decideGroup (.keyedBy QueryExecutionReceipt.key receipts) candidateAttributions
      candidateIdentityByResumeId scorecardsByIdentityId)

/-! ## Execution -/

/-- `ExpansionAction`. -/
inductive ExpansionAction
  | expand
  | discard
  deriving DecidableEq, Repr

/-- `SourceFirstPageExpansionRequest`. -/
structure SourceFirstPageExpansionRequest where
  continuation : ProviderSearchContinuation
  action : ExpansionAction
  deriving DecidableEq, Repr

/-- `SourceFirstPageExpander`: what a source answers to a request, or raises. -/
abbrev SourceFirstPageExpander :=
  SourceFirstPageExpansionRequest →
    Except (SourceFirstPageExpansionError ⊕ String) SourceFirstPageExpansionResult

/-- The counts of a result. -/
def SourceFirstPageExpansionResult.counts (result : SourceFirstPageExpansionResult) : List Int :=
  [result.firstPageVisibleCount, result.firstPageEligibleCount, result.initialOpenedCount,
    result.expansionOpenedCount, result.expansionSkippedSeenCount,
    result.expansionTerminalFailureCount]

/-- How much of a page an expansion has gone through. -/
def SourceFirstPageExpansionResult.consumed (result : SourceFirstPageExpansionResult) : Int :=
  result.expansionOpenedCount + result.expansionSkippedSeenCount +
    result.expansionTerminalFailureCount

/-- `_validate_expansion_result`. -/
def validateExpansionResult (result : SourceFirstPageExpansionResult)
    (continuation : ProviderSearchContinuation)
    (action : ExpansionAction) : Except ExpansionFailure Unit := do
  require (result.key = continuation.key ∧ result.continuationId = continuation.continuationId)
    (.invariant "first_page_expansion_result_wrong_provenance")
  require (∀ value ∈ result.counts, 0 ≤ value) (.invariant "first_page_expansion_invalid_count")
  require (result.firstPageVisibleCount = continuation.visibleCandidateCount)
    (.invariant "first_page_expansion_visible_count_mismatch")
  require (result.firstPageEligibleCount = continuation.eligibleCandidateCount)
    (.invariant "first_page_expansion_eligible_count_mismatch")
  require (result.initialOpenedCount = continuation.initialOpenedCount)
    (.invariant "first_page_expansion_initial_count_mismatch")
  let remaining := result.firstPageEligibleCount - result.initialOpenedCount
  require (0 ≤ remaining ∧ result.consumed ≤ remaining)
    (.invariant "first_page_expansion_count_exceeds_eligible")
  require (result.continuationDeleted = true) (.invariant "first_page_continuation_not_deleted")
  require (action = .discard →
      result.consumed = 0 ∧ result.candidates = [] ∧ result.candidateQueryAttributions = [])
    (.invariant "first_page_discard_returned_candidates")
  let candidateIds := result.candidates.map ExpandedCandidate.resumeId
  let attributionIds :=
    result.candidateQueryAttributions.map RuntimeQueryCandidateAttribution.resumeId
  require (candidateIds.Nodup ∧ attributionIds.Nodup)
    (.invariant "first_page_expansion_duplicate_candidate_attribution")
  require (candidateIds.toFinset = attributionIds.toFinset)
    (.invariant "first_page_expansion_candidate_attribution_coverage")
  require (∀ item ∈ result.candidateQueryAttributions, item.key = result.key)
    (.invariant "first_page_expansion_attribution_mismatch")
  require (∀ item ∈ result.candidateQueryAttributions,
      item.dedupKey =
      ((Dict.keyedBy ExpandedCandidate.resumeId result.candidates).lookup item.resumeId).map
        ExpandedCandidate.dedupKey)
    (.invariant "first_page_expansion_attribution_dedup_mismatch")

/-- The result that stands for an error of the source. -/
def failedExpansionResult (decision : FirstPageExpansionDecision)
    (continuation : ProviderSearchContinuation)
    (exc : SourceFirstPageExpansionError) : SourceFirstPageExpansionResult where
  sourceKind := decision.sourceKind
  queryInstanceId := decision.queryInstanceId
  continuationId := continuation.continuationId
  status := exc.status
  firstPageVisibleCount := continuation.visibleCandidateCount
  firstPageEligibleCount := continuation.eligibleCandidateCount
  initialOpenedCount := continuation.initialOpenedCount
  safeReasonCode := some (safeFirstPageReasonCode exc.safeReasonCode none (some exc.status))
  continuationDeleted := exc.continuationDeleted

/-- What a decision asks of the source. -/
def FirstPageExpansionDecision.action (decision : FirstPageExpansionDecision) : ExpansionAction :=
  if decision.expand then .expand else .discard

/-- What becomes of one continuation. -/
def executeContinuation (expander : SourceFirstPageExpander) (decision : FirstPageExpansionDecision)
    (continuation : ProviderSearchContinuation) :
    Except ExpansionFailure SourceFirstPageExpansionResult :=
  match expander ⟨continuation, decision.action⟩ with
  | .ok result => do
    validateExpansionResult result continuation decision.action
    return result
  | .error (.inl exc) => .ok (failedExpansionResult decision continuation exc)
  | .error (.inr reason) => .error (.source reason)

/-- What becomes of the continuations of one query. -/
def executeDecision (expanders : Dict String SourceFirstPageExpander)
    (decision : FirstPageExpansionDecision) :
    Except ExpansionFailure (List SourceFirstPageExpansionResult) :=
  match expanders.lookup decision.sourceKind with
  | none => .error (.invariant "first_page_expander_unavailable")
  | some expander => decision.continuations.mapM (executeContinuation expander decision)

/-- `execute_first_page_decisions`. -/
def executeFirstPageDecisions (expanders : Dict String SourceFirstPageExpander)
    (decisions : List FirstPageExpansionDecision) :
    Except ExpansionFailure (List SourceFirstPageExpansionResult) := do
  return (← decisions.mapM (executeDecision expanders)).flatten

/-! ## Receipts -/

/-- The counts that an expansion writes into a receipt. -/
structure ReceiptUpdate where
  rawCandidateCount : Int
  uniqueCandidateCount : Int
  duplicateCandidateCount : Int
  firstPageVisibleCount : Int
  firstPageEligibleCount : Int
  initialOpenedCount : Int
  expansionOpenedCount : Int
  expansionSkippedSeenCount : Int
  expansionTerminalFailureCount : Int
  expansionScoringFailureCount : Int
  firstPageExpansionQualified : Bool
  firstPageExpansionStatus : FirstPageExpansionStatus
  firstPageExpansionReasonCode : String
  deriving DecidableEq, Repr

/-- The counters of a receipt, which have `ge=0`. -/
def ReceiptUpdate.counters (u : ReceiptUpdate) : List Int :=
  [u.rawCandidateCount, u.uniqueCandidateCount, u.duplicateCandidateCount, u.firstPageVisibleCount,
    u.firstPageEligibleCount, u.initialOpenedCount, u.expansionOpenedCount,
    u.expansionSkippedSeenCount, u.expansionTerminalFailureCount, u.expansionScoringFailureCount]

/-- `_validated_receipt_update`. -/
def validatedReceiptUpdate (receipt : QueryExecutionReceipt) (update : ReceiptUpdate) :
    Except ExpansionFailure QueryExecutionReceipt := do
  require (∀ value ∈ update.counters, 0 ≤ value) .receipt
  return { receipt with
    rawCandidateCount := update.rawCandidateCount.toNat
    uniqueCandidateCount := update.uniqueCandidateCount.toNat
    duplicateCandidateCount := update.duplicateCandidateCount.toNat
    firstPageVisibleCount := update.firstPageVisibleCount.toNat
    firstPageEligibleCount := update.firstPageEligibleCount.toNat
    initialOpenedCount := update.initialOpenedCount.toNat
    expansionOpenedCount := update.expansionOpenedCount.toNat
    expansionSkippedSeenCount := update.expansionSkippedSeenCount.toNat
    expansionTerminalFailureCount := update.expansionTerminalFailureCount.toNat
    expansionScoringFailureCount := update.expansionScoringFailureCount.toNat
    firstPageExpansionQualified := some update.firstPageExpansionQualified
    firstPageExpansionStatus := some update.firstPageExpansionStatus
    firstPageExpansionReasonCode := some update.firstPageExpansionReasonCode }

section Receipt

variable (receipt : QueryExecutionReceipt) (decision : FirstPageExpansionDecision)
  (outcomes : List SourceFirstPageExpansionResult)

/-- The statuses of some results. -/
def outcomeStatuses (outcomes : List SourceFirstPageExpansionResult) : List ExecutionStatus :=
  outcomes.map SourceFirstPageExpansionResult.status

/-- All of some statuses are the given one, and there is one. -/
def onlyStatus (statuses : List ExecutionStatus) (status : ExecutionStatus) : Bool :=
  statuses ≠ [] ∧ ∀ s ∈ statuses, s = status

/-- The status and the reason of a query whose continuations are discarded. -/
def discardStatus : FirstPageExpansionStatus × String :=
  let statuses := outcomeStatuses outcomes
  if outcomes.length = decision.continuations.length ∧ onlyStatus statuses .completed then
    (.notQualified, decision.reasonCode)
  else if .partialResult ∈ statuses ∨ .completed ∈ statuses then
    (.executed .partialResult, "first_page_continuation_discard_partial")
  else if onlyStatus statuses .blocked then
    (.executed .blocked, "first_page_continuation_discard_blocked")
  else (.executed .failed, "first_page_continuation_discard_failed")

/-- The update of a query whose continuations are discarded. -/
def discardUpdate : ReceiptUpdate where
  rawCandidateCount := receipt.rawCandidateCount
  uniqueCandidateCount := receipt.uniqueCandidateCount
  duplicateCandidateCount := receipt.duplicateCandidateCount
  firstPageVisibleCount :=
    (decision.continuations.map ProviderSearchContinuation.visibleCandidateCount).sum
  firstPageEligibleCount :=
    (decision.continuations.map ProviderSearchContinuation.eligibleCandidateCount).sum
  initialOpenedCount :=
    (decision.continuations.map ProviderSearchContinuation.initialOpenedCount).sum
  expansionOpenedCount := receipt.expansionOpenedCount
  expansionSkippedSeenCount := receipt.expansionSkippedSeenCount
  expansionTerminalFailureCount := receipt.expansionTerminalFailureCount
  expansionScoringFailureCount := receipt.expansionScoringFailureCount
  firstPageExpansionQualified := decision.expand
  firstPageExpansionStatus := (discardStatus decision outcomes).1
  firstPageExpansionReasonCode := (discardStatus decision outcomes).2

/-- The sum of a count over some results. -/
def sumOutcomes (count : SourceFirstPageExpansionResult → Int) : Int := (outcomes.map count).sum

/-- The status of a query whose continuations are expanded. -/
def expansionStatus (opened : Int) (scoring : Nat) : ExecutionStatus :=
  let statuses := outcomeStatuses outcomes
  if onlyStatus statuses .completed ∧ scoring = 0 then .completed
  else if onlyStatus statuses .blocked ∧ opened = 0 then .blocked
  else if (∀ s ∈ statuses, s = .failed ∨ s = .blocked) ∧ opened = 0 then .failed
  else .partialResult

/-- The first reason that a result gives, or that of the decision. -/
def expansionReason : String :=
  let given := outcomes.filterMap fun outcome => outcome.safeReasonCode.filter (· ≠ "")
  safeFirstPageReasonCode (given.head?.getD decision.reasonCode)
  (some "first_page_expansion_partial") none

/-- The update of a query whose continuations are expanded. -/
def expandUpdate (merge : ExpansionQueryMergeCounts) (scoring : Nat) : ReceiptUpdate :=
  let opened := sumOutcomes outcomes SourceFirstPageExpansionResult.expansionOpenedCount
  let skipped := sumOutcomes outcomes SourceFirstPageExpansionResult.expansionSkippedSeenCount
  { rawCandidateCount := receipt.rawCandidateCount + opened
    uniqueCandidateCount := receipt.uniqueCandidateCount + merge.uniqueCandidateCount
    duplicateCandidateCount :=
      receipt.duplicateCandidateCount + skipped + merge.duplicateCandidateCount
    firstPageVisibleCount :=
      sumOutcomes outcomes SourceFirstPageExpansionResult.firstPageVisibleCount
    firstPageEligibleCount :=
      sumOutcomes outcomes SourceFirstPageExpansionResult.firstPageEligibleCount
    initialOpenedCount := sumOutcomes outcomes SourceFirstPageExpansionResult.initialOpenedCount
    expansionOpenedCount := opened
    expansionSkippedSeenCount := skipped
    expansionTerminalFailureCount :=
      sumOutcomes outcomes SourceFirstPageExpansionResult.expansionTerminalFailureCount
    expansionScoringFailureCount := scoring
    firstPageExpansionQualified := decision.expand
    firstPageExpansionStatus := .executed (expansionStatus outcomes opened scoring)
    firstPageExpansionReasonCode := expansionReason decision outcomes }

/-- `merges.get(key, ExpansionQueryMergeCounts(*key, 0, 0))`. -/
def mergeOf (merges : Dict QueryKey ExpansionQueryMergeCounts) : ExpansionQueryMergeCounts :=
  (merges.lookup receipt.key).getD ⟨receipt.sourceKind, receipt.queryInstanceId, 0, 0⟩

/-- What becomes of a receipt that is decided about. -/
def applyDecision (merges : Dict QueryKey ExpansionQueryMergeCounts)
    (scoringFailureCounts : Dict QueryKey Nat) :
    Except ExpansionFailure QueryExecutionReceipt := do
  let expectedIds := decision.continuations.map ProviderSearchContinuation.continuationId
  let actualIds := outcomes.map SourceFirstPageExpansionResult.continuationId
  require (actualIds.Nodup ∧ actualIds ⊆ expectedIds)
    (.invariant "invalid_first_page_expansion_outcomes")
  if decision.expand = false then
    validatedReceiptUpdate receipt (discardUpdate receipt decision outcomes)
  else
    let merge := mergeOf receipt merges
    let scoring := (scoringFailureCounts.lookup receipt.key).getD 0
    require ((merge.uniqueCandidateCount + merge.duplicateCandidateCount : Int) ≤
        sumOutcomes outcomes SourceFirstPageExpansionResult.expansionOpenedCount)
      (.invariant "first_page_expansion_merge_count_exceeds_opened")
    require (scoring ≤ merge.uniqueCandidateCount)
      (.invariant "first_page_expansion_scoring_count_exceeds_unique")
    validatedReceiptUpdate receipt (expandUpdate receipt decision outcomes merge scoring)

end Receipt

/-- The results of a query. -/
def outcomesOf (key : QueryKey) (outcomes : List SourceFirstPageExpansionResult) :
    List SourceFirstPageExpansionResult :=
  outcomes.filter fun outcome => outcome.key = key

/-- What becomes of a receipt. -/
def applyToReceipt (decisions : List FirstPageExpansionDecision)
    (outcomes : List SourceFirstPageExpansionResult)
    (mergeCounts : List ExpansionQueryMergeCounts) (scoringFailureCounts : Dict QueryKey Nat)
    (receipt : QueryExecutionReceipt) : Except ExpansionFailure QueryExecutionReceipt :=
  match (Dict.keyedBy FirstPageExpansionDecision.key decisions).lookup receipt.key with
  | none => .ok receipt
  | some decision =>
    applyDecision receipt decision (outcomesOf receipt.key outcomes)
      (.keyedBy ExpansionQueryMergeCounts.key mergeCounts) scoringFailureCounts

/-- `apply_first_page_expansion_to_receipts`. -/
def applyFirstPageExpansionToReceipts (receipts : List QueryExecutionReceipt)
    (decisions : List FirstPageExpansionDecision) (outcomes : List SourceFirstPageExpansionResult)
    (mergeCounts : List ExpansionQueryMergeCounts) (scoringFailureCounts : Dict QueryKey Nat) :
    Except ExpansionFailure (List QueryExecutionReceipt) := do
  let receiptKeys := receipts.map QueryExecutionReceipt.key
  let decisionKeys := decisions.map FirstPageExpansionDecision.key
  let mergeKeys := mergeCounts.map ExpansionQueryMergeCounts.key
  require receiptKeys.Nodup (.invariant "duplicate_first_page_receipt")
  require decisionKeys.Nodup (.invariant "duplicate_first_page_expansion_decision")
  require (decisionKeys ⊆ receiptKeys) (.invariant "first_page_decision_missing_receipt")
  require (outcomes.map SourceFirstPageExpansionResult.key ⊆ decisionKeys)
    (.invariant "foreign_first_page_expansion_outcome")
  checkAll (fun decision => do
    let expectedIds := decision.continuations.map ProviderSearchContinuation.continuationId
    let actualIds :=
      (outcomesOf decision.key outcomes).map SourceFirstPageExpansionResult.continuationId
    require (actualIds.Nodup ∧ actualIds.toFinset = expectedIds.toFinset)
      (.invariant "invalid_first_page_expansion_outcomes")) decisions
  require mergeKeys.Nodup (.invariant "duplicate_first_page_merge_counts")
  require (mergeKeys ⊆ receiptKeys) (.invariant "first_page_merge_missing_receipt")
  require (scoringFailureCounts.keys ⊆ receiptKeys)
    (.invariant "first_page_scoring_missing_receipt")
  require (mergeKeys ⊆ decisionKeys ∧ scoringFailureCounts.keys ⊆ decisionKeys)
    (.invariant "first_page_counter_missing_decision")
  receipts.mapM (applyToReceipt decisions outcomes mergeCounts scoringFailureCounts)

end SeekTalent.Rounds
