import SeekTalent.QueryPlanning.QueryIdentity
import SeekTalent.Rounds.FirstPageExpansion

/-!
# Dispatching the queries of a round

`seektalent/runtime/logical_query_dispatch.py`, `source_query_intent.py` and
`source_round_dispatch.py`, and the part of `_execute_multi_source_round_search` of
`orchestrator.py` that calls them.  The queries of a round are checked against the ledger of the
run, handed to an adapter for each source, and what the adapters report becomes one receipt for each
query at each source.  The receipts are appended to the ledger.

The adapters run at the same time, and what each of them returns or raises is whatever it does. 
When several of them raise, the error of the first one in the order of the sources stands for the
one that is raised again.
-/

namespace SeekTalent.Rounds

open Foundation QueryPlanning

variable {source : String}

/-! ## Queries -/

/-- `LaneType`. -/
inductive LaneType
  | exploit
  | genericExplore
  | prfProbe
  deriving DecidableEq, Repr

/-- `QueryRole`. -/
inductive QueryRole
  | exploit
  | explore
  deriving DecidableEq, Repr

/-- `LogicalQueryState`, as far as it is dispatched. -/
structure LogicalQueryState where
  queryRole : QueryRole
  laneType : LaneType
  queryTerms : List String
  keywordQuery : String
  queryInstanceId : String
  queryFingerprint : String
  identity : ResolvedQueryIdentity
  deriving DecidableEq, Repr

/-- `LogicalQueryDispatch`. -/
structure LogicalQueryDispatch where
  roundNo : Int
  queryRole : QueryRole
  laneType : LaneType
  queryInstanceId : String
  queryFingerprint : String
  termGroupKey : String
  primaryAnchorFamilyId : String
  nonAnchorTermFamilyIds : List String
  queryTerms : List String
  keywordQuery : String
  requestedCount : Int
  sourcePlanVersion : String
  deriving DecidableEq, Repr

/-- `RuntimeSourceQueryIntent`: what a source is asked for a query. -/
structure RuntimeSourceQueryIntent extends LogicalQueryDispatch where
  sourceKind : String
  providerScanLimit : Int
  deriving DecidableEq, Repr

/-- What a round raises when a dispatch goes wrong. -/
inductive DispatchFailure
  /-- `ValueError`. -/
  | value (reason : String)
  /-- `RuntimeSourceInvariantError`. -/
  | invariant (reason : String)
  /-- The `ValidationError` of a receipt. -/
  | receipt
  /-- What an adapter raises that is not about its provider. -/
  | adapter (reason : String)
  deriving DecidableEq, Repr

/-- `build_logical_query_dispatches`. -/
def buildLogicalQueryDispatches (roundNo : Int) (queryStates : List LogicalQueryState)
    (laneRequestedCounts : Dict LaneType Int) (sourcePlanVersion : String) :
    Except DispatchFailure (List LogicalQueryDispatch) :=
  queryStates.mapM fun query =>
    match laneRequestedCounts.lookup query.laneType with
    | none => .error (.value "logical_query_dispatch_missing_requested_count")
    | some requestedCount =>
      if requestedCount < 0 then .error (.value "logical_query_dispatch_negative_requested_count")
      else
        .ok
          { roundNo
            queryRole := query.queryRole
            laneType := query.laneType
            queryInstanceId := query.queryInstanceId
            queryFingerprint := query.queryFingerprint
            termGroupKey := query.identity.termGroupKey
            primaryAnchorFamilyId := query.identity.primaryAnchorFamilyId
            nonAnchorTermFamilyIds := query.identity.nonAnchorTermFamilyIds
            queryTerms := query.queryTerms
            keywordQuery := query.keywordQuery
            requestedCount
            sourcePlanVersion }

/-- `RuntimeSourceQueryPolicy`. -/
structure RuntimeSourceQueryPolicy where
  requestedCountCapsByLane : Dict LaneType Int := ∅
  providerScanLimitsByLane : Dict LaneType Int := ∅
  providerScanMultiplier : Int := 1
  providerScanCap : Option Int := none

/-- `RuntimeSourceQueryPolicy.requested_count`. -/
def RuntimeSourceQueryPolicy.requestedCount (policy : RuntimeSourceQueryPolicy)
    (laneType : LaneType) (requestedCount : Int) : Int :=
  match policy.requestedCountCapsByLane.lookup laneType with
  | none => requestedCount
  | some cap => min requestedCount (max 0 cap)

/-- `RuntimeSourceQueryPolicy.provider_scan_limit`. -/
def RuntimeSourceQueryPolicy.providerScanLimit (policy : RuntimeSourceQueryPolicy)
    (laneType : LaneType) (requestedCount : Int) : Int :=
  match policy.providerScanLimitsByLane.lookup laneType with
  | some fixed => fixed
  | none =>
    let scanLimit := max requestedCount (requestedCount * max 1 policy.providerScanMultiplier)
    match policy.providerScanCap with
    | some cap => min scanLimit (max 0 cap)
    | none => scanLimit

/-- `RuntimeSourceQueryIntent.__post_init__`. -/
def RuntimeSourceQueryIntent.postInit (intent : RuntimeSourceQueryIntent) :
    Except DispatchFailure RuntimeSourceQueryIntent :=
  if intent.requestedCount <
    0 then .error (.value "runtime_source_query_intent_negative_requested_count")
  else if intent.providerScanLimit < 0 then
    .error (.value "runtime_source_query_intent_negative_provider_scan_limit")
  else if intent.queryInstanceId = "" then
    .error (.value "runtime_source_query_intent_missing_query_instance_id")
  else if intent.queryFingerprint = "" then
    .error (.value "runtime_source_query_intent_missing_query_fingerprint")
  else if intent.termGroupKey =
    "" then .error (.value "runtime_source_query_intent_missing_term_group_key")
  else if intent.primaryAnchorFamilyId = "" then
    .error (.value "runtime_source_query_intent_missing_primary_anchor_family_id")
  else .ok intent

/-- The intents of one source. -/
def sourceQueryIntents (logicalDispatches : List LogicalQueryDispatch) (sourceKind : String)
    (queryPolicy : RuntimeSourceQueryPolicy) :
    Except DispatchFailure (List RuntimeSourceQueryIntent) :=
  logicalDispatches.mapM fun dispatch =>
    let requestedCount := queryPolicy.requestedCount dispatch.laneType dispatch.requestedCount
    RuntimeSourceQueryIntent.postInit
      { dispatch with
        requestedCount
        sourceKind
        providerScanLimit := queryPolicy.providerScanLimit dispatch.laneType requestedCount }

/-- `build_runtime_source_query_intents`. -/
def buildRuntimeSourceQueryIntents (sourceKinds : List String)
    (logicalDispatches : List LogicalQueryDispatch)
    (sourceQueryPolicy : Dict String RuntimeSourceQueryPolicy) :
    Except DispatchFailure (Dict String (List RuntimeSourceQueryIntent)) :=
  Dict.tabulateM sourceKinds fun sourceKind =>
    sourceQueryIntents logicalDispatches sourceKind ((sourceQueryPolicy.lookup sourceKind).getD {})

/-! ## Adapters -/

/-- `SourceQueryExecutionOutcome`. -/
structure SourceQueryExecutionOutcome where
  queryInstanceId : String
  status : ExecutionStatus
  dispatchStarted : Bool
  rawCandidateCount : Int := 0
  uniqueCandidateCount : Int := 0
  duplicateCandidateCount : Int := 0
  preClickSkippedSeenCount : Int := 0
  exhaustedReason : Option String := none
  safeReasonCode : Option String := none
  deriving DecidableEq, Repr

/-- `ProviderSearchContinuation`, with what says where it comes from. -/
structure DispatchedContinuation extends ProviderSearchContinuation where
  opaqueRef : String
  roundNo : Int
  deriving DecidableEq, Repr

/-- `SourceRoundAdapterResult`, as far as receipts are made of it. -/
structure SourceRoundAdapterResult where
  source : String
  status : ExecutionStatus
  rawCandidateCount : Int := 0
  safeReasonCode : Option String := none
  queryExecutionOutcomes : List SourceQueryExecutionOutcome := []
  candidateQueryAttributions : List RuntimeQueryCandidateAttribution := []
  privateFirstPageContinuations : List DispatchedContinuation := []

/-- How an adapter ends. -/
inductive AdapterEnd
  | returned (result : SourceRoundAdapterResult)
  /-- `SourceProviderBlocked`. -/
  | providerBlocked
  /-- `SourceProviderPartial`. -/
  | providerPartial
  /-- `SourceProviderFailed`. -/
  | providerFailed
  /-- Any other exception. -/
  | raised (failure : DispatchFailure)

/-- `SourceRoundDispatchRequest`. -/
structure SourceRoundDispatchRequest where
  roundNo : Int
  selectedSources : List String
  sourceQueryIntentsBySource : Dict String (List RuntimeSourceQueryIntent)

/-- The adapters of the sources. -/
abbrev SourceAdapters := Dict String (SourceRoundDispatchRequest → AdapterEnd)

/-- `_terminal_outcomes_for_exception`. -/
def terminalOutcomesForException (request : SourceRoundDispatchRequest) (source : String)
    (status : ExecutionStatus) (dispatchStarted : Bool) (safeReasonCode : String) :
    List SourceQueryExecutionOutcome :=
  ((request.sourceQueryIntentsBySource.lookup source).getD []).map fun intent =>
    { queryInstanceId := intent.queryInstanceId
      status
      dispatchStarted
      safeReasonCode := some safeReasonCode }

/-- `_run_adapter_safely`. -/
def runAdapterSafely (source : String) (adapter : SourceRoundDispatchRequest → AdapterEnd)
    (request : SourceRoundDispatchRequest) : Except DispatchFailure SourceRoundAdapterResult :=
  let ended (status : ExecutionStatus) (dispatchStarted : Bool) (safeReasonCode : String) :
      SourceRoundAdapterResult :=
    { source
      status
      safeReasonCode := some safeReasonCode
      queryExecutionOutcomes :=
        terminalOutcomesForException request source status dispatchStarted safeReasonCode }
  match adapter request with
  | .returned result => .ok result
  | .providerBlocked => .ok (ended .blocked false "blocked_backend_unavailable")
  | .providerPartial => .ok (ended .partialResult true "partial_timeout")
  | .providerFailed => .ok (ended .failed true "failed_provider_error")
  | .raised failure => .error failure

/-! ## Receipts -/

/-- `QueryExecutionReceipt`, with what says which query it is for. -/
structure LogicalQueryReceipt extends QueryExecutionReceipt where
  roundNo : Int
  queryFingerprint : String
  termGroupKey : String
  primaryAnchorFamilyId : String
  nonAnchorTermFamilyIds : List String
  queryRole : QueryRole
  laneType : LaneType
  queryTerms : List String
  keywordQuery : String
  sourcePlanVersion : String
  preClickSkippedSeenCount : Nat
  exhaustedReason : Option String
  safeReasonCode : Option String
  deriving DecidableEq, Repr

/-- The receipt of a query at a source; its counts must not be negative. -/
def receiptOf (intent : RuntimeSourceQueryIntent) (outcome : SourceQueryExecutionOutcome) :
    Except DispatchFailure LogicalQueryReceipt :=
  if outcome.rawCandidateCount < 0 ∨ outcome.uniqueCandidateCount < 0 ∨
    outcome.duplicateCandidateCount < 0 ∨
      outcome.preClickSkippedSeenCount < 0 then .error .receipt
  else
    .ok
      { sourceKind := intent.sourceKind
        queryInstanceId := intent.queryInstanceId
        requestedCount := intent.requestedCount
        status := outcome.status
        dispatchStarted := outcome.dispatchStarted
        rawCandidateCount := outcome.rawCandidateCount.toNat
        uniqueCandidateCount := outcome.uniqueCandidateCount.toNat
        duplicateCandidateCount := outcome.duplicateCandidateCount.toNat
        roundNo := intent.roundNo
        queryFingerprint := intent.queryFingerprint
        termGroupKey := intent.termGroupKey
        primaryAnchorFamilyId := intent.primaryAnchorFamilyId
        nonAnchorTermFamilyIds := intent.nonAnchorTermFamilyIds
        queryRole := intent.queryRole
        laneType := intent.laneType
        queryTerms := intent.queryTerms
        keywordQuery := intent.keywordQuery
        sourcePlanVersion := intent.sourcePlanVersion
        preClickSkippedSeenCount := outcome.preClickSkippedSeenCount.toNat
        exhaustedReason := outcome.exhaustedReason
        safeReasonCode := outcome.safeReasonCode }

/-- The intents of a source must be for different queries. -/
def checkIntents (source : String) (seen : List String) : List RuntimeSourceQueryIntent →
    Except DispatchFailure Unit
  | [] => .ok ()
  | intent :: rest =>
    if intent.queryInstanceId ∈ seen then
      .error (.invariant
        ("duplicate_source_query_intent:" ++ source ++ ":" ++ intent.queryInstanceId))
    else checkIntents source (intent.queryInstanceId :: seen) rest

/-- The outcomes of a source must be for different queries that it was asked. -/
def checkOutcomes (source : String) (asked seen : List String) :
    List SourceQueryExecutionOutcome → Except DispatchFailure Unit
  | [] => .ok ()
  | outcome :: rest =>
    if outcome.queryInstanceId ∈ seen then
      .error (.invariant
        ("duplicate_source_query_outcome:" ++ source ++ ":" ++ outcome.queryInstanceId))
    else if outcome.queryInstanceId ∉ asked then
      .error (.invariant
        ("unmatched_source_query_outcome:" ++ source ++ ":" ++ outcome.queryInstanceId))
    else checkOutcomes source asked (outcome.queryInstanceId :: seen) rest

/-- `_receipts_for_source_result`. -/
def receiptsForSourceResult (request : SourceRoundDispatchRequest) (source : String)
    (result : SourceRoundAdapterResult) : Except DispatchFailure (List LogicalQueryReceipt) :=
  if request.sourceQueryIntentsBySource.keys = [] then .ok []
  else
    match request.sourceQueryIntentsBySource.lookup source with
    | none => .error (.invariant source)
    | some intents => do
      checkIntents source [] intents
      checkOutcomes source (intents.map fun intent => intent.queryInstanceId) []
        result.queryExecutionOutcomes
      intents.mapM fun intent =>
        match result.queryExecutionOutcomes.find? fun outcome =>
          outcome.queryInstanceId = intent.queryInstanceId with
        | none =>
          .error (.invariant
            ("missing_source_query_outcome:" ++ source ++ ":" ++ intent.queryInstanceId))
        | some outcome => receiptOf intent outcome

/-- `_validate_source_query_intents`. -/
def validateSourceQueryIntents (request : SourceRoundDispatchRequest) :
    Except DispatchFailure Unit :=
  if request.sourceQueryIntentsBySource.keys = [] then .ok ()
  else
    checkAll (fun source =>
      match request.sourceQueryIntentsBySource.lookup source with
      | none => .error (.invariant ("missing_source_query_intents:" ++ source))
      | some intents =>
        checkAll (fun intent => do
          require (intent.sourceKind = source)
            (.invariant ("source_query_intent_wrong_source:" ++ source))
          require (intent.roundNo = request.roundNo)
            (.invariant ("source_query_intent_wrong_round:" ++ source)))
          intents) request.selectedSources

/-- The continuations of the sources, each paired with its source, must be for receipts of the round
and all different. -/
def checkContinuations (roundNo : Int) (receiptKeys : List QueryKey)
    (seenIds seenRefs : List String) :
    List (String × DispatchedContinuation) → Except DispatchFailure Unit
  | [] => .ok ()
  | (source, continuation) :: rest =>
    if continuation.sourceKind ≠
      source then .error (.invariant "first_page_continuation_wrong_source")
    else if continuation.roundNo ≠
      roundNo then .error (.invariant "first_page_continuation_wrong_round")
    else if continuation.continuationId ∈ seenIds ∨ continuation.opaqueRef ∈ seenRefs then
      .error (.invariant "duplicate_first_page_continuation")
    else if continuation.key ∉ receiptKeys then .error
      (.invariant "first_page_continuation_missing_receipt")
    else
      checkContinuations roundNo receiptKeys (continuation.continuationId :: seenIds)
        (continuation.opaqueRef :: seenRefs) rest

/-- `SourceRoundDispatchResult`. -/
structure SourceRoundDispatchResult where
  sourceResults : List SourceRoundAdapterResult
  rawCandidateCount : Int
  queryExecutionReceipts : List LogicalQueryReceipt
  candidateQueryAttributions : List RuntimeQueryCandidateAttribution
  privateFirstPageContinuations : List DispatchedContinuation

/-- What one source returns, checked to be for it. -/
def sourceReceipts (request : SourceRoundDispatchRequest) (source : String)
    (result : SourceRoundAdapterResult) : Except DispatchFailure (List LogicalQueryReceipt) :=
  if result.source ≠ source then .error (.invariant ("source_round_result_wrong_source:" ++ source))
  else receiptsForSourceResult request source result

/-- The adapter of a source, run on the request. -/
def runSource (adapters : SourceAdapters) (request : SourceRoundDispatchRequest) (source : String) :
    Except DispatchFailure SourceRoundAdapterResult :=
  match adapters.lookup source with
  | none => .error (.invariant ("unsupported_source_kind:" ++ source))
  | some adapter => runAdapterSafely source adapter request

/-- `dispatch_source_rounds`. -/
def dispatchSourceRounds (request : SourceRoundDispatchRequest) (adapters : SourceAdapters) :
    Except DispatchFailure SourceRoundDispatchResult := do
  validateSourceQueryIntents request
  let sourceResults ← request.selectedSources.mapM (runSource adapters request)
  let receipts ← (request.selectedSources.zip sourceResults).mapM fun entry =>
    sourceReceipts request entry.1 entry.2
  checkContinuations request.roundNo (receipts.flatten.map fun receipt => receipt.key) [] []
    (sourceResults.flatMap fun result =>
      result.privateFirstPageContinuations.map fun continuation => (result.source, continuation))
  .ok
    { sourceResults
      rawCandidateCount := (sourceResults.map SourceRoundAdapterResult.rawCandidateCount).sum
      queryExecutionReceipts := receipts.flatten
      candidateQueryAttributions :=
        sourceResults.flatMap SourceRoundAdapterResult.candidateQueryAttributions
      privateFirstPageContinuations :=
        sourceResults.flatMap SourceRoundAdapterResult.privateFirstPageContinuations }

/-! ## The ledger of a run -/

/-- `used_term_group_keys`. -/
def usedTermGroupKeys (receipts : List LogicalQueryReceipt) : List String :=
  (receipts.filter fun receipt => receipt.dispatchStarted).map LogicalQueryReceipt.termGroupKey

/-- `consumed_non_anchor_term_family_ids`. -/
def consumedNonAnchorTermFamilyIds (receipts : List LogicalQueryReceipt) : List String :=
  (receipts.filter fun receipt => receipt.dispatchStarted).flatMap
    LogicalQueryReceipt.nonAnchorTermFamilyIds

/-- A round that is to be dispatched. -/
structure RoundSearch where
  roundNo : Int
  queryStates : List LogicalQueryState
  laneRequestedCounts : Dict LaneType Int
  sourcePlanVersion : String
  selectedSources : List String
  sourceQueryPolicy : Dict String RuntimeSourceQueryPolicy
  sourceAdapters : SourceAdapters

/-- `_execute_multi_source_round_search`, as far as it dispatches. -/
def dispatchRound (queryExecutionLedger : List LogicalQueryReceipt) (search : RoundSearch) :
    Except DispatchFailure SourceRoundDispatchResult := do
  (assertNovelQueryIdentities (search.queryStates.map LogicalQueryState.identity)
    (usedTermGroupKeys queryExecutionLedger)
    (consumedNonAnchorTermFamilyIds queryExecutionLedger)).mapError .value
  let logicalQueries ← buildLogicalQueryDispatches search.roundNo search.queryStates
    search.laneRequestedCounts search.sourcePlanVersion
  let intents ← buildRuntimeSourceQueryIntents search.selectedSources logicalQueries
    search.sourceQueryPolicy
  dispatchSourceRounds ⟨search.roundNo, search.selectedSources, intents⟩ search.sourceAdapters

/-- A round extends the ledger by its receipts. -/
def extendLedger (queryExecutionLedger : List LogicalQueryReceipt) (search : RoundSearch) :
    Except DispatchFailure (List LogicalQueryReceipt) :=
  (dispatchRound queryExecutionLedger search).map fun result =>
    queryExecutionLedger ++ result.queryExecutionReceipts

/-- The ledger after the rounds of a run. -/
def runLedger (searches : List RoundSearch) : Except DispatchFailure (List LogicalQueryReceipt) :=
  searches.foldlM extendLedger []

/-! ## One receipt for each query at each source -/

/-- What a receipt says about the query it is for. -/
structure QueryTag where
  roundNo : Int
  queryInstanceId : String
  termGroupKey : String
  nonAnchorTermFamilyIds : List String
  deriving DecidableEq, Repr

/-- A query of a round. -/
def LogicalQueryState.tag (roundNo : Int) (query : LogicalQueryState) : QueryTag :=
  ⟨roundNo, query.queryInstanceId, query.identity.termGroupKey,
    query.identity.nonAnchorTermFamilyIds⟩

/-- The query that is dispatched. -/
def LogicalQueryDispatch.tag (dispatch : LogicalQueryDispatch) : QueryTag :=
  ⟨dispatch.roundNo, dispatch.queryInstanceId, dispatch.termGroupKey,
    dispatch.nonAnchorTermFamilyIds⟩

/-- The query that a receipt is for. -/
def LogicalQueryReceipt.tag (receipt : LogicalQueryReceipt) : QueryTag :=
  ⟨receipt.roundNo, receipt.queryInstanceId, receipt.termGroupKey, receipt.nonAnchorTermFamilyIds⟩

lemma tags_of_dispatches {roundNo : Int} {queryStates : List LogicalQueryState}
    {counts : Dict LaneType Int} {version : String} {dispatches : List LogicalQueryDispatch}
    (h : buildLogicalQueryDispatches roundNo queryStates counts version = .ok dispatches) :
    dispatches.map LogicalQueryDispatch.tag = queryStates.map (LogicalQueryState.tag roundNo) := by
  refine map_eq_of_mapM h fun query _ dispatch hdispatch => ?_
  split at hdispatch
  · cases hdispatch
  · split at hdispatch
    · cases hdispatch
    · cases hdispatch
      rfl

lemma postInit_eq_ok {intent valid : RuntimeSourceQueryIntent} (h : intent.postInit = .ok valid) :
    valid = intent := by
  unfold RuntimeSourceQueryIntent.postInit at h
  split_ifs at h
  exact (Except.ok.inj h).symm

variable {intents : List RuntimeSourceQueryIntent}

lemma tags_of_intents {dispatches : List LogicalQueryDispatch} {policy : RuntimeSourceQueryPolicy}
    (h : sourceQueryIntents dispatches source policy = .ok intents) :
    (intents.map fun intent => (intent.sourceKind, intent.toLogicalQueryDispatch.tag)) =
      dispatches.map fun dispatch => (source, dispatch.tag) :=
  map_eq_of_mapM h fun dispatch _ intent hintent => by rw [postInit_eq_ok hintent]; rfl

variable {receipt : LogicalQueryReceipt}

lemma receiptOf_eq_ok {intent : RuntimeSourceQueryIntent} {outcome : SourceQueryExecutionOutcome}
    (h : receiptOf intent outcome = .ok receipt) :
    (receipt.sourceKind, receipt.tag) = (intent.sourceKind, intent.toLogicalQueryDispatch.tag) ∧
      receipt.dispatchStarted = outcome.dispatchStarted := by
  unfold receiptOf at h
  split_ifs at h
  cases h
  exact ⟨rfl, rfl⟩

lemma checkIntents_eq_ok {seen : List String} :
    checkIntents source seen intents = .ok () ↔
      (intents.map fun intent => intent.queryInstanceId).Nodup ∧ ∀ intent ∈ intents,
        intent.queryInstanceId ∉ seen := by
  induction intents generalizing seen with
  | nil => simp [checkIntents]
  | cons intent rest ih =>
    unfold checkIntents
    by_cases hseen : intent.queryInstanceId ∈ seen
    · rw [if_pos hseen]
      constructor
      · intro herror
        cases herror
      · rintro ⟨-, hall⟩
        exact absurd hseen (hall intent List.mem_cons_self)
    · rw [if_neg hseen, ih, List.map_cons, List.nodup_cons, List.forall_mem_cons, List.mem_map]
      simp only [List.mem_cons, not_or, not_exists, not_and]
      constructor
      · rintro ⟨hnodup, hall⟩
        exact ⟨⟨fun other hother => (hall other hother).1, hnodup⟩, hseen, fun other hother =>
          (hall other hother).2⟩
      · rintro ⟨⟨hnew, hnodup⟩, -, hall⟩
        exact ⟨hnodup, fun other hother => ⟨hnew other hother, hall other hother⟩⟩

/-- The receipts of a source are those of its intents. -/
lemma receiptsForSourceResult_eq_ok {request : SourceRoundDispatchRequest}
    {result : SourceRoundAdapterResult}
    (hintents : request.sourceQueryIntentsBySource.lookup source = some intents)
    {receipts : List LogicalQueryReceipt}
    (h : receiptsForSourceResult request source result = .ok receipts) :
    (receipts.map fun receipt => (receipt.sourceKind, receipt.tag)) =
        (intents.map fun intent => (intent.sourceKind, intent.toLogicalQueryDispatch.tag)) ∧
      (intents.map fun intent => intent.queryInstanceId).Nodup := by
  have hsome : request.sourceQueryIntentsBySource.keys ≠ [] := List.ne_nil_of_mem
    (AList.lookup_isSome.mp (Option.isSome_of_eq_some hintents))
  unfold receiptsForSourceResult at h
  rw [if_neg hsome, hintents] at h
  simp only [bind_eq_ok] at h
  obtain ⟨_, hchecked, _, -, hreceipts⟩ := h
  refine ⟨map_eq_of_mapM hreceipts fun intent _ receipt hreceipt => ?_,
    (checkIntents_eq_ok.mp hchecked).1⟩
  split at hreceipt
  · cases hreceipt
  · exact (receiptOf_eq_ok hreceipt).1

/-- What one source of a round reports. -/
lemma sourceReceipts_eq_ok {request : SourceRoundDispatchRequest}
    {result : SourceRoundAdapterResult} {receipts : List LogicalQueryReceipt}
    (h : sourceReceipts request source result = .ok receipts) :
    result.source = source ∧ receiptsForSourceResult request source result = .ok receipts := by
  unfold sourceReceipts at h
  split at h
  · cases h
  · rename_i hsource
    exact ⟨not_not.mp hsource, h⟩

variable {ledger : List LogicalQueryReceipt} {search : RoundSearch}

variable {result : SourceRoundDispatchResult}

/-- A dispatched round has one receipt for each query at each source, in the order of the sources
and, for each of them, of the queries; and the queries are different. -/
lemma dispatchRound_tags
    (h : dispatchRound ledger search = .ok result) :
    (result.queryExecutionReceipts.map fun receipt => (receipt.sourceKind, receipt.tag)) =
        (search.selectedSources.flatMap fun source =>
          search.queryStates.map fun query => (source, query.tag search.roundNo)) ∧
      (search.selectedSources ≠ [] →
        (search.queryStates.map LogicalQueryState.queryInstanceId).Nodup) := by
  unfold dispatchRound at h
  simp only [bind_eq_ok] at h
  obtain ⟨_, -, dispatches, hdispatches, intents, hintents, hresult⟩ := h
  unfold dispatchSourceRounds at hresult
  simp only [bind_eq_ok] at hresult
  obtain ⟨_, -, sourceResults, hresults, receipts, hreceipts, _, -, hresult⟩ := hresult
  cases hresult
  have hlookup : ∀ source ∈ search.selectedSources, ∃ asked, intents.lookup source = some asked ∧
      (asked.map fun intent => (intent.sourceKind, intent.toLogicalQueryDispatch.tag)) =
        search.queryStates.map fun query =>
          (source, query.tag search.roundNo) := fun source hsource => by
    obtain ⟨asked, hasked, hfound⟩ := (Dict.lookup_of_tabulateM hintents source).1 hsource
    refine ⟨asked, hfound, (tags_of_intents hasked).trans ?_⟩
    have htags := congrArg (List.map (Prod.mk source)) (tags_of_dispatches hdispatches)
    rw [List.map_map, List.map_map] at htags
    exact htags
  have hlength : search.selectedSources.length ≤ sourceResults.length :=
    ((mapM_eq_ok.mp hresults).length_eq).le
  constructor
  · have hone : receipts.map (List.map fun receipt => (receipt.sourceKind, receipt.tag)) =
        (search.selectedSources.zip sourceResults).map fun entry =>
          search.queryStates.map fun query => (entry.1, query.tag search.roundNo) := by
      refine map_eq_of_mapM hreceipts fun entry hentry own hown => ?_
      obtain ⟨asked, hfound, htags⟩ := hlookup entry.1 (List.of_mem_zip hentry).1
      exact (receiptsForSourceResult_eq_ok hfound (sourceReceipts_eq_ok hown).2).1.trans htags
    have hsources : ((search.selectedSources.zip sourceResults).map fun entry =>
        search.queryStates.map fun query => (entry.1, query.tag search.roundNo)) =
          search.selectedSources.map fun source =>
            search.queryStates.map fun query => (source, query.tag search.roundNo) := by
      conv_rhs => rw [← List.map_fst_zip hlength, List.map_map]
      rfl
    rw [List.map_flatten, hone, hsources]
    rfl
  · intro hsome
    obtain ⟨source, rest, hsources⟩ := List.exists_cons_of_ne_nil hsome
    have hmem : source ∈ search.selectedSources := by rw [hsources]; exact List.mem_cons_self
    obtain ⟨asked, hfound, htags⟩ := hlookup source hmem
    obtain ⟨own, hown⟩ : ∃ own, (source, own) ∈ search.selectedSources.zip sourceResults := by
      rw [hsources] at hlength ⊢
      obtain ⟨own, others, rfl⟩ :=
        List.exists_cons_of_length_pos (Nat.lt_of_lt_of_le (Nat.succ_pos _) hlength)
      exact ⟨own, List.mem_cons_self⟩
    obtain ⟨reported, -, hreported⟩ := mapM_ok_of_mem hreceipts hown
    have hnodup := (receiptsForSourceResult_eq_ok hfound (sourceReceipts_eq_ok hreported).2).2
    have hids := congrArg (List.map fun entry : String × QueryTag => entry.2.queryInstanceId) htags
    rw [List.map_map, List.map_map] at hids
    rw [show search.queryStates.map LogicalQueryState.queryInstanceId =
      asked.map (fun intent => intent.queryInstanceId) from hids.symm]
    exact hnodup

/-! ## No query is executed twice -/

/-- Two receipts are for queries that must not both be executed: one term group, or a family in
common. -/
def LogicalQueryReceipt.Collides (receipt other : LogicalQueryReceipt) : Prop :=
  receipt.termGroupKey = other.termGroupKey ∨
    ∃ family ∈ receipt.nonAnchorTermFamilyIds, family ∈ other.nonAnchorTermFamilyIds

lemma LogicalQueryReceipt.Collides.symm {other : LogicalQueryReceipt} (h : receipt.Collides other) :
    other.Collides receipt := by
  rcases h with hkey | ⟨family, hmem, hother⟩
  · exact .inl hkey.symm
  · exact .inr ⟨family, hother, hmem⟩

/-- Executed queries that collide are one query of one round. -/
def LedgerNovel (ledger : List LogicalQueryReceipt) : Prop :=
  ∀ receipt ∈ ledger, ∀ other ∈ ledger, receipt.dispatchStarted = true →
    other.dispatchStarted = true → receipt.Collides other → receipt.roundNo = other.roundNo ∧
      receipt.queryInstanceId = other.queryInstanceId

lemma mem_usedTermGroupKeys (h : receipt ∈ ledger) (hstarted : receipt.dispatchStarted = true) :
    receipt.termGroupKey ∈ usedTermGroupKeys ledger :=
  List.mem_map_of_mem (List.mem_filter.mpr ⟨h, hstarted⟩)

lemma mem_consumedNonAnchorTermFamilyIds
    (h : receipt ∈ ledger) (hstarted : receipt.dispatchStarted = true) {family : String}
    (hfamily : family ∈ receipt.nonAnchorTermFamilyIds) :
    family ∈ consumedNonAnchorTermFamilyIds ledger :=
  List.mem_flatMap.mpr ⟨receipt, List.mem_filter.mpr ⟨h, hstarted⟩, hfamily⟩

/-- The queries of a round that is dispatched are new, and apart from each other. -/
lemma dispatchRound_novel
    (h : dispatchRound ledger search = .ok result) :
    (search.queryStates.map fun query => query.identity.termGroupKey).Nodup ∧
    (∀ query ∈ search.queryStates, query.identity.termGroupKey ∉ usedTermGroupKeys ledger) ∧
    search.queryStates.Pairwise (fun query other => query.identity.Apart other.identity) ∧
    ∀ query ∈ search.queryStates, ∀ family ∈ query.identity.nonAnchorTermFamilyIds,
      family ∉ consumedNonAnchorTermFamilyIds ledger := by
  unfold dispatchRound at h
  obtain ⟨_, hnovel, -⟩ := bind_eq_ok.mp h
  obtain ⟨_, hkeys, hfamilies⟩ := bind_eq_ok.mp (mapError_eq_ok.mp hnovel)
  obtain ⟨hnodup, hunused⟩ := assertNovelTermGroupKeys_eq_ok.mp hkeys
  obtain ⟨hapart, hfresh⟩ := assertNovelFamilies_eq_ok.mp hfamilies
  rw [List.map_map] at hnodup hunused
  exact ⟨hnodup, fun query hquery => (hunused _ (List.mem_map_of_mem hquery)).2,
    List.pairwise_map.mp hapart, fun query hquery => hfresh _ (List.mem_map_of_mem hquery)⟩

/-- A receipt of a dispatched round is for one of its queries. -/
lemma exists_query_of_receipt
    (h : dispatchRound ledger search = .ok result)
    (hmem : receipt ∈ result.queryExecutionReceipts) :
    ∃ query ∈ search.queryStates, receipt.tag = query.tag search.roundNo := by
  have htagged : (receipt.sourceKind, receipt.tag) ∈ search.selectedSources.flatMap fun source =>
      search.queryStates.map fun query => (source, query.tag search.roundNo) := by
    rw [← (dispatchRound_tags h).1]
    exact List.mem_map_of_mem hmem
  obtain ⟨source, -, hquery⟩ := List.mem_flatMap.mp htagged
  obtain ⟨query, hquery, heq⟩ := List.mem_map.mp hquery
  exact ⟨query, hquery, (Prod.mk.inj heq).2.symm⟩

/-- A round that is dispatched adds no query that was executed. -/
lemma LedgerNovel.extend {extended : List LogicalQueryReceipt}
    (hledger : LedgerNovel ledger) (h : extendLedger ledger search = .ok extended) :
    LedgerNovel extended := by
  obtain ⟨result, hresult, rfl⟩ := map_eq_ok.mp h
  obtain ⟨hnodup, hunused, hapart, hfresh⟩ := dispatchRound_novel hresult
  have hnew : ∀ receipt ∈ result.queryExecutionReceipts, ∀ other ∈ ledger,
    other.dispatchStarted = true →
      ¬receipt.Collides other := fun receipt hreceipt other hother hstarted hcollides => by
    obtain ⟨query, hquery, htag⟩ := exists_query_of_receipt hresult hreceipt
    rcases hcollides with hkey | ⟨family, hfamily, hconsumed⟩
    · refine hunused query hquery ?_
      rw [show query.identity.termGroupKey =
        receipt.termGroupKey from (congrArg QueryTag.termGroupKey htag).symm, hkey]
      exact mem_usedTermGroupKeys hother hstarted
    · refine hfresh query hquery family ?_
        (mem_consumedNonAnchorTermFamilyIds hother hstarted hconsumed)
      rw [show query.identity.nonAnchorTermFamilyIds = receipt.nonAnchorTermFamilyIds from
        (congrArg QueryTag.nonAnchorTermFamilyIds htag).symm]
      exact hfamily
  intro receipt hreceipt other hother hstarted hstarted' hcollides
  rcases List.mem_append.mp hreceipt with hold | hadded
  · rcases List.mem_append.mp hother with hold' | hadded'
    · exact hledger receipt hold other hold' hstarted hstarted' hcollides
    · exact absurd hcollides.symm (hnew other hadded' receipt hold hstarted)
  · rcases List.mem_append.mp hother with hold' | hadded'
    · exact absurd hcollides (hnew receipt hadded other hold' hstarted')
    · obtain ⟨query, hquery, htag⟩ := exists_query_of_receipt hresult hadded
      obtain ⟨query', hquery', htag'⟩ := exists_query_of_receipt hresult hadded'
      have hsame : query = query' := by
        rcases hcollides with hkey | ⟨family, hfamily, hfamily'⟩
        · refine List.inj_on_of_nodup_map hnodup hquery hquery' ?_
          exact ((congrArg QueryTag.termGroupKey htag).symm.trans hkey).trans
            (congrArg QueryTag.termGroupKey htag')
        · by_contra hne
          have hsymm : Std.Symm fun query other : LogicalQueryState =>
            query.identity.Apart other.identity :=
            ⟨fun _ _ => ResolvedQueryIdentity.Apart.symm⟩
          refine hapart.forall hquery hquery' hne family ?_ ?_
          · rw [show query.identity.nonAnchorTermFamilyIds = receipt.nonAnchorTermFamilyIds from
              (congrArg QueryTag.nonAnchorTermFamilyIds htag).symm]
            exact hfamily
          · rw [show query'.identity.nonAnchorTermFamilyIds = other.nonAnchorTermFamilyIds from
              (congrArg QueryTag.nonAnchorTermFamilyIds htag').symm]
            exact hfamily'
      have htags : receipt.tag = other.tag := by rw [htag, htag', hsame]
      exact ⟨congrArg QueryTag.roundNo htags, congrArg QueryTag.queryInstanceId htags⟩

/-- **No query is executed twice.**  Whatever the adapters do, and however many rounds a run has: if
two receipts of its ledger say that a query was executed, and the queries have one term group or a
family in common besides the anchor's, then it is one query of one round, at two sources or at
one. -/
theorem runLedger_novel (searches : List RoundSearch) (ledger : List LogicalQueryReceipt)
    (h : runLedger searches = .ok ledger) : LedgerNovel ledger :=
  foldlM_preserves (fun _ _ _ hledger hstep => hledger.extend hstep)
    (fun _ hmem => absurd hmem List.not_mem_nil) h

/-- An adapter that answers every query with one resume. -/
def eagerAdapter (source : String) (request : SourceRoundDispatchRequest) : AdapterEnd :=
  .returned
    { source
      status := .completed
      queryExecutionOutcomes :=
        ((request.sourceQueryIntentsBySource.lookup source).getD []).map fun intent =>
        { queryInstanceId := intent.queryInstanceId
          status := .completed
          dispatchStarted := true
          rawCandidateCount := 1 } }

/-- A query for one tool. -/
def toolQuery (laneType : LaneType) (tool : String) : LogicalQueryState where
  queryRole := .exploit
  laneType
  queryTerms := ["Backend Engineer", tool]
  keywordQuery := "\"Backend Engineer\" " ++ tool
  queryInstanceId := "instance-" ++ tool
  queryFingerprint := "fingerprint-" ++ tool
  identity := ⟨"group-" ++ tool, "role.backendengineer", ["framework." ++ tool]⟩

/-- A round at two sources, one of which is blocked. -/
def toolRound (roundNo : Int) (tools : List (LaneType × String)) : RoundSearch where
  roundNo
  queryStates := tools.map fun tool => toolQuery tool.1 tool.2
  laneRequestedCounts := Dict.tabulate [.exploit, .genericExplore] fun _ => 5
  sourcePlanVersion := "1"
  selectedSources := ["cts", "liepin"]
  sourceQueryPolicy := ∅
  sourceAdapters :=
    (AList.singleton "liepin" fun _ => .providerBlocked).insert "cts" (eagerAdapter "cts")

/-- Two rounds, the second with a tool that was executed in the first: it is not dispatched
again. -/
theorem runLedger_novel_tools :
    (∃ ledger, runLedger [toolRound 1 [(.exploit, "go")],
      toolRound 2 [(.exploit, "java"), (.genericExplore, "rust")]] =
        .ok ledger ∧ ledger.length = 6 ∧ LedgerNovel ledger) ∧
      runLedger [toolRound 1 [(.exploit, "go")], toolRound 2 [(.exploit, "go")]] =
        .error (.value "term_group_already_executed") := by
  have hlength : (runLedger [toolRound 1 [(.exploit, "go")],
      toolRound 2 [(.exploit, "java"), (.genericExplore, "rust")]]).map List.length =
        .ok 6 := by decide +kernel
  obtain ⟨ledger, hledger, hsix⟩ := map_eq_ok.mp hlength
  exact ⟨⟨ledger, hledger, hsix, runLedger_novel _ ledger hledger⟩, by decide +kernel⟩

/-- **Every query is reported exactly once by every source.**  A round that is dispatched adds to
the ledger, in this order, the receipts of all queries at the first source, then those at the
second, and so on; so no outcome is lost, and none is counted twice. -/
theorem extendLedger_covers (ledger extended : List LogicalQueryReceipt) (search : RoundSearch)
    (h : extendLedger ledger search = .ok extended) :
    ∃ receipts, extended = ledger ++ receipts ∧
      (receipts.map fun receipt => (receipt.sourceKind, receipt.tag)) =
        (search.selectedSources.flatMap fun source =>
          search.queryStates.map fun query => (source, query.tag search.roundNo)) ∧
      (search.selectedSources.Nodup → (receipts.map fun receipt => receipt.key).Nodup) := by
  obtain ⟨result, hresult, rfl⟩ := map_eq_ok.mp h
  obtain ⟨htags, hqueries⟩ := dispatchRound_tags hresult
  refine ⟨result.queryExecutionReceipts, rfl, htags, fun hsources => ?_⟩
  have hkeys :=
    congrArg (List.map fun entry : String × QueryTag => (entry.1, entry.2.queryInstanceId)) htags
  rw [List.map_map, List.map_flatMap] at hkeys
  refine (congrArg List.Nodup hkeys).mpr ?_
  refine List.nodup_flatMap.mpr ⟨fun source hsource => ?_, ?_⟩
  · rw [List.map_map]
    have hnodup := (hqueries (List.ne_nil_of_mem hsource)).map (Prod.mk_right_injective source)
    rw [List.map_map] at hnodup
    exact hnodup
  · refine hsources.imp fun hne => ?_
    rw [Function.onFun, List.disjoint_left]
    intro key hkey hkey'
    rw [List.map_map] at hkey hkey'
    obtain ⟨query, -, rfl⟩ := List.mem_map.mp hkey
    obtain ⟨query', -, heq⟩ := List.mem_map.mp hkey'
    exact hne (Prod.mk.inj heq).1.symm

/-- Two queries at two sources: four receipts, for four different pairs. -/
theorem extendLedger_covers_tools :
    ∃ receipts, extendLedger [] (toolRound 1 [(.exploit, "go"), (.genericExplore, "rust")]) =
      .ok receipts ∧ receipts.length = 4 ∧ (receipts.map fun receipt => receipt.key).Nodup := by
  have hlength : (extendLedger [] (toolRound 1 [(.exploit, "go"), (.genericExplore, "rust")])).map
    List.length =
      .ok 4 := by decide +kernel
  obtain ⟨extended, hextended, hfour⟩ := map_eq_ok.mp hlength
  obtain ⟨receipts, heq, -, hkeys⟩ := extendLedger_covers [] extended _ hextended
  rw [List.nil_append] at heq
  rw [heq] at hextended hfour
  exact ⟨receipts, hextended, hfour, hkeys (by decide)⟩

end SeekTalent.Rounds
