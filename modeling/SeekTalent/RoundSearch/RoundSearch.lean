import SeekTalent.QueryPlanning.LocationPlans
import SeekTalent.RoundSearch.SearchTool

/-!
# The search of a round

`execute_round_search` and `execute_logical_dispatch_search` of
`seektalent/runtime/retrieval_runtime.py`. Every lane of a round (one query each) is first searched
for its own share, city by city where the plan has cities, and then the lanes are refilled in turn
until the target is met or a whole pass brings nothing.

The provider and the scoring of a dispatch are arbitrary, with a state of their own.  The two loops
that are bounded by nothing in the source, the refill and the balanced search of the cities, run
under a bound here, and end in `outOfFuel` where it is too small; `RoundSearch.SearchProgress` shows
that it never is.
-/

namespace SeekTalent.RoundSearch

open Foundation QueryPlanning
open Rounds (LaneType QueryRole LogicalQueryDispatch)

/-! ## Data -/

/-- `CityExecutionState`. -/
structure CityExecutionState where
  nextPage : Int := 1
  exhausted : Bool := false
  deriving DecidableEq, Repr

/-- `LogicalQueryState`, as far as a search reads and sets it. -/
structure LaneState where
  laneType : LaneType
  queryInstanceId : String
  queryFingerprint : String
  nextPage : Int := 1
  exhausted : Bool := false
  cityStates : Dict String CityExecutionState := ∅

/-- `SentQueryRecord`, as far as a search sets it. -/
structure SentQueryRecord where
  laneType : LaneType
  queryInstanceId : String
  queryFingerprint : String
  city : Option String
  phase : Option LocationExecutionPhase
  batchNo : Nat
  requestedCount : Int
  deriving DecidableEq, Repr

/-- `CitySearchSummary`. -/
structure CitySearchSummary where
  city : String
  phase : LocationExecutionPhase
  batchNo : Nat
  requestedCount : Int
  uniqueNewCount : Nat
  shortageCount : Int
  startPage : Int
  nextPage : Int
  fetchAttemptCount : Nat
  exhaustedReason : ExhaustedReason
  deriving DecidableEq, Repr

/-- The labels of `QueryOutcomeClassification`. -/
inductive OutcomeLabel
  | zeroRecall
  | duplicateOnly
  | broadNoise
  | driftSuspected
  | marginalGain
  | lowRecallHighPrecision
  deriving DecidableEq, Repr

/-- The labels of a dispatch, where it was classified. -/
abbrev DispatchOutcome :=
  Option (List OutcomeLabel)

/-- `allow_lane_refill` -/
def allowLaneRefill (laneType : LaneType) (outcome : DispatchOutcome) : Bool :=
  match laneType, outcome with
  | .exploit, _ => true
  | _, none => true
  | _, some labels =>
    [OutcomeLabel.zeroRecall, .duplicateOnly, .broadNoise, .driftSuspected].all (· ∉ labels)

/-- What a search is run with: the settings, the plan of the cities, the provider, and
`register_dispatch_outcome` (the scoring of the new resumes of a dispatch and its
classification). -/
structure SearchRuntime (σ : Type) where
  settings : SearchSettings
  plan : LocationExecutionPlan
  provider : Provider σ
  registerDispatchOutcome : σ → LaneType → List ResumeCandidate → Nat →
    Except String (DispatchOutcome × σ)

/-- What was seen before: `global_seen_resume_ids` and `global_seen_dedup_keys`. -/
structure SeenSets where
  resumeIds : List String
  dedupKeys : List String
  deriving DecidableEq, Repr

/-- What `collect_candidates_for_query` works on: the lane, what it shares with the round, and its
own results. -/
structure Collection (σ : Type) where
  world : σ
  lane : LaneState
  batchNo : Nat
  latestDispatchOutcomes : LaneType → DispatchOutcome
  sentQueryRecords : List SentQueryRecord
  newCandidates : List ResumeCandidate := []
  searchAttempts : List SearchAttempt := []
  citySummaries : List CitySearchSummary := []
  rawCandidateCount : Nat := 0
  latestDispatchOutcome : DispatchOutcome := none

variable {σ : Type}

/-! ## Dispatches -/

/-- The call of the tool for a lane, a page and a city. -/
def toolCall (seen : SeenSets) (c : Collection σ) (phase : Option LocationExecutionPhase)
    (city : Option String) (page requestedCount : Int) : ToolCall :=
  { query :=
      { laneType := c.lane.laneType
        queryInstanceId := c.lane.queryInstanceId
        queryFingerprint := c.lane.queryFingerprint
        city := city
        page := page
        pageSize := requestedCount }
    targetNew := requestedCount
    phase := phase
    batchNo := c.batchNo
    seenResumeIds := seen.resumeIds
    seenDedupKeys := seen.dedupKeys }

/-- The page behind the last one that was asked for. -/
def nextPageAfter (page : Int) (run : ToolRun σ) : Int :=
  match run.attempts.getLast? with
  | some attempt => attempt.query.page + 1
  | none => page

/-- The results of a search are added, and the outcome of the dispatch is registered. -/
def registerDispatch (rt : SearchRuntime σ) (c : Collection σ)
    (phase : Option LocationExecutionPhase)
    (city : Option String) (requestedCount : Int) (run : ToolRun σ) :
    Except SearchFault (Collection σ) :=
  match rt.registerDispatchOutcome run.world c.lane.laneType run.newCandidates
    run.rawCandidateCount with
  | .error message => .error (.raised message)
  | .ok (outcome, world) =>
    .ok
      { c with
        world := world
        sentQueryRecords := c.sentQueryRecords ++
          [{ laneType := c.lane.laneType
             queryInstanceId := c.lane.queryInstanceId
             queryFingerprint := c.lane.queryFingerprint
             city := city
             phase := phase
             batchNo := c.batchNo
             requestedCount := requestedCount }]
        newCandidates := c.newCandidates ++ run.newCandidates
        searchAttempts := c.searchAttempts ++ run.attempts
        rawCandidateCount := c.rawCandidateCount + run.rawCandidateCount
        latestDispatchOutcomes := Function.update c.latestDispatchOutcomes c.lane.laneType outcome
        latestDispatchOutcome := outcome }

/-- `_run_city_dispatch`, and what `run_dispatches` does behind it. -/
def runCityDispatch (rt : SearchRuntime σ) (seen : SeenSets) (phase : LocationExecutionPhase)
    (city : String) (requestedCount : Int) (c : Collection σ) : Except SearchFault (Collection σ) :=
  match c.lane.cityStates.lookup city with
  | none => .error (.keyError city)
  | some cityState => do
    let (run, reason) ← executeSearchTool rt.settings rt.provider
      (toolCall seen c (some phase) (some city) cityState.nextPage requestedCount) c.world
    let nextPage := nextPageAfter cityState.nextPage run
    let lane :=
      { c.lane with
        cityStates := c.lane.cityStates.insert city
          { nextPage := nextPage
            exhausted := cityState.exhausted || reason ≠ .targetSatisfied } }
    let summary : CitySearchSummary :=
      { city := city
        phase := phase
        batchNo := c.batchNo
        requestedCount := requestedCount
        uniqueNewCount := run.newCandidates.length
        shortageCount := max 0 (requestedCount - run.newCandidates.length)
        startPage := cityState.nextPage
        nextPage := nextPage
        fetchAttemptCount := run.attempts.length
        exhaustedReason := reason }
    registerDispatch rt { c with lane := lane, citySummaries := c.citySummaries ++ [summary] }
      (some phase)
      (some city) requestedCount run

/-- The loop of `run_dispatches`, and whether the lane is stopped. -/
def runDispatches (rt : SearchRuntime σ) (seen : SeenSets) (phase : LocationExecutionPhase) :
    List (String × Int) → Collection σ → Except SearchFault (Collection σ × Bool)
  | [], c => .ok (c, false)
  | (city, requestedCount) :: rest, c => do
    let c ← runCityDispatch rt seen phase city requestedCount c
    if allowLaneRefill c.lane.laneType c.latestDispatchOutcome then
      runDispatches rt seen phase rest c
    else .ok (c, true)

/-- `run_dispatches` -/
def runBatch (rt : SearchRuntime σ) (seen : SeenSets) (phase : LocationExecutionPhase)
    (cityTargets : List (String × Int)) (c : Collection σ) :
    Except SearchFault (Collection σ × Bool) :=
  if cityTargets = [] then .ok (c, false)
  else runDispatches rt seen phase cityTargets { c with batchNo := c.batchNo + 1 }

/-! ## One lane -/

/-- The loop over the cities with priority. -/
def priorityLoop (rt : SearchRuntime σ) (seen : SeenSets) (requestedCount : Int) :
    List String → Collection σ → Except SearchFault (Collection σ × Bool)
  | [], c => .ok (c, false)
  | city :: rest, c =>
    if requestedCount - c.newCandidates.length ≤ 0 then .ok (c, false)
    else do
      let (c, stopped) ← runBatch rt seen .priority
        [(city, requestedCount - c.newCandidates.length)] c
      if stopped then .ok (c, true) else priorityLoop rt seen requestedCount rest c

/-- The cities in turn that are not exhausted. -/
def activeCities (rt : SearchRuntime σ) (lane : LaneState) : List String :=
  rt.plan.balancedOrder.filter fun city => (lane.cityStates.lookup city).any (!·.exhausted)

/-- The loop over the cities in turn. -/
def balancedLoop (rt : SearchRuntime σ) (seen : SeenSets) (requestedCount : Int) :
    Nat → Collection σ → Except SearchFault (Collection σ)
  | 0, _ => .error .outOfFuel
  | fuel + 1, c =>
    if requestedCount - c.newCandidates.length ≤ 0 then .ok c
    else if activeCities rt c.lane = [] then .ok c
    else if allocateBalancedCityTargets (activeCities rt c.lane)
        (requestedCount - c.newCandidates.length) = [] then .ok c
    else do
      let (c, stopped) ← runBatch rt seen .balanced
        (allocateBalancedCityTargets (activeCities rt c.lane)
        (requestedCount - c.newCandidates.length)) c
      if stopped then .ok c else balancedLoop rt seen requestedCount fuel c

/-- `_final_exhausted_reason` -/
def finalExhaustedReason (targetNew : Int) (newCandidateCount : Nat)
    (citySearchSummaries : List CitySearchSummary) : ExhaustedReason :=
  if targetNew ≤ newCandidateCount then .targetSatisfied
  else
    match citySearchSummaries.getLast? with
    | some summary => summary.exhaustedReason
    | none => .providerExhausted

/-- The branch of `collect_candidates_for_query` for a plan without cities. -/
def collectPages (rt : SearchRuntime σ) (seen : SeenSets) (requestedCount : Int)
    (c : Collection σ) :
    Except SearchFault (Collection σ × ExhaustedReason) := do
  let c := { c with batchNo := c.batchNo + 1 }
  let (run, reason) ← executeSearchTool rt.settings rt.provider
    (toolCall seen c none none c.lane.nextPage requestedCount) c.world
  let lane :=
    { c.lane with
      nextPage := nextPageAfter c.lane.nextPage run
      exhausted := c.lane.exhausted || reason ≠ .targetSatisfied }
  let c ← registerDispatch rt { c with lane := lane } none none requestedCount run
  return (c, reason)

/-- The dispatches of a lane over the cities of the plan. -/
def collectDispatches (rt : SearchRuntime σ) (seen : SeenSets) (requestedCount : Int)
    (c : Collection σ) : Except SearchFault (Collection σ) :=
  match rt.plan.mode with
  | .none => .ok c
  | .single =>
    match rt.plan.allowedLocations with
    | [] => .error (.raised "list index out of range")
    | city :: _ => (runBatch rt seen .balanced [(city, requestedCount)] c).map Prod.fst
  | .balancedAll =>
    balancedLoop rt seen requestedCount (requestedCount.toNat + rt.plan.balancedOrder.length + 1) c
  | .priorityThenFallback => do
    let (c, stopped) ← priorityLoop rt seen requestedCount rt.plan.priorityOrder c
    if stopped then .ok c
    else
      balancedLoop rt seen requestedCount (requestedCount.toNat + rt.plan.balancedOrder.length + 1)
        c

/-- The branch of `collect_candidates_for_query` for a plan with cities. -/
def collectCities (rt : SearchRuntime σ) (seen : SeenSets) (requestedCount : Int)
    (c : Collection σ) :
    Except SearchFault (Collection σ × ExhaustedReason) := do
  let c ← collectDispatches rt seen requestedCount c
  let reason := finalExhaustedReason requestedCount c.newCandidates.length c.citySummaries
  let lane := { c.lane with exhausted := c.lane.exhausted || reason ≠ .targetSatisfied }
  return ({ c with lane := lane }, reason)

/-- The branches of `collect_candidates_for_query`. -/
def collectLane (rt : SearchRuntime σ) (seen : SeenSets) (requestedCount : Int) (c : Collection σ) :
    Except SearchFault (Collection σ × ExhaustedReason) :=
  if rt.plan.mode = .none then collectPages rt seen requestedCount c
  else collectCities rt seen requestedCount c

/-! ## The round -/

/-- The state of a round: what `execute_round_search` keeps beside its lanes. -/
structure RoundRun (σ : Type) where
  world : σ
  seen : SeenSets
  batchNo : Nat := 0
  newCandidates : List ResumeCandidate := []
  searchAttempts : List SearchAttempt := []
  citySearchSummaries : List CitySearchSummary := []
  sentQueryRecords : List SentQueryRecord := []
  rawCandidateCount : Nat := 0
  lastExhaustedReason : Option ExhaustedReason := none
  latestDispatchOutcomes : LaneType → DispatchOutcome := fun _ => none

/-- The collection of a lane, with nothing found yet. -/
def RoundRun.collection (run : RoundRun σ) (lane : LaneState) : Collection σ :=
  { world := run.world
    lane := lane
    batchNo := run.batchNo
    latestDispatchOutcomes := run.latestDispatchOutcomes
    sentQueryRecords := run.sentQueryRecords }

/-- What a lane found is added to the round. -/
def RoundRun.merge (run : RoundRun σ) (c : Collection σ) (reason : ExhaustedReason) : RoundRun σ :=
  { world := c.world
    seen :=
      { resumeIds := run.seen.resumeIds ++ c.newCandidates.map ResumeCandidate.resumeId
        dedupKeys := run.seen.dedupKeys ++ c.newCandidates.map ResumeCandidate.dedupKey }
    batchNo := c.batchNo
    newCandidates := run.newCandidates ++ c.newCandidates
    searchAttempts := run.searchAttempts ++ c.searchAttempts
    citySearchSummaries := run.citySearchSummaries ++ c.citySummaries
    sentQueryRecords := c.sentQueryRecords
    rawCandidateCount := run.rawCandidateCount + c.rawCandidateCount
    lastExhaustedReason := some reason
    latestDispatchOutcomes := c.latestDispatchOutcomes }

/-- `collect_candidates_for_query` -/
def collectCandidatesForQuery (rt : SearchRuntime σ) (requestedCount : Int) (lane : LaneState)
    (run : RoundRun σ) : Except SearchFault (LaneState × RoundRun σ) :=
  if requestedCount ≤ 0 ∨ lane.exhausted = true then .ok (lane, run)
  else do
    let (c, reason) ← collectLane rt run.seen requestedCount (run.collection lane)
    return (c.lane, run.merge c reason)

/-- The first search of every lane, for what is requested of it. -/
def collectEach (rt : SearchRuntime σ) (requestedCount : LaneState → Int) :
    List LaneState → RoundRun σ → Except SearchFault (List LaneState × RoundRun σ)
  | [], run => .ok ([], run)
  | lane :: rest, run => do
    let (lane, run) ← collectCandidatesForQuery rt (requestedCount lane) lane run
    let (rest, run) ← collectEach rt requestedCount rest run
    return (lane :: rest, run)

/-- One pass of the refill, and whether it brought anything. -/
def refillPass (rt : SearchRuntime σ) (targetNew : Int) : List LaneState → RoundRun σ →
    Except SearchFault (List LaneState × RoundRun σ × Bool)
  | [], run => .ok ([], run, false)
  | lane :: rest, run =>
    if targetNew - run.newCandidates.length ≤ 0 then .ok (lane :: rest, run, false)
    else if allowLaneRefill lane.laneType (run.latestDispatchOutcomes lane.laneType) then do
      let (lane, next) ← collectCandidatesForQuery rt (targetNew - run.newCandidates.length) lane
        run
      let (rest, last, progressed) ← refillPass rt targetNew rest next
      return (lane :: rest, last, decide (run.newCandidates.length < next.newCandidates.length) ||
        progressed)
    else do
      let (rest, last, progressed) ← refillPass rt targetNew rest run
      return (lane :: rest, last, progressed)

/-- The refill loop. -/
def refillLoop (rt : SearchRuntime σ) (targetNew : Int) :
    Nat → List LaneState → RoundRun σ → Except SearchFault (List LaneState × RoundRun σ)
  | 0, _, _ => .error .outOfFuel
  | fuel + 1, lanes, run =>
    if targetNew ≤ run.newCandidates.length then .ok (lanes, run)
    else do
      let (lanes, run, progressed) ← refillPass rt targetNew lanes run
      if progressed then refillLoop rt targetNew fuel lanes run else .ok (lanes, run)

/-- A lane at the start of a search. -/
def LaneState.reset (plan : LocationExecutionPlan) (lane : LaneState) : LaneState :=
  { lane with
    nextPage := 1
    exhausted := false
    cityStates := if plan.mode = .none then ∅
      else plan.allowedLocations.foldl (fun states city => states.insert city {}) ∅ }

/-- `execute_round_search`, with what is requested of each lane first. -/
def executeRoundSearch (rt : SearchRuntime σ) (lanes : List LaneState)
    (initialTargets : LaneType → Int) (targetNew : Int) (seen : SeenSets) (world : σ) :
    Except SearchFault (List LaneState × RoundRun σ) := do
  let (lanes, run) ← collectEach rt (fun lane => initialTargets lane.laneType)
    (lanes.map (LaneState.reset rt.plan)) { world := world, seen := seen }
  refillLoop rt targetNew (targetNew.toNat + 1) lanes run

/-- The lanes of logical queries, one for each lane type. -/
def laneStates : List LogicalQueryDispatch → List LaneType → Except SearchFault (List LaneState)
  | [], _ => .ok []
  | query :: rest, known =>
    if query.laneType ∈ known then .error (.raised "logical_query_dispatch_duplicate_lane_type")
    else do
      let lanes ← laneStates rest (known ++ [query.laneType])
      let lane : LaneState :=
        { laneType := query.laneType
          queryInstanceId := query.queryInstanceId
          queryFingerprint := query.queryFingerprint }
      return lane :: lanes

/-- The requested counts of logical queries by lane type. -/
def requestedCounts (logicalQueries : List LogicalQueryDispatch) (laneType : LaneType) : Int :=
  match logicalQueries.find? fun query => query.laneType = laneType with
  | some query => query.requestedCount
  | none => 0

/-- `execute_logical_dispatch_search` -/
def executeLogicalDispatchSearch (rt : SearchRuntime σ) (logicalQueries : List LogicalQueryDispatch)
    (targetNew : Int) (seen : SeenSets) (world : σ) :
    Except SearchFault (List LaneState × RoundRun σ) := do
  let lanes ← laneStates logicalQueries []
  executeRoundSearch rt lanes (requestedCounts logicalQueries) targetNew seen world

end SeekTalent.RoundSearch
