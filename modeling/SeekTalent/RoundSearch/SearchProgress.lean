import SeekTalent.RoundSearch.RoundSearch

/-!
# Progress of a round's search

A dispatch that is asked for something either finds a resume or exhausts its city, and a pass of the
refill that goes on found something.  So the loops stop within their bounds, whatever the provider
and the scoring do (`executeRoundSearch_ne_outOfFuel`), and a search that misses its target leaves
every lane exhausted or blocked (`executeRoundSearch_stopped`).
-/

namespace SeekTalent.RoundSearch

open Foundation QueryPlanning
open Rounds (LaneType QueryRole LogicalQueryDispatch)

variable {σ : Type} {rt : SearchRuntime σ} {seen : SeenSets}
variable {phase : LocationExecutionPhase} {requestedCount : Int}
variable {targets : List (String × Int)}

/-! ## One dispatch -/

variable {c : Collection σ}

variable {c' : Collection σ}

/-- A dispatch is registered with the results of its search. -/
lemma registerDispatch_eq_ok_iff {phase : Option LocationExecutionPhase}
    {city : Option String} {run : ToolRun σ} :
    registerDispatch rt c phase city requestedCount run = .ok c' ↔ ∃ outcome world,
      rt.registerDispatchOutcome run.world c.lane.laneType run.newCandidates run.rawCandidateCount =
        .ok (outcome, world) ∧
      c' =
        { c with
          world := world
          sentQueryRecords := c.sentQueryRecords ++
            [⟨c.lane.laneType, c.lane.queryInstanceId, c.lane.queryFingerprint, city, phase,
              c.batchNo, requestedCount⟩]
          newCandidates := c.newCandidates ++ run.newCandidates
          searchAttempts := c.searchAttempts ++ run.attempts
          rawCandidateCount := c.rawCandidateCount + run.rawCandidateCount
          latestDispatchOutcomes := Function.update c.latestDispatchOutcomes c.lane.laneType outcome
          latestDispatchOutcome := outcome } := by
  unfold registerDispatch
  cases rt.registerDispatchOutcome run.world c.lane.laneType run.newCandidates
    run.rawCandidateCount with
  | error message => simp
  | ok answer =>
    obtain ⟨outcome, world⟩ := answer
    simp [eq_comm]

/-- What a dispatch in a city does. -/
structure CityDispatch (rt : SearchRuntime σ) (seen : SeenSets) (phase : LocationExecutionPhase)
    (city : String) (requestedCount : Int) (c c' : Collection σ) (cityState : CityExecutionState)
    (run : ToolRun σ) (reason : ExhaustedReason) : Prop where
  lookup : c.lane.cityStates.lookup city = some cityState
  tool : ToolSpec rt.settings
    (toolCall seen c (some phase) (some city) cityState.nextPage requestedCount) run reason
  lane : c'.lane =
    { c.lane with
      cityStates := c.lane.cityStates.insert city
        ⟨nextPageAfter cityState.nextPage run, cityState.exhausted || reason ≠ .targetSatisfied⟩ }
  batch : c'.batchNo = c.batchNo
  new : c'.newCandidates = c.newCandidates ++ run.newCandidates
  attempts : c'.searchAttempts = c.searchAttempts ++ run.attempts
  raw : c'.rawCandidateCount = c.rawCandidateCount + run.rawCandidateCount
  summaries : ∃ summary : CitySearchSummary, c'.citySummaries = c.citySummaries ++ [summary] ∧
    summary.exhaustedReason = reason
  outcomes : c'.latestDispatchOutcomes =
    Function.update c.latestDispatchOutcomes c.lane.laneType c'.latestDispatchOutcome

/-- A dispatch in a city that comes to an end. -/
lemma runCityDispatch_ok {city : String}
    (h : runCityDispatch rt seen phase city requestedCount c = .ok c') :
    ∃ cityState run reason,
      executeSearchTool rt.settings rt.provider
        (toolCall seen c (some phase) (some city) cityState.nextPage requestedCount) c.world =
        .ok (run, reason) ∧
      CityDispatch rt seen phase city requestedCount c c' cityState run reason := by
  unfold runCityDispatch at h
  split at h
  · cases h
  · rename_i cityState hlookup
    obtain ⟨⟨run, reason⟩, htool, hregister⟩ := bind_eq_ok.mp h
    obtain ⟨outcome, world, -, rfl⟩ := registerDispatch_eq_ok_iff.mp hregister
    exact ⟨cityState, run, reason, htool, hlookup, executeSearchTool_spec htool, rfl, rfl, rfl, rfl,
      rfl, ⟨_, rfl, rfl⟩, rfl⟩

/-! ## What is left of a lane -/

/-- Whether a city of a lane may still be searched in turn. -/
def LaneState.active (lane : LaneState) (city : String) : Bool :=
  (lane.cityStates.lookup city).any (!·.exhausted)

/-- What bounds the loop over the cities in turn: the resumes that are missing and the cities that
are not exhausted. -/
def remaining (rt : SearchRuntime σ) (requestedCount : Int) (c : Collection σ) : Nat :=
  (requestedCount - c.newCandidates.length).toNat + (activeCities rt c.lane).length

section Dispatch

variable {phase : LocationExecutionPhase} {city : String} {requestedCount : Int}
    {c c' : Collection σ}
  {cityState : CityExecutionState} {run : ToolRun σ} {reason : ExhaustedReason}

/-- A dispatch does not make a city active. -/
lemma CityDispatch.active_of_active
    (h : CityDispatch rt seen phase city requestedCount c c' cityState run reason) {other : String}
    (hactive : c'.lane.active other = true) : c.lane.active other = true := by
  unfold LaneState.active at hactive ⊢
  rw [h.lane] at hactive
  by_cases hother : other = city
  · subst hother
    rw [AList.lookup_insert] at hactive
    rw [h.lookup]
    simp only [Option.any_some, Bool.not_or, Bool.and_eq_true] at hactive ⊢
    exact hactive.1
  · rwa [AList.lookup_insert_ne hother] at hactive

/-- A dispatch that does not meet its target exhausts its city. -/
lemma CityDispatch.not_active
    (h : CityDispatch rt seen phase city requestedCount c c' cityState run reason)
    (hreason : reason ≠ .targetSatisfied) : c'.lane.active city = false := by
  unfold LaneState.active
  rw [h.lane, AList.lookup_insert]
  simp [hreason]

/-- The cities that are active behind a dispatch are some of those before it. -/
lemma CityDispatch.activeCities_eq
    (h : CityDispatch rt seen phase city requestedCount c c' cityState run reason) :
    activeCities rt c'.lane = (activeCities rt c.lane).filter c'.lane.active := by
  show rt.plan.balancedOrder.filter c'.lane.active =
    (rt.plan.balancedOrder.filter c.lane.active).filter c'.lane.active
  rw [List.filter_filter]
  refine List.filter_congr fun other _ => ?_
  cases hother : c'.lane.active other with
  | false => rfl
  | true => rw [h.active_of_active hother, Bool.and_self]

/-- A dispatch leaves no more to do. -/
lemma CityDispatch.remaining_le
    (h : CityDispatch rt seen phase city requestedCount c c' cityState run reason) (target : Int) :
    remaining rt target c' ≤ remaining rt target c := by
  unfold remaining
  rw [h.activeCities_eq, h.new, List.length_append]
  have hactive := List.length_filter_le c'.lane.active (activeCities rt c.lane)
  omega

/-- A dispatch in an active city leaves less to do, if something is missing and asked for. -/
lemma CityDispatch.remaining_lt
    (h : CityDispatch rt seen phase city requestedCount c c' cityState run reason) {target : Int}
    (hcity : city ∈ activeCities rt c.lane) (hrequested : 0 < requestedCount)
    (hgap : 0 < target - c.newCandidates.length) :
    remaining rt target c' < remaining rt target c := by
  unfold remaining
  rw [h.activeCities_eq, h.new, List.length_append]
  have hactive := List.length_filter_le c'.lane.active (activeCities rt c.lane)
  by_cases hreason : reason = .targetSatisfied
  · have hfound : requestedCount ≤ run.newCandidates.length := h.tool.satisfied hreason
    omega
  · have hless : ((activeCities rt c.lane).filter c'.lane.active).length <
        (activeCities rt c.lane).length :=
      List.length_filter_lt_length_iff_exists.mpr ⟨city, hcity, by simp [h.not_active hreason]⟩
    omega

end Dispatch

/-! ## The loops of a lane -/

/-- Every share of a round is positive. -/
lemma requested_pos_of_mem {cities : List String} {target : Int} {entry : String × Int}
    (h : entry ∈ allocateBalancedCityTargets cities target) : entry.1 ∈ cities ∧ 0 < entry.2 := by
  unfold allocateBalancedCityTargets at h
  split at h
  · cases h
  · obtain ⟨indexed, hindexed, hentry⟩ := List.mem_filterMap.mp h
    dsimp only at hentry
    generalize target / (cities.length : Int) +
      (if (indexed.2 : Int) < target % (cities.length : Int) then 1 else 0) = share at hentry
    by_cases hshare : share ≤ 0
    · rw [if_pos hshare] at hentry
      cases hentry
    · rw [if_neg hshare] at hentry
      cases hentry
      exact ⟨List.fst_mem_of_mem_zipIdx hindexed, not_le.mp hshare⟩

/-- What every dispatch of a lane keeps: it does not depend on the number of the batch, and a
dispatch that is asked for something keeps it. -/
structure KeptByDispatches (rt : SearchRuntime σ) (seen : SeenSets) (P : Collection σ → Prop) :
    Prop where
  bump : ∀ {c : Collection σ}, P c → P { c with batchNo := c.batchNo + 1 }
  dispatch : ∀ {phase : LocationExecutionPhase} {city : String} {requestedCount : Int}
    {c c' : Collection σ}, 0 < requestedCount → P c →
    runCityDispatch rt seen phase city requestedCount c = .ok c' → P c'

section Kept

variable {P : Collection σ → Prop} {phase : LocationExecutionPhase} {requestedCount : Int}
  {c c' : Collection σ} {stopped : Bool}

lemma KeptByDispatches.runDispatches (hP : KeptByDispatches rt seen P)
    {targets : List (String × Int)} (hpos : ∀ entry ∈ targets, 0 < entry.2) (hc : P c)
    (h : runDispatches rt seen phase targets c = .ok (c', stopped)) : P c' := by
  induction targets generalizing c with
  | nil =>
    cases h
    exact hc
  | cons entry rest ih =>
    obtain ⟨city, requestedCount⟩ := entry
    obtain ⟨next, hdispatch, hrest⟩ := bind_eq_ok.mp h
    have hnext := hP.dispatch (hpos (city, requestedCount) List.mem_cons_self) hc hdispatch
    split at hrest
    · exact ih (fun entry hmem => hpos entry (List.mem_cons_of_mem _ hmem)) hnext hrest
    · cases hrest
      exact hnext

lemma KeptByDispatches.runBatch (hP : KeptByDispatches rt seen P) {targets : List (String × Int)}
    (hpos : ∀ entry ∈ targets, 0 < entry.2) (hc : P c)
    (h : runBatch rt seen phase targets c = .ok (c', stopped)) : P c' := by
  unfold RoundSearch.runBatch at h
  split at h
  · cases h
    exact hc
  · exact hP.runDispatches hpos (hP.bump hc) h

lemma KeptByDispatches.priorityLoop (hP : KeptByDispatches rt seen P) {cities : List String}
    (hc : P c) (h : priorityLoop rt seen requestedCount cities c = .ok (c', stopped)) : P c' := by
  induction cities generalizing c with
  | nil =>
    cases h
    exact hc
  | cons city rest ih =>
    rw [RoundSearch.priorityLoop] at h
    split at h
    · cases h
      exact hc
    · rename_i hgap
      obtain ⟨⟨next, stop⟩, hbatch, hrest⟩ := bind_eq_ok.mp h
      have hnext : P next := hP.runBatch (fun entry hmem => by
        rw [List.mem_singleton.mp hmem]
        exact not_le.mp hgap) hc hbatch
      dsimp only at hrest
      split at hrest
      · cases hrest
        exact hnext
      · exact ih hnext hrest

lemma KeptByDispatches.balancedLoop (hP : KeptByDispatches rt seen P) {fuel : Nat} (hc : P c)
    (h : balancedLoop rt seen requestedCount fuel c = .ok c') : P c' := by
  induction fuel generalizing c with
  | zero => cases h
  | succ fuel ih =>
    rw [RoundSearch.balancedLoop] at h
    split_ifs at h
    · cases h
      exact hc
    · cases h
      exact hc
    · cases h
      exact hc
    · obtain ⟨⟨next, stop⟩, hbatch, hrest⟩ := bind_eq_ok.mp h
      have hnext : P next := hP.runBatch (fun entry hmem => (requested_pos_of_mem hmem).2) hc hbatch
      dsimp only at hrest
      split at hrest
      · cases hrest
        exact hnext
      · exact ih hnext hrest

/-- The dispatches of a lane keep what every dispatch keeps. -/
lemma KeptByDispatches.collectDispatches (hP : KeptByDispatches rt seen P)
    (hrequested : 0 < requestedCount) (hc : P c)
    (h : collectDispatches rt seen requestedCount c = .ok c') : P c' := by
  unfold RoundSearch.collectDispatches at h
  split at h
  · cases h
    exact hc
  · split at h
    · cases h
    · obtain ⟨⟨next, stop⟩, hbatch, rfl⟩ := map_eq_ok.mp h
      exact hP.runBatch (fun entry hmem => by rwa [List.mem_singleton.mp hmem]) hc hbatch
  · exact hP.balancedLoop hc h
  · obtain ⟨⟨next, stop⟩, hpriority, hrest⟩ := bind_eq_ok.mp h
    have hnext := hP.priorityLoop hc hpriority
    dsimp only at hrest
    split at hrest
    · cases hrest
      exact hnext
    · exact hP.balancedLoop hnext hrest

end Kept

/-! ## The bound of the loop over the cities in turn -/

/-- Dispatches leave no more to do. -/
lemma kept_remaining (rt : SearchRuntime σ) (seen : SeenSets) (target : Int) (bound : Nat) :
    KeptByDispatches rt seen fun c => remaining rt target c ≤ bound where
  bump h := h
  dispatch _ hc h := by
    obtain ⟨cityState, run, reason, -, hdispatch⟩ := runCityDispatch_ok h
    exact (hdispatch.remaining_le target).trans hc

/-- A round over active cities leaves less to do. -/
lemma remaining_runBatch_lt {target : Int} {stopped : Bool} (htargets : targets ≠ [])
    (hcities : ∀ entry ∈ targets, entry.1 ∈ activeCities rt c.lane ∧ 0 < entry.2)
    (hgap : 0 < target - c.newCandidates.length)
    (h : runBatch rt seen .balanced targets c = .ok (c', stopped)) :
    remaining rt target c' < remaining rt target c := by
  cases targets with
  | nil => exact absurd rfl htargets
  | cons entry rest =>
    obtain ⟨city, requestedCount⟩ := entry
    rw [runBatch, if_neg htargets] at h
    obtain ⟨next, hfirst, hrest⟩ := bind_eq_ok.mp h
    obtain ⟨cityState, run, reason, -, hdispatch⟩ := runCityDispatch_ok hfirst
    obtain ⟨hactive, hpos⟩ := hcities (city, requestedCount) List.mem_cons_self
    have hless : remaining rt target next < remaining rt target c :=
      hdispatch.remaining_lt hactive hpos hgap
    split at hrest
    · have hmore := (kept_remaining rt seen target (remaining rt target next)).runDispatches
        (fun entry hmem => (hcities entry (List.mem_cons_of_mem _ hmem)).2) le_rfl hrest
      exact lt_of_le_of_lt hmore hless
    · cases hrest
      exact hless

/-- Registering a dispatch runs into no bound. -/
lemma registerDispatch_ne_outOfFuel {phase : Option LocationExecutionPhase}
    {city : Option String} {run : ToolRun σ} :
    registerDispatch rt c phase city requestedCount run ≠ .error .outOfFuel := by
  unfold registerDispatch
  split <;> exact nofun

/-- A dispatch runs into no bound. -/
lemma runCityDispatch_ne_outOfFuel {city : String} :
    runCityDispatch rt seen phase city requestedCount c ≠ .error .outOfFuel := by
  unfold runCityDispatch
  split
  · exact nofun
  · refine bind_ne_error executeSearchTool_ne_outOfFuel fun answer _ => ?_
    exact registerDispatch_ne_outOfFuel

lemma runDispatches_ne_outOfFuel : runDispatches rt seen phase targets c ≠ .error .outOfFuel := by
  induction targets generalizing c with
  | nil => exact nofun
  | cons entry rest ih =>
    refine bind_ne_error runCityDispatch_ne_outOfFuel fun next _ => ?_
    split
    · exact ih
    · exact nofun

lemma runBatch_ne_outOfFuel : runBatch rt seen phase targets c ≠ .error .outOfFuel := by
  unfold runBatch
  split
  · exact nofun
  · exact runDispatches_ne_outOfFuel

lemma priorityLoop_ne_outOfFuel {cities : List String} :
    priorityLoop rt seen requestedCount cities c ≠ .error .outOfFuel := by
  induction cities generalizing c with
  | nil => exact nofun
  | cons city rest ih =>
    rw [priorityLoop]
    split
    · exact nofun
    · refine bind_ne_error runBatch_ne_outOfFuel fun next _ => ?_
      dsimp only
      split
      · exact nofun
      · exact ih

/-- The loop over the cities in turn stops within a bound on what is left to do. -/
lemma balancedLoop_ne_outOfFuel {fuel : Nat} (hfuel : remaining rt requestedCount c < fuel) :
    balancedLoop rt seen requestedCount fuel c ≠ .error .outOfFuel := by
  induction fuel generalizing c with
  | zero => exact absurd hfuel (Nat.not_lt_zero _)
  | succ fuel ih =>
    rw [balancedLoop]
    split
    · exact nofun
    · rename_i hgap
      split
      · exact nofun
      · split
        · exact nofun
        · rename_i htargets
          refine bind_ne_error runBatch_ne_outOfFuel fun next hbatch => ?_
          have hless : remaining rt requestedCount next.1 < remaining rt requestedCount c :=
            remaining_runBatch_lt htargets (fun entry hmem => requested_pos_of_mem hmem)
              (not_le.mp hgap) hbatch
          dsimp only
          split
          · exact nofun
          · exact ih (by omega)

/-- At most everything that is requested and every city is left to do. -/
lemma remaining_lt_bound (rt : SearchRuntime σ) (requestedCount : Int) (c : Collection σ) :
    remaining rt requestedCount c < requestedCount.toNat + rt.plan.balancedOrder.length + 1 := by
  have hactive := List.length_filter_le c.lane.active rt.plan.balancedOrder
  have hsame : (activeCities rt c.lane).length =
    (rt.plan.balancedOrder.filter c.lane.active).length := rfl
  unfold remaining
  omega

lemma collectDispatches_ne_outOfFuel :
    collectDispatches rt seen requestedCount c ≠ .error .outOfFuel := by
  unfold collectDispatches
  split
  · exact nofun
  · split
    · exact nofun
    · intro h
      cases hbatch : runBatch rt seen .balanced [(_, requestedCount)] c with
      | error fault =>
        rw [hbatch] at h
        cases h
        exact runBatch_ne_outOfFuel hbatch
      | ok answer =>
        rw [hbatch] at h
        cases h
  · exact balancedLoop_ne_outOfFuel (remaining_lt_bound rt requestedCount c)
  · refine bind_ne_error priorityLoop_ne_outOfFuel fun next _ => ?_
    dsimp only
    split
    · exact nofun
    · exact balancedLoop_ne_outOfFuel (remaining_lt_bound rt requestedCount next.1)

lemma collectLane_ne_outOfFuel :
    collectLane rt seen requestedCount c ≠ .error .outOfFuel := by
  unfold collectLane
  split
  · refine bind_ne_error executeSearchTool_ne_outOfFuel fun answer _ => ?_
    exact bind_ne_error registerDispatch_ne_outOfFuel fun _ _ => nofun
  · exact bind_ne_error collectDispatches_ne_outOfFuel fun _ _ => nofun

variable {run : RoundRun σ}

lemma collectCandidatesForQuery_ne_outOfFuel {lane : LaneState}
    :
    collectCandidatesForQuery rt requestedCount lane run ≠ .error .outOfFuel := by
  unfold collectCandidatesForQuery
  split
  · exact nofun
  · exact bind_ne_error collectLane_ne_outOfFuel fun _ _ => nofun

lemma collectEach_ne_outOfFuel {requestedCount : LaneState → Int} {lanes : List LaneState}
    : collectEach rt requestedCount lanes run ≠ .error .outOfFuel := by
  induction lanes generalizing run with
  | nil => exact nofun
  | cons lane rest ih =>
    refine bind_ne_error collectCandidatesForQuery_ne_outOfFuel fun first _ => ?_
    exact bind_ne_error ih fun _ _ => nofun

lemma refillPass_ne_outOfFuel {targetNew : Int} {lanes : List LaneState} :
    refillPass rt targetNew lanes run ≠ .error .outOfFuel := by
  induction lanes generalizing run with
  | nil => exact nofun
  | cons lane rest ih =>
    rw [refillPass]
    split
    · exact nofun
    · split
      · refine bind_ne_error collectCandidatesForQuery_ne_outOfFuel fun first _ => ?_
        exact bind_ne_error ih fun _ _ => nofun
      · exact bind_ne_error ih fun _ _ => nofun

/-! ## One lane of a round -/

section Lane

variable {requestedCount : Int} {lane lane' : LaneState} {run run' : RoundRun σ}

/-- A collection that is asked for nothing, or of an exhausted lane, changes nothing; any other one
is merged. -/
lemma collectCandidatesForQuery_ok
    (h : collectCandidatesForQuery rt requestedCount lane run = .ok (lane', run')) :
    ((requestedCount ≤ 0 ∨ lane.exhausted = true) ∧ lane' = lane ∧ run' = run) ∨
      (0 < requestedCount ∧ lane.exhausted = false ∧ ∃ c reason,
        collectLane rt run.seen requestedCount (run.collection lane) = .ok (c, reason) ∧
        lane' = c.lane ∧ run' = run.merge c reason) := by
  unfold collectCandidatesForQuery at h
  split at h
  · rename_i hskip
    cases h
    exact Or.inl ⟨hskip, rfl, rfl⟩
  · rename_i hgo
    obtain ⟨⟨c, reason⟩, hcollect, hend⟩ := bind_eq_ok.mp h
    cases hend
    have hopen : lane.exhausted = false := by
      cases hlane : lane.exhausted with
      | false => rfl
      | true => exact absurd (Or.inr hlane) hgo
    exact Or.inr ⟨by omega, hopen, c, reason, hcollect, rfl, rfl⟩

/-- A search only adds to what was found. -/
lemma length_new_collect_le
    (h : collectCandidatesForQuery rt requestedCount lane run = .ok (lane', run')) :
    run.newCandidates.length ≤ run'.newCandidates.length := by
  obtain ⟨-, -, rfl⟩ | ⟨-, -, c, reason, -, -, rfl⟩ := collectCandidatesForQuery_ok h
  · exact le_rfl
  · simp [RoundRun.merge]

/-- What a lane keeps of what it shares with the round: its type, and the outcomes of the other
types. -/
def KeepsOthers (laneType : LaneType) (outcomes : LaneType → DispatchOutcome)
    (c : Collection σ) : Prop :=
  c.lane.laneType = laneType ∧ ∀ other ≠ laneType, c.latestDispatchOutcomes other = outcomes other

lemma kept_keepsOthers (rt : SearchRuntime σ) (seen : SeenSets) (laneType : LaneType)
    (outcomes : LaneType → DispatchOutcome) :
    KeptByDispatches rt seen (KeepsOthers laneType outcomes) where
  bump h := h
  dispatch _ hc h := by
    obtain ⟨cityState, run, reason, -, hdispatch⟩ := runCityDispatch_ok h
    obtain ⟨htype, hothers⟩ := hc
    refine ⟨by rw [hdispatch.lane]; exact htype, fun other hother => ?_⟩
    rw [hdispatch.outcomes, htype, Function.update_of_ne hother]
    exact hothers other hother

/-- A dispatch whose target was met found something. -/
def SatisfiedFound (c : Collection σ) : Prop :=
  ∀ summary ∈ c.citySummaries, summary.exhaustedReason = .targetSatisfied → c.newCandidates ≠ []

lemma kept_satisfiedFound (rt : SearchRuntime σ) (seen : SeenSets) :
    KeptByDispatches rt seen SatisfiedFound where
  bump h := h
  dispatch hpos hc h := by
    obtain ⟨cityState, run, reason, -, hdispatch⟩ := runCityDispatch_ok h
    obtain ⟨summary, hsummaries, hreason⟩ := hdispatch.summaries
    intro other hmem hsatisfied hnone
    rw [hdispatch.new, List.append_eq_nil_iff] at hnone
    rw [hsummaries] at hmem
    rcases List.mem_append.mp hmem with hmem | hmem
    · exact hc other hmem hsatisfied hnone.1
    · rw [List.mem_singleton.mp hmem, hreason] at hsatisfied
      have hfound : _ ≤ ((run.newCandidates.length : Nat) : Int) :=
        hdispatch.tool.satisfied hsatisfied
      rw [hnone.2] at hfound
      simp only [toolCall, List.length_nil, Nat.cast_zero] at hfound
      omega

/-- A search of a lane keeps its type and the outcomes of the others, and exhausts it if it finds
nothing. -/
lemma collectLane_ok {c' : Collection σ} {reason : ExhaustedReason} (hpos : 0 < requestedCount)
    (hsummaries : c.citySummaries = [])
    (h : collectLane rt seen requestedCount c = .ok (c', reason)) :
    KeepsOthers c.lane.laneType c.latestDispatchOutcomes c' ∧
      (c'.newCandidates = [] → c'.lane.exhausted = true) := by
  unfold collectLane at h
  split at h
  · obtain ⟨⟨run, reason⟩, htool, hrest⟩ := bind_eq_ok.mp h
    obtain ⟨c', hregister, hend⟩ := bind_eq_ok.mp hrest
    cases hend
    obtain ⟨outcome, world, -, rfl⟩ := registerDispatch_eq_ok_iff.mp hregister
    refine ⟨⟨rfl, fun other hother => Function.update_of_ne hother _ _⟩, fun hnone => ?_⟩
    have hempty : run.newCandidates = [] := (List.append_eq_nil_iff.mp hnone).2
    have hreason : reason ≠ .targetSatisfied := fun hsatisfied => by
      have hfound := (executeSearchTool_spec htool).satisfied hsatisfied
      rw [hempty] at hfound
      simp only [toolCall, List.length_nil, Nat.cast_zero] at hfound
      omega
    simp [hreason]
  · obtain ⟨last, hdispatches, hend⟩ := bind_eq_ok.mp h
    cases hend
    have hothers :=
      (kept_keepsOthers rt seen c.lane.laneType c.latestDispatchOutcomes).collectDispatches
        hpos ⟨rfl, fun _ _ => rfl⟩ hdispatches
    have hfound : SatisfiedFound last := (kept_satisfiedFound rt seen).collectDispatches hpos
      (fun summary hmem => by rw [hsummaries] at hmem; cases hmem) hdispatches
    refine ⟨hothers, fun hnone => ?_⟩
    have hreason : finalExhaustedReason requestedCount last.newCandidates.length
        last.citySummaries ≠ .targetSatisfied := by
      have hempty : last.newCandidates = [] := hnone
      unfold finalExhaustedReason
      rw [hempty, List.length_nil, if_neg (by omega)]
      cases hlast : last.citySummaries.getLast? with
      | none => exact nofun
      | some summary =>
        exact fun hsatisfied => hfound summary (List.mem_of_getLast? hlast) hsatisfied hempty
    simp [hreason]

end Lane

/-! ## The refill -/

/-- A lane that is not searched any more: it is exhausted, or its last dispatch keeps it from a
refill. -/
def Stopped (run : RoundRun σ) (lane : LaneState) : Prop :=
  lane.exhausted = true ∨
    allowLaneRefill lane.laneType (run.latestDispatchOutcomes lane.laneType) = false

section Refill

variable {targetNew : Int} {lanes lanes' : List LaneState} {run run' : RoundRun σ}
    {progressed : Bool}

/-- A collection keeps the outcomes of the other lane types. -/
lemma outcomes_collect {lane lane' : LaneState}
    (h : collectCandidatesForQuery rt requestedCount lane run = .ok (lane', run')) :
    lane'.laneType = lane.laneType ∧ ∀ other ≠ lane.laneType,
      run'.latestDispatchOutcomes other = run.latestDispatchOutcomes other := by
  obtain ⟨-, rfl, rfl⟩ | ⟨hpos, -, c, reason, hlane, rfl, rfl⟩ := collectCandidatesForQuery_ok h
  · exact ⟨rfl, fun _ _ => rfl⟩
  · exact (collectLane_ok hpos rfl hlane).1

/-- A pass only adds to what was found, and says whether it did. -/
lemma length_new_refillPass
    (h : refillPass rt targetNew lanes run = .ok (lanes', run', progressed)) :
    run.newCandidates.length ≤ run'.newCandidates.length ∧
      (progressed = true → run.newCandidates.length < run'.newCandidates.length) ∧
      (progressed = false → run'.newCandidates.length = run.newCandidates.length) := by
  induction lanes generalizing run lanes' progressed with
  | nil =>
    cases h
    exact ⟨le_rfl, nofun, fun _ => rfl⟩
  | cons lane rest ih =>
    rw [refillPass] at h
    split at h
    · cases h
      exact ⟨le_rfl, nofun, fun _ => rfl⟩
    · split at h
      · obtain ⟨⟨first, next⟩, hfirst, hmore⟩ := bind_eq_ok.mp h
        obtain ⟨⟨others, last, went⟩, hrest, hend⟩ := bind_eq_ok.mp hmore
        cases hend
        have hle := length_new_collect_le hfirst
        obtain ⟨hrestle, hrestlt, hresteq⟩ := ih hrest
        refine ⟨hle.trans hrestle, fun hwent => ?_, fun hwent => ?_⟩
        · rcases (Bool.or_eq_true _ _).mp hwent with hnew | hwent
          · exact lt_of_lt_of_le (of_decide_eq_true hnew) hrestle
          · exact lt_of_le_of_lt hle (hrestlt hwent)
        · obtain ⟨hnew, hwent⟩ := Bool.or_eq_false_iff.mp hwent
          have hnot := of_decide_eq_false hnew
          have hsame := hresteq hwent
          omega
      · obtain ⟨⟨others, last, went⟩, hrest, hend⟩ := bind_eq_ok.mp h
        cases hend
        exact ih hrest

/-- A pass does not touch the outcome of a lane type that is kept from a refill. -/
lemma blocked_refillPass {laneType : LaneType}
    (hblocked : allowLaneRefill laneType (run.latestDispatchOutcomes laneType) = false)
    (h : refillPass rt targetNew lanes run = .ok (lanes', run', progressed)) :
    run'.latestDispatchOutcomes laneType = run.latestDispatchOutcomes laneType := by
  induction lanes generalizing run lanes' progressed with
  | nil =>
    cases h
    rfl
  | cons lane rest ih =>
    rw [refillPass] at h
    split at h
    · cases h
      rfl
    · split at h
      · rename_i hallowed
        obtain ⟨⟨first, next⟩, hfirst, hmore⟩ := bind_eq_ok.mp h
        obtain ⟨⟨others, last, went⟩, hrest, hend⟩ := bind_eq_ok.mp hmore
        cases hend
        have hother : laneType ≠ lane.laneType := by
          rintro rfl
          rw [hblocked] at hallowed
          cases hallowed
        have hsame := (outcomes_collect hfirst).2 laneType hother
        rw [ih (by rw [hsame]; exact hblocked) hrest, hsame]
      · obtain ⟨⟨others, last, went⟩, hrest, hend⟩ := bind_eq_ok.mp h
        cases hend
        exact ih hblocked hrest

/-- A pass that misses the target without progress leaves every lane stopped. -/
lemma stopped_of_refillPass (hgap : (run.newCandidates.length : Int) < targetNew)
    (h : refillPass rt targetNew lanes run = .ok (lanes', run', false)) :
    ∀ lane ∈ lanes', Stopped run' lane := by
  induction lanes generalizing run lanes' with
  | nil =>
    cases h
    exact fun lane hmem => absurd hmem List.not_mem_nil
  | cons lane rest ih =>
    rw [refillPass, if_neg (by omega)] at h
    split at h
    · obtain ⟨⟨first, next⟩, hfirst, hmore⟩ := bind_eq_ok.mp h
      obtain ⟨⟨others, last, went⟩, hrest, hend⟩ := bind_eq_ok.mp hmore
      obtain ⟨rfl, rfl, hflags⟩ : first :: others = lanes' ∧ last = run' ∧
          (decide (run.newCandidates.length < next.newCandidates.length) || went) = false := by
        simpa using hend
      obtain ⟨hnew, rfl⟩ := Bool.or_eq_false_iff.mp hflags
      have hle := length_new_collect_le hfirst
      have hnot := of_decide_eq_false hnew
      have hexhausted : first.exhausted = true := by
        obtain ⟨hskip, rfl, rfl⟩ | ⟨hpos, -, c, reason, hlane, rfl, rfl⟩ :=
          collectCandidatesForQuery_ok hfirst
        · exact hskip.resolve_left (by omega)
        · refine (collectLane_ok hpos rfl hlane).2 (List.length_eq_zero_iff.mp ?_)
          simp only [RoundRun.merge, List.length_append] at hnot
          omega
      intro other hmem
      rcases List.mem_cons.mp hmem with rfl | hmem
      · exact Or.inl hexhausted
      · exact ih (by omega) hrest other hmem
    · rename_i hblocked
      obtain ⟨⟨others, last, went⟩, hrest, hend⟩ := bind_eq_ok.mp h
      obtain ⟨rfl, rfl, rfl⟩ : lane :: others = lanes' ∧ last = run' ∧
        went = false := by simpa using hend
      have hfalse := Bool.eq_false_of_not_eq_true hblocked
      intro other hmem
      rcases List.mem_cons.mp hmem with rfl | hmem
      · right
        rw [blocked_refillPass hfalse hrest]
        exact hfalse
      · exact ih hgap hrest other hmem

/-- The refill stops within a bound on what is missing. -/
lemma refillLoop_ne_outOfFuel {fuel : Nat}
    (hfuel : (targetNew - run.newCandidates.length).toNat < fuel) :
    refillLoop rt targetNew fuel lanes run ≠ .error .outOfFuel := by
  induction fuel generalizing lanes run with
  | zero => exact absurd hfuel (Nat.not_lt_zero _)
  | succ fuel ih =>
    rw [refillLoop]
    split
    · exact nofun
    · refine bind_ne_error refillPass_ne_outOfFuel fun answer hpass => ?_
      obtain ⟨lanes', run', progressed⟩ := answer
      obtain ⟨-, hmore, -⟩ := length_new_refillPass hpass
      dsimp only
      split
      · rename_i hprogressed
        have hless := hmore hprogressed
        exact ih (by omega)
      · exact nofun

/-- The refill ends with the target met or with every lane stopped. -/
lemma stopped_of_refillLoop {fuel : Nat}
    (h : refillLoop rt targetNew fuel lanes run = .ok (lanes', run')) :
    targetNew ≤ run'.newCandidates.length ∨ ∀ lane ∈ lanes', Stopped run' lane := by
  induction fuel generalizing lanes run with
  | zero => cases h
  | succ fuel ih =>
    rw [refillLoop] at h
    split at h
    · rename_i hmet
      cases h
      exact Or.inl hmet
    · rename_i hgap
      obtain ⟨⟨others, last, progressed⟩, hpass, hrest⟩ := bind_eq_ok.mp h
      dsimp only at hrest
      split at hrest
      · exact ih hrest
      · rename_i hstuck
        cases hrest
        rw [Bool.eq_false_of_not_eq_true hstuck] at hpass
        exact Or.inr (stopped_of_refillPass (not_le.mp hgap) hpass)

end Refill

/-! ## The round -/

/-- The search of a round always stops: whatever the provider returns or raises, whatever the
scoring says, for every plan, every lanes, targets and settings. -/
theorem executeRoundSearch_ne_outOfFuel (rt : SearchRuntime σ) (lanes : List LaneState)
    (initialTargets : LaneType → Int) (targetNew : Int) (seen : SeenSets) (world : σ) :
    executeRoundSearch rt lanes initialTargets targetNew seen world ≠ .error .outOfFuel := by
  unfold executeRoundSearch
  refine bind_ne_error collectEach_ne_outOfFuel fun answer _ => ?_
  exact refillLoop_ne_outOfFuel (by omega)

/-- A search that returns has met its target, or every lane is exhausted or kept from a refill. -/
theorem executeRoundSearch_stopped {lanes lanes' : List LaneState} {initialTargets : LaneType → Int}
    {targetNew : Int} {world : σ} {run : RoundRun σ}
    (h : executeRoundSearch rt lanes initialTargets targetNew seen world = .ok (lanes', run)) :
    targetNew ≤ run.newCandidates.length ∨ ∀ lane ∈ lanes', Stopped run lane := by
  obtain ⟨⟨first, start⟩, -, hrefill⟩ := bind_eq_ok.mp h
  exact stopped_of_refillLoop hrefill

/-- Two cities in turn.  Each has one resume on its first page and nothing on the next one. -/
def twoCityRuntime : SearchRuntime Unit where
  settings := ⟨3, 2, 1, by decide, by decide, by decide⟩
  plan :=
    { mode := .balancedAll
      allowedLocations := ["北京", "上海"]
      balancedOrder := ["北京", "上海"]
      targetNew := 3 }
  provider world query :=
    match query.page, query.city with
    | 1, some city => .ok (⟨[{ resumeId := city, dedupKey := city }], 1⟩, world)
    | _, _ => .ok (⟨[], 0⟩, world)
  registerDispatchOutcome world _ _ _ := .ok (none, world)

/-- A lane that has searched nothing. -/
def exploitLane : LaneState :=
  { laneType := .exploit, queryInstanceId := "q1", queryFingerprint := "f1" }

/-- The search of two cities for three resumes. -/
def twoCitySearch : Except SearchFault (List LaneState × RoundRun Unit) :=
  executeRoundSearch twoCityRuntime [exploitLane] (fun _ => 3) 3 ⟨[], []⟩ ()

lemma twoCitySearch_ok : ∃ lanes run, twoCitySearch = .ok (lanes, run) ∧
    run.newCandidates.map ResumeCandidate.resumeId = ["北京", "上海"] ∧
    run.searchAttempts.map (fun attempt => (attempt.query.city, attempt.query.page)) =
      [(some "北京", 1), (some "北京", 2), (some "上海", 1), (some "上海", 2)] := by
  have hrun : twoCitySearch.map (fun answer => (answer.2.newCandidates.map ResumeCandidate.resumeId,
      answer.2.searchAttempts.map fun attempt => (attempt.query.city, attempt.query.page))) =
      .ok (["北京", "上海"], [(some "北京", 1), (some "北京", 2), (some "上海", 1), (some "上海", 2)]) := by
    decide +kernel
  obtain ⟨⟨lanes, run⟩, hok, heq⟩ := map_eq_ok.mp hrun
  exact ⟨lanes, run, hok, congrArg Prod.fst heq, congrArg Prod.snd heq⟩

theorem executeRoundSearch_stopped_twoCity : ∃ lanes run, twoCitySearch = .ok (lanes, run) ∧
    (3 ≤ (run.newCandidates.length : Int) ∨ ∀ lane ∈ lanes, Stopped run lane) := by
  obtain ⟨lanes, run, hok, -⟩ := twoCitySearch_ok
  exact ⟨lanes, run, hok, executeRoundSearch_stopped hok⟩

end SeekTalent.RoundSearch
