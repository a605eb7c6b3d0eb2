import Mathlib.Algebra.Order.BigOperators.Group.List
import SeekTalent.RoundSearch.SearchProgress

/-!
# What the search of a round finds

Whatever the provider does: no resume that was seen before is found again, no two lanes find the
same one, and without several cities no key is found twice (`executeRoundSearch_novel`).  If the
provider keeps to the page size it is asked for, the search never finds more than its target or what
was requested of the lanes first (`executeRoundSearch_bounded`).
-/

namespace SeekTalent.RoundSearch

open Foundation QueryPlanning
open Rounds (LaneType QueryRole LogicalQueryDispatch)

variable {σ : Type} {rt : SearchRuntime σ} {seen : SeenSets}
variable {requestedCount : Int}

/-! ## The rule of a round -/

section Rule

variable {I : List LaneState → RoundRun σ → Prop}
variable {lanes lanes' : List LaneState} {run : RoundRun σ}
variable {run' : RoundRun σ} {targetNew : Int}

/-- What every collection of one lane keeps, beside any other lanes. -/
def KeptByCollections (rt : SearchRuntime σ) (I : List LaneState → RoundRun σ → Prop) : Prop :=
  ∀ (before after : List LaneState) (requestedCount : Int) (lane lane' : LaneState) (run run' :
    RoundRun σ), I (before ++ lane :: after) run →
    collectCandidatesForQuery rt requestedCount lane run = .ok (lane', run') →
    I (before ++ lane' :: after) run'

lemma KeptByCollections.collectEach (hI : KeptByCollections rt I) {requestedCount : LaneState → Int}
    (before : List LaneState) (hrun : I (before ++ lanes) run)
    (h : collectEach rt requestedCount lanes run = .ok (lanes', run')) :
    I (before ++ lanes') run' := by
  induction lanes generalizing before run lanes' with
  | nil =>
    cases h
    exact hrun
  | cons lane rest ih =>
    obtain ⟨⟨first, next⟩, hfirst, hmore⟩ := bind_eq_ok.mp h
    obtain ⟨⟨others, last⟩, hrest, hend⟩ := bind_eq_ok.mp hmore
    cases hend
    have hnext := hI before rest _ lane first run next hrun hfirst
    rw [List.append_cons] at hnext ⊢
    exact ih _ hnext hrest

lemma KeptByCollections.refillPass (hI : KeptByCollections rt I)
    (before : List LaneState) {progressed : Bool} (hrun : I (before ++ lanes) run)
    (h : refillPass rt targetNew lanes run = .ok (lanes', run', progressed)) :
    I (before ++ lanes') run' := by
  induction lanes generalizing before run lanes' progressed with
  | nil =>
    cases h
    exact hrun
  | cons lane rest ih =>
    rw [RoundSearch.refillPass] at h
    split at h
    · cases h
      exact hrun
    · split at h
      · obtain ⟨⟨first, next⟩, hfirst, hmore⟩ := bind_eq_ok.mp h
        obtain ⟨⟨others, last, went⟩, hrest, hend⟩ := bind_eq_ok.mp hmore
        cases hend
        have hnext := hI before rest _ lane first run next hrun hfirst
        rw [List.append_cons] at hnext ⊢
        exact ih _ hnext hrest
      · obtain ⟨⟨others, last, went⟩, hrest, hend⟩ := bind_eq_ok.mp h
        cases hend
        rw [List.append_cons] at hrun ⊢
        exact ih _ hrun hrest

lemma KeptByCollections.refillLoop (hI : KeptByCollections rt I) {fuel : Nat} (hrun : I lanes run)
    (h : refillLoop rt targetNew fuel lanes run = .ok (lanes', run')) : I lanes' run' := by
  induction fuel generalizing lanes run with
  | zero => cases h
  | succ fuel ih =>
    rw [RoundSearch.refillLoop] at h
    split at h
    · cases h
      exact hrun
    · obtain ⟨⟨others, last, progressed⟩, hpass, hrest⟩ := bind_eq_ok.mp h
      have hlast := hI.refillPass [] hrun hpass
      dsimp only at hrest
      split at hrest
      · exact ih hlast hrest
      · cases hrest
        exact hlast

/-- The search of a round keeps what every collection keeps. -/
theorem KeptByCollections.executeRoundSearch (hI : KeptByCollections rt I)
    {initialTargets : LaneType → Int} {world : σ}
    (hstart : I (lanes.map (LaneState.reset rt.plan)) { world := world, seen := seen })
    (h : executeRoundSearch rt lanes initialTargets targetNew seen world = .ok (lanes', run)) :
    I lanes' run := by
  obtain ⟨⟨first, start⟩, hfirst, hrefill⟩ := bind_eq_ok.mp h
  exact hI.refillLoop (hI.collectEach [] hstart hfirst) hrefill

end Rule

/-! ## New resumes -/

/-- What a lane finds is new and attributed to the lane. -/
def NewOfLane (seen : SeenSets) (attributed : Prop) (laneType : LaneType) (c : Collection σ) :
    Prop :=
  c.lane.laneType = laneType ∧ ∀ found ∈ c.newCandidates, found.dedupKey ∉ seen.dedupKeys ∧
    found.resumeId ∉ seen.resumeIds ∧ (attributed → Attributed laneType found)

/-- What the tool finds for a lane is new and attributed to it. -/
lemma new_of_executeSearchTool {c : Collection σ} {phase : Option LocationExecutionPhase}
    {city : Option String} {page : Int} {world : σ} {run : ToolRun σ}
    {reason : ExhaustedReason}
    (h : executeSearchTool rt.settings rt.provider (toolCall seen c phase city page requestedCount)
      world = .ok (run, reason)) : ∀ found ∈ run.newCandidates, found.dedupKey ∉ seen.dedupKeys ∧
        found.resumeId ∉ seen.resumeIds ∧
        (Unattributed rt.provider → Attributed c.lane.laneType found) := by
  intro found hmem
  obtain ⟨hkey, hresume⟩ := (executeSearchTool_spec h).fresh found hmem
  exact ⟨hkey, hresume, fun hfree => executeSearchTool_attributed hfree h found hmem⟩

lemma kept_newOfLane (rt : SearchRuntime σ) (seen : SeenSets) (laneType : LaneType) :
    KeptByDispatches rt seen (NewOfLane seen (Unattributed rt.provider) laneType) where
  bump h := h
  dispatch _ hc h := by
    obtain ⟨cityState, run, reason, htool, hdispatch⟩ := runCityDispatch_ok h
    obtain ⟨htype, hnew⟩ := hc
    refine ⟨by rw [hdispatch.lane]; exact htype, fun found hmem => ?_⟩
    rw [hdispatch.new] at hmem
    rcases List.mem_append.mp hmem with hmem | hmem
    · exact hnew found hmem
    · have hfound := new_of_executeSearchTool htool found hmem
      rwa [htype] at hfound

/-- A search of a lane finds new resumes, and without several cities no key twice. -/
lemma collectLane_new {c c' : Collection σ} {reason : ExhaustedReason}
    (hpos : 0 < requestedCount) (hnew : c.newCandidates = [])
    (h : collectLane rt seen requestedCount c = .ok (c', reason)) :
    NewOfLane seen (Unattributed rt.provider) c.lane.laneType c' ∧
      (rt.plan.mode = .none ∨ rt.plan.mode = .single →
        (c'.newCandidates.map ResumeCandidate.dedupKey).Nodup) := by
  unfold collectLane at h
  split at h
  · obtain ⟨⟨run, reason⟩, htool, hrest⟩ := bind_eq_ok.mp h
    obtain ⟨c', hregister, hend⟩ := bind_eq_ok.mp hrest
    cases hend
    obtain ⟨outcome, world, -, rfl⟩ := registerDispatch_eq_ok_iff.mp hregister
    simp only [hnew, List.nil_append]
    refine ⟨⟨rfl, fun found hmem => ?_⟩, fun _ => (executeSearchTool_spec htool).nodup⟩
    exact new_of_executeSearchTool htool found (by simpa only [hnew, List.nil_append] using hmem)
  · rename_i hcities
    obtain ⟨last, hdispatches, hend⟩ := bind_eq_ok.mp h
    cases hend
    have hlane := (kept_newOfLane rt seen c.lane.laneType).collectDispatches hpos
      ⟨rfl, fun found hmem => by rw [hnew] at hmem; cases hmem⟩ hdispatches
    refine ⟨hlane, fun hmode => ?_⟩
    have hsingle := hmode.resolve_left hcities
    rw [collectDispatches, hsingle] at hdispatches
    dsimp only at hdispatches
    split at hdispatches
    · cases hdispatches
    · obtain ⟨⟨next, stop⟩, hbatch, rfl⟩ := map_eq_ok.mp hdispatches
      rw [runBatch, if_neg (List.cons_ne_nil _ _)] at hbatch
      obtain ⟨first, hfirst, hrest⟩ := bind_eq_ok.mp hbatch
      obtain ⟨cityState, run, reason, -, hdispatch⟩ := runCityDispatch_ok hfirst
      have hlast : next = first := by
        split at hrest <;> cases hrest <;> rfl
      show (next.newCandidates.map ResumeCandidate.dedupKey).Nodup
      rw [hlast, hdispatch.new, hnew, List.nil_append]
      exact hdispatch.tool.nodup

/-- Two resumes that are the same by key or by id were found by one lane. -/
def SameLane (a b : ResumeCandidate) : Prop :=
  a.dedupKey = b.dedupKey ∨ a.resumeId = b.resumeId →
    a.firstHit.map FirstHit.laneType = b.firstHit.map FirstHit.laneType

/-- What a round has found: it is noted as seen, it was not seen before, no two lanes found the
same, and without several cities no key was found twice. -/
structure RoundRun.Novel (rt : SearchRuntime σ) (seen : SeenSets) (run : RoundRun σ) : Prop where
  dedupKeys : run.seen.dedupKeys = seen.dedupKeys ++ run.newCandidates.map ResumeCandidate.dedupKey
  resumeIds : run.seen.resumeIds = seen.resumeIds ++ run.newCandidates.map ResumeCandidate.resumeId
  fresh : ∀ found ∈ run.newCandidates, found.dedupKey ∉ seen.dedupKeys ∧
    found.resumeId ∉ seen.resumeIds
  lanes : Unattributed rt.provider → run.newCandidates.Pairwise SameLane
  nodup : rt.plan.mode = .none ∨ rt.plan.mode = .single →
    (run.newCandidates.map ResumeCandidate.dedupKey).Nodup

/-- A collection keeps what a round has found. -/
lemma RoundRun.Novel.collect {run run' : RoundRun σ} (hrun : run.Novel rt seen)
    {lane lane' : LaneState}
    (h : collectCandidatesForQuery rt requestedCount lane run = .ok (lane', run')) :
    run'.Novel rt seen := by
  obtain ⟨-, -, rfl⟩ | ⟨hpos, -, c, reason, hlane, -, rfl⟩ := collectCandidatesForQuery_ok h
  · exact hrun
  obtain ⟨⟨-, hnew⟩, hnodup⟩ := collectLane_new hpos rfl hlane
  -- A resume that the lane finds is neither one of the seen ones nor one that the round found
  -- before.
  have hkeys : ∀ found ∈ c.newCandidates, found.dedupKey ∉ seen.dedupKeys ∧
      ∀ old ∈ run.newCandidates, old.dedupKey ≠ found.dedupKey := by
    intro found hmem
    have hkey := (hnew found hmem).1
    rw [hrun.dedupKeys, List.mem_append, not_or] at hkey
    exact ⟨hkey.1, fun old hold heq => hkey.2 (List.mem_map.mpr ⟨old, hold, heq⟩)⟩
  have hids : ∀ found ∈ c.newCandidates, found.resumeId ∉ seen.resumeIds ∧
      ∀ old ∈ run.newCandidates, old.resumeId ≠ found.resumeId := by
    intro found hmem
    have hid := (hnew found hmem).2.1
    rw [hrun.resumeIds, List.mem_append, not_or] at hid
    exact ⟨hid.1, fun old hold heq => hid.2 (List.mem_map.mpr ⟨old, hold, heq⟩)⟩
  constructor
  · simp only [RoundRun.merge, hrun.dedupKeys, List.map_append, List.append_assoc]
  · simp only [RoundRun.merge, hrun.resumeIds, List.map_append, List.append_assoc]
  · intro found hmem
    rcases List.mem_append.mp hmem with hmem | hmem
    · exact hrun.fresh found hmem
    · exact ⟨(hkeys found hmem).1, (hids found hmem).1⟩
  · intro hfree
    refine List.pairwise_append.mpr ⟨hrun.lanes hfree, ?_, fun old hold found hmem heq => ?_⟩
    · refine List.pairwise_of_forall_mem_list fun a ha b hb _ => ?_
      exact ((hnew a ha).2.2 hfree).trans ((hnew b hb).2.2 hfree).symm
    · rcases heq with heq | heq
      · exact absurd heq ((hkeys found hmem).2 old hold)
      · exact absurd heq ((hids found hmem).2 old hold)
  · intro hmode
    show ((run.newCandidates ++ c.newCandidates).map ResumeCandidate.dedupKey).Nodup
    rw [List.map_append]
    refine List.Nodup.append (hrun.nodup hmode) (hnodup hmode) fun key hold hfound => ?_
    obtain ⟨old, hmem, rfl⟩ := List.mem_map.mp hold
    obtain ⟨found, hmem', heq⟩ := List.mem_map.mp hfound
    exact (hkeys found hmem').2 old hmem heq.symm

/-- Whatever the provider returns, a search finds nothing that was seen before, no two lanes find
the same resume (if the provider does not attribute resumes itself), and without several cities no
key is found twice. -/
theorem executeRoundSearch_novel {lanes lanes' : List LaneState} {initialTargets : LaneType → Int}
    {targetNew : Int} {world : σ} {run : RoundRun σ}
    (h : executeRoundSearch rt lanes initialTargets targetNew seen world = .ok (lanes', run)) :
    run.Novel rt seen := by
  have hI : KeptByCollections rt fun _ (run : RoundRun σ) => run.Novel rt seen :=
    fun _ _ _ _ _ _ _ hrun hcollect => hrun.collect hcollect
  exact hI.executeRoundSearch ⟨by simp, by simp, by simp, fun _ => List.Pairwise.nil,
    fun _ => List.nodup_nil⟩ h

theorem executeRoundSearch_novel_twoCity : ∃ lanes run, twoCitySearch = .ok (lanes, run) ∧
    run.Novel twoCityRuntime ⟨[], []⟩ := by
  obtain ⟨lanes, run, hok, -⟩ := twoCitySearch_ok
  exact ⟨lanes, run, hok, executeRoundSearch_novel hok⟩

/-! ## No more than wanted -/

section Bounded

variable {phase : LocationExecutionPhase} {requestedCount : Int} {c c' : Collection σ}
    {stopped : Bool}

/-- A dispatch finds at most what it is asked for. -/
lemma length_new_runCityDispatch (hbounded : PageBounded rt.provider) {city : String}
    (h : runCityDispatch rt seen phase city requestedCount c = .ok c') :
    (c'.newCandidates.length : Int) ≤ c.newCandidates.length + max requestedCount 0 := by
  obtain ⟨cityState, run, reason, htool, hdispatch⟩ := runCityDispatch_ok h
  have hrun : (run.newCandidates.length : Int) ≤ max requestedCount 0 :=
    executeSearchTool_bounded hbounded htool
  rw [hdispatch.new, List.length_append]
  push_cast
  omega

/-- Dispatches find at most what they are asked for together. -/
lemma length_new_runDispatches (hbounded : PageBounded rt.provider) {targets : List (String × Int)}
    (hpos : ∀ entry ∈ targets, 0 < entry.2)
    (h : runDispatches rt seen phase targets c = .ok (c', stopped)) :
    (c'.newCandidates.length : Int) ≤ c.newCandidates.length + (targets.map Prod.snd).sum := by
  induction targets generalizing c with
  | nil =>
    cases h
    simp
  | cons entry rest ih =>
    obtain ⟨city, count⟩ := entry
    have hcount : 0 < count := hpos (city, count) List.mem_cons_self
    have hmore : ∀ entry ∈ rest, 0 < entry.2 := fun entry hmem =>
      hpos entry (List.mem_cons_of_mem _ hmem)
    have hsum : 0 ≤ (rest.map Prod.snd).sum :=
      List.sum_nonneg fun share hshare => by
        obtain ⟨entry, hmem, rfl⟩ := List.mem_map.mp hshare
        exact (hmore entry hmem).le
    obtain ⟨next, hfirst, hrest⟩ := bind_eq_ok.mp h
    have hnext := length_new_runCityDispatch hbounded hfirst
    rw [List.map_cons, List.sum_cons]
    split at hrest
    · have hlast := ih hmore hrest
      omega
    · cases hrest
      omega

/-- A batch finds at most what it is asked for. -/
lemma length_new_runBatch (hbounded : PageBounded rt.provider) {targets : List (String × Int)}
    (hpos : ∀ entry ∈ targets, 0 < entry.2)
    (h : runBatch rt seen phase targets c = .ok (c', stopped)) :
    (c'.newCandidates.length : Int) ≤ c.newCandidates.length + (targets.map Prod.snd).sum := by
  unfold runBatch at h
  split at h
  · rename_i hnil
    cases h
    simp [hnil]
  · have hfound := length_new_runDispatches hbounded hpos h
    exact hfound

lemma length_new_priorityLoop (hbounded : PageBounded rt.provider) {cities : List String}
    (hc : (c.newCandidates.length : Int) ≤ requestedCount)
    (h : priorityLoop rt seen requestedCount cities c = .ok (c', stopped)) :
    (c'.newCandidates.length : Int) ≤ requestedCount := by
  induction cities generalizing c with
  | nil =>
    cases h
    exact hc
  | cons city rest ih =>
    rw [priorityLoop] at h
    split at h
    · cases h
      exact hc
    · rename_i hgap
      obtain ⟨⟨next, stop⟩, hbatch, hrest⟩ := bind_eq_ok.mp h
      have hnext := length_new_runBatch hbounded (fun entry hmem => by
        rw [List.mem_singleton.mp hmem]
        exact not_le.mp hgap) hbatch
      simp only [List.map_cons, List.map_nil, List.sum_cons, List.sum_nil] at hnext
      dsimp only at hrest
      split at hrest
      · cases hrest
        omega
      · exact ih (by omega) hrest

lemma length_new_balancedLoop (hbounded : PageBounded rt.provider) {fuel : Nat}
    (hc : (c.newCandidates.length : Int) ≤ requestedCount)
    (h : balancedLoop rt seen requestedCount fuel c = .ok c') :
    (c'.newCandidates.length : Int) ≤ requestedCount := by
  induction fuel generalizing c with
  | zero => cases h
  | succ fuel ih =>
    rw [balancedLoop] at h
    split at h
    · cases h
      exact hc
    · rename_i hgap
      split at h
      · cases h
        exact hc
      · rename_i hactive
        split at h
        · cases h
          exact hc
        · obtain ⟨⟨next, stop⟩, hbatch, hrest⟩ := bind_eq_ok.mp h
          have hnext := length_new_runBatch hbounded
            (fun entry hmem => (requested_pos_of_mem hmem).2) hbatch
          rw [sum_allocateBalancedCityTargets hactive (not_le.mp hgap)] at hnext
          dsimp only at hrest
          split at hrest
          · cases hrest
            omega
          · exact ih (by omega) hrest

/-- A search of a lane finds at most what is requested of it. -/
lemma length_new_collectLane (hbounded : PageBounded rt.provider) {reason : ExhaustedReason}
    (hpos : 0 < requestedCount) (hnew : c.newCandidates = [])
    (h : collectLane rt seen requestedCount c = .ok (c', reason)) :
    (c'.newCandidates.length : Int) ≤ requestedCount := by
  have hc : (c.newCandidates.length : Int) ≤ requestedCount := by
    rw [hnew]
    exact hpos.le
  unfold collectLane at h
  split at h
  · obtain ⟨⟨run, reason⟩, htool, hrest⟩ := bind_eq_ok.mp h
    obtain ⟨c', hregister, hend⟩ := bind_eq_ok.mp hrest
    cases hend
    obtain ⟨outcome, world, -, rfl⟩ := registerDispatch_eq_ok_iff.mp hregister
    have hrun : (run.newCandidates.length : Int) ≤ max requestedCount 0 :=
      executeSearchTool_bounded hbounded htool
    simp only [hnew, List.nil_append]
    omega
  · obtain ⟨last, hdispatches, hend⟩ := bind_eq_ok.mp h
    cases hend
    show (last.newCandidates.length : Int) ≤ requestedCount
    unfold collectDispatches at hdispatches
    split at hdispatches
    · cases hdispatches
      exact hc
    · split at hdispatches
      · cases hdispatches
      · obtain ⟨⟨next, stop⟩, hbatch, rfl⟩ := map_eq_ok.mp hdispatches
        have hnext := length_new_runBatch hbounded
          (fun entry hmem => by rwa [List.mem_singleton.mp hmem]) hbatch
        simpa [hnew] using hnext
    · exact length_new_balancedLoop hbounded hc hdispatches
    · obtain ⟨⟨next, stop⟩, hpriority, hrest⟩ := bind_eq_ok.mp hdispatches
      have hnext := length_new_priorityLoop hbounded hc hpriority
      dsimp only at hrest
      split at hrest
      · cases hrest
        exact hnext
      · exact length_new_balancedLoop hbounded hnext hrest

end Bounded

section BoundedRound

variable {targetNew : Int} {lanes lanes' : List LaneState} {run run' : RoundRun σ}

/-- A collection finds at most what is requested. -/
lemma length_new_collect (hbounded : PageBounded rt.provider) {requestedCount : Int}
    {lane lane' : LaneState}
    (h : collectCandidatesForQuery rt requestedCount lane run = .ok (lane', run')) :
    (run'.newCandidates.length : Int) ≤ run.newCandidates.length + max requestedCount 0 := by
  obtain ⟨-, -, rfl⟩ | ⟨hpos, -, c, reason, hlane, -, rfl⟩ := collectCandidatesForQuery_ok h
  · omega
  · have hfound := length_new_collectLane hbounded hpos rfl hlane
    simp only [RoundRun.merge, List.length_append]
    push_cast
    omega

lemma length_new_collectEach (hbounded : PageBounded rt.provider) {requestedCount : LaneState → Int}
    (h : collectEach rt requestedCount lanes run = .ok (lanes', run')) :
    (run'.newCandidates.length : Int) ≤
      run.newCandidates.length + (lanes.map fun lane => max (requestedCount lane) 0).sum := by
  induction lanes generalizing run lanes' with
  | nil =>
    cases h
    simp
  | cons lane rest ih =>
    obtain ⟨⟨first, next⟩, hfirst, hmore⟩ := bind_eq_ok.mp h
    obtain ⟨⟨others, last⟩, hrest, hend⟩ := bind_eq_ok.mp hmore
    cases hend
    have hnext := length_new_collect hbounded hfirst
    have hlast := ih hrest
    rw [List.map_cons, List.sum_cons]
    omega

lemma length_new_refillPass_le (hbounded : PageBounded rt.provider) {progressed : Bool}
    (h : refillPass rt targetNew lanes run = .ok (lanes', run', progressed)) :
    (run'.newCandidates.length : Int) ≤ max (run.newCandidates.length : Int) targetNew := by
  induction lanes generalizing run lanes' progressed with
  | nil =>
    cases h
    exact le_max_left _ _
  | cons lane rest ih =>
    rw [refillPass] at h
    split at h
    · cases h
      exact le_max_left _ _
    · split at h
      · obtain ⟨⟨first, next⟩, hfirst, hmore⟩ := bind_eq_ok.mp h
        obtain ⟨⟨others, last, went⟩, hrest, hend⟩ := bind_eq_ok.mp hmore
        cases hend
        have hnext := length_new_collect hbounded hfirst
        have hlast := ih hrest
        omega
      · obtain ⟨⟨others, last, went⟩, hrest, hend⟩ := bind_eq_ok.mp h
        cases hend
        exact ih hrest

lemma length_new_refillLoop_le (hbounded : PageBounded rt.provider) {fuel : Nat}
    (h : refillLoop rt targetNew fuel lanes run = .ok (lanes', run')) :
    (run'.newCandidates.length : Int) ≤ max (run.newCandidates.length : Int) targetNew := by
  induction fuel generalizing lanes run with
  | zero => cases h
  | succ fuel ih =>
    rw [refillLoop] at h
    split at h
    · cases h
      exact le_max_left _ _
    · obtain ⟨⟨others, last, progressed⟩, hpass, hrest⟩ := bind_eq_ok.mp h
      have hlast := length_new_refillPass_le hbounded hpass
      dsimp only at hrest
      split at hrest
      · have hmore := ih hrest
        omega
      · cases hrest
        exact hlast

end BoundedRound

/-- If the provider never returns more than the page it is asked for, a search never finds more than
its target or, where that is more, than what was requested of the lanes first. -/
theorem executeRoundSearch_bounded {lanes lanes' : List LaneState} {initialTargets : LaneType → Int}
    {targetNew : Int} {world : σ} {run : RoundRun σ} (hbounded : PageBounded rt.provider)
    (h : executeRoundSearch rt lanes initialTargets targetNew seen world = .ok (lanes', run)) :
    (run.newCandidates.length : Int) ≤
      max (lanes.map fun lane => max (initialTargets lane.laneType) 0).sum targetNew := by
  obtain ⟨⟨first, start⟩, hfirst, hrefill⟩ := bind_eq_ok.mp h
  have hstart := length_new_collectEach hbounded hfirst
  have hend := length_new_refillLoop_le hbounded hrefill
  rw [List.map_map] at hstart
  simp only [List.length_nil, Nat.cast_zero, zero_add] at hstart
  exact hend.trans (max_le_max_right _ hstart)

theorem executeRoundSearch_bounded_twoCity : ∃ lanes run, twoCitySearch = .ok (lanes, run) ∧
    (run.newCandidates.length : Int) ≤ max 3 3 := by
  obtain ⟨lanes, run, hok, -⟩ := twoCitySearch_ok
  have hbounded : PageBounded twoCityRuntime.provider := by
    intro world query fetched world' hpos hanswer
    simp only [twoCityRuntime] at hanswer
    split at hanswer <;> cases hanswer
    · exact Int.add_one_le_of_lt hpos
    · exact hpos.le
  exact ⟨lanes, run, hok, executeRoundSearch_bounded hbounded hok⟩

end SeekTalent.RoundSearch
