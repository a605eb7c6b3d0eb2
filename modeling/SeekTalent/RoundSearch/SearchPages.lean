import Mathlib.Algebra.BigOperators.Group.List.Basic
import Mathlib.Algebra.Group.Action.Defs
import SeekTalent.Foundation.FirstClaims
import SeekTalent.RoundSearch.SearchResults

/-!
# The pages of a round's search

Each lane asks for the pages of each city (or of its query, in a plan without cities) one after the
other, from the first one and none beyond the last one that the settings allow, over all its
dispatches and refills (`executeRoundSearch_pages`).  So the whole search calls the provider at most
once for each lane, city and page.
-/

namespace SeekTalent.RoundSearch

open Foundation QueryPlanning
open Rounds (LaneType QueryRole LogicalQueryDispatch)

variable {σ : Type} {rt : SearchRuntime σ} {seen : SeenSets}

/-! ## Places -/

/-- The lane and the place of an attempt. -/
def SearchAttempt.place (attempt : SearchAttempt) : LaneType × Option String :=
  (attempt.query.laneType, attempt.query.city)

/-- The pages that were asked for in a lane at a place, in order. -/
def pagesOf (place : LaneType × Option String) (attempts : List SearchAttempt) : List Int :=
  (attempts.filter fun attempt => attempt.place = place).map fun attempt => attempt.query.page

/-- The places that a plan has. -/
def places (plan : LocationExecutionPlan) : List (Option String) :=
  if plan.mode = .none then [none] else plan.allowedLocations.dedup.map some

/-- The next page of a lane at a place. -/
def LaneState.pageAt (lane : LaneState) : Option String → Int
  | none => lane.nextPage
  | some city =>
    match lane.cityStates.lookup city with
    | some cityState => cityState.nextPage
    | none => 1

lemma nodup_places (plan : LocationExecutionPlan) : (places plan).Nodup := by
  unfold places
  split
  · exact List.nodup_singleton none
  · exact (List.nodup_dedup plan.allowedLocations).map (Option.some_injective String)

lemma pagesOf_append (place : LaneType × Option String) (first second : List SearchAttempt) :
    pagesOf place (first ++ second) = pagesOf place first ++ pagesOf place second := by
  rw [pagesOf, List.filter_append, List.map_append, pagesOf, pagesOf]

/-- Attempts at one place. -/
lemma pagesOf_eq_map {place : LaneType × Option String} {attempts : List SearchAttempt}
    (h : ∀ attempt ∈ attempts, attempt.place = place) :
    pagesOf place attempts = attempts.map fun attempt => attempt.query.page := by
  rw [pagesOf, List.filter_eq_self.mpr fun attempt hmem => decide_eq_true (h attempt hmem)]

/-- Attempts at another place. -/
lemma pagesOf_eq_nil {place other : LaneType × Option String} {attempts : List SearchAttempt}
    (h : ∀ attempt ∈ attempts, attempt.place = place) (hother : other ≠ place) :
    pagesOf other attempts = [] := by
  rw [pagesOf, List.filter_eq_nil_iff.mpr, List.map_nil]
  intro attempt hmem heq
  exact hother ((of_decide_eq_true heq).symm.trans (h attempt hmem))

/-! ## One search -/

/-- The pages `1, ..., n` were asked for, and page `n + 1` is the next one. -/
def PagesTo (settings : SearchSettings) (pages : List Int) (next : Int) : Prop :=
  ∃ n : Nat, pages = countAfter 0 n ∧ n ≤ settings.searchMaxPagesPerRound ∧ next = n + 1

section Tool

variable {c : Collection σ} {phase : Option LocationExecutionPhase} {city : Option String}
  {page requestedCount : Int} {run : ToolRun σ} {reason : ExhaustedReason}
  {settings : SearchSettings}

/-- The attempts of a search are at its place. -/
lemma place_of_tool
    (h : ToolSpec settings (toolCall seen c phase city page requestedCount) run reason) :
    ∀ attempt ∈ run.attempts, attempt.place = (c.lane.laneType, city) := by
  intro attempt hmem
  obtain ⟨htype, -, hcity⟩ := h.queries attempt hmem
  exact Prod.ext htype hcity

/-- A search goes on with the pages. -/
lemma PagesTo.tool {base : List SearchAttempt}
    (hpages : PagesTo settings (pagesOf (c.lane.laneType, city) base) page)
    (h : ToolSpec settings (toolCall seen c phase city page requestedCount) run reason) :
    PagesTo settings (pagesOf (c.lane.laneType, city) (base ++ run.attempts))
      (nextPageAfter page run) := by
  obtain ⟨n, hbase, hn, hpage⟩ := hpages
  have hstart : max (toolCall seen c phase city page requestedCount).query.page 1 - 1 =
      (n : Int) := by
    show max page 1 - 1 = (n : Int)
    omega
  have hasked := h.pages
  rw [hstart] at hasked
  have hall : pagesOf (c.lane.laneType, city) (base ++ run.attempts) =
      countAfter 0 (n + run.attempts.length) := by
    rw [pagesOf_append, hbase, pagesOf_eq_map (place_of_tool h), hasked, countAfter_add, zero_add]
  refine ⟨n + run.attempts.length, hall, ?_, ?_⟩
  · by_cases hnone : run.attempts = []
    · rw [hnone, List.length_nil, Nat.add_zero]
      exact hn
    · have hpos : 0 < run.attempts.length := List.length_pos_iff.mpr hnone
      have hmem : ((n + run.attempts.length : Nat) : Int) ∈ countAfter (n : Int)
          run.attempts.length :=
        mem_countAfter.mpr (by omega)
      rw [← hasked] at hmem
      obtain ⟨attempt, hattempt, hlast⟩ := List.mem_map.mp hmem
      have hle := h.last attempt hattempt
      omega
  · unfold nextPageAfter
    have hlast := getLast_countAfter (n : Int) run.attempts.length
    rw [← hasked, List.getLast?_map] at hlast
    cases hget : run.attempts.getLast? with
    | none =>
      rw [List.getLast?_eq_none_iff.mp hget, List.length_nil, Nat.add_zero]
      exact hpage
    | some attempt =>
      rw [hget] at hlast
      simp only [Option.map_some, Option.getD_some] at hlast
      dsimp only
      omega

end Tool

/-! ## One lane -/

/-- The pages of a lane, at every place, and the cities it knows. -/
structure LanePages (rt : SearchRuntime σ) (attempts : List SearchAttempt) (lane : LaneState) :
    Prop where
  pages : ∀ city, PagesTo rt.settings (pagesOf (lane.laneType, city) attempts) (lane.pageAt city)
  cities : ∀ city, (lane.cityStates.lookup city).isSome = true → city ∈ rt.plan.allowedLocations

/-- The pages of a lane during a search, and the places of the attempts that it makes. -/
structure CollectionPages (rt : SearchRuntime σ) (base : List SearchAttempt) (laneType : LaneType)
    (c : Collection σ) : Prop where
  lane : c.lane.laneType = laneType
  kept : LanePages rt (base ++ c.searchAttempts) c.lane
  own : ∀ attempt ∈ c.searchAttempts, attempt.query.laneType = laneType ∧
    attempt.query.city ∈ places rt.plan

/-- A dispatch goes on with the pages of its city. -/
lemma CollectionPages.dispatch {base : List SearchAttempt} {laneType : LaneType}
    (hmode : rt.plan.mode ≠ .none) {phase : LocationExecutionPhase} {city : String}
    {requestedCount : Int} {c c' : Collection σ} (hc : CollectionPages rt base laneType c)
    (h : runCityDispatch rt seen phase city requestedCount c = .ok c') :
    CollectionPages rt base laneType c' := by
  obtain ⟨cityState, run, reason, -, hdispatch⟩ := runCityDispatch_ok h
  obtain rfl := hc.lane
  have htype : c'.lane.laneType = c.lane.laneType := by rw [hdispatch.lane]
  have hallowed : city ∈ rt.plan.allowedLocations :=
    hc.kept.cities city (by rw [hdispatch.lookup]; rfl)
  have hat : c.lane.pageAt (some city) = cityState.nextPage := by
    unfold LaneState.pageAt
    dsimp only
    rw [hdispatch.lookup]
  have hplace := place_of_tool hdispatch.tool
  refine ⟨htype, ⟨fun other => ?_, fun other hother => ?_⟩, fun attempt hmem => ?_⟩
  · rw [htype, hdispatch.attempts, ← List.append_assoc]
    by_cases hcity : other = some city
    · subst hcity
      have hpages := hc.kept.pages (some city)
      rw [hat] at hpages
      have hnext : c'.lane.pageAt (some city) = nextPageAfter cityState.nextPage run := by
        unfold LaneState.pageAt
        rw [hdispatch.lane]
        dsimp only
        rw [AList.lookup_insert]
      rw [hnext]
      exact hpages.tool hdispatch.tool
    · have hsame : c'.lane.pageAt other = c.lane.pageAt other := by
        unfold LaneState.pageAt
        rw [hdispatch.lane]
        cases other with
        | none => rfl
        | some name =>
          dsimp only
          rw [AList.lookup_insert_ne fun heq => hcity (congrArg some heq)]
      rw [hsame, pagesOf_append, pagesOf_eq_nil hplace fun heq => hcity (Prod.ext_iff.mp heq).2,
        List.append_nil]
      exact hc.kept.pages other
  · rw [hdispatch.lane] at hother
    by_cases hcity : other = city
    · rwa [hcity]
    · rw [AList.lookup_insert_ne hcity] at hother
      exact hc.kept.cities other hother
  · rw [hdispatch.attempts] at hmem
    rcases List.mem_append.mp hmem with hmem | hmem
    · exact hc.own attempt hmem
    · obtain ⟨hlane, hcity⟩ := Prod.ext_iff.mp (hplace attempt hmem)
      refine ⟨hlane, ?_⟩
      have hcity : attempt.query.city = some city := hcity
      rw [hcity, places, if_neg hmode]
      exact List.mem_map.mpr ⟨city, List.mem_dedup.mpr hallowed, rfl⟩

lemma kept_collectionPages (seen : SeenSets) (base : List SearchAttempt) (laneType : LaneType)
    (hmode : rt.plan.mode ≠ .none) :
    KeptByDispatches rt seen (CollectionPages rt base laneType) where
  bump h := ⟨h.lane, h.kept, h.own⟩
  dispatch _ hc h := hc.dispatch hmode h

/-- A search of a lane goes on with its pages. -/
lemma collectLane_pages {requestedCount : Int} {c c' : Collection σ} {reason : ExhaustedReason}
    {base : List SearchAttempt} {laneType : LaneType} (hpos : 0 < requestedCount)
    (hc : CollectionPages rt base laneType c)
    (h : collectLane rt seen requestedCount c = .ok (c', reason)) :
    CollectionPages rt base laneType c' := by
  unfold collectLane at h
  split at h
  · rename_i hmode
    obtain ⟨⟨run, reason⟩, htool, hrest⟩ := bind_eq_ok.mp h
    obtain ⟨c', hregister, hend⟩ := bind_eq_ok.mp hrest
    cases hend
    obtain ⟨outcome, world, -, rfl⟩ := registerDispatch_eq_ok_iff.mp hregister
    have hspec := executeSearchTool_spec htool
    have hplace := place_of_tool hspec
    refine ⟨hc.lane, ⟨fun other => ?_, hc.kept.cities⟩, fun attempt hmem => ?_⟩
    · show PagesTo rt.settings
        (pagesOf (c.lane.laneType, other) (base ++ (c.searchAttempts ++ run.attempts)))
        (LaneState.pageAt _ other)
      rw [← List.append_assoc]
      cases other with
      | none =>
        have hpages : PagesTo rt.settings
            (pagesOf (LaneState.laneType (Collection.lane { c with batchNo := c.batchNo + 1 }),
              none) (base ++ c.searchAttempts))
            c.lane.nextPage := hc.kept.pages none
        exact hpages.tool hspec
      | some city =>
        rw [pagesOf_append, pagesOf_eq_nil hplace (by simp), List.append_nil]
        exact hc.kept.pages (some city)
    · rcases List.mem_append.mp hmem with hmem | hmem
      · exact hc.own attempt hmem
      · obtain ⟨hlane, hcity⟩ := Prod.ext_iff.mp (hplace attempt hmem)
        have hcity : attempt.query.city = none := hcity
        refine ⟨hlane.trans hc.lane, ?_⟩
        rw [hcity, places, if_pos hmode]
        exact List.mem_singleton.mpr rfl
  · rename_i hmode
    obtain ⟨last, hdispatches, hend⟩ := bind_eq_ok.mp h
    cases hend
    have hlast :=
      (kept_collectionPages seen base laneType hmode).collectDispatches hpos hc hdispatches
    exact ⟨hlast.lane, ⟨hlast.kept.pages, hlast.kept.cities⟩, hlast.own⟩

/-! ## The round -/

/-- The pages of all lanes of a round. -/
structure RoundPages (rt : SearchRuntime σ) (types : List LaneType) (lanes : List LaneState)
    (run : RoundRun σ) : Prop where
  laneTypes : lanes.map LaneState.laneType = types
  pages : ∀ lane ∈ lanes, LanePages rt run.searchAttempts lane
  own : ∀ attempt ∈ run.searchAttempts, attempt.query.laneType ∈ types ∧
    attempt.query.city ∈ places rt.plan

/-- Attempts of another lane do not change the pages of a lane. -/
lemma LanePages.append {base more : List SearchAttempt} {lane : LaneState}
    (h : LanePages rt base lane)
    (hother : ∀ attempt ∈ more, attempt.query.laneType ≠ lane.laneType) :
    LanePages rt (base ++ more) lane := by
  refine ⟨fun city => ?_, h.cities⟩
  have hnone : pagesOf (lane.laneType, city) more = [] := by
    rw [pagesOf, List.filter_eq_nil_iff.mpr, List.map_nil]
    intro attempt hmem heq
    exact hother attempt hmem (Prod.ext_iff.mp (of_decide_eq_true heq)).1
  rw [pagesOf_append, hnone, List.append_nil]
  exact h.pages city

/-- A collection of one lane keeps the pages of all lanes. -/
lemma kept_roundPages (rt : SearchRuntime σ) {types : List LaneType} (hnodup : types.Nodup) :
    KeptByCollections rt (RoundPages rt types) := by
  intro before after requestedCount lane lane' run run' hrun h
  obtain ⟨-, rfl, rfl⟩ | ⟨hpos, -, c, reason, hlane, rfl, rfl⟩ := collectCandidatesForQuery_ok h
  · exact hrun
  have hmem : lane ∈ before ++ lane :: after := List.mem_append_right _ List.mem_cons_self
  have htypes := hrun.laneTypes
  have hstart : CollectionPages rt run.searchAttempts lane.laneType (run.collection lane) := by
    refine ⟨rfl, ?_, fun attempt hattempt => absurd hattempt List.not_mem_nil⟩
    show LanePages rt (run.searchAttempts ++ []) lane
    rw [List.append_nil]
    exact hrun.pages lane hmem
  have hlast := collectLane_pages hpos hstart hlane
  have hlaneType : lane.laneType ∈ types := by
    rw [← htypes]
    exact List.mem_map.mpr ⟨lane, hmem, rfl⟩
  -- The other lanes are of other types.
  have hothers : ∀ other ∈ before ++ after, other.laneType ≠ lane.laneType := by
    have hperm : (before ++ lane :: after).Perm (lane :: (before ++ after)) := List.perm_middle
    have hdistinct := (hperm.map LaneState.laneType).nodup_iff.mp (htypes ▸ hnodup)
    rw [List.map_cons, List.nodup_cons] at hdistinct
    exact fun other hother heq => hdistinct.1 (List.mem_map.mpr ⟨other, hother, heq⟩)
  have hkept : ∀ other ∈ before ++ after,
      LanePages rt (run.searchAttempts ++ c.searchAttempts) other := by
    intro other hother
    have hmem' : other ∈ before ++ lane :: after := by
      rcases List.mem_append.mp hother with hother | hother
      · exact List.mem_append_left _ hother
      · exact List.mem_append_right _ (List.mem_cons_of_mem _ hother)
    refine (hrun.pages other hmem').append fun attempt hattempt => ?_
    rw [(hlast.own attempt hattempt).1]
    exact (hothers other hother).symm
  refine ⟨?_, fun other hother => ?_, fun attempt hattempt => ?_⟩
  · rw [← htypes, List.map_append, List.map_append, List.map_cons, List.map_cons, hlast.lane]
  · show LanePages rt (run.searchAttempts ++ c.searchAttempts) other
    rcases List.mem_append.mp hother with hother | hother
    · exact hkept other (List.mem_append_left _ hother)
    · rcases List.mem_cons.mp hother with rfl | hother
      · exact hlast.kept
      · exact hkept other (List.mem_append_right _ hother)
  · rcases List.mem_append.mp hattempt with hattempt | hattempt
    · exact hrun.own attempt hattempt
    · obtain ⟨htype, hcity⟩ := hlast.own attempt hattempt
      exact ⟨by rwa [htype], hcity⟩

/-- The cities of a lane at the start of a search. -/
lemma lookup_reset (plan : LocationExecutionPlan) (lane : LaneState) (city : String) :
    (lane.reset plan).cityStates.lookup city =
      if plan.mode ≠ .none ∧ city ∈ plan.allowedLocations then some {} else none := by
  unfold LaneState.reset
  dsimp only
  by_cases hmode : plan.mode = .none
  · rw [if_pos hmode, if_neg fun h => h.1 hmode]
    rfl
  · have hlookup :=
      Dict.lookup_foldl_insert plan.allowedLocations (fun _ => ({} : CityExecutionState)) ∅ city
    rw [if_neg hmode]
    exact hlookup.trans (by simp [hmode])

/-- The pages at the start of a search. -/
lemma roundPages_start (rt : SearchRuntime σ) (lanes : List LaneState) (world : σ) :
    RoundPages rt (lanes.map LaneState.laneType) (lanes.map (LaneState.reset rt.plan))
      { world := world, seen := seen } := by
  refine ⟨?_, fun lane hmem => ?_, fun attempt hattempt => absurd hattempt List.not_mem_nil⟩
  · rw [List.map_map]
    rfl
  · obtain ⟨lane, -, rfl⟩ := List.mem_map.mp hmem
    refine ⟨fun city => ⟨0, rfl, Nat.zero_le _, ?_⟩, fun city hcity => ?_⟩
    · cases city with
      | none => rfl
      | some city =>
        unfold LaneState.pageAt
        dsimp only
        rw [lookup_reset]
        split_ifs <;> rfl
    · rw [lookup_reset] at hcity
      by_cases hallowed : rt.plan.mode ≠ .none ∧ city ∈ rt.plan.allowedLocations
      · exact hallowed.2
      · rw [if_neg hallowed] at hcity
        cases hcity

/-- A count as a sum of ones. -/
lemma sum_map_one {α : Type*} (l : List α) : (l.map fun _ => 1).sum = l.length := by
  rw [List.map_const', List.sum_replicate, smul_eq_mul, mul_one]

/-- The pages that a search asks for in a lane at a place are `1, ..., n`, each once and in order,
and none beyond the last page of the settings; so the provider answers at most once for each lane,
place and page. -/
lemma executeRoundSearch_pages {lanes lanes' : List LaneState} {initialTargets : LaneType → Int}
    {targetNew : Int} {world : σ} {run : RoundRun σ}
    (hlanes : (lanes.map LaneState.laneType).Nodup)
    (h : executeRoundSearch rt lanes initialTargets targetNew seen world = .ok (lanes', run)) :
    (∀ place, ∃ n ≤ rt.settings.searchMaxPagesPerRound,
      pagesOf place run.searchAttempts = countAfter 0 n) ∧
    run.searchAttempts.length ≤
      lanes.length * (places rt.plan).length * rt.settings.searchMaxPagesPerRound := by
  have hrun := (kept_roundPages rt hlanes).executeRoundSearch (roundPages_start rt lanes world) h
  have hpages : ∀ place, ∃ n ≤ rt.settings.searchMaxPagesPerRound,
      pagesOf place run.searchAttempts = countAfter 0 n := by
    rintro ⟨laneType, city⟩
    by_cases htype : laneType ∈ lanes.map LaneState.laneType
    · rw [← hrun.laneTypes] at htype
      obtain ⟨lane, hmem, rfl⟩ := List.mem_map.mp htype
      obtain ⟨n, hn, hle, -⟩ := (hrun.pages lane hmem).pages city
      exact ⟨n, hle, hn⟩
    · refine ⟨0, Nat.zero_le _, ?_⟩
      rw [pagesOf, List.filter_eq_nil_iff.mpr, List.map_nil]
      · rfl
      · intro attempt hmem heq
        obtain ⟨hlane, -⟩ := Prod.ext_iff.mp (of_decide_eq_true heq)
        have hlane : attempt.query.laneType = laneType := hlane
        exact htype (hlane ▸ (hrun.own attempt hmem).1)
  refine ⟨hpages, ?_⟩
  -- Every attempt is at one of the lanes and places, and there are few enough at each.
  have hnodup : ((lanes.map LaneState.laneType).product (places rt.plan)).Nodup :=
    hlanes.product (nodup_places rt.plan)
  have hcover : ∀ attempt ∈ run.searchAttempts,
      attempt.place ∈ (lanes.map LaneState.laneType).product (places rt.plan) :=
    fun attempt hmem => List.mem_product.mpr (hrun.own attempt hmem)
  have hsum := sum_map_filter_of_cover hnodup SearchAttempt.place (fun _ => 1) hcover
  have hle : ∀ count ∈ ((lanes.map LaneState.laneType).product (places rt.plan)).map fun place =>
      ((run.searchAttempts.filter fun attempt => attempt.place = place).map fun _ => 1).sum,
      count ≤ rt.settings.searchMaxPagesPerRound := by
    intro count hmem
    obtain ⟨place, -, rfl⟩ := List.mem_map.mp hmem
    obtain ⟨n, hn, heq⟩ := hpages place
    have hlength := congrArg List.length heq
    rw [pagesOf, List.length_map, length_countAfter] at hlength
    rw [sum_map_one]
    omega
  have hbound := List.sum_le_card_nsmul _ _ hle
  have hcard : ((lanes.map LaneState.laneType).product (places rt.plan)).length =
      lanes.length * (places rt.plan).length := by
    rw [List.product, List.length_flatMap]
    simp [Function.comp_def]
  rwa [hsum, sum_map_one, List.length_map, hcard, smul_eq_mul] at hbound

/-- The lanes of logical queries are of distinct types. -/
lemma laneStates_ok {queries : List LogicalQueryDispatch} {known : List LaneType}
    {lanes : List LaneState} (h : laneStates queries known = .ok lanes) :
    lanes.map LaneState.laneType = queries.map LogicalQueryDispatch.laneType ∧
      (lanes.map LaneState.laneType).Nodup ∧ ∀ lane ∈ lanes, lane.laneType ∉ known := by
  induction queries generalizing known lanes with
  | nil =>
    cases h
    exact ⟨rfl, List.nodup_nil, fun lane hmem => absurd hmem List.not_mem_nil⟩
  | cons query rest ih =>
    rw [laneStates] at h
    split at h
    · cases h
    · rename_i hnew
      obtain ⟨others, hothers, hend⟩ := bind_eq_ok.mp h
      cases hend
      obtain ⟨htypes, hnodup, hknown⟩ := ih hothers
      refine ⟨by rw [List.map_cons, List.map_cons, htypes], ?_, fun lane hmem => ?_⟩
      · rw [List.map_cons, List.nodup_cons]
        refine ⟨fun hmem => ?_, hnodup⟩
        obtain ⟨lane, hlane, heq⟩ := List.mem_map.mp hmem
        exact hknown lane hlane (by simp [heq])
      · rcases List.mem_cons.mp hmem with rfl | hmem
        · exact hnew
        · exact fun hseen => hknown lane hmem (List.mem_append_left _ hseen)

/-- The pages that a search of logical queries asks for: a search with two queries of one lane type
is refused. -/
theorem executeLogicalDispatchSearch_pages {queries : List LogicalQueryDispatch}
    {lanes : List LaneState} {targetNew : Int} {world : σ} {run : RoundRun σ}
    (h : executeLogicalDispatchSearch rt queries targetNew seen world = .ok (lanes, run)) :
    (queries.map LogicalQueryDispatch.laneType).Nodup ∧
    (∀ place, ∃ n ≤ rt.settings.searchMaxPagesPerRound,
      pagesOf place run.searchAttempts = countAfter 0 n) ∧
    run.searchAttempts.length ≤
      queries.length * (places rt.plan).length * rt.settings.searchMaxPagesPerRound := by
  obtain ⟨start, hstart, hsearch⟩ := bind_eq_ok.mp h
  obtain ⟨htypes, hnodup, -⟩ := laneStates_ok hstart
  have hlength : start.length = queries.length := by
    simpa only [List.length_map] using congrArg List.length htypes
  rw [← hlength]
  exact ⟨htypes ▸ hnodup, executeRoundSearch_pages hnodup hsearch⟩

/-- One query. -/
def exploitQuery : LogicalQueryDispatch where
  roundNo := 1
  queryRole := .exploit
  laneType := .exploit
  queryInstanceId := "q1"
  queryFingerprint := "f1"
  termGroupKey := "g1"
  primaryAnchorFamilyId := "a1"
  nonAnchorTermFamilyIds := []
  queryTerms := ["数据平台"]
  keywordQuery := "数据平台"
  requestedCount := 3
  sourcePlanVersion := "1"

theorem executeLogicalDispatchSearch_pages_twoCity : ∃ lanes run,
    executeLogicalDispatchSearch twoCityRuntime [exploitQuery] 3 ⟨[], []⟩ () = .ok (lanes, run) ∧
    (∀ place, ∃ n ≤ 2, pagesOf place run.searchAttempts = countAfter 0 n) ∧
    run.searchAttempts.length ≤ 1 * 2 * 2 := by
  have hattempts : (executeLogicalDispatchSearch twoCityRuntime [exploitQuery] 3 ⟨[], []⟩ ()).map
      (fun answer => answer.2.searchAttempts.length) = .ok 4 := by
    decide +kernel
  obtain ⟨⟨lanes, run⟩, hok, -⟩ := map_eq_ok.mp hattempts
  exact ⟨lanes, run, hok, (executeLogicalDispatchSearch_pages hok).2⟩

end SeekTalent.RoundSearch
