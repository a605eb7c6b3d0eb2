import SeekTalent.CandidateStores.CandidateMerge

/-!
# The writes of a round

What the orchestrator writes to the two stores of candidates in a round
(`seektalent/runtime/orchestrator.py`, `candidate_intake.py` and `source_lanes.py`): the results of
the lanes are merged, and next to that the raw observations are assigned, at three places.  A step
is a list of such writes, in the order of the source.

The identities, which are rebuilt from the stores, are not written here.
-/

namespace SeekTalent.CandidateStores

open Foundation SourceLanes

/-- `RuntimeSourceLaneResult`, as far as merging reads it. -/
structure RuntimeSourceLaneResult where
  /-- `status == "blocked"`. -/
  blocked : Bool := false
  candidateStoreUpdates : List (String × ResumeCandidate)
  sourceEvidenceUpdates : List RuntimeSourceEvidence
  /-- The updates are a dictionary. -/
  nodup : (candidateStoreUpdates.map Prod.fst).Nodup

/-- `SourceRoundAdapterResult`: its candidates, the new candidates of its retrieval result, and its
lane result. -/
structure SourceRoundAdapterResult where
  candidates : List ResumeCandidate
  newCandidates : List ResumeCandidate := []
  laneResult : Option RuntimeSourceLaneResult

/-- `SourceFirstPageExpansionResult`. -/
structure SourceFirstPageExpansionResult where
  candidates : List ResumeCandidate
  laneResult : Option RuntimeSourceLaneResult

/-- The part of `RunState` with the candidates. -/
structure RunStores where
  seenResumeIds : List String := []
  candidateStore : Dict String ResumeCandidate := ∅
  normalizedStore : Dict String NormalizedResume := ∅
  sourceEvidenceByResumeId : Dict String (List RuntimeSourceEvidence) := ∅

namespace RunStores

variable (rt : CandidateRuntime) (sourceOrder : Dict String Int) (s : RunStores)

/-- The evidence of a resume. -/
def evidenceOf (resumeId : String) : List RuntimeSourceEvidence :=
  (s.sourceEvidenceByResumeId.lookup resumeId).getD []

/-- `seen_resume_ids` with one more. -/
def see (resumeId : String) : List String :=
  if resumeId ∈ s.seenResumeIds then s.seenResumeIds else s.seenResumeIds ++ [resumeId]

/-- `run_state.candidate_store[candidate.resume_id] = candidate`. -/
def assignCandidate (c : ResumeCandidate) : RunStores :=
  { s with
    candidateStore := s.candidateStore.insert c.resumeId c
    seenResumeIds := s.see c.resumeId }

/-- The candidate and the normalised resume that a lane result leaves under an id. -/
def observedCandidate (updates : List RuntimeSourceEvidence) (resumeId : String)
    (c : ResumeCandidate) : Except LaneError (ResumeCandidate × NormalizedResume) :=
  match s.candidateStore.lookup resumeId with
  | none => do
    let normalized ← rt.normalizeResume c
    .ok (c, normalized)
  | some existing =>
    mergeResumeCandidateObservations rt existing c (s.evidenceOf resumeId)
      (updates.filter fun row => row.candidateResumeId = resumeId)

/-- One entry of `candidate_store_updates`. -/
def storeUpdate (updates : List RuntimeSourceEvidence) (s : RunStores)
    (update : String × ResumeCandidate) :
    Except LaneError RunStores := do
  let observed ← s.observedCandidate rt updates update.1 update.2
  .ok { s with
    candidateStore := s.candidateStore.insert update.1 observed.1
    normalizedStore := s.normalizedStore.insert update.1 observed.2
    seenResumeIds := s.see update.1 }

/-- One step of `append_source_evidence_once`. -/
def appendEvidence (s : RunStores) (row : RuntimeSourceEvidence) : Except LaneError RunStores := do
  let placed ← placeEvidence rt.evidence row (s.evidenceOf row.candidateResumeId)
  .ok { s with
    sourceEvidenceByResumeId := s.sourceEvidenceByResumeId.insert row.candidateResumeId
      (sortEvidence sourceOrder placed) }

/-- `merge_source_lane_result_updates`. -/
def mergeSourceLaneResultUpdates (result : RuntimeSourceLaneResult) : Except LaneError RunStores :=
  if result.blocked then .ok s
  else do
    let stored ← result.candidateStoreUpdates.foldlM (storeUpdate rt result.sourceEvidenceUpdates) s
    result.sourceEvidenceUpdates.foldlM (appendEvidence rt sourceOrder) stored

/-- One turn of `normalize_runtime_candidates`. -/
def normalizeRuntimeCandidate (c : ResumeCandidate) : Except LaneError RunStores :=
  match s.normalizedStore.lookup c.resumeId with
  | some _ => .ok s
  | none => do
    let normalized ← rt.normalizeResume c
    .ok { s with normalizedStore := s.normalizedStore.insert normalized.resumeId normalized }

end RunStores

/-- A write to the stores. -/
inductive StoreWrite where
  | assign (c : ResumeCandidate)
  | lane (result : RuntimeSourceLaneResult)
  | normalize (c : ResumeCandidate)

/-- What the orchestrator does with the stores in a round: for each source that has answered
`report_source_result`, then `_merge_source_round_dispatch_result`, the loop over the new candidates
in `_run_rounds`, and `_merge_expansion_candidates`. -/
inductive RoundStep where
  | reportSourceResult (result : SourceRoundAdapterResult)
  | mergeSourceRoundDispatchResult (results : List SourceRoundAdapterResult)
  | newCandidates (candidates : List ResumeCandidate)
  | mergeExpansionCandidates (results : List SourceFirstPageExpansionResult)

/-- The writes of a step, in their order.  The candidates of a dispatch are those of its results. -/
def RoundStep.writes : RoundStep → List StoreWrite
  | .reportSourceResult result => result.laneResult.toList.map .lane
  | .mergeSourceRoundDispatchResult results =>
    (results.flatMap SourceRoundAdapterResult.candidates).map .assign ++
      results.flatMap
        (fun result => result.newCandidates.map .assign ++ result.laneResult.toList.map .lane) ++
      (results.flatMap SourceRoundAdapterResult.candidates).map .normalize
  | .newCandidates candidates => candidates.map .assign
  | .mergeExpansionCandidates results =>
    results.flatMap (fun result => result.laneResult.toList.map .lane) ++
      (results.flatMap SourceFirstPageExpansionResult.candidates).map .assign ++
      (results.flatMap SourceFirstPageExpansionResult.candidates).map .normalize

namespace RunStores

variable (rt : CandidateRuntime) (sourceOrder : Dict String Int)
variable {rows : List RuntimeSourceEvidence} {s s' : RunStores}

/-- A write. -/
def write (s : RunStores) : StoreWrite → Except LaneError RunStores
  | .assign c => .ok (s.assignCandidate c)
  | .lane result => s.mergeSourceLaneResultUpdates rt sourceOrder result
  | .normalize c => s.normalizeRuntimeCandidate rt c

/-- A step of a round; a run ends with the first one that raises. -/
def step (s : RunStores) (round : RoundStep) : Except LaneError RunStores :=
  round.writes.foldlM (write rt sourceOrder) s

/-! ## Evidence -/

/-- The rows of a resume among those that a lane delivers. -/
def deliveredTo (r : String) (rows : List RuntimeSourceEvidence) : List RuntimeSourceEvidence :=
  rows.filter fun row => row.candidateResumeId = r

/-- The rows of a resume after some have been delivered to it. -/
def evidenceAfter (delivered rows : List RuntimeSourceEvidence) : List RuntimeSourceEvidence :=
  delivered.foldl (fun rows row =>
    sortEvidence sourceOrder ((placeEvidence rt.evidence row rows).toOption.getD rows)) rows

variable {rt sourceOrder}

/-- The best level is at least that of a row. -/
lemma rank_le_bestLevel {row : RuntimeSourceEvidence} (h : row ∈ rows) :
    row.evidenceLevel.rank ≤ bestLevel rows := by
  induction rows with
  | nil => cases h
  | cons head rest ih =>
    obtain rfl | hrest := List.mem_cons.mp h
    · exact Nat.le_max_left _ _
    · exact Nat.le_trans (ih hrest) (Nat.le_max_right _ _)

/-- The best level is that of a row. -/
lemma bestLevel_le {level : Nat}
    (h : ∀ row ∈ rows, row.evidenceLevel.rank ≤ level) : bestLevel rows ≤ level := by
  induction rows with
  | nil => exact Nat.zero_le _
  | cons head rest ih =>
    rw [List.forall_mem_cons] at h
    exact Nat.max_le.mpr ⟨h.1, ih h.2⟩

/-- The best level of rows that are sorted. -/
lemma bestLevel_sortEvidence (rows : List RuntimeSourceEvidence) :
    bestLevel (sortEvidence sourceOrder rows) = bestLevel rows := by
  have hmem : ∀ row, row ∈ sortEvidence sourceOrder rows ↔ row ∈ rows := by
    intro row
    rw [sortEvidence, List.mem_insertionSort]
  exact Nat.le_antisymm (bestLevel_le fun row hrow => rank_le_bestLevel ((hmem row).mp hrow))
    (bestLevel_le fun row hrow => rank_le_bestLevel ((hmem row).mpr hrow))

/-- The merge of two deliveries of a row is at the better of their levels. -/
lemma rank_merged {left right merged : RuntimeSourceEvidence} {rt : ObservationRuntime}
    (h : mergeRuntimeSourceEvidence rt left right = .ok merged) :
    merged.evidenceLevel.rank = max left.evidenceLevel.rank right.evidenceLevel.rank := by
  obtain ⟨-, -, hmerged⟩ := bind_eq_ok.mp h
  obtain rfl := Except.ok.inj hmerged
  -- Levels come first in the rank of a row.
  split
  · rename_i hrank
    rw [runtimeSourceEvidenceRank, runtimeSourceEvidenceRank, Prod.Lex.toLex_le_toLex] at hrank
    obtain hlevel | ⟨hlevel, -⟩ := hrank
    · exact (max_eq_left (Nat.le_of_lt hlevel)).symm
    · exact (max_eq_left (Nat.le_of_eq hlevel)).symm
  · rename_i hrank
    have hlt := not_le.mp hrank
    rw [runtimeSourceEvidenceRank, runtimeSourceEvidenceRank, Prod.Lex.toLex_lt_toLex] at hlt
    obtain hlevel | ⟨hlevel, -⟩ := hlt
    · exact (max_eq_right (Nat.le_of_lt hlevel)).symm
    · exact (max_eq_right (Nat.le_of_eq hlevel)).symm

/-- A row that is placed is there, at its level or at a better one. -/
lemma placed_spec {rt : ObservationRuntime} {row : RuntimeSourceEvidence}
    {placed : List RuntimeSourceEvidence} (h : placeEvidence rt row rows = .ok placed) :
    placed ≠ [] ∧ bestLevel placed = max (bestLevel rows) row.evidenceLevel.rank := by
  induction rows generalizing placed with
  | nil =>
    obtain rfl := Except.ok.inj h
    exact ⟨by simp, Nat.max_comm _ _⟩
  | cons item rest ih =>
    have hcons : ∀ (head : RuntimeSourceEvidence) (tail : List RuntimeSourceEvidence),
        bestLevel (head :: tail) = max head.evidenceLevel.rank (bestLevel tail) := fun _ _ => rfl
    unfold placeEvidence at h
    split at h
    · obtain ⟨merged, hmerged, hplaced⟩ := bind_eq_ok.mp h
      obtain rfl := Except.ok.inj hplaced
      refine ⟨by simp, ?_⟩
      rw [hcons, hcons, rank_merged hmerged]
      omega
    · obtain ⟨more, hmore, hplaced⟩ := bind_eq_ok.mp h
      obtain rfl := Except.ok.inj hplaced
      refine ⟨by simp, ?_⟩
      rw [hcons, hcons, (ih hmore).2]
      omega

/-- What appending an evidence row changes. -/
lemma appendEvidence_spec {row : RuntimeSourceEvidence}
    (h : s.appendEvidence rt sourceOrder row = .ok s') :
    s'.candidateStore = s.candidateStore ∧ s'.normalizedStore = s.normalizedStore ∧
      (∀ r, r ≠ row.candidateResumeId → s'.evidenceOf r = s.evidenceOf r) ∧
      s'.evidenceOf row.candidateResumeId =
        evidenceAfter rt sourceOrder [row] (s.evidenceOf row.candidateResumeId) ∧
      s'.evidenceOf row.candidateResumeId ≠ [] ∧
      bestLevel (s'.evidenceOf row.candidateResumeId) =
        max (bestLevel (s.evidenceOf row.candidateResumeId)) row.evidenceLevel.rank := by
  obtain ⟨placed, hplaced, hs'⟩ := bind_eq_ok.mp h
  obtain rfl := Except.ok.inj hs'
  have hrows : ∀ r, evidenceOf { s with
      sourceEvidenceByResumeId := s.sourceEvidenceByResumeId.insert row.candidateResumeId
        (sortEvidence sourceOrder placed) } r =
      if r = row.candidateResumeId then sortEvidence sourceOrder placed else s.evidenceOf r := by
    intro r
    unfold evidenceOf
    rw [Dict.lookup_insert_ite]
    split <;> rfl
  obtain ⟨hne, hbest⟩ := placed_spec hplaced
  refine ⟨rfl, rfl, fun r hr => by rw [hrows, if_neg hr], ?_, ?_, ?_⟩
  · rw [hrows, if_pos rfl, evidenceAfter, List.foldl_cons, List.foldl_nil, hplaced]
    rfl
  · rw [hrows, if_pos rfl]
    obtain ⟨other, hother⟩ := List.exists_mem_of_ne_nil _ hne
    exact List.ne_nil_of_mem (by rwa [sortEvidence, List.mem_insertionSort])
  · rw [hrows, if_pos rfl, bestLevel_sortEvidence, hbest]

/-- What appending evidence rows changes: a resume has the rows that it had and those that are
delivered to it, at the better of their levels. -/
lemma appendAll_spec (h : rows.foldlM (appendEvidence rt sourceOrder) s = .ok s') :
    s'.candidateStore = s.candidateStore ∧ s'.normalizedStore = s.normalizedStore ∧ ∀ r,
      s'.evidenceOf r = evidenceAfter rt sourceOrder (deliveredTo r rows) (s.evidenceOf r) ∧
      (s'.evidenceOf r = [] ↔ s.evidenceOf r = [] ∧ deliveredTo r rows = []) ∧
      bestLevel (s'.evidenceOf r) = max (bestLevel (s.evidenceOf r))
        (bestLevel (deliveredTo r rows)) := by
  induction rows generalizing s with
  | nil =>
    obtain rfl := Except.ok.inj h
    exact ⟨rfl, rfl, fun r => ⟨rfl, by simp [deliveredTo], (Nat.max_zero _).symm⟩⟩
  | cons row rest ih =>
    obtain ⟨t, ht, hrest⟩ := bind_eq_ok.mp h
    obtain ⟨hcandidates, hnormalized, hothers, hown, hne, hbest⟩ := appendEvidence_spec ht
    obtain ⟨hcandidates', hnormalized', hlater⟩ := ih hrest
    refine ⟨hcandidates'.trans hcandidates, hnormalized'.trans hnormalized, fun r => ?_⟩
    obtain ⟨hrows, hempty, hlevel⟩ := hlater r
    by_cases hr : r = row.candidateResumeId
    · subst hr
      have hdelivered : deliveredTo row.candidateResumeId (row :: rest) =
          row :: deliveredTo row.candidateResumeId rest := List.filter_cons_of_pos (by simp)
      rw [hdelivered]
      refine ⟨?_, ?_, ?_⟩
      · rw [hrows, hown]
        rfl
      · simp [hempty, hne]
      · have hcons : bestLevel (row :: deliveredTo row.candidateResumeId rest) =
            max row.evidenceLevel.rank (bestLevel (deliveredTo row.candidateResumeId rest)) := rfl
        rw [hlevel, hbest, hcons, Nat.max_assoc]
    · have hdelivered : deliveredTo r (row :: rest) = deliveredTo r rest :=
        List.filter_cons_of_neg (by simpa using Ne.symm hr)
      rw [hothers r hr] at hrows hempty hlevel
      rw [hdelivered]
      exact ⟨hrows, hempty, hlevel⟩

/-! ## Updates -/

/-- What a lane leaves under an id is the candidate and what it normalises to. -/
lemma normalizeResume_observed {r : String}
    {c : ResumeCandidate} {stored : ResumeCandidate × NormalizedResume}
    (h : s.observedCandidate rt rows r c = .ok stored) :
    rt.normalizeResume stored.1 = .ok stored.2 := by
  unfold observedCandidate at h
  split at h
  · obtain ⟨normalized, hnormalized, hstored⟩ := bind_eq_ok.mp h
    obtain rfl := Except.ok.inj hstored
    exact hnormalized
  · simp only [mergeResumeCandidateObservations, bind_eq_ok, Except.ok.injEq] at h
    obtain ⟨-, -, -, -, _, -, _, -, normalized, hnormalized, rfl⟩ := h
    exact hnormalized

/-- What the candidate updates of a lane change: the ids of the updates, each once. -/
lemma storeUpdates_spec {updates : List (String × ResumeCandidate)}
    (hnodup : (updates.map Prod.fst).Nodup) (h : updates.foldlM (storeUpdate rt rows) s = .ok s') :
    s'.sourceEvidenceByResumeId = s.sourceEvidenceByResumeId ∧
      (∀ r, r ∉ updates.map Prod.fst → s'.candidateStore.lookup r = s.candidateStore.lookup r ∧
        s'.normalizedStore.lookup r = s.normalizedStore.lookup r) ∧
      ∀ update ∈ updates, ∃ observed, s.observedCandidate rt rows update.1 update.2 = .ok observed ∧
        s'.candidateStore.lookup update.1 = some observed.1 ∧
        s'.normalizedStore.lookup update.1 = some observed.2 := by
  induction updates generalizing s with
  | nil =>
    obtain rfl := Except.ok.inj h
    exact ⟨rfl, fun _ _ => ⟨rfl, rfl⟩, fun update hupdate => (nomatch hupdate)⟩
  | cons first rest ih =>
    rw [List.map_cons, List.nodup_cons] at hnodup
    obtain ⟨hfresh, hnodup⟩ := hnodup
    obtain ⟨t, ht, hrest⟩ := bind_eq_ok.mp h
    obtain ⟨observed, hobserved, ht⟩ := bind_eq_ok.mp ht
    obtain rfl := Except.ok.inj ht
    obtain ⟨hevidence, hsame, hupdates⟩ := ih hnodup hrest
    refine ⟨hevidence, fun r hr => ?_, fun update hupdate => ?_⟩
    · rw [List.map_cons, List.mem_cons, not_or] at hr
      obtain ⟨hcandidate, hnormalized⟩ := hsame r hr.2
      rw [hcandidate, hnormalized]
      dsimp only
      rw [Dict.lookup_insert_ite, Dict.lookup_insert_ite, if_neg hr.1, if_neg hr.1]
      exact ⟨rfl, rfl⟩
    · obtain rfl | hmem := List.mem_cons.mp hupdate
      · obtain ⟨hcandidate, hnormalized⟩ := hsame update.1 hfresh
        refine ⟨observed, hobserved, ?_, ?_⟩
        · rw [hcandidate]
          dsimp only
          rw [Dict.lookup_insert_ite, if_pos rfl]
        · rw [hnormalized]
          dsimp only
          rw [Dict.lookup_insert_ite, if_pos rfl]
      · obtain ⟨later, hlater, hstored⟩ := hupdates update hmem
        refine ⟨later, ?_, hstored⟩
        -- The first update is under another id.
        have hne : update.1 ≠ first.1 := by
          rintro heq
          exact hfresh (heq ▸ List.mem_map_of_mem hmem)
        rw [← hlater]
        unfold observedCandidate evidenceOf
        dsimp only
        rw [Dict.lookup_insert_ite, if_neg hne]

/-- What a lane result that is not blocked changes. -/
lemma lane_spec {result : RuntimeSourceLaneResult} (hblocked : result.blocked = false)
    (h : s.mergeSourceLaneResultUpdates rt sourceOrder result = .ok s') :
    (∀ r, r ∉ result.candidateStoreUpdates.map Prod.fst →
      s'.candidateStore.lookup r = s.candidateStore.lookup r ∧
        s'.normalizedStore.lookup r = s.normalizedStore.lookup r) ∧
      (∀ update ∈ result.candidateStoreUpdates, ∃ observed,
        s.observedCandidate rt result.sourceEvidenceUpdates update.1 update.2 = .ok observed ∧
        s'.candidateStore.lookup update.1 = some observed.1 ∧
        s'.normalizedStore.lookup update.1 = some observed.2) ∧
      ∀ r, s'.evidenceOf r =
          evidenceAfter rt sourceOrder (deliveredTo r result.sourceEvidenceUpdates)
            (s.evidenceOf r) ∧
        (s'.evidenceOf r = [] ↔ s.evidenceOf r = [] ∧
          deliveredTo r result.sourceEvidenceUpdates = []) ∧
        bestLevel (s'.evidenceOf r) =
          max (bestLevel (s.evidenceOf r))
            (bestLevel (deliveredTo r result.sourceEvidenceUpdates)) := by
  unfold mergeSourceLaneResultUpdates at h
  rw [if_neg (by simp [hblocked])] at h
  obtain ⟨t, ht, hrows⟩ := bind_eq_ok.mp h
  obtain ⟨hevidence, hsame, hupdates⟩ := storeUpdates_spec result.nodup ht
  obtain ⟨hcandidates, hnormalized, hdelivered⟩ := appendAll_spec hrows
  have hold : ∀ r, t.evidenceOf r = s.evidenceOf r := by
    intro r
    unfold evidenceOf
    rw [hevidence]
  rw [hcandidates, hnormalized]
  refine ⟨hsame, hupdates, fun r => ?_⟩
  rw [← hold r]
  exact hdelivered r

end RunStores

end SeekTalent.CandidateStores
