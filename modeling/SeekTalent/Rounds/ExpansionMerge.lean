import SeekTalent.Foundation.FirstClaims
import SeekTalent.Rounds.FirstPageExpansion

/-!
# Merging what expansions return

What a round does with the results of its expansions: `_merge_expansion_candidates` of
`seektalent/runtime/orchestrator.py` finds out which people are new and counts them for the queries
that returned them, the resumes that are scored may fail, and the counts go into the receipts.  A
person counts as unique for the query that is the first to return it, while a failure counts for
every query that returned the person.

The counts are those of the claims of `Foundation.FirstClaims`: an attribution claims an identity
for a query.
-/

namespace SeekTalent.Rounds

open Foundation

/-! ## Merging -/

/-- `RunState`, as far as expansions write it. -/
structure ExpansionRunState where
  candidateStore : Dict String ExpandedCandidate
  seenResumeIds : List String
  candidateIdentityByResumeId : Dict String String

/-- What the rest of the run does with the results of an expansion:
`merge_source_lane_result_updates` for what the source has to say about its lane, and
`rebuild_candidate_identities`, which says whose resumes they are. -/
structure ExpansionRuntime where
  mergeSourceLaneResultUpdates : List SourceFirstPageExpansionResult → ExpansionRunState →
    ExpansionRunState
  rebuildCandidateIdentities : ExpansionRunState → Dict String String

/-- `run_state.candidate_identity_by_resume_id.get(resume_id, resume_id)`. -/
def identityOf (candidateIdentityByResumeId : Dict String String) (resumeId : String) : String :=
  (candidateIdentityByResumeId.lookup resumeId).getD resumeId

/-- A candidate goes into the store and has been seen. -/
def ExpansionRunState.store (s : ExpansionRunState) (candidate : ExpandedCandidate) :
    ExpansionRunState :=
  { s with
    candidateStore := s.candidateStore.insert candidate.resumeId candidate
    seenResumeIds :=
      if candidate.resumeId ∈ s.seenResumeIds then s.seenResumeIds else s.seenResumeIds ++
        [candidate.resumeId] }

/-- The candidates whose identities are new, one for each, `newIds` being new already. -/
def newCandidatesFrom (identity : String → String) (identitiesBefore newIds : List String) :
    List ExpandedCandidate → List ExpandedCandidate
  | [] => []
  | candidate :: rest =>
    if identity candidate.resumeId ∉ identitiesBefore ∧ identity candidate.resumeId ∉ newIds then
      candidate ::
        newCandidatesFrom identity identitiesBefore (identity candidate.resumeId :: newIds) rest
    else newCandidatesFrom identity identitiesBefore newIds rest

/-- The counts of the queries and the identities that are claimed. -/
structure MergeTally where
  counts : List (QueryKey × Nat × Nat) := []
  claimed : List String := []

/-- One attribution counts as unique or as a duplicate. -/
def MergeTally.count (identity : String → String) (identitiesBefore : List String)
    (tally : MergeTally) (attribution : RuntimeQueryCandidateAttribution) : MergeTally :=
  let identityId := identity attribution.resumeId
  if identityId ∈ identitiesBefore ∨ identityId ∈ tally.claimed then
    { tally with
      counts := Dict.updateEntry attribution.key (0, 0) (fun row => (row.1, row.2 + 1))
        tally.counts }
  else
    { counts := Dict.updateEntry attribution.key (0, 0) (fun row => (row.1 + 1, row.2)) tally.counts
      claimed := identityId :: tally.claimed }

/-- The counts of the queries. -/
def mergeTally (identity : String → String) (identitiesBefore : List String)
    (attributions : List RuntimeQueryCandidateAttribution) : MergeTally :=
  attributions.foldl (MergeTally.count identity identitiesBefore) {}

/-- What `_merge_expansion_candidates` returns, the state it leaves and the identities it has
found. -/
structure ExpansionMerge where
  newCandidates : List ExpandedCandidate
  attributions : List RuntimeQueryCandidateAttribution
  mergeCounts : List ExpansionQueryMergeCounts
  runState : ExpansionRunState
  seenDedupKeys : List String
  identitiesBefore : List String

/-- `_merge_expansion_candidates`. -/
def mergeExpansionCandidates (rt : ExpansionRuntime) (results : List SourceFirstPageExpansionResult)
    (runState : ExpansionRunState) (seenDedupKeys : List String) : ExpansionMerge :=
  let candidates := results.flatMap SourceFirstPageExpansionResult.candidates
  let attributions := results.flatMap SourceFirstPageExpansionResult.candidateQueryAttributions
  let stored :=
    candidates.foldl ExpansionRunState.store (rt.mergeSourceLaneResultUpdates results runState)
  let identities := rt.rebuildCandidateIdentities stored
  let identitiesBefore := runState.seenResumeIds.filterMap identities.lookup
  { newCandidates := newCandidatesFrom (identityOf identities) identitiesBefore [] candidates
    attributions := attributions
    mergeCounts :=
      (mergeTally (identityOf identities) identitiesBefore attributions).counts.map fun entry =>
      ⟨entry.1.1, entry.1.2, entry.2.1, entry.2.2⟩
    runState := { stored with candidateIdentityByResumeId := identities }
    seenDedupKeys := seenDedupKeys ++ (candidates.map ExpandedCandidate.dedupKey).filter (· ≠ "")
    identitiesBefore := identitiesBefore }

section Claims

variable {identity : String → String} {before : List String}

/-- The identities that attributions claim for their queries. -/
def claimsOf (identity : String → String) (attributions : List RuntimeQueryCandidateAttribution) :
    List (QueryKey × String) :=
  attributions.map fun attribution => (attribution.key, identity attribution.resumeId)

@[simp] lemma claimsOf_concat (attributions : List RuntimeQueryCandidateAttribution)
    (attribution : RuntimeQueryCandidateAttribution) :
    claimsOf identity (attributions ++ [attribution]) =
      claimsOf identity attributions ++ [(attribution.key, identity attribution.resumeId)] := by
  simp [claimsOf]

/-- The row of a query: how many of its claims win, and how many do not. -/
def IsRow (before : List String) (claims : List (QueryKey × String)) (k : QueryKey)
    (row : Nat × Nat) : Prop :=
  row.1 = ((firstClaims before claims).countP fun claim => claim.1 = k) ∧
    row.1 + row.2 = claims.countP fun claim => claim.1 = k

/-- What the tally of some claims contains: for each query that claims anything the number of the
claims that win and that of the others. -/
structure MergeTally.Counts (tally : MergeTally) (before : List String)
    (claims : List (QueryKey × String)) : Prop where
  claimed : ∀ i, i ∈ tally.claimed ↔ i ∈ (firstClaims before claims).map Prod.snd
  nodup : (tally.counts.map Prod.fst).Nodup
  keys : ∀ k, k ∈ tally.counts.map Prod.fst ↔ k ∈ claims.map Prod.fst
  rows : ∀ entry ∈ tally.counts, IsRow before claims entry.1 entry.2

/-- A query that claims nothing wins nothing. -/
lemma countP_of_not_mem (before : List String) {claims : List (QueryKey × String)} {k : QueryKey}
    (h : k ∉ claims.map Prod.fst) :
    ((firstClaims before claims).countP fun claim => claim.1 = k) = 0 ∧
      (claims.countP fun claim => claim.1 = k) = 0 := by
  have hnone : (claims.countP fun claim => claim.1 = k) = 0 := by
    refine List.countP_eq_zero.mpr fun claim hclaim => ?_
    simpa using fun hsame : claim.1 = k => h (hsame ▸ List.mem_map_of_mem hclaim)
  exact ⟨Nat.le_zero.mp (hnone ▸ (firstClaims_sublist before claims).countP_le), hnone⟩

/-- One more attribution is counted for its query. -/
lemma MergeTally.Counts.count {tally : MergeTally} {claims : List (QueryKey × String)}
    (h : tally.Counts before claims) (attribution : RuntimeQueryCandidateAttribution) :
    (tally.count identity before attribution).Counts before
      (claims ++ [(attribution.key, identity attribution.resumeId)]) := by
  set k := attribution.key with hk
  set i := identity attribution.resumeId with hi
  have htaken : (i ∈ before ∨ i ∈ tally.claimed) ↔ (i ∈ before ∨ i ∈ claims.map Prod.snd) := by
    rw [h.claimed, mem_map_firstClaims]
    tauto
  have hkeys : ∀ f : Nat × Nat → Nat × Nat, ∀ k',
    k' ∈ (Dict.updateEntry k (0, 0) f tally.counts).map Prod.fst ↔
      k' ∈ (claims ++ [(k, i)]).map Prod.fst := by
    intro f k'
    rw [Dict.keys_updateEntry, List.map_append, List.mem_append, ← h.keys]
    split
    next hmem =>
      refine ⟨.inl, fun hk' => hk'.elim id fun hk' => ?_⟩
      obtain rfl : k' = k := by simpa using hk'
      exact hmem
    · exact List.mem_append
  have hnew : k ∉ tally.counts.map Prod.fst → IsRow before claims k (0, 0) := by
    intro hnone
    obtain ⟨hunique, htotal⟩ := countP_of_not_mem before fun hmem => hnone ((h.keys k).mpr hmem)
    exact ⟨hunique.symm, htotal.symm⟩
  by_cases hold : i ∈ before ∨ i ∈ tally.claimed
  · have hstep : tally.count identity before attribution =
        { tally with
          counts := Dict.updateEntry k (0, 0) (fun row => (row.1, row.2 + 1)) tally.counts } := by
      rw [MergeTally.count, if_pos hold]
    have hfirst : firstClaims before (claims ++ [(k, i)]) = firstClaims before claims := by
      rw [firstClaims_concat, if_pos (htaken.mp hold), List.append_nil]
    rw [hstep]
    refine ⟨fun j => by rw [hfirst]; exact h.claimed j, Dict.nodup_keys_updateEntry h.nodup,
      hkeys _, Dict.forall_updateEntry h.nodup h.rows hnew ?_ ?_⟩
    · rintro row ⟨hunique, htotal⟩
      rw [IsRow, hfirst, List.countP_append, List.countP_singleton]
      simp only [decide_true, if_true]
      omega
    · rintro k' hne row ⟨hunique, htotal⟩
      have hne' : ¬ k = k' := fun hsame => hne hsame.symm
      rw [IsRow, hfirst, List.countP_append, List.countP_singleton]
      simpa [hne'] using ⟨hunique, htotal⟩
  · have hstep : tally.count identity before attribution =
        { counts := Dict.updateEntry k (0, 0) (fun row => (row.1 + 1, row.2)) tally.counts
          claimed := i :: tally.claimed } := by
      rw [MergeTally.count, if_neg hold]
    have hfirst : firstClaims before (claims ++ [(k, i)]) = firstClaims before claims ++
        [(k, i)] := by
      rw [firstClaims_concat, if_neg (fun h' => hold (htaken.mpr h'))]
    rw [hstep]
    refine ⟨fun j => ?_, Dict.nodup_keys_updateEntry h.nodup, hkeys _,
      Dict.forall_updateEntry h.nodup h.rows hnew ?_ ?_⟩
    · rw [hfirst, List.map_append, List.mem_append, List.mem_cons, h.claimed, or_comm]
      simp
    · rintro row ⟨hunique, htotal⟩
      rw [IsRow, hfirst, List.countP_append, List.countP_append, List.countP_singleton]
      simp only [decide_true, if_true]
      omega
    · rintro k' hne row ⟨hunique, htotal⟩
      have hne' : ¬ k = k' := fun hsame => hne hsame.symm
      rw [IsRow, hfirst, List.countP_append, List.countP_append, List.countP_singleton]
      simpa [hne'] using ⟨hunique, htotal⟩

/-- The tally of all attributions. -/
lemma mergeTally_counts (identity : String → String) (before : List String)
    (attributions : List RuntimeQueryCandidateAttribution) :
    (mergeTally identity before attributions).Counts before (claimsOf identity attributions) := by
  induction attributions using List.reverseRecOn with
  | nil => exact ⟨by simp [mergeTally, claimsOf, firstClaims],
    List.nodup_nil, by simp [mergeTally, claimsOf],
      by simp [mergeTally]⟩
  | append_singleton attributions attribution ih =>
    rw [claimsOf_concat, mergeTally, List.foldl_append]
    exact ih.count attribution

end Claims

/-! ## Failures -/

/-- The failures of the queries, and those that are counted. -/
structure FailureTally where
  counts : Dict QueryKey Nat := ∅
  counted : List (QueryKey × String) := []

/-- A failure is counted once for a query and an identity. -/
def FailureTally.count (identity : String → String) (failedIdentityIds : List String)
    (tally : FailureTally) (attribution : RuntimeQueryCandidateAttribution) : FailureTally :=
  let identityId := identity attribution.resumeId
  if identityId ∈ failedIdentityIds ∧ (attribution.key, identityId) ∉ tally.counted then
    { counts :=
      tally.counts.insert attribution.key ((tally.counts.lookup attribution.key).getD 0 + 1)
      counted := (attribution.key, identityId) :: tally.counted }
  else tally

/-- `failure_counts`. -/
def failureTally (identity : String → String) (failedIds : List String)
    (attributions : List RuntimeQueryCandidateAttribution) : FailureTally :=
  attributions.foldl (FailureTally.count identity (failedIds.map identity)) {}

/-- What the tally of some claims contains: for each query the number of the people of `failed` that
it claims, if there are any. -/
structure FailureTally.Counts (tally : FailureTally) (failed : List String)
    (claims : List (QueryKey × String)) : Prop where
  counted : ∀ k i, (k, i) ∈ tally.counted ↔ i ∈ thingsOf k claims ∩ failed.toFinset
  lookup : ∀ k, (tally.counts.lookup k).getD 0 = (thingsOf k claims ∩ failed.toFinset).card
  keys : ∀ k, k ∈ tally.counts → k ∈ claims.map Prod.fst

/-- One more attribution is counted for its query if its person failed and is new to the query. -/
lemma FailureTally.Counts.count {identity : String → String} {failed : List String}
    {tally : FailureTally} {claims : List (QueryKey × String)} (h : tally.Counts failed claims)
    (attribution : RuntimeQueryCandidateAttribution) :
    (tally.count identity failed attribution).Counts failed
      (claims ++ [(attribution.key, identity attribution.resumeId)]) := by
  set k := attribution.key with hk
  set i := identity attribution.resumeId with hi
  have hthings : ∀ k', thingsOf k' (claims ++ [(k, i)]) ∩ failed.toFinset =
      if k' = k ∧ i ∈ failed then insert i (thingsOf k' claims ∩ failed.toFinset)
      else thingsOf k' claims ∩ failed.toFinset := by
    intro k'
    rw [thingsOf_concat]
    by_cases hsame : k' = k
    · rw [if_pos hsame.symm]
      by_cases hfailed : i ∈ failed
      · rw [if_pos ⟨hsame, hfailed⟩, Finset.insert_inter_of_mem (List.mem_toFinset.mpr hfailed)]
      · rw [if_neg (fun hand => hfailed hand.2),
          Finset.insert_inter_of_notMem (fun hmem => hfailed (List.mem_toFinset.mp hmem))]
    · rw [if_neg (fun hand => hsame hand.symm), if_neg (fun hand => hsame hand.1)]
  by_cases hcount : i ∈ failed ∧ (k, i) ∉ tally.counted
  · have hstep : tally.count identity failed attribution =
        { counts := tally.counts.insert k ((tally.counts.lookup k).getD 0 + 1)
          counted := (k, i) :: tally.counted } := by
      rw [FailureTally.count, if_pos hcount]
    have hfresh : i ∉ thingsOf k claims ∩ failed.toFinset := fun hmem =>
      hcount.2 ((h.counted k i).mpr hmem)
    rw [hstep]
    refine ⟨fun k' j => ?_, fun k' => ?_, fun k' hk' => ?_⟩
    · rw [hthings, List.mem_cons, h.counted, Prod.mk.injEq]
      by_cases hsame : k' = k
      · rw [if_pos ⟨hsame, hcount.1⟩, Finset.mem_insert]
        simp [hsame]
      · rw [if_neg (fun hand => hsame hand.1)]
        simp [hsame]
    · rw [hthings, Dict.lookup_insert_ite]
      by_cases hsame : k' = k
      · subst hsame
        rw [if_pos rfl, if_pos ⟨rfl, hcount.1⟩, Finset.card_insert_of_notMem hfresh, ← h.lookup]
        rfl
      · rw [if_neg hsame, if_neg (fun hand => hsame hand.1), h.lookup]
    · rw [List.map_append, List.mem_append]
      obtain rfl | hold := AList.mem_insert _ |>.mp hk'
      · exact .inr (by simp)
      · exact .inl (h.keys k' hold)
  · have hstep : tally.count identity failed attribution = tally := by
      rw [FailureTally.count, if_neg hcount]
    have hsame : ∀ k', thingsOf k' (claims ++ [(k, i)]) ∩ failed.toFinset =
        thingsOf k' claims ∩ failed.toFinset := by
      intro k'
      rw [hthings]
      split
      next hand =>
        obtain ⟨rfl, hfailed⟩ := hand
        have hcounted : (k, i) ∈ tally.counted := by
          by_contra hnot
          exact hcount ⟨hfailed, hnot⟩
        exact Finset.insert_eq_of_mem ((h.counted k i).mp hcounted)
      · rfl
    rw [hstep]
    refine ⟨fun k' j => by rw [hsame]; exact h.counted k' j,
      fun k' => by rw [hsame]; exact h.lookup k', fun k' hk' => ?_⟩
    rw [List.map_append, List.mem_append]
    exact .inl (h.keys k' hk')

/-- The tally of all attributions. -/
lemma failureTally_counts (identity : String → String) (failedIds : List String)
    (attributions : List RuntimeQueryCandidateAttribution) :
    (failureTally identity failedIds attributions).Counts (failedIds.map identity)
      (claimsOf identity attributions) := by
  induction attributions using List.reverseRecOn with
  | nil => exact ⟨by simp [failureTally, claimsOf], by simp [failureTally, claimsOf, thingsOf],
      fun k hk => absurd hk (AList.notMem_empty k)⟩
  | append_singleton attributions attribution ih =>
    rw [claimsOf_concat, failureTally, List.foldl_append]
    exact ih.count attribution

/-- The receipts after the expansions of a round, in which the scoring of `failedIds` failed. -/
def receiptsAfterExpansion (receipts : List QueryExecutionReceipt)
    (decisions : List FirstPageExpansionDecision)
    (results : List SourceFirstPageExpansionResult) (merge : ExpansionMerge)
    (failedIds : List String) : Except ExpansionFailure (List QueryExecutionReceipt) :=
  applyFirstPageExpansionToReceipts receipts decisions results merge.mergeCounts
    (failureTally (identityOf merge.runState.candidateIdentityByResumeId) failedIds
      merge.attributions).counts

end SeekTalent.Rounds
