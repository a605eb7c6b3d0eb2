import SeekTalent.Foundation.FirstClaims
import SeekTalent.Rounds.ExpansionMerge
import SeekTalent.Rounds.SourceDispatch

/-!
# The outcomes of the queries of a round

`logical_outcomes_from_receipts`, `apply_post_merge_query_counts` and
`add_pre_click_skips_to_query_outcomes` of `seektalent/runtime/query_identity.py`, and what
`_run_rounds` of `orchestrator.py` makes of them.  The receipts of a query at all sources become one
outcome.  A candidate that a query has returned counts as unique for it if its person is new to the
round and no query before it, in the order of the dispatch, has returned that person; else it counts
as a duplicate.
-/

namespace SeekTalent.Rounds

open Foundation QueryPlanning

variable (py : PythonRuntime)

/-! ## Outcomes -/

/-- `LogicalQueryOutcome`. -/
structure LogicalQueryOutcome where
  queryInstanceId : String
  termGroupKey : String
  primaryAnchorFamilyId : String
  nonAnchorTermFamilyIds : List String
  queryRole : QueryRole
  laneType : LaneType
  queryTerms : List String
  keywordQuery : String
  attempted : Bool
  status : ExecutionStatus
  rawCandidateCount : Nat
  uniqueCandidateCount : Nat
  duplicateCandidateCount : Nat
  receipts : List LogicalQueryReceipt
  deriving DecidableEq, Repr

/-- What a round raises when the outcomes of its queries do not fit together. -/
inductive OutcomeFailure
  /-- `ValueError`. -/
  | value (reason : String)
  /-- `KeyError`. -/
  | key (queryInstanceId : String)
  deriving DecidableEq, Repr

/-- `_logical_identity`. -/
def logicalIdentity (receipt : LogicalQueryReceipt) :
    String × String × List String × QueryRole × LaneType × List String × String :=
  (receipt.termGroupKey, receipt.primaryAnchorFamilyId, receipt.nonAnchorTermFamilyIds,
    receipt.queryRole, receipt.laneType, receipt.queryTerms.map (QueryIdentity.normalizeTerm py),
    receipt.keywordQuery)

/-- `_logical_status`; the set of the statuses is a list of them. -/
def logicalStatus (statuses : List ExecutionStatus) : ExecutionStatus :=
  if onlyStatus statuses .completed then .completed
  else if onlyStatus statuses .blocked then .blocked
  else if onlyStatus statuses .failed then .failed
  else .partialResult

/-- The outcome of a query of which there are receipts. -/
def outcomeOfReceipts (queryInstanceId : String) (first : LogicalQueryReceipt)
    (members : List LogicalQueryReceipt) : LogicalQueryOutcome where
  queryInstanceId
  termGroupKey := first.termGroupKey
  primaryAnchorFamilyId := first.primaryAnchorFamilyId
  nonAnchorTermFamilyIds := first.nonAnchorTermFamilyIds
  queryRole := first.queryRole
  laneType := first.laneType
  queryTerms := first.queryTerms
  keywordQuery := first.keywordQuery
  attempted := members.any fun item => item.dispatchStarted
  status := logicalStatus (members.map fun item => item.status)
  rawCandidateCount := (members.map fun item => item.rawCandidateCount).sum
  uniqueCandidateCount := 0
  duplicateCandidateCount := 0
  receipts := members

/-- The outcome of one group of receipts. -/
def groupOutcome (group : String × List LogicalQueryReceipt) :
    Except OutcomeFailure LogicalQueryOutcome :=
  match group.2 with
  | [] => .error (.key group.1)
  | first :: rest =>
    if (first :: rest).any fun item => logicalIdentity py item ≠ logicalIdentity py first then
      .error (.value "logical_query_receipt_identity_mismatch")
    else .ok (outcomeOfReceipts group.1 first (first :: rest))

/-- The receipts by their queries, sorted. -/
def receiptGroups (receipts : List LogicalQueryReceipt) :
    List (String × List LogicalQueryReceipt) :=
  (groupedBy (fun receipt => receipt.queryInstanceId) receipts).insertionSort fun group other =>
    group.1 ≤ other.1

/-- `logical_outcomes_from_receipts`. -/
def logicalOutcomesFromReceipts (receipts : List LogicalQueryReceipt) :
    Except OutcomeFailure (List LogicalQueryOutcome) :=
  (receiptGroups receipts).mapM (groupOutcome py)

/-! ## Counting -/

/-- `(item.source_kind, item.resume_id, item.dedup_key or "")` of one attribution is at most that of
another. -/
def attributionBefore (attribution other : RuntimeQueryCandidateAttribution) : Prop :=
  attribution.sourceKind < other.sourceKind ∨ (attribution.sourceKind = other.sourceKind ∧
    (attribution.resumeId < other.resumeId ∨ (attribution.resumeId = other.resumeId ∧
      attribution.dedupKey.getD "" ≤ other.dedupKey.getD "")))

instance instDecidableAttributionBefore : DecidableRel attributionBefore := fun _ _ =>
  inferInstanceAs (Decidable (_ ∨ (_ ∧ (_ ∨ (_ ∧ _)))))

/-- The counts of one query, and the people it was the first to return. -/
structure QueryCount where
  uniqueCount : Nat := 0
  duplicateCount : Nat := 0
  identitiesInQuery : List String := []

/-- One attribution of a query counts as unique or as a duplicate. -/
def QueryCount.count (candidateIdentityByResumeId : Dict String String)
    (allocatedIdentities : List String)
    (count : QueryCount) (attribution : RuntimeQueryCandidateAttribution) :
    Except OutcomeFailure QueryCount :=
  match candidateIdentityByResumeId.lookup attribution.resumeId with
  | none => .error (.value "query_candidate_attribution_missing_identity")
  | some identityId =>
    if identityId ∈ allocatedIdentities ∨ identityId ∈ count.identitiesInQuery then
      .ok { count with duplicateCount := count.duplicateCount + 1 }
    else
      .ok
        { count with
          uniqueCount := count.uniqueCount + 1
          identitiesInQuery := count.identitiesInQuery ++ [identityId] }

/-- The attributions of a query, as they are counted. -/
def attributionsOf (candidateAttributions : List RuntimeQueryCandidateAttribution)
    (queryInstanceId : String) : List RuntimeQueryCandidateAttribution :=
  (candidateAttributions.filter fun attribution => attribution.queryInstanceId =
    queryInstanceId).insertionSort attributionBefore

/-- The outcomes in the order of the dispatch, with their counts. -/
def countQueries (outcomeByQuery : Dict String LogicalQueryOutcome)
    (candidateAttributions : List RuntimeQueryCandidateAttribution)
    (candidateIdentityByResumeId : Dict String String) :
    List String → List String → Except OutcomeFailure (List LogicalQueryOutcome)
  | _, [] => .ok []
  | allocatedIdentities, queryInstanceId :: rest => do
    let count ← (attributionsOf candidateAttributions queryInstanceId).foldlM
      (QueryCount.count candidateIdentityByResumeId allocatedIdentities) {}
    match outcomeByQuery.lookup queryInstanceId with
    | none => .error (.key queryInstanceId)
    | some outcome =>
      let counted ← countQueries outcomeByQuery candidateAttributions candidateIdentityByResumeId
        (allocatedIdentities ++ count.identitiesInQuery) rest
      .ok
        ({ outcome with
            uniqueCandidateCount := count.uniqueCount
            duplicateCandidateCount := count.duplicateCount } :: counted)

/-- `apply_post_merge_query_counts`. -/
def applyPostMergeQueryCounts (outcomes : List LogicalQueryOutcome)
    (candidateAttributions : List RuntimeQueryCandidateAttribution)
    (candidateIdentityByResumeId : Dict String String)
    (dispatchOrder identitiesSeenBeforeRound : List String) :
    Except OutcomeFailure (List LogicalQueryOutcome) :=
  let outcomeByQuery := Dict.keyedBy LogicalQueryOutcome.queryInstanceId outcomes
  if dispatchOrder.length ≠ outcomeByQuery.keys.length ∨
    dispatchOrder.toFinset ≠ outcomeByQuery.keys.toFinset then
    .error (.value "query_outcome_dispatch_order_mismatch")
  else if ∃ attribution ∈ candidateAttributions,
    attribution.queryInstanceId ∉ outcomeByQuery.keys then
    .error (.value "query_candidate_attribution_without_outcome")
  else
    countQueries outcomeByQuery candidateAttributions candidateIdentityByResumeId
      identitiesSeenBeforeRound dispatchOrder

/-- `receipt.pre_click_skipped_seen_count + receipt.expansion_skipped_seen_count`. -/
def LogicalQueryReceipt.skipped (receipt : LogicalQueryReceipt) : Nat :=
  receipt.preClickSkippedSeenCount + receipt.expansionSkippedSeenCount

/-- `add_pre_click_skips_to_query_outcomes`. -/
def addPreClickSkipsToQueryOutcomes (outcomes : List LogicalQueryOutcome)
    (receipts : List LogicalQueryReceipt) : List LogicalQueryOutcome :=
  outcomes.map fun outcome =>
    { outcome with
      duplicateCandidateCount := outcome.duplicateCandidateCount +
        ((receipts.filter fun receipt => receipt.queryInstanceId = outcome.queryInstanceId).map
          LogicalQueryReceipt.skipped).sum }

/-! ## Whom a query has returned -/

section Counting

variable {candidateAttributions : List RuntimeQueryCandidateAttribution}
  {candidateIdentityByResumeId : Dict String String}
variable {attributions : List RuntimeQueryCandidateAttribution}
  {outcomes : List LogicalQueryOutcome} {dispatchOrder : List String}
variable {counted : List LogicalQueryOutcome} {known : List String}

/-- The people whose resumes attributions are about. -/
def peopleOf (candidateIdentityByResumeId : Dict String String)
    (attributions : List RuntimeQueryCandidateAttribution) : Finset String :=
  (attributions.filterMap fun attribution =>
    candidateIdentityByResumeId.lookup attribution.resumeId).toFinset

/-- The people that a query has returned. -/
def returnedBy (candidateAttributions : List RuntimeQueryCandidateAttribution)
    (candidateIdentityByResumeId : Dict String String) (queryInstanceId : String) : Finset String :=
  peopleOf candidateIdentityByResumeId
    (candidateAttributions.filter fun attribution => attribution.queryInstanceId = queryInstanceId)

/-- It is known whose resume an attribution is about. -/
def Identified (candidateIdentityByResumeId : Dict String String)
    (attribution : RuntimeQueryCandidateAttribution) : Prop :=
  (candidateIdentityByResumeId.lookup attribution.resumeId).isSome = true

lemma mem_peopleOf {i : String} :
    i ∈ peopleOf candidateIdentityByResumeId attributions ↔
      ∃ attribution ∈ attributions, candidateIdentityByResumeId.lookup attribution.resumeId =
        some i := by
  simp [peopleOf]

/-- The people of attributions are the same in any order. -/
lemma peopleOf_perm {others : List RuntimeQueryCandidateAttribution}
    (h : attributions.Perm others) :
    peopleOf candidateIdentityByResumeId attributions = peopleOf candidateIdentityByResumeId
      others := by
  ext i
  simp only [mem_peopleOf, h.mem_iff]

lemma attributionsOf_perm (candidateAttributions : List RuntimeQueryCandidateAttribution)
    (queryInstanceId : String) :
    (attributionsOf candidateAttributions queryInstanceId).Perm
      (candidateAttributions.filter fun attribution => attribution.queryInstanceId =
        queryInstanceId) :=
  List.perm_insertionSort _ _

/-- What counting attributions adds to a count. -/
structure QueryCount.Adds (count : QueryCount) (allocated : List String) (people : Finset String)
    (size : Nat) (counted : QueryCount) : Prop where
  unique : counted.uniqueCount =
    count.uniqueCount + (people \ (allocated.toFinset ∪ count.identitiesInQuery.toFinset)).card
  total : counted.uniqueCount + counted.duplicateCount = count.uniqueCount + count.duplicateCount +
    size
  identities : counted.identitiesInQuery.toFinset = count.identitiesInQuery.toFinset ∪
    (people \ allocated.toFinset)

/-- Counting goes through if it is known whose resumes the attributions are about. -/
lemma exists_counted (allocated : List String)
    (h : ∀ attribution ∈ attributions, Identified candidateIdentityByResumeId attribution)
    (count : QueryCount) :
    ∃ counted, attributions.foldlM (QueryCount.count candidateIdentityByResumeId allocated) count =
      .ok counted ∧
      count.Adds allocated (peopleOf candidateIdentityByResumeId attributions) attributions.length
        counted := by
  induction attributions generalizing count with
  | nil => exact ⟨count, rfl, by simp [peopleOf], rfl, by simp [peopleOf]⟩
  | cons attribution rest ih =>
    obtain ⟨i, hi⟩ := Option.isSome_iff_exists.mp (h attribution List.mem_cons_self)
    have hpeople : peopleOf candidateIdentityByResumeId (attribution :: rest) =
        insert i (peopleOf candidateIdentityByResumeId rest) := by
      ext j
      simp only [mem_peopleOf, Finset.mem_insert, List.exists_mem_cons_iff, hi, Option.some.injEq,
        eq_comm]
    obtain ⟨next, hnext, hone⟩ : ∃ next,
      QueryCount.count candidateIdentityByResumeId allocated count attribution =
        .ok next ∧ count.Adds allocated {i} 1 next := by
      unfold QueryCount.count
      rw [hi]
      by_cases hknown : i ∈ allocated ∨ i ∈ count.identitiesInQuery
      · refine ⟨_, if_pos hknown, ?_, rfl, ?_⟩
        · rw [Finset.sdiff_eq_empty_iff_subset.mpr (by simpa using hknown), Finset.card_empty]
          rfl
        · refine (Finset.union_eq_left.mpr fun j hj => ?_).symm
          obtain ⟨hj, hfresh⟩ := Finset.mem_sdiff.mp hj
          rw [Finset.mem_singleton.mp hj] at hfresh ⊢
          exact List.mem_toFinset.mpr
            (hknown.resolve_left fun hmem => hfresh (List.mem_toFinset.mpr hmem))
      · rw [not_or] at hknown
        refine ⟨_, if_neg (not_or.mpr hknown), ?_, by simp only [Nat.add_right_comm], ?_⟩
        · rw [Finset.sdiff_eq_self_of_disjoint (by simpa using hknown), Finset.card_singleton]
        · rw [List.toFinset_append, Finset.sdiff_eq_self_of_disjoint (by simpa using hknown.1)]
          rfl
    obtain ⟨counted, hcounted, hrest⟩ :=
      ih (fun other hother => h other (List.mem_cons_of_mem _ hother)) next
    refine ⟨counted, ?_, ?_, ?_, ?_⟩
    · rw [List.foldlM_cons, hnext]
      exact hcounted
    · rw [hrest.unique, hone.unique, hone.identities, hpeople, Nat.add_assoc,
        ← Finset.card_union_of_disjoint]
      · congr 2
        ext j
        simp only [Finset.mem_union, Finset.mem_sdiff, Finset.mem_insert, Finset.mem_singleton,
          not_or, not_and, not_not]
        tauto
      · refine Finset.disjoint_left.mpr fun j hj hj' => ?_
        simp only [Finset.mem_union, Finset.mem_sdiff, Finset.mem_singleton, not_or, not_and,
          not_not] at hj hj'
        exact hj.2.1 (hj'.2.2.2 hj.1)
    · rw [hrest.total, hone.total, List.length_cons]
      omega
    · rw [hrest.identities, hone.identities, hpeople, Finset.union_assoc,
        ← Finset.union_sdiff_distrib]
      rfl

/-- Counting stops at an attribution of which it is not known whose resume it is about. -/
lemma counting_stops {allocated : List String}
    (h : ∃ attribution ∈ attributions, ¬Identified candidateIdentityByResumeId attribution)
    (count : QueryCount) :
    attributions.foldlM (QueryCount.count candidateIdentityByResumeId allocated) count =
      .error (.value "query_candidate_attribution_missing_identity") := by
  induction attributions generalizing count with
  | nil =>
    obtain ⟨attribution, hmem, -⟩ := h
    exact absurd hmem List.not_mem_nil
  | cons attribution rest ih =>
    rw [List.foldlM_cons]
    unfold QueryCount.count
    cases hlookup : candidateIdentityByResumeId.lookup attribution.resumeId with
    | none => rfl
    | some i =>
      have hrest : ∃ other ∈ rest, ¬Identified candidateIdentityByResumeId other := by
        obtain ⟨other, hother, hmissing⟩ := h
        rcases List.mem_cons.mp hother with rfl | hmem
        · exact absurd (by rw [Identified, hlookup]; rfl) hmissing
        · exact ⟨other, hmem, hmissing⟩
      dsimp only
      split
      · exact ih hrest _
      · exact ih hrest _

/-- The outcome of a query with the counts that it has when the people of `allocated` have been
returned. -/
def creditedOutcome (candidateAttributions : List RuntimeQueryCandidateAttribution)
    (candidateIdentityByResumeId : Dict String String) (allocated : Finset String)
    (outcome : LogicalQueryOutcome) (queryInstanceId : String) : LogicalQueryOutcome :=
  let returned := returnedBy candidateAttributions candidateIdentityByResumeId queryInstanceId
  { outcome with
    uniqueCandidateCount := (returned \ allocated).card
    duplicateCandidateCount :=
      (candidateAttributions.filter fun attribution => attribution.queryInstanceId =
        queryInstanceId).length - (returned \ allocated).card }

/-- The outcomes with the counts that they have in an order of the queries. -/
def creditedOutcomes (outcomeByQuery : Dict String LogicalQueryOutcome)
    (candidateAttributions : List RuntimeQueryCandidateAttribution)
    (candidateIdentityByResumeId : Dict String String) :
    Finset String → List String → List LogicalQueryOutcome
  | _, [] => []
  | allocated, queryInstanceId :: rest =>
    (outcomeByQuery.lookup queryInstanceId).toList.map (fun outcome =>
      creditedOutcome candidateAttributions candidateIdentityByResumeId allocated outcome
        queryInstanceId) ++
    creditedOutcomes outcomeByQuery candidateAttributions candidateIdentityByResumeId
      (allocated ∪ returnedBy candidateAttributions candidateIdentityByResumeId queryInstanceId)
      rest

variable {outcomeByQuery : Dict String LogicalQueryOutcome}

/-- A query whose attributions are all about known people is counted. -/
lemma exists_query_counted (allocated : List String) {queryInstanceId : String}
    (h : ∀ attribution ∈ candidateAttributions, attribution.queryInstanceId = queryInstanceId →
      Identified candidateIdentityByResumeId attribution) :
    ∃ count, (attributionsOf candidateAttributions queryInstanceId).foldlM
        (QueryCount.count candidateIdentityByResumeId allocated) {} = .ok count ∧
      count.uniqueCount =
        (returnedBy candidateAttributions candidateIdentityByResumeId queryInstanceId \
          allocated.toFinset).card ∧
      count.duplicateCount =
        (candidateAttributions.filter fun attribution => attribution.queryInstanceId =
          queryInstanceId).length - count.uniqueCount ∧
      (allocated ++ count.identitiesInQuery).toFinset =
        allocated.toFinset ∪ returnedBy candidateAttributions candidateIdentityByResumeId
          queryInstanceId := by
  have hperm := attributionsOf_perm candidateAttributions queryInstanceId
  obtain ⟨count, hcount, hadds⟩ := exists_counted allocated
    (fun attribution hmem => by
      obtain ⟨hmem, hquery⟩ := List.mem_filter.mp (hperm.mem_iff.mp hmem)
      exact h attribution hmem (of_decide_eq_true hquery)) {}
  obtain ⟨hunique, htotal, hidentities⟩ := hadds
  rw [peopleOf_perm hperm] at hunique hidentities
  rw [hperm.length_eq] at htotal
  have hduplicate := Nat.eq_sub_of_add_eq' htotal
  rw [Nat.zero_add, Nat.zero_add] at hduplicate
  refine ⟨count, hcount, hunique.trans ?_, hduplicate, ?_⟩
  · rw [Nat.zero_add, List.toFinset_nil, Finset.union_empty]
    rfl
  · rw [List.toFinset_append, hidentities, List.toFinset_nil, Finset.empty_union,
      Finset.union_sdiff_self_eq_union]
    rfl

/-- Counting the queries in an order either stops at an attribution of which it is not known whose
resume it is about, or gives each of them its counts. -/
lemma countQueries_eq (candidateAttributions : List RuntimeQueryCandidateAttribution)
    (candidateIdentityByResumeId : Dict String String) {order : List String}
    (hkeys : ∀ queryInstanceId ∈ order, queryInstanceId ∈ outcomeByQuery.keys)
    (allocated : List String) :
    ((∃ attribution ∈ candidateAttributions, attribution.queryInstanceId ∈ order ∧
        ¬Identified candidateIdentityByResumeId attribution) →
      countQueries outcomeByQuery candidateAttributions candidateIdentityByResumeId allocated
        order = .error (.value "query_candidate_attribution_missing_identity")) ∧
    ((∀ attribution ∈ candidateAttributions, attribution.queryInstanceId ∈ order →
        Identified candidateIdentityByResumeId attribution) →
      countQueries outcomeByQuery candidateAttributions candidateIdentityByResumeId allocated
        order =
        .ok (creditedOutcomes outcomeByQuery candidateAttributions candidateIdentityByResumeId
          allocated.toFinset order)) := by
  induction order generalizing allocated with
  | nil =>
    refine ⟨?_, fun _ => rfl⟩
    rintro ⟨attribution, -, hmem, -⟩
    exact absurd hmem List.not_mem_nil
  | cons queryInstanceId rest ih =>
    obtain ⟨outcome, houtcome⟩ : ∃ outcome, outcomeByQuery.lookup queryInstanceId = some outcome :=
      Option.isSome_iff_exists.mp
        (AList.lookup_isSome.mpr (hkeys queryInstanceId List.mem_cons_self))
    have ih := ih fun other hother => hkeys other (List.mem_cons_of_mem _ hother)
    by_cases hfirst : ∀ attribution ∈ candidateAttributions,
      attribution.queryInstanceId = queryInstanceId →
        Identified candidateIdentityByResumeId attribution
    · obtain ⟨count, hcount, hunique, hduplicate, hidentities⟩ :=
        exists_query_counted allocated hfirst
      constructor
      · rintro ⟨attribution, hmem, horder, hmissing⟩
        have hrest : attribution.queryInstanceId ∈ rest :=
          (List.mem_cons.mp horder).resolve_left fun heq => hmissing (hfirst attribution hmem heq)
        unfold countQueries
        rw [hcount, houtcome]
        dsimp only [bind, Except.bind]
        rw [(ih (allocated ++ count.identitiesInQuery)).1 ⟨attribution, hmem, hrest, hmissing⟩]
      · intro hall
        have hrest := (ih (allocated ++ count.identitiesInQuery)).2 fun attribution hmem horder =>
          hall attribution hmem (List.mem_cons_of_mem _ horder)
        unfold countQueries creditedOutcomes
        rw [hcount, houtcome]
        dsimp only [bind, Except.bind]
        rw [hrest, hidentities, hduplicate, hunique]
        rfl
    · obtain ⟨attribution, hmem, hquery, hmissing⟩ : ∃ attribution ∈ candidateAttributions,
          attribution.queryInstanceId = queryInstanceId ∧
          ¬Identified candidateIdentityByResumeId attribution := by
        simpa only [not_forall, exists_prop] using hfirst
      constructor
      · intro _
        unfold countQueries
        rw [counting_stops
          ⟨attribution, (attributionsOf_perm candidateAttributions queryInstanceId).mem_iff.mpr
          (List.mem_filter.mpr ⟨hmem, decide_eq_true hquery⟩), hmissing⟩]
        rfl
      · intro hall
        exact absurd (hall attribution hmem (hquery ▸ List.mem_cons_self)) hmissing

/-! ## Credit -/

/-- In the order of the dispatch every query is credited with those it is the first to return. -/
lemma creditedOutcomes_counts (candidateAttributions : List RuntimeQueryCandidateAttribution)
    (candidateIdentityByResumeId : Dict String String) (known before : List String)
    {order : List String} (hnodup : (before ++ order).Nodup)
    (hkeys : ∀ queryInstanceId ∈ order, ∃ outcome, outcomeByQuery.lookup queryInstanceId =
      some outcome ∧ outcome.queryInstanceId = queryInstanceId) :
    let returned := returnedBy candidateAttributions candidateIdentityByResumeId
    let counted := creditedOutcomes outcomeByQuery candidateAttributions candidateIdentityByResumeId
      (known.toFinset ∪ before.toFinset.biUnion returned) order
    counted.map LogicalQueryOutcome.queryInstanceId = order ∧
    (counted.map fun outcome => outcome.uniqueCandidateCount) =
      order.map (fun queryInstanceId =>
        (firstNamed returned known.toFinset (before ++ order) queryInstanceId).card) ∧
    ∀ outcome ∈ counted, ∃ given, outcomeByQuery.lookup outcome.queryInstanceId = some given ∧
      outcome = { given with
        uniqueCandidateCount :=
          (firstNamed returned known.toFinset (before ++ order) outcome.queryInstanceId).card
        duplicateCandidateCount := (candidateAttributions.filter fun attribution =>
          attribution.queryInstanceId = outcome.queryInstanceId).length -
            (firstNamed returned known.toFinset
              (before ++ order) outcome.queryInstanceId).card } := by
  intro returned counted
  induction order generalizing before with
  | nil => exact ⟨rfl, rfl, fun outcome hmem => absurd hmem List.not_mem_nil⟩
  | cons queryInstanceId rest ih =>
    obtain ⟨given, hgiven, hid⟩ := hkeys queryInstanceId List.mem_cons_self
    have hnew : queryInstanceId ∉ before := fun hmem =>
      (List.nodup_append.mp hnodup).2.2 queryInstanceId hmem queryInstanceId List.mem_cons_self rfl
    have hcredit := sdiff_eq_firstNamed returned known.toFinset rest hnew
    have hnext : known.toFinset ∪ before.toFinset.biUnion returned ∪ returned queryInstanceId =
        known.toFinset ∪ (before ++ [queryInstanceId]).toFinset.biUnion returned := by
      ext i
      simp only [Finset.mem_union, Finset.mem_biUnion, List.mem_toFinset, List.mem_append,
        List.mem_singleton]
      constructor
      · rintro ((hknown | ⟨other, hother, hi⟩) | hi)
        · exact .inl hknown
        · exact .inr ⟨other, .inl hother, hi⟩
        · exact .inr ⟨queryInstanceId, .inr rfl, hi⟩
      · rintro (hknown | ⟨other, hother | rfl, hi⟩)
        · exact .inl (.inl hknown)
        · exact .inl (.inr ⟨other, hother, hi⟩)
        · exact .inr hi
    have hsplit : before ++ queryInstanceId :: rest = before ++ [queryInstanceId] ++ rest := by simp
    obtain ⟨hids, hcounts, hgivens⟩ := ih (before ++ [queryInstanceId]) (hsplit ▸ hnodup)
      fun other hother => hkeys other (List.mem_cons_of_mem _ hother)
    have hcounted : counted = creditedOutcome candidateAttributions candidateIdentityByResumeId
        (known.toFinset ∪ before.toFinset.biUnion returned) given queryInstanceId ::
          creditedOutcomes outcomeByQuery candidateAttributions candidateIdentityByResumeId
            (known.toFinset ∪ (before ++ [queryInstanceId]).toFinset.biUnion returned) rest := by
      rw [← hnext]
      exact congrArg (fun found : Option LogicalQueryOutcome => found.toList.map _ ++ _) hgiven
    have hfirst : creditedOutcome candidateAttributions candidateIdentityByResumeId
        (known.toFinset ∪ before.toFinset.biUnion returned) given queryInstanceId = { given with
          uniqueCandidateCount :=
            (firstNamed returned known.toFinset (before ++ queryInstanceId :: rest)
              queryInstanceId).card
          duplicateCandidateCount := (candidateAttributions.filter fun attribution =>
            attribution.queryInstanceId = queryInstanceId).length -
              (firstNamed returned known.toFinset (before ++ queryInstanceId :: rest)
                queryInstanceId).card } := by
      unfold creditedOutcome
      rw [← hcredit]
    rw [hcounted, hfirst]
    rw [hsplit] at hcredit ⊢
    refine ⟨?_, ?_, ?_⟩
    · rw [List.map_cons, hids, hid]
    · rw [List.map_cons, List.map_cons, hcounts]
    · intro outcome hmem
      rcases List.mem_cons.mp hmem with rfl | hrest
      · subst hid
        exact ⟨given, hgiven, rfl⟩
      · exact hgivens outcome hrest

/-- What is known of accepted outcomes: every query was dispatched once, and every attribution is
about a known person. -/
lemma applyPostMergeQueryCounts_eq_ok
    (h : applyPostMergeQueryCounts outcomes candidateAttributions candidateIdentityByResumeId
      dispatchOrder known = .ok counted) :
    dispatchOrder.Nodup ∧
    (∀ queryInstanceId ∈ dispatchOrder, ∃ outcome,
      (Dict.keyedBy LogicalQueryOutcome.queryInstanceId outcomes).lookup queryInstanceId =
        some outcome ∧ outcome.queryInstanceId = queryInstanceId) ∧
    (∀ attribution ∈ candidateAttributions, attribution.queryInstanceId ∈ dispatchOrder ∧
      Identified candidateIdentityByResumeId attribution) ∧
    counted = creditedOutcomes
      (Dict.keyedBy LogicalQueryOutcome.queryInstanceId outcomes) candidateAttributions
      candidateIdentityByResumeId known.toFinset dispatchOrder := by
  unfold applyPostMergeQueryCounts at h
  dsimp only at h
  split at h
  · cases h
  rename_i horder
  split at h
  · cases h
  rename_i hattributed
  rw [not_or, not_not, not_not] at horder
  obtain ⟨hlength, hsame⟩ := horder
  have hmem : ∀ queryInstanceId, queryInstanceId ∈ dispatchOrder ↔
      queryInstanceId ∈ (Dict.keyedBy LogicalQueryOutcome.queryInstanceId outcomes).keys := by
    intro queryInstanceId
    rw [← List.mem_toFinset, hsame, List.mem_toFinset]
  have hknown : ∀ attribution ∈ candidateAttributions,
      attribution.queryInstanceId ∈ dispatchOrder :=
    fun attribution hattribution =>
      (hmem _).mpr (not_not.mp fun hnot => hattributed ⟨attribution, hattribution, hnot⟩)
  obtain ⟨hstops, hcounts⟩ := countQueries_eq candidateAttributions candidateIdentityByResumeId
    (fun queryInstanceId => (hmem queryInstanceId).mp) known
  have hidentified : ∀ attribution ∈ candidateAttributions,
      Identified candidateIdentityByResumeId attribution := by
    by_contra hnot
    obtain ⟨attribution, hattribution, hmissing⟩ : ∃ attribution ∈ candidateAttributions,
        ¬Identified candidateIdentityByResumeId attribution := by
      simpa only [not_forall, exists_prop] using hnot
    rw [hstops ⟨attribution, hattribution, hknown attribution hattribution, hmissing⟩] at h
    cases h
  refine ⟨?_, fun queryInstanceId hquery => ?_, fun attribution hattribution =>
    ⟨hknown attribution hattribution, hidentified attribution hattribution⟩, ?_⟩
  · refine List.dedup_eq_self.mp ((List.dedup_sublist dispatchOrder).eq_of_length ?_)
    rw [← List.card_toFinset, hsame, List.toFinset_card_of_nodup (AList.keys_nodup _), hlength]
  · obtain ⟨outcome, houtcome⟩ :=
      Option.isSome_iff_exists.mp (AList.lookup_isSome.mpr ((hmem _).mp hquery))
    exact ⟨outcome, houtcome, (Dict.mem_of_lookup_keyedBy houtcome).2⟩
  · exact (Except.ok.inj
      ((hcounts fun attribution hattribution _ => hidentified attribution hattribution).symm.trans
      h)).symm

/-- Accepted outcomes come in the order of the dispatch, with the credits of their queries. -/
lemma applyPostMergeQueryCounts_spec
    (h : applyPostMergeQueryCounts outcomes candidateAttributions candidateIdentityByResumeId
      dispatchOrder known = .ok counted) :
    let credit := fun queryInstanceId =>
      (firstNamed (returnedBy candidateAttributions candidateIdentityByResumeId)
      known.toFinset dispatchOrder queryInstanceId).card
    counted.map LogicalQueryOutcome.queryInstanceId = dispatchOrder ∧
    (counted.map fun outcome => outcome.uniqueCandidateCount) = dispatchOrder.map credit ∧
    ∀ outcome ∈ counted, ∃ given,
      (Dict.keyedBy LogicalQueryOutcome.queryInstanceId outcomes).lookup outcome.queryInstanceId =
      some given ∧
        outcome = { given with
          uniqueCandidateCount := credit outcome.queryInstanceId
          duplicateCandidateCount := (candidateAttributions.filter fun attribution =>
            attribution.queryInstanceId = outcome.queryInstanceId).length - credit
                outcome.queryInstanceId } := by
  obtain ⟨hnodup, hkeys, -, hcounted⟩ := applyPostMergeQueryCounts_eq_ok h
  have hcredits :=
    creditedOutcomes_counts candidateAttributions candidateIdentityByResumeId known [] hnodup hkeys
  dsimp only at hcredits
  rw [List.toFinset_nil, Finset.biUnion_empty, Finset.union_empty, ← hcounted,
    List.nil_append] at hcredits
  exact hcredits

/-- A query is credited with at most as many people as there are attributions to it. -/
lemma credit_le {known : Finset String} (queryInstanceId : String) :
    (firstNamed (returnedBy candidateAttributions candidateIdentityByResumeId) known dispatchOrder
      queryInstanceId).card ≤
      (candidateAttributions.filter fun attribution => attribution.queryInstanceId =
        queryInstanceId).length :=
  le_trans (Finset.card_le_card (Finset.filter_subset _ _))
    (le_trans (List.toFinset_card_le _) (List.length_filterMap_le _ _))

/-- What the queries of a round have returned are the people that the attributions are about. -/
lemma biUnion_returnedBy
    (h : ∀ attribution ∈ candidateAttributions, attribution.queryInstanceId ∈ dispatchOrder ∧
      Identified candidateIdentityByResumeId attribution) :
    dispatchOrder.toFinset.biUnion (returnedBy candidateAttributions candidateIdentityByResumeId) =
      (candidateAttributions.map fun attribution =>
        identityOf candidateIdentityByResumeId attribution.resumeId).toFinset := by
  ext i
  simp only [Finset.mem_biUnion, List.mem_toFinset, returnedBy, mem_peopleOf, List.mem_filter,
    decide_eq_true_eq, List.mem_map]
  constructor
  · rintro ⟨queryInstanceId, -, attribution, ⟨hmem, -⟩, hi⟩
    exact ⟨attribution, hmem, by rw [identityOf, hi, Option.getD_some]⟩
  · rintro ⟨attribution, hmem, rfl⟩
    obtain ⟨hdispatched, hidentified⟩ := h attribution hmem
    obtain ⟨i, hi⟩ := Option.isSome_iff_exists.mp hidentified
    exact ⟨attribution.queryInstanceId, hdispatched, attribution, ⟨hmem, rfl⟩,
      by rw [identityOf, hi, Option.getD_some]⟩

/-- `round_identity_ids`. -/
def roundIdentityIds (candidateAttributions : List RuntimeQueryCandidateAttribution)
    (candidateIdentityByResumeId : Dict String String) : Finset String :=
  (candidateAttributions.map fun attribution =>
    identityOf candidateIdentityByResumeId attribution.resumeId).toFinset

/-- **Every new person is credited to exactly one query.**  When the outcomes of a round are
accepted, they come in the order of the dispatch; each query is credited with the new people that it
was the first one in this order to return, and what it returned besides counts as duplicates; and
all credits together are the new people of the round. -/
theorem applyPostMergeQueryCounts_credits (outcomes : List LogicalQueryOutcome)
    (candidateAttributions : List RuntimeQueryCandidateAttribution)
    (candidateIdentityByResumeId : Dict String String)
    (dispatchOrder identitiesSeenBeforeRound : List String) (counted : List LogicalQueryOutcome)
    (h : applyPostMergeQueryCounts outcomes candidateAttributions candidateIdentityByResumeId
      dispatchOrder identitiesSeenBeforeRound = .ok counted) :
    counted.map LogicalQueryOutcome.queryInstanceId = dispatchOrder ∧ dispatchOrder.Nodup ∧
    (∀ outcome ∈ counted,
      outcome.uniqueCandidateCount =
        (firstNamed (returnedBy candidateAttributions candidateIdentityByResumeId)
          identitiesSeenBeforeRound.toFinset dispatchOrder outcome.queryInstanceId).card ∧
      outcome.uniqueCandidateCount + outcome.duplicateCandidateCount =
        candidateAttributions.countP fun attribution =>
        attribution.queryInstanceId = outcome.queryInstanceId) ∧
    (counted.map fun outcome => outcome.uniqueCandidateCount).sum =
      (roundIdentityIds candidateAttributions candidateIdentityByResumeId \
        identitiesSeenBeforeRound.toFinset).card := by
  obtain ⟨hnodup, -, hattributed, -⟩ := applyPostMergeQueryCounts_eq_ok h
  obtain ⟨hids, hcounts, hgivens⟩ := applyPostMergeQueryCounts_spec h
  refine ⟨hids, hnodup, fun outcome hmem => ?_, ?_⟩
  · obtain ⟨given, -, heq⟩ := hgivens outcome hmem
    have hunique := congrArg LogicalQueryOutcome.uniqueCandidateCount heq
    have hduplicate := congrArg LogicalQueryOutcome.duplicateCandidateCount heq
    dsimp only at hunique hduplicate
    refine ⟨hunique, ?_⟩
    rw [List.countP_eq_length_filter, hunique, hduplicate]
    exact Nat.add_sub_cancel' (credit_le _)
  · rw [hcounts, roundIdentityIds, ← biUnion_returnedBy hattributed]
    exact sum_card_firstNamed hnodup

/-- **The order of the attributions does not matter**, neither for the counts nor for the errors. -/
theorem applyPostMergeQueryCounts_perm (outcomes : List LogicalQueryOutcome)
    (candidateAttributions others : List RuntimeQueryCandidateAttribution)
    (h : candidateAttributions.Perm others)
    (candidateIdentityByResumeId : Dict String String)
    (dispatchOrder identitiesSeenBeforeRound : List String) :
    applyPostMergeQueryCounts outcomes candidateAttributions candidateIdentityByResumeId
      dispatchOrder
        identitiesSeenBeforeRound =
      applyPostMergeQueryCounts outcomes others candidateIdentityByResumeId dispatchOrder
        identitiesSeenBeforeRound := by
  unfold applyPostMergeQueryCounts
  dsimp only
  split
  · rfl
  rename_i horder
  rw [not_or, not_not, not_not] at horder
  have hkeys : ∀ queryInstanceId ∈ dispatchOrder,
      queryInstanceId ∈ (Dict.keyedBy LogicalQueryOutcome.queryInstanceId outcomes).keys := by
    intro queryInstanceId hmem
    rw [← List.mem_toFinset, ← horder.2, List.mem_toFinset]
    exact hmem
  refine if_congr (by simp only [h.mem_iff]) rfl ?_
  obtain ⟨hstops, hcounts⟩ := countQueries_eq candidateAttributions candidateIdentityByResumeId
    hkeys identitiesSeenBeforeRound
  obtain ⟨hstops', hcounts'⟩ := countQueries_eq others candidateIdentityByResumeId
    hkeys identitiesSeenBeforeRound
  by_cases hmissing : ∃ attribution ∈ candidateAttributions,
    attribution.queryInstanceId ∈ dispatchOrder ∧
      ¬Identified candidateIdentityByResumeId attribution
  · rw [hstops hmissing, hstops' (by simpa only [h.mem_iff] using hmissing)]
  · have hall : ∀ attribution ∈ candidateAttributions, attribution.queryInstanceId ∈ dispatchOrder →
        Identified candidateIdentityByResumeId attribution := fun attribution hmem hquery =>
      not_not.mp fun hnot => hmissing ⟨attribution, hmem, hquery, hnot⟩
    rw [hcounts hall, hcounts' fun attribution hmem => hall attribution (h.mem_iff.mpr hmem)]
    have hreturned : returnedBy candidateAttributions candidateIdentityByResumeId =
        returnedBy others candidateIdentityByResumeId := funext fun queryInstanceId =>
          peopleOf_perm (h.filter _)
    have hsame : ∀ (order : List String) (allocated : Finset String),
        creditedOutcomes (Dict.keyedBy LogicalQueryOutcome.queryInstanceId outcomes)
        candidateAttributions
            candidateIdentityByResumeId allocated order =
          creditedOutcomes (Dict.keyedBy LogicalQueryOutcome.queryInstanceId outcomes) others
            candidateIdentityByResumeId allocated order := by
      intro order
      induction order with
      | nil => exact fun _ => rfl
      | cons queryInstanceId rest ih =>
        intro allocated
        unfold creditedOutcomes creditedOutcome
        rw [hreturned, (h.filter _).length_eq, ih]
    rw [hsame]

/-! ## The books of a round -/

/-- The outcomes that `_run_rounds` keeps of a round. -/
def roundQueryOutcomes (receipts : List LogicalQueryReceipt)
    (candidateAttributions : List RuntimeQueryCandidateAttribution)
    (candidateIdentityByResumeId : Dict String String)
    (dispatchOrder identitiesSeenBeforeRound : List String) :
    Except OutcomeFailure (List LogicalQueryOutcome) := do
  let outcomes ← logicalOutcomesFromReceipts py receipts
  let counted ← applyPostMergeQueryCounts outcomes candidateAttributions candidateIdentityByResumeId
    dispatchOrder identitiesSeenBeforeRound
  .ok (addPreClickSkipsToQueryOutcomes counted receipts)

variable {py}

lemma groupOutcome_eq_ok {group : String × List LogicalQueryReceipt} {outcome : LogicalQueryOutcome}
    (h : groupOutcome py group = .ok outcome) :
    (outcome.queryInstanceId, outcome.receipts) = group ∧
      outcome.rawCandidateCount =
        (outcome.receipts.map fun receipt => receipt.rawCandidateCount).sum := by
  obtain ⟨queryInstanceId, members⟩ := group
  unfold groupOutcome at h
  split at h
  · cases h
  · rename_i first rest hmembers
    dsimp only at hmembers
    split at h
    · cases h
    · cases h
      exact ⟨by rw [hmembers]; rfl, rfl⟩

/-- The outcomes of receipts have them under their queries, each once. -/
lemma logicalOutcomes_receipts {receipts : List LogicalQueryReceipt}
    (h : logicalOutcomesFromReceipts py receipts = .ok outcomes) :
    (outcomes.map LogicalQueryOutcome.queryInstanceId).Nodup ∧
    (outcomes.flatMap LogicalQueryOutcome.receipts).Perm receipts ∧
    (∀ outcome ∈ outcomes, ∀ receipt ∈ outcome.receipts, receipt.queryInstanceId =
      outcome.queryInstanceId) ∧
    ∀ outcome ∈ outcomes,
      outcome.rawCandidateCount =
        (outcome.receipts.map fun receipt => receipt.rawCandidateCount).sum := by
  have hgroups : (receiptGroups receipts).Perm
      (groupedBy (fun receipt => receipt.queryInstanceId) receipts) :=
    List.perm_insertionSort _ _
  have hpairs : (outcomes.map fun outcome => (outcome.queryInstanceId, outcome.receipts)) =
      receiptGroups receipts := by
    have hmapped := map_eq_of_mapM (g := id) h fun group _ outcome houtcome =>
      (groupOutcome_eq_ok houtcome).1
    rw [List.map_id] at hmapped
    exact hmapped
  have hids := congrArg (List.map Prod.fst) hpairs
  have hmembers := congrArg (List.flatMap Prod.snd) hpairs
  rw [List.map_map] at hids
  rw [List.flatMap_map] at hmembers
  refine ⟨?_, ?_, fun outcome houtcome receipt hreceipt => ?_, fun outcome houtcome => ?_⟩
  · refine (congrArg List.Nodup hids).mpr ((hgroups.map Prod.fst).nodup_iff.mpr ?_)
    exact nodup_keys_groupedBy _ _
  · exact (List.Perm.of_eq hmembers).trans
      ((hgroups.flatMap_right Prod.snd).trans (groupedBy_perm _ _))
  · have hgroup : (outcome.queryInstanceId, outcome.receipts) ∈ receiptGroups receipts := by
      rw [← hpairs]
      exact List.mem_map_of_mem houtcome
    exact (key_of_mem_groupedBy (hgroups.mem_iff.mp hgroup)).2 receipt hreceipt
  · obtain ⟨group, -, hgroup⟩ := mem_of_mapM_ok h houtcome
    exact (groupOutcome_eq_ok hgroup).2

/-- What counting does not change of an outcome. -/
def LogicalQueryOutcome.uncounted (outcome : LogicalQueryOutcome) : LogicalQueryOutcome :=
  { outcome with uniqueCandidateCount := 0, duplicateCandidateCount := 0 }

/-- Counting reorders the outcomes and changes nothing but their counts. -/
lemma counted_perm (hnodup : (outcomes.map LogicalQueryOutcome.queryInstanceId).Nodup)
    (h : applyPostMergeQueryCounts outcomes candidateAttributions candidateIdentityByResumeId
      dispatchOrder known = .ok counted) :
    (counted.map LogicalQueryOutcome.uncounted).Perm
    (outcomes.map LogicalQueryOutcome.uncounted) := by
  obtain ⟨horder, hkeys, -, -⟩ := applyPostMergeQueryCounts_eq_ok h
  obtain ⟨hids, -, hgivens⟩ := applyPostMergeQueryCounts_spec h
  have hcountedIds : ((counted.map LogicalQueryOutcome.uncounted).map
      LogicalQueryOutcome.queryInstanceId).Nodup := by
    rw [List.map_map]
    exact (congrArg List.Nodup hids).mpr horder
  have hgivenIds : ((outcomes.map LogicalQueryOutcome.uncounted).map
      LogicalQueryOutcome.queryInstanceId).Nodup := by
    rw [List.map_map]
    exact hnodup
  refine (List.perm_ext_iff_of_nodup hcountedIds.of_map hgivenIds.of_map).mpr fun core => ?_
  constructor
  · intro hcore
    obtain ⟨outcome, hmem, rfl⟩ := List.mem_map.mp hcore
    obtain ⟨given, hgiven, heq⟩ := hgivens outcome hmem
    refine List.mem_map.mpr ⟨given, (Dict.mem_of_lookup_keyedBy hgiven).1, ?_⟩
    rw [heq]
    rfl
  · intro hcore
    obtain ⟨given, hmem, rfl⟩ := List.mem_map.mp hcore
    have hlookup := Dict.lookup_keyedBy_of_mem hnodup hmem
    have hdispatched : given.queryInstanceId ∈ dispatchOrder := by
      unfold applyPostMergeQueryCounts at h
      dsimp only at h
      split at h
      · cases h
      · rename_i hmatch
        rw [not_or, not_not, not_not] at hmatch
        rw [← List.mem_toFinset, hmatch.2, List.mem_toFinset]
        exact AList.lookup_isSome.mp (Option.isSome_of_eq_some hlookup)
    rw [← hids] at hdispatched
    obtain ⟨outcome, houtcome, hid⟩ := List.mem_map.mp hdispatched
    obtain ⟨found, hfound, heq⟩ := hgivens outcome houtcome
    rw [hid, hlookup] at hfound
    cases hfound
    refine List.mem_map.mpr ⟨outcome, houtcome, ?_⟩
    rw [heq]
    rfl

/-- **The books of a round balance.**  The outcomes have all receipts of the round, each once, and
their raw counts add up to those of the receipts.  Their unique counts add up to the new people of
the round, and what they count at all adds up to the attributions and the candidates that were
skipped before anybody looked at them. -/
theorem roundQueryOutcomes_accounted (receipts : List LogicalQueryReceipt)
    (candidateAttributions : List RuntimeQueryCandidateAttribution)
    (candidateIdentityByResumeId : Dict String String)
    (dispatchOrder identitiesSeenBeforeRound : List String) (outcomes : List LogicalQueryOutcome)
    (h : roundQueryOutcomes py receipts candidateAttributions candidateIdentityByResumeId
      dispatchOrder identitiesSeenBeforeRound = .ok outcomes) :
    (outcomes.flatMap LogicalQueryOutcome.receipts).Perm receipts ∧
    (outcomes.map fun outcome => outcome.rawCandidateCount).sum =
      (receipts.map fun receipt => receipt.rawCandidateCount).sum ∧
    (outcomes.map fun outcome => outcome.uniqueCandidateCount).sum =
      (roundIdentityIds candidateAttributions candidateIdentityByResumeId \
        identitiesSeenBeforeRound.toFinset).card ∧
    (outcomes.map fun outcome => outcome.uniqueCandidateCount +
      outcome.duplicateCandidateCount).sum =
      candidateAttributions.length + (receipts.map LogicalQueryReceipt.skipped).sum := by
  unfold roundQueryOutcomes at h
  simp only [bind_eq_ok, Except.ok.injEq] at h
  obtain ⟨given, hgiven, counted, hcounted, rfl⟩ := h
  obtain ⟨hnodup, hreceipts, hmembers, hraw⟩ := logicalOutcomes_receipts hgiven
  obtain ⟨horder, -, hattributed, -⟩ := applyPostMergeQueryCounts_eq_ok hcounted
  obtain ⟨hids, hcounts, hgivens⟩ := applyPostMergeQueryCounts_spec hcounted
  have hperm := counted_perm hnodup hcounted
  have hdispatched : ∀ receipt ∈ receipts,
      receipt.queryInstanceId ∈ dispatchOrder := fun receipt hreceipt => by
    obtain ⟨outcome, houtcome, hmem⟩ := List.mem_flatMap.mp (hreceipts.mem_iff.mpr hreceipt)
    rw [hmembers outcome houtcome receipt hmem, ← hids]
    have hcore := hperm.mem_iff.mpr (List.mem_map_of_mem houtcome)
    obtain ⟨other, hother, heq⟩ := List.mem_map.mp hcore
    exact List.mem_map.mpr ⟨other, hother, (congrArg LogicalQueryOutcome.queryInstanceId heq :)⟩
  refine ⟨?_, ?_, ?_, ?_⟩
  · have hflat := (hperm.flatMap_right LogicalQueryOutcome.receipts).trans
      (List.Perm.of_eq (List.flatMap_map _ _ _)) |>.trans hreceipts
    rw [List.flatMap_map] at hflat
    unfold addPreClickSkipsToQueryOutcomes
    rw [List.flatMap_map]
    exact hflat
  · have hsum := (hperm.map fun outcome => outcome.rawCandidateCount).sum_eq
    rw [List.map_map, List.map_map] at hsum
    have hadded : (given.map fun outcome => outcome.rawCandidateCount).sum =
        ((given.flatMap LogicalQueryOutcome.receipts).map fun receipt =>
          receipt.rawCandidateCount).sum := by
      rw [List.map_flatMap, List.flatMap_def, List.sum_flatten, List.map_map]
      exact congrArg List.sum (List.map_congr_left hraw)
    unfold addPreClickSkipsToQueryOutcomes
    rw [List.map_map]
    exact (hsum.trans hadded).trans (hreceipts.map _).sum_eq
  · unfold addPreClickSkipsToQueryOutcomes
    rw [List.map_map, roundIdentityIds, ← biUnion_returnedBy hattributed,
      ← sum_card_firstNamed horder]
    exact congrArg List.sum hcounts
  · have hone : ∀ outcome ∈ counted,
      outcome.uniqueCandidateCount + outcome.duplicateCandidateCount =
        candidateAttributions.countP fun attribution =>
          attribution.queryInstanceId = outcome.queryInstanceId :=
      fun outcome hmem => by
        obtain ⟨found, -, heq⟩ := hgivens outcome hmem
        have hunique := congrArg LogicalQueryOutcome.uniqueCandidateCount heq
        have hduplicate := congrArg LogicalQueryOutcome.duplicateCandidateCount heq
        dsimp only at hunique hduplicate
        rw [List.countP_eq_length_filter, hunique, hduplicate]
        exact Nat.add_sub_cancel' (credit_le _)
    have hattributions : (dispatchOrder.map fun queryInstanceId =>
      candidateAttributions.countP fun attribution =>
        attribution.queryInstanceId = queryInstanceId).sum = candidateAttributions.length := by
      have hcover := sum_map_filter_of_cover horder RuntimeQueryCandidateAttribution.queryInstanceId
        (fun _ => 1) fun attribution hmem => (hattributed attribution hmem).1
      simpa [List.countP_eq_length_filter] using hcover
    have hskips :=
      sum_map_filter_of_cover horder (fun receipt : LogicalQueryReceipt => receipt.queryInstanceId)
      LogicalQueryReceipt.skipped hdispatched
    rw [← hattributions, ← hskips, ← List.sum_map_add, ← hids, List.map_map]
    unfold addPreClickSkipsToQueryOutcomes
    rw [List.map_map]
    refine congrArg List.sum (List.map_congr_left fun outcome hmem => ?_)
    exact (Nat.add_assoc _ _ _).symm.trans (congrArg (· + _) (hone outcome hmem))

end Counting

/-! ## A person that two queries return -/

/-- The receipts of a round with two queries at two sources. -/
def toolReceipts : List LogicalQueryReceipt :=
  (extendLedger [] (toolRound 1 [(.exploit, "go"), (.genericExplore, "rust")])).toOption.getD []

/-- A resume for the first query, and two for the second. -/
def toolAttributions : List RuntimeQueryCandidateAttribution :=
  [⟨"cts", "instance-rust", "r2", none⟩, ⟨"cts", "instance-go", "r1", none⟩,
    ⟨"cts", "instance-rust", "r3", none⟩]

/-- Two of the three resumes are of one person. -/
def toolPeople : Dict String String :=
  ((AList.singleton "r1" "p1").insert "r2" "p1").insert "r3" "p2"

/-- The person that both queries return is credited to the first of them. -/
theorem applyPostMergeQueryCounts_credits_tools :
    ∃ outcomes counted, logicalOutcomesFromReceipts asciiPython toolReceipts = .ok outcomes ∧
      applyPostMergeQueryCounts outcomes toolAttributions toolPeople
        ["instance-go", "instance-rust"] [] = .ok counted ∧
      (counted.map fun outcome => (outcome.uniqueCandidateCount, outcome.duplicateCandidateCount)) =
        [(1, 0), (1, 1)] ∧
      (counted.map fun outcome => outcome.uniqueCandidateCount).sum =
        (roundIdentityIds toolAttributions toolPeople \ [].toFinset).card := by
  obtain ⟨outcomes, houtcomes⟩ : ∃ outcomes, logicalOutcomesFromReceipts asciiPython toolReceipts =
      .ok outcomes :=
    exists_eq_ok_of_isOk (by decide +kernel)
  have hcounts : (logicalOutcomesFromReceipts asciiPython toolReceipts >>= fun outcomes =>
      (applyPostMergeQueryCounts outcomes toolAttributions toolPeople
        ["instance-go", "instance-rust"] []).map
        fun counted => counted.map fun outcome =>
          (outcome.uniqueCandidateCount, outcome.duplicateCandidateCount)) =
            .ok [(1, 0), (1, 1)] := by decide +kernel
  rw [houtcomes] at hcounts
  obtain ⟨counted, hcounted, hpairs⟩ := map_eq_ok.mp hcounts
  exact ⟨outcomes, counted, houtcomes, hcounted, hpairs,
    (applyPostMergeQueryCounts_credits _ _ _ _ _ _ hcounted).2.2.2⟩

/-- The same attributions in another order. -/
theorem applyPostMergeQueryCounts_perm_tools :
    ∃ outcomes, logicalOutcomesFromReceipts asciiPython toolReceipts = .ok outcomes ∧
      applyPostMergeQueryCounts outcomes toolAttributions toolPeople
        ["instance-go", "instance-rust"] [] =
        applyPostMergeQueryCounts outcomes toolAttributions.reverse toolPeople
          ["instance-go", "instance-rust"] [] := by
  obtain ⟨outcomes, houtcomes⟩ : ∃ outcomes, logicalOutcomesFromReceipts asciiPython toolReceipts =
      .ok outcomes :=
    exists_eq_ok_of_isOk (by decide +kernel)
  exact ⟨outcomes, houtcomes,
    applyPostMergeQueryCounts_perm _ _ _ toolAttributions.reverse_perm.symm toolPeople _ _⟩

/-- Three attributions make two new people and one duplicate. -/
theorem roundQueryOutcomes_accounted_tools :
    ∃ outcomes, roundQueryOutcomes asciiPython toolReceipts toolAttributions toolPeople
        ["instance-go", "instance-rust"] [] = .ok outcomes ∧
      (outcomes.map fun outcome => outcome.rawCandidateCount).sum =
        (toolReceipts.map fun receipt => receipt.rawCandidateCount).sum ∧
      (outcomes.map fun outcome => outcome.uniqueCandidateCount +
        outcome.duplicateCandidateCount).sum =
        3 + (toolReceipts.map LogicalQueryReceipt.skipped).sum := by
  obtain ⟨outcomes, houtcomes⟩ : ∃ outcomes,
    roundQueryOutcomes asciiPython toolReceipts toolAttributions toolPeople
      ["instance-go", "instance-rust"] [] = .ok outcomes := exists_eq_ok_of_isOk (by decide +kernel)
  obtain ⟨-, hraw, -, htotal⟩ := roundQueryOutcomes_accounted _ _ _ _ _ _ houtcomes
  exact ⟨outcomes, houtcomes, hraw, htotal⟩

end SeekTalent.Rounds

