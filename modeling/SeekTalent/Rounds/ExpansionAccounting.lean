import Mathlib.Algebra.Order.BigOperators.Group.List
import SeekTalent.Rounds.ExpansionMerge

/-!
# The receipts after an expansion

A person counts as unique for the query that is the first to return it, but a failure counts for
every query that returned the person.  A query can therefore have more failures than unique people,
which `apply_first_page_expansion_to_receipts` refuses.  `accounted_iff` says when that happens: a
query fails people that another one returned before it, and more of them than it has people of its
own that were scored.
-/

namespace SeekTalent.Rounds

open Foundation

variable {decision : FirstPageExpansionDecision}
variable {continuation : ProviderSearchContinuation} {result : SourceFirstPageExpansionResult}

/-! ## Rounds -/

/-- A result passed its check, or stands for an error of the source. -/
def Executed (decision : FirstPageExpansionDecision) (continuation : ProviderSearchContinuation)
    (result : SourceFirstPageExpansionResult) : Prop :=
  validateExpansionResult result continuation decision.action = .ok () ∨
    ∃ exc, result = failedExpansionResult decision continuation exc

/-- The receipts of a round, what is decided about some of them, and a result for each
continuation. -/
structure ExpansionRound (receipts : List QueryExecutionReceipt)
    (decisions : List FirstPageExpansionDecision)
    (results : List SourceFirstPageExpansionResult) : Prop where
  receipts_nodup : (receipts.map QueryExecutionReceipt.key).Nodup
  decisions_nodup : (decisions.map FirstPageExpansionDecision.key).Nodup
  decided : decisions.map FirstPageExpansionDecision.key ⊆ receipts.map QueryExecutionReceipt.key
  continuations_nodup : ∀ d ∈ decisions,
    (d.continuations.map ProviderSearchContinuation.continuationId).Nodup
  continuations_key : ∀ d ∈ decisions, ∀ c ∈ d.continuations, c.key = d.key
  executed : ∀ d ∈ decisions, List.Forall₂ (Executed d) d.continuations (outcomesOf d.key results)
  foreign : results.map SourceFirstPageExpansionResult.key ⊆
    decisions.map FirstPageExpansionDecision.key

/-- No result has more candidates than pages that were opened for it. -/
def OpenedCovers (results : List SourceFirstPageExpansionResult) : Prop :=
  ∀ result ∈ results, (result.candidates.length : Int) ≤ result.expansionOpenedCount

/-- What a group of continuations is decided about is its query and its continuations. -/
lemma decideGroup_ok {receiptsByKey : Dict QueryKey QueryExecutionReceipt}
    {attributions : List RuntimeQueryCandidateAttribution} {identities : Dict String String}
    {scorecards : Dict String ScoredCandidate} {group : QueryKey × List ProviderSearchContinuation}
    (h : decideGroup receiptsByKey attributions identities scorecards group = .ok decision)
    (hkey : ∀ c ∈ group.2, c.key = group.1) :
    decision.key = group.1 ∧ decision.continuations = group.2 ∧
      ∃ r, receiptsByKey.lookup group.1 = some r := by
  obtain ⟨key, continuations⟩ := group
  unfold decideGroup at h
  split at h
  · cases h
  next receipt hreceipt =>
    split at h
    · cases h
      exact ⟨rfl, rfl, receipt, hreceipt⟩
    · cases continuations with
      | nil => cases h
      | cons first rest =>
        obtain ⟨_, h⟩ := check_bind_eq_ok.mp h
        cases pure_eq_ok.mp h
        exact ⟨hkey first List.mem_cons_self, rfl, receipt, hreceipt⟩

/-- A continuation that is executed has a result under its decision. -/
lemma executeContinuation_ok {expander : SourceFirstPageExpander}
    (h : executeContinuation expander decision continuation = .ok result) :
    Executed decision continuation result := by
  unfold executeContinuation at h
  split at h
  next answer hanswer =>
    obtain ⟨hvalid, h⟩ := check_bind_eq_ok.mp h
    cases pure_eq_ok.mp h
    exact .inl hvalid
  next exc _ =>
    cases h
    exact .inr ⟨exc, rfl⟩
  · cases h

/-- A result belongs to the query and the continuation it was asked for. -/
lemma Executed.provenance
    (h : Executed decision continuation result) (hkey : continuation.key = decision.key) :
    result.key = decision.key ∧ result.continuationId = continuation.continuationId := by
  obtain hvalid | ⟨exc, rfl⟩ := h
  · obtain ⟨hprovenance, _⟩ := check_bind_eq_ok.mp hvalid
    obtain ⟨hresult, hid⟩ := require_eq_ok.mp hprovenance
    exact ⟨hresult.trans hkey, hid⟩
  · exact ⟨rfl, rfl⟩

/-- What `select_qualified_first_page_expansions` and `execute_first_page_decisions` return is a
round. -/
theorem expansionRound_of_run {receipts : List QueryExecutionReceipt}
    {continuations : List ProviderSearchContinuation}
    {attributions : List RuntimeQueryCandidateAttribution}
    {identities : Dict String String} {scorecards : Dict String ScoredCandidate}
    {expanders : Dict String SourceFirstPageExpander} {decisions : List FirstPageExpansionDecision}
    {results : List SourceFirstPageExpansionResult}
    (hreceipts : (receipts.map QueryExecutionReceipt.key).Nodup)
    (hdecisions : selectQualifiedFirstPageExpansions continuations receipts attributions identities
      scorecards = .ok decisions)
    (hresults : executeFirstPageDecisions expanders decisions = .ok results) :
    ExpansionRound receipts decisions results := by
  obtain ⟨hnodup, hdecisions⟩ := check_bind_eq_ok.mp hdecisions
  have hids : (continuations.map ProviderSearchContinuation.continuationId).Nodup :=
    require_eq_ok.mp hnodup
  set groups := groupedBy ProviderSearchContinuation.key continuations with hgroups
  have hdecided : ∀ d ∈ decisions, ∃ group ∈ groups, d.key = group.1 ∧ d.continuations = group.2 ∧
      ∃ r, (Dict.keyedBy QueryExecutionReceipt.key receipts).lookup group.1 = some r := by
    intro d hd
    obtain ⟨group, hgroup, hok⟩ := mem_of_mapM_ok hdecisions hd
    exact ⟨group, hgroup, decideGroup_ok hok (key_of_mem_groupedBy hgroup).2⟩
  have hkeys : decisions.map FirstPageExpansionDecision.key = groups.map Prod.fst :=
    map_eq_of_mapM hdecisions fun group hgroup d hok =>
      (decideGroup_ok hok (key_of_mem_groupedBy hgroup).2).1
  have hdecisionsNodup : (decisions.map FirstPageExpansionDecision.key).Nodup :=
    hkeys ▸ nodup_keys_groupedBy _ _
  have hcontinuations : ∀ d ∈ decisions, ∀ c ∈ d.continuations, c.key = d.key := by
    intro d hd c hc
    obtain ⟨group, hgroup, hkey, hsame, -⟩ := hdecided d hd
    rw [hkey]
    exact (key_of_mem_groupedBy hgroup).2 c (hsame ▸ hc)
  obtain ⟨blocks, hblocks, hflat⟩ := bind_eq_ok.mp hresults
  obtain rfl := pure_eq_ok.mp hflat
  have hexecuted : List.Forall₂ (fun d block => List.Forall₂ (Executed d) d.continuations block)
    decisions
      blocks := by
    refine List.Forall₂.imp (fun d block hok => ?_) (mapM_eq_ok.mp hblocks)
    unfold executeDecision at hok
    split at hok
    · cases hok
    · exact List.Forall₂.imp (fun c result => executeContinuation_ok) (mapM_eq_ok.mp hok)
  have hforeign : List.Forall₂
    (fun d block => ∀ x ∈ block, SourceFirstPageExpansionResult.key x = d.key)
      decisions blocks := by
    refine List.Forall₂.imp (fun d block hand x hx => ?_)
      ((List.forall₂_and_left _ _).mpr ⟨hcontinuations, hexecuted⟩)
    obtain ⟨c, hc, hexec⟩ := exists_left_of_forall₂ hand.2 hx
    exact (hexec.provenance (hand.1 c hc)).1
  refine ⟨hreceipts, hdecisionsNodup, ?_, ?_, hcontinuations, ?_, ?_⟩
  · intro key hkey
    obtain ⟨d, hd, rfl⟩ := List.mem_map.mp hkey
    obtain ⟨group, -, hgroup, -, r, hr⟩ := hdecided d hd
    rw [Dict.lookup_keyedBy hreceipts] at hr
    rw [hgroup, show group.1 = r.key from Eq.symm (by simpa using List.find?_some hr)]
    exact List.mem_map_of_mem (List.mem_of_find?_eq_some hr)
  · intro d hd
    obtain ⟨group, hgroup, -, hsame, -⟩ := hdecided d hd
    have hall : ((groups.flatMap Prod.snd).map ProviderSearchContinuation.continuationId).Nodup :=
      ((groupedBy_perm _ continuations).map _).nodup_iff.mpr hids
    rw [hsame]
    exact hall.sublist ((List.sublist_flatten_of_mem (List.mem_map_of_mem hgroup)).map _)
  · have hfiltered := filter_flatten_of_blocks hforeign hdecisionsNodup
    have hboth : List.Forall₂ (fun d (_ : List SourceFirstPageExpansionResult) =>
        List.Forall₂ (Executed d) d.continuations (outcomesOf d.key blocks.flatten) ∧ True)
            decisions blocks :=
      List.Forall₂.mp
        (fun d block hblock hfilter => ⟨by rw [outcomesOf, hfilter]; exact hblock, trivial⟩)
        hexecuted hfiltered
    exact ((List.forall₂_and_left _ _).mp hboth).1
  · intro key hkey
    obtain ⟨x, hx, rfl⟩ := List.mem_map.mp hkey
    exact key_mem_of_blocks hforeign x hx

/-! ## People and queries -/

/-- The identity of a resume once the results are merged. -/
def ExpansionMerge.identity (merge : ExpansionMerge) : String → String :=
  identityOf merge.runState.candidateIdentityByResumeId

/-- The people that the candidates of some results are, as far as they were not known before. -/
def newIdentities (merge : ExpansionMerge) (results : List SourceFirstPageExpansionResult) :
    Finset String :=
  ((results.flatMap SourceFirstPageExpansionResult.candidates).map
    fun candidate => merge.identity candidate.resumeId).toFinset \ merge.identitiesBefore.toFinset

/-- The people that a query returned. -/
def returned (merge : ExpansionMerge) (key : QueryKey) : Finset String :=
  ((merge.attributions.filter fun a => a.key = key).map fun a => merge.identity a.resumeId).toFinset

/-- The query is the first one to return the person, who was not known before. -/
def FirstToReturn (merge : ExpansionMerge) (key : QueryKey) (i : String) : Prop :=
  i ∉ merge.identitiesBefore ∧
    (merge.attributions.find? fun a => merge.identity a.resumeId = i).map
      RuntimeQueryCandidateAttribution.key = some key

instance (merge : ExpansionMerge) (key : QueryKey) (i : String) :
    Decidable (FirstToReturn merge key i) :=
  inferInstanceAs (Decidable (_ ∧ _))

/-- The people that a query returned after another one or that were known before, and whose scoring
failed. -/
def lateFailures (merge : ExpansionMerge) (failedIds : List String) (key : QueryKey) :
    Finset String :=
  (returned merge key).filter fun i =>
    i ∈ failedIds.map merge.identity ∧ ¬ FirstToReturn merge key i

/-- The people that a query was the first to return, and who were scored. -/
def scoredFirsts (merge : ExpansionMerge) (failedIds : List String) (key : QueryKey) :
    Finset String :=
  (returned merge key).filter fun i => i ∉ failedIds.map merge.identity ∧ FirstToReturn merge key i

/-- No query has more late failures than people of its own that were scored. -/
def FailuresCovered (decisions : List FirstPageExpansionDecision) (merge : ExpansionMerge)
    (failedIds : List String) : Prop :=
  ∀ d ∈ decisions, (lateFailures merge failedIds d.key).card ≤
    (scoredFirsts merge failedIds d.key).card

/-- Receipts after a round: their queries are those from before, a receipt that was not decided
about is the one from before, and the unique candidates are more by the given number. -/
structure Accounted (receipts : List QueryExecutionReceipt)
    (decisions : List FirstPageExpansionDecision)
    (updated : List QueryExecutionReceipt) (added : Nat) : Prop where
  keys : updated.map QueryExecutionReceipt.key = receipts.map QueryExecutionReceipt.key
  unchanged : List.Forall₂ (fun before after =>
    before.key ∉ decisions.map FirstPageExpansionDecision.key → after = before) receipts updated
  unique : (updated.map QueryExecutionReceipt.uniqueCandidateCount).sum =
    (receipts.map QueryExecutionReceipt.uniqueCandidateCount).sum + added

/-! ## Results -/

/-- What the check of a result, or the result of an error, says about its candidates and its
counts. -/
structure SoundResult (expand : Bool) (result : SourceFirstPageExpansionResult) : Prop where
  counts : ∀ value ∈ result.counts, 0 ≤ value
  attributions_key : ∀ a ∈ result.candidateQueryAttributions, a.key = result.key
  same_resumes : ∀ id, id ∈ result.candidates.map ExpandedCandidate.resumeId ↔
    id ∈ result.candidateQueryAttributions.map RuntimeQueryCandidateAttribution.resumeId
  same_length : result.candidateQueryAttributions.length = result.candidates.length
  discarded : expand = false → result.candidateQueryAttributions = []

/-- A result that passed its check is sound, and so is one that stands for an error. -/
lemma Executed.sound (h : Executed decision continuation result) :
    SoundResult decision.expand result := by
  obtain hvalid | ⟨exc, rfl⟩ := h
  · unfold validateExpansionResult at hvalid
    simp only [check_bind_eq_ok, require_eq_ok] at hvalid
    obtain ⟨-, hcounts, -, -, -, -, -, hdiscard, ⟨hcandidates, hattributions⟩, hsame, hkeys, -⟩ :=
      hvalid
    have hsets : ∀ id, id ∈ result.candidates.map ExpandedCandidate.resumeId ↔
        id ∈ result.candidateQueryAttributions.map
          RuntimeQueryCandidateAttribution.resumeId := fun id => by
      rw [← List.mem_toFinset, hsame, List.mem_toFinset]
    refine ⟨hcounts, hkeys, hsets, ?_, fun hexpand => ?_⟩
    · have hperm := (List.perm_ext_iff_of_nodup hcandidates hattributions).mpr hsets
      simpa using hperm.length_eq.symm
    · exact (hdiscard (by simp [FirstPageExpansionDecision.action, hexpand])).2.2
  · refine ⟨fun value hvalue => ?_, by simp [failedExpansionResult],
      by simp [failedExpansionResult], rfl,
      fun _ => rfl⟩
    simp only [SourceFirstPageExpansionResult.counts, failedExpansionResult, List.mem_cons,
      List.not_mem_nil, or_false] at hvalue
    omega

section Round

variable {receipts : List QueryExecutionReceipt} {decisions : List FirstPageExpansionDecision}
  {results : List SourceFirstPageExpansionResult}

/-- The results of a round are those of its decisions. -/
lemma ExpansionRound.exists_decision (h : ExpansionRound receipts decisions results)
    {result : SourceFirstPageExpansionResult} (hresult : result ∈ results) :
    ∃ d ∈ decisions, result.key = d.key ∧ SoundResult d.expand result := by
  obtain ⟨d, hd, hkey⟩ := List.mem_map.mp (h.foreign (List.mem_map_of_mem hresult))
  have hmem : result ∈ outcomesOf d.key results :=
    List.mem_filter.mpr ⟨hresult, by simpa using hkey.symm⟩
  obtain ⟨c, -, hexecuted⟩ := exists_left_of_forall₂ (h.executed d hd) hmem
  exact ⟨d, hd, hkey.symm, hexecuted.sound⟩

/-- The results of a decision are sound. -/
lemma ExpansionRound.sound (h : ExpansionRound receipts decisions results)
    {d : FirstPageExpansionDecision}
    (hd : d ∈ decisions) {result : SourceFirstPageExpansionResult}
    (hresult : result ∈ outcomesOf d.key results) : SoundResult d.expand result := by
  obtain ⟨c, -, hexecuted⟩ := exists_left_of_forall₂ (h.executed d hd) hresult
  exact hexecuted.sound

/-- The results of a decision are those of its continuations. -/
lemma ExpansionRound.continuationIds (h : ExpansionRound receipts decisions results)
    {d : FirstPageExpansionDecision} (hd : d ∈ decisions) :
    (outcomesOf d.key results).map SourceFirstPageExpansionResult.continuationId =
      d.continuations.map ProviderSearchContinuation.continuationId := by
  have hids : List.Forall₂
    (fun (c : ProviderSearchContinuation) (r : SourceFirstPageExpansionResult) =>
      c.continuationId = r.continuationId) d.continuations (outcomesOf d.key results) :=
    List.Forall₂.imp (fun c r hand => (hand.2.provenance hand.1).2.symm)
      ((List.forall₂_and_left _ _).mpr ⟨h.continuations_key d hd, h.executed d hd⟩)
  exact (List.forall₂_eq_eq_eq ▸
    (List.forall₂_map_left_iff.mpr (List.forall₂_map_right_iff.mpr hids)) :
    d.continuations.map ProviderSearchContinuation.continuationId =
      (outcomesOf d.key results).map SourceFirstPageExpansionResult.continuationId).symm

end Round

section Claims

variable (merge : ExpansionMerge)

/-- The identities that the attributions of a round claim for their queries. -/
def ExpansionMerge.claims : List (QueryKey × String) := claimsOf merge.identity merge.attributions

lemma returned_eq_thingsOf (key : QueryKey) : returned merge key = thingsOf key merge.claims := by
  ext i
  simp [returned, ExpansionMerge.claims, claimsOf, and_assoc]

lemma firstToReturn_iff {key : QueryKey} {i : String} :
    FirstToReturn merge key i ↔ i ∈ thingsOf key
      (firstClaims merge.identitiesBefore merge.claims) := by
  rw [mem_thingsOf, mem_firstClaims, ExpansionMerge.claims, claimsOf, List.find?_map, FirstToReturn]
  refine and_congr_right fun _ => ?_
  rw [Option.map_eq_some_iff, Option.map_eq_some_iff]
  refine exists_congr fun a => and_congr_right fun ha => ?_
  have hidentity : merge.identity a.resumeId = i := by simpa using List.find?_some ha
  simp [hidentity]

/-- A query has at most as many failures as unique people exactly if its late failures are
covered. -/
lemma failures_le_iff (failedIds : List String) (key : QueryKey) :
    (thingsOf key merge.claims ∩ (failedIds.map merge.identity).toFinset).card ≤
        (thingsOf key (firstClaims merge.identitiesBefore merge.claims)).card ↔
      (lateFailures merge failedIds key).card ≤ (scoredFirsts merge failedIds key).card := by
  have hlate : lateFailures merge failedIds key =
      (thingsOf key merge.claims \ thingsOf key (firstClaims merge.identitiesBefore merge.claims)) ∩
        (failedIds.map merge.identity).toFinset := by
    ext i
    rw [lateFailures, Finset.mem_filter, returned_eq_thingsOf, firstToReturn_iff, Finset.mem_inter,
      Finset.mem_sdiff, List.mem_toFinset]
    tauto
  have hscored : scoredFirsts merge failedIds key =
      thingsOf key (firstClaims merge.identitiesBefore merge.claims) \
        (failedIds.map merge.identity).toFinset := by
    ext i
    have hsub : i ∈ thingsOf key (firstClaims merge.identitiesBefore merge.claims) →
        i ∈ thingsOf key merge.claims := fun hi =>
      mem_thingsOf.mpr ((firstClaims_sublist _ _).subset (mem_thingsOf.mp hi))
    rw [scoredFirsts, Finset.mem_filter, returned_eq_thingsOf, firstToReturn_iff, Finset.mem_sdiff,
      List.mem_toFinset]
    tauto
  rw [card_inter_le_iff, hlate, hscored]

end Claims

/-! ## The counts that go into the receipts -/

section Counts

variable {receipts : List QueryExecutionReceipt} {decisions : List FirstPageExpansionDecision}
  {results : List SourceFirstPageExpansionResult} {rt : ExpansionRuntime}
  {runState : ExpansionRunState}
  {seenDedupKeys : List String}
variable {d : FirstPageExpansionDecision} {receipt : QueryExecutionReceipt}
  {outcomes : List SourceFirstPageExpansionResult}
variable {failedIds : List String} {u : QueryExecutionReceipt}
  {merges : Dict QueryKey ExpansionQueryMergeCounts} {failures : Dict QueryKey Nat}

/-- The attributions to a query are those of its results. -/
lemma filter_attributions (h : ∀ r ∈ results, ∀ a ∈ r.candidateQueryAttributions, a.key = r.key)
    (k : QueryKey) :
    ((results.flatMap SourceFirstPageExpansionResult.candidateQueryAttributions).filter fun a =>
      a.key = k) =
      (outcomesOf k results).flatMap SourceFirstPageExpansionResult.candidateQueryAttributions := by
  induction results with
  | nil => rfl
  | cons r rest ih =>
    have hrest := ih fun r' hr' => h r' (List.mem_cons_of_mem r hr')
    have hkeys := h r List.mem_cons_self
    unfold outcomesOf at hrest ⊢
    rw [List.flatMap_cons, List.filter_append, hrest]
    by_cases hk : r.key = k
    · have hall : (r.candidateQueryAttributions.filter fun a => a.key = k) =
          r.candidateQueryAttributions :=
        List.filter_eq_self.mpr fun a ha => by simpa using (hkeys a ha).trans hk
      rw [hall, List.filter_cons_of_pos (by simpa using hk), List.flatMap_cons]
    · have hnone : (r.candidateQueryAttributions.filter fun a => a.key = k) = [] :=
        List.filter_eq_nil_iff.mpr fun a ha => by
          rw [hkeys a ha]
          simpa using hk
      rw [hnone, List.filter_cons_of_neg (by simpa using hk), List.nil_append]

variable (rt runState seenDedupKeys) in
/-- A query claims as many people as its results have candidates, and so at most as many as pages
were opened for it. -/
lemma countP_claims_le (hround : ExpansionRound receipts decisions results)
    (hopened : OpenedCovers results) (k : QueryKey) :
    (((mergeExpansionCandidates rt results runState seenDedupKeys).claims.countP
        fun claim => claim.1 = k : Nat) : Int) ≤
      sumOutcomes (outcomesOf k results) SourceFirstPageExpansionResult.expansionOpenedCount := by
  have hkeys : ∀ r ∈ results, ∀ a ∈ r.candidateQueryAttributions, a.key = r.key := by
    intro r hr
    obtain ⟨d, -, -, hsound⟩ := hround.exists_decision hr
    exact hsound.attributions_key
  have hcount : ((mergeExpansionCandidates rt results runState seenDedupKeys).claims.countP
      fun claim => claim.1 = k) =
      ((outcomesOf k results).flatMap
        SourceFirstPageExpansionResult.candidateQueryAttributions).length := by
    rw [← filter_attributions hkeys, ExpansionMerge.claims, claimsOf, List.countP_map,
      List.countP_eq_length_filter]
    rfl
  rw [hcount]
  have hall : ∀ r ∈ outcomesOf k results, (r.candidateQueryAttributions.length : Int) ≤
      r.expansionOpenedCount := by
    intro r hr
    have hmem : r ∈ results := (List.mem_filter.mp hr).1
    obtain ⟨d, -, -, hsound⟩ := hround.exists_decision hmem
    rw [hsound.same_length]
    exact hopened r hmem
  unfold sumOutcomes
  generalize outcomesOf k results = outcomes at hall
  clear hcount
  induction outcomes with
  | nil => exact le_refl _
  | cons r rest ih =>
    have hrest := ih fun r' hr' => hall r' (List.mem_cons_of_mem r hr')
    have hfirst := hall r List.mem_cons_self
    simp only [List.flatMap_cons, List.length_append, List.map_cons, List.sum_cons,
      Nat.cast_add] at hrest ⊢
    omega

/-- Only queries that are expanded claim anyone. -/
lemma key_of_claim (hround : ExpansionRound receipts decisions results) {claim : QueryKey × String}
    (hclaim : claim ∈ (mergeExpansionCandidates rt results runState seenDedupKeys).claims) :
    ∃ d ∈ decisions, claim.1 = d.key ∧ d.expand = true := by
  obtain ⟨a, ha, rfl⟩ := List.mem_map.mp hclaim
  obtain ⟨r, hr, har⟩ := List.mem_flatMap.mp ha
  obtain ⟨d, hd, hkey, hsound⟩ := hround.exists_decision hr
  refine ⟨d, hd, (hsound.attributions_key a har).trans hkey, ?_⟩
  by_contra hexpand
  rw [hsound.discarded (by simpa using hexpand)] at har
  exact List.not_mem_nil har

variable (results rt runState seenDedupKeys) in
/-- The keys of the counts that are merged are those of the claims. -/
lemma mergeCounts_keys :
    let merge := mergeExpansionCandidates rt results runState seenDedupKeys
    (merge.mergeCounts.map ExpansionQueryMergeCounts.key).Nodup ∧
      ∀ k, k ∈ merge.mergeCounts.map ExpansionQueryMergeCounts.key ↔
        k ∈ merge.claims.map Prod.fst := by
  intro merge
  have htally := mergeTally_counts merge.identity merge.identitiesBefore merge.attributions
  have hkeys : merge.mergeCounts.map ExpansionQueryMergeCounts.key =
      (mergeTally merge.identity merge.identitiesBefore merge.attributions).counts.map
        Prod.fst := by
    change (List.map _ _).map _ = _
    rw [List.map_map]
    rfl
  rw [hkeys]
  exact ⟨htally.nodup, htally.keys⟩

variable (results rt runState seenDedupKeys) in
/-- The counts that are merged for a query are those of its claims. -/
lemma mergeCounts_row (receipt : QueryExecutionReceipt) :
    let merge := mergeExpansionCandidates rt results runState seenDedupKeys
    let row := mergeOf receipt (.keyedBy ExpansionQueryMergeCounts.key merge.mergeCounts)
    IsRow merge.identitiesBefore merge.claims receipt.key
    (row.uniqueCandidateCount, row.duplicateCandidateCount) := by
  intro merge row
  obtain ⟨hnodup, hkeys⟩ := mergeCounts_keys results rt runState seenDedupKeys
  have htally := mergeTally_counts merge.identity merge.identitiesBefore merge.attributions
  cases hfind : (Dict.keyedBy ExpansionQueryMergeCounts.key merge.mergeCounts).lookup
    receipt.key with
  | none =>
    have hrow : row = ⟨receipt.sourceKind, receipt.queryInstanceId, 0, 0⟩ := by
      change mergeOf _ _ = _
      rw [mergeOf, hfind]
      rfl
    rw [Dict.lookup_keyedBy hnodup, List.find?_eq_none] at hfind
    have hnone : receipt.key ∉ merge.claims.map Prod.fst := fun hmem => by
      obtain ⟨m, hm, hkey⟩ := List.mem_map.mp ((hkeys receipt.key).mpr hmem)
      exact hfind m hm (by simpa using hkey)
    rw [hrow]
    obtain ⟨hunique, htotal⟩ := countP_of_not_mem merge.identitiesBefore hnone
    exact ⟨hunique.symm, htotal.symm⟩
  | some m =>
    have hrow : row = m := by
      change mergeOf _ _ = _
      rw [mergeOf, hfind]
      rfl
    rw [Dict.lookup_keyedBy hnodup] at hfind
    have hkey : m.key = receipt.key := by simpa using List.find?_some hfind
    obtain ⟨entry, hentry, hm⟩ := List.mem_map.mp (List.mem_of_find?_eq_some hfind)
    have hentryRow : IsRow merge.identitiesBefore merge.claims entry.1 entry.2 :=
      htally.rows entry hentry
    rw [hrow, ← hkey, ← hm]
    exact hentryRow

/-- The failures that are counted. -/
def failureCounts (merge : ExpansionMerge) (failedIds : List String) : Dict QueryKey Nat :=
  (failureTally merge.identity failedIds merge.attributions).counts

/-- The checks before the receipts are written never fail in a round. -/
lemma receiptsAfterExpansion_eq_ok (hround : ExpansionRound receipts decisions results)
    {updated : List QueryExecutionReceipt} :
    let merge := mergeExpansionCandidates rt results runState seenDedupKeys
    receiptsAfterExpansion receipts decisions results merge failedIds = .ok updated ↔
      receipts.mapM
        (applyToReceipt decisions results merge.mergeCounts (failureCounts merge failedIds)) =
        .ok updated := by
  intro merge
  obtain ⟨hnodup, hkeys⟩ := mergeCounts_keys results rt runState seenDedupKeys
  have hclaimed : merge.claims.map Prod.fst ⊆ decisions.map FirstPageExpansionDecision.key := by
    intro k hk
    obtain ⟨claim, hclaim, rfl⟩ := List.mem_map.mp hk
    obtain ⟨d, hd, hkey, -⟩ := key_of_claim hround hclaim
    exact hkey ▸ List.mem_map_of_mem hd
  have hmerged : merge.mergeCounts.map ExpansionQueryMergeCounts.key ⊆
      decisions.map FirstPageExpansionDecision.key := fun k hk => hclaimed ((hkeys k).mp hk)
  have hfailed : (failureCounts merge failedIds).keys ⊆
      decisions.map FirstPageExpansionDecision.key :=
    fun k hk =>
      hclaimed ((failureTally_counts merge.identity failedIds merge.attributions).keys k hk)
  have hids : ∀ d ∈ decisions,
      ((outcomesOf d.key results).map SourceFirstPageExpansionResult.continuationId).Nodup ∧
        ((outcomesOf d.key results).map SourceFirstPageExpansionResult.continuationId).toFinset =
          (d.continuations.map ProviderSearchContinuation.continuationId).toFinset := fun d hd => by
    rw [hround.continuationIds hd]
    exact ⟨hround.continuations_nodup d hd, rfl⟩
  unfold receiptsAfterExpansion applyFirstPageExpansionToReceipts
  simp only [check_bind_eq_ok, require_eq_ok, checkAll_eq_ok]
  constructor
  · rintro ⟨-, -, -, -, -, -, -, -, -, hok⟩
    exact hok
  · intro hok
    exact ⟨hround.receipts_nodup, hround.decisions_nodup, hround.decided, hround.foreign, hids,
      hnodup, fun k hk => hround.decided (hmerged hk), fun k hk =>
      hround.decided (hfailed hk), ⟨hmerged, hfailed⟩, hok⟩

/-- The decision about a query. -/
lemma ExpansionRound.lookup_decision (hround : ExpansionRound receipts decisions results)
    (hd : d ∈ decisions) :
    (Dict.keyedBy FirstPageExpansionDecision.key decisions).lookup d.key = some d :=
  Dict.lookup_keyedBy_of_mem hround.decisions_nodup hd

/-- A query that was not decided about has no decision. -/
lemma ExpansionRound.lookup_none (hround : ExpansionRound receipts decisions results) {k : QueryKey}
    (hk : k ∉ decisions.map FirstPageExpansionDecision.key) :
    (Dict.keyedBy FirstPageExpansionDecision.key decisions).lookup k = none := by
  rw [Dict.lookup_keyedBy hround.decisions_nodup, List.find?_eq_none]
  intro d hd
  simpa using fun hsame : d.key = k => hk (hsame ▸ List.mem_map_of_mem hd)

/-- A query whose continuations are discarded, or that was not decided about, wins nobody. -/
lemma countP_firstClaims_eq_zero (hround : ExpansionRound receipts decisions results) {k : QueryKey}
    (hk : ∀ d ∈ decisions, d.key = k → d.expand = false) :
    let merge := mergeExpansionCandidates rt results runState seenDedupKeys
    ((firstClaims merge.identitiesBefore merge.claims).countP fun claim => claim.1 = k) = 0 := by
  intro merge
  refine (countP_of_not_mem _ fun hmem => ?_).1
  obtain ⟨claim, hclaim, rfl⟩ := List.mem_map.mp hmem
  obtain ⟨d, hd, hkey, hexpand⟩ := key_of_claim hround hclaim
  rw [hk d hd hkey.symm] at hexpand
  cases hexpand

/-- A receipt whose counters are natural numbers can be updated. -/
lemma exists_validatedReceiptUpdate {update : ReceiptUpdate}
    (h : ∀ value ∈ update.counters, 0 ≤ value) :
    ∃ u, validatedReceiptUpdate receipt update = .ok u := by
  refine ⟨_, check_bind_eq_ok.mpr ⟨require_eq_ok.mpr h, rfl⟩⟩

/-- An update keeps the query of a receipt and writes the unique candidates. -/
lemma validatedReceiptUpdate_ok {update : ReceiptUpdate}
    (h : validatedReceiptUpdate receipt update = .ok u) :
    u.key = receipt.key ∧ u.uniqueCandidateCount = update.uniqueCandidateCount.toNat := by
  obtain ⟨-, h⟩ := check_bind_eq_ok.mp h
  cases pure_eq_ok.mp h
  exact ⟨rfl, rfl⟩

/-- A sum of counts that are not negative is not negative. -/
lemma sumOutcomes_nonneg
    {count : SourceFirstPageExpansionResult → Int} (h : ∀ r ∈ outcomes, 0 ≤ count r) :
    0 ≤ sumOutcomes outcomes count := by
  refine List.sum_nonneg fun x hx => ?_
  obtain ⟨r, hr, rfl⟩ := List.mem_map.mp hx
  exact h r hr

/-- The counters of the updates of sound results are not negative. -/
lemma expandUpdate_counters {merge : ExpansionQueryMergeCounts} {scoring : Nat}
    {expand : Bool} (h : ∀ r ∈ outcomes, SoundResult expand r) :
    ∀ value ∈ (expandUpdate receipt decision outcomes merge scoring).counters, 0 ≤ value := by
  have hsum : ∀ count : SourceFirstPageExpansionResult → Int, (∀ r, count r ∈ r.counts) →
      0 ≤ sumOutcomes outcomes count := fun count hmem =>
    sumOutcomes_nonneg fun r hr => (h r hr).counts (count r) (hmem r)
  have hvisible := hsum SourceFirstPageExpansionResult.firstPageVisibleCount
    (by simp [SourceFirstPageExpansionResult.counts])
  have heligible := hsum SourceFirstPageExpansionResult.firstPageEligibleCount
    (by simp [SourceFirstPageExpansionResult.counts])
  have hinitial := hsum SourceFirstPageExpansionResult.initialOpenedCount
    (by simp [SourceFirstPageExpansionResult.counts])
  have hopened := hsum SourceFirstPageExpansionResult.expansionOpenedCount
    (by simp [SourceFirstPageExpansionResult.counts])
  have hskipped := hsum SourceFirstPageExpansionResult.expansionSkippedSeenCount
    (by simp [SourceFirstPageExpansionResult.counts])
  have hterminal := hsum SourceFirstPageExpansionResult.expansionTerminalFailureCount
    (by simp [SourceFirstPageExpansionResult.counts])
  intro value hvalue
  simp only [ReceiptUpdate.counters, expandUpdate, List.mem_cons, List.not_mem_nil,
    or_false] at hvalue
  omega

/-- The counters of the update of a query whose continuations are discarded are not negative. -/
lemma discardUpdate_counters :
    ∀ value ∈ (discardUpdate receipt decision outcomes).counters, 0 ≤ value := by
  intro value hvalue
  simp only [ReceiptUpdate.counters, discardUpdate, List.mem_cons, List.not_mem_nil,
    or_false] at hvalue
  omega

/-- A query whose continuations are discarded gets its receipt. -/
lemma exists_applyDecision_of_discard (hexpand : d.expand = false)
    (hnodup : (d.continuations.map ProviderSearchContinuation.continuationId).Nodup)
    (hids : outcomes.map SourceFirstPageExpansionResult.continuationId =
      d.continuations.map ProviderSearchContinuation.continuationId) :
    ∃ u, applyDecision receipt d outcomes merges failures = .ok u := by
  have hcounters : ∀ value ∈ (discardUpdate receipt d outcomes).counters, 0 ≤ value :=
    discardUpdate_counters
  obtain ⟨u, hu⟩ := exists_validatedReceiptUpdate hcounters
  refine ⟨u, check_bind_eq_ok.mpr ⟨require_eq_ok.mpr ?_, ?_⟩⟩
  · rw [hids]
    exact ⟨hnodup, List.Subset.refl _⟩
  · rw [if_pos hexpand]
    exact hu

/-- A query whose continuations are expanded gets its receipt exactly if its counts fit. -/
lemma exists_applyDecision_of_expand (hexpand : d.expand = true)
    (hnodup : (d.continuations.map ProviderSearchContinuation.continuationId).Nodup)
    (hids : outcomes.map SourceFirstPageExpansionResult.continuationId =
      d.continuations.map ProviderSearchContinuation.continuationId)
    (hsound : ∀ r ∈ outcomes, SoundResult d.expand r)
    (hcovered : ((mergeOf receipt merges).uniqueCandidateCount +
        (mergeOf receipt merges).duplicateCandidateCount : Int) ≤
      sumOutcomes outcomes SourceFirstPageExpansionResult.expansionOpenedCount) :
    (∃ u, applyDecision receipt d outcomes merges failures = .ok u) ↔
      (failures.lookup receipt.key).getD 0 ≤ (mergeOf receipt merges).uniqueCandidateCount := by
  have hprovenance : (outcomes.map SourceFirstPageExpansionResult.continuationId).Nodup ∧
      outcomes.map SourceFirstPageExpansionResult.continuationId ⊆
        d.continuations.map ProviderSearchContinuation.continuationId := by
    rw [hids]
    exact ⟨hnodup, List.Subset.refl _⟩
  unfold applyDecision
  simp only [check_bind_eq_ok, require_eq_ok, hexpand, Bool.true_eq_false, if_false,
    exists_and_left]
  constructor
  · rintro ⟨-, -, hle, -⟩
    exact hle
  · intro hle
    exact ⟨hprovenance, hcovered, hle, exists_validatedReceiptUpdate (expandUpdate_counters hsound)⟩

variable (rt runState seenDedupKeys) in
/-- A decision is applied to a receipt exactly if the late failures of its query are covered. -/
lemma applyToReceipt_iff (hround : ExpansionRound receipts decisions results)
    (hopened : OpenedCovers results) (failedIds : List String) (receipt : QueryExecutionReceipt) :
    let merge := mergeExpansionCandidates rt results runState seenDedupKeys
    (∃ u, applyToReceipt decisions results merge.mergeCounts (failureCounts merge failedIds)
      receipt = .ok u) ↔
      ∀ d ∈ decisions, d.key = receipt.key →
        (lateFailures merge failedIds d.key).card ≤ (scoredFirsts merge failedIds d.key).card := by
  intro merge
  by_cases hdecided : receipt.key ∈ decisions.map FirstPageExpansionDecision.key
  · obtain ⟨d, hd, hkey⟩ := List.mem_map.mp hdecided
    have hother : ∀ d' ∈ decisions, d'.key = receipt.key → d' = d := fun d' hd' hkey' =>
      List.inj_on_of_nodup_map hround.decisions_nodup hd' hd (hkey'.trans hkey.symm)
    have hall : (∀ d' ∈ decisions, d'.key = receipt.key →
        (lateFailures merge failedIds d'.key).card ≤ (scoredFirsts merge failedIds d'.key).card) ↔
        (lateFailures merge failedIds d.key).card ≤ (scoredFirsts merge failedIds d.key).card :=
      ⟨fun h => h d hd hkey, fun h d' hd' hkey' => hother d' hd' hkey' ▸ h⟩
    rw [hall, ← failures_le_iff, applyToReceipt, ← hkey, hround.lookup_decision hd]
    cases hexpand : d.expand with
    | false =>
      have hnone : thingsOf d.key merge.claims = ∅ := by
        refine Finset.eq_empty_of_forall_notMem fun i hi => ?_
        obtain ⟨d', hd', hkey', hexpand'⟩ := key_of_claim hround (mem_thingsOf.mp hi)
        obtain rfl := hother d' hd' (hkey'.symm.trans hkey)
        rw [hexpand] at hexpand'
        cases hexpand'
      refine iff_of_true (exists_applyDecision_of_discard hexpand (hround.continuations_nodup d hd)
        (hround.continuationIds hd)) ?_
      rw [hnone, Finset.empty_inter, Finset.card_empty]
      exact Nat.zero_le _
    | true =>
      obtain ⟨hunique, htotal⟩ := mergeCounts_row results rt runState seenDedupKeys receipt
      have hfailures : ((failureCounts merge failedIds).lookup receipt.key).getD 0 =
          (thingsOf receipt.key merge.claims ∩ (failedIds.map merge.identity).toFinset).card :=
        (failureTally_counts merge.identity failedIds merge.attributions).lookup receipt.key
      rw [countP_firstClaims, ← hkey] at hunique
      have hcovered := countP_claims_le rt runState seenDedupKeys hround hopened receipt.key
      rw [← htotal, ← hkey] at hcovered
      rw [exists_applyDecision_of_expand hexpand (hround.continuations_nodup d hd)
        (hround.continuationIds hd)
        (fun r hr => hround.sound hd hr) (by exact_mod_cast hcovered), hfailures, ← hkey, ← hunique]
  · refine iff_of_true ⟨receipt, ?_⟩ fun d hd hkey =>
      absurd (hkey ▸ List.mem_map_of_mem hd) hdecided
    rw [applyToReceipt, hround.lookup_none hdecided]

/-- A decision that is applied keeps the query of the receipt and adds what the merge counts as
unique for it if the continuations are expanded. -/
lemma applyDecision_ok (h : applyDecision receipt d outcomes merges failures = .ok u) :
    u.key = receipt.key ∧ u.uniqueCandidateCount = receipt.uniqueCandidateCount +
      if d.expand then (mergeOf receipt merges).uniqueCandidateCount else 0 := by
  obtain ⟨-, h⟩ := check_bind_eq_ok.mp h
  by_cases hexpand : d.expand = false
  · rw [if_pos hexpand] at h
    obtain ⟨hkey, hunique⟩ := validatedReceiptUpdate_ok h
    refine ⟨hkey, ?_⟩
    rw [hunique, hexpand]
    rfl
  · rw [if_neg hexpand] at h
    obtain ⟨-, h⟩ := check_bind_eq_ok.mp h
    obtain ⟨-, h⟩ := check_bind_eq_ok.mp h
    obtain ⟨hkey, hunique⟩ := validatedReceiptUpdate_ok h
    refine ⟨hkey, ?_⟩
    rw [hunique, if_pos (by simpa using hexpand)]
    change ((receipt.uniqueCandidateCount : Int) +
      (mergeOf receipt merges).uniqueCandidateCount).toNat = _
    omega

/-- What a decision that is applied does to a receipt. -/
lemma applyToReceipt_ok (hround : ExpansionRound receipts decisions results)
    :
    let merge := mergeExpansionCandidates rt results runState seenDedupKeys
    applyToReceipt decisions results merge.mergeCounts (failureCounts merge failedIds) receipt =
    .ok u →
      u.key = receipt.key ∧
        (receipt.key ∉ decisions.map FirstPageExpansionDecision.key → u = receipt) ∧
        u.uniqueCandidateCount = receipt.uniqueCandidateCount +
          (firstClaims merge.identitiesBefore merge.claims).countP fun claim =>
            claim.1 = receipt.key := by
  intro merge h
  by_cases hdecided : receipt.key ∈ decisions.map FirstPageExpansionDecision.key
  · obtain ⟨d, hd, hkey⟩ := List.mem_map.mp hdecided
    rw [applyToReceipt, ← hkey, hround.lookup_decision hd] at h
    obtain ⟨hsame, hunique⟩ := applyDecision_ok h
    refine ⟨hsame, fun hnot => absurd hdecided hnot, ?_⟩
    rw [hunique]
    cases hexpand : d.expand with
    | false =>
      rw [countP_firstClaims_eq_zero hround fun d' hd' hkey' => ?_]
      · rfl
      · rw [List.inj_on_of_nodup_map hround.decisions_nodup hd' hd (hkey'.trans hkey.symm)]
        exact hexpand
    | true =>
      rw [if_pos rfl]
      exact congrArg _ (mergeCounts_row results rt runState seenDedupKeys receipt).1
  · rw [applyToReceipt, hround.lookup_none hdecided] at h
    cases h
    refine ⟨rfl, fun _ => rfl, ?_⟩
    rw [countP_firstClaims_eq_zero hround fun d hd hkey =>
      absurd (List.mem_map.mpr ⟨d, hd, hkey⟩) hdecided]
    rfl

/-- The people who are won are those of the candidates that were not known before. -/
lemma card_newIdentities (hround : ExpansionRound receipts decisions results) :
    let merge := mergeExpansionCandidates rt results runState seenDedupKeys
    (newIdentities merge results).card =
      ((merge.claims.map Prod.snd).toFinset \ merge.identitiesBefore.toFinset).card := by
  intro merge
  have hsame : ∀ i, i ∈ (results.flatMap SourceFirstPageExpansionResult.candidates).map
      (fun candidate => merge.identity candidate.resumeId) ↔ i ∈ merge.claims.map Prod.snd := by
    intro i
    have hclaims : merge.claims.map Prod.snd = (results.flatMap
        SourceFirstPageExpansionResult.candidateQueryAttributions).map fun a =>
        merge.identity a.resumeId := by
      rw [ExpansionMerge.claims, claimsOf, List.map_map]
      rfl
    rw [hclaims]
    simp only [List.mem_map, List.mem_flatMap]
    constructor
    · rintro ⟨candidate, ⟨r, hr, hcandidate⟩, rfl⟩
      obtain ⟨d, -, -, hsound⟩ := hround.exists_decision hr
      obtain ⟨a, ha, hid⟩ :=
        List.mem_map.mp ((hsound.same_resumes _).mp (List.mem_map_of_mem hcandidate))
      exact ⟨a, ⟨r, hr, ha⟩, congrArg merge.identity hid⟩
    · rintro ⟨a, ⟨r, hr, ha⟩, rfl⟩
      obtain ⟨d, -, -, hsound⟩ := hround.exists_decision hr
      obtain ⟨candidate, hcandidate, hid⟩ :=
        List.mem_map.mp ((hsound.same_resumes _).mpr (List.mem_map_of_mem ha))
      exact ⟨candidate, ⟨r, hr, hcandidate⟩, congrArg merge.identity hid⟩
  unfold newIdentities
  congr 2
  ext i
  rw [List.mem_toFinset, List.mem_toFinset, hsame]

/-- The receipts of a round add up. -/
lemma accounted_of_ok (hround : ExpansionRound receipts decisions results)
    {updated : List QueryExecutionReceipt} :
    let merge := mergeExpansionCandidates rt results runState seenDedupKeys
    receiptsAfterExpansion receipts decisions results merge failedIds = .ok updated →
      Accounted receipts decisions updated (newIdentities merge results).card := by
  intro merge h
  have hmap := (receiptsAfterExpansion_eq_ok hround).mp h
  have hcover : ∀ claim ∈ merge.claims, claim.1 ∈ receipts.map QueryExecutionReceipt.key := by
    intro claim hclaim
    obtain ⟨d, hd, hkey, -⟩ := key_of_claim hround hclaim
    exact hround.decided (hkey ▸ List.mem_map_of_mem hd)
  refine ⟨map_eq_of_mapM hmap fun receipt _ u hu => (applyToReceipt_ok hround hu).1,
    List.Forall₂.imp (fun receipt u hu => (applyToReceipt_ok hround hu).2.1) (mapM_eq_ok.mp hmap),
    ?_⟩
  have hunique : updated.map QueryExecutionReceipt.uniqueCandidateCount =
    receipts.map fun receipt =>
      receipt.uniqueCandidateCount +
        (firstClaims merge.identitiesBefore merge.claims).countP fun claim =>
          claim.1 = receipt.key :=
    map_eq_of_mapM hmap fun receipt _ u hu => (applyToReceipt_ok hround hu).2.2
  have hsum : ((receipts.map QueryExecutionReceipt.key).map fun k =>
      (firstClaims merge.identitiesBefore merge.claims).countP fun claim => claim.1 = k).sum =
        ((merge.claims.map Prod.snd).toFinset \ merge.identitiesBefore.toFinset).card :=
    sum_firstClaims hround.receipts_nodup hcover
  rw [hunique, List.sum_map_add, card_newIdentities hround, ← hsum, List.map_map]
  rfl

end Counts

section SharedPerson

/-- The receipts of two queries. -/
def sharedReceipts : List QueryExecutionReceipt :=
  [{ sourceKind := "liepin", queryInstanceId := "a", requestedCount := 1, status := .completed,
      dispatchStarted := true },
    { sourceKind := "liepin", queryInstanceId := "b", requestedCount := 1, status := .completed,
      dispatchStarted := true }]

/-- What they returned before the expansion. -/
def sharedAttributions : List RuntimeQueryCandidateAttribution :=
  [⟨"liepin", "a", "first of a", some "first of a"⟩,
    ⟨"liepin", "b", "first of b", some "first of b"⟩]

/-- How that was scored. -/
def sharedScorecards : Dict String ScoredCandidate :=
  .keyedBy ScoredCandidate.resumeId
    [{ resumeId := "first of a", fitBucket := .fit, overallScore := 90, mustHaveMatchScore := 90 },
      { resumeId := "first of b", fitBucket := .fit, overallScore := 90, mustHaveMatchScore := 90 }]

/-- Each of them left a second resume of its first page unopened. -/
def sharedContinuations : List ProviderSearchContinuation :=
  [⟨"continuation-a", "liepin", "a", 2, 2, 1⟩, ⟨"continuation-b", "liepin", "b", 2, 2, 1⟩]

/-- The source opens it, and it is the same resume. -/
def sharedExpander : SourceFirstPageExpander := fun request =>
  .ok {
    sourceKind := request.continuation.sourceKind
    queryInstanceId := request.continuation.queryInstanceId
    continuationId := request.continuation.continuationId
    status := .completed
    candidates := [⟨"resume", "person"⟩]
    candidateQueryAttributions :=
      [⟨request.continuation.sourceKind, request.continuation.queryInstanceId, "resume",
        some "person"⟩]
    firstPageVisibleCount := request.continuation.visibleCandidateCount
    firstPageEligibleCount := request.continuation.eligibleCandidateCount
    initialOpenedCount := request.continuation.initialOpenedCount
    expansionOpenedCount := 1
    continuationDeleted := true }

/-- What is decided about the queries: their first pages are expanded. -/
def sharedDecisions : List FirstPageExpansionDecision :=
  ((selectQualifiedFirstPageExpansions sharedContinuations sharedReceipts sharedAttributions ∅
    sharedScorecards).toOption).getD []

/-- What the source returns. -/
def sharedResults : List SourceFirstPageExpansionResult :=
  ((executeFirstPageDecisions (.insert "liepin" sharedExpander ∅) sharedDecisions).toOption).getD []

/-- A runtime in which every resume is a person of its own. -/
def plainExpansionRuntime : ExpansionRuntime where
  mergeSourceLaneResultUpdates := fun _ s => s
  rebuildCandidateIdentities := fun _ => ∅

/-- The run before the expansion. -/
def sharedRunState : ExpansionRunState where
  candidateStore := ∅
  seenResumeIds := ["first of a", "first of b"]
  candidateIdentityByResumeId := ∅

/-- The results, merged into the run. -/
def sharedMerge : ExpansionMerge :=
  mergeExpansionCandidates plainExpansionRuntime sharedResults sharedRunState []

/-- The two queries are a round. -/
lemma sharedRound : ExpansionRound sharedReceipts sharedDecisions sharedResults := by
  have hdecisions : (selectQualifiedFirstPageExpansions sharedContinuations sharedReceipts
      sharedAttributions ∅ sharedScorecards).toOption = some sharedDecisions := by decide +kernel
  have hresults : (executeFirstPageDecisions (.insert "liepin" sharedExpander ∅)
      sharedDecisions).toOption = some sharedResults := by decide +kernel
  exact expansionRound_of_run (by decide) (eq_ok_of_toOption hdecisions)
    (eq_ok_of_toOption hresults)

/-- No result has more candidates than pages that were opened. -/
lemma sharedOpened : OpenedCovers sharedResults := by
  have hall : ∀ result ∈ sharedResults, (result.candidates.length : Int) ≤
    result.expansionOpenedCount := by
    decide +kernel
  exact hall

end SharedPerson

end SeekTalent.Rounds
