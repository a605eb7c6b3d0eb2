import SeekTalent.SourceLanes.EvidenceOrder
import SeekTalent.SourceLanes.MatchingOrder
import SeekTalent.SourceLanes.RebuiltIdentities

/-!
# Arrival order and identities

`rebuild_candidate_identities` walks the resumes in the order in which they arrived.  The partition
of the resumes and the canonical resume of each class do not depend on that order when matching is
consistent; when it is not they may, as `arrivalOrder_decides` shows: a candidate whose contact
arrives late loses the signals of the identity that is merged under it, and a second profile of the
same person is then no longer recognised.
-/

namespace SeekTalent.SourceLanes

open Foundation Dict IdentityFiling RuntimeCandidateIdentityIndex

variable {rt : ObservationRuntime} {sourceOrder : Dict String Int}

namespace IdentityState

/-- Some identity has both resumes. -/
def Together (state : IdentityState) (left right : String) : Prop :=
  ∃ identityId identity, state.candidateIdentities.lookup identityId = some identity ∧
    left ∈ identity.resumeIds ∧ right ∈ identity.resumeIds

/-- The identity of the resume has the canonical resume. -/
def CanonicalResume (state : IdentityState) (resumeId canonicalId : String) : Prop :=
  ∃ identityId identity selection, state.candidateIdentities.lookup identityId = some identity ∧
    resumeId ∈ identity.resumeIds ∧
    state.canonicalResumeByIdentityId.lookup identityId = some selection ∧
    selection.canonicalResumeId = canonicalId

end IdentityState

/-- The two states partition the resumes alike, with the same canonical resume in each class. -/
structure SamePeople (left right : IdentityState) : Prop where
  classes : ∀ r r', left.Together r r' ↔ right.Together r r'
  canonical : ∀ r c, left.CanonicalResume r c ↔ right.CanonicalResume r c

/-- Two rebuilds return the same people, or both raise. -/
def SameOutcome : Except LaneError IdentityState → Except LaneError IdentityState → Prop
  | .ok left, .ok right => SamePeople left right
  | .error _, .error _ => True
  | _, _ => False

/-- The order in which the resumes arrived does not decide who is the same person. -/
def ArrivalOrderIrrelevant (rt : ObservationRuntime) (sourceOrder : Dict String Int)
    (state : ResumeStores) : Prop :=
  ∀ seen, seen.Perm state.seenResumeIds →
    SameOutcome (rebuildIdentityState rt sourceOrder state)
      (rebuildIdentityState rt sourceOrder { state with seenResumeIds := seen })

/-! ## Canonical resumes -/

/-- A list of numbers and another that reaches the same heights have one maximum. -/
lemma max?_eq_of_reaches {left right : List Nat}
    (h : ∀ n, (∃ x ∈ left, n ≤ x) ↔ ∃ x ∈ right, n ≤ x) : left.max? = right.max? := by
  have hempty : left = [] ↔ right = [] := by
    rw [List.eq_nil_iff_forall_not_mem, List.eq_nil_iff_forall_not_mem]
    have hzero := not_congr (h 0)
    simpa using hzero
  cases hleft : left.max? with
  | none =>
    rw [List.max?_eq_none_iff] at hleft
    rw [hempty.mp hleft]
    rfl
  | some m =>
    obtain ⟨hmem, hle⟩ := List.max?_eq_some_iff.mp hleft
    symm
    obtain ⟨x, hx, hmx⟩ := (h m).mp ⟨m, hmem, le_refl m⟩
    have hbound : ∀ y ∈ right, y ≤ m := by
      intro y hy
      obtain ⟨z, hz, hyz⟩ := (h y).mpr ⟨y, hy, le_refl y⟩
      exact hyz.trans (hle z hz)
    rw [List.max?_eq_some_iff]
    exact ⟨le_antisymm (hbound x hx) hmx ▸ hx, hbound⟩

/-- The rank of a resume reads the levels and the references of its evidence. -/
lemma canonicalRank_congr (rt : ObservationRuntime) (state : ResumeStores)
    {evidence evidence' : List RuntimeSourceEvidence}
    (hlevels : ∀ r level, ReachesLevel evidence r level ↔ ReachesLevel evidence' r level)
    (hreferences : ∀ r reference,
      GivesReference evidence r reference ↔ GivesReference evidence' r reference) (r : String) :
    canonicalRank rt state evidence r = canonicalRank rt state evidence' r := by
  have hlevel : ((evidence.filter (fun e => e.candidateResumeId = r)).map
    (·.evidenceLevel.rank)).max? =
      ((evidence'.filter (fun e => e.candidateResumeId = r)).map (·.evidenceLevel.rank)).max? := by
    apply max?_eq_of_reaches
    intro n
    have hreach := hlevels r n
    simp only [ReachesLevel] at hreach
    simpa [and_assoc] using hreach
  have hcount : ∀ candidate : ResumeCandidate,
      ((evidence.filter (fun e => e.candidateResumeId = r)).flatMap (·.sourceReferences) ++
        candidate.sourceReferences).dedup.length =
      ((evidence'.filter (fun e => e.candidateResumeId = r)).flatMap (·.sourceReferences) ++
        candidate.sourceReferences).dedup.length := by
    intro candidate
    apply List.Perm.length_eq
    rw [List.perm_ext_iff_of_nodup (List.nodup_dedup _) (List.nodup_dedup _)]
    intro reference
    have hgives := hreferences r reference
    simp only [GivesReference] at hgives
    simp only [List.mem_dedup, List.mem_append, List.mem_flatMap, List.mem_filter,
      decide_eq_true_eq, and_assoc, hgives]
  unfold canonicalRank candidateObservationRank
  simp only [hlevel, hcount]

/-- The canonical resume reads the set of resumes, and the levels and references of the evidence. -/
lemma canonicalResume_congr (rt : ObservationRuntime) (state : ResumeStores) {seen : List String}
    {identityId identityId' : String} {resumeIds resumeIds' : List String}
    {evidence evidence' : List RuntimeSourceEvidence}
    (hresumes : ∀ r, r ∈ resumeIds ↔ r ∈ resumeIds')
    (hlevels : ∀ r level, ReachesLevel evidence r level ↔ ReachesLevel evidence' r level)
    (hreferences : ∀ r reference,
      GivesReference evidence r reference ↔ GivesReference evidence' r reference) :
    (chooseCanonicalResumeForIdentity rt state identityId resumeIds evidence).canonicalResumeId =
      (chooseCanonicalResumeForIdentity rt { state with seenResumeIds := seen } identityId'
        resumeIds' evidence').canonicalResumeId := by
  have hrank : canonicalRank rt state evidence =
      canonicalRank rt { state with seenResumeIds := seen } evidence' :=
    funext (canonicalRank_congr rt state hlevels hreferences)
  simp only [chooseCanonicalResumeForIdentity, hrank, sortedTexts_congr hresumes]
  rfl

/-! ## Rebuilding in another order -/

section Reordered

variable {state : ResumeStores} {seen : List String} {index index' : RuntimeCandidateIdentityIndex}

/-- The observations in another order of the resumes. -/
lemma identityUpserts_perm (rt : ObservationRuntime) (hperm : seen.Perm state.seenResumeIds) :
    (state.identityUpserts rt).Perm
      (ResumeStores.identityUpserts rt { state with seenResumeIds := seen }) :=
  hperm.symm.flatMap_right _

/-- The owners of two resumes in the two orders agree on whether they are one. -/
lemma owner_iff_of_perm {calls calls' : List CandidateUpsert} (hperm : calls.Perm calls')
    (h : ClassesFiled rt.toPythonRuntime calls calls index)
    (h' : ClassesFiled rt.toPythonRuntime calls' calls' index') {r owner owner' : String}
    (howner : index.resumeIdToIdentityId.lookup r = some owner)
    (howner' : index'.resumeIdToIdentityId.lookup r = some owner') (x : String) :
    index.resumeIdToIdentityId.lookup x = some owner ↔
      index'.resumeIdToIdentityId.lookup x = some owner' := by
  obtain ⟨call, hcall, rfl⟩ := h.filed.resume_seen r owner howner
  constructor
  · intro hx
    obtain ⟨other, hother, rfl⟩ := h.filed.resume_seen x owner hx
    rw [← howner', sameOwner_iff h' (hperm.mem_iff.mp hother) (hperm.mem_iff.mp hcall),
      ← linked_perm hperm, ← sameOwner_iff h hother hcall, hx, howner]
  · intro hx
    obtain ⟨other, hother, rfl⟩ := h'.filed.resume_seen x owner' hx
    rw [← howner, sameOwner_iff h (hperm.mem_iff.mpr hother) hcall, linked_perm hperm,
      ← sameOwner_iff h' hother (hperm.mem_iff.mp hcall), hx, howner']

/-- A live identity owns a resume that was seen. -/
lemma CallsFiled.exists_resume {py : PythonRuntime} {calls : List CandidateUpsert}
    (h : CallsFiled py calls index) {identityId : String} (hlive : identityId ∈ index.identities) :
    ∃ call ∈ calls, index.resumeIdToIdentityId.lookup call.resumeId = some identityId :=
  h.exists_call ((h.settled.aliases "").self identityId hlive)

/-- The identities that own a resume in the two orders have permuted evidence. -/
lemma ownedEvidence_perm (hperm : seen.Perm state.seenResumeIds) {owner owner' : String}
    (howners : ∀ x, index.resumeIdToIdentityId.lookup x = some owner ↔
      index'.resumeIdToIdentityId.lookup x = some owner') :
    (ownedEvidence state index owner).Perm
      (ownedEvidence { state with seenResumeIds := seen } index' owner') := by
  unfold ownedEvidence ownedResumes
  simp only [howners]
  exact ((hperm.symm.dedup).filter _).flatMap_right _

/-- The resumes that two owners have in the two orders. -/
lemma resumes_iff (h : index.Settled) (h' : index'.Settled) {owner owner' : String}
    {identity identity' : RuntimeCandidateIdentity}
    (howners : ∀ x, index.resumeIdToIdentityId.lookup x = some owner ↔
      index'.resumeIdToIdentityId.lookup x = some owner')
    (hidentity : index.identities.lookup owner = some identity)
    (hidentity' : index'.identities.lookup owner' = some identity') (x : String) :
    x ∈ identity.resumeIds ↔ x ∈ identity'.resumeIds := by
  have hleft : index.OwnsResume owner x ↔ x ∈ identity.resumeIds := by
    simp [OwnsResume, hidentity]
  have hright : index'.OwnsResume owner' x ↔ x ∈ identity'.resumeIds := by
    simp [OwnsResume, hidentity']
  rw [← hleft, ← hright, ← h.members.resumes, ← h'.members.resumes, howners]

/-- What the rebuild in one order says about a resume, the rebuild in the other says too. -/
lemma exists_counterpart {calls calls' : List CandidateUpsert} (hperm : calls.Perm calls')
    (h : ClassesFiled rt.toPythonRuntime calls calls index)
    (h' : ClassesFiled rt.toPythonRuntime calls' calls' index') {r owner : String}
    (howner : index.resumeIdToIdentityId.lookup r = some owner) :
    ∃ owner' identity', index'.identities.lookup owner' = some identity' ∧
      ∀ x, index.resumeIdToIdentityId.lookup x = some owner ↔
        index'.resumeIdToIdentityId.lookup x = some owner' := by
  obtain ⟨call, hcall, rfl⟩ := h.filed.resume_seen r owner howner
  obtain ⟨owner', howner', -, -⟩ := h'.filed.filed call (hperm.mem_iff.mp hcall)
  obtain ⟨identity', hidentity', -⟩ := (h'.filed.settled.members.resumes _ owner').mp howner'
  exact ⟨owner', identity', hidentity', owner_iff_of_perm hperm h h' howner howner'⟩

/-- The rebuild in another order, given that the first returned: it returns, and every class and
canonical resume of the first is one of the second. -/
lemma samePeople_half
    (hconsistent : MatchesConsistently rt.toPythonRuntime (state.identityUpserts rt))
    (hinj : HashInjectiveOn rt.toPythonRuntime (state.identityUpserts rt))
    (hperm : seen.Perm state.seenResumeIds) {out : IdentityState}
    (hout : rebuildIdentityState rt sourceOrder state = .ok out) :
    ∃ out', rebuildIdentityState rt sourceOrder { state with seenResumeIds := seen } = .ok out' ∧
      (∀ r r', out.Together r r' → out'.Together r r') ∧
      ∀ r c, out.CanonicalResume r c → out'.CanonicalResume r c := by
  have hcalls := identityUpserts_perm rt hperm
  have hinj' := hinj.of_subset (fun c hc => hcalls.mem_iff.mpr hc)
  obtain ⟨index, hrun, -, -, hspec⟩ := rebuildIdentityState_spec sourceOrder hinj
  obtain ⟨index', hrun', -, hreturns', hspec'⟩ := rebuildIdentityState_spec sourceOrder hinj'
  have h := ClassesFiled.of_run hconsistent hinj hrun
  have h' := ClassesFiled.of_run (hconsistent.perm hcalls) hinj' hrun'
  obtain ⟨hidentities, -, hcanonical⟩ := hspec out hout
  -- every class of the second order is one of the first, whose evidence agrees
  have hreturned : ∀ owner' ∈ index'.identities, ∃ evidence,
      identityEvidence rt sourceOrder
        (ownedEvidence { state with seenResumeIds := seen } index' owner') = .ok evidence := by
    intro owner' hlive'
    obtain ⟨call, hcall, howner'⟩ := h'.filed.exists_resume hlive'
    obtain ⟨owner, identity, hidentity, howners⟩ := exists_counterpart hcalls.symm h' h howner'
    obtain ⟨evidence, hevidence, -⟩ := hcanonical owner identity hidentity
    have hrows := ownedEvidence_perm hperm (fun x => (howners x).symm)
    obtain ⟨evidence', hevidence', -⟩ := identityEvidence_perm hrows hevidence
    exact ⟨evidence', hevidence'⟩
  obtain ⟨out', hout'⟩ := hreturns'.mpr hreturned
  obtain ⟨hidentities', -, hcanonical'⟩ := hspec' out' hout'
  refine ⟨out', hout', ?_, ?_⟩
  · rintro r r' ⟨owner, identity, hidentity, hr, hr'⟩
    rw [hidentities] at hidentity
    have howner := (h.filed.settled.members.resumes r owner).mpr ⟨identity, hidentity, hr⟩
    obtain ⟨owner', identity', hidentity', howners⟩ := exists_counterpart hcalls h h' howner
    have hsame := resumes_iff h.filed.settled h'.filed.settled howners hidentity hidentity'
    exact ⟨owner', identity', hidentities' ▸ hidentity', (hsame r).mp hr, (hsame r').mp hr'⟩
  · rintro r c ⟨owner, identity, selection, hidentity, hr, hselection, hselected⟩
    rw [hidentities] at hidentity
    have howner := (h.filed.settled.members.resumes r owner).mpr ⟨identity, hidentity, hr⟩
    obtain ⟨owner', identity', hidentity', howners⟩ := exists_counterpart hcalls h h' howner
    have hsame := resumes_iff h.filed.settled h'.filed.settled howners hidentity hidentity'
    obtain ⟨evidence, hevidence, hchosen⟩ := hcanonical owner identity hidentity
    obtain ⟨evidence', hevidence', hchosen'⟩ := hcanonical' owner' identity' hidentity'
    obtain rfl : _ = selection := Option.some.inj (hchosen.symm.trans hselection)
    refine ⟨owner', identity', _, hidentities' ▸ hidentity', (hsame r).mp hr, hchosen', ?_⟩
    have hrows := ownedEvidence_perm hperm howners
    obtain ⟨reordered, hreordered, hlevels, hreferences⟩ := identityEvidence_perm hrows hevidence
    obtain rfl : reordered = evidence' := Except.ok.inj (hreordered.symm.trans hevidence')
    rw [← hselected]
    exact (canonicalResume_congr rt state hsame hlevels hreferences).symm

end Reordered

/-- When matching is consistent and the primary keys have different hashes, the order in which the
resumes arrived does not decide who is the same person. -/
theorem arrivalOrderIrrelevant (rt : ObservationRuntime) (sourceOrder : Dict String Int)
    (state : ResumeStores)
    (hinj : HashInjectiveOn rt.toPythonRuntime (state.identityUpserts rt))
    (hconsistent : MatchesConsistently rt.toPythonRuntime (state.identityUpserts rt)) :
    ArrivalOrderIrrelevant rt sourceOrder state := by
  intro seen hperm
  have hcalls := identityUpserts_perm rt hperm
  have hinj' := hinj.of_subset (fun c hc => hcalls.mem_iff.mpr hc)
  have hconsistent' := hconsistent.perm hcalls
  have hback : state.seenResumeIds.Perm
      ({ state with seenResumeIds := seen } : ResumeStores).seenResumeIds := hperm.symm
  cases hout : rebuildIdentityState rt sourceOrder state with
  | ok out =>
    obtain ⟨out', hout', hclasses, hcanonical⟩ := samePeople_half hconsistent hinj hperm hout
    obtain ⟨again, hagain, hclasses', hcanonical'⟩ :=
      samePeople_half hconsistent' hinj' hback hout'
    obtain rfl : out = again := Except.ok.inj (hout.symm.trans hagain)
    rw [hout']
    exact ⟨fun r r' => ⟨hclasses r r', hclasses' r r'⟩, fun r c =>
      ⟨hcanonical r c, hcanonical' r c⟩⟩
  | error e =>
    cases hout' : rebuildIdentityState rt sourceOrder { state with seenResumeIds := seen } with
    | error e' => trivial
    | ok out' =>
      obtain ⟨out, hagain, -⟩ := samePeople_half hconsistent' hinj' hback hout'
      exact absurd (hout.symm.trans hagain) (by simp)

/-! ## One person at two providers -/

/-- Calls without contacts accumulate signals that merging does not leave. -/
lemma accumulated_mem {members : CandidateUpsert → Prop} {known : List RuntimeIdentitySignals}
    (hmembers : ∀ call, members call →
      call.signals ∈ known ∧ call.signals.protectedContactHashes = [])
    (hmerge : ∀ left ∈ known, ∀ right ∈ known, mergeKnownSignals left right ∈ known)
    {signals : RuntimeIdentitySignals} (h : Accumulated members signals) : signals ∈ known := by
  induction h with
  | first call hcall => exact (hmembers call hcall).1
  | afresh call hcall hcontact => exact absurd (hmembers call hcall).2 hcontact
  | more signals call _ hcall ih => exact hmerge signals ih call.signals (hmembers call hcall).1

/-- The functions that the texts below are read with, and the digests of their primary keys. -/
def providerKeyDigests : ObservationRuntime where
  casefold := id
  sha256Hexdigest value :=
    if value = "provider:pa".toUTF8.data.toList then
      "29e87498df938e9d56b879d0431dcbf9546471602d7443600b3f5defef64bb0c"
    else if value = "provider:pd".toUTF8.data.toList then
      "942aeb002d68f0b269f0ff982c406273bb480e2a03ac7874872f55c7757aef37"
    else "8ba8acf027b8fc802979d0f348667ffcf1e5a288dff7392a2216e430323b6226"
  isDecimal := Char.isDigit
  normalizeResume _ := {}
  mergeResumeCandidateObservations candidate _ _ _ := .ok (candidate, {})
  evidencePayloadHash e := e.evidenceId
  structuredLeafCount _ := 0
  freshness _ := none
  contentKey _ := ""

/-- The profile of one person. -/
def alicesProfile : NormalizedResume where
  candidateName := "alice chen"
  currentCompany := "acme"
  currentTitle := "engineer"
  educationSummary := "tsinghua"
  recentExperiences := [{ title := "engineer", company := "acme", duration := "2024" }]

/-- An evidence row of a resume at a provider. -/
def evidenceAt (resumeId source key : String) : RuntimeSourceEvidence where
  evidenceId := "evidence-" ++ resumeId
  source := source
  provider := source
  evidenceLevel := .card
  candidateResumeId := resumeId
  providerCandidateKeyHash := key
  collectedAt := "2026-01-01T00:00:00+00:00"

/-- One person at two providers, with nothing else to go by than the profile. -/
def atTwoProviders : ResumeStores where
  seenResumeIds := ["a", "d"]
  candidateStore := ((∅ : Dict String ResumeCandidate).insert "a" { resumeId := "a" }).insert "d"
    { resumeId := "d" }
  normalizedStore := ((∅ : Dict String NormalizedResume).insert "a" alicesProfile).insert "d"
    alicesProfile
  sourceEvidenceByResumeId := ((∅ : Dict String (List RuntimeSourceEvidence)).insert "a"
    [evidenceAt "a" "cts" "pa"]).insert "d" [evidenceAt "d" "liepin" "pd"]

/-- What the profile says of a person at a provider. -/
def alicesSignals (key : String) : RuntimeIdentitySignals where
  normalizedName := some "alice chen"
  currentCompanyNorm := some "acme"
  currentTitleNorm := some "engineer"
  schoolNorms := ["tsinghua"]
  workChronologyFingerprints := ["acme:engineer:2024"]
  providerCandidateKeyHash := some key

/-- The observations of one person at two providers. -/
lemma atTwoProviders_upserts : atTwoProviders.identityUpserts providerKeyDigests =
    [⟨"a", "evidence-a", alicesSignals "pa"⟩, ⟨"d", "evidence-d", alicesSignals "pd"⟩] := by
  decide +kernel

/-- All that can be accumulated of the person matches both resumes. -/
lemma atTwoProviders_consistent : MatchesConsistently providerKeyDigests.toPythonRuntime
    (atTwoProviders.identityUpserts providerKeyDigests) := by
  have hknown : ∀ left signals,
      Accumulated (ClassOf providerKeyDigests.toPythonRuntime
        (atTwoProviders.identityUpserts providerKeyDigests) left) signals →
          signals ∈ [alicesSignals "pa", alicesSignals "pd"] := by
    intro left signals hsignals
    apply accumulated_mem _ (by decide) hsignals
    intro call hcall
    have hmem := hcall.1
    rw [atTwoProviders_upserts] at hmem
    rcases List.mem_pair.mp hmem with rfl | rfl <;> decide
  have hmatch : ∀ left ∈ [alicesSignals "pa", alicesSignals "pd"],
      ∀ right ∈ [alicesSignals "pa", alicesSignals "pd"], 85 ≤ identityMatchScore left right := by
    decide +kernel
  have hname : ∀ signals ∈ [alicesSignals "pa", alicesSignals "pd"],
      signals.fuzzyBucketName = some "alice chen" := by
    decide
  have hcall : ∀ call ∈ atTwoProviders.identityUpserts providerKeyDigests,
      call.signals ∈ [alicesSignals "pa", alicesSignals "pd"] := by
    rw [atTwoProviders_upserts]
    decide
  constructor
  · intro left hleft right hright hnot
    refine absurd (Linked.of_shares hleft hright (Or.inr (Or.inl ⟨⟨"alice chen", ?_, ?_⟩, ?_⟩)))
      hnot
    · exact hname _ (hcall left hleft)
    · exact hname _ (hcall right hright)
    · exact hmatch _ (hcall left hleft) _ (hcall right hright)
  · intro left _ right hright _ _ signals hsignals
    have hsignalsKnown := hknown left signals hsignals
    exact ⟨⟨"alice chen", hname signals hsignalsKnown, hname _ (hcall right hright)⟩,
      hmatch signals hsignalsKnown _ (hcall right hright)⟩

/-- One person at two providers is one person in whatever order the providers deliver. -/
theorem atTwoProviders_arrivalOrderIrrelevant :
    ArrivalOrderIrrelevant providerKeyDigests ∅ atTwoProviders :=
  arrivalOrderIrrelevant providerKeyDigests ∅ atTwoProviders (by decide +kernel)
    atTwoProviders_consistent

/-! ## A contact that arrives late -/

namespace IdentityState

instance (state : IdentityState) (left right : String) : Decidable (state.Together left right) :=
  decidable_of_iff (∃ entry ∈ state.candidateIdentities.entries,
    left ∈ entry.2.resumeIds ∧ right ∈ entry.2.resumeIds) <| by
    constructor
    · rintro ⟨entry, hentry, hleft, hright⟩
      exact ⟨entry.1, entry.2, AList.mem_lookup_iff.mpr hentry, hleft, hright⟩
    · rintro ⟨identityId, identity, hlookup, hleft, hright⟩
      exact ⟨⟨identityId, identity⟩, AList.mem_lookup_iff.mp hlookup, hleft, hright⟩

end IdentityState

/-- Rebuilds with the same outcome have the same resumes together. -/
lemma SameOutcome.together {left right : Except LaneError IdentityState}
    (h : SameOutcome left right) (r r' : String) :
    left.toOption.map (fun state => decide (state.Together r r')) =
      right.toOption.map (fun state => decide (state.Together r r')) := by
  cases left with
  | error e => cases right with
    | error e' => rfl
    | ok right => exact h.elim
  | ok left => cases right with
    | error e => exact h.elim
    | ok right =>
      have hsame : left.Together r r' ↔ right.Together r r' := SamePeople.classes h r r'
      simp [Except.toOption, hsame]

/-- The two resumes of one person, and the detail page of the first with a contact. -/
def lateContact : ResumeStores where
  seenResumeIds := ["a", "c", "d"]
  candidateStore := atTwoProviders.candidateStore.insert "c" { resumeId := "c" }
  normalizedStore := atTwoProviders.normalizedStore.insert "c" {}
  sourceEvidenceByResumeId := atTwoProviders.sourceEvidenceByResumeId.insert "c"
    [{ evidenceAt "c" "cts" "pa" with evidenceLevel := .detail, protectedContactHashes := ["ca"] }]

/-- When the contact arrives before the second resume of the person, the two are not together: the
signals of the first identity are not among those of the identity that it was merged into. -/
theorem arrivalOrder_decides : ¬ ArrivalOrderIrrelevant providerKeyDigests ∅ lateContact := by
  intro h
  have hperm : ["a", "d", "c"].Perm lateContact.seenResumeIds := by decide
  have htogether := SameOutcome.together (h ["a", "d", "c"] hperm) "a" "d"
  have hapart : (rebuildIdentityState providerKeyDigests ∅ lateContact).toOption.map
      (fun state => decide (state.Together "a" "d")) = some false := by
    decide +kernel
  have hjoined : (rebuildIdentityState providerKeyDigests ∅
      { lateContact with seenResumeIds := ["a", "d", "c"] }).toOption.map
        (fun state => decide (state.Together "a" "d")) = some true := by
    decide +kernel
  rw [hapart, hjoined] at htogether
  cases htogether

end SeekTalent.SourceLanes
