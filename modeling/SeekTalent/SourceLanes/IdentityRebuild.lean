import Mathlib.Data.List.MinMax
import SeekTalent.SourceLanes.RunState

/-!
# Rebuilding the identities of a run

`_rebuild_identity_state` of `seektalent/runtime/source_lanes.py`: a fresh index is given every
observation of every resume seen, in the order in which the resumes were seen, and the identities,
their aliases, their evidence and the canonical resume of each are read off it.
-/

namespace SeekTalent.SourceLanes

open Foundation Dict SourcePort RuntimeCandidateIdentityIndex

variable (rt : ObservationRuntime)

/-! ## The signals of an observation -/

/-- `_normalize_identity_text`. -/
def normalizeIdentityText (value : String) : String :=
  " ".intercalate (splitText (rt.casefold (stripText value)))

/-- `候选人\d+`, all of the text. -/
def isNumberedCandidate (text : String) : Bool :=
  "候选人".toList.isPrefixOf text.toList && text.toList.drop 3 ≠ [] &&
    (text.toList.drop 3).all rt.isDecimal

/-- `_is_masked_identity_name`. -/
def isMaskedIdentityName : Option String → Bool
  | none => false
  | some value =>
    let text := stripText value
    text = "" ||
      rt.casefold text ∈ ["匿名", "候选人", "candidate", "-", "--"] ||
      ["*", "某", "女士", "先生"].any (containsText text) ||
      isNumberedCandidate rt text

/-- The text of a field that is there and not empty, stripped. -/
def strippedField (value : String) : Option String :=
  if value = "" then none else some (stripText value)

/-- The normalised text of a stripped field that is still not empty. -/
def normalizedField (value : Option String) : Option String :=
  if truthyText value then value.map (normalizeIdentityText rt) else none

/-- The fingerprint of an experience. -/
def experienceFingerprint (item : NormalizedExperience) : String :=
  ":".intercalate (([item.company, item.title, item.duration].map (normalizeIdentityText rt)).filter
    (· ≠ ""))

/-- The fingerprints of the experiences, or else the summaries of the work experience. -/
def workChronology (candidate : ResumeCandidate) (normalized : Option NormalizedResume) :
    List String :=
  match ((normalized.map (·.recentExperiences)).getD []).map (experienceFingerprint rt) |>.filter
      (· ≠ "") with
  | first :: rest => first :: rest
  | [] => (candidate.workExperienceSummaries.map (normalizeIdentityText rt)).filter (· ≠ "")

/-- `_identity_signals_for_candidate`. -/
def identitySignalsForCandidate (candidate : ResumeCandidate) (normalized : Option NormalizedResume)
    (evidence : Option RuntimeSourceEvidence) : RuntimeIdentitySignals :=
  let name := normalized.bind (fun n => strippedField n.candidateName)
  { normalizedName := normalizedField rt name
    isMaskedName := isMaskedIdentityName rt name
    currentCompanyNorm :=
      normalizedField rt (normalized.bind (fun n => strippedField n.currentCompany))
    currentTitleNorm := normalizedField rt (normalized.bind (fun n => strippedField n.currentTitle))
    schoolNorms :=
      match normalized with
      | none => []
      | some n =>
        if stripText n.educationSummary =
          "" then [] else [normalizeIdentityText rt n.educationSummary]
    workChronologyFingerprints := sortedTexts (workChronology rt candidate normalized)
    providerCandidateKeyHash := evidence.map (·.providerCandidateKeyHash)
    protectedContactHashes := (evidence.map (·.protectedContactHashes)).getD []
    yearsOfExperience :=
      match normalized with
      | none => candidate.workYear
      | some n => n.yearsOfExperience
    locationNorms := (((normalized.map (·.locations)).getD []).filter (· ≠ "")).map
      (normalizeIdentityText rt)
    skillNorms := (((normalized.map (·.skills)).getD []).filter (· ≠ "")).map
      (normalizeIdentityText rt) }

namespace ResumeStores

variable (state : ResumeStores)

/-- What the index is told about a resume: one call for each evidence row, or one call without. -/
def resumeUpserts (resumeId : String) : List CandidateUpsert :=
  match state.candidateStore.lookup resumeId with
  | none => []
  | some candidate =>
    let normalized := state.normalizedStore.lookup resumeId
    match state.evidenceOf resumeId with
    | [] => [⟨resumeId, "candidate:" ++
      resumeId, identitySignalsForCandidate rt candidate normalized none⟩]
    | items => items.map (fun e =>
        ⟨resumeId, e.evidenceId, identitySignalsForCandidate rt candidate normalized (some e)⟩)

/-- Everything the index is told, in the order in which the resumes were seen. -/
def identityUpserts : List CandidateUpsert :=
  state.seenResumeIds.flatMap (state.resumeUpserts rt)

end ResumeStores

/-! ## Canonical resumes -/

/-- `RuntimeCanonicalResumeSelection`, as far as it names the resume and its content. -/
structure RuntimeCanonicalResumeSelection where
  identityId : String
  canonicalResumeId : String
  contentVersionKey : String
  deriving DecidableEq, Repr

/-- The rank of the level that a normalised resume was scored on. -/
def scoreSourceRank (source : Option String) : Nat :=
  match source with
  | some "card" => 1
  | some "detail" => 2
  | some "final" => 3
  | _ => 0

/-- The first four places of `candidate_observation_rank`. -/
def candidateObservationRank (candidate : ResumeCandidate) (normalized : NormalizedResume)
    (evidence : List RuntimeSourceEvidence) : Nat ×ₗ Nat ×ₗ Nat ×ₗ Nat :=
  toLex ((evidence.map (·.evidenceLevel.rank)).max?.getD
    (scoreSourceRank normalized.scoreEvidenceSource), toLex (rt.structuredLeafCount normalized,
      toLex (normalized.completenessScore,
        (evidence.flatMap (·.sourceReferences) ++ candidate.sourceReferences).dedup.length)))

/-- `canonical_rank`: larger is better. -/
def canonicalRank (state : ResumeStores) (evidence : List RuntimeSourceEvidence)
    (resumeId : String) : (Nat ×ₗ Nat ×ₗ Nat ×ₗ Nat) ×ₗ String ×ₗ String :=
  let normalized := state.normalizedStore.lookup resumeId
  let observationRank :=
    match state.candidateStore.lookup resumeId, normalized with
    | some candidate, some normalized => candidateObservationRank rt candidate normalized
        (evidence.filter (fun e => e.candidateResumeId = resumeId))
    | _, _ => toLex (0, toLex (0, toLex (0, 0)))
  toLex (observationRank, toLex (rt.contentKey normalized, resumeId))

/-- The freshness of the content of a resume. -/
def resumeFreshness (state : ResumeStores) (resumeId : String) : Option (Nat ×ₗ Nat) :=
  (state.normalizedStore.lookup resumeId).bind rt.freshness

/-- The resumes whose content is as fresh as any, or all of them when no freshness is known. -/
def latestVersions (state : ResumeStores) (resumeIds : List String) : List String :=
  match (resumeIds.filterMap (resumeFreshness rt state)).max? with
  | none => resumeIds
  | some latest => resumeIds.filter (fun r => resumeFreshness rt state r = some latest)

/-- `choose_canonical_resume_for_identity`. -/
def chooseCanonicalResumeForIdentity (state : ResumeStores) (identityId : String)
    (resumeIds : List String) (evidence : List RuntimeSourceEvidence) :
    RuntimeCanonicalResumeSelection :=
  let selected := ((latestVersions rt state (sortedTexts resumeIds)).argmax
    (canonicalRank rt state evidence)).getD ""
  { identityId
    canonicalResumeId := selected
    contentVersionKey := rt.contentKey (state.normalizedStore.lookup selected) }

/-! ## Rebuilding -/

/-- The part of `RunState` that says who the resumes are. -/
structure IdentityState where
  candidateIdentities : Dict String RuntimeCandidateIdentity := ∅
  identityAliasesByCanonicalId : Dict String (List String) := ∅
  identityConflicts : List RuntimeIdentityConflict := []
  candidateIdentityByResumeId : Dict String String := ∅
  sourceEvidenceByIdentityId : Dict String (List RuntimeSourceEvidence) := ∅
  canonicalResumeByIdentityId : Dict String RuntimeCanonicalResumeSelection := ∅

/-- What a lane raises for a missing key. -/
def raiseKeyError {α : Type} : Except (KeyError String) α → Except LaneError α
  | .ok a => .ok a
  | .error e => .error (.keyError e.key)

/-- One observation of a resume: the identity that it is filed under is remembered. -/
def observe (found : RuntimeCandidateIdentityIndex × Dict String String) (call : CandidateUpsert) :
    Except LaneError (RuntimeCandidateIdentityIndex × Dict String String) := do
  let (index, identity) ← raiseKeyError (found.1.upsertCandidate rt.toPythonRuntime call)
  .ok (index, found.2.insert call.resumeId identity.identityId)

/-- `aliases_by_canonical_id` of the index. -/
def aliasesByCanonical (index : RuntimeCandidateIdentityIndex) : Dict String (List String) :=
  tabulate index.aliasesByCanonicalId.keys index.aliasesFor

/-- `_alias_to_canonical_id`. -/
def aliasToCanonical (aliases : Dict String (List String)) : Dict String String :=
  aliases.entries.foldl (fun d entry => insertAll (d.insert entry.1 entry.1) entry.2 entry.1) ∅

/-- `conflicts` of the index. -/
def indexConflicts (index : RuntimeCandidateIdentityIndex) : List RuntimeIdentityConflict :=
  (index.dropResolvedConflicts.conflictsById.entries.insertionSort
    (fun left right => left.1 ≤ right.1)).map (·.2)

/-- The evidence of an identity: that of its resumes, each row once. -/
def identityEvidence (sourceOrder : Dict String Int) (items : List RuntimeSourceEvidence) :
    Except LaneError (List RuntimeSourceEvidence) :=
  (items.foldlM (fun unique item => placeEvidence rt item unique) []).map (sortEvidence sourceOrder)

/-- `_rebuild_identity_state`. -/
def rebuildIdentityState (sourceOrder : Dict String Int) (state : ResumeStores) :
    Except LaneError IdentityState := do
  let (index, named) ← (state.identityUpserts rt).foldlM (observe rt) ({}, ∅)
  let aliases := aliasesByCanonical index
  let canonicalIds := aliasToCanonical aliases
  let owned := (state.seenResumeIds.dedup.filterMap (fun resumeId =>
    (named.lookup resumeId).map (fun identityId =>
      (resumeId, (canonicalIds.lookup identityId).getD identityId))))
  let evidence ← tabulateM (owned.map (·.2)) (fun identityId =>
    identityEvidence rt sourceOrder ((owned.filter (·.2 = identityId)).flatMap
      (fun entry => state.evidenceOf entry.1)))
  .ok
    { candidateIdentities := index.identities
      identityAliasesByCanonicalId := aliases
      identityConflicts := indexConflicts index
      candidateIdentityByResumeId := owned.foldl (fun d entry => d.insert entry.1 entry.2) ∅
      sourceEvidenceByIdentityId := evidence
      canonicalResumeByIdentityId := tabulate
        (index.identities.keys.filter (fun identityId =>
          ((index.identities.lookup identityId).map (·.resumeIds)).getD [] ≠ []))
        (fun identityId => chooseCanonicalResumeForIdentity rt state identityId
          (((index.identities.lookup identityId).map (·.resumeIds)).getD [])
          ((evidence.lookup identityId).getD [])) }

/-- A rebuild reads which resumes are seen, and what the stores have of each. -/
lemma rebuildIdentityState_congr (sourceOrder : Dict String Int) {state state' : ResumeStores}
    (hseen : state'.seenResumeIds = state.seenResumeIds)
    (hcandidates : ∀ r, state'.candidateStore.lookup r = state.candidateStore.lookup r)
    (hnormalized : ∀ r, state'.normalizedStore.lookup r = state.normalizedStore.lookup r)
    (hevidence : ∀ r, state'.evidenceOf r = state.evidenceOf r) :
    rebuildIdentityState rt sourceOrder state' = rebuildIdentityState rt sourceOrder state := by
  have hupserts : state'.identityUpserts rt = state.identityUpserts rt := by
    have hresume : state'.resumeUpserts rt = state.resumeUpserts rt := by
      funext r
      simp only [ResumeStores.resumeUpserts, hcandidates, hnormalized, hevidence]
    rw [ResumeStores.identityUpserts, ResumeStores.identityUpserts, hresume, hseen]
  have hrank : canonicalRank rt state' = canonicalRank rt state := by
    funext evidence r
    simp only [canonicalRank, hcandidates, hnormalized]
  have hlatest : latestVersions rt state' = latestVersions rt state := by
    have hfreshness : resumeFreshness rt state' = resumeFreshness rt state := by
      funext r
      rw [resumeFreshness, resumeFreshness, hnormalized]
    funext resumeIds
    simp only [latestVersions, hfreshness]
  have hchoose : chooseCanonicalResumeForIdentity rt state' = chooseCanonicalResumeForIdentity rt
      state := by
    funext identityId resumeIds evidence
    rw [chooseCanonicalResumeForIdentity, chooseCanonicalResumeForIdentity, hrank, hlatest,
      hnormalized]
  simp only [rebuildIdentityState, hupserts, hseen, hevidence, hchoose]

end SeekTalent.SourceLanes
