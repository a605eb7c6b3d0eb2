import Mathlib.Data.Prod.Lex
import SeekTalent.Foundation.Checks
import SeekTalent.SourceLanes.IdentityIndex

/-!
# What a run knows about its resumes

The part of `RunState` that source lanes write and the identities are computed from, and the two
ways it grows: `merge_runtime_source_evidence` of `seektalent/candidate_observation_merge.py` for an
evidence row that is delivered again, and `append_source_evidence_once` and the stores of
`merge_source_lane_result_updates` of `seektalent/runtime/source_lanes.py` for the result of a lane.

Normalising a resume and merging two observations of one are a runtime of their own.
`ObservationRuntime` stands for them, and for the functions that read the text of a normalised
resume; no result asks anything of them.
-/

namespace SeekTalent.SourceLanes

open Foundation SourcePort

/-- `RuntimeEvidenceLevel`. -/
inductive RuntimeEvidenceLevel
  | card
  | detail
  | final
  deriving DecidableEq, Repr

/-- `_EVIDENCE_LEVEL_RANK`. -/
def RuntimeEvidenceLevel.rank : RuntimeEvidenceLevel → Nat
  | .card => 1
  | .detail => 2
  | .final => 3

/-- `SourceReference`. -/
structure SourceReference where
  sourceKind : String
  displayLabel : String
  url : String
  deriving DecidableEq, Repr

/-- The key that references are merged and sorted by. -/
def SourceReference.key (r : SourceReference) : String ×ₗ String ×ₗ String :=
  toLex (r.sourceKind, toLex (r.displayLabel, r.url))

/-- `RuntimeSourceEvidence`. -/
structure RuntimeSourceEvidence where
  evidenceId : String
  source : String
  provider : String
  sourcePlanId : Option String := none
  sourceLaneRunId : Option String := none
  evidenceLevel : RuntimeEvidenceLevel
  candidateResumeId : String
  providerCandidateKeyHash : String
  protectedContactHashes : List String := []
  providerRank : Option Int := none
  queryFingerprint : Option String := none
  providerSnapshotRef : Option String := none
  safeSummaryRef : Option String := none
  protectedArtifactRef : Option String := none
  collectedAt : String
  scoreHint : Option Int := none
  reasonCode : Option String := none
  safeReasonCodes : List String := []
  sourceReferences : List SourceReference := []
  deriving DecidableEq, Repr

/-- `NormalizedExperience`, as far as identities read it. -/
structure NormalizedExperience where
  title : String := ""
  company : String := ""
  duration : String := ""
  deriving DecidableEq, Repr

/-- `NormalizedResume`: what identities read, and `structuredEvidence` for the text of the rest. -/
structure NormalizedResume where
  candidateName : String := ""
  currentCompany : String := ""
  currentTitle : String := ""
  yearsOfExperience : Option Int := none
  locations : List String := []
  educationSummary : String := ""
  skills : List String := []
  recentExperiences : List NormalizedExperience := []
  completenessScore : Nat := 0
  scoreEvidenceSource : Option String := none
  structuredEvidence : String := ""
  deriving DecidableEq, Repr

/-- `ResumeCandidate`: what identities read, and `payload` for the text of the rest. -/
structure ResumeCandidate where
  resumeId : String
  workYear : Option Int := none
  workExperienceSummaries : List String := []
  sourceReferences : List SourceReference := []
  payload : String := ""
  deriving DecidableEq, Repr

/-- What the functions of a lane raise. -/
inductive LaneError
  | keyError (key : String)
  | valueError (message : String)
  deriving DecidableEq, Repr

/-- The functions on the texts of resumes and evidence rows. -/
structure ObservationRuntime extends PythonRuntime where
  /-- `str.isdecimal` of a character, which `\d` matches. -/
  isDecimal : Char → Bool
  /-- `normalize_resume`. -/
  normalizeResume : ResumeCandidate → NormalizedResume
  /-- `merge_resume_candidate_observations`. -/
  mergeResumeCandidateObservations : ResumeCandidate → ResumeCandidate →
    List RuntimeSourceEvidence → List RuntimeSourceEvidence →
      Except LaneError (ResumeCandidate × NormalizedResume)
  /-- `_stable_payload_hash` of an evidence row. -/
  evidencePayloadHash : RuntimeSourceEvidence → String
  /-- `_nonempty_leaf_count` of the structured evidence of a resume. -/
  structuredLeafCount : NormalizedResume → Nat
  /-- `resume_content_version(..).freshness`. -/
  freshness : NormalizedResume → Option (Nat ×ₗ Nat)
  /-- `resume_content_version(..).content_key`. -/
  contentKey : Option NormalizedResume → String

/-- The part of `RunState` that lanes write. -/
structure ResumeStores where
  seenResumeIds : List String := []
  candidateStore : Dict String ResumeCandidate := ∅
  normalizedStore : Dict String NormalizedResume := ∅
  sourceEvidenceByResumeId : Dict String (List RuntimeSourceEvidence) := ∅

/-! ## Merging evidence -/

/-- `_is_empty` of a text that may be missing. -/
def emptyText (value : Option String) : Bool :=
  !truthyText value

/-- `_prefer_richer_value` of two texts. -/
def richerText (preferred fallback : Option String) : Option String :=
  if emptyText preferred && !emptyText fallback then fallback else preferred

/-- `_prefer_richer_value` of two required texts. -/
def richerString (preferred fallback : String) : String :=
  if preferred = "" then fallback else preferred

/-- `_prefer_richer_value` of two numbers. -/
def richerNumber (preferred fallback : Option Int) : Option Int :=
  preferred <|> fallback

/-- The number of texts that are not empty. -/
def nonemptyTexts (values : List (Option String)) : Nat :=
  (values.filter truthyText).length

/-- `_nonempty_leaf_count` of an evidence row. -/
def RuntimeSourceEvidence.leafCount (e : RuntimeSourceEvidence) : Nat :=
  nonemptyTexts
      ([some e.evidenceId, some e.source, some e.provider, e.sourcePlanId, e.sourceLaneRunId,
          some e.candidateResumeId, some e.providerCandidateKeyHash, e.queryFingerprint,
          e.providerSnapshotRef, e.safeSummaryRef, e.protectedArtifactRef, some e.collectedAt,
          e.reasonCode] ++ e.protectedContactHashes.map some ++ e.safeReasonCodes.map some ++
        e.sourceReferences.flatMap
          (fun r => [some r.sourceKind, some r.displayLabel, some r.url])) +
    1 + e.providerRank.toList.length + e.scoreHint.toList.length

/-- `_merge_source_references`. -/
def mergeSourceReferences (left right : List SourceReference) : List SourceReference :=
  (left ++ right).dedup.insertionSort (fun r s => r.key ≤ s.key)

/-- The fields that two deliveries of one evidence row must agree on. -/
def RuntimeSourceEvidence.identityFields (e : RuntimeSourceEvidence) : List String :=
  [e.evidenceId, e.source, e.provider, e.candidateResumeId, e.providerCandidateKeyHash]

variable (rt : ObservationRuntime)

/-- `_runtime_source_evidence_rank`. -/
def runtimeSourceEvidenceRank (e : RuntimeSourceEvidence) : Nat ×ₗ Nat ×ₗ String ×ₗ String :=
  toLex (e.evidenceLevel.rank, toLex (e.leafCount, toLex (e.collectedAt, rt.evidencePayloadHash e)))

/-- The fields of the better of two deliveries, filled up from the other. -/
def mergeEvidencePayload (winner loser : RuntimeSourceEvidence) : RuntimeSourceEvidence where
  evidenceId := richerString winner.evidenceId loser.evidenceId
  source := richerString winner.source loser.source
  provider := richerString winner.provider loser.provider
  sourcePlanId := richerText winner.sourcePlanId loser.sourcePlanId
  sourceLaneRunId := richerText winner.sourceLaneRunId loser.sourceLaneRunId
  evidenceLevel := winner.evidenceLevel
  candidateResumeId := richerString winner.candidateResumeId loser.candidateResumeId
  providerCandidateKeyHash :=
    richerString winner.providerCandidateKeyHash loser.providerCandidateKeyHash
  protectedContactHashes :=
    sortedTexts (winner.protectedContactHashes ++ loser.protectedContactHashes)
  providerRank := richerNumber winner.providerRank loser.providerRank
  queryFingerprint := richerText winner.queryFingerprint loser.queryFingerprint
  providerSnapshotRef := richerText winner.providerSnapshotRef loser.providerSnapshotRef
  safeSummaryRef := richerText winner.safeSummaryRef loser.safeSummaryRef
  protectedArtifactRef := richerText winner.protectedArtifactRef loser.protectedArtifactRef
  collectedAt := richerString winner.collectedAt loser.collectedAt
  scoreHint := richerNumber winner.scoreHint loser.scoreHint
  reasonCode := richerText winner.reasonCode loser.reasonCode
  safeReasonCodes := sortedTexts (winner.safeReasonCodes ++ loser.safeReasonCodes)
  sourceReferences := mergeSourceReferences winner.sourceReferences loser.sourceReferences

/-- `merge_runtime_source_evidence`. -/
def mergeRuntimeSourceEvidence (left right : RuntimeSourceEvidence) :
    Except LaneError RuntimeSourceEvidence := do
  require (left.identityFields = right.identityFields)
    (.valueError "runtime_source_evidence_identity_mismatch")
  .ok (if runtimeSourceEvidenceRank rt right ≤ runtimeSourceEvidenceRank rt left
    then mergeEvidencePayload left right else mergeEvidencePayload right left)

/-- `_evidence_sort_key`. -/
def evidenceSortKey (sourceOrder : Dict String Int) (e : RuntimeSourceEvidence) :
    Int ×ₗ Nat ×ₗ String ×ₗ String :=
  toLex ((sourceOrder.lookup e.source).getD 999,
    toLex (e.evidenceLevel.rank - 1, toLex (e.collectedAt, e.evidenceId)))

/-- Sorting by `_evidence_sort_key`, which is stable. -/
def sortEvidence (sourceOrder : Dict String Int) (entries : List RuntimeSourceEvidence) :
    List RuntimeSourceEvidence :=
  entries.insertionSort (fun e e' => evidenceSortKey sourceOrder e ≤ evidenceSortKey sourceOrder e')

/-- An evidence row among the entries of its resume: merged into the entry with its id, or added. -/
def placeEvidence (evidence : RuntimeSourceEvidence) :
    List RuntimeSourceEvidence → Except LaneError (List RuntimeSourceEvidence)
  | [] => .ok [evidence]
  | item :: rest =>
    if item.evidenceId = evidence.evidenceId then do
      let merged ← mergeRuntimeSourceEvidence rt item evidence
      .ok (merged :: rest)
    else do
      let placed ← placeEvidence evidence rest
      .ok (item :: placed)

namespace ResumeStores

/-- The evidence of a resume. -/
def evidenceOf (state : ResumeStores) (resumeId : String) : List RuntimeSourceEvidence :=
  (state.sourceEvidenceByResumeId.lookup resumeId).getD []

/-- One step of `append_source_evidence_once`. -/
def appendEvidence (sourceOrder : Dict String Int) (state : ResumeStores)
    (evidence : RuntimeSourceEvidence) : Except LaneError ResumeStores := do
  let placed ← placeEvidence rt evidence (state.evidenceOf evidence.candidateResumeId)
  .ok { state with
    sourceEvidenceByResumeId := state.sourceEvidenceByResumeId.insert evidence.candidateResumeId
      (sortEvidence sourceOrder placed) }

/-- `append_source_evidence_once`. -/
def appendSourceEvidenceOnce (sourceOrder : Dict String Int) (state : ResumeStores)
    (updates : List RuntimeSourceEvidence) : Except LaneError ResumeStores :=
  updates.foldlM (appendEvidence rt sourceOrder) state

/-- The candidate and the normalised resume that a lane result leaves in the stores. -/
def observedCandidate (updates : List RuntimeSourceEvidence) (state : ResumeStores)
    (observed : String × ResumeCandidate) : Except LaneError (ResumeCandidate × NormalizedResume) :=
  match state.candidateStore.lookup observed.1 with
  | none => .ok (observed.2, rt.normalizeResume observed.2)
  | some existing =>
    rt.mergeResumeCandidateObservations existing observed.2 (state.evidenceOf observed.1)
      (updates.filter (fun e => e.candidateResumeId = observed.1))

/-- The stores after one entry of `candidate_store_updates`. -/
def storeCandidate (updates : List RuntimeSourceEvidence) (state : ResumeStores)
    (observed : String × ResumeCandidate) : Except LaneError ResumeStores := do
  let stored ← observedCandidate rt updates state observed
  .ok { state with
    candidateStore := state.candidateStore.insert observed.1 stored.1
    normalizedStore := state.normalizedStore.insert observed.1 stored.2
    seenResumeIds := if observed.1 ∈ state.seenResumeIds then state.seenResumeIds
      else state.seenResumeIds ++ [observed.1] }

end ResumeStores

end SeekTalent.SourceLanes
