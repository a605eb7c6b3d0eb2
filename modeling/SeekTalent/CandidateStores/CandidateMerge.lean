import SeekTalent.Foundation.JsonMerge
import SeekTalent.SourceLanes.RunState

/-!
# Merging two observations of a resume

`merge_resume_candidate_observations` of `seektalent/candidate_observation_merge.py`: two
observations of one resume are ranked, and the better one is filled up field by field from the
other.  A candidate is here with all its fields; `SourceLanes` has those that identities read.

Normalising a resume, and hashing one, are functions of `CandidateRuntime`; no result asks anything
of them.
-/

namespace SeekTalent.CandidateStores

open Foundation SourceLanes

/-- `ResumeCandidate`. -/
structure ResumeCandidate where
  resumeId : String
  sourceResumeId : Option String := none
  snapshotSha256 : String := ""
  dedupKey : String
  usedFallbackId : Bool := false
  sourceRound : Option Int := none
  firstQueryInstanceId : Option String := none
  firstQueryFingerprint : Option String := none
  firstRoundNo : Option Int := none
  firstLaneType : Option String := none
  firstLocationKey : Option String := none
  firstLocationType : Option String := none
  firstBatchNo : Option Int := none
  age : Option Int := none
  gender : Option String := none
  nowLocation : Option String := none
  workYear : Option Int := none
  expectedLocation : Option String := none
  expectedJobCategory : Option String := none
  expectedIndustry : Option String := none
  expectedSalary : Option String := none
  activeStatus : Option String := none
  jobState : Option String := none
  educationSummaries : List String := []
  workExperienceSummaries : List String := []
  projectNames : List String := []
  workSummaries : List String := []
  sourceReferences : List SourceReference := []
  searchText : String
  raw : List (String × Json) := []

/-- The fields of a candidate. -/
inductive CandidateField where
  | resumeId | sourceResumeId | snapshotSha256 | dedupKey | usedFallbackId | sourceRound
  | firstQueryInstanceId | firstQueryFingerprint | firstRoundNo | firstLaneType | firstLocationKey
  | firstLocationType | firstBatchNo | age | gender | nowLocation | workYear | expectedLocation
  | expectedJobCategory | expectedIndustry | expectedSalary | activeStatus | jobState
  | educationSummaries | workExperienceSummaries | projectNames | workSummaries | sourceReferences
  | searchText | raw
  deriving DecidableEq

/-- `_EARLIEST_CANDIDATE_FIELDS`. -/
def CandidateField.isEarliest : CandidateField → Bool
  | .sourceRound | .firstQueryInstanceId | .firstQueryFingerprint | .firstRoundNo | .firstLaneType
  | .firstLocationKey | .firstLocationType | .firstBatchNo => true
  | _ => false

/-- A text that may be missing. -/
def textJson : Option String → Json
  | none => .null
  | some value => .str value

/-- A number that may be missing. -/
def numberJson : Option Int → Json
  | none => .null
  | some value => .int value

/-- A list of texts. -/
def textsJson (values : List String) : Json :=
  .arr (values.map Json.str)

namespace ResumeCandidate

/-- A field of `model_dump`, and the source references, which it leaves out. -/
def value (c : ResumeCandidate) : CandidateField → Json
  | .resumeId => .str c.resumeId
  | .sourceResumeId => textJson c.sourceResumeId
  | .snapshotSha256 => .str c.snapshotSha256
  | .dedupKey => .str c.dedupKey
  | .usedFallbackId => .bool c.usedFallbackId
  | .sourceRound => numberJson c.sourceRound
  | .firstQueryInstanceId => textJson c.firstQueryInstanceId
  | .firstQueryFingerprint => textJson c.firstQueryFingerprint
  | .firstRoundNo => numberJson c.firstRoundNo
  | .firstLaneType => textJson c.firstLaneType
  | .firstLocationKey => textJson c.firstLocationKey
  | .firstLocationType => textJson c.firstLocationType
  | .firstBatchNo => numberJson c.firstBatchNo
  | .age => numberJson c.age
  | .gender => textJson c.gender
  | .nowLocation => textJson c.nowLocation
  | .workYear => numberJson c.workYear
  | .expectedLocation => textJson c.expectedLocation
  | .expectedJobCategory => textJson c.expectedJobCategory
  | .expectedIndustry => textJson c.expectedIndustry
  | .expectedSalary => textJson c.expectedSalary
  | .activeStatus => textJson c.activeStatus
  | .jobState => textJson c.jobState
  | .educationSummaries => textsJson c.educationSummaries
  | .workExperienceSummaries => textsJson c.workExperienceSummaries
  | .projectNames => textsJson c.projectNames
  | .workSummaries => textsJson c.workSummaries
  | .sourceReferences => textsJson (c.sourceReferences.map SourceReference.url)
  | .searchText => .str c.searchText
  | .raw => .obj c.raw

/-- There is something in the field, or in a leaf of its mapping. -/
def Filled (c : ResumeCandidate) (field : CandidateField) (path : List String) : Prop :=
  (c.value field).FilledAt path

/-- What is filled in the first candidate is filled in the second. -/
def SaysNoMoreThan (c d : ResumeCandidate) : Prop :=
  ∀ field path, c.Filled field path → d.Filled field path

end ResumeCandidate

/-- `NormalizedResume`: what merging reads, and the rest. -/
structure NormalizedResume where
  resumeId : String
  completenessScore : Int
  scoreEvidenceSource : Option String
  structuredEvidence : Json
  rest : Json

/-- The functions on candidates. -/
structure CandidateRuntime where
  /-- The functions on evidence rows. -/
  evidence : ObservationRuntime
  /-- `normalize_resume`. -/
  normalizeResume : ResumeCandidate → Except LaneError NormalizedResume
  /-- `_stable_payload_hash` of a candidate with its source references. -/
  candidatePayloadHash : ResumeCandidate → String
  /-- `_stable_payload_hash` of the fields that say where a candidate was first seen. -/
  attributionHash : ResumeCandidate → String

/-! ## Ranks -/

/-- `_EVIDENCE_LEVEL_RANK`, by the text of a level. -/
def evidenceLevelRank (level : String) : Nat :=
  if level = "card" then 1 else if level = "detail" then 2 else if level = "final" then 3 else 0

/-- The level of the best of some evidence rows. -/
def bestLevel (evidence : List RuntimeSourceEvidence) : Nat :=
  evidence.foldr (fun row level => max row.evidenceLevel.rank level) 0

/-- The evidence level of a candidate: that of its best evidence row, or what its normalised resume
says. -/
def evidenceLevel (normalized : NormalizedResume) (evidence : List RuntimeSourceEvidence) : Nat :=
  if evidence = [] then evidenceLevelRank (normalized.scoreEvidenceSource.getD "")
  else bestLevel evidence

mutual

/-- `_nonempty_leaf_count`. -/
def nonemptyLeafCount : Json → Nat
  | .obj members => nonemptyLeafCountMembers members
  | .arr items => nonemptyLeafCountItems items
  | .null => 0
  | .str value => if value = "" then 0 else 1
  | _ => 1

/-- `_nonempty_leaf_count` of the values of a mapping. -/
def nonemptyLeafCountMembers : List (String × Json) → Nat
  | [] => 0
  | (_, value) :: rest => nonemptyLeafCount value + nonemptyLeafCountMembers rest

/-- `_nonempty_leaf_count` of the items of a sequence. -/
def nonemptyLeafCountItems : List Json → Nat
  | [] => 0
  | item :: rest => nonemptyLeafCount item + nonemptyLeafCountItems rest

end

variable (rt : CandidateRuntime)

/-- `candidate_observation_rank`. -/
def candidateObservationRank (c : ResumeCandidate) (normalized : NormalizedResume)
    (evidence : List RuntimeSourceEvidence) : Nat ×ₗ Nat ×ₗ Int ×ₗ Nat ×ₗ String ×ₗ String :=
  toLex (evidenceLevel normalized evidence,
    toLex (nonemptyLeafCount normalized.structuredEvidence,
      toLex (normalized.completenessScore,
        toLex ((evidence.flatMap RuntimeSourceEvidence.sourceReferences ++
          c.sourceReferences).dedup.length,
            toLex (evidence.foldr (fun row latest => max row.collectedAt latest) "",
              rt.candidatePayloadHash c)))))

/-- `2**31 - 1`, for a number that is missing. -/
def lastAttribution : Int := 2147483647

/-- `_candidate_attribution_rank`. -/
def candidateAttributionRank (c : ResumeCandidate) :
    Int ×ₗ Int ×ₗ Int ×ₗ String ×ₗ String ×ₗ String :=
  toLex (c.sourceRound.getD lastAttribution,
    toLex (c.firstRoundNo.getD lastAttribution,
      toLex (c.firstBatchNo.getD lastAttribution,
        toLex (if emptyText c.firstQueryInstanceId then "\uffff" else c.firstQueryInstanceId.getD
          "", toLex (c.resumeId, rt.attributionHash c)))))

/-! ## The merge -/

/-- The observation with the fields that say where it was first seen from another one. -/
def ResumeCandidate.attributedBy (c first : ResumeCandidate) : ResumeCandidate :=
  { c with
    sourceRound := first.sourceRound
    firstQueryInstanceId := first.firstQueryInstanceId
    firstQueryFingerprint := first.firstQueryFingerprint
    firstRoundNo := first.firstRoundNo
    firstLaneType := first.firstLaneType
    firstLocationKey := first.firstLocationKey
    firstLocationType := first.firstLocationType
    firstBatchNo := first.firstBatchNo }

/-- `_prefer_richer_value` of two lists. -/
def richerTexts (preferred fallback : List String) : List String :=
  if preferred = [] then fallback else preferred

/-- `_prefer_richer_value` of two mappings. -/
def richerRaw (preferred fallback : List (String × Json)) : List (String × Json) :=
  match (Json.obj preferred).richer (.obj fallback) with
  | .obj members => members
  | _ => []

/-- `_prefer_richer_value` of every field, and the source references of both. -/
def ResumeCandidate.filledUpFrom (c d : ResumeCandidate) : ResumeCandidate where
  resumeId := richerString c.resumeId d.resumeId
  sourceResumeId := richerText c.sourceResumeId d.sourceResumeId
  snapshotSha256 := richerString c.snapshotSha256 d.snapshotSha256
  dedupKey := richerString c.dedupKey d.dedupKey
  usedFallbackId := c.usedFallbackId
  sourceRound := richerNumber c.sourceRound d.sourceRound
  firstQueryInstanceId := richerText c.firstQueryInstanceId d.firstQueryInstanceId
  firstQueryFingerprint := richerText c.firstQueryFingerprint d.firstQueryFingerprint
  firstRoundNo := richerNumber c.firstRoundNo d.firstRoundNo
  firstLaneType := richerText c.firstLaneType d.firstLaneType
  firstLocationKey := richerText c.firstLocationKey d.firstLocationKey
  firstLocationType := richerText c.firstLocationType d.firstLocationType
  firstBatchNo := richerNumber c.firstBatchNo d.firstBatchNo
  age := richerNumber c.age d.age
  gender := richerText c.gender d.gender
  nowLocation := richerText c.nowLocation d.nowLocation
  workYear := richerNumber c.workYear d.workYear
  expectedLocation := richerText c.expectedLocation d.expectedLocation
  expectedJobCategory := richerText c.expectedJobCategory d.expectedJobCategory
  expectedIndustry := richerText c.expectedIndustry d.expectedIndustry
  expectedSalary := richerText c.expectedSalary d.expectedSalary
  activeStatus := richerText c.activeStatus d.activeStatus
  jobState := richerText c.jobState d.jobState
  educationSummaries := richerTexts c.educationSummaries d.educationSummaries
  workExperienceSummaries := richerTexts c.workExperienceSummaries d.workExperienceSummaries
  projectNames := richerTexts c.projectNames d.projectNames
  workSummaries := richerTexts c.workSummaries d.workSummaries
  sourceReferences := mergeSourceReferences c.sourceReferences d.sourceReferences
  searchText := richerString c.searchText d.searchText
  raw := richerRaw c.raw d.raw

/-- The rows of a source and its provider that have a key hash. -/
def providerHashes (evidence : List RuntimeSourceEvidence) (source provider : String) :
    List String :=
  (evidence.filter fun row => row.source = source ∧ row.provider = provider ∧
    row.providerCandidateKeyHash ≠ "").map RuntimeSourceEvidence.providerCandidateKeyHash

/-- The condition of `_validate_provider_identity`: no source and provider with key hashes on both
sides and none in common. -/
def SameProviders (left right : List RuntimeSourceEvidence) : Prop :=
  ∀ row ∈ left ++ right, providerHashes left row.source row.provider ≠ [] →
    providerHashes right row.source row.provider ≠ [] →
      ∃ hash ∈ providerHashes left row.source row.provider,
        hash ∈ providerHashes right row.source row.provider

instance (left right : List RuntimeSourceEvidence) : Decidable (SameProviders left right) := by
  unfold SameProviders
  infer_instance

/-- The better of two observations, filled up from the other. -/
def mergedCandidate (left right : ResumeCandidate) (leftWins leftEarlier : Bool) :
    ResumeCandidate :=
  let earliest := if leftEarlier then left else right
  let later := if leftEarlier then right else left
  if leftWins then (left.attributedBy earliest).filledUpFrom (right.attributedBy later)
  else (right.attributedBy earliest).filledUpFrom (left.attributedBy later)

/-- `left_rank >= right_rank`. -/
def leftWins (left right : ResumeCandidate) (leftNormalized rightNormalized : NormalizedResume)
    (leftEvidence rightEvidence : List RuntimeSourceEvidence) : Bool :=
  decide (candidateObservationRank rt right rightNormalized rightEvidence ≤
    candidateObservationRank rt left leftNormalized leftEvidence)

/-- `merge_resume_candidate_observations`. -/
def mergeResumeCandidateObservations (left right : ResumeCandidate)
    (leftEvidence rightEvidence : List RuntimeSourceEvidence) :
    Except LaneError (ResumeCandidate × NormalizedResume) := do
  require (left.resumeId = right.resumeId) (.valueError "candidate_observation_resume_id_mismatch")
  require (SameProviders leftEvidence rightEvidence)
    (.valueError "candidate_observation_provider_mismatch")
  let leftNormalized ← rt.normalizeResume left
  let rightNormalized ← rt.normalizeResume right
  let merged := mergedCandidate left right
    (leftWins rt left right leftNormalized rightNormalized leftEvidence rightEvidence)
    (decide (candidateAttributionRank rt left ≤ candidateAttributionRank rt right))
  let normalized ← rt.normalizeResume merged
  .ok (merged, normalized)

/-! ## What a merge keeps -/

lemma textJson_richerText (preferred fallback : Option String) :
    textJson (richerText preferred fallback) = (textJson preferred).richer (textJson fallback) := by
  cases preferred with
  | none =>
    cases fallback with
    | none => rfl
    | some other =>
      by_cases h : other = "" <;>
        simp [richerText, emptyText, truthyText, textJson, Json.richer, Json.isEmpty, h]
  | some value =>
    cases fallback with
    | none => simp [richerText, emptyText, truthyText, textJson, Json.richer, Json.isEmpty]
    | some other =>
      by_cases hvalue : value = "" <;> by_cases hother : other = "" <;>
        simp [richerText, emptyText, truthyText, textJson, Json.richer, Json.isEmpty, hvalue,
          hother]

lemma str_richerString (preferred fallback : String) :
    Json.str (richerString preferred fallback) = (Json.str preferred).richer (.str fallback) := by
  by_cases hpreferred : preferred = "" <;> by_cases hfallback : fallback = "" <;>
    simp [richerString, Json.richer, Json.isEmpty, hpreferred, hfallback]

lemma numberJson_richerNumber (preferred fallback : Option Int) :
    numberJson (richerNumber preferred fallback) = (numberJson preferred).richer
      (numberJson fallback) := by
  cases preferred <;> cases fallback <;> rfl

lemma textsJson_richerTexts (preferred fallback : List String) :
    textsJson (richerTexts preferred fallback) = (textsJson preferred).richer
      (textsJson fallback) := by
  cases preferred <;> cases fallback <;> simp [richerTexts, textsJson, Json.richer, Json.isEmpty]

lemma obj_richerRaw (preferred fallback : List (String × Json)) :
    Json.obj (richerRaw preferred fallback) = (Json.obj preferred).richer (.obj fallback) := rfl

namespace ResumeCandidate

variable {field : CandidateField}

/-- Every field but the source references is the richer of the two. -/
lemma value_filledUpFrom (c d : ResumeCandidate) (h : field ≠ .sourceReferences) :
    (c.filledUpFrom d).value field = (c.value field).richer (d.value field) := by
  cases field with
  | sourceReferences => exact absurd rfl h
  | resumeId => exact str_richerString _ _
  | snapshotSha256 => exact str_richerString _ _
  | dedupKey => exact str_richerString _ _
  | searchText => exact str_richerString _ _
  | usedFallbackId => rfl
  | raw => exact obj_richerRaw _ _
  | sourceRound => exact numberJson_richerNumber _ _
  | firstRoundNo => exact numberJson_richerNumber _ _
  | firstBatchNo => exact numberJson_richerNumber _ _
  | age => exact numberJson_richerNumber _ _
  | workYear => exact numberJson_richerNumber _ _
  | educationSummaries => exact textsJson_richerTexts _ _
  | workExperienceSummaries => exact textsJson_richerTexts _ _
  | projectNames => exact textsJson_richerTexts _ _
  | workSummaries => exact textsJson_richerTexts _ _
  | _ => exact textJson_richerText _ _

/-- Where it was first seen, and nothing else, is that of the other observation. -/
lemma value_attributedBy (c first : ResumeCandidate) (field : CandidateField) :
    (c.attributedBy first).value field =
      if field.isEarliest then first.value field else c.value field := by
  cases field <;> rfl

/-- Only `raw` is a mapping. -/
lemma value_ne_obj (c : ResumeCandidate) (h : field ≠ .raw)
    (members : List (String × Json)) : c.value field ≠ .obj members := by
  have htext : ∀ text : Option String, textJson text ≠ .obj members := by
    intro text
    cases text <;> exact fun heq => (nomatch heq)
  have hnumber : ∀ number : Option Int, numberJson number ≠ .obj members := by
    intro number
    cases number <;> exact fun heq => (nomatch heq)
  cases field with
  | raw => exact absurd rfl h
  | sourceRound => exact hnumber _
  | firstRoundNo => exact hnumber _
  | firstBatchNo => exact hnumber _
  | age => exact hnumber _
  | workYear => exact hnumber _
  | resumeId => exact fun heq => (nomatch heq)
  | snapshotSha256 => exact fun heq => (nomatch heq)
  | dedupKey => exact fun heq => (nomatch heq)
  | searchText => exact fun heq => (nomatch heq)
  | usedFallbackId => exact fun heq => (nomatch heq)
  | sourceReferences => exact fun heq => (nomatch heq)
  | educationSummaries => exact fun heq => (nomatch heq)
  | workExperienceSummaries => exact fun heq => (nomatch heq)
  | projectNames => exact fun heq => (nomatch heq)
  | workSummaries => exact fun heq => (nomatch heq)
  | _ => exact htext _

/-- A field that is no mapping hides nothing of another such field. -/
lemma hides_value {c d : ResumeCandidate} (h : field ≠ .raw)
    {path : List String} (hfilled : c.Filled field path) : (d.value field).hides path = false := by
  cases path with
  | nil =>
    cases hvalue : d.value field with
    | obj members => exact absurd hvalue (d.value_ne_obj h members)
    | _ => rfl
  | cons key path =>
    obtain ⟨members, -, heq, -⟩ := Json.filledAt_cons.mp hfilled
    exact absurd heq (c.value_ne_obj h members)

/-- But for `raw` and the references, what is filled in either candidate is filled in the one that
is filled up from the other, and nothing else is. -/
lemma filled_filledUpFrom_iff {c d : ResumeCandidate} {path : List String}
    (hreferences : field ≠ .sourceReferences) (hraw : field ≠ .raw) :
    (c.filledUpFrom d).Filled field path ↔ c.Filled field path ∨ d.Filled field path := by
  rw [Filled, value_filledUpFrom c d hreferences, Json.filledAt_richer]
  exact or_congr_right (and_iff_left_of_imp fun h => hides_value hraw h)

/-- The field of source references is filled when there are some. -/
lemma filled_sourceReferences {c : ResumeCandidate} {path : List String} :
    c.Filled .sourceReferences path ↔ path = [] ∧ c.sourceReferences ≠ [] := by
  cases path with
  | nil =>
    rw [Filled, Json.filledAt_nil]
    simp [value, textsJson, Json.isFilled, Json.isEmpty]
  | cons key path =>
    rw [Filled, Json.filledAt_cons]
    simp [value, textsJson]

end ResumeCandidate

/-- There is a reference among the merged ones if there is one on either side. -/
lemma mergeSourceReferences_ne_nil_iff {left right : List SourceReference} :
    mergeSourceReferences left right ≠ [] ↔ left ≠ [] ∨ right ≠ [] := by
  have hmem : ∀ reference, reference ∈ mergeSourceReferences left right ↔
      reference ∈ left ++ right := by
    intro reference
    rw [mergeSourceReferences, List.mem_insertionSort, List.mem_dedup]
  constructor
  · intro h
    obtain ⟨reference, hreference⟩ := List.exists_mem_of_ne_nil _ h
    exact (List.mem_append.mp ((hmem reference).mp hreference)).imp List.ne_nil_of_mem
      List.ne_nil_of_mem
  · intro h
    have hne : left ++ right ≠ [] := by
      obtain h | h := h <;> simp [h]
    obtain ⟨reference, hreference⟩ := List.exists_mem_of_ne_nil _ hne
    exact List.ne_nil_of_mem ((hmem reference).mpr hreference)

/-- Outside of `raw`, a merge has what either observation has, and nothing else. -/
theorem filled_mergedCandidate_iff {left right : ResumeCandidate} {wins earlier : Bool}
    {field : CandidateField} (hraw : field ≠ .raw) (path : List String) :
    (mergedCandidate left right wins earlier).Filled field path ↔
      left.Filled field path ∨ right.Filled field path := by
  by_cases hreferences : field = .sourceReferences
  · subst hreferences
    have hmerged : ∀ c d : ResumeCandidate, (c.filledUpFrom d).Filled .sourceReferences path ↔
        c.Filled .sourceReferences path ∨ d.Filled .sourceReferences path := by
      intro c d
      simp only [ResumeCandidate.filled_sourceReferences, ResumeCandidate.filledUpFrom,
        mergeSourceReferences_ne_nil_iff, and_or_left]
    unfold mergedCandidate
    cases wins <;> cases earlier <;> exact (hmerged _ _).trans
      (by first | exact Iff.rfl | exact or_comm)
  · -- Where it was first seen is that of the earlier observation, filled up from the other one.
    have hattributed : ∀ c first : ResumeCandidate, (c.attributedBy first).Filled field path ↔
        if field.isEarliest then first.Filled field path else c.Filled field path := by
      intro c first
      rw [ResumeCandidate.Filled, ResumeCandidate.value_attributedBy]
      split <;> rfl
    unfold mergedCandidate
    cases wins <;> cases earlier <;>
      simp only [if_true, Bool.false_eq_true, if_false,
        ResumeCandidate.filled_filledUpFrom_iff hreferences hraw, hattributed] <;>
      split <;> first | exact Iff.rfl | exact or_comm

/-- The `raw` of a merge is that of the better observation, filled up from the other one. -/
lemma value_raw_mergedCandidate (left right : ResumeCandidate) (wins earlier : Bool) :
    (mergedCandidate left right wins earlier).value .raw =
      if wins then (left.value .raw).richer (right.value .raw)
      else (right.value .raw).richer (left.value .raw) := by
  cases wins <;> cases earlier <;> rfl

end SeekTalent.CandidateStores
