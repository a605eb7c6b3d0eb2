import Mathlib.Data.List.MinMax
import SeekTalent.CandidateStores.StoreCoherence
import SeekTalent.ResumeVersions.TimelineConsistency

/-!
# The canonical resume of an identity

`choose_canonical_resume_for_identity` of `seektalent/runtime/source_lanes.py`.  The best of the
freshest versions is selected, and the other ones join it in the order of their ranks: a version is
equivalent if it agrees with all that are so far, conflicting if it contradicts one of them, and
incomparable otherwise.  Whether two versions agree has three answers and is not transitive, so the
order matters, and it is that of the ranks.
-/

namespace SeekTalent.ResumeVersions

open Foundation SourceLanes CandidateStores

/-! ## Resumes and their ranks -/

/-- A value in the dump of a resume. -/
def StructuredEvidenceValue.dump : StructuredEvidenceValue → Json
  | .text value => .str value
  | .number value => .int value

/-- The dump of some values. -/
def valuesDump (values : List (String × StructuredEvidenceValue)) : Json :=
  .obj (values.map fun entry => (entry.1, entry.2.dump))

/-- The dump of an item. -/
def StructuredResumeTimelineItem.dump (item : StructuredResumeTimelineItem) : Json :=
  .obj [("company", .str item.company), ("title", .str item.title), ("name", .str item.name),
    ("school", .str item.school), ("major", .str item.major), ("degree", .str item.degree),
    ("duration", .str item.duration), ("summary", .str item.summary)]

/-- `model_dump(mode="python")`. -/
def StructuredResumeEvidence.dump (structured : StructuredResumeEvidence) : Json :=
  .obj [("identity", valuesDump structured.identity),
    ("current_role", valuesDump structured.currentRole), ("status", valuesDump structured.status),
    ("job_intention", valuesDump structured.jobIntention),
    ("work_experience", .arr (structured.workExperience.map StructuredResumeTimelineItem.dump)),
    ("project_experience",
      .arr (structured.projectExperience.map StructuredResumeTimelineItem.dump)),
    ("education_experience",
      .arr (structured.educationExperience.map StructuredResumeTimelineItem.dump)),
    ("skills", textsJson structured.skills),
    ("source_metadata", valuesDump structured.sourceMetadata)]

/-- `NormalizedResume`: what ranks and versions read of it. -/
structure NormalizedResume where
  resumeId : String
  completenessScore : Int
  scoreEvidenceSource : Option String
  structuredEvidence : StructuredResumeEvidence
  deriving DecidableEq, Repr

/-- The resume that is ranked. -/
def NormalizedResume.ranked (normalized : NormalizedResume) : CandidateStores.NormalizedResume where
  resumeId := normalized.resumeId
  completenessScore := normalized.completenessScore
  scoreEvidenceSource := normalized.scoreEvidenceSource
  structuredEvidence := normalized.structuredEvidence.dump
  rest := .null

/-- `RuntimeCanonicalResumeSelection`. -/
structure RuntimeCanonicalResumeSelection where
  identityId : String
  canonicalResumeId : String
  equivalentLatestResumeIds : List String := []
  displaySourceEvidenceIds : List String := []
  conflictingResumeIds : List String := []
  incomparableResumeIds : List String := []
  contentVersionKey : String := ""
  selectedEvidenceId : Option String := none
  selectedAt : Option String := none
  safeReasonCodes : List String := []
  deriving DecidableEq, Repr

/-- `rank[:4]`. -/
def firstFourPlaces (rank : Nat ×ₗ Nat ×ₗ Int ×ₗ Nat ×ₗ String ×ₗ String) :
    Nat ×ₗ Nat ×ₗ Int ×ₗ Nat :=
  let (level, leaves, completeness, references, _) := rank
  toLex (level, toLex (leaves, toLex (completeness, references)))

/-- A rank of a version. -/
abbrev VersionRank := (Nat ×ₗ Nat ×ₗ Int ×ₗ Nat) ×ₗ String ×ₗ String

/-- The order of the ranks is the linear one, whatever other orders of the integers are known. -/
instance : Preorder VersionRank := (inferInstance : LinearOrder VersionRank).toPreorder

/-- `evidence_by_resume_id.get(resume_id, [])`. -/
def evidenceOfResume (evidence : List RuntimeSourceEvidence) (resumeId : String) :
    List RuntimeSourceEvidence :=
  evidence.filter fun item => item.candidateResumeId = resumeId

section Selection

variable (rt : VersionRuntime) (ct : CandidateRuntime)

/-- `canonical_rank`. -/
def canonicalRank (candidates : Dict String CandidateStores.ResumeCandidate)
    (normalizedStore : Dict String NormalizedResume) (evidence : List RuntimeSourceEvidence)
    (version : ResumeContentVersion) : VersionRank :=
  let observationRank :=
    match candidates.lookup version.resumeId, normalizedStore.lookup version.resumeId with
    | some candidate, some normalized =>
      firstFourPlaces (candidateObservationRank ct candidate normalized.ranked
        (evidenceOfResume evidence version.resumeId))
    | _, _ => toLex (0, toLex (0, toLex (0, 0)))
  toLex (observationRank, toLex (version.contentKey, version.resumeId))

/-- The version of a resume that may be in the store. -/
def storedVersion (normalizedStore : Dict String NormalizedResume) (resumeId : String) :
    ResumeContentVersion :=
  resumeContentVersion rt resumeId
    ((normalizedStore.lookup resumeId).map NormalizedResume.structuredEvidence)

/-- The latest of some versions, or all if none has a date, and the reason codes. -/
def latestVersions (versions : List ResumeContentVersion) :
    List ResumeContentVersion × List String :=
  match (versions.filterMap ResumeContentVersion.freshness).max? with
  | some latest =>
    (versions.filter fun version => version.freshness = some latest,
      if ∃ version ∈ versions,
        version.freshness ≠ some latest then ["structured_work_newer"] else [])
  | none => (versions, ["content_freshness_unknown"])

/-! ## The loop -/

/-- What the loop has found. -/
structure VersionGroups where
  equivalentVersions : List ResumeContentVersion
  conflictingIds : List String
  incomparableIds : List String
  hasConflict : Bool
  hasIncomparable : Bool

/-- `equivalent_ids`. -/
def VersionGroups.equivalentIds (groups : VersionGroups) : List String :=
  groups.equivalentVersions.map ResumeContentVersion.resumeId

/-- One more version. -/
def VersionGroups.place (dated : Bool) (groups : VersionGroups) (version : ResumeContentVersion) :
    VersionGroups :=
  if dated ∧ ∀ existing ∈ groups.equivalentVersions,
    materiallyConsistent existing version = some true then
    { groups with equivalentVersions := groups.equivalentVersions ++ [version] }
  else if dated ∧ ∃ existing ∈ groups.equivalentVersions,
    materiallyConsistent existing version = some false then
    { groups with
      conflictingIds := groups.conflictingIds ++ [version.resumeId]
      hasConflict := true }
  else
    { groups with
      incomparableIds := groups.incomparableIds ++ [version.resumeId]
      hasIncomparable := true }

/-- The versions that have no date, if others have. -/
def undatedIds (versions : List ResumeContentVersion) : List String :=
  if versions.any fun version => version.freshness.isSome then
    (versions.filter fun version => version.freshness = none).map ResumeContentVersion.resumeId
  else []

/-- The loop, with the better versions first. -/
def groupVersions (rank : ResumeContentVersion → VersionRank) (selected : ResumeContentVersion)
    (undated : List String) (latest : List ResumeContentVersion) : VersionGroups :=
  ((latest.insertionSort fun version other => rank other ≤ rank version).filter
    fun version => version.resumeId ≠ selected.resumeId).foldl
    (VersionGroups.place selected.freshness.isSome)
    { equivalentVersions := [selected]
      conflictingIds := []
      incomparableIds := undated
      hasConflict := false
      hasIncomparable := undated ≠ [] }

/-- The rank of an evidence row for being shown. -/
def selectedEvidenceRank (item : RuntimeSourceEvidence) : Nat ×ₗ Nat ×ₗ String ×ₗ String :=
  toLex (item.evidenceLevel.rank,
    toLex (item.sourceReferences.length, toLex (item.collectedAt, item.evidenceId)))

/-- `choose_canonical_resume_for_identity`; there is nothing to choose from no resume at all. -/
def chooseCanonicalResumeForIdentity (identityId : String) (resumeIds : List String)
    (candidates : Dict String CandidateStores.ResumeCandidate)
    (normalizedStore : Dict String NormalizedResume)
    (evidence : List RuntimeSourceEvidence) : Option RuntimeCanonicalResumeSelection :=
  let versions := resumeIds.dedup.map (storedVersion rt normalizedStore)
  let rank := canonicalRank ct candidates normalizedStore evidence
  let (latest, reasonCodes) := latestVersions versions
  (latest.argmax rank).map fun selected =>
    let groups := groupVersions rank selected (undatedIds versions) latest
    let equivalentIds := sortedTexts groups.equivalentIds
    let conflictingIds := sortedTexts (groups.conflictingIds.filter (· ∉ equivalentIds))
    let incomparableIds := sortedTexts
      ((groups.incomparableIds.filter (· ∉ equivalentIds)).filter (· ∉ conflictingIds))
    let selectedEvidence :=
      (evidenceOfResume evidence selected.resumeId).argmax selectedEvidenceRank
    { identityId
      canonicalResumeId := selected.resumeId
      equivalentLatestResumeIds := equivalentIds
      displaySourceEvidenceIds := ((equivalentIds.flatMap (evidenceOfResume evidence)).map
        RuntimeSourceEvidence.evidenceId).insertionSort (· ≤ ·)
      conflictingResumeIds := conflictingIds
      incomparableResumeIds := incomparableIds
      contentVersionKey := selected.contentKey
      selectedEvidenceId := selectedEvidence.map RuntimeSourceEvidence.evidenceId
      selectedAt := selectedEvidence.map RuntimeSourceEvidence.collectedAt
      safeReasonCodes := reasonCodes ++
        (if 1 < equivalentIds.length then ["equivalent_latest_content"] else []) ++
        (if groups.hasConflict then ["resume_version_conflict"] else []) ++
        (if groups.hasIncomparable then ["resume_version_incomparable"] else []) }

end Selection

/-! ## Sorting and choosing -/

section Orders

variable {α β γ : Type*} [LinearOrder β]

/-- The best element does not depend on the order, as far as ties agree. -/
lemma argmax_map_eq_of_perm {f : α → β} {g : α → γ} {l l' : List α} (hperm : l.Perm l')
    (hties : ∀ a ∈ l, ∀ b ∈ l, f a = f b → g a = g b) :
    (l.argmax f).map g = (l'.argmax f).map g := by
  cases hbest : l.argmax f with
  | none =>
    have hnil : l' = [] := by
      rw [List.argmax_eq_none.mp hbest] at hperm
      exact hperm.symm.eq_nil
    rw [hnil]
    rfl
  | some a =>
    cases hbest' : l'.argmax f with
    | none =>
      rw [List.argmax_eq_none.mp hbest'] at hperm
      rw [hperm.eq_nil] at hbest
      cases hbest
    | some b =>
      have ha : a ∈ l := List.argmax_mem hbest
      have hb : b ∈ l := hperm.symm.subset (List.argmax_mem hbest')
      have hab : f a = f b :=
        le_antisymm (List.le_of_mem_argmax (hperm.subset ha) hbest')
          (List.le_of_mem_argmax hb hbest)
      exact congrArg some (hties a ha b hb hab)

/-- The greatest element does not depend on the order. -/
lemma max?_eq_of_perm {l l' : List β} (hperm : l.Perm l') : l.max? = l'.max? := by
  cases hmax : l.max? with
  | none =>
    rw [List.max?_eq_none_iff.mp hmax] at hperm
    rw [hperm.symm.eq_nil]
    rfl
  | some m =>
    obtain ⟨hmem, hle⟩ := List.max?_eq_some_iff.mp hmax
    exact (List.max?_eq_some_iff.mpr
      ⟨hperm.subset hmem, fun a ha => hle a (hperm.symm.subset ha)⟩).symm

/-- Sorting by a rank does not depend on the order, if no two elements have the same rank. -/
lemma insertionSort_eq_of_perm {f : α → β} {l l' : List α} (hperm : l.Perm l')
    (hranks : ∀ a ∈ l, ∀ b ∈ l, f a = f b → a = b) :
    l.insertionSort (fun a b => f b ≤ f a) = l'.insertionSort fun a b => f b ≤ f a := by
  have : Std.Total fun a b : α => f b ≤ f a := ⟨fun a b => le_total (f b) (f a)⟩
  have : IsTrans α fun a b => f b ≤ f a := ⟨fun _ _ _ hab hbc => hbc.trans hab⟩
  have hsorted := List.pairwise_insertionSort (fun a b => f b ≤ f a) l
  have hsorted' := List.pairwise_insertionSort (fun a b => f b ≤ f a) l'
  refine List.Perm.eq_of_pairwise (fun a b ha hb hab hba => ?_) hsorted hsorted' ?_
  · have ha' : a ∈ l := (List.mem_insertionSort _).mp ha
    have hb' : b ∈ l := hperm.symm.subset ((List.mem_insertionSort _).mp hb)
    exact hranks a ha' b hb' (le_antisymm hba hab)
  · exact (List.perm_insertionSort _ l).trans (hperm.trans (List.perm_insertionSort _ l').symm)

/-- The rows of some keys, key by key or at once. -/
lemma flatMap_filter_perm {κ : Type*} [DecidableEq κ] (key : α → κ) {keys : List κ}
    (hkeys : keys.Nodup) (rows : List α) :
    (keys.flatMap fun k => rows.filter fun row => key row = k).Perm
    (rows.filter fun row => key row ∈ keys) := by
  induction keys with
  | nil => simp
  | cons k rest ih =>
    obtain ⟨hk, hrest⟩ := List.nodup_cons.mp hkeys
    have hsplit : (rows.filter fun row => key row ∈ k :: rest).Perm
        ((rows.filter fun row => key row = k) ++ rows.filter fun row => key row ∈ rest) := by
      clear ih
      induction rows with
      | nil => simp
      | cons row rows ih =>
        by_cases hrow : key row = k
        · have hnot : key row ∉ rest := by
            rw [hrow]
            exact hk
          simpa [hrow, hk] using ih
        · by_cases hmem : key row ∈ rest
          · simpa [hrow, hmem] using (ih.cons row).trans List.perm_middle.symm
          · simpa [hrow, hmem] using ih
    rw [List.flatMap_cons]
    exact ((ih hrest).append_left _).trans hsplit.symm

end Orders

/-! ## What the loop finds -/

/-- The versions that were looked at are in one of the three groups: the equivalent ones agree
pairwise, and a conflicting one contradicts an equivalent one. -/
structure Grouped (selected : ResumeContentVersion) (undated : List String)
    (seen : List ResumeContentVersion) (groups : VersionGroups) : Prop where
  partition : (groups.equivalentIds ++ groups.conflictingIds ++ groups.incomparableIds).Perm
    (undated ++ selected.resumeId :: seen.map ResumeContentVersion.resumeId)
  selected_mem : selected ∈ groups.equivalentVersions
  equivalent : ∀ version ∈ groups.equivalentVersions, version = selected ∨ version ∈ seen
  pairwise : groups.equivalentVersions.Pairwise fun version other =>
    materiallyConsistent version other = some true
  conflicting : ∀ resumeId ∈ groups.conflictingIds, ∃ other ∈ seen, other.resumeId = resumeId ∧
    ∃ version ∈ groups.equivalentVersions, materiallyConsistent version other = some false

variable {groups : VersionGroups}

/-- One more version. -/
lemma Grouped.place {selected : ResumeContentVersion} {undated : List String}
    {seen : List ResumeContentVersion}
    (h : Grouped selected undated seen groups) (dated : Bool) (version : ResumeContentVersion) :
    Grouped selected undated (seen ++ [version]) (groups.place dated version) := by
  have hpartition : ∀ ids : List String,
      ids.Perm (groups.equivalentIds ++ groups.conflictingIds ++ groups.incomparableIds ++
        [version.resumeId]) → ids.Perm (undated ++ selected.resumeId ::
          (seen ++ [version]).map ResumeContentVersion.resumeId) := by
    intro ids hids
    refine hids.trans ((h.partition.append_right [version.resumeId]).trans (List.Perm.of_eq ?_))
    rw [List.append_assoc, List.cons_append, List.map_append]
    rfl
  have hequivalent : ∀ other ∈ groups.equivalentVersions, other = selected ∨
      other ∈ seen ++ [version] :=
    fun other hother => (h.equivalent other hother).imp_right (List.mem_append_left _)
  have hconflicting : ∀ resumeId ∈ groups.conflictingIds, ∃ other ∈ seen ++ [version],
    other.resumeId = resumeId ∧
      ∃ version ∈ groups.equivalentVersions, materiallyConsistent version other = some false := by
    intro resumeId hid
    obtain ⟨other, hother, hfound⟩ := h.conflicting resumeId hid
    exact ⟨other, List.mem_append_left _ hother, hfound⟩
  unfold VersionGroups.place
  by_cases hagrees : dated = true ∧
      ∀ existing ∈ groups.equivalentVersions, materiallyConsistent existing version = some true
  · rw [if_pos hagrees]
    refine ⟨hpartition _ ?_, List.mem_append_left _ h.selected_mem, ?_, ?_, ?_⟩
    · rw [VersionGroups.equivalentIds, List.map_append, List.append_assoc, List.append_assoc,
        List.append_assoc, List.append_assoc]
      exact List.Perm.append_left _ (by
        rw [← List.append_assoc groups.conflictingIds]
        exact List.perm_append_comm)
    · intro other hother
      obtain hold | hnew := List.mem_append.mp hother
      · exact hequivalent other hold
      · exact .inr (List.mem_append_right _ hnew)
    · refine List.pairwise_append.mpr
        ⟨h.pairwise, List.pairwise_singleton _ _, fun other hother new hnew => ?_⟩
      rw [List.mem_singleton.mp hnew]
      exact hagrees.2 other hother
    · intro resumeId hid
      obtain ⟨other, hother, hname, existing, hexisting, hfalse⟩ := hconflicting resumeId hid
      exact ⟨other, hother, hname, existing, List.mem_append_left _ hexisting, hfalse⟩
  · rw [if_neg hagrees]
    by_cases hcontradicts : dated = true ∧
        ∃ existing ∈ groups.equivalentVersions, materiallyConsistent existing version = some false
    · rw [if_pos hcontradicts]
      refine ⟨hpartition _ ?_, h.selected_mem, hequivalent, h.pairwise, ?_⟩
      · rw [List.append_assoc, List.append_assoc, List.append_assoc, List.append_assoc]
        exact List.Perm.append_left _ (List.Perm.append_left _ List.perm_append_comm)
      · intro resumeId hid
        obtain hold | hnew := List.mem_append.mp hid
        · exact hconflicting resumeId hold
        · rw [List.mem_singleton.mp hnew]
          exact ⟨version, List.mem_append_right _ (List.mem_singleton.mpr rfl), rfl, hcontradicts.2⟩
    · rw [if_neg hcontradicts]
      refine ⟨hpartition _ (List.Perm.of_eq ?_), h.selected_mem, hequivalent, h.pairwise,
        hconflicting⟩
      exact (List.append_assoc _ _ _).symm

/-- The whole loop. -/
lemma Grouped.foldl {selected : ResumeContentVersion} {undated : List String}
    {seen : List ResumeContentVersion}
    (h : Grouped selected undated seen groups) (dated : Bool)
    (versions : List ResumeContentVersion) :
    Grouped selected undated (seen ++ versions)
      (versions.foldl (VersionGroups.place dated) groups) := by
  induction versions generalizing seen groups with
  | nil => simpa using h
  | cons version rest ih =>
    have hrest := ih (h.place dated version)
    rw [List.append_assoc] at hrest
    exact hrest

/-- The versions that the loop looks at. -/
def comparedVersions (rank : ResumeContentVersion → VersionRank) (selected : ResumeContentVersion)
    (latest : List ResumeContentVersion) : List ResumeContentVersion :=
  (latest.insertionSort fun version other => rank other ≤ rank version).filter
    fun version => version.resumeId ≠ selected.resumeId

/-- The groups after the loop. -/
lemma grouped_groupVersions (rank : ResumeContentVersion → VersionRank)
    (selected : ResumeContentVersion) (undated : List String) (latest : List ResumeContentVersion) :
    Grouped selected undated (comparedVersions rank selected latest)
      (groupVersions rank selected undated latest) := by
  have hstart : Grouped selected undated []
      { equivalentVersions := [selected]
        conflictingIds := []
        incomparableIds := undated
        hasConflict := false
        hasIncomparable := undated ≠ [] } := by
    refine ⟨?_, List.mem_singleton.mpr rfl, fun version hversion =>
      .inl (List.mem_singleton.mp hversion), List.pairwise_singleton _ _, fun resumeId hid =>
        absurd hid List.not_mem_nil⟩
    exact List.perm_append_comm
  exact hstart.foldl _ _

/-- Two outcomes of the loop that differ in the order of the incomparable versions. -/
structure VersionGroups.Same (groups groups' : VersionGroups) : Prop where
  versions : groups.equivalentVersions = groups'.equivalentVersions
  conflicting : groups.conflictingIds = groups'.conflictingIds
  incomparable : groups.incomparableIds.Perm groups'.incomparableIds
  hasConflict : groups.hasConflict = groups'.hasConflict
  hasIncomparable : groups.hasIncomparable = groups'.hasIncomparable

/-- The loop does not read the incomparable versions. -/
lemma VersionGroups.Same.foldl {groups' : VersionGroups} (h : groups.Same groups')
    (dated : Bool) (versions : List ResumeContentVersion) :
    (versions.foldl (VersionGroups.place dated) groups).Same
    (versions.foldl (VersionGroups.place dated) groups') := by
  induction versions generalizing groups groups' with
  | nil => exact h
  | cons version rest ih =>
    refine ih ?_
    unfold VersionGroups.place
    rw [← h.versions]
    split
    · exact ⟨rfl, h.conflicting, h.incomparable, h.hasConflict, h.hasIncomparable⟩
    · split
      · exact ⟨rfl, congrArg (· ++ [version.resumeId]) h.conflicting, h.incomparable, rfl,
          h.hasIncomparable⟩
      · exact ⟨rfl, h.conflicting, h.incomparable.append_right _, h.hasConflict, rfl⟩

/-! ## The selection -/

/-- What the selection is made from. -/
structure SelectionInput where
  resumeIds : List String
  candidates : Dict String CandidateStores.ResumeCandidate
  normalizedStore : Dict String NormalizedResume
  evidence : List RuntimeSourceEvidence

namespace SelectionInput

variable (rt : VersionRuntime) (ct : CandidateRuntime) (input : SelectionInput)

/-- The version of a resume. -/
def version (resumeId : String) : ResumeContentVersion :=
  storedVersion rt input.normalizedStore resumeId

/-- The rank of a resume. -/
def rank (resumeId : String) : VersionRank :=
  canonicalRank ct input.candidates input.normalizedStore input.evidence (input.version rt resumeId)

/-- The selection. -/
def choose (identityId : String) : Option RuntimeCanonicalResumeSelection :=
  chooseCanonicalResumeForIdentity rt ct identityId input.resumeIds input.candidates
    input.normalizedStore input.evidence

/-- The same resumes, stores and evidence rows in another order. -/
structure Reordered (input input' : SelectionInput) : Prop where
  resumeIds : ∀ resumeId, resumeId ∈ input.resumeIds ↔ resumeId ∈ input'.resumeIds
  candidates : ∀ resumeId, input.candidates.lookup resumeId = input'.candidates.lookup resumeId
  normalizedStore : ∀ resumeId,
    input.normalizedStore.lookup resumeId = input'.normalizedStore.lookup resumeId
  evidence : input.evidence.Perm input'.evidence

/-- What a selection says about the resumes of an identity. -/
structure IsSelection (selection : RuntimeCanonicalResumeSelection) : Prop where
  selected_mem : selection.canonicalResumeId ∈ input.resumeIds
  freshest : ∀ r ∈ input.resumeIds, ∀ freshness, (input.version rt r).freshness = some freshness →
    ∃ latest, (input.version rt selection.canonicalResumeId).freshness = some latest ∧
      freshness ≤ latest
  best : ∀ r ∈ input.resumeIds,
    (input.version rt r).freshness = (input.version rt selection.canonicalResumeId).freshness →
      input.rank rt ct r ≤ input.rank rt ct selection.canonicalResumeId
  subset : ∀ r, r ∈ selection.equivalentLatestResumeIds ∨ r ∈ selection.conflictingResumeIds ∨
    r ∈ selection.incomparableResumeIds → r ∈ input.resumeIds
  disjoint : selection.equivalentLatestResumeIds.Disjoint selection.conflictingResumeIds ∧
    selection.equivalentLatestResumeIds.Disjoint selection.incomparableResumeIds ∧
    selection.conflictingResumeIds.Disjoint selection.incomparableResumeIds
  equivalent_selected : selection.canonicalResumeId ∈ selection.equivalentLatestResumeIds
  equivalent_pairwise : ∀ r ∈ selection.equivalentLatestResumeIds,
    ∀ s ∈ selection.equivalentLatestResumeIds, r ≠ s →
    materiallyConsistent (input.version rt r) (input.version rt s) = some true
  conflicting : ∀ r ∈ selection.conflictingResumeIds, ∃ s ∈ selection.equivalentLatestResumeIds,
    materiallyConsistent (input.version rt s) (input.version rt r) = some false
  latest_covered : ∀ r ∈ input.resumeIds,
    (input.version rt r).freshness = (input.version rt selection.canonicalResumeId).freshness →
      r ∈ selection.equivalentLatestResumeIds ∨ r ∈ selection.conflictingResumeIds ∨
        r ∈ selection.incomparableResumeIds
  undated_covered : ∀ r ∈ input.resumeIds, (input.version rt r).freshness = none →
    (∃ s ∈ input.resumeIds, (input.version rt s).freshness ≠ none) →
      r ∈ selection.equivalentLatestResumeIds ∨ r ∈ selection.conflictingResumeIds ∨
        r ∈ selection.incomparableResumeIds
  display : selection.displaySourceEvidenceIds.Perm
    ((input.evidence.filter fun item =>
      item.candidateResumeId ∈ selection.equivalentLatestResumeIds).map
      RuntimeSourceEvidence.evidenceId)

end SelectionInput

/-- The latest versions are those that no version with a date is fresher than. -/
lemma mem_latestVersions {versions : List ResumeContentVersion} {version : ResumeContentVersion} :
    version ∈ (latestVersions versions).1 ↔ version ∈ versions ∧ ∀ other ∈ versions, ∀ freshness,
      other.freshness = some freshness → ∃ latest, version.freshness = some latest ∧
        freshness ≤ latest := by
  unfold latestVersions
  cases hmax : (versions.filterMap ResumeContentVersion.freshness).max? with
  | none =>
    have hnone : ∀ other ∈ versions, other.freshness = none := by
      have hnil := List.max?_eq_none_iff.mp hmax
      rwa [List.filterMap_eq_nil_iff] at hnil
    refine ⟨fun h => ⟨h, fun other hother freshness hfresh => ?_⟩, And.left⟩
    rw [hnone other hother] at hfresh
    cases hfresh
  | some latest =>
    obtain ⟨hlatest, hle⟩ := List.max?_eq_some_iff.mp hmax
    obtain ⟨freshest, hfreshest, hfreshness⟩ := List.mem_filterMap.mp hlatest
    dsimp only
    rw [List.mem_filter, decide_eq_true_eq]
    constructor
    · rintro ⟨hversion, hfresh⟩
      exact ⟨hversion, fun other hother freshness hother' =>
        ⟨latest, hfresh, hle _ (List.mem_filterMap.mpr ⟨other, hother, hother'⟩)⟩⟩
    · rintro ⟨hversion, hfresher⟩
      obtain ⟨latest', hfresh, hge⟩ := hfresher freshest hfreshest latest hfreshness
      have hle' : latest' ≤ latest := hle _ (List.mem_filterMap.mpr ⟨version, hversion, hfresh⟩)
      exact ⟨hversion, by rw [hfresh, le_antisymm hle' hge]⟩

/-- The latest versions in another order. -/
lemma latestVersions_perm {versions versions' : List ResumeContentVersion}
    (hperm : versions.Perm versions') :
    (latestVersions versions).1.Perm (latestVersions versions').1 ∧
      (latestVersions versions).2 = (latestVersions versions').2 := by
  have hmax : (versions.filterMap ResumeContentVersion.freshness).max? =
      (versions'.filterMap ResumeContentVersion.freshness).max? :=
        max?_eq_of_perm (hperm.filterMap _)
  unfold latestVersions
  rw [hmax]
  cases (versions'.filterMap ResumeContentVersion.freshness).max? with
  | none => exact ⟨hperm, rfl⟩
  | some latest =>
    refine ⟨hperm.filter _, ?_⟩
    simp only [hperm.mem_iff]

section Choice

variable {rt : VersionRuntime} {ct : CandidateRuntime}
variable {input input' : SelectionInput}

/-- The version of a resume is named after it. -/
@[simp] lemma storedVersion_resumeId (normalizedStore : Dict String NormalizedResume)
    (resumeId : String) : (storedVersion rt normalizedStore resumeId).resumeId = resumeId := by
  unfold storedVersion
  cases normalizedStore.lookup resumeId <;> rfl

/-- Ranks tell resumes apart. -/
lemma resumeId_of_canonicalRank {candidates : Dict String CandidateStores.ResumeCandidate}
    {normalizedStore : Dict String NormalizedResume} {evidence : List RuntimeSourceEvidence}
    {version other : ResumeContentVersion}
    (h : canonicalRank ct candidates normalizedStore evidence version =
      canonicalRank ct candidates normalizedStore evidence other) : version.resumeId =
        other.resumeId :=
  congrArg (fun rank : VersionRank => (ofLex (ofLex rank).2).2) h

/-- The level of the best row does not depend on the order. -/
lemma bestLevel_perm {evidence evidence' : List RuntimeSourceEvidence}
    (hperm : evidence.Perm evidence') : bestLevel evidence = bestLevel evidence' := by
  unfold bestLevel
  have : LeftCommutative fun (row : RuntimeSourceEvidence) level =>
    max row.evidenceLevel.rank level :=
    ⟨fun row row' level => max_left_comm _ _ _⟩
  exact hperm.foldr_eq _

/-- A rank reads the stores by resume, and the evidence rows in any order. -/
lemma canonicalRank_congr (h : input.Reordered input') (version : ResumeContentVersion) :
    canonicalRank ct input.candidates input.normalizedStore input.evidence version =
      canonicalRank ct input'.candidates input'.normalizedStore input'.evidence version := by
  have hrows : (evidenceOfResume input.evidence version.resumeId).Perm
      (evidenceOfResume input'.evidence version.resumeId) := h.evidence.filter _
  have hlevel : ∀ normalized,
    evidenceLevel normalized (evidenceOfResume input.evidence version.resumeId) =
      evidenceLevel normalized (evidenceOfResume input'.evidence version.resumeId) := by
    intro normalized
    unfold evidenceLevel
    rw [bestLevel_perm hrows]
    by_cases hnil : evidenceOfResume input.evidence version.resumeId = []
    · rw [if_pos hnil, if_pos (by rw [hnil] at hrows; exact hrows.symm.eq_nil)]
    · rw [if_neg hnil, if_neg (fun hnil' => hnil (by rw [hnil'] at hrows; exact hrows.eq_nil))]
  have hreferences : ∀ references : List SourceReference,
      ((evidenceOfResume input.evidence version.resumeId).flatMap
        RuntimeSourceEvidence.sourceReferences ++ references).dedup.length =
      ((evidenceOfResume input'.evidence version.resumeId).flatMap
        RuntimeSourceEvidence.sourceReferences ++ references).dedup.length :=
    fun references => (((hrows.flatMap_right _).append_right references).dedup).length_eq
  unfold canonicalRank
  rw [h.candidates, h.normalizedStore]
  cases input'.candidates.lookup version.resumeId with
  | none => rfl
  | some candidate =>
    cases input'.normalizedStore.lookup version.resumeId with
    | none => rfl
    | some normalized =>
      have hfour : ∀ evidence,
        firstFourPlaces (candidateObservationRank ct candidate normalized.ranked evidence) =
          toLex (evidenceLevel normalized.ranked evidence,
            toLex (nonemptyLeafCount normalized.ranked.structuredEvidence,
              toLex (normalized.ranked.completenessScore,
                (evidence.flatMap RuntimeSourceEvidence.sourceReferences ++
                  candidate.sourceReferences).dedup.length))) := fun _ => rfl
      simp only [hfour, hlevel, hreferences]

/-- The versions of an identity in another order. -/
lemma versions_perm (h : input.Reordered input') :
    (input.resumeIds.dedup.map (storedVersion rt input.normalizedStore)).Perm
      (input'.resumeIds.dedup.map (storedVersion rt input'.normalizedStore)) := by
  have hids : input.resumeIds.dedup.Perm input'.resumeIds.dedup :=
    (List.perm_ext_iff_of_nodup (List.nodup_dedup _) (List.nodup_dedup _)).mpr fun r => by
      rw [List.mem_dedup, List.mem_dedup, h.resumeIds]
  have hversion : storedVersion rt input.normalizedStore =
      storedVersion rt input'.normalizedStore := by
    funext r
    rw [storedVersion, storedVersion, h.normalizedStore]
  rw [hversion]
  exact hids.map _

/-- The undated versions in another order. -/
lemma undatedIds_perm {versions versions' : List ResumeContentVersion}
    (hperm : versions.Perm versions') : (undatedIds versions).Perm (undatedIds versions') := by
  unfold undatedIds
  rw [hperm.any_eq]
  split
  · exact (hperm.filter _).map _
  · exact List.Perm.refl _

/-- The loop over the latest versions in another order. -/
lemma groupVersions_same {rank : ResumeContentVersion → VersionRank}
    {selected : ResumeContentVersion}
    {undated undated' : List String} {latest latest' : List ResumeContentVersion}
    (hundated : undated.Perm undated')
    (hlatest : latest.Perm latest') (hranks : ∀ v ∈ latest, ∀ w ∈ latest, rank v = rank w → v = w) :
    (groupVersions rank selected undated latest).Same
    (groupVersions rank selected undated' latest') := by
  have hnil : undated = [] ↔ undated' = [] :=
    ⟨fun h => by rw [h] at hundated; exact hundated.symm.eq_nil,
      fun h => by rw [h] at hundated; exact hundated.eq_nil⟩
  have hstart : ∀ (some : Bool), some = decide (undated ≠ []) → VersionGroups.Same
      ⟨[selected], [], undated, false, some⟩
      ⟨[selected], [], undated', false, decide (undated' ≠ [])⟩ :=
    fun some hsome => ⟨rfl, rfl, hundated, rfl, by simp only [hsome, ne_eq, hnil]⟩
  unfold groupVersions
  rw [insertionSort_eq_of_perm hlatest hranks]
  exact (hstart _ rfl).foldl _ _

/-- Two versions of an identity with one rank are the same. -/
lemma version_of_rank {v w : ResumeContentVersion}
    (hv : v ∈ (latestVersions
      (input.resumeIds.dedup.map (storedVersion rt input.normalizedStore))).1)
    (hw : w ∈ (latestVersions
      (input.resumeIds.dedup.map (storedVersion rt input.normalizedStore))).1)
    (h : canonicalRank ct input.candidates input.normalizedStore input.evidence v =
      canonicalRank ct input.candidates input.normalizedStore input.evidence w) : v = w := by
  obtain ⟨r, -, rfl⟩ := List.mem_map.mp (mem_latestVersions.mp hv).1
  obtain ⟨s, -, rfl⟩ := List.mem_map.mp (mem_latestVersions.mp hw).1
  have hid := resumeId_of_canonicalRank h
  rw [storedVersion_resumeId, storedVersion_resumeId] at hid
  rw [hid]

/-- The selection does not depend on the order of the resumes, the evidence rows and the stores. -/
theorem choose_reordered (h : input.Reordered input')
    (identityId : String) : input.choose rt ct identityId = input'.choose rt ct identityId := by
  have hranks : ∀ v ∈ (latestVersions
    (input.resumeIds.dedup.map (storedVersion rt input.normalizedStore))).1,
      ∀ w ∈ (latestVersions (input.resumeIds.dedup.map (storedVersion rt input.normalizedStore))).1,
        canonicalRank ct input.candidates input.normalizedStore input.evidence v =
          canonicalRank ct input.candidates input.normalizedStore input.evidence w → v = w :=
    fun v hv w hw => version_of_rank hv hw
  have hversions : (input.resumeIds.dedup.map (storedVersion rt input.normalizedStore)).Perm
      (input'.resumeIds.dedup.map (storedVersion rt input'.normalizedStore)) := versions_perm h
  have hrank : canonicalRank ct input.candidates input.normalizedStore input.evidence =
      canonicalRank ct input'.candidates input'.normalizedStore input'.evidence :=
        funext (canonicalRank_congr h)
  rw [hrank] at hranks
  unfold SelectionInput.choose chooseCanonicalResumeForIdentity
  dsimp only
  rw [hrank]
  generalize canonicalRank ct input'.candidates input'.normalizedStore input'.evidence =
    rank at hranks ⊢
  generalize input.resumeIds.dedup.map (storedVersion rt input.normalizedStore) =
    versions at hversions hranks ⊢
  generalize input'.resumeIds.dedup.map (storedVersion rt input'.normalizedStore) =
    versions' at hversions ⊢
  obtain ⟨hlatest, hreasons⟩ := latestVersions_perm hversions
  have hbest : (latestVersions versions).1.argmax rank = (latestVersions versions').1.argmax
      rank := by
    simpa using argmax_map_eq_of_perm (g := id) hlatest hranks
  rw [hbest, hreasons]
  cases (latestVersions versions').1.argmax rank with
  | none => rfl
  | some selected =>
    have hsame : (groupVersions rank selected (undatedIds versions)
      (latestVersions versions).1).Same
        (groupVersions rank selected (undatedIds versions') (latestVersions versions').1) :=
      groupVersions_same (undatedIds_perm hversions) hlatest hranks
    have hshown : ∀ ids : List String,
        ((ids.flatMap (evidenceOfResume input.evidence)).map
          RuntimeSourceEvidence.evidenceId).insertionSort (· ≤ ·) =
          ((ids.flatMap (evidenceOfResume input'.evidence)).map
            RuntimeSourceEvidence.evidenceId).insertionSort (· ≤ ·) := by
      intro ids
      have hrows : (ids.flatMap (evidenceOfResume input.evidence)).Perm
          (ids.flatMap (evidenceOfResume input'.evidence)) :=
        List.Perm.flatMap_left _ fun r _ => h.evidence.filter _
      refine List.Perm.eq_of_pairwise' (List.pairwise_insertionSort _ _)
        (List.pairwise_insertionSort _ _) ?_
      exact (List.perm_insertionSort _ _).trans
        ((hrows.map _).trans (List.perm_insertionSort _ _).symm)
    have hrow : ∀ {γ : Type} (g : RuntimeSourceEvidence → γ),
        (∀ a b : RuntimeSourceEvidence, selectedEvidenceRank a = selectedEvidenceRank b →
          g a = g b) →
          ((evidenceOfResume input.evidence selected.resumeId).argmax selectedEvidenceRank).map g =
            ((evidenceOfResume input'.evidence selected.resumeId).argmax selectedEvidenceRank).map
              g :=
      fun g hg => argmax_map_eq_of_perm (h.evidence.filter _) fun a _ b _ => hg a b
    have hid := hrow RuntimeSourceEvidence.evidenceId
      fun a b hab => congrArg (fun rank => (ofLex (ofLex (ofLex rank).2).2).2) hab
    have hcollected := hrow RuntimeSourceEvidence.collectedAt
      fun a b hab => congrArg (fun rank => (ofLex (ofLex (ofLex rank).2).2).1) hab
    dsimp only [Option.map_some]
    generalize groupVersions rank selected (undatedIds versions) (latestVersions versions).1 =
      groups at hsame ⊢
    generalize groupVersions rank selected (undatedIds versions') (latestVersions versions').1 =
      groups' at hsame ⊢
    have hequivalent : groups.equivalentIds = groups'.equivalentIds := by
      unfold VersionGroups.equivalentIds
      rw [hsame.versions]
    have hincomparable : ∀ p q : String → Bool,
        sortedTexts ((groups.incomparableIds.filter p).filter q) =
          sortedTexts ((groups'.incomparableIds.filter p).filter q) := fun p q =>
      sortedTexts_congr fun r => ((hsame.incomparable.filter p).filter q).mem_iff
    simp only [hequivalent, hsame.conflicting, hsame.hasConflict, hsame.hasIncomparable,
      hincomparable, hshown, hid, hcollected]

end Choice

section Groups

variable {versions : List ResumeContentVersion} {selected : ResumeContentVersion}

/-- The latest versions, in their order. -/
lemma latestVersions_sublist (versions : List ResumeContentVersion) :
    (latestVersions versions).1.Sublist versions := by
  unfold latestVersions
  cases (versions.filterMap ResumeContentVersion.freshness).max? with
  | none => exact List.Sublist.refl _
  | some latest => exact List.filter_sublist

/-- A version with the date of a latest one is a latest one. -/
lemma mem_latestVersions_of_freshness {version : ResumeContentVersion}
    (h : selected ∈ (latestVersions versions).1)
    (hversion : version ∈ versions) (hfresh : version.freshness = selected.freshness) :
    version ∈ (latestVersions versions).1 := by
  rw [mem_latestVersions] at h ⊢
  refine ⟨hversion, fun other hother freshness hother' => ?_⟩
  rw [hfresh]
  exact h.2 other hother freshness hother'

/-- The versions without a date. -/
lemma mem_undatedIds {resumeId : String} :
    resumeId ∈ undatedIds versions ↔ (∃ version ∈ versions, version.freshness ≠ none) ∧
      ∃ version ∈ versions, version.freshness = none ∧ version.resumeId = resumeId := by
  have hany : (versions.any fun version => version.freshness.isSome) = true ↔
      ∃ version ∈ versions, version.freshness ≠ none := by
    rw [List.any_eq_true]
    exact exists_congr fun version => and_congr_right fun _ => Option.isSome_iff_ne_none
  unfold undatedIds
  by_cases hdated : (versions.any fun version => version.freshness.isSome) = true
  · rw [if_pos hdated]
    simp only [List.mem_map, List.mem_filter, decide_eq_true_eq, and_assoc, hany.mp hdated,
      true_and]
  · rw [if_neg hdated]
    exact ⟨fun h => absurd h List.not_mem_nil, fun h => absurd (hany.mpr h.1) hdated⟩

/-- A list with one element in front. -/
lemma perm_cons_filter {l : List ResumeContentVersion}
    (hids : (l.map ResumeContentVersion.resumeId).Nodup)
    (h : selected ∈ l) :
    l.Perm (selected :: l.filter fun version => version.resumeId ≠ selected.resumeId) := by
  have hnodup : l.Nodup := List.Nodup.of_map _ hids
  have hnot : selected ∉ l.filter fun version => version.resumeId ≠ selected.resumeId := by
    rw [List.mem_filter, decide_eq_true_eq]
    exact fun hmem => hmem.2 rfl
  refine (List.perm_ext_iff_of_nodup hnodup
    (List.nodup_cons.mpr ⟨hnot, hnodup.filter _⟩)).mpr fun version => ?_
  rw [List.mem_cons, List.mem_filter, decide_eq_true_eq]
  constructor
  · intro hversion
    by_cases hid : version.resumeId = selected.resumeId
    · exact .inl (List.inj_on_of_nodup_map hids hversion h hid)
    · exact .inr ⟨hversion, hid⟩
  · rintro (rfl | hversion)
    · exact h
    · exact hversion.1

/-- The three groups hold every latest version and, if others have a date, every one without, each
once. -/
lemma groups_perm (hids : (versions.map ResumeContentVersion.resumeId).Nodup)
    (hselected : selected ∈ (latestVersions versions).1) {rank : ResumeContentVersion → VersionRank}
    {groups : VersionGroups}
    (h : Grouped selected (undatedIds versions)
      (comparedVersions rank selected (latestVersions versions).1) groups) :
    (groups.equivalentIds ++ groups.conflictingIds ++ groups.incomparableIds).Perm
      (undatedIds versions ++ (latestVersions versions).1.map ResumeContentVersion.resumeId) := by
  have hlatest : ((latestVersions versions).1.map ResumeContentVersion.resumeId).Nodup :=
    hids.sublist ((latestVersions_sublist versions).map _)
  have hsorted : ((latestVersions versions).1.insertionSort fun version other =>
    rank other ≤ rank version).Perm
      (latestVersions versions).1 := List.perm_insertionSort _ _
  have hfront : ((latestVersions versions).1.insertionSort fun version other =>
    rank other ≤ rank version).Perm
      (selected :: comparedVersions rank selected (latestVersions versions).1) :=
    perm_cons_filter (((hsorted.map _).nodup_iff).mpr hlatest) (hsorted.symm.subset hselected)
  have hcompared : (selected.resumeId ::
    (comparedVersions rank selected (latestVersions versions).1).map
      ResumeContentVersion.resumeId).Perm
      ((latestVersions versions).1.map ResumeContentVersion.resumeId) :=
    (hfront.symm.trans hsorted).map _
  exact h.partition.trans (hcompared.append_left _)

/-- No resume is in two groups. -/
lemma groups_nodup (hids : (versions.map ResumeContentVersion.resumeId).Nodup) :
    (undatedIds versions ++
      (latestVersions versions).1.map ResumeContentVersion.resumeId).Nodup := by
  have hlatest : ((latestVersions versions).1.map ResumeContentVersion.resumeId).Nodup :=
    hids.sublist ((latestVersions_sublist versions).map _)
  have hundated : (undatedIds versions).Nodup := by
    unfold undatedIds
    split
    · exact hids.sublist (List.filter_sublist.map _)
    · exact List.nodup_nil
  refine List.nodup_append.mpr ⟨hundated, hlatest, ?_⟩
  rintro resumeId hundatedId other hother rfl
  obtain ⟨⟨dated, hdated, hsome⟩, version, hversion, hnone, hname⟩ := mem_undatedIds.mp hundatedId
  obtain ⟨version', hversion', hname'⟩ := List.mem_map.mp hother
  obtain ⟨hmem, hlatest'⟩ := mem_latestVersions.mp hversion'
  have hsame : version = version' :=
    List.inj_on_of_nodup_map hids hversion hmem (hname.trans hname'.symm)
  obtain ⟨freshness, hfreshness⟩ := Option.ne_none_iff_exists'.mp hsome
  obtain ⟨latest, hfresh, -⟩ := hlatest' dated hdated freshness hfreshness
  rw [← hsame, hnone] at hfresh
  cases hfresh

end Groups

section Spec

variable {rt : VersionRuntime} {ct : CandidateRuntime} {input : SelectionInput}

/-- What the selection says holds. -/
theorem isSelection_of_choose {identityId : String} {selection : RuntimeCanonicalResumeSelection}
    (h : input.choose rt ct identityId = some selection) : input.IsSelection rt ct selection := by
  obtain ⟨versions, hversions⟩ : ∃ versions,
      versions = input.resumeIds.dedup.map (storedVersion rt input.normalizedStore) := ⟨_, rfl⟩
  obtain ⟨rank, hrank⟩ : ∃ rank,
      rank = canonicalRank ct input.candidates input.normalizedStore input.evidence := ⟨_, rfl⟩
  unfold SelectionInput.choose chooseCanonicalResumeForIdentity at h
  dsimp only at h
  rw [← hversions, ← hrank, Option.map_eq_some_iff] at h
  obtain ⟨selected, hbest, hselection⟩ := h
  -- The versions are those of the resumes.
  have hstored : ∀ version ∈ versions, version.resumeId ∈ input.resumeIds ∧
      input.version rt version.resumeId = version := by
    intro version hversion
    rw [hversions] at hversion
    obtain ⟨r, hr, rfl⟩ := List.mem_map.mp hversion
    rw [storedVersion_resumeId]
    exact ⟨List.mem_dedup.mp hr, rfl⟩
  have hmem : ∀ r ∈ input.resumeIds, input.version rt r ∈ versions := by
    intro r hr
    rw [hversions]
    exact List.mem_map.mpr ⟨r, List.mem_dedup.mpr hr, rfl⟩
  have hids : (versions.map ResumeContentVersion.resumeId).Nodup := by
    have hnames : versions.map ResumeContentVersion.resumeId = input.resumeIds.dedup := by
      rw [hversions, List.map_map]
      exact (List.map_congr_left fun r _ => storedVersion_resumeId _ r).trans (List.map_id _)
    rw [hnames]
    exact List.nodup_dedup _
  have hselected : selected ∈ (latestVersions versions).1 := List.argmax_mem hbest
  obtain ⟨hselectedMem, hfreshest⟩ := mem_latestVersions.mp hselected
  obtain ⟨hselectedId, hselectedVersion⟩ := hstored selected hselectedMem
  -- The groups share the versions.
  obtain ⟨groups, hgroups⟩ : ∃ groups,
      groups = groupVersions rank selected (undatedIds versions) (latestVersions versions).1 :=
      ⟨_, rfl⟩
  have hgrouped : Grouped selected (undatedIds versions)
    (comparedVersions rank selected (latestVersions versions).1)
      groups := by
    rw [hgroups]
    exact grouped_groupVersions rank selected _ _
  have hperm := groups_perm hids hselected hgrouped
  have hnodup := hperm.nodup_iff.mpr (groups_nodup hids)
  have hfound : ∀ r,
    (r ∈ groups.equivalentIds ∨ r ∈ groups.conflictingIds ∨ r ∈ groups.incomparableIds) ↔
      r ∈ undatedIds versions ∨
        r ∈ (latestVersions versions).1.map ResumeContentVersion.resumeId := by
    intro r
    have := hperm.mem_iff (a := r)
    rwa [List.mem_append, List.mem_append, List.mem_append, or_assoc] at this
  rw [List.append_assoc, List.nodup_append] at hnodup
  obtain ⟨hequivalentNodup, hrest, hapart⟩ := hnodup
  obtain ⟨-, -, hapart'⟩ := List.nodup_append.mp hrest
  -- So that taking one group from another takes nothing.
  rw [← hgroups] at hselection
  obtain ⟨equivalent, hequivalent⟩ : ∃ equivalent, equivalent = sortedTexts groups.equivalentIds :=
    ⟨_, rfl⟩
  rw [← hequivalent] at hselection
  obtain ⟨conflicting, hconflicting⟩ : ∃ conflicting,
      conflicting = sortedTexts (groups.conflictingIds.filter (· ∉ equivalent)) := ⟨_, rfl⟩
  rw [← hconflicting] at hselection
  obtain ⟨incomparable, hincomparable⟩ : ∃ incomparable, incomparable =
      sortedTexts ((groups.incomparableIds.filter (· ∉ equivalent)).filter (· ∉ conflicting)) :=
        ⟨_, rfl⟩
  rw [← hincomparable] at hselection
  have hmemEquivalent : ∀ r, r ∈ equivalent ↔ r ∈ groups.equivalentIds := by
    intro r
    rw [hequivalent, mem_sortedTexts]
  have hmemConflicting : ∀ r, r ∈ conflicting ↔ r ∈ groups.conflictingIds := by
    intro r
    rw [hconflicting, mem_sortedTexts, List.mem_filter, decide_eq_true_eq, hmemEquivalent]
    exact ⟨And.left, fun hr => ⟨hr, fun hr' => hapart r hr' r (List.mem_append_left _ hr) rfl⟩⟩
  have hmemIncomparable : ∀ r, r ∈ incomparable ↔ r ∈ groups.incomparableIds := by
    intro r
    rw [hincomparable, mem_sortedTexts, List.mem_filter, List.mem_filter, decide_eq_true_eq,
      decide_eq_true_eq, hmemEquivalent, hmemConflicting, and_assoc]
    exact ⟨And.left, fun hr => ⟨hr, fun hr' => hapart r hr' r (List.mem_append_right _ hr) rfl,
      fun hr' => hapart' r hr' r hr rfl⟩⟩
  have hcovered : ∀ r, r ∈ undatedIds versions ∨
    r ∈ (latestVersions versions).1.map ResumeContentVersion.resumeId →
      r ∈ equivalent ∨ r ∈ conflicting ∨ r ∈ incomparable := by
    intro r hr
    rw [hmemEquivalent, hmemConflicting, hmemIncomparable]
    exact (hfound r).mpr hr
  have hselectedEquivalent : selected.resumeId ∈ equivalent :=
    (hmemEquivalent _).mpr (List.mem_map.mpr ⟨selected, hgrouped.selected_mem, rfl⟩)
  have hcomparedStored : ∀ version ∈ comparedVersions rank selected (latestVersions versions).1,
      version ∈ versions := by
    intro version hversion
    have hsorted := List.mem_of_mem_filter hversion
    exact (mem_latestVersions.mp ((List.mem_insertionSort _).mp hsorted)).1
  have hequivalentStored : ∀ version ∈ groups.equivalentVersions, version ∈ versions := by
    intro version hversion
    obtain rfl | hcompared := hgrouped.equivalent version hversion
    · exact hselectedMem
    · exact hcomparedStored version hcompared
  subst hselection
  exact
    { selected_mem := hselectedId
      freshest := by
        intro r hr freshness hfreshness
        dsimp only
        rw [hselectedVersion]
        exact hfreshest _ (hmem r hr) freshness hfreshness
      best := by
        intro r hr hfresh
        dsimp only at hfresh ⊢
        rw [hselectedVersion] at hfresh
        have hlatest := mem_latestVersions_of_freshness hselected (hmem r hr) hfresh
        unfold SelectionInput.rank
        rw [hselectedVersion, ← hrank]
        exact List.le_of_mem_argmax hlatest hbest
      subset := by
        intro r hr
        dsimp only at hr
        rw [hmemEquivalent, hmemConflicting, hmemIncomparable, hfound] at hr
        obtain hundated | hlatest := hr
        · obtain ⟨-, version, hversion, -, rfl⟩ := mem_undatedIds.mp hundated
          exact (hstored version hversion).1
        · obtain ⟨version, hversion, rfl⟩ := List.mem_map.mp hlatest
          exact (hstored version (mem_latestVersions.mp hversion).1).1
      disjoint := by
        refine ⟨fun r hr hr' => ?_, fun r hr hr' => ?_, fun r hr hr' => ?_⟩
        · exact hapart r ((hmemEquivalent r).mp hr) r
            (List.mem_append_left _ ((hmemConflicting r).mp hr')) rfl
        · exact hapart r ((hmemEquivalent r).mp hr) r
            (List.mem_append_right _ ((hmemIncomparable r).mp hr')) rfl
        · exact hapart' r ((hmemConflicting r).mp hr) r ((hmemIncomparable r).mp hr') rfl
      equivalent_selected := hselectedEquivalent
      equivalent_pairwise := by
        intro r hr s hs hne
        obtain ⟨v, hv, rfl⟩ := List.mem_map.mp ((hmemEquivalent r).mp hr)
        obtain ⟨w, hw, rfl⟩ := List.mem_map.mp ((hmemEquivalent s).mp hs)
        rw [(hstored v (hequivalentStored v hv)).2, (hstored w (hequivalentStored w hw)).2]
        have hsymmetric : Std.Symm fun version other : ResumeContentVersion =>
            materiallyConsistent version other = some true :=
          ⟨fun version other hagree => (materiallyConsistent_symm other version).trans hagree⟩
        exact hgrouped.pairwise.forall hv hw fun heq =>
          hne (congrArg ResumeContentVersion.resumeId heq)
      conflicting := by
        intro r hr
        obtain ⟨other, hother, rfl, version, hversion, hfalse⟩ :=
          hgrouped.conflicting r ((hmemConflicting r).mp hr)
        refine ⟨version.resumeId, (hmemEquivalent _).mpr
          (List.mem_map.mpr ⟨version, hversion, rfl⟩), ?_⟩
        rw [(hstored version (hequivalentStored version hversion)).2,
          (hstored other (hcomparedStored other hother)).2]
        exact hfalse
      latest_covered := by
        intro r hr hfresh
        dsimp only at hfresh
        rw [hselectedVersion] at hfresh
        have hlatest := mem_latestVersions_of_freshness hselected (hmem r hr) hfresh
        exact hcovered r
          (.inr (List.mem_map.mpr ⟨input.version rt r, hlatest, storedVersion_resumeId _ r⟩))
      undated_covered := by
        rintro r hr hnone ⟨s, hs, hdated⟩
        exact hcovered r
          (.inl (mem_undatedIds.mpr ⟨⟨input.version rt s, hmem s hs, hdated⟩, input.version rt r,
            hmem r hr, hnone, storedVersion_resumeId _ r⟩))
      display := by
        have hequivalentSorted : equivalent.Nodup := by
          rw [hequivalent]
          exact nodup_sortedTexts _
        exact (List.perm_insertionSort _ _).trans
          ((flatMap_filter_perm RuntimeSourceEvidence.candidateResumeId hequivalentSorted
            input.evidence).map _) }

/-- There is a selection from resumes. -/
lemma exists_choose (rt : VersionRuntime) (ct : CandidateRuntime) (hresumes : input.resumeIds ≠ [])
    (identityId : String) : ∃ selection, input.choose rt ct identityId = some selection := by
  obtain ⟨versions, hversions⟩ : ∃ versions,
      versions = input.resumeIds.dedup.map (storedVersion rt input.normalizedStore) := ⟨_, rfl⟩
  have hne : (latestVersions versions).1 ≠ [] := by
    have hversionsNe : versions ≠ [] := by
      rw [hversions, Ne, List.map_eq_nil_iff]
      obtain ⟨r, hr⟩ := List.exists_mem_of_ne_nil _ hresumes
      exact List.ne_nil_of_mem (List.mem_dedup.mpr hr)
    unfold latestVersions
    cases hmax : (versions.filterMap ResumeContentVersion.freshness).max? with
    | none => exact hversionsNe
    | some latest =>
      obtain ⟨version, hversion, hfresh⟩ := List.mem_filterMap.mp (List.max?_eq_some_iff.mp hmax).1
      exact List.ne_nil_of_mem (List.mem_filter.mpr ⟨hversion, decide_eq_true hfresh⟩)
  unfold SelectionInput.choose chooseCanonicalResumeForIdentity
  dsimp only
  rw [← hversions]
  cases hbest : (latestVersions versions).1.argmax
      (canonicalRank ct input.candidates input.normalizedStore input.evidence) with
  | none => exact absurd (List.argmax_eq_none.mp hbest) hne
  | some selected => exact ⟨_, rfl⟩

end Spec

/-- From the resumes of an identity one of the freshest and among these the best is selected; the
equivalent, the conflicting and the incomparable resumes are told apart by how they agree with it
and with each other, and the evidence that is shown is that of the equivalent ones.  The order of
the resumes, the stores and the evidence does not matter. -/
theorem canonical_resume (rt : VersionRuntime) (ct : CandidateRuntime) (identityId : String)
    (input : SelectionInput) (hresumes : input.resumeIds ≠ []) :
    ∃ selection, input.choose rt ct identityId = some selection ∧
      input.IsSelection rt ct selection ∧
      ∀ input' : SelectionInput, input.Reordered input' →
        input'.choose rt ct identityId = some selection := by
  obtain ⟨selection, hselection⟩ := exists_choose rt ct hresumes identityId
  refine ⟨selection, hselection, isSelection_of_choose hselection, fun input' hreordered => ?_⟩
  rw [← choose_reordered hreordered]
  exact hselection

/-- Texts of letters and digits, which are normalised already. -/
def asciiVersions : VersionRuntime where
  casefold text := text.map Char.toLower
  sha256Hexdigest _ := ""
  normalizeNfkc := id
  isDecimal := Char.isDigit
  decimalValue c := c.toNat - 48
  isWord c := c.isAlphanum || c = '_'
  payloadDigest _ := ""

/-- A resume with one job. -/
def jobResume (resumeId company duration : String) : NormalizedResume where
  resumeId := resumeId
  completenessScore := 0
  scoreEvidenceSource := none
  structuredEvidence := { workExperience := [{ company := company, duration := duration }] }

/-- Three resumes of an identity: two of the same date that contradict each other, and an older
one. -/
def threeJobs : SelectionInput where
  resumeIds := ["r-1", "r-2", "r-3"]
  candidates := ∅
  normalizedStore := ((AList.insert "r-1" (jobResume "r-1" "acme" "2024.01-2024.05") ∅).insert "r-2"
    (jobResume "r-2" "bolt" "2024.01-2024.05")).insert "r-3"
    (jobResume "r-3" "acme" "2020.01-2021.05")
  evidence := []

/-- A resume is selected from the three. -/
theorem canonical_resume_threeJobs :
    ∃ selection, threeJobs.choose asciiVersions RunStores.locationRuntime "identity-1" =
      some selection ∧ threeJobs.IsSelection asciiVersions RunStores.locationRuntime selection ∧
      ∀ input' : SelectionInput, threeJobs.Reordered input' →
        input'.choose asciiVersions RunStores.locationRuntime "identity-1" = some selection :=
  canonical_resume asciiVersions RunStores.locationRuntime "identity-1" threeJobs
    (List.cons_ne_nil _ _)

end SeekTalent.ResumeVersions
