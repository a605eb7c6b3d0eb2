import SeekTalent.CandidateStores.StoreCoherence

/-!
# The first hit of a merged candidate

Eight fields of a candidate say which search hit it first.  A merge takes them from the observation
that is earlier under `_candidate_attribution_rank`, and fills each one that is missing there from
the later observation.  A missing field can be a finding of its own (a search without a city has no
location key), and the merged candidate then has the query of one search and the city of another.

Merges of any shape are trees over the observations.  At every node the merged candidate has the
first hit of the least observation below it exactly if nowhere the earlier of two merged candidates
lacks a field that the later one has.
-/

namespace SeekTalent.CandidateStores

open Foundation SourceLanes

/-! ## The fields of the first hit -/

/-- The fields that say where a candidate was first seen. -/
structure Attribution where
  sourceRound : Option Int
  firstQueryInstanceId : Option String
  firstQueryFingerprint : Option String
  firstRoundNo : Option Int
  firstLaneType : Option String
  firstLocationKey : Option String
  firstLocationType : Option String
  firstBatchNo : Option Int
  deriving DecidableEq

namespace Attribution

/-- `_prefer_richer_value` of every field. -/
def filledUpFrom (a b : Attribution) : Attribution where
  sourceRound := richerNumber a.sourceRound b.sourceRound
  firstQueryInstanceId := richerText a.firstQueryInstanceId b.firstQueryInstanceId
  firstQueryFingerprint := richerText a.firstQueryFingerprint b.firstQueryFingerprint
  firstRoundNo := richerNumber a.firstRoundNo b.firstRoundNo
  firstLaneType := richerText a.firstLaneType b.firstLaneType
  firstLocationKey := richerText a.firstLocationKey b.firstLocationKey
  firstLocationType := richerText a.firstLocationType b.firstLocationType
  firstBatchNo := richerNumber a.firstBatchNo b.firstBatchNo

/-- No field is missing here that the other one has. -/
structure Covers (a b : Attribution) : Prop where
  sourceRound : b.sourceRound.isSome → a.sourceRound.isSome
  firstQueryInstanceId : truthyText b.firstQueryInstanceId → truthyText a.firstQueryInstanceId
  firstQueryFingerprint : truthyText b.firstQueryFingerprint → truthyText a.firstQueryFingerprint
  firstRoundNo : b.firstRoundNo.isSome → a.firstRoundNo.isSome
  firstLaneType : truthyText b.firstLaneType → truthyText a.firstLaneType
  firstLocationKey : truthyText b.firstLocationKey → truthyText a.firstLocationKey
  firstLocationType : truthyText b.firstLocationType → truthyText a.firstLocationType
  firstBatchNo : b.firstBatchNo.isSome → a.firstBatchNo.isSome

/-- A number is kept unless it is missing and the other one is there. -/
lemma richerNumber_eq_left {preferred fallback : Option Int} :
    richerNumber preferred fallback = preferred ↔ (fallback.isSome → preferred.isSome) := by
  cases preferred <;> cases fallback <;> simp [richerNumber]

/-- A text is kept unless it is missing and the other one is there. -/
lemma richerText_eq_left {preferred fallback : Option String} :
    richerText preferred fallback = preferred ↔ (truthyText fallback → truthyText preferred) := by
  unfold richerText emptyText
  by_cases hpreferred : truthyText preferred = true
  · simp [hpreferred]
  · by_cases hfallback : truthyText fallback = true
    · have hne : fallback ≠ preferred := fun heq => hpreferred (heq ▸ hfallback)
      simp [hpreferred, hfallback, hne]
    · simp [hpreferred, hfallback]

/-- Filling up changes nothing exactly if nothing is missing that the other one has. -/
lemma filledUpFrom_eq_left {a b : Attribution} : a.filledUpFrom b = a ↔ a.Covers b := by
  constructor
  · intro h
    rw [filledUpFrom, Attribution.mk.injEq] at h
    simp only [richerNumber_eq_left, richerText_eq_left] at h
    obtain ⟨h1, h2, h3, h4, h5, h6, h7, h8⟩ := h
    exact ⟨h1, h2, h3, h4, h5, h6, h7, h8⟩
  · rintro ⟨h1, h2, h3, h4, h5, h6, h7, h8⟩
    rw [filledUpFrom, Attribution.mk.injEq]
    simp only [richerNumber_eq_left, richerText_eq_left]
    exact ⟨h1, h2, h3, h4, h5, h6, h7, h8⟩

end Attribution

/-- Where a candidate was first seen. -/
def ResumeCandidate.attribution (c : ResumeCandidate) : Attribution where
  sourceRound := c.sourceRound
  firstQueryInstanceId := c.firstQueryInstanceId
  firstQueryFingerprint := c.firstQueryFingerprint
  firstRoundNo := c.firstRoundNo
  firstLaneType := c.firstLaneType
  firstLocationKey := c.firstLocationKey
  firstLocationType := c.firstLocationType
  firstBatchNo := c.firstBatchNo

/-- A merged candidate has the fields of the earlier one, filled up from the later one. -/
lemma attribution_mergedCandidate (left right : ResumeCandidate) (wins earlier : Bool) :
    (mergedCandidate left right wins earlier).attribution =
      if earlier then left.attribution.filledUpFrom right.attribution
      else right.attribution.filledUpFrom left.attribution := by
  cases wins <;> cases earlier <;> rfl

/-- A merged candidate is of the resume of both. -/
lemma resumeId_mergedCandidate {left right : ResumeCandidate} (h : left.resumeId = right.resumeId)
    (wins earlier : Bool) : (mergedCandidate left right wins earlier).resumeId = left.resumeId := by
  have hsame : richerString left.resumeId left.resumeId = left.resumeId := by
    unfold richerString
    split <;> rfl
  have hmerged : (mergedCandidate left right wins earlier).resumeId =
      if wins then richerString left.resumeId right.resumeId
      else richerString right.resumeId left.resumeId := by
    cases wins <;> cases earlier <;> rfl
  rw [hmerged, ← h, hsame, ite_self]

/-- A runtime whose hash of where a candidate was first seen is taken of those fields. -/
def CandidateRuntime.hashing (rt : CandidateRuntime) (hash : Attribution → String) :
    CandidateRuntime :=
  { rt with attributionHash := fun c => hash c.attribution }

/-! ## Merges of any shape -/

/-- A tree of merges over observations, with the evidence that is given to each merge. -/
inductive Merging where
  | observation (c : ResumeCandidate)
  | merge (left right : Merging) (leftEvidence rightEvidence : List RuntimeSourceEvidence)

namespace Merging

variable (rt : CandidateRuntime)

/-- The candidate at the root. -/
def result : Merging → Except LaneError ResumeCandidate
  | observation c => .ok c
  | merge left right leftEvidence rightEvidence => do
    let a ← left.result
    let b ← right.result
    let (merged, _) ← mergeResumeCandidateObservations rt a b leftEvidence rightEvidence
    .ok merged

/-- The observations that are merged, in order. -/
def observations : Merging → List ResumeCandidate
  | observation c => [c]
  | merge left right _ _ => left.observations ++ right.observations

/-- The first observation of least attribution rank. -/
def firstLeast : Merging → ResumeCandidate
  | observation c => c
  | merge left right _ _ =>
    if candidateAttributionRank rt left.firstLeast ≤ candidateAttributionRank rt
      right.firstLeast then
      left.firstLeast
    else right.firstLeast

/-- A property of the tree and of all trees in it. -/
def Every (P : Merging → Prop) : Merging → Prop
  | observation c => P (observation c)
  | merge left right leftEvidence rightEvidence =>
    left.Every P ∧ right.Every P ∧ P (merge left right leftEvidence rightEvidence)

/-- The candidate at the root was first seen where the least observation was. -/
def Coherent (m : Merging) : Prop :=
  ∀ c, m.result rt = .ok c → c.attribution = (m.firstLeast rt).attribution

/-- Of the two candidates that are merged at the root, the earlier one lacks nothing that the later
one has. -/
def Separate : Merging → Prop
  | observation _ => True
  | merge left right leftEvidence rightEvidence =>
    ∀ a b, left.result rt = .ok a → right.result rt = .ok b →
      (mergeResumeCandidateObservations rt a b leftEvidence rightEvidence).isOk →
        if candidateAttributionRank rt a ≤ candidateAttributionRank rt b then
          a.attribution.Covers b.attribution
        else b.attribution.Covers a.attribution

variable {rt}

/-- The first least observation is one of them, and no other one ranks before it. -/
theorem firstLeast_least (m : Merging) : m.firstLeast rt ∈ m.observations ∧
    ∀ c ∈ m.observations, candidateAttributionRank rt
      (m.firstLeast rt) ≤ candidateAttributionRank rt c := by
  induction m with
  | observation c =>
    exact ⟨List.mem_singleton_self c, fun d hd => (List.mem_singleton.mp hd) ▸ le_refl _⟩
  | merge left right leftEvidence rightEvidence ihleft ihright =>
    rw [firstLeast, observations]
    split
    · rename_i hle
      refine ⟨List.mem_append_left _ ihleft.1, fun c hc => ?_⟩
      obtain hc | hc := List.mem_append.mp hc
      · exact ihleft.2 c hc
      · exact hle.trans (ihright.2 c hc)
    · rename_i hlt
      refine ⟨List.mem_append_right _ ihright.1, fun c hc => ?_⟩
      obtain hc | hc := List.mem_append.mp hc
      · exact (lt_of_not_ge hlt).le.trans (ihleft.2 c hc)
      · exact ihright.2 c hc

/-- Merged observations are of one resume, and the merged candidate is of it too. -/
lemma resumeId_of_merge {a b merged : ResumeCandidate} {normalized : NormalizedResume}
    {leftEvidence rightEvidence : List RuntimeSourceEvidence}
    (h : mergeResumeCandidateObservations rt a b leftEvidence rightEvidence =
      .ok (merged, normalized)) :
    a.resumeId = b.resumeId ∧ merged.resumeId = a.resumeId ∧ merged.attribution =
      if candidateAttributionRank rt a ≤ candidateAttributionRank rt b then
        a.attribution.filledUpFrom b.attribution
      else b.attribution.filledUpFrom a.attribution := by
  simp only [mergeResumeCandidateObservations, bind_eq_ok, require_eq_ok, Except.ok.injEq,
    Prod.mk.injEq] at h
  obtain ⟨-, hid, -, -, leftNormalized, -, rightNormalized, -, -, -, rfl, -⟩ := h
  refine ⟨hid, ?_, ?_⟩
  · exact resumeId_mergedCandidate hid _ _
  · rw [attribution_mergedCandidate]
    simp only [decide_eq_true_eq]

/-- A merge is of the resume of its least observation. -/
lemma resumeId_firstLeast {m : Merging} {c : ResumeCandidate} (h : m.result rt = .ok c) :
    (m.firstLeast rt).resumeId = c.resumeId := by
  induction m generalizing c with
  | observation d =>
    obtain rfl := Except.ok.inj h
    rfl
  | merge left right leftEvidence rightEvidence ihleft ihright =>
    simp only [result, bind_eq_ok, Except.ok.injEq] at h
    obtain ⟨a, ha, b, hb, ⟨merged, normalized⟩, hmerge, rfl⟩ := h
    obtain ⟨hid, hmerged, -⟩ := resumeId_of_merge hmerge
    rw [firstLeast]
    split
    · rw [ihleft ha, hmerged]
    · rw [ihright hb, hmerged, hid]

variable (rt) (hash : Attribution → String)

/-- Candidates of one resume that were first seen in one place have one rank. -/
lemma candidateAttributionRank_congr {c d : ResumeCandidate}
    (hattribution : c.attribution = d.attribution) (hid : c.resumeId = d.resumeId) :
    candidateAttributionRank (rt.hashing hash) c = candidateAttributionRank
      (rt.hashing hash) d := by
  have hfields := hattribution
  rw [ResumeCandidate.attribution, ResumeCandidate.attribution, Attribution.mk.injEq] at hfields
  obtain ⟨hround, hquery, -, hfirst, -, -, -, hbatch⟩ := hfields
  unfold candidateAttributionRank CandidateRuntime.hashing
  dsimp only
  rw [hround, hquery, hfirst, hbatch, hid, hattribution]

/-- A merge of coherent candidates is coherent exactly if the earlier one lacks nothing that the
later one has. -/
lemma coherent_merge_iff {left right : Merging}
    {leftEvidence rightEvidence : List RuntimeSourceEvidence}
    (hleft : left.Coherent (rt.hashing hash)) (hright : right.Coherent (rt.hashing hash)) :
    (merge left right leftEvidence rightEvidence).Coherent (rt.hashing hash) ↔
      (merge left right leftEvidence rightEvidence).Separate (rt.hashing hash) := by
  -- The ranks of the two candidates are those of their least observations.
  have hrank : ∀ a b, left.result (rt.hashing hash) = .ok a →
    right.result (rt.hashing hash) = .ok b →
      (candidateAttributionRank (rt.hashing hash) a ≤ candidateAttributionRank (rt.hashing hash) b ↔
        candidateAttributionRank (rt.hashing hash) (left.firstLeast (rt.hashing hash)) ≤
          candidateAttributionRank (rt.hashing hash) (right.firstLeast (rt.hashing hash))) := by
    intro a b ha hb
    rw [candidateAttributionRank_congr rt hash (hleft a ha) (resumeId_firstLeast ha).symm,
      candidateAttributionRank_congr rt hash (hright b hb) (resumeId_firstLeast hb).symm]
  have hstep : ∀ a b merged normalized, left.result (rt.hashing hash) = .ok a →
      right.result (rt.hashing hash) = .ok b →
        mergeResumeCandidateObservations (rt.hashing hash) a b leftEvidence rightEvidence =
          .ok (merged, normalized) →
        (merged.attribution =
          ((merge left right leftEvidence rightEvidence).firstLeast (rt.hashing hash)).attribution ↔
          if candidateAttributionRank (rt.hashing hash) a ≤
            candidateAttributionRank (rt.hashing hash) b then
            a.attribution.Covers b.attribution
          else b.attribution.Covers a.attribution) := by
    intro a b merged normalized ha hb hmerge
    obtain ⟨-, -, hmerged⟩ := resumeId_of_merge hmerge
    rw [hmerged, firstLeast]
    by_cases hle : candidateAttributionRank (rt.hashing hash) a ≤
      candidateAttributionRank (rt.hashing hash) b
    · rw [if_pos hle, if_pos hle, if_pos ((hrank a b ha hb).mp hle), ← hleft a ha]
      exact Attribution.filledUpFrom_eq_left
    · rw [if_neg hle, if_neg hle, if_neg (fun h => hle ((hrank a b ha hb).mpr h)), ← hright b hb]
      exact Attribution.filledUpFrom_eq_left
  constructor
  · intro hcoherent a b ha hb hok
    cases hmerge : mergeResumeCandidateObservations (rt.hashing hash) a b leftEvidence
      rightEvidence with
    | error e =>
      rw [hmerge] at hok
      cases hok
    | ok both =>
      refine (hstep a b both.1 both.2 ha hb hmerge).mp (hcoherent both.1 ?_)
      simp only [result, bind_eq_ok, Except.ok.injEq]
      exact ⟨a, ha, b, hb, both, hmerge, rfl⟩
  · intro hseparate c hc
    simp only [result, bind_eq_ok, Except.ok.injEq] at hc
    obtain ⟨a, ha, b, hb, ⟨merged, normalized⟩, hmerge, rfl⟩ := hc
    exact (hstep a b merged normalized ha hb hmerge).mpr (hseparate a b ha hb (by rw [hmerge]; rfl))

/-- In a tree of merges every candidate was first seen where the least of its observations was,
exactly if nowhere the earlier of two merged candidates lacks a field that the later one has. -/
theorem attribution_coherent_iff (m : Merging) :
    (m.firstLeast (rt.hashing hash) ∈ m.observations ∧ ∀ c ∈ m.observations,
      candidateAttributionRank (rt.hashing hash) (m.firstLeast (rt.hashing hash)) ≤
        candidateAttributionRank (rt.hashing hash) c) ∧
    (m.Every (Coherent (rt.hashing hash)) ↔ m.Every (Separate (rt.hashing hash))) := by
  refine ⟨firstLeast_least m, ?_⟩
  induction m with
  | observation c =>
    refine iff_of_true (fun d hd => ?_) trivial
    obtain rfl := Except.ok.inj hd
    rfl
  | merge left right leftEvidence rightEvidence ihleft ihright =>
    have hroot : ∀ {m : Merging}, m.Every (Coherent (rt.hashing hash)) →
        m.Coherent (rt.hashing hash) := by
      intro m hm
      cases m with
      | observation c => exact hm
      | merge l r le re => exact hm.2.2
    constructor
    · rintro ⟨hleft, hright, hself⟩
      exact ⟨ihleft.mp hleft, ihright.mp hright,
        (coherent_merge_iff rt hash (hroot hleft) (hroot hright)).mp hself⟩
    · rintro ⟨hleft, hright, hself⟩
      have hleft := ihleft.mpr hleft
      have hright := ihright.mpr hright
      exact ⟨hleft, hright, (coherent_merge_iff rt hash (hroot hleft) (hroot hright)).mpr hself⟩

end Merging

/-! ## A search without a city -/

/-- An observation of the first search, which asks for no city. -/
def withoutCity : ResumeCandidate :=
  { RunStores.observation 1 "card" none with
    firstQueryInstanceId := some "query-1"
    firstRoundNo := some 1
    firstBatchNo := some 1 }

/-- An observation of a later search in a city. -/
def withCity : ResumeCandidate :=
  { RunStores.observation 2 "card" none with
    firstQueryInstanceId := some "query-2"
    firstRoundNo := some 2
    firstLocationKey := some "Shanghai"
    firstLocationType := some "city"
    firstBatchNo := some 1 }

/-- The merged candidate has the query of the first search and the city of the later one: neither of
them was the first hit. -/
theorem withoutCity_combined : ∃ c,
    (Merging.merge (.observation withoutCity) (.observation withCity) [] []).result
        (RunStores.locationRuntime.hashing fun _ => "") = .ok c ∧
      ∀ observed ∈ [withoutCity, withCity], c.attribution ≠ observed.attribution := by
  have hattribution :
    ((Merging.merge (.observation withoutCity) (.observation withCity) [] []).result
      (RunStores.locationRuntime.hashing fun _ => "")).toOption.map ResumeCandidate.attribution =
        some { withoutCity.attribution with
          firstLocationKey := some "Shanghai", firstLocationType := some "city" } := by
    decide +kernel
  obtain ⟨c, hc, hattribution⟩ := Option.map_eq_some_iff.mp hattribution
  refine ⟨c, ?_, ?_⟩
  · cases hresult : (Merging.merge (.observation withoutCity) (.observation withCity) [] []).result
        (RunStores.locationRuntime.hashing fun _ => "") with
    | error e =>
      rw [hresult] at hc
      cases hc
    | ok d =>
      rw [hresult] at hc
      rw [Option.some.inj hc]
  · rw [hattribution]
    decide

end SeekTalent.CandidateStores
