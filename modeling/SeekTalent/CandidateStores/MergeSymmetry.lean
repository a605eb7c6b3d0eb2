import SeekTalent.CandidateStores.Attribution
import SeekTalent.SourceLanes.EvidenceOrder

/-!
# Two observations in either order

A merge ranks its two observations and does not care which of them is the left one: ranks that tie
end in hashes of the observations, so they tie only for observations that are the same.  What one of
them has the merged one has too, below a key as well, unless the better one has a value there that
is no mapping.

A candidate is a Python value here, whose mappings have no order: hashing and normalising are
functions of `ResumeCandidate.canonical`.
-/

namespace SeekTalent.CandidateStores

open Foundation SourceLanes

/-! ## Candidates as values -/

/-- The candidate with its mappings in one order. -/
def ResumeCandidate.canonical (c : ResumeCandidate) : ResumeCandidate :=
  { c with raw := Json.normalizeMembers c.raw }

/-- A runtime whose functions are functions of values: they do not see the order of a mapping, and
the hash of where a candidate was first seen is taken of the fields that say so. -/
def CandidateRuntime.onValues (rt : CandidateRuntime)
    (normalize : ResumeCandidate → Except LaneError NormalizedResume)
    (payloadHash : ResumeCandidate → String) (hash : Attribution → String) : CandidateRuntime :=
  { rt with
    normalizeResume := fun c => normalize c.canonical
    candidatePayloadHash := fun c => payloadHash c.canonical
    attributionHash := fun c => hash c.attribution }

/-- The same error, or the same candidate and the same normalised resume. -/
def SameOutcome (first second : Except LaneError (ResumeCandidate × NormalizedResume)) : Prop :=
  first.map (fun merged => (merged.1.canonical, merged.2)) =
    second.map (fun merged => (merged.1.canonical, merged.2))

/-- Something is under the path of the field. -/
def ResumeCandidate.HoldsAt (c : ResumeCandidate) (field : CandidateField) (path : List String) :
    Prop :=
  (c.value field).HoldsAt path

namespace ResumeCandidate

/-- Only where a candidate was first seen is taken from another one. -/
lemma attributedBy_congr (c : ResumeCandidate) {d e : ResumeCandidate}
    (h : d.attribution = e.attribution) : c.attributedBy d = c.attributedBy e := by
  rw [attribution, attribution, Attribution.mk.injEq] at h
  obtain ⟨h1, h2, h3, h4, h5, h6, h7, h8⟩ := h
  simp only [attributedBy, h1, h2, h3, h4, h5, h6, h7, h8]

/-- A candidate that was first seen in the same place is left as it is. -/
lemma attributedBy_self {c d : ResumeCandidate} (h : d.attribution = c.attribution) :
    c.attributedBy d = c :=
  c.attributedBy_congr h

/-- Candidates that are the same value fill each other up to the same value. -/
lemma canonical_filledUpFrom_comm {c d : ResumeCandidate} (h : c.canonical = d.canonical) :
    (c.filledUpFrom d).canonical = (d.filledUpFrom c).canonical := by
  have hraw : Json.normalizeMembers c.raw = Json.normalizeMembers d.raw := congrArg raw h
  have hobject : (Json.obj c.raw).normalize = (Json.obj d.raw).normalize := congrArg Json.obj hraw
  have hsame : Json.normalizeMembers (richerRaw c.raw d.raw) =
      Json.normalizeMembers (richerRaw d.raw c.raw) := by
    have hleft := Json.normalize_richer _ _ hobject
    have hright := Json.normalize_richer _ _ hobject.symm
    rw [← obj_richerRaw] at hleft hright
    exact Json.obj.inj (hleft.trans (hobject.trans hright.symm))
  have hd : d = { c with raw := d.raw } := by
    have hfields := congrArg (fun e => { e with raw := d.raw }) h.symm
    exact hfields
  rw [hd]
  simp only [canonical, filledUpFrom, hsame]

end ResumeCandidate

/-! ## Either order -/

section Symmetry

variable {rt : CandidateRuntime} {left right : ResumeCandidate}

/-- Which observation is the left one does not matter, only which one wins and which one is
earlier. -/
lemma mergedCandidate_swap (wins earlier : Bool) :
    mergedCandidate right left (!wins) (!earlier) = mergedCandidate left right wins earlier := by
  cases wins <;> cases earlier <;> rfl

/-- Of two observations that were first seen in one place, either is the earlier one. -/
lemma mergedCandidate_earlier (h : left.attribution = right.attribution)
    (wins earlier other : Bool) :
    mergedCandidate left right wins earlier = mergedCandidate left right wins other := by
  have hleft := left.attributedBy_congr h
  have hright := right.attributedBy_congr h
  cases wins <;> cases earlier <;> cases other <;>
    simp [mergedCandidate, hleft, hright]

/-- Of two observations that are the same value, either wins. -/
lemma mergedCandidate_wins (h : left.canonical = right.canonical) (wins other earlier : Bool) :
    (mergedCandidate left right wins earlier).canonical =
      (mergedCandidate left right other earlier).canonical := by
  have hsame : left.attribution = right.attribution := by
    show left.canonical.attribution = right.canonical.attribution
    rw [h]
  have hfilled := ResumeCandidate.canonical_filledUpFrom_comm h
  have hleft : left.attributedBy right = left := ResumeCandidate.attributedBy_self hsame.symm
  have hright : right.attributedBy left = right := ResumeCandidate.attributedBy_self hsame
  have hself : ∀ c : ResumeCandidate, c.attributedBy c = c := fun _ => rfl
  cases wins <;> cases other <;> cases earlier <;>
    simp [mergedCandidate, hleft, hright, hself, hfilled]

/-- The evidence of both sides is of the same providers in either order. -/
lemma sameProviders_comm {leftEvidence rightEvidence : List RuntimeSourceEvidence} :
    SameProviders leftEvidence rightEvidence ↔ SameProviders rightEvidence leftEvidence := by
  have hswap : ∀ {first second : List RuntimeSourceEvidence}, SameProviders first second →
      SameProviders second first := by
    intro first second h row hrow hsecond hfirst
    have hrow : row ∈ first ++ second := List.mem_append.mpr (List.mem_append.mp hrow).symm
    obtain ⟨hash, hhash, hother⟩ := h row hrow hfirst hsecond
    exact ⟨hash, hother, hhash⟩
  exact ⟨hswap, hswap⟩

/-- `normalize_resume` refuses both observations: each order raises the error of its left one. -/
def BothRefused (rt : CandidateRuntime) (left right : ResumeCandidate)
    (leftEvidence rightEvidence : List RuntimeSourceEvidence) : Prop :=
  ∃ e e', rt.normalizeResume left = .error e ∧ rt.normalizeResume right = .error e' ∧
    mergeResumeCandidateObservations rt left right leftEvidence rightEvidence = .error e ∧
      mergeResumeCandidateObservations rt right left rightEvidence leftEvidence = .error e'

section Orders

variable (rt) (normalize : ResumeCandidate → Except LaneError NormalizedResume)
  (payloadHash : ResumeCandidate → String) (hash : Attribution → String)

/-- Exactly one of two observations wins, or they are the same value. -/
lemma leftWins_swap
    (hpayload : payloadHash left.canonical = payloadHash right.canonical →
      left.canonical = right.canonical)
    (leftNormalized rightNormalized : NormalizedResume)
    (leftEvidence rightEvidence : List RuntimeSourceEvidence) :
    leftWins (rt.onValues normalize payloadHash hash) right left rightNormalized leftNormalized
      rightEvidence
        leftEvidence =
      !leftWins (rt.onValues normalize payloadHash hash) left right leftNormalized rightNormalized
        leftEvidence rightEvidence ∨ left.canonical = right.canonical := by
  unfold leftWins
  obtain hlt | heq | hlt := lt_trichotomy
    (candidateObservationRank (rt.onValues normalize payloadHash hash) left leftNormalized
      leftEvidence)
    (candidateObservationRank (rt.onValues normalize payloadHash hash) right rightNormalized
      rightEvidence)
  · exact .inl (by simp [hlt.le, hlt.not_ge])
  · -- The last component of the rank is the hash.
    have hlast := congrArg (fun rank => (ofLex (ofLex (ofLex (ofLex (ofLex rank).2).2).2).2).2) heq
    exact .inr (hpayload hlast)
  · exact .inl (by simp [hlt.le, hlt.not_ge])

/-- Exactly one of two observations is the earlier one, or they were first seen in one place. -/
lemma earlier_swap
    (hattribution : hash left.attribution = hash right.attribution →
      left.attribution = right.attribution) :
    decide (candidateAttributionRank (rt.onValues normalize payloadHash hash) right ≤
        candidateAttributionRank (rt.onValues normalize payloadHash hash) left) =
      !decide (candidateAttributionRank (rt.onValues normalize payloadHash hash) left ≤
        candidateAttributionRank (rt.onValues normalize payloadHash hash) right) ∨
      left.attribution = right.attribution := by
  obtain hlt | heq | hlt := lt_trichotomy
    (candidateAttributionRank (rt.onValues normalize payloadHash hash) left)
    (candidateAttributionRank (rt.onValues normalize payloadHash hash) right)
  · exact .inl (by simp [hlt.le, hlt.not_ge])
  · have hlast := congrArg (fun rank => (ofLex (ofLex (ofLex (ofLex (ofLex rank).2).2).2).2).2) heq
    exact .inr (hattribution hlast)
  · exact .inl (by simp [hlt.le, hlt.not_ge])

/-- The two orders merge to one value. -/
lemma canonical_mergedCandidate_swap {wins other earlier later : Bool}
    (hwins : other = !wins ∨ left.canonical = right.canonical)
    (hearlier : later = !earlier ∨ left.attribution = right.attribution) :
    (mergedCandidate right left other later).canonical =
      (mergedCandidate left right wins earlier).canonical := by
  have hswap : mergedCandidate right left other later = mergedCandidate left right (!other)
      (!later) := by
    have h : mergedCandidate right left (!!other) (!!later) = mergedCandidate left right (!other)
        (!later) :=
      mergedCandidate_swap _ _
    rwa [Bool.not_not, Bool.not_not] at h
  have hlater : mergedCandidate left right (!other) (!later) = mergedCandidate left right (!other)
      earlier := by
    obtain rfl | hsame := hearlier
    · rw [Bool.not_not]
    · exact mergedCandidate_earlier hsame _ _ _
  rw [hswap, hlater]
  obtain rfl | hsame := hwins
  · rw [Bool.not_not]
  · exact mergedCandidate_wins hsame _ _ _

/-- A merge of two observations that are not refused. -/
lemma merge_eq_map {rt : CandidateRuntime} {leftNormalized rightNormalized : NormalizedResume}
    {leftEvidence rightEvidence : List RuntimeSourceEvidence} (hid : left.resumeId = right.resumeId)
    (hproviders : SameProviders leftEvidence rightEvidence)
    (hleft : rt.normalizeResume left = .ok leftNormalized)
    (hright : rt.normalizeResume right = .ok rightNormalized) :
    mergeResumeCandidateObservations rt left right leftEvidence rightEvidence =
      (rt.normalizeResume (mergedCandidate left right
        (leftWins rt left right leftNormalized rightNormalized leftEvidence rightEvidence)
        (decide (candidateAttributionRank rt left ≤
          candidateAttributionRank rt right)))).map fun normalized =>
          (mergedCandidate left right
            (leftWins rt left right leftNormalized rightNormalized leftEvidence rightEvidence)
            (decide (candidateAttributionRank rt left ≤ candidateAttributionRank rt right)),
              normalized) := by
  unfold mergeResumeCandidateObservations require
  rw [if_pos hid, if_pos hproviders, hleft, hright]
  dsimp only [bind, Except.bind]
  cases rt.normalizeResume _ <;> rfl

/-- The two orders come to one outcome, unless both observations are refused. -/
theorem sameOutcome_swap (hid : left.resumeId = right.resumeId)
    (hpayload : payloadHash left.canonical = payloadHash right.canonical →
      left.canonical = right.canonical)
    (hattribution : hash left.attribution = hash right.attribution →
      left.attribution = right.attribution)
    (leftEvidence rightEvidence : List RuntimeSourceEvidence) :
    SameOutcome
        (mergeResumeCandidateObservations (rt.onValues normalize payloadHash hash) left right
          leftEvidence rightEvidence)
        (mergeResumeCandidateObservations (rt.onValues normalize payloadHash hash) right left
          rightEvidence leftEvidence) ∨
      BothRefused
        (rt.onValues normalize payloadHash hash) left right leftEvidence rightEvidence := by
  by_cases hproviders : SameProviders leftEvidence rightEvidence
  · have hproviders' := sameProviders_comm.mp hproviders
    cases hleft : (rt.onValues normalize payloadHash hash).normalizeResume left with
    | error e =>
      cases hright : (rt.onValues normalize payloadHash hash).normalizeResume right with
      | error e' =>
        refine .inr ⟨e, e', hleft, hright, ?_, ?_⟩
        · unfold mergeResumeCandidateObservations require
          rw [if_pos hid, if_pos hproviders, hleft]
          rfl
        · unfold mergeResumeCandidateObservations require
          rw [if_pos hid.symm, if_pos hproviders', hright]
          rfl
      | ok rightNormalized =>
        left
        unfold mergeResumeCandidateObservations require
        rw [if_pos hid, if_pos hid.symm, if_pos hproviders, if_pos hproviders', hleft, hright]
        rfl
    | ok leftNormalized =>
      left
      cases hright : (rt.onValues normalize payloadHash hash).normalizeResume right with
      | error e =>
        unfold mergeResumeCandidateObservations require
        rw [if_pos hid, if_pos hid.symm, if_pos hproviders, if_pos hproviders', hleft, hright]
        rfl
      | ok rightNormalized =>
        rw [merge_eq_map hid hproviders hleft hright,
          merge_eq_map hid.symm hproviders' hright hleft]
        have hmerged := canonical_mergedCandidate_swap
          (leftWins_swap rt normalize payloadHash hash hpayload leftNormalized rightNormalized
            leftEvidence rightEvidence)
          (earlier_swap rt normalize payloadHash hash hattribution)
        have hnormalize : ∀ c d : ResumeCandidate, c.canonical = d.canonical →
            (rt.onValues normalize payloadHash hash).normalizeResume c =
              (rt.onValues normalize payloadHash hash).normalizeResume d :=
          fun c d h => congrArg normalize h
        unfold SameOutcome
        rw [hnormalize _ _ hmerged]
        cases (rt.onValues normalize payloadHash hash).normalizeResume _ with
        | error e => rfl
        | ok normalized =>
          exact congrArg (fun c => Except.ok (c, normalized)) hmerged.symm
  · left
    have hproviders' : ¬SameProviders rightEvidence leftEvidence := fun h =>
      hproviders (sameProviders_comm.mpr h)
    unfold mergeResumeCandidateObservations require
    rw [if_pos hid, if_pos hid.symm, if_neg hproviders, if_neg hproviders']
    rfl

end Orders

end Symmetry

/-! ## Nothing is lost -/

/-- The merged candidate has what one of two candidates has, unless the winner has a value in the
way that is neither empty nor a mapping, and it has the source references of both. -/
structure KeepsBoth (left right winner merged : ResumeCandidate) : Prop where
  holds : ∀ field path, left.HoldsAt field path ∨ right.HoldsAt field path →
    (winner.value field).blocks path = false → merged.HoldsAt field path
  references : ∀ reference, reference ∈ merged.sourceReferences ↔
    reference ∈ left.sourceReferences ∨ reference ∈ right.sourceReferences

namespace ResumeCandidate

/-- A field that is no mapping holds something only as a whole. -/
lemma path_of_holdsAt {c : ResumeCandidate} {field : CandidateField} (h : field ≠ .raw)
    {path : List String} (hholds : c.HoldsAt field path) : path = [] := by
  cases path with
  | nil => rfl
  | cons key path =>
    obtain ⟨members, -, heq, -⟩ := Json.holdsAt_cons.mp hholds
    exact absurd heq (c.value_ne_obj h members)

/-- What a candidate that is filled up has. -/
lemma holdsAt_filledUpFrom {c d : ResumeCandidate} {field : CandidateField} {path : List String}
    (h : field ≠ .sourceReferences) : (c.filledUpFrom d).HoldsAt field path ↔
      c.HoldsAt field path ∨ d.HoldsAt field path ∧ (c.value field).blocks path = false := by
  rw [HoldsAt, value_filledUpFrom c d h]
  exact Json.holdsAt_richer path _ _

/-- The source references of a candidate that is filled up are those of both. -/
lemma mem_sourceReferences_filledUpFrom {c d : ResumeCandidate} {reference : SourceReference} :
    reference ∈ (c.filledUpFrom d).sourceReferences ↔
      reference ∈ c.sourceReferences ∨ reference ∈ d.sourceReferences :=
  mem_mergeSourceReferences

/-- The field of source references holds something when there are some. -/
lemma holdsAt_sourceReferences {c : ResumeCandidate} {path : List String} :
    c.HoldsAt .sourceReferences path ↔ path = [] ∧ c.sourceReferences ≠ [] := by
  constructor
  · intro h
    obtain rfl := path_of_holdsAt (by simp) h
    rw [HoldsAt, Json.holdsAt_nil] at h
    refine ⟨rfl, fun hnone => ?_⟩
    rw [value, hnone] at h
    cases h
  · rintro ⟨rfl, hsome⟩
    rw [HoldsAt, Json.holdsAt_nil]
    simpa [value, textsJson, Json.isEmpty] using hsome

end ResumeCandidate

/-- The winner, filled up from the other one, has what either has. -/
lemma keepsBoth_filledUpFrom {winner loser earliest later : ResumeCandidate}
    (hfirst : (earliest = winner ∧ later = loser) ∨ (earliest = loser ∧ later = winner)) :
    KeepsBoth winner loser winner
      ((winner.attributedBy earliest).filledUpFrom (loser.attributedBy later)) := by
  refine ⟨fun field path hheld hfree => ?_, fun reference => ?_⟩
  · by_cases hreferences : field = .sourceReferences
    · subst hreferences
      have hsome : path = [] ∧ (winner.sourceReferences ≠ [] ∨ loser.sourceReferences ≠ []) := by
        obtain hheld | hheld := hheld
        · obtain ⟨hpath, hsome⟩ := ResumeCandidate.holdsAt_sourceReferences.mp hheld
          exact ⟨hpath, .inl hsome⟩
        · obtain ⟨hpath, hsome⟩ := ResumeCandidate.holdsAt_sourceReferences.mp hheld
          exact ⟨hpath, .inr hsome⟩
      exact ResumeCandidate.holdsAt_sourceReferences.mpr
        ⟨hsome.1, mergeSourceReferences_ne_nil_iff.mpr hsome.2⟩
    · have hfield : ∀ c first : ResumeCandidate, (c.attributedBy first).HoldsAt field path ↔
          if field.isEarliest then first.HoldsAt field path else c.HoldsAt field path := by
        intro c first
        unfold ResumeCandidate.HoldsAt
        rw [ResumeCandidate.value_attributedBy]
        split <;> rfl
      rw [ResumeCandidate.holdsAt_filledUpFrom hreferences, hfield, hfield,
        ResumeCandidate.value_attributedBy]
      by_cases hearliest : field.isEarliest = true
      · -- Such a field is no mapping, so nothing is in the way.
        have hpath : path = [] := by
          have hraw : field ≠ .raw := by
            rintro rfl
            cases hearliest
          obtain hheld | hheld := hheld
          · exact ResumeCandidate.path_of_holdsAt hraw hheld
          · exact ResumeCandidate.path_of_holdsAt hraw hheld
        subst hpath
        rw [if_pos hearliest, if_pos hearliest]
        have hopen : ∀ value : Json, value.blocks [] = false := fun value => by cases value <;> rfl
        obtain ⟨rfl, rfl⟩ | ⟨rfl, rfl⟩ := hfirst
        · exact hheld.imp id fun h => ⟨h, hopen _⟩
        · exact hheld.symm.imp id fun h => ⟨h, hopen _⟩
      · rw [if_neg hearliest, if_neg hearliest, if_neg hearliest]
        exact hheld.imp id fun h => ⟨h, hfree⟩
  · exact ResumeCandidate.mem_sourceReferences_filledUpFrom

/-- A merged candidate has what either of the two has. -/
theorem keepsBoth_mergedCandidate (left right : ResumeCandidate) (wins earlier : Bool) :
    KeepsBoth left right (if wins then left else right)
      (mergedCandidate left right wins earlier) := by
  have hswap : ∀ {first second winner merged : ResumeCandidate},
    KeepsBoth first second winner merged →
      KeepsBoth second first winner merged := fun h =>
    ⟨fun field path hheld => h.holds field path hheld.symm, fun reference =>
      (h.references reference).trans or_comm⟩
  cases wins with
  | true =>
    cases earlier with
    | true => exact keepsBoth_filledUpFrom (.inl ⟨rfl, rfl⟩)
    | false => exact keepsBoth_filledUpFrom (.inr ⟨rfl, rfl⟩)
  | false =>
    cases earlier with
    | true => exact hswap (keepsBoth_filledUpFrom (.inr ⟨rfl, rfl⟩))
    | false => exact hswap (keepsBoth_filledUpFrom (.inl ⟨rfl, rfl⟩))

/-! ## Evidence rows -/

/-- The fields of an evidence row. -/
inductive EvidenceField where
  | evidenceId | source | provider | sourcePlanId | sourceLaneRunId | evidenceLevel
  | candidateResumeId
  | providerCandidateKeyHash | protectedContactHashes | providerRank | queryFingerprint
  | providerSnapshotRef
  | safeSummaryRef | protectedArtifactRef | collectedAt | scoreHint | reasonCode | safeReasonCodes
  | sourceReferences
  deriving DecidableEq

/-- The text of an evidence level. -/
def evidenceLevelText : RuntimeEvidenceLevel → String
  | .card => "card"
  | .detail => "detail"
  | .final => "final"

/-- A field of an evidence row. -/
def evidenceValue (row : RuntimeSourceEvidence) : EvidenceField → Json
  | .evidenceId => .str row.evidenceId
  | .source => .str row.source
  | .provider => .str row.provider
  | .sourcePlanId => textJson row.sourcePlanId
  | .sourceLaneRunId => textJson row.sourceLaneRunId
  | .evidenceLevel => .str (evidenceLevelText row.evidenceLevel)
  | .candidateResumeId => .str row.candidateResumeId
  | .providerCandidateKeyHash => .str row.providerCandidateKeyHash
  | .protectedContactHashes => textsJson row.protectedContactHashes
  | .providerRank => numberJson row.providerRank
  | .queryFingerprint => textJson row.queryFingerprint
  | .providerSnapshotRef => textJson row.providerSnapshotRef
  | .safeSummaryRef => textJson row.safeSummaryRef
  | .protectedArtifactRef => textJson row.protectedArtifactRef
  | .collectedAt => .str row.collectedAt
  | .scoreHint => numberJson row.scoreHint
  | .reasonCode => textJson row.reasonCode
  | .safeReasonCodes => textsJson row.safeReasonCodes
  | .sourceReferences => textsJson (row.sourceReferences.map SourceReference.url)

/-- The merged row has what one of two rows has, and the references, contact hashes and reason codes
of both. -/
structure KeepsBothRows (left right merged : RuntimeSourceEvidence) : Prop where
  holds : ∀ field, (evidenceValue left field).isEmpty = false ∨
    (evidenceValue right field).isEmpty = false → (evidenceValue merged field).isEmpty = false
  references : ∀ reference, reference ∈ merged.sourceReferences ↔
    reference ∈ left.sourceReferences ∨ reference ∈ right.sourceReferences
  contactHashes : ∀ hash, hash ∈ merged.protectedContactHashes ↔
    hash ∈ left.protectedContactHashes ∨ hash ∈ right.protectedContactHashes
  reasonCodes : ∀ code, code ∈ merged.safeReasonCodes ↔
    code ∈ left.safeReasonCodes ∨ code ∈ right.safeReasonCodes

/-- The richer of two values is empty only if both are. -/
lemma isEmpty_richer {preferred fallback : Json}
    (h : preferred.isEmpty = false ∨ fallback.isEmpty = false) :
    (preferred.richer fallback).isEmpty = false := by
  have hopen : preferred.blocks [] = false := by cases preferred <;> rfl
  rw [← Json.holdsAt_nil, Json.holdsAt_richer, Json.holdsAt_nil, Json.holdsAt_nil]
  exact h.imp id fun hfallback => ⟨hfallback, hopen⟩

/-- A list that has the elements of two is empty only if both are. -/
lemma isEmpty_textsJson {left right merged : List String}
    (hmem : ∀ x, x ∈ merged ↔ x ∈ left ∨ x ∈ right)
    (h : (textsJson left).isEmpty = false ∨ (textsJson right).isEmpty = false) :
    (textsJson merged).isEmpty = false := by
  have hne : ∀ {values : List String}, (textsJson values).isEmpty = false ↔ ∃ x, x ∈ values := by
    intro values
    cases values with
    | nil => simp [textsJson, Json.isEmpty]
    | cons x rest => exact iff_of_true rfl ⟨x, List.mem_cons_self⟩
  rw [hne] at h ⊢
  rw [hne] at h
  obtain ⟨x, hx⟩ | ⟨x, hx⟩ := h
  · exact ⟨x, (hmem x).mpr (.inl hx)⟩
  · exact ⟨x, (hmem x).mpr (.inr hx)⟩

/-- The better of two rows, filled up from the other one, has what either has. -/
lemma keepsBothRows_payload (winner loser : RuntimeSourceEvidence) :
    KeepsBothRows winner loser (mergeEvidencePayload winner loser) := by
  have hmem : ∀ {first second : List String} {x : String}, x ∈ sortedTexts (first ++ second) ↔
      x ∈ first ∨ x ∈ second := by simp
  have hreferences : ∀ reference, reference ∈ (mergeEvidencePayload winner loser).sourceReferences ↔
      reference ∈ winner.sourceReferences ∨ reference ∈ loser.sourceReferences :=
    fun _ => mem_mergeSourceReferences
  have htext : ∀ {preferred fallback : Option String},
      (textJson preferred).isEmpty = false ∨ (textJson fallback).isEmpty = false →
        (textJson (richerText preferred fallback)).isEmpty = false := fun h => by
    rw [textJson_richerText]
    exact isEmpty_richer h
  have hstring : ∀ {preferred fallback : String},
      (Json.str preferred).isEmpty = false ∨ (Json.str fallback).isEmpty = false →
        (Json.str (richerString preferred fallback)).isEmpty = false := fun h => by
    rw [str_richerString]
    exact isEmpty_richer h
  have hnumber : ∀ {preferred fallback : Option Int},
      (numberJson preferred).isEmpty = false ∨ (numberJson fallback).isEmpty = false →
        (numberJson (richerNumber preferred fallback)).isEmpty = false := fun h => by
    rw [numberJson_richerNumber]
    exact isEmpty_richer h
  refine ⟨fun field h => ?_, hreferences, fun _ => hmem, fun _ => hmem⟩
  cases field with
  | evidenceId => exact hstring h
  | source => exact hstring h
  | provider => exact hstring h
  | candidateResumeId => exact hstring h
  | providerCandidateKeyHash => exact hstring h
  | collectedAt => exact hstring h
  | providerRank => exact hnumber h
  | scoreHint => exact hnumber h
  | evidenceLevel =>
    show (Json.str (evidenceLevelText winner.evidenceLevel)).isEmpty = false
    cases winner.evidenceLevel <;> decide
  | protectedContactHashes => exact isEmpty_textsJson (fun _ => hmem) h
  | safeReasonCodes => exact isEmpty_textsJson (fun _ => hmem) h
  | sourceReferences =>
    refine isEmpty_textsJson (fun url => ?_) h
    simp only [List.mem_map, hreferences, or_and_right, exists_or]
  | _ => exact htext h

/-- Which row is the first makes no difference. -/
lemma KeepsBothRows.swap {first second merged : RuntimeSourceEvidence}
    (h : KeepsBothRows first second merged) : KeepsBothRows second first merged :=
  ⟨fun field hheld => h.holds field hheld.symm, fun x => (h.references x).trans or_comm,
    fun x => (h.contactHashes x).trans or_comm, fun x => (h.reasonCodes x).trans or_comm⟩

/-- Two deliveries of a row merge to the same row in either order, and it has what either has. -/
theorem mergeRuntimeSourceEvidence_symmetric (rt : ObservationRuntime)
    {left right : RuntimeSourceEvidence} (hidentity : left.identityFields = right.identityFields)
    (hpayload : rt.evidencePayloadHash left = rt.evidencePayloadHash right → left = right) :
    mergeRuntimeSourceEvidence rt left right = mergeRuntimeSourceEvidence rt right left ∧
      ∃ merged, mergeRuntimeSourceEvidence rt left right = .ok merged ∧
        KeepsBothRows left right merged := by
  unfold mergeRuntimeSourceEvidence require
  rw [if_pos hidentity, if_pos hidentity.symm]
  refine ⟨?_, _, rfl, ?_⟩
  · obtain hlt | heq | hlt := lt_trichotomy (runtimeSourceEvidenceRank rt left)
      (runtimeSourceEvidenceRank rt right)
    · rw [if_neg hlt.not_ge, if_pos hlt.le]
    · have hlast := congrArg (fun rank => (ofLex (ofLex (ofLex rank).2).2).2) heq
      rw [hpayload hlast]
    · rw [if_pos hlt.le, if_neg hlt.not_ge]
  · split
    · exact keepsBothRows_payload left right
    · exact (keepsBothRows_payload right left).swap

/-! ## Both together -/

/-- Two observations of a resume, and two deliveries of an evidence row, merge to the same in either
order, unless `normalize_resume` refuses both observations; and what either has the merged one has,
unless the better observation has a value that is neither empty nor a mapping in the way. -/
theorem merge_symmetric_lossless (rt : CandidateRuntime)
    (normalize : ResumeCandidate → Except LaneError NormalizedResume)
    (payloadHash : ResumeCandidate → String)
    (hash : Attribution → String) (left right : ResumeCandidate)
    (leftEvidence rightEvidence : List RuntimeSourceEvidence) (hid : left.resumeId = right.resumeId)
    (hpayload : payloadHash left.canonical = payloadHash right.canonical →
      left.canonical = right.canonical)
    (hattribution : hash left.attribution = hash right.attribution →
      left.attribution = right.attribution) :
    (SameOutcome
        (mergeResumeCandidateObservations (rt.onValues normalize payloadHash hash) left right
          leftEvidence rightEvidence)
        (mergeResumeCandidateObservations (rt.onValues normalize payloadHash hash) right left
          rightEvidence leftEvidence) ∨
      BothRefused (rt.onValues normalize payloadHash hash) left right leftEvidence rightEvidence) ∧
    (∀ merged normalized,
      mergeResumeCandidateObservations
        (rt.onValues normalize payloadHash hash) left right leftEvidence
          rightEvidence = .ok (merged, normalized) →
        ∃ leftNormalized rightNormalized, normalize left.canonical = .ok leftNormalized ∧
          normalize right.canonical = .ok rightNormalized ∧
            KeepsBoth left right
              (if leftWins (rt.onValues normalize payloadHash hash) left right leftNormalized
                rightNormalized leftEvidence rightEvidence then left else right) merged) ∧
    ∀ row row' : RuntimeSourceEvidence, row.identityFields = row'.identityFields →
      (rt.evidence.evidencePayloadHash row = rt.evidence.evidencePayloadHash row' → row = row') →
        mergeRuntimeSourceEvidence rt.evidence row row' = mergeRuntimeSourceEvidence rt.evidence
          row' row ∧
          ∃ merged, mergeRuntimeSourceEvidence rt.evidence row row' = .ok merged ∧
            KeepsBothRows row row' merged := by
  refine ⟨sameOutcome_swap rt normalize payloadHash hash hid hpayload hattribution leftEvidence
    rightEvidence, fun merged normalized h => ?_, fun row row' =>
    mergeRuntimeSourceEvidence_symmetric rt.evidence⟩
  simp only [mergeResumeCandidateObservations, bind_eq_ok, require_eq_ok, Except.ok.injEq,
    Prod.mk.injEq] at h
  obtain ⟨-, -, -, -, leftNormalized, hleft, rightNormalized, hright, -, -, rfl, -⟩ := h
  exact ⟨leftNormalized, rightNormalized, hleft, hright, keepsBoth_mergedCandidate left right _ _⟩

/-! ## What is lost -/

/-- A normaliser that refuses a payload with the text of a page, and names the field. -/
def refuseText (c : ResumeCandidate) : Except LaneError NormalizedResume :=
  match c.raw.find? (fun member => member.1 = "fullText" ∨ member.1 = "rawText") with
  | some member =>
    .error (.valueError ("Liepin raw payload must not include whole-page text fields: " ++
      member.1))
  | none => .ok ⟨c.resumeId, 0, none, .obj [], .obj []⟩

/-- The functions of a run, with hashes that tell the observations of different queries apart. -/
def queryRuntime : CandidateRuntime :=
  RunStores.locationRuntime.onValues refuseText (fun c => c.firstQueryInstanceId.getD "")
    (fun attribution => attribution.firstQueryInstanceId.getD "")

/-- An observation with a query and a payload. -/
def queryObservation (query : String) (raw : List (String × Json)) : ResumeCandidate where
  resumeId := "resume"
  dedupKey := "resume"
  firstQueryInstanceId := some query
  searchText := "python"
  raw := raw

/-- The salary as a text. -/
def salaryText : ResumeCandidate :=
  queryObservation "query-2" [("salary", .str "20k-30k")]

/-- The salary as a mapping. -/
def salaryRange : ResumeCandidate :=
  queryObservation "query-1" [("salary", .obj [("min", .str "20k")])]

/-- The two salaries merge in either order, to the text of the better observation. -/
theorem salaryText_symmetric :
    SameOutcome (mergeResumeCandidateObservations queryRuntime salaryText salaryRange [] [])
        (mergeResumeCandidateObservations queryRuntime salaryRange salaryText [] []) ∨
      BothRefused queryRuntime salaryText salaryRange [] [] :=
  (merge_symmetric_lossless RunStores.locationRuntime refuseText
    (fun c => c.firstQueryInstanceId.getD "")
    (fun attribution => attribution.firstQueryInstanceId.getD "") salaryText salaryRange [] [] rfl
    (fun h => absurd h (by decide)) (fun h => absurd h (by decide))).1

/-- The least salary of the one observation is lost to the text of the other, and of two
observations that are refused the left one names the error. -/
theorem salaryRange_lost :
    (∃ merged normalized,
      mergeResumeCandidateObservations queryRuntime salaryText salaryRange [] [] = .ok
        (merged, normalized) ∧
        salaryRange.HoldsAt .raw ["salary", "min"] ∧ ¬merged.HoldsAt .raw ["salary", "min"]) ∧
    ∃ e e' : LaneError, e ≠ e' ∧
      mergeResumeCandidateObservations queryRuntime
        (queryObservation "query-1" [("fullText", .str "page")])
        (queryObservation "query-2" [("rawText", .str "page")]) [] [] = .error e ∧
      mergeResumeCandidateObservations queryRuntime
        (queryObservation "query-2" [("rawText", .str "page")])
        (queryObservation "query-1" [("fullText", .str "page")]) [] [] = .error e' := by
  refine ⟨?_, _, _, ?_, rfl, rfl⟩
  · have hlost : (mergeResumeCandidateObservations queryRuntime salaryText salaryRange []
      []).toOption.any
        (fun merged => ((merged.1.value .raw).valueAt ["salary", "min"]).isNone) = true := by
      decide +kernel
    cases hmerge : mergeResumeCandidateObservations queryRuntime salaryText salaryRange [] [] with
    | error e =>
      rw [hmerge] at hlost
      cases hlost
    | ok both =>
      rw [hmerge] at hlost
      refine ⟨both.1, both.2, rfl, ⟨.str "20k", rfl, rfl⟩, ?_⟩
      rintro ⟨held, hheld, -⟩
      have hnone := Option.isNone_iff_eq_none.mp hlost
      rw [hheld] at hnone
      cases hnone
  · decide

end SeekTalent.CandidateStores
