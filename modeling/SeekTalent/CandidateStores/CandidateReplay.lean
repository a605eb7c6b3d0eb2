import SeekTalent.CandidateStores.EvidenceFolding

/-!
# An observation that comes again

A merged candidate has in every field the richer of two values, so it has nothing to gain from
either of the observations that it was merged from: merging one of them again changes the candidate
only if that observation outranks it, or was seen earlier, and has other values
(`canonical_mergedCandidate_again_iff`). A candidate that was stored as it was delivered is changed
only in its source references, which a merge sorts (`canonical_mergedCandidate_self_iff`).
-/

namespace SeekTalent.CandidateStores

open Foundation SourceLanes

namespace ResumeCandidate

/-- Only the mappings in `raw` have an order. -/
lemma normalize_value (c : ResumeCandidate) {field : CandidateField} (h : field ≠ .raw) :
    (c.value field).normalize = c.value field := by
  have htext : ∀ text : Option String, (textJson text).normalize = textJson text := by
    intro text
    cases text <;> rfl
  have hnumber : ∀ number : Option Int, (numberJson number).normalize = numberJson number := by
    intro number
    cases number <;> rfl
  have htexts : ∀ texts : List String, (textsJson texts).normalize = textsJson texts := by
    intro texts
    refine congrArg Json.arr ?_
    induction texts with
    | nil => rfl
    | cons first rest ih => exact congrArg (Json.str first :: ·) ih
  cases field with
  | raw => exact absurd rfl h
  | sourceRound => exact hnumber _
  | firstRoundNo => exact hnumber _
  | firstBatchNo => exact hnumber _
  | age => exact hnumber _
  | workYear => exact hnumber _
  | educationSummaries => exact htexts _
  | workExperienceSummaries => exact htexts _
  | projectNames => exact htexts _
  | workSummaries => exact htexts _
  | sourceReferences => exact htexts _
  | resumeId => rfl
  | snapshotSha256 => rfl
  | dedupKey => rfl
  | searchText => rfl
  | usedFallbackId => rfl
  | _ => exact htext _

/-- A candidate is a value of its fields. -/
lemma canonical_eq_iff {c d : ResumeCandidate} : c.canonical = d.canonical ↔
    c.sourceReferences = d.sourceReferences ∧
      ∀ field, field ≠ .sourceReferences →
        (c.value field).normalize = (d.value field).normalize := by
  constructor
  · intro h
    have hreferences := congrArg sourceReferences h
    refine ⟨hreferences, fun field _ => ?_⟩
    by_cases hraw : field = .raw
    · subst hraw
      have hmembers := congrArg raw h
      exact congrArg Json.obj hmembers
    · rw [normalize_value c hraw, normalize_value d hraw]
      have hvalue := congrArg (fun e => value e field) h
      cases field <;> first | exact absurd rfl hraw | exact hvalue
  · rintro ⟨hreferences, hvalues⟩
    have hvalue : ∀ field, field ≠ .sourceReferences → field ≠ .raw →
        c.value field = d.value field := by
      intro field hfield hraw
      rw [← normalize_value c hraw, ← normalize_value d hraw]
      exact hvalues field hfield
    have htext : ∀ {text text' : Option String}, textJson text = textJson text' → text = text' := by
      intro text text' h
      cases text <;> cases text' <;> cases h <;> rfl
    have hnumber : ∀ {number number' : Option Int}, numberJson number = numberJson number' →
        number = number' := by
      intro number number' h
      cases number <;> cases number' <;> cases h <;> rfl
    have htexts : ∀ {texts texts' : List String}, textsJson texts = textsJson texts' →
        texts = texts' :=
      fun h => List.map_injective_iff.mpr (fun _ _ => Json.str.inj) (Json.arr.inj h)
    have hstring : ∀ {text text' : String}, Json.str text = .str text' → text = text' := fun h =>
      Json.str.inj h
    have hraw : Json.normalizeMembers c.raw = Json.normalizeMembers d.raw :=
      Json.obj.inj (hvalues .raw (by decide))
    rw [canonical, canonical, hraw, ResumeCandidate.mk.injEq]
    have hkept : ∀ field, field ≠ .sourceReferences ∧ field ≠ .raw →
        c.value field = d.value field :=
      fun field hfield => hvalue field hfield.1 hfield.2
    exact ⟨hstring (hkept .resumeId (by decide)), htext (hkept .sourceResumeId (by decide)),
      hstring (hkept .snapshotSha256 (by decide)), hstring (hkept .dedupKey (by decide)),
      Json.bool.inj (hkept .usedFallbackId (by decide)), hnumber (hkept .sourceRound (by decide)),
      htext (hkept .firstQueryInstanceId (by decide)),
      htext (hkept .firstQueryFingerprint (by decide)), hnumber (hkept .firstRoundNo (by decide)),
      htext (hkept .firstLaneType (by decide)), htext (hkept .firstLocationKey (by decide)),
      htext (hkept .firstLocationType (by decide)), hnumber (hkept .firstBatchNo (by decide)),
      hnumber (hkept .age (by decide)), htext (hkept .gender (by decide)),
      htext (hkept .nowLocation (by decide)), hnumber (hkept .workYear (by decide)),
      htext (hkept .expectedLocation (by decide)), htext (hkept .expectedJobCategory (by decide)),
      htext (hkept .expectedIndustry (by decide)), htext (hkept .expectedSalary (by decide)),
      htext (hkept .activeStatus (by decide)), htext (hkept .jobState (by decide)),
      htexts (hkept .educationSummaries (by decide)),
      htexts (hkept .workExperienceSummaries (by decide)), htexts (hkept .projectNames (by decide)),
      htexts (hkept .workSummaries (by decide)), hreferences,
      hstring (hkept .searchText (by decide)), rfl⟩

/-- Preferring the values of the observation to those of the stored candidate gives the stored ones,
in the fields that say where the candidate was first seen, or in the others. -/
def Repeats (c stored : ResumeCandidate) (earliest : Bool) : Prop :=
  ∀ field, field ≠ .sourceReferences → field.isEarliest = earliest →
    ((c.value field).richer (stored.value field)).normalize = (stored.value field).normalize

end ResumeCandidate

/-- A field of a merged candidate. -/
lemma value_mergedCandidate (left right : ResumeCandidate) (wins earlier : Bool)
    {field : CandidateField} (h : field ≠ .sourceReferences) :
    (mergedCandidate left right wins earlier).value field =
      if (if field.isEarliest then earlier else wins) then (left.value field).richer
        (right.value field)
      else (right.value field).richer (left.value field) := by
  cases wins <;> cases earlier <;> cases hearliest : field.isEarliest <;>
    simp [mergedCandidate, ResumeCandidate.value_filledUpFrom _ _ h,
      ResumeCandidate.value_attributedBy, hearliest]

/-- The source references of a merged candidate. -/
lemma sourceReferences_mergedCandidate (left right : ResumeCandidate) (wins earlier : Bool) :
    (mergedCandidate left right wins earlier).sourceReferences =
      mergeSourceReferences left.sourceReferences right.sourceReferences := by
  have hcomm : mergeSourceReferences right.sourceReferences left.sourceReferences =
      mergeSourceReferences left.sourceReferences right.sourceReferences :=
    mergeSourceReferences_congr fun _ => or_comm
  cases wins <;> cases earlier <;> first | exact hcomm | rfl

/-- Merging an observation with itself changes the order of its source references. -/
theorem canonical_mergedCandidate_self_iff {c : ResumeCandidate} {wins earlier : Bool} :
    (mergedCandidate c c wins earlier).canonical = c.canonical ↔
      c.sourceReferences = mergeSourceReferences c.sourceReferences [] := by
  have hself : mergeSourceReferences c.sourceReferences c.sourceReferences =
      mergeSourceReferences c.sourceReferences [] := mergeSourceReferences_congr fun x => by simp
  rw [ResumeCandidate.canonical_eq_iff, sourceReferences_mergedCandidate, hself]
  refine ⟨fun h => h.1.symm, fun h => ⟨h.symm, fun field hfield => ?_⟩⟩
  rw [value_mergedCandidate c c wins earlier hfield, ite_self]
  exact Json.normalize_richer _ _ rfl

/-- Merging an observation again into a candidate that it was merged into leaves the candidate as it
is exactly if the candidate wins, or the observation repeats its values, in the fields that say
where it was first seen and in the others. -/
theorem canonical_mergedCandidate_again_iff {old c : ResumeCandidate}
    {first firstEarlier wins earlier : Bool} :
    (mergedCandidate (mergedCandidate old c first firstEarlier) c wins earlier).canonical =
        (mergedCandidate old c first firstEarlier).canonical ↔
      (wins = true ∨ c.Repeats (mergedCandidate old c first firstEarlier) false) ∧
        (earlier = true ∨ c.Repeats (mergedCandidate old c first firstEarlier) true) := by
  have hreferences : (mergedCandidate (mergedCandidate old c first firstEarlier) c wins
    earlier).sourceReferences =
      (mergedCandidate old c first firstEarlier).sourceReferences := by
    rw [sourceReferences_mergedCandidate, sourceReferences_mergedCandidate]
    refine mergeSourceReferences_congr fun x => ?_
    rw [mem_mergeSourceReferences, or_assoc, or_self]
  -- The stored candidate has nothing to gain from the observation.
  have hkept : ∀ field, field ≠ .sourceReferences →
      (((mergedCandidate old c first firstEarlier).value field).richer (c.value field)).normalize =
        ((mergedCandidate old c first firstEarlier).value field).normalize := by
    intro field hfield
    rw [value_mergedCandidate old c first firstEarlier hfield]
    generalize (if field.isEarliest then firstEarlier else first) = preferred
    cases preferred with
    | true => exact Json.normalize_richer_fallback _ _
    | false => exact Json.normalize_richer_preferred _ _
  have hfield : ∀ field, field ≠ .sourceReferences →
      (((mergedCandidate (mergedCandidate old c first firstEarlier) c wins earlier).value
        field).normalize = ((mergedCandidate old c first firstEarlier).value field).normalize ↔
      (if field.isEarliest then earlier else wins) = true ∨
        ((c.value field).richer
          ((mergedCandidate old c first firstEarlier).value field)).normalize =
          ((mergedCandidate old c first firstEarlier).value field).normalize) := by
    intro field hfield
    rw [value_mergedCandidate _ c wins earlier hfield]
    generalize (if field.isEarliest then earlier else wins) = stays
    cases stays with
    | true => exact iff_of_true (hkept field hfield) (.inl rfl)
    | false => simp
  rw [ResumeCandidate.canonical_eq_iff, and_iff_right hreferences]
  constructor
  · intro h
    constructor
    · by_cases hwins : wins = true
      · exact .inl hwins
      · refine .inr fun field hreference hearliest => ?_
        have hone := (hfield field hreference).mp (h field hreference)
        rw [hearliest, if_neg (by simp)] at hone
        exact hone.resolve_left hwins
    · by_cases hearlier : earlier = true
      · exact .inl hearlier
      · refine .inr fun field hreference hearliest => ?_
        have hone := (hfield field hreference).mp (h field hreference)
        rw [hearliest, if_pos rfl] at hone
        exact hone.resolve_left hearlier
  · rintro ⟨hwins, hearlier⟩ field hreference
    refine (hfield field hreference).mpr ?_
    cases hearliest : field.isEarliest with
    | true => exact hearlier.imp (by simp) fun h => h field hreference hearliest
    | false => exact hwins.imp (by simp) fun h => h field hreference hearliest

end SeekTalent.CandidateStores
