import SeekTalent.CandidateStores.CandidateReplay
import SeekTalent.CandidateStores.EvidenceUpserts
import SeekTalent.CandidateStores.StoreCoherence
import SeekTalent.SourceLanes.IdentityRebuild

/-!
# A lane result that comes again

The orchestrator merges the result of a lane when the lane reports it and once more when the
dispatch ends. The second time it finds every resume seen, every candidate stored and every row
placed, so the candidates and the rows go through the merge functions, which the first time only
those did that were stored before.

`replays_unchanged_iff` says when the second time changes nothing: what was new to the run the first
time was delivered in the order in which a merge leaves it, and what is stored now still comes
before what was delivered, or was delivered with no other values.  A new candidate with its source
references in another order is changed (`unsortedReferences_change`).
-/

namespace SeekTalent.CandidateStores

open Foundation SourceLanes

/-! ## The run state -/

/-- The functions of a lane merge. -/
structure LaneRuntime where
  /-- The functions on candidates. -/
  candidates : CandidateRuntime
  /-- What identities read of a normalised resume. -/
  identityView : NormalizedResume → SourceLanes.NormalizedResume
  /-- `str(value or "")` of a value that is no text. -/
  str : Json → String
  /-- `int(value)` of a text that is a number. -/
  int : String → Option Int

/-- What identities read of a candidate. -/
def ResumeCandidate.identityView (c : ResumeCandidate) : SourceLanes.ResumeCandidate where
  resumeId := c.resumeId
  workYear := c.workYear
  workExperienceSummaries := c.workExperienceSummaries
  sourceReferences := c.sourceReferences

/-- `RuntimeSourceLaneResult`, with what its public payload says. -/
structure PublicLaneResult extends RuntimeSourceLaneResult where
  runtimeRunId : String
  source : String
  sourceLaneRunId : String
  attempt : Int
  /-- The other members of the payload. -/
  summary : List (String × Json) := []

/-- `to_public_payload`. -/
def PublicLaneResult.toPublicPayload (result : PublicLaneResult) : Json :=
  .obj (("runtime_run_id", .str result.runtimeRunId) ::
    ("source_lane_run_id", .str result.sourceLaneRunId) ::
    ("source", .str result.source) :: ("attempt", .int result.attempt) :: result.summary)

/-- `RunState`, as far as lanes write it.  Rows come in one for each id. -/
structure LaneRunState extends RunStores, IdentityState where
  runtimeSourceLaneResults : List Json := []
  rowsOnce : toRunStores.RowsOnce

namespace RunStores

/-- What identities read of the stores. -/
def identityStores (rt : LaneRuntime) (s : RunStores) : ResumeStores where
  seenResumeIds := s.seenResumeIds
  candidateStore := Dict.mapValues ResumeCandidate.identityView s.candidateStore
  normalizedStore := Dict.mapValues rt.identityView s.normalizedStore
  sourceEvidenceByResumeId := s.sourceEvidenceByResumeId

/-- A lane result keeps one row for each id. -/
lemma rowsOnce_lane {rt : CandidateRuntime} {sourceOrder : Dict String Int} {s s' : RunStores}
    {result : RuntimeSourceLaneResult} (honce : s.RowsOnce)
    (h : s.mergeSourceLaneResultUpdates rt sourceOrder result = .ok s') : s'.RowsOnce := by
  unfold mergeSourceLaneResultUpdates at h
  split at h
  · obtain rfl := Except.ok.inj h
    exact honce
  · obtain ⟨t, ht, hrows⟩ := bind_eq_ok.mp h
    have honce' : t.RowsOnce := by
      intro r
      rw [evidenceOf, (storeUpdates_spec result.nodup ht).1]
      exact honce r
    exact (upsertedAll_rowOf honce' hrows).1

end RunStores

section Merge

variable (rt : LaneRuntime) (sourceOrder : Dict String Int)

/-- `str(item.get(key) or "")`. -/
def payloadText (members : List (String × Json)) (key : String) : String :=
  match members.lookup key with
  | none => ""
  | some (.str text) => text
  | some value => rt.str value

/-- `_payload_int`. -/
def payloadInt : Option Json → Int
  | some (.int number) => number
  | some (.bool flag) => if flag then 1 else 0
  | some (.str text) => (rt.int text).getD 0
  | _ => 0

/-- The key of a payload; one that is no dictionary has none. -/
def payloadKey : Json → Option (String × String × String × Int)
  | .obj members => some (payloadText rt members "runtime_run_id", payloadText rt members "source",
      payloadText rt members "source_lane_run_id", payloadInt rt (members.lookup "attempt"))
  | _ => none

/-- `_append_source_lane_public_payload_once`. -/
def appendSourceLanePublicPayloadOnce (results : List Json) (payload : Json) : List Json :=
  if payloadKey rt payload ∈ results.map (payloadKey rt) then results else results ++ [payload]

/-- The identities after a lane result. -/
def identitiesAfter (identities : IdentityState) (stores : RunStores) (rebuildIdentity : Bool) :
    Except LaneError IdentityState :=
  if rebuildIdentity then
    rebuildIdentityState rt.candidates.evidence sourceOrder (stores.identityStores rt)
  else .ok identities

namespace LaneRunState

/-- `merge_source_lane_result_updates`. -/
def mergeSourceLaneResultUpdates (s : LaneRunState) (result : PublicLaneResult)
    (rebuildIdentity : Bool) : Except LaneError LaneRunState :=
  match h : s.toRunStores.mergeSourceLaneResultUpdates rt.candidates sourceOrder
      result.toRuntimeSourceLaneResult with
  | .error e => .error e
  | .ok stores => do
    let identities ← identitiesAfter rt sourceOrder s.toIdentityState stores
      (rebuildIdentity && !result.blocked)
    .ok
      { toRunStores := stores
        toIdentityState := identities
        runtimeSourceLaneResults :=
          appendSourceLanePublicPayloadOnce rt s.runtimeSourceLaneResults result.toPublicPayload
        rowsOnce := RunStores.rowsOnce_lane s.rowsOnce h }

/-! ## Nothing changes -/

/-- The same candidates, normalised resumes, seen ids, rows, payloads and identities. -/
structure Unchanged (s s' : LaneRunState) : Prop where
  seen : s'.seenResumeIds = s.seenResumeIds
  candidates : ∀ r, (s'.candidateStore.lookup r).map ResumeCandidate.canonical =
    (s.candidateStore.lookup r).map ResumeCandidate.canonical
  normalized : ∀ r, s'.normalizedStore.lookup r = s.normalizedStore.lookup r
  evidence : ∀ r, s'.sourceEvidenceByResumeId.lookup r = s.sourceEvidenceByResumeId.lookup r
  payloads : s'.runtimeSourceLaneResults = s.runtimeSourceLaneResults
  identities : s'.toIdentityState = s.toIdentityState

/-- The result is merged again and nothing changes, whether the identities are rebuilt or not. -/
def ReplaysUnchanged (s : LaneRunState) (result : PublicLaneResult) : Prop :=
  ∀ rebuildIdentity, ∃ s', s.mergeSourceLaneResultUpdates rt sourceOrder result rebuildIdentity =
    .ok s' ∧ s.Unchanged s'

end LaneRunState

end Merge

/-! ## The condition -/

/-- The rows of a result that are of a resume. -/
def RuntimeSourceLaneResult.rowsOf (result : RuntimeSourceLaneResult) (r : String) :
    List RuntimeSourceEvidence :=
  result.sourceEvidenceUpdates.filter fun row => row.candidateResumeId = r

/-- A candidate that the result brings stays as it was stored: a new one has its source references
in the order of a merge; one that was merged into a stored candidate ranks no higher than what is
stored now, or repeats its values, and so for where it was first seen. -/
def CandidateStays (rt : CandidateRuntime) (before after : RunStores)
    (result : RuntimeSourceLaneResult) (update : String × ResumeCandidate) : Prop :=
  match before.candidateStore.lookup update.1 with
  | none => update.2.sourceReferences = mergeSourceReferences update.2.sourceReferences []
  | some _ => ∀ stored n m, after.candidateStore.lookup update.1 = some stored →
      rt.normalizeResume stored = .ok n → rt.normalizeResume update.2 = .ok m →
        (candidateObservationRank rt update.2 m (result.rowsOf update.1) ≤
            candidateObservationRank rt stored n (after.evidenceOf update.1) ∨
          update.2.Repeats stored false) ∧
        (candidateAttributionRank rt stored ≤ candidateAttributionRank rt update.2 ∨
          update.2.Repeats stored true)

/-- The candidates and the rows that the result brings stay as they were stored the first time. -/
structure Stays (rt : CandidateRuntime) (before after : RunStores)
    (result : RuntimeSourceLaneResult) : Prop where
  candidates : ∀ update ∈ result.candidateStoreUpdates, CandidateStays rt before after result update
  rows : ∀ r i, ComeAgain rt.evidence (before.rowOf r i) (after.rowOf r i)
    (RunStores.deliveriesOf result.sourceEvidenceUpdates r i)

/-! ## Candidates -/

/-- The row that some deliveries leave has the identity of each. -/
lemma identityFields_upsertedAll {rt : ObservationRuntime} {rows : List RuntimeSourceEvidence}
    {before after : Option RuntimeSourceEvidence} (h : upsertedAll rt before rows = .ok after) :
    (∀ stored, before = some stored → ∃ last, after = some last ∧
      last.identityFields = stored.identityFields) ∧
      ∀ row ∈ rows, ∃ last, after = some last ∧ last.identityFields = row.identityFields := by
  induction rows generalizing before with
  | nil =>
    obtain rfl := Except.ok.inj h
    exact ⟨fun stored hstored => ⟨stored, hstored, rfl⟩, fun row hrow =>
      absurd hrow List.not_mem_nil⟩
  | cons row rest ih =>
    obtain ⟨next, hnext, hrest⟩ := bind_eq_ok.mp h
    obtain ⟨hkept, hrows⟩ := ih hrest
    have hfirst : ∃ new, next = some new ∧ new.identityFields = row.identityFields ∧
        ∀ stored, before = some stored → new.identityFields = stored.identityFields := by
      cases before with
      | none =>
        obtain rfl := Except.ok.inj hnext
        exact ⟨row, rfl, rfl, fun stored hstored => (nomatch hstored)⟩
      | some old =>
        dsimp only [upserted] at hnext
        cases hmerge : mergeRuntimeSourceEvidence rt old row with
        | error e =>
          rw [hmerge] at hnext
          cases hnext
        | ok new =>
          rw [hmerge] at hnext
          obtain rfl := Except.ok.inj hnext
          obtain ⟨hident, hmerged, -⟩ := mergeRuntimeSourceEvidence_ok hmerge
          refine ⟨new, rfl, hmerged.trans hident, fun stored hstored => ?_⟩
          obtain rfl := Option.some.inj hstored
          exact hmerged
    obtain ⟨new, rfl, hident, hold⟩ := hfirst
    obtain ⟨last, hlast, hsame⟩ := hkept new rfl
    refine ⟨fun stored hstored =>
      ⟨last, hlast, hsame.trans (hold stored hstored)⟩, fun other hother => ?_⟩
    obtain rfl | hmem := List.mem_cons.mp hother
    · exact ⟨last, hlast, hsame.trans hident⟩
    · exact hrows other hmem

/-- The rows of a resume are of the providers of the deliveries that were placed among them. -/
lemma sameProviders_placed {rt : CandidateRuntime} {s t : RunStores}
    {rows : List RuntimeSourceEvidence}
    (hrows : ∀ r i, upsertedAll rt.evidence (s.rowOf r i) (RunStores.deliveriesOf rows r i) =
      .ok (t.rowOf r i))
    (r : String) :
    SameProviders (t.evidenceOf r) (rows.filter fun row => row.candidateResumeId = r) := by
  intro row _ _ hdelivered
  obtain ⟨hash, hhash⟩ := List.exists_mem_of_ne_nil _ hdelivered
  refine ⟨hash, ?_, hhash⟩
  obtain ⟨delivery, hdelivery, rfl⟩ := List.mem_map.mp hhash
  simp only [List.mem_filter, decide_eq_true_eq] at hdelivery
  obtain ⟨⟨hmem, hresume⟩, hsource, hprovider, hkey⟩ := hdelivery
  have hown : delivery ∈ RunStores.deliveriesOf rows r delivery.evidenceId :=
    List.mem_filter.mpr ⟨hmem, by simp [hresume]⟩
  obtain ⟨last, hlast, hident⟩ :=
    (identityFields_upsertedAll (hrows r delivery.evidenceId)).2 delivery hown
  simp only [RuntimeSourceEvidence.identityFields, List.cons.injEq, and_true] at hident
  obtain ⟨-, hlastSource, hlastProvider, -, hlastKey⟩ := hident
  refine List.mem_map.mpr ⟨last, List.mem_filter.mpr ⟨(mem_of_rowAt hlast).1, ?_⟩, hlastKey⟩
  simp [hlastSource, hlastProvider, hlastKey, hsource, hprovider, hkey]

/-- Normalising does not see the order of a mapping. -/
def NormalizesValues (rt : CandidateRuntime) : Prop :=
  ∀ c d : ResumeCandidate, c.canonical = d.canonical → rt.normalizeResume c = rt.normalizeResume d

section Again

variable {rt : CandidateRuntime} {s t : RunStores} {result : RuntimeSourceLaneResult}
  {update : String × ResumeCandidate} {stored : ResumeCandidate × NormalizedResume}

/-- A merge of observations that are normalised. -/
lemma merge_eq_bind {left right : ResumeCandidate} {n m : NormalizedResume}
    {leftEvidence rightEvidence : List RuntimeSourceEvidence} (hid : left.resumeId = right.resumeId)
    (hproviders : SameProviders leftEvidence rightEvidence)
    (hleft : rt.normalizeResume left = .ok n)
    (hright : rt.normalizeResume right = .ok m) {merged : ResumeCandidate} (hmerged : merged =
      mergedCandidate left right (leftWins rt left right n m leftEvidence rightEvidence)
        (decide (candidateAttributionRank rt left ≤ candidateAttributionRank rt right))) :
    mergeResumeCandidateObservations rt left right leftEvidence rightEvidence =
      (rt.normalizeResume merged).map (merged, ·) := by
  rw [merge_eq_map hid hproviders hleft hright, hmerged]

/-- What was observed of a candidate the first time is observed again exactly if the candidate
stays. -/
lemma observed_again_iff (hvalues : NormalizesValues rt)
    (hfirst : s.observedCandidate rt result.sourceEvidenceUpdates update.1 update.2 = .ok stored)
    (hlookup : t.candidateStore.lookup update.1 = some stored.1)
    (hproviders : SameProviders (t.evidenceOf update.1) (result.rowsOf update.1)) :
    (∃ again, t.observedCandidate rt result.sourceEvidenceUpdates update.1 update.2 = .ok again ∧
      again.1.canonical = stored.1.canonical ∧ again.2 = stored.2) ↔
      CandidateStays rt s t result update := by
  have hstored : rt.normalizeResume stored.1 = .ok stored.2 :=
    RunStores.normalizeResume_observed hfirst
  -- The delivered candidate is normalised as well, and is of the same resume.
  have hdelivered : stored.1.resumeId = update.2.resumeId ∧
      ∃ m, rt.normalizeResume update.2 = .ok m := by
    unfold RunStores.observedCandidate at hfirst
    split at hfirst
    · obtain ⟨normalized, hnormalized, hobserved⟩ := bind_eq_ok.mp hfirst
      obtain rfl := Except.ok.inj hobserved
      exact ⟨rfl, normalized, hnormalized⟩
    · simp only [mergeResumeCandidateObservations, bind_eq_ok, require_eq_ok,
        Except.ok.injEq] at hfirst
      obtain ⟨-, hid, -, -, n, -, m, hm, normalized, -, rfl⟩ := hfirst
      exact ⟨(resumeId_mergedCandidate hid _ _).trans hid, m, hm⟩
  obtain ⟨hid, m, hm⟩ := hdelivered
  -- The second time both are merged.
  have hsecond : (∃ again, t.observedCandidate rt result.sourceEvidenceUpdates update.1 update.2 =
    .ok again ∧
      again.1.canonical = stored.1.canonical ∧ again.2 = stored.2) ↔
      (mergedCandidate stored.1 update.2
        (leftWins rt stored.1 update.2 stored.2 m (t.evidenceOf update.1) (result.rowsOf update.1))
        (decide (candidateAttributionRank rt stored.1 ≤
          candidateAttributionRank rt update.2))).canonical = stored.1.canonical := by
    unfold RunStores.observedCandidate
    rw [hlookup]
    dsimp only
    change (∃ again, mergeResumeCandidateObservations rt stored.1 update.2 (t.evidenceOf update.1)
      (result.rowsOf update.1) = .ok again ∧ _) ↔ _
    rw [merge_eq_bind hid hproviders hstored hm rfl]
    constructor
    · rintro ⟨again, hagain, hsame, -⟩
      cases hnormalize : rt.normalizeResume (mergedCandidate stored.1 update.2
        (leftWins rt stored.1 update.2 stored.2 m (t.evidenceOf update.1) (result.rowsOf update.1))
        (decide (candidateAttributionRank rt stored.1 ≤ candidateAttributionRank rt update.2))) with
      | error e =>
        rw [hnormalize] at hagain
        cases hagain
      | ok normalized =>
        rw [hnormalize] at hagain
        obtain rfl := Except.ok.inj hagain
        exact hsame
    · intro hsame
      rw [hvalues _ _ hsame, hstored]
      exact ⟨_, rfl, hsame, rfl⟩
  rw [hsecond]
  unfold CandidateStays RunStores.observedCandidate at *
  cases hbefore : s.candidateStore.lookup update.1 with
  | none =>
    rw [hbefore] at hfirst
    obtain ⟨normalized, hnormalized, hobserved⟩ := bind_eq_ok.mp hfirst
    obtain rfl := Except.ok.inj hobserved
    exact canonical_mergedCandidate_self_iff
  | some old =>
    rw [hbefore] at hfirst
    simp only [mergeResumeCandidateObservations, bind_eq_ok, require_eq_ok,
      Except.ok.injEq] at hfirst
    obtain ⟨-, -, -, -, n, -, m', -, normalized, -, rfl⟩ := hfirst
    rw [canonical_mergedCandidate_again_iff]
    unfold leftWins
    simp only [decide_eq_true_eq]
    constructor
    · intro h other n' m'' hother hn' hm''
      obtain rfl := Option.some.inj (hlookup.symm.trans hother)
      obtain rfl := Except.ok.inj (hstored.symm.trans hn')
      obtain rfl := Except.ok.inj (hm.symm.trans hm'')
      exact h
    · intro h
      exact h _ _ _ hlookup hstored hm

end Again

/-! ## Stores -/

namespace RunStores

variable {rt : CandidateRuntime} {sourceOrder : Dict String Int}
variable {rows : List RuntimeSourceEvidence} {s : RunStores}

/-- The updates are seen afterwards, and nothing else is new. -/
lemma seen_storeUpdates {updates : List (String × ResumeCandidate)}
    {s' : RunStores} (h : updates.foldlM (storeUpdate rt rows) s = .ok s') :
    s.seenResumeIds ⊆ s'.seenResumeIds ∧ (∀ update ∈ updates, update.1 ∈ s'.seenResumeIds) ∧
      ((∀ update ∈ updates, update.1 ∈ s.seenResumeIds) → s'.seenResumeIds = s.seenResumeIds) := by
  induction updates generalizing s with
  | nil =>
    obtain rfl := Except.ok.inj h
    exact ⟨List.Subset.refl _, fun update hupdate => absurd hupdate List.not_mem_nil, fun _ => rfl⟩
  | cons first rest ih =>
    obtain ⟨t, ht, hrest⟩ := bind_eq_ok.mp h
    obtain ⟨observed, -, ht⟩ := bind_eq_ok.mp ht
    obtain rfl := Except.ok.inj ht
    obtain ⟨hsubset, hseen, hsame⟩ := ih hrest
    have hfirst : s.seenResumeIds ⊆ s.see first.1 ∧ first.1 ∈ s.see first.1 := by
      unfold see
      split
      · exact ⟨List.Subset.refl _, ‹_›⟩
      · exact ⟨List.subset_append_left _ _, List.mem_append_right _ (List.mem_singleton_self _)⟩
    refine ⟨fun r hr => hsubset (hfirst.1 hr), fun update hupdate => ?_, fun hold => ?_⟩
    · obtain rfl | hmem := List.mem_cons.mp hupdate
      · exact hsubset hfirst.2
      · exact hseen update hmem
    · rw [List.forall_mem_cons] at hold
      have hsee : s.see first.1 = s.seenResumeIds := if_pos hold.1
      exact (hsame fun update hupdate => hfirst.1 (hold.2 update hupdate)).trans hsee

/-- Rows see nobody. -/
lemma seen_appendAll {s' : RunStores} (h : rows.foldlM (appendEvidence rt sourceOrder) s = .ok s') :
    s'.seenResumeIds = s.seenResumeIds := by
  induction rows generalizing s with
  | nil =>
    obtain rfl := Except.ok.inj h
    rfl
  | cons row rest ih =>
    obtain ⟨t, ht, hrest⟩ := bind_eq_ok.mp h
    obtain ⟨placed, -, ht⟩ := bind_eq_ok.mp ht
    have hseen : t.seenResumeIds = s.seenResumeIds := by rw [← Except.ok.inj ht]
    exact (ih hrest).trans hseen

/-- Updates can be stored when each of them can be observed. -/
lemma exists_storeUpdates {updates : List (String × ResumeCandidate)}
    (hnodup : (updates.map Prod.fst).Nodup)
    (h : ∀ update ∈ updates, ∃ observed, s.observedCandidate rt rows update.1 update.2 =
      .ok observed) :
    ∃ s', updates.foldlM (storeUpdate rt rows) s = .ok s' := by
  induction updates generalizing s with
  | nil => exact ⟨s, rfl⟩
  | cons first rest ih =>
    rw [List.map_cons, List.nodup_cons] at hnodup
    rw [List.forall_mem_cons] at h
    obtain ⟨⟨observed, hobserved⟩, hothers⟩ := h
    have hstep : ∃ t, s.storeUpdate rt rows first = .ok t ∧ ∀ r, r ≠ first.1 →
        t.candidateStore.lookup r = s.candidateStore.lookup r ∧
          t.evidenceOf r = s.evidenceOf r := by
      refine ⟨_, bind_eq_ok.mpr ⟨observed, hobserved, rfl⟩, fun r hr => ⟨?_, rfl⟩⟩
      dsimp only
      rw [Dict.lookup_insert_ite, if_neg hr]
    obtain ⟨t, ht, hsame⟩ := hstep
    have hrest : ∃ s', rest.foldlM (storeUpdate rt rows) t = .ok s' := by
      refine ih hnodup.2 fun update hupdate => ?_
      have hne : update.1 ≠ first.1 := by
        rintro heq
        exact hnodup.1 (heq ▸ List.mem_map_of_mem hupdate)
      obtain ⟨later, hlater⟩ := hothers update hupdate
      refine ⟨later, ?_⟩
      unfold observedCandidate at hlater ⊢
      rw [(hsame _ hne).1, (hsame _ hne).2]
      exact hlater
    obtain ⟨s', hs'⟩ := hrest
    exact ⟨s', bind_eq_ok.mpr ⟨t, ht, hs'⟩⟩

/-- The same seen ids, candidates, normalised resumes and rows. -/
structure Same (s s' : RunStores) : Prop where
  seen : s'.seenResumeIds = s.seenResumeIds
  candidates : ∀ r, (s'.candidateStore.lookup r).map ResumeCandidate.canonical =
    (s.candidateStore.lookup r).map ResumeCandidate.canonical
  normalized : ∀ r, s'.normalizedStore.lookup r = s.normalizedStore.lookup r
  evidence : ∀ r, s'.sourceEvidenceByResumeId.lookup r = s.sourceEvidenceByResumeId.lookup r

/-- A result that is merged again leaves the stores as they are exactly if all that it brings
stays. -/
theorem lane_again_iff (hvalues : NormalizesValues rt) {t : RunStores}
    {result : RuntimeSourceLaneResult} (honce : s.RowsOnce) (hblocked : result.blocked = false)
    (h : s.mergeSourceLaneResultUpdates rt sourceOrder result = .ok t) :
    (∃ u, t.mergeSourceLaneResultUpdates rt sourceOrder result = .ok u ∧ t.Same u) ↔
      Stays rt s t result := by
  unfold mergeSourceLaneResultUpdates at h
  rw [if_neg (by simp [hblocked])] at h
  obtain ⟨middle, hmiddle, hrows⟩ := bind_eq_ok.mp h
  obtain ⟨hevidence, hothers, hupdates⟩ := storeUpdates_spec result.nodup hmiddle
  obtain ⟨hcandidates, hnormalized, -⟩ := appendAll_spec hrows
  have honceMiddle : middle.RowsOnce := fun r => by rw [evidenceOf, hevidence]; exact honce r
  have hplaced : ∀ r i, upsertedAll rt.evidence (s.rowOf r i)
      (deliveriesOf result.sourceEvidenceUpdates r i) = .ok (t.rowOf r i) := by
    intro r i
    rw [← (upsertedAll_rowOf honceMiddle hrows).2 r i, rowOf, rowOf, evidenceOf, evidenceOf,
      hevidence]
  have hproviders : ∀ r, SameProviders (t.evidenceOf r) (result.rowsOf r) :=
    sameProviders_placed hplaced
  have hseen : ∀ update ∈ result.candidateStoreUpdates, update.1 ∈ t.seenResumeIds := by
    rw [seen_appendAll hrows]
    exact (seen_storeUpdates hmiddle).2.1
  -- The second merge, update by update and row by row.
  have hupdate : ∀ update ∈ result.candidateStoreUpdates,
    ∃ stored : ResumeCandidate × NormalizedResume,
      t.candidateStore.lookup update.1 = some stored.1 ∧
      t.normalizedStore.lookup update.1 = some stored.2 ∧
        ((∃ again, t.observedCandidate rt result.sourceEvidenceUpdates update.1 update.2 =
          .ok again ∧ again.1.canonical = stored.1.canonical ∧ again.2 = stored.2) ↔
          CandidateStays rt s t result update) := by
    intro update hmem
    obtain ⟨stored, hstored, hcandidate, hnormal⟩ := hupdates update hmem
    rw [← hcandidates] at hcandidate
    rw [← hnormalized] at hnormal
    exact ⟨stored, hcandidate, hnormal, observed_again_iff hvalues hstored hcandidate
      (hproviders _)⟩
  have hrow : ∀ {again : RunStores}, again.sourceEvidenceByResumeId = t.sourceEvidenceByResumeId →
      ((∃ u, result.sourceEvidenceUpdates.foldlM (appendEvidence rt sourceOrder) again = .ok u ∧
        ∀ r, u.sourceEvidenceByResumeId.lookup r = t.sourceEvidenceByResumeId.lookup r) ↔
        ∀ r i, ComeAgain rt.evidence (s.rowOf r i) (t.rowOf r i)
          (deliveriesOf result.sourceEvidenceUpdates r i)) := by
    intro again hagain
    rw [appendAll_again_iff honceMiddle hrows hagain]
    exact forall_congr' fun r => forall_congr' fun i => upsertedAll_again_iff (hplaced r i)
  unfold mergeSourceLaneResultUpdates
  rw [if_neg (by simp [hblocked])]
  constructor
  · rintro ⟨u, hu, hsame⟩
    obtain ⟨again, hagain, hrowsAgain⟩ := bind_eq_ok.mp hu
    obtain ⟨hevidenceAgain, -, hupdatesAgain⟩ := storeUpdates_spec result.nodup hagain
    obtain ⟨hcandidatesAgain, hnormalizedAgain, -⟩ := appendAll_spec hrowsAgain
    refine ⟨fun update hmem => ?_, (hrow hevidenceAgain).mp ⟨u, hrowsAgain, hsame.evidence⟩⟩
    obtain ⟨stored, hcandidate, hnormal, hstays⟩ := hupdate update hmem
    obtain ⟨observed, hobserved, hcandidate', hnormal'⟩ := hupdatesAgain update hmem
    refine hstays.mp ⟨observed, hobserved, ?_, ?_⟩
    · have hsameCandidate := hsame.candidates update.1
      rw [hcandidatesAgain, hcandidate', hcandidate] at hsameCandidate
      exact Option.some.inj hsameCandidate
    · have hsameNormal := hsame.normalized update.1
      rw [hnormalizedAgain, hnormal', hnormal] at hsameNormal
      exact Option.some.inj hsameNormal
  · rintro ⟨hcandidateStays, hrowStays⟩
    have hexists : ∃ again, result.candidateStoreUpdates.foldlM
        (storeUpdate rt result.sourceEvidenceUpdates) t = .ok again := by
      refine exists_storeUpdates result.nodup fun update hmem => ?_
      obtain ⟨stored, -, -, hstays⟩ := hupdate update hmem
      obtain ⟨observed, hobserved, -⟩ := hstays.mpr (hcandidateStays update hmem)
      exact ⟨observed, hobserved⟩
    obtain ⟨again, hagain⟩ := hexists
    obtain ⟨hevidenceAgain, hothersAgain, hupdatesAgain⟩ := storeUpdates_spec result.nodup hagain
    obtain ⟨u, hu, hsameEvidence⟩ := (hrow hevidenceAgain).mpr hrowStays
    obtain ⟨hcandidatesAgain, hnormalizedAgain, -⟩ := appendAll_spec hu
    have hkept : ∀ r, (again.candidateStore.lookup r).map ResumeCandidate.canonical =
        (t.candidateStore.lookup r).map ResumeCandidate.canonical ∧
          again.normalizedStore.lookup r = t.normalizedStore.lookup r := by
      intro r
      by_cases hmem : r ∈ result.candidateStoreUpdates.map Prod.fst
      · obtain ⟨update, hbrought, rfl⟩ := List.mem_map.mp hmem
        obtain ⟨stored, hcandidate, hnormal, hstays⟩ := hupdate update hbrought
        obtain ⟨observed, hobserved, hcanonical, hsame⟩ :=
          hstays.mpr (hcandidateStays update hbrought)
        obtain ⟨observed', hobserved', hcandidate', hnormal'⟩ := hupdatesAgain update hbrought
        obtain rfl := Except.ok.inj (hobserved.symm.trans hobserved')
        rw [hcandidate', hcandidate, hnormal', hnormal, hsame]
        exact ⟨congrArg some hcanonical, rfl⟩
      · obtain ⟨hcandidate, hnormal⟩ := hothersAgain r hmem
        rw [hcandidate, hnormal]
        exact ⟨rfl, rfl⟩
    refine ⟨u, bind_eq_ok.mpr ⟨again, hagain, hu⟩, ?_, fun r => ?_, fun r => ?_, hsameEvidence⟩
    · rw [seen_appendAll hu, (seen_storeUpdates hagain).2.2 hseen]
    · rw [hcandidatesAgain]
      exact (hkept r).1
    · rw [hnormalizedAgain]
      exact (hkept r).2

end RunStores

/-! ## Run states -/

/-- The functions of a lane merge, on candidates as values. -/
def LaneRuntime.onValues (rt : LaneRuntime)
    (normalize : ResumeCandidate → Except LaneError NormalizedResume)
    (payloadHash : ResumeCandidate → String) (hash : Attribution → String) : LaneRuntime :=
  { rt with candidates := rt.candidates.onValues normalize payloadHash hash }

/-- Identities see no difference between stores that are the same. -/
lemma RunStores.Same.rebuildIdentityState {rt : LaneRuntime} {s s' : RunStores} (h : s.Same s')
    (sourceOrder : Dict String Int) :
    SourceLanes.rebuildIdentityState rt.candidates.evidence sourceOrder (s'.identityStores rt) =
      SourceLanes.rebuildIdentityState rt.candidates.evidence sourceOrder
        (s.identityStores rt) := by
  refine rebuildIdentityState_congr _ sourceOrder h.seen (fun r => ?_) (fun r => ?_) fun r => ?_
  · unfold identityStores
    have hview : ∀ stored : Option ResumeCandidate, stored.map ResumeCandidate.identityView =
        (stored.map ResumeCandidate.canonical).map ResumeCandidate.identityView := by
      intro stored
      cases stored <;> rfl
    rw [Dict.lookup_mapValues, Dict.lookup_mapValues, hview, h.candidates, ← hview]
  · unfold identityStores
    rw [Dict.lookup_mapValues, Dict.lookup_mapValues, h.normalized]
  · unfold ResumeStores.evidenceOf identityStores
    rw [h.evidence]

namespace LaneRunState

variable {rt : LaneRuntime} {sourceOrder : Dict String Int}

/-- What a lane result leaves. -/
lemma mergeSourceLaneResultUpdates_eq_ok {s s' : LaneRunState} {result : PublicLaneResult}
    {rebuildIdentity : Bool} (hblocked : result.blocked = false) :
    s.mergeSourceLaneResultUpdates rt sourceOrder result rebuildIdentity = .ok s' ↔
      s.toRunStores.mergeSourceLaneResultUpdates rt.candidates sourceOrder
        result.toRuntimeSourceLaneResult =
          .ok s'.toRunStores ∧
        identitiesAfter rt sourceOrder s.toIdentityState s'.toRunStores rebuildIdentity =
          .ok s'.toIdentityState ∧
        s'.runtimeSourceLaneResults =
          appendSourceLanePublicPayloadOnce rt s.runtimeSourceLaneResults
            result.toPublicPayload := by
  unfold mergeSourceLaneResultUpdates
  rw [hblocked, Bool.not_false, Bool.and_true]
  split
  · rename_i e he
    rw [he]
    exact ⟨fun h => (nomatch h), fun h => (nomatch h.1)⟩
  · rename_i stores hstores
    refine bind_eq_ok.trans ?_
    constructor
    · rintro ⟨identities, hidentities, hs'⟩
      obtain rfl := Except.ok.inj hs'
      exact ⟨hstores, hidentities, rfl⟩
    · rintro ⟨hsame, hidentities, hresults⟩
      obtain rfl := Except.ok.inj (hstores.symm.trans hsame)
      refine ⟨s'.toIdentityState, hidentities, ?_⟩
      rw [← hresults]

/-- The key of a payload that was appended is there. -/
lemma append_append (results : List Json) (payload : Json) :
    appendSourceLanePublicPayloadOnce rt
      (appendSourceLanePublicPayloadOnce rt results payload) payload =
      appendSourceLanePublicPayloadOnce rt results payload := by
  have hthere : payloadKey rt payload ∈
      (appendSourceLanePublicPayloadOnce rt results payload).map (payloadKey rt) := by
    unfold appendSourceLanePublicPayloadOnce
    split
    · assumption
    · rw [List.map_append]
      exact List.mem_append_right _ (List.mem_singleton_self _)
  exact if_pos hthere

end LaneRunState

/-- A result that is not blocked and is merged again changes nothing exactly if every candidate and
every row that it brings stays as it was stored the first time. -/
theorem replays_unchanged_iff (rt : LaneRuntime) (sourceOrder : Dict String Int)
    (normalize : ResumeCandidate → Except LaneError NormalizedResume)
    (payloadHash : ResumeCandidate → String)
    (hash : Attribution → String) (s s' : LaneRunState) (result : PublicLaneResult)
    (hblocked : result.blocked = false)
    (h : s.mergeSourceLaneResultUpdates (rt.onValues normalize payloadHash hash) sourceOrder result
      true = .ok s') :
    s'.ReplaysUnchanged (rt.onValues normalize payloadHash hash) sourceOrder result ↔
      Stays (rt.onValues normalize payloadHash hash).candidates s.toRunStores s'.toRunStores
        result.toRuntimeSourceLaneResult := by
  obtain ⟨hstores, hidentities, hresults⟩ :=
    (LaneRunState.mergeSourceLaneResultUpdates_eq_ok hblocked).mp h
  rw [identitiesAfter, if_pos rfl] at hidentities
  have hvalues : NormalizesValues (rt.onValues normalize payloadHash hash).candidates :=
    fun c d hsame => congrArg normalize hsame
  rw [← RunStores.lane_again_iff hvalues s.rowsOnce hblocked hstores]
  constructor
  · intro hunchanged
    obtain ⟨again, hagain, hsame⟩ := hunchanged true
    have hstoresAgain := ((LaneRunState.mergeSourceLaneResultUpdates_eq_ok hblocked).mp hagain).1
    exact ⟨again.toRunStores, hstoresAgain,
      ⟨hsame.seen, hsame.candidates, hsame.normalized, hsame.evidence⟩⟩
  · rintro ⟨stores, hagain, hsame⟩ rebuildIdentity
    refine ⟨{
      toRunStores := stores
      toIdentityState := s'.toIdentityState
      runtimeSourceLaneResults := s'.runtimeSourceLaneResults
      rowsOnce := RunStores.rowsOnce_lane s'.rowsOnce hagain }, ?_,
      ⟨hsame.seen, hsame.candidates, hsame.normalized, hsame.evidence, rfl, rfl⟩⟩
    refine (LaneRunState.mergeSourceLaneResultUpdates_eq_ok hblocked).mpr ⟨hagain, ?_, ?_⟩
    · cases rebuildIdentity with
      | true => exact (hsame.rebuildIdentityState sourceOrder).trans hidentities
      | false => rfl
    · dsimp only
      rw [hresults, LaneRunState.append_append]

/-! ## New candidates -/

/-- The state of a run that has seen nobody. -/
def LaneRunState.start : LaneRunState where
  rowsOnce := fun r => by simp [RunStores.evidenceOf]

/-- The functions of the run with the locations, and no texts of payloads. -/
def locationLanes : LaneRuntime where
  candidates := RunStores.locationRuntime
  identityView := fun normalized => { scoreEvidenceSource := normalized.scoreEvidenceSource }
  str := fun _ => ""
  int := fun _ => none

/-- The functions of the run on candidates as values. -/
def replayRuntime : LaneRuntime :=
  locationLanes.onValues RunStores.locationRuntime.normalizeResume (fun _ => "") (fun _ => "")

/-- A card of a resume with references, and its row. -/
def referencedCard (references : List SourceReference) : PublicLaneResult where
  toRuntimeSourceLaneResult := RunStores.observationResult
    { RunStores.observation 1 "card_only" none with sourceReferences := references }
    (RunStores.observationEvidence "1" .card)
  runtimeRunId := "run"
  source := "liepin"
  sourceLaneRunId := "lane"
  attempt := 1

/-- A reference to a page of the resume. -/
def pageReference (url : String) : SourceReference :=
  ⟨"liepin", "Liepin", url⟩

/-- A card whose references are sorted is merged again without a change. -/
theorem sortedReferences_stay : ∃ s, LaneRunState.start.mergeSourceLaneResultUpdates replayRuntime ∅
      (referencedCard [pageReference "a", pageReference "b"]) true = .ok s ∧
    s.ReplaysUnchanged replayRuntime ∅ (referencedCard [pageReference "a", pageReference "b"]) := by
  have hrun : (LaneRunState.start.mergeSourceLaneResultUpdates replayRuntime ∅
      (referencedCard [pageReference "a", pageReference "b"]) true).toOption.map
        (fun s => s.rowOf "resume" "1") =
        some (some (RunStores.observationEvidence "1" .card)) := by
    decide +kernel
  obtain ⟨s, hs, hrow⟩ := Option.map_eq_some_iff.mp hrun
  have hmerge : LaneRunState.start.mergeSourceLaneResultUpdates replayRuntime ∅
      (referencedCard [pageReference "a", pageReference "b"]) true = .ok s := eq_ok_of_toOption hs
  refine ⟨s, hmerge, ?_⟩
  refine (replays_unchanged_iff locationLanes ∅ RunStores.locationRuntime.normalizeResume
    (fun _ => "")
    (fun _ => "") LaneRunState.start s _ rfl hmerge).mpr ⟨fun update hupdate => ?_, fun r i => ?_⟩
  · obtain rfl := List.mem_singleton.mp hupdate
    show [pageReference "a", pageReference "b"] =
      mergeSourceReferences [pageReference "a", pageReference "b"] []
    decide +kernel
  · by_cases hkey : r = "resume" ∧ i = "1"
    · obtain ⟨rfl, rfl⟩ := hkey
      have hown : RunStores.deliveriesOf (referencedCard
          [pageReference "a", pageReference "b"]).sourceEvidenceUpdates "resume" "1" =
            [RunStores.observationEvidence "1" .card] := List.filter_cons_of_pos (by decide)
      rw [hown]
      refine ⟨fun _ row hrow => ?_, fun stored hstored field _ row hdeciding => ?_⟩
      · obtain rfl := (List.cons.inj hrow).1
        exact ⟨by decide +kernel, by decide +kernel, by decide +kernel⟩
      · obtain rfl := Option.some.inj (hrow.symm.trans hstored)
        -- A row does not outrank itself.
        rw [overtaking, if_pos (le_refl _)] at hdeciding
        cases hdeciding
    · have hnone : RunStores.deliveriesOf (referencedCard
          [pageReference "a", pageReference "b"]).sourceEvidenceUpdates r i = [] :=
        List.filter_cons_of_neg (fun hown => hkey (of_decide_eq_true hown))
      rw [hnone]
      exact comeAgain_nil _ _ _

/-- The references that are stored for the resume. -/
def LaneRunState.storedReferences (s : LaneRunState) : Option (List SourceReference) :=
  (s.candidateStore.lookup "resume").map ResumeCandidate.sourceReferences

/-- A new card is stored with its references as they were delivered, and is changed when it comes
again. -/
theorem unsortedReferences_change :
    ∃ s, LaneRunState.start.mergeSourceLaneResultUpdates replayRuntime ∅
      (referencedCard [pageReference "b", pageReference "a"]) true = .ok s ∧
    ¬s.ReplaysUnchanged replayRuntime ∅
      (referencedCard [pageReference "b", pageReference "a"]) := by
  have hrun : (do
      let s ← LaneRunState.start.mergeSourceLaneResultUpdates replayRuntime ∅
        (referencedCard [pageReference "b", pageReference "a"]) true
      let again ← s.mergeSourceLaneResultUpdates replayRuntime ∅
        (referencedCard [pageReference "b", pageReference "a"]) true
      .ok (s.storedReferences, again.storedReferences) : Except LaneError _).toOption =
        some (some [pageReference "b", pageReference "a"],
          some [pageReference "a", pageReference "b"]) := by
    decide +kernel
  obtain ⟨s, hs, hrest⟩ := bind_eq_ok.mp (eq_ok_of_toOption hrun)
  obtain ⟨again, hagain, hreferences⟩ := bind_eq_ok.mp hrest
  obtain ⟨hbefore, hafter⟩ := Prod.mk.inj (Except.ok.inj hreferences)
  refine ⟨s, hs, fun hunchanged => ?_⟩
  obtain ⟨other, hother, hsame⟩ := hunchanged true
  obtain rfl := Except.ok.inj (hagain.symm.trans hother)
  have hstored : again.storedReferences = s.storedReferences := by
    have hmap : ∀ stored : Option ResumeCandidate, stored.map ResumeCandidate.sourceReferences =
        (stored.map ResumeCandidate.canonical).map ResumeCandidate.sourceReferences := by
      intro stored
      cases stored <;> rfl
    rw [LaneRunState.storedReferences, LaneRunState.storedReferences, hmap, hsame.candidates,
      ← hmap]
  rw [hbefore, hafter] at hstored
  exact absurd hstored (by decide)

end SeekTalent.CandidateStores
