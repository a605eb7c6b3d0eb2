import SeekTalent.CandidateStores.CandidateWrites

/-!
# What the stored candidates are made of

The observations that a step of a round makes a stored candidate from: one that is stored as it
came, and those that lanes have merged into it since.  The entries of the other store are made from
observations as well.  `Book` follows the writes and notes nothing but observations and evidence;
what the stores hold is what the book says (`records_writes`), and what a candidate has is what its
observations have (`filled_candidate_iff`).
-/

namespace SeekTalent.CandidateStores

open Foundation SourceLanes RunStores

/-- An observation that a lane brings for a stored candidate, with the evidence on either side. -/
structure LaneObservation where
  candidate : ResumeCandidate
  earlier : List RuntimeSourceEvidence
  delivered : List RuntimeSourceEvidence

/-- The observations that a stored candidate is made of. -/
structure Provenance where
  first : ResumeCandidate
  merged : List LaneObservation

variable (rt : CandidateRuntime) (sourceOrder : Dict String Int)

/-- The candidate that is stored is the better one. -/
def LaneObservation.yieldsTo (o : LaneObservation) (stored : ResumeCandidate) : Bool :=
  match rt.normalizeResume stored, rt.normalizeResume o.candidate with
  | .ok storedNormalized, .ok normalized =>
    leftWins rt stored o.candidate storedNormalized normalized o.earlier o.delivered
  | _, _ => true

/-- The merge of what is stored with an observation. -/
def LaneObservation.mergeInto (o : LaneObservation) (stored : ResumeCandidate) : ResumeCandidate :=
  mergedCandidate stored o.candidate (o.yieldsTo rt stored)
    (decide (candidateAttributionRank rt stored ≤ candidateAttributionRank rt o.candidate))

namespace Provenance

/-- The candidate that is made of them. -/
def candidate (p : Provenance) : ResumeCandidate :=
  p.merged.foldl (fun stored o => o.mergeInto rt stored) p.first

/-- All of them. -/
def observations (p : Provenance) : List ResumeCandidate :=
  p.first :: p.merged.map LaneObservation.candidate

/-- Nothing is in the way of a leaf of `raw`: an observation with another value there is merged into
one that has the leaf, and does not win. -/
def Clears (p : Provenance) (path : List String) : Prop :=
  (p.first.value .raw).hides path = false ∧ ∀ before o after, p.merged = before ++ o :: after →
    (o.candidate.value .raw).hides path = true →
      o.yieldsTo rt (candidate rt ⟨p.first, before⟩) = true ∧
        ∃ c ∈ observations ⟨p.first, before⟩, c.Filled .raw path

variable {rt}

/-- One more observation is merged. -/
lemma candidate_concat (first : ResumeCandidate) (before : List LaneObservation)
    (o : LaneObservation) :
    candidate rt ⟨first, before ++ [o]⟩ = o.mergeInto rt (candidate rt ⟨first, before⟩) := by
  simp [candidate]

lemma mem_observations_concat {first c : ResumeCandidate} {before : List LaneObservation}
    {o : LaneObservation} :
    c ∈ observations ⟨first, before ++ [o]⟩ ↔ c ∈ observations ⟨first, before⟩ ∨
      c = o.candidate := by
  simp [observations, or_assoc]

/-- A candidate has nothing that none of its observations has. -/
lemma exists_of_filled (p : Provenance) {field : CandidateField} {path : List String}
    (h : (p.candidate rt).Filled field path) : ∃ c ∈ p.observations, c.Filled field path := by
  obtain ⟨first, merged⟩ := p
  induction merged using List.reverseRecOn with
  | nil => exact ⟨first, List.mem_singleton_self first, h⟩
  | append_singleton before o ih =>
    rw [candidate_concat] at h
    have heither : (candidate rt ⟨first, before⟩).Filled field path ∨
        o.candidate.Filled field path := by
      by_cases hraw : field = .raw
      · subst hraw
        rw [LaneObservation.mergeInto, ResumeCandidate.Filled, value_raw_mergedCandidate] at h
        split at h <;> rw [Json.filledAt_richer] at h
        · exact h.imp id And.left
        · exact h.elim .inr fun hstored => .inl hstored.1
      · exact (filled_mergedCandidate_iff hraw path).mp h
    simp only [mem_observations_concat]
    obtain hstored | hown := heither
    · obtain ⟨c, hc, hfilled⟩ := ih hstored
      exact ⟨c, .inl hc, hfilled⟩
    · exact ⟨o.candidate, .inr rfl, hown⟩

/-- Outside of `raw`, a candidate has all that one of its observations has. -/
lemma filled_of_mem (p : Provenance) {field : CandidateField} (hraw : field ≠ .raw)
    {path : List String}
    {c : ResumeCandidate} (hc : c ∈ p.observations) (hfilled : c.Filled field path) :
    (p.candidate rt).Filled field path := by
  obtain ⟨first, merged⟩ := p
  induction merged using List.reverseRecOn with
  | nil =>
    obtain rfl := List.mem_singleton.mp hc
    exact hfilled
  | append_singleton before o ih =>
    rw [candidate_concat, LaneObservation.mergeInto, filled_mergedCandidate_iff hraw]
    obtain hbefore | rfl := mem_observations_concat.mp hc
    · exact .inl (ih hbefore)
    · exact .inr hfilled

/-- A candidate has a leaf of `raw` that one of its observations has, if nothing is in its way. -/
lemma filled_raw_of_clears (p : Provenance) {path : List String} (hclears : p.Clears rt path) :
    ((p.candidate rt).value .raw).hides path = false ∧
      ∀ c ∈ p.observations, c.Filled .raw path → (p.candidate rt).Filled .raw path := by
  obtain ⟨first, merged⟩ := p
  induction merged using List.reverseRecOn with
  | nil =>
    refine ⟨hclears.1, fun c hc hfilled => ?_⟩
    obtain rfl := List.mem_singleton.mp hc
    exact hfilled
  | append_singleton before o ih =>
    obtain ⟨hfirst, hmerged⟩ := hclears
    obtain ⟨hfree, hkept⟩ :=
      ih ⟨hfirst, fun front o' back hsplit => hmerged front o' (back ++ [o]) (by
      dsimp only at hsplit ⊢
      rw [hsplit, List.append_assoc, List.cons_append])⟩
    rw [candidate_concat, LaneObservation.mergeInto, ResumeCandidate.Filled,
      value_raw_mergedCandidate]
    cases hhides : (o.candidate.value .raw).hides path with
    | false =>
      refine ⟨by split <;> exact Json.hides_richer path (by assumption) (by assumption),
        fun c hc hfilled => ?_⟩
      have heither : (candidate rt ⟨first, before⟩).Filled .raw path ∨
          o.candidate.Filled .raw path :=
        (mem_observations_concat.mp hc).imp (fun hbefore => hkept c hbefore hfilled) fun hown => by
          rwa [← hown]
      split <;> rw [Json.filledAt_richer]
      · exact heither.imp id fun hown => ⟨hown, hfree⟩
      · exact heither.symm.imp id fun hstored => ⟨hstored, hhides⟩
    | true =>
      -- The leaf is there already, and what is stored wins.
      obtain ⟨hyields, c, hc, hfilled⟩ := hmerged before o [] rfl hhides
      have hstored := hkept c hc hfilled
      rw [if_pos hyields]
      have hleaf : (((candidate rt ⟨first, before⟩).value .raw).richer
          (o.candidate.value .raw)).FilledAt path :=
        (Json.filledAt_richer path _ _).mpr (.inl hstored)
      exact ⟨Json.hides_of_filledAt hleaf, fun _ _ _ => hleaf⟩

end Provenance

/-! ## The book of a step -/

/-- An entry of the store of normalised resumes: one from before the step, or that of a
candidate. -/
inductive Filing where
  | kept (normalized : NormalizedResume)
  | made (p : Provenance)

/-- The normalised resume of an entry. -/
def Filing.value : Filing → Option NormalizedResume
  | .kept normalized => some normalized
  | .made p => (rt.normalizeResume (p.candidate rt)).toOption

/-- What the entries of the two stores are made of, and the evidence. -/
structure Book where
  candidates : String → Option Provenance
  normalized : String → Option Filing
  evidence : String → List RuntimeSourceEvidence

/-- The book before a step: what is stored counts as one observation. -/
def RunStores.book (s : RunStores) : Book where
  candidates r := (s.candidateStore.lookup r).map fun c => ⟨c, []⟩
  normalized r := (s.normalizedStore.lookup r).map .kept
  evidence := s.evidenceOf

namespace Book

/-- What a lane makes the candidate of a resume from, if it brings one. -/
def observed (b : Book) (result : RuntimeSourceLaneResult) (r : String) : Option Provenance :=
  (result.candidateStoreUpdates.lookup r).map fun c =>
    match b.candidates r with
    | none => ⟨c, []⟩
    | some p => ⟨p.first,
        p.merged ++ [⟨c, b.evidence r, deliveredTo r result.sourceEvidenceUpdates⟩]⟩

/-- A write. -/
def write (b : Book) : StoreWrite → Book
  | .assign c => { b with candidates := Function.update b.candidates c.resumeId (some ⟨c, []⟩) }
  | .lane result =>
    if result.blocked then b
    else {
      candidates := fun r => (b.observed result r).or (b.candidates r)
      normalized := fun r => ((b.observed result r).map .made).or (b.normalized r)
      evidence := fun r =>
        evidenceAfter rt sourceOrder (deliveredTo r result.sourceEvidenceUpdates) (b.evidence r) }
  | .normalize c =>
    match b.normalized c.resumeId with
    | some _ => b
    | none =>
      match rt.normalizeResume c with
      | .ok normalized =>
        { b with
          normalized := Function.update b.normalized normalized.resumeId (some (.made ⟨c, []⟩)) }
      | .error _ => b

/-- The stores hold what the book says. -/
structure Records (b : Book) (s : RunStores) : Prop where
  candidates : ∀ r, s.candidateStore.lookup r = (b.candidates r).map (Provenance.candidate rt)
  normalized : ∀ r, (s.normalizedStore.lookup r).map some = (b.normalized r).map (Filing.value rt)
  evidence : ∀ r, s.evidenceOf r = b.evidence r

variable {rt sourceOrder}

/-- The book before a step. -/
lemma records_book (s : RunStores) : s.book.Records rt s where
  candidates
    r := by cases hr : s.candidateStore.lookup r <;> simp [RunStores.book, hr, Provenance.candidate]
  normalized
    r := by cases hr : s.normalizedStore.lookup r <;> simp [RunStores.book, hr, Filing.value]
  evidence _ := rfl

/-- What a lane leaves under an id is what the book makes of it. -/
lemma Records.observed {b : Book} {s : RunStores} (hb : b.Records rt s)
    {result : RuntimeSourceLaneResult}
    {r : String} {c : ResumeCandidate} {stored : ResumeCandidate × NormalizedResume}
    (hlookup : result.candidateStoreUpdates.lookup r = some c)
    (h : s.observedCandidate rt result.sourceEvidenceUpdates r c = .ok stored) :
    ∃ p, b.observed result r = some p ∧ p.candidate rt = stored.1 := by
  have hr := hb.candidates r
  unfold observedCandidate at h
  rw [Book.observed, hlookup, Option.map_some]
  cases hp : b.candidates r with
  | none =>
    rw [hp, Option.map_none] at hr
    rw [hr] at h
    obtain ⟨normalized, -, hstored⟩ := bind_eq_ok.mp h
    obtain rfl := Except.ok.inj hstored
    exact ⟨_, rfl, rfl⟩
  | some p =>
    rw [hp, Option.map_some] at hr
    rw [hr] at h
    obtain ⟨-, -, h⟩ := bind_eq_ok.mp h
    obtain ⟨-, -, h⟩ := bind_eq_ok.mp h
    obtain ⟨storedNormalized, hleft, h⟩ := bind_eq_ok.mp h
    obtain ⟨ownNormalized, hright, h⟩ := bind_eq_ok.mp h
    obtain ⟨normalized, -, h⟩ := bind_eq_ok.mp h
    obtain rfl := Except.ok.inj h
    refine ⟨_, rfl, ?_⟩
    rw [Provenance.candidate_concat, LaneObservation.mergeInto, LaneObservation.yieldsTo]
    dsimp only
    rw [hleft, hright, ← hb.evidence]
    rfl

/-- Every write. -/
lemma Records.write {b : Book} {s s' : RunStores} (hb : b.Records rt s) {w : StoreWrite}
    (h : s.write rt sourceOrder w = .ok s') : (b.write rt sourceOrder w).Records rt s' := by
  cases w with
  | assign c =>
    obtain rfl := Except.ok.inj h
    refine ⟨fun r => ?_, hb.normalized, hb.evidence⟩
    show (s.candidateStore.insert c.resumeId c).lookup r = _
    rw [Dict.lookup_insert_ite, Book.write]
    dsimp only
    rw [Function.update_apply]
    split
    · rfl
    · exact hb.candidates r
  | lane result =>
    cases hblocked : result.blocked with
    | true =>
      change s.mergeSourceLaneResultUpdates rt sourceOrder result = .ok s' at h
      rw [mergeSourceLaneResultUpdates, if_pos hblocked] at h
      obtain rfl := Except.ok.inj h
      rwa [Book.write, if_pos hblocked]
    | false =>
      obtain ⟨hsame, hupdates, hrows⟩ := lane_spec hblocked h
      rw [Book.write, if_neg (by simp [hblocked])]
      have heach : ∀ r,
        (b.observed result r = none ∧ s'.candidateStore.lookup r = s.candidateStore.lookup r ∧
          s'.normalizedStore.lookup r = s.normalizedStore.lookup r) ∨
        ∃ p, b.observed result r = some p ∧ s'.candidateStore.lookup r = some (p.candidate rt) ∧
          (s'.normalizedStore.lookup r).map some = some ((Filing.made p).value rt) := by
        intro r
        cases hlookup : result.candidateStoreUpdates.lookup r with
        | none =>
          refine .inl ⟨by rw [Book.observed, hlookup]; rfl, hsame r fun hmem => ?_⟩
          obtain ⟨update, hupdate, rfl⟩ := List.mem_map.mp hmem
          rw [List.lookup_eq_none_iff] at hlookup
          simpa using hlookup update hupdate
        | some c =>
          have hmem : (r, c) ∈ result.candidateStoreUpdates := by
            obtain ⟨front, back, hsplit, -⟩ := List.lookup_eq_some_iff.mp hlookup
            rw [hsplit]
            exact List.mem_append_right _ List.mem_cons_self
          obtain ⟨stored, hstored, hcandidate, hnormalized⟩ := hupdates (r, c) hmem
          obtain ⟨p, hp, hmade⟩ := hb.observed hlookup hstored
          refine .inr ⟨p, hp, by rw [hcandidate, hmade], ?_⟩
          rw [hnormalized, Filing.value, hmade, normalizeResume_observed hstored]
          rfl
      refine ⟨fun r => ?_, fun r => ?_, fun r => by rw [(hrows r).1, hb.evidence]⟩ <;> dsimp only
      · obtain ⟨hnone, hcandidate, -⟩ | ⟨p, hp, hcandidate, -⟩ := heach r
        · rw [hcandidate, hnone]
          exact hb.candidates r
        · rw [hcandidate, hp]
          rfl
      · obtain ⟨hnone, -, hnormalized⟩ | ⟨p, hp, -, hnormalized⟩ := heach r
        · rw [hnormalized, hnone]
          exact hb.normalized r
        · rw [hnormalized, hp]
          rfl
  | normalize c =>
    change s.normalizeRuntimeCandidate rt c = .ok s' at h
    unfold normalizeRuntimeCandidate at h
    have hc := hb.normalized c.resumeId
    split at h
    · rename_i hstored
      obtain rfl := Except.ok.inj h
      rw [hstored] at hc
      obtain ⟨f, hf, -⟩ := Option.map_eq_some_iff.mp hc.symm
      rw [Book.write, hf]
      exact hb
    · rename_i hnone
      obtain ⟨normalized, hnormalized, hs'⟩ := bind_eq_ok.mp h
      obtain rfl := Except.ok.inj hs'
      rw [hnone] at hc
      have hf : b.normalized c.resumeId = none := Option.map_eq_none_iff.mp hc.symm
      rw [Book.write, hf]
      dsimp only
      rw [hnormalized]
      refine ⟨hb.candidates, fun r => ?_, hb.evidence⟩
      dsimp only
      rw [Dict.lookup_insert_ite, Function.update_apply]
      split
      · rw [Option.map_some, Option.map_some, Filing.value]
        show some (some normalized) = some (rt.normalizeResume c).toOption
        rw [hnormalized]
        rfl
      · exact hb.normalized r

/-- What the stores hold after some writes is what the book says. -/
theorem records_writes {writes : List StoreWrite} {b : Book} {s s' : RunStores}
    (hb : b.Records rt s) (h : writes.foldlM (RunStores.write rt sourceOrder) s = .ok s') :
    (writes.foldl (Book.write rt sourceOrder) b).Records rt s' := by
  induction writes generalizing b s with
  | nil =>
    obtain rfl := Except.ok.inj h
    exact hb
  | cons w later ih =>
    obtain ⟨t, ht, hlater⟩ := bind_eq_ok.mp h
    exact ih (hb.write ht) hlater

end Book

end SeekTalent.CandidateStores
