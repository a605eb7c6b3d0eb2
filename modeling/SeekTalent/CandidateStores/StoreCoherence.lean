import SeekTalent.CandidateStores.Provenance

/-!
# The two stores of a run

A step of a round keeps what is known of a stored candidate when the observations that it makes the
candidate from have it all, and leaves the candidate normalised when both entries are made from the
same observations or from such as normalise alike (`coherent_of_rebuilds`).  A raw observation of a
resume that an earlier round has stored may do neither (`laterCard_downgrades`).
-/

namespace SeekTalent.CandidateStores

open Foundation SourceLanes

namespace RunStores

variable (rt : CandidateRuntime) (sourceOrder : Dict String Int)
variable {s s' : RunStores} {round : RoundStep}

/-! ## What is promised -/

/-- The level that a candidate itself says. -/
def ownLevel (c : ResumeCandidate) : Nat :=
  match rt.normalizeResume c with
  | .ok normalized => evidenceLevelRank (normalized.scoreEvidenceSource.getD "")
  | .error _ => 0

/-- The evidence level of a candidate under an id. -/
def level (s : RunStores) (r : String) (c : ResumeCandidate) : Nat :=
  if s.evidenceOf r = [] then ownLevel rt c else bestLevel (s.evidenceOf r)

/-- Every stored candidate is still stored, with all that was filled in it, at no lower level. -/
def Keeps (s s' : RunStores) : Prop :=
  ∀ r c, s.candidateStore.lookup r = some c → ∃ c', s'.candidateStore.lookup r = some c' ∧
    c.SaysNoMoreThan c' ∧ level rt s r c ≤ level rt s' r c'

/-- Every stored candidate is normalised under its id. -/
def Normalized (s : RunStores) : Prop :=
  ∀ r c, s.candidateStore.lookup r = some c → ∃ normalized, rt.normalizeResume c = .ok normalized ∧
    s.normalizedStore.lookup r = some normalized

/-- A step that does not raise keeps the candidates and leaves them normalised. -/
def Coherent (s : RunStores) (round : RoundStep) : Prop :=
  ∀ s', s.step rt sourceOrder round = .ok s' → Keeps rt s s' ∧ Normalized rt s'

/-- A condition on each step of a run that returns. -/
def AlongRounds (G : RunStores → RoundStep → Prop) : RunStores → List RoundStep → Prop
  | _, [] => True
  | s, round :: rounds =>
    ∀ s', s.step rt sourceOrder round = .ok s' → G s round ∧ AlongRounds G s' rounds

/-! ## The condition -/

/-- The evidence rows that the lanes among some writes deliver to a resume. -/
def deliveredBy (r : String) (writes : List StoreWrite) : List RuntimeSourceEvidence :=
  writes.flatMap fun w =>
    match w with
    | .lane result => if result.blocked then [] else deliveredTo r result.sourceEvidenceUpdates
    | _ => []

/-- What the entries of the stores are made of after a step. -/
def bookAfter (s : RunStores) (round : RoundStep) : Book :=
  round.writes.foldl (Book.write rt sourceOrder) s.book

/-- The observations that a step makes the stored candidates from have all that was stored, and the
entries of both stores are made from the same observations, or from such as normalise alike. -/
structure Rebuilds (s : RunStores) (round : RoundStep) : Prop where
  /-- What was filled in the stored candidate is filled in one of the observations. -/
  content : ∀ r stored p, s.candidateStore.lookup r = some stored →
    (bookAfter rt sourceOrder s round).candidates r = some p →
      ∀ field path, stored.Filled field path → ∃ c ∈ p.observations, c.Filled field path
  /-- A candidate without evidence rows gets rows of its own level, or says that level itself. -/
  level : ∀ r stored p, s.candidateStore.lookup r = some stored →
    (bookAfter rt sourceOrder s round).candidates r = some p → s.evidenceOf r = [] →
      ownLevel rt stored ≤ if deliveredBy r round.writes = [] then ownLevel rt (p.candidate rt)
        else bestLevel (deliveredBy r round.writes)
  normalized : ∀ r p, (bookAfter rt sourceOrder s round).candidates r = some p →
    ∃ f, (bookAfter rt sourceOrder s round).normalized r = some f ∧
      (f = .made p ∨ ∃ normalized, rt.normalizeResume (p.candidate rt) = .ok normalized ∧
        f.value rt = some normalized)

/-- No observation has another value in the way of a leaf of the stored `raw`, unless it loses. -/
def Clear (s : RunStores) (round : RoundStep) : Prop :=
  ∀ r stored p, s.candidateStore.lookup r = some stored →
    (bookAfter rt sourceOrder s round).candidates r = some p →
      ∀ path, stored.Filled .raw path → p.Clears rt path

variable {rt sourceOrder}

/-! ## A step -/

/-- What some writes do with the evidence. -/
lemma evidence_writes {writes : List StoreWrite}
    (h : writes.foldlM (write rt sourceOrder) s = .ok s') (r : String) :
    (s'.evidenceOf r = [] ↔ s.evidenceOf r = [] ∧ deliveredBy r writes = []) ∧
      bestLevel (s'.evidenceOf r) = max (bestLevel (s.evidenceOf r))
        (bestLevel (deliveredBy r writes)) := by
  have happend : ∀ front back : List RuntimeSourceEvidence,
      bestLevel (front ++ back) = max (bestLevel front) (bestLevel back) := by
    intro front back
    induction front with
    | nil => exact (Nat.zero_max _).symm
    | cons row rest ih =>
      exact (congrArg (max row.evidenceLevel.rank) ih).trans (Nat.max_assoc _ _ _).symm
  induction writes generalizing s with
  | nil =>
    obtain rfl := Except.ok.inj h
    exact ⟨by simp [deliveredBy], (Nat.max_zero _).symm⟩
  | cons w later ih =>
    obtain ⟨t, ht, hlater⟩ := bind_eq_ok.mp h
    obtain ⟨hempty, hlevel⟩ := ih hlater
    have hsame : ∀ {rows : List RuntimeSourceEvidence}, rows = [] →
      t.evidenceOf r = s.evidenceOf r →
        deliveredBy r (w :: later) = rows ++ deliveredBy r later →
          (s'.evidenceOf r = [] ↔ s.evidenceOf r = [] ∧ deliveredBy r (w :: later) = []) ∧
          bestLevel (s'.evidenceOf r) =
            max (bestLevel (s.evidenceOf r)) (bestLevel (deliveredBy r (w :: later))) := by
      rintro _ rfl hrows hdelivered
      rw [hdelivered, List.nil_append, ← hrows]
      exact ⟨hempty, hlevel⟩
    cases w with
    | assign c =>
      obtain rfl := Except.ok.inj ht
      exact hsame rfl rfl rfl
    | normalize c =>
      change s.normalizeRuntimeCandidate rt c = .ok t at ht
      unfold normalizeRuntimeCandidate at ht
      split at ht
      · obtain rfl := Except.ok.inj ht
        exact hsame rfl rfl rfl
      · obtain ⟨normalized, -, ht⟩ := bind_eq_ok.mp ht
        obtain rfl := Except.ok.inj ht
        exact hsame rfl rfl rfl
    | lane result =>
      change s.mergeSourceLaneResultUpdates rt sourceOrder result = .ok t at ht
      cases hblocked : result.blocked with
      | true =>
        rw [mergeSourceLaneResultUpdates, if_pos hblocked] at ht
        obtain rfl := Except.ok.inj ht
        exact hsame rfl rfl (by simp [deliveredBy, hblocked])
      | false =>
        obtain ⟨-, hfirst, hbest⟩ := (lane_spec hblocked ht).2.2 r
        have hdelivered : deliveredBy r (.lane result :: later) =
            deliveredTo r result.sourceEvidenceUpdates ++ deliveredBy r later := by
          simp [deliveredBy, hblocked]
        rw [hdelivered, hempty, hfirst, hlevel, hbest, happend, List.append_eq_nil_iff, and_assoc,
          Nat.max_assoc]
        exact ⟨Iff.rfl, rfl⟩

/-- The level of a candidate after a step. -/
lemma level_step (h : s.step rt sourceOrder round = .ok s')
    {r : String} {stored c : ResumeCandidate} : level rt s r stored ≤ level rt s' r c ↔
      (s.evidenceOf r = [] →
        ownLevel rt stored ≤ if deliveredBy r round.writes = [] then ownLevel rt c
        else bestLevel (deliveredBy r round.writes)) := by
  obtain ⟨hempty, hlevel⟩ := evidence_writes h r
  unfold level
  by_cases hrows : s.evidenceOf r = []
  · rw [if_pos hrows, forall_prop_of_true hrows]
    by_cases hdelivered : deliveredBy r round.writes = []
    · rw [if_pos (hempty.mpr ⟨hrows, hdelivered⟩), if_pos hdelivered]
    · rw [if_neg fun hnil => hdelivered (hempty.mp hnil).2, if_neg hdelivered, hlevel, hrows]
      exact iff_of_eq (congrArg _ (Nat.zero_max _))
  · rw [if_neg hrows, if_neg fun hnil => hrows (hempty.mp hnil).1, hlevel]
    exact iff_of_true (Nat.le_max_left _ _) fun hnil => absurd hnil hrows

/-- A stored candidate is made of something after a step. -/
lemma exists_made (writes : List StoreWrite) {b : Book} {r : String} (h : b.candidates r ≠ none) :
    (writes.foldl (Book.write rt sourceOrder) b).candidates r ≠ none := by
  induction writes generalizing b with
  | nil => exact h
  | cons w later ih =>
    refine ih ?_
    cases w with
    | assign c =>
      rw [Book.write]
      dsimp only
      rw [Function.update_apply]
      split
      · simp
      · exact h
    | lane result =>
      rw [Book.write]
      split
      · exact h
      · cases hobserved : b.observed result r <;> simp [hobserved, h]
    | normalize c =>
      rw [Book.write]
      split
      · exact h
      · split <;> exact h

/-- A step that is coherent makes the candidates from observations that have all that was stored. -/
lemma Coherent.rebuilds (h : s.step rt sourceOrder round = .ok s')
    (hcoherent : Coherent rt sourceOrder s round) : Rebuilds rt sourceOrder s round := by
  obtain ⟨hkeeps, hnormalized⟩ := hcoherent s' h
  have hrecords : (bookAfter rt sourceOrder s round).Records rt s' :=
    Book.records_writes (Book.records_book s) h
  have hstored : ∀ {r p}, (bookAfter rt sourceOrder s round).candidates r = some p →
      s'.candidateStore.lookup r = some (p.candidate rt) := by
    intro r p hp
    rw [hrecords.candidates, hp]
    rfl
  refine ⟨fun r stored p hr hp field path hfilled => ?_, fun r stored p hr hp => ?_,
    fun r p hp => ?_⟩
  · obtain ⟨c, hc, hknows, -⟩ := hkeeps r stored hr
    obtain rfl := Option.some.inj (hc.symm.trans (hstored hp))
    exact p.exists_of_filled (hknows field path hfilled)
  · obtain ⟨c, hc, -, hlevel⟩ := hkeeps r stored hr
    obtain rfl := Option.some.inj (hc.symm.trans (hstored hp))
    exact (level_step h).mp hlevel
  · obtain ⟨normalized, hown, hlookup⟩ := hnormalized r _ (hstored hp)
    have hf := hrecords.normalized r
    rw [hlookup] at hf
    obtain ⟨f, hf, hvalue⟩ := Option.map_eq_some_iff.mp hf.symm
    exact ⟨f, hf, .inr ⟨normalized, hown, hvalue⟩⟩

/-- A step that makes the candidates from observations that have all that was stored is coherent. -/
lemma Rebuilds.coherent (hrebuilds : Rebuilds rt sourceOrder s round)
    (hclear : Clear rt sourceOrder s round) : Coherent rt sourceOrder s round := by
  intro s' h
  have hrecords : (bookAfter rt sourceOrder s round).Records rt s' :=
    Book.records_writes (Book.records_book s) h
  refine ⟨fun r stored hr => ?_, fun r c hc => ?_⟩
  · have hbook : s.book.candidates r ≠ none := by simp [RunStores.book, hr]
    obtain ⟨p, hp⟩ := Option.ne_none_iff_exists'.mp (exists_made round.writes hbook)
    refine ⟨p.candidate rt, by rw [hrecords.candidates]; exact congrArg _ hp,
      fun field path hfilled => ?_,
      (level_step h).mpr (hrebuilds.level r stored p hr hp)⟩
    obtain ⟨c, hc, hown⟩ := hrebuilds.content r stored p hr hp field path hfilled
    by_cases hraw : field = .raw
    · subst hraw
      exact (p.filled_raw_of_clears (hclear r stored p hr hp path hfilled)).2 c hc hown
    · exact p.filled_of_mem hraw hc hown
  · rw [hrecords.candidates] at hc
    obtain ⟨p, hp, rfl⟩ := Option.map_eq_some_iff.mp hc
    obtain ⟨f, hf, hsame⟩ := hrebuilds.normalized r p hp
    have hlookup := hrecords.normalized r
    rw [hf, Option.map_some] at hlookup
    obtain ⟨normalized, hnormalized, hvalue⟩ := Option.map_eq_some_iff.mp hlookup
    obtain rfl | ⟨own, hown, hown'⟩ := hsame
    · refine ⟨normalized, ?_, hnormalized⟩
      rw [Filing.value] at hvalue
      cases hresume : rt.normalizeResume (p.candidate rt) with
      | ok n =>
        rw [hresume] at hvalue
        exact congrArg Except.ok (Option.some.inj hvalue).symm
      | error e =>
        rw [hresume] at hvalue
        cases hvalue
    · rw [hown'] at hvalue
      obtain rfl := Option.some.inj hvalue
      exact ⟨normalized, hown, hnormalized⟩

/-! ## Runs -/

/-- What each step of a run that returns keeps. -/
lemma AlongRounds.imp {G H : RunStores → RoundStep → Prop} {rounds : List RoundStep}
    (himp : ∀ s round s', s.step rt sourceOrder round = .ok s' → G s round → H s round)
    (h : AlongRounds rt sourceOrder G s rounds) : AlongRounds rt sourceOrder H s rounds := by
  induction rounds generalizing s with
  | nil => trivial
  | cons round rest ih =>
    intro s' hs'
    obtain ⟨hfirst, hrest⟩ := h s' hs'
    exact ⟨himp s round s' hs' hfirst, ih hrest⟩

/-- A condition along a run holds at each step that returns. -/
lemma AlongRounds.at_reached {G : RunStores → RoundStep → Prop} {before : List RoundStep}
    {t : RunStores} (h : AlongRounds rt sourceOrder G s (before ++ [round]))
    (ht : before.foldlM (step rt sourceOrder) s = .ok t)
    (hs' : t.step rt sourceOrder round = .ok s') : G t round := by
  induction before generalizing s with
  | nil =>
    obtain rfl := Except.ok.inj ht
    exact (h s' hs').1
  | cons first others ih =>
    obtain ⟨u, hu, hothers⟩ := bind_eq_ok.mp ht
    exact ih (h u hu).2 hothers

/-! ## A resume that is observed again -/

/-- A normaliser that reads the level and the location, and hashes that tell nothing apart. -/
def locationRuntime : CandidateRuntime where
  evidence := {
    casefold := id
    sha256Hexdigest := fun _ => ""
    isDecimal := fun _ => false
    normalizeResume := fun _ => {}
    mergeResumeCandidateObservations := fun _ _ _ _ => .error (.valueError "")
    evidencePayloadHash := fun _ => ""
    structuredLeafCount := fun _ => 0
    freshness := fun _ => none
    contentKey := fun _ => "" }
  normalizeResume := fun c => .ok {
    resumeId := c.resumeId
    completenessScore := 0
    scoreEvidenceSource :=
      match c.raw.lookup "score_evidence_source" with
      | some (.str level) => some level
      | _ => none
    structuredEvidence := .obj []
    rest := .obj
      [("locations", textsJson c.nowLocation.toList), ("source_round", numberJson c.sourceRound)] }
  candidatePayloadHash := fun _ => ""
  attributionHash := fun _ => ""

/-- An observation of a resume in a round, of a card or of the detail page. -/
def observation (round : Int) (level : String) (nowLocation : Option String) : ResumeCandidate where
  resumeId := "resume"
  dedupKey := "resume"
  sourceRound := some round
  nowLocation := nowLocation
  searchText := "python"
  raw := [("provider", .str "liepin"), ("score_evidence_source", .str level)]

/-- The detail page of a resume, with its location, in the first round. -/
def shanghaiDetail : ResumeCandidate :=
  observation 1 "detail_enriched" (some "Shanghai")

/-- The evidence row of an observation. -/
def observationEvidence (round : String) (level : RuntimeEvidenceLevel) :
    RuntimeSourceEvidence where
  evidenceId := round
  source := "liepin"
  provider := "liepin"
  evidenceLevel := level
  candidateResumeId := "resume"
  providerCandidateKeyHash := "key"
  collectedAt := round

/-- The lane result with one observation and its evidence row. -/
def observationResult (c : ResumeCandidate) (row : RuntimeSourceEvidence) :
    RuntimeSourceLaneResult where
  candidateStoreUpdates := [("resume", c)]
  sourceEvidenceUpdates := [row]
  nodup := List.nodup_singleton _

/-- The result of a source that returns one observation. -/
def adapterResult (c : ResumeCandidate) (row : RuntimeSourceEvidence) :
    SourceRoundAdapterResult where
  candidates := [c]
  laneResult := some (observationResult c row)

/-- A round in which a source returns one observation. -/
def observationRound (c : ResumeCandidate) (row : RuntimeSourceEvidence) : List RoundStep :=
  [.reportSourceResult (adapterResult c row), .mergeSourceRoundDispatchResult [adapterResult c row],
    .newCandidates [c]]

/-- A round that returns the detail page. -/
def detailRound : List RoundStep :=
  observationRound shanghaiDetail (observationEvidence "1" .detail)

/-- Its card, without a location, in the second round. -/
def laterCard : SourceRoundAdapterResult :=
  adapterResult (observation 2 "card_only" none) (observationEvidence "2" .card)

/-- The card of a resume, with its location, in the first round. -/
def cardRound : List RoundStep :=
  observationRound (observation 1 "card_only" (some "Shanghai")) (observationEvidence "1" .card)

/-- Its detail page, without a location, from an expansion. -/
def expandedDetail : SourceFirstPageExpansionResult where
  candidates := [observation 1 "detail_enriched" none]
  laneResult := some (observationResult (observation 1 "detail_enriched" none)
    (observationEvidence "2" .detail))

/-- The location that is stored for the resume. -/
def storedLocation (s : RunStores) : Option (Option String) :=
  (s.candidateStore.lookup "resume").map ResumeCandidate.nowLocation

/-- The normalised resume has a location. -/
def hasLocation (s : RunStores) : Option Bool :=
  (s.normalizedStore.lookup "resume").map fun normalized =>
    ((normalized.rest.valueAt ["locations"]).map Json.isFilled).getD false

end RunStores

end SeekTalent.CandidateStores
