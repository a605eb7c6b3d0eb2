import SeekTalent.PrivacyErasure.ErasureSteps

/-!
# What an erasure leaves alone

The texts of a person are taken out of whole documents, in which other people may stand too.
`touchesNobodyElse_iff` says when an erasure leaves everything of other people as it was.
-/

namespace SeekTalent.PrivacyErasure

open Foundation

namespace ErasureCall

section Others

variable (call : ErasureCall)

/-- The texts of a list, as `_loads_list` reads it. -/
def listTexts (text : String) : List String :=
  match call.loads text with
  | some (.arr items) => items.filterMap fun item =>
      match item with
      | .str value => some value
      | _ => none
  | _ => []

/-- An identity of the resume: it has the resume, or evidence of it. -/
def isOf (db : Database) (row : IdentityRow) : Bool :=
  row.canonicalResumeId = call.resumeId ∨ call.resumeId ∈ call.listTexts row.mergedResumeIdsJson ∨
    row.key ∈ (evidenceRows db call.resumeId).map EvidenceRow.identityKey

/-- The ids of the person, and those of the people of the other identities. -/
def people (db : Database) : People :=
  let own := (db.identities.getD []).filter (call.isOf db)
  let ids := call.resumeId :: (own.flatMap (fun row => row.identityId :: row.canonicalResumeId ::
      (call.listTexts row.mergedResumeIdsJson ++ call.listTexts row.sourceEvidenceIdsJson)) ++
    (evidenceRows db call.resumeId).flatMap fun row =>
      [row.evidenceId, row.providerCandidateKeyHash])
  let other := (db.identities.getD []).filter fun row => !call.isOf db row
  { ids := ids
    others := (other.flatMap fun row =>
      row.identityId :: row.canonicalResumeId :: call.listTexts row.mergedResumeIdsJson).filter
        (· ∉ ids) }

/-- What is written instead of a document spares what is other people's. -/
def DocumentSpared (db : Database) (old new : String) : Prop :=
  new ≠ old → ∀ value, call.loads old = some value → value ≠ .null →
    new = call.dumps (eraseTokensFromJsonValue (call.subjectIn db).tokens value) ∧
      Spared (call.people db) false value
        (eraseTokensFromJsonValue (call.subjectIn db).tokens value)

/-- Nobody else is touched: the rows of other people are as they were, and so is what is theirs in
the documents. -/
structure TouchesNobodyElse (db db' : Database) : Prop where
  identities : RowsRelated (fun old new => call.isOf db old = false → new = old) db.identities
    db'.identities
  evidence : RowsRelated (fun old new => old.resumeId ≠ call.resumeId → new = old) db.evidence
    db'.evidence
  checkpoints : RowsRelated
    (fun old new => call.DocumentSpared db old.runStateJson new.runStateJson)
    db.checkpoints db'.checkpoints
  snapshots : RowsRelated (fun old new => call.DocumentSpared db old.snapshotJson new.snapshotJson)
    db.snapshots db'.snapshots
  finalSummaries : RowsRelated
    (fun old new => call.DocumentSpared db old.summaryJson new.summaryJson)
    db.finalSummaries db'.finalSummaries

/-- A document survives if it changes at all. -/
def DocumentSurvives (db : Database) (text : String) : Prop :=
  eraseTokensFromJsonText call.toErasureRuntime text (call.subjectIn db).tokens ≠ text →
    ∀ value, call.loads text = some value → value ≠ .null →
      Survives (call.subjectIn db).tokens (call.people db) false value

/-- The person's texts collide with nothing of other people: no other identity is found from the
resume, and all the documents that are looked at survive. -/
structure NoCollision (db : Database) : Prop where
  identities : ∀ row ∈ db.identities.getD [], row.hasResume call.toErasureRuntime call.resumeId =
    true → call.isOf db row = true ∨ call.erasedIdentity row = row
  checkpoints : db.identities.isSome = true → ∀ row ∈ db.checkpoints.getD [],
    IsCleaned (call.subjectIn db) row.runtimeRunId (likeContains row.runStateJson call.resumeId) →
      call.DocumentSurvives db row.runStateJson
  snapshots : db.identities.isSome = true → ∀ row ∈ db.snapshots.getD [],
    IsCleaned (call.subjectIn db) row.runtimeRunId (likeContains row.snapshotJson call.resumeId) →
      call.DocumentSurvives db row.snapshotJson
  finalSummaries : db.identities.isSome = true → ∀ row ∈ db.finalSummaries.getD [],
    IsCleaned (call.subjectIn db) row.runtimeRunId (likeContains row.summaryJson call.resumeId ||
      row.userInstruction.elim false fun text => likeContains text call.resumeId) →
      call.DocumentSurvives db row.summaryJson

variable {call} {db : Database}

/-- A document is spared if and only if it survives, in case it is looked at. -/
lemma documentSpared_iff (text : String) (looked : Prop) [Decidable looked] :
    call.DocumentSpared db text (if looked then
        eraseTokensFromJsonText call.toErasureRuntime text (call.subjectIn db).tokens else text) ↔
      (looked → call.DocumentSurvives db text) := by
  by_cases hlooked : looked
  · simp only [hlooked, if_true, forall_const]
    refine forall_congr' fun _ => forall_congr' fun value => forall_congr' fun hvalue =>
      forall_congr' fun hnull => ?_
    rw [spared_iff_survives]
    refine and_iff_right ?_
    unfold eraseTokensFromJsonText
    rw [hvalue]
    cases value <;> first | rfl | exact absurd rfl hnull
  · simp [hlooked, DocumentSpared]

/-- The documents of a table are spared if and only if those survive that are looked at. -/
lemma documents_iff {ρ : Type} {table table' : Option (List ρ)} (text : ρ → String) {clean : ρ → ρ}
    (looked : ρ → Prop) [DecidablePred looked]
    (hclean : ∀ row, text (clean row) = if looked row then
      eraseTokensFromJsonText call.toErasureRuntime (text row)
        (call.subjectIn db).tokens else text row)
    (htable : table' = table.map fun rows => rows.map fun row =>
      if db.identities.isSome then clean row else row) :
    RowsRelated (fun old new => call.DocumentSpared db (text old) (text new)) table table' ↔
      (db.identities.isSome = true → ∀ row ∈ table.getD [], looked row →
        call.DocumentSurvives db (text row)) := by
  rw [htable, rowsRelated_map]
  cases db.identities.isSome with
  | false => simp [DocumentSpared]
  | true =>
    simp only [if_true, forall_const, hclean]
    exact forall_congr' fun row => forall_congr' fun _ => documentSpared_iff (text row) (looked row)

/-- An identity that the evidence leads to is one of the resume. -/
lemma isOf_of_mem_missingKeys {row : IdentityRow} (h : row.key ∈ (call.subjectIn db).missingKeys) :
    call.isOf db row = true := by
  have hkey : row.key ∈ (evidenceRows db call.resumeId).map EvidenceRow.identityKey := by
    unfold subjectIn missingEvidenceIdentityKeys at h
    dsimp only at h
    split at h
    · rw [(List.perm_insertionSort _ _).mem_iff, List.mem_dedup] at h
      exact List.mem_of_mem_filter h
    · cases h
  exact decide_eq_true (.inr (.inr hkey))

/-- An erasure touches nobody else if and only if its fault is at a step that it comes to, so that
it is rolled back, or the person's texts collide with nothing of other people. -/
theorem touchesNobodyElse_iff (call : ErasureCall) (db : Database) (files : Files)
    (hkeyed : db.Keyed) :
    call.TouchesNobodyElse db (call.eraseRuntimeControlSubject db files).committed ↔
      call.RolledBack db files ∨ call.NoCollision db := by
  rw [← raised_iff hkeyed]
  by_cases hraised : ∃ raised, (call.eraseRuntimeControlSubject db files).ending = .raised raised
  · refine iff_of_true ?_ (.inl hraised)
    rw [committed_of_raised hraised.choose_spec]
    refine ⟨?_, ?_, ?_, ?_, ?_⟩ <;> refine rowsRelated_self (fun row => ?_) _
    · exact fun _ => rfl
    · exact fun _ => rfl
    all_goals exact fun h => absurd rfl h
  rw [or_iff_right hraised]
  have hcommitted : Committed call db (call.eraseRuntimeControlSubject db files).committed :=
    committed_of_not_raised hkeyed fun raised h => hraised ⟨raised, h⟩
  generalize (call.eraseRuntimeControlSubject db files).committed = db' at hcommitted
  -- Table by table.
  have hidentities : RowsRelated (fun old new => call.isOf db old = false → new = old) db.identities
    db'.identities ↔
      ∀ row ∈ db.identities.getD [], row.hasResume call.toErasureRuntime call.resumeId = true →
        call.isOf db row = true ∨ call.erasedIdentity row = row := by
    rw [hcommitted.identities, rowsRelated_map]
    refine forall_congr' fun row => forall_congr' fun _ => ?_
    unfold cleanIdentity
    by_cases hmissing : row.key ∈ (call.subjectIn db).missingKeys
    · simp [isOf_of_mem_missingKeys hmissing]
    · by_cases hresume : row.hasResume call.toErasureRuntime call.resumeId = true
      · cases hown : call.isOf db row <;> simp [hresume]
      · simp [hmissing, hresume]
  have hevidence : RowsRelated (fun old new => old.resumeId ≠ call.resumeId → new = old) db.evidence
      db'.evidence := by
    rw [hcommitted.evidence, rowsRelated_map]
    intro row _ hne
    rw [if_neg hne]
  have hcheckpoints :=
    documents_iff CheckpointRow.runStateJson (fun row => IsCleaned (call.subjectIn db)
    row.runtimeRunId (likeContains row.runStateJson call.resumeId))
    (fun row => apply_ite CheckpointRow.runStateJson _ _ _) hcommitted.checkpoints
  have hsnapshots :=
    documents_iff SnapshotRow.snapshotJson (fun row => IsCleaned (call.subjectIn db)
    row.runtimeRunId (likeContains row.snapshotJson call.resumeId))
    (fun row => apply_ite SnapshotRow.snapshotJson _ _ _) hcommitted.snapshots
  have hsummaries := documents_iff SummaryRow.summaryJson (fun row => IsCleaned (call.subjectIn db)
    row.runtimeRunId (likeContains row.summaryJson call.resumeId ||
      row.userInstruction.elim false fun text => likeContains text call.resumeId))
    (fun row => apply_ite SummaryRow.summaryJson _ _ _) hcommitted.finalSummaries
  constructor
  · intro h
    exact ⟨hidentities.mp h.identities, hcheckpoints.mp h.checkpoints, hsnapshots.mp h.snapshots,
      hsummaries.mp h.finalSummaries⟩
  · intro h
    exact ⟨hidentities.mpr h.identities, hevidence, hcheckpoints.mpr h.checkpoints,
      hsnapshots.mpr h.snapshots, hsummaries.mpr h.finalSummaries⟩

end Others

end ErasureCall

/-! ## Two candidates of one city -/

/-- An identity of the example. -/
def exampleIdentity (identityId resumeId location : String) : IdentityRow where
  runtimeRunId := "run-1"
  identityId := identityId
  canonicalResumeId := resumeId
  mergedResumeIdsJson := "[\"" ++ resumeId ++ "\"]"
  sourceEvidenceIdsJson := "[]"
  displayName := ""
  title := ""
  company := ""
  location := location
  summary := ""
  score := some 81
  fitBucket := none
  payloadHash := ""
  updatedAt := "2026-05-30T00:00:00Z"

/-- A run state that has two candidates. -/
def exampleRunStateText (firstCity : String) : String :=
  "\x7b\"candidate_store\":\x7b\"resume-1\":\x7b\"city\":\"" ++ firstCity ++
    "\",\"score\":81\x7d,\"resume-2\":\x7b\"city\":\"Shanghai\",\"score\":76\x7d\x7d\x7d"

/-- The document of the run state. -/
def exampleRunState (firstCity : String) : Json :=
  .obj [("candidate_store", .obj [
    ("resume-1", .obj [("city", .str firstCity), ("score", .int 81)]),
    ("resume-2", .obj [("city", .str "Shanghai"), ("score", .int 76)])])]

/-- Two candidates, and a checkpoint that has them both. -/
def exampleFrameDatabase (firstCity : String) : Database where
  identities := some [exampleIdentity "identity-1" "resume-1" firstCity,
    exampleIdentity "identity-2" "resume-2" "Shanghai"]
  checkpoints := some [{
    checkpointId := "checkpoint-1", runtimeRunId := "run-1", runStateJson :=
      exampleRunStateText firstCity }]

/-- The document of the run state is what is read. -/
lemma loads_exampleRunStateText {firstCity : String}
    (h : firstCity = "Beijing" ∨ firstCity = "Shanghai") :
    (exampleErasureCall none).loads (exampleRunStateText firstCity) = some
    (exampleRunState firstCity) := by
  rcases h with rfl | rfl <;> decide +kernel

/-- The people of the example. -/
lemma people_exampleFrameDatabase {firstCity : String}
    (h : firstCity = "Beijing" ∨ firstCity = "Shanghai") :
    (exampleErasureCall none).people (exampleFrameDatabase firstCity) =
      ⟨["resume-1", "identity-1", "resume-1", "resume-1"],
        ["identity-2", "resume-2", "resume-2"]⟩ := by
  rcases h with rfl | rfl <;> decide +kernel

/-- The texts of the first candidate. -/
lemma tokens_exampleFrameDatabase {firstCity : String}
    (h : firstCity = "Beijing" ∨ firstCity = "Shanghai") :
    ((exampleErasureCall none).subjectIn (exampleFrameDatabase firstCity)).tokens =
      [firstCity, "resume-1"] := by
  rcases h with rfl | rfl <;> decide +kernel

/-- Two candidates of different cities: the second one is not touched. -/
theorem differentCities_touchesNobodyElse :
    (exampleErasureCall none).TouchesNobodyElse (exampleFrameDatabase "Beijing")
      ((exampleErasureCall none).eraseRuntimeControlSubject (exampleFrameDatabase "Beijing")
        exampleErasureFiles).committed := by
  have hkeyed : (exampleFrameDatabase "Beijing").Keyed :=
    ⟨by decide +kernel, by decide +kernel, by decide +kernel⟩
  refine (ErasureCall.touchesNobodyElse_iff _ _ _ hkeyed).mpr (.inr ?_)
  refine ⟨by decide +kernel, fun _ row hrow _ _ value hvalue _ => ?_, fun _ row hrow => ?_,
    fun _ row hrow => ?_⟩
  · obtain rfl := List.mem_singleton.mp hrow
    obtain rfl := Option.some_inj.mp ((loads_exampleRunStateText (.inl rfl)).symm.trans hvalue)
    rw [tokens_exampleFrameDatabase (.inl rfl), people_exampleFrameDatabase (.inl rfl)]
    decide +kernel
  · cases hrow
  · cases hrow

/-- Two candidates of one city: the city is taken out of the second one's entry too. -/
theorem sharedCity_isErased :
    ¬ (exampleErasureCall none).TouchesNobodyElse (exampleFrameDatabase "Shanghai")
      ((exampleErasureCall none).eraseRuntimeControlSubject (exampleFrameDatabase "Shanghai")
        exampleErasureFiles).committed := by
  have hcommitted : ((exampleErasureCall none).eraseRuntimeControlSubject
    (exampleFrameDatabase "Shanghai")
      exampleErasureFiles).committed.checkpoints = some [⟨"checkpoint-1", "run-1",
        "\x7b\"candidate_store\":\x7b\"[erased]\":\x7b\"city\":\"[erased]\",\"score\":81\x7d,\"resume-2\":\x7b\"city\":" ++
        "\"[erased]\",\"score\":76\x7d\x7d\x7d"⟩] := by decide +kernel
  generalize ((exampleErasureCall none).eraseRuntimeControlSubject (exampleFrameDatabase "Shanghai")
    exampleErasureFiles).committed = db' at hcommitted
  intro h
  have hdocument := h.checkpoints
  rw [hcommitted] at hdocument
  have hspared := (List.forall₂_cons.mp hdocument).1 (by decide +kernel) _
    (loads_exampleRunStateText (.inr rfl)) (by decide)
  have hsurvives := (spared_iff_survives false _).mp hspared.2
  rw [tokens_exampleFrameDatabase (.inr rfl), people_exampleFrameDatabase (.inr rfl)] at hsurvives
  exact absurd hsurvives (by decide +kernel)

end SeekTalent.PrivacyErasure
