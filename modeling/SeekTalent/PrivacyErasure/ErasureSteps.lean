import SeekTalent.PrivacyErasure.ErasureFrame

/-!
# The steps of an erasure

A call of the erasure comes to some of the steps only: it skips tables that do not exist, documents
that stay as they are and stage outputs whose files hold no text of the person.  `raised_iff` says
that a call is rolled back exactly if its fault is at one of the steps that it comes to.
-/

namespace SeekTalent.PrivacyErasure

open Foundation Foundation.Renames

namespace ErasureCall

variable (call : ErasureCall)

/-- The step reads a file. -/
def readsFile : ErasureStep → Bool
  | .readArtifact _ => true
  | _ => false

/-- The fault is at the given step.  A file that is found missing when it is read counts as one
without text. -/
def RaisesAt (step : ErasureStep) : Prop :=
  ∃ fault ∈ call.fault, fault.step = step ∧
    ¬(fault.raises = .fileNotFound ∧ readsFile step = true)

/-! ## The steps that a call comes to -/

/-- The steps on a table of documents. -/
def documentSteps {ρ : Type} (tableStep selectStep : ErasureStep) (step : ρ → ErasureStep)
    (table : Option (List ρ)) (changed : List ρ → List ρ) : List ErasureStep :=
  tableStep :: match table with
    | none => []
    | some rows => selectStep :: (changed rows).map step

/-- The steps of `_erase_runtime_checkpoints`. -/
def checkpointSteps (subject : Subject) (db : Database) : List ErasureStep :=
  documentSteps .checkpointsTable .selectCheckpoints (fun row => .updateCheckpoint row.checkpointId)
    db.checkpoints fun rows =>
      (onceEach CheckpointRow.checkpointId [] (rowsToClean CheckpointRow.runtimeRunId
        (fun row => likeContains row.runStateJson call.resumeId)
        (identityRunIds subject.identityRows) rows)).filter fun row =>
          eraseTokensFromJsonText call.toErasureRuntime row.runStateJson subject.tokens ≠
            row.runStateJson

/-- The steps on the snapshots. -/
def snapshotSteps (subject : Subject) (db : Database) : List ErasureStep :=
  documentSteps .snapshotsTable .selectSnapshots (fun row => .updateSnapshot row.runtimeRunId)
    db.snapshots fun rows =>
      (onceEach SnapshotRow.runtimeRunId [] (rowsToClean SnapshotRow.runtimeRunId
        (fun row => likeContains row.snapshotJson call.resumeId)
        (identityRunIds subject.identityRows) rows)).filter fun row =>
          eraseTokensFromJsonText call.toErasureRuntime row.snapshotJson subject.tokens ≠
            row.snapshotJson

/-- The steps on the final summaries. -/
def summarySteps (subject : Subject) (db : Database) : List ErasureStep :=
  documentSteps .finalSummariesTable .selectFinalSummaries
    (fun row => .updateFinalSummary row.summaryId) db.finalSummaries fun rows =>
      (onceEach SummaryRow.summaryId [] (rowsToClean SummaryRow.runtimeRunId
        (fun row => likeContains row.summaryJson call.resumeId ||
          row.userInstruction.elim false fun text => likeContains text call.resumeId)
        (identityRunIds subject.identityRows) rows)).filter fun row =>
          eraseTokensFromJsonText call.toErasureRuntime row.summaryJson subject.tokens ≠
              row.summaryJson ∨
            row.userInstruction.map (eraseTokensFromString subject.tokens) ≠ row.userInstruction

/-- The steps of `eraseIdentities`. -/
def identitySteps (subject : Subject) (db : Database) : List ErasureStep :=
  .updateIdentities :: subject.missingKeys.map .updateMissingIdentity ++
    if subject.tokens = [] then []
    else call.checkpointSteps subject db ++
      (call.snapshotSteps subject db ++ call.summarySteps subject db)

/-- The steps of one round of the loop over the stage outputs, given the files before it. -/
def roundSteps (tokens : List String) (hasRefs : Bool) (index : Nat) (row : StageOutputRow)
    (files : Files) : List ErasureStep :=
  match call.artifactOf row with
  | none => []
  | some artifactRefId =>
    .readArtifact index ::
      if holdsToken tokens ((files (call.stageOutputArtifactPath artifactRefId)).getD "") = false
      then []
      else .renameArtifact index :: .deleteStageOutput index :: .artifactRefsTable index ::
        if hasRefs then [.deleteArtifactRef index] else []

/-- The steps of the loop, each round having the files that the one before it leaves. -/
def loopSteps (tokens : List String) (hasRefs : Bool) :
    Nat → List StageOutputRow → Files → List ErasureStep
  | _, [], _ => []
  | index, row :: rest, files =>
    call.roundSteps tokens hasRefs index row files ++ loopSteps tokens hasRefs (index + 1) rest
      (renameAll (call.roundEnds tokens index row files hasRefs).2.toList files)

/-- The steps of `_delete_runtime_stage_output_artifacts`. -/
def stageOutputSteps (subject : Subject) (db : Database) (files : Files) : List ErasureStep :=
  if subject.tokens = [] then []
  else .stageOutputsTable ::
    if db.stageOutputs.isSome = false ∨ (subject.identityRows.map IdentityRow.runtimeRunId ++
        subject.evidenceRows.map EvidenceRow.runtimeRunId).all (· = "") then []
    else .selectStageOutputs :: call.loopSteps subject.tokens db.artifactRefs.isSome 0
      (stageOutputRows subject db) files

/-- The steps of `eraseEvidenceAndCommit`. -/
def commitSteps (db : Database) : List ErasureStep :=
  (if db.evidence.isSome then [.updateEvidence] else []) ++ [.commit]

/-- The steps of `selectSubject`. -/
def selectSteps (db : Database) : List ErasureStep :=
  .connect :: .identityTable :: .evidenceTable ::
    if db.identities.isSome = false ∧ db.evidence.isSome = false then []
    else (if db.evidence.isSome then [.selectEvidence] else []) ++
      if db.identities.isSome then
        .selectIdentities :: (call.subjectIn db).missingKeys.map .selectMissingIdentity
      else []

/-- The steps of `eraseUntilArtifacts`. -/
def stepsUntilArtifacts (db : Database) (files : Files) : List ErasureStep :=
  call.selectSteps db ++
    if db.identities.isSome = false ∧ db.evidence.isSome = false then []
    else (if db.identities.isSome then call.identitySteps (call.subjectIn db) db else []) ++
      call.stageOutputSteps (call.subjectIn db) db files

/-- The steps up to its commit that a call comes to unless one of them raises. -/
def steps (db : Database) (files : Files) : List ErasureStep :=
  call.stepsUntilArtifacts db files ++
    if db.identities.isSome = false ∧ db.evidence.isSome = false then [] else commitSteps db

/-- The call is rolled back. -/
def RolledBack (db : Database) (files : Files) : Prop :=
  ∃ step ∈ call.steps db files, call.RaisesAt step

/-! ## Computations and their steps -/

/-- A computation raises exactly if one of the given steps does. -/
def Visits {α : Type} (m : ErasureM α) (s : Session) (visited : List ErasureStep) : Prop :=
  (∃ raised, (runOn m s).1 = .error raised) ↔ ∃ step ∈ visited, call.RaisesAt step

section Visiting

variable {call} {α β : Type} {s : Session} {first rest : List ErasureStep}

lemma visits_pure (a : α) : Visits call (pure a : ErasureM α) s [] := by
  simp [Visits]

variable {m : ErasureM α} {f : α → ErasureM β}

lemma Visits.bind (hm : Visits call m s first)
    (hf : ∀ a s', Returns m s a s' → Visits call (f a) s' rest) :
    Visits call (m >>= f) s (first ++ rest) := by
  unfold Visits at hm ⊢
  simp only [List.mem_append, or_and_right, exists_or, ← hm]
  rw [runOn_bind]
  rcases hrun : runOn m s with ⟨raised | a, s'⟩
  · simp
  · simpa [Visits] using hf a s' hrun

/-- One step before a computation. -/
lemma Visits.step {step : ErasureStep}
    (hm : Visits call m s [step]) (hf : ∀ a s', Returns m s a s' → Visits call (f a) s' rest) :
    Visits call (m >>= f) s (step :: rest) := hm.bind hf

/-- Reading the session is not a step. -/
lemma visits_get_bind {f : Session → ErasureM α} (hf : Visits call (f s) s rest) :
    Visits call (get >>= f) s rest := by
  unfold Visits at hf ⊢
  rwa [runOn_bind, runOn_get]

/-- A computation that is followed by one without steps. -/
lemma Visits.bind_nil (hm : Visits call m s first)
    (hf : ∀ a s', Returns m s a s' → Visits call (f a) s' []) : Visits call (m >>= f) s first := by
  simpa using hm.bind hf

/-- What a step raises, when it is not one that reads a file. -/
lemma raisesAt_iff {step : ErasureStep} (hread : readsFile step = false) :
    call.RaisesAt step ↔ ∃ raised, call.faultAt step = some raised := by
  unfold RaisesAt faultAt
  cases hfault : call.fault with
  | none => simp
  | some fault => by_cases hstep : fault.step = step <;> simp [hstep, hread, Option.filter]

lemma Visits.reach {step : ErasureStep} (hread : readsFile step = false) :
    Visits call (call.reach step) s [step] := by
  unfold Visits
  rw [runOn_reach]
  cases hfault : call.faultAt step <;> simp [raisesAt_iff hread, hfault]

lemma Visits.query {step : ErasureStep} (hread : readsFile step = false)
    (read : Database → α) : Visits call (call.query step read) s [step] :=
  (Visits.reach hread).bind_nil fun _ _ _ => visits_pure _

lemma Visits.execute {step : ErasureStep} (hread : readsFile step = false)
    (write : Database → Database) : Visits call (call.execute step write) s [step] :=
  (Visits.reach hread).bind_nil fun _ _ _ => by simp [Visits, runOn_modify]

lemma Visits.forM {ρ : Type} {body : ρ → ErasureM Unit} {step : ρ → List ErasureStep}
    (hbody : ∀ row s, Visits call (body row) s (step row)) (rows : List ρ) (s : Session) :
    Visits call (rows.forM body) s (rows.flatMap step) := by
  induction rows generalizing s with
  | nil => exact visits_pure ()
  | cons row rest ih => exact (hbody row s).bind fun _ s' _ => ih s'

/-- The statements on a table of documents. -/
lemma Visits.documents {ρ : Type} (table : DocumentTable ρ) (key : ρ → String)
    {tableStep selectStep : ErasureStep} {step : ρ → ErasureStep} {read : List ρ → List ρ}
    {changed : ρ → Prop} [DecidablePred changed] {write : ρ → Database → Database}
    (htable : readsFile tableStep = false) (hselect : readsFile selectStep = false)
    (hstep : ∀ row, readsFile (step row) = false) :
    Visits call (do
      if ← call.query tableStep fun db => (table.get db).isSome then
        let rows ← call.query selectStep fun db => read ((table.get db).getD [])
        (onceEach key [] rows).forM fun row =>
          if changed row then call.execute (step row) (write row) else pure ()) s
      (documentSteps tableStep selectStep step (table.get s.working) fun rows =>
        (onceEach key [] (read rows)).filter changed) := by
  refine (Visits.query htable _).step fun present s₁ hpresent => ?_
  obtain ⟨rfl, rfl⟩ := hpresent.of_query
  cases hget : table.get s₁.working with
  | none => exact visits_pure ()
  | some stored =>
    rw [if_pos Option.isSome_some]
    refine (Visits.query hselect _).step fun rows s₂ hrows => ?_
    obtain ⟨rfl, rfl⟩ := hrows.of_query
    rw [hget, Option.getD_some]
    have hbody : ∀ row s, Visits call
        (if changed row then call.execute (step row) (write row) else pure ()) s
        (if changed row then [step row] else []) := by
      intro row s
      split
      · exact Visits.execute (hstep row) _
      · exact visits_pure ()
    have hall := Visits.forM hbody (onceEach key [] (read stored)) s₂
    have hsteps : ∀ rows : List ρ,
        rows.flatMap (fun row => if changed row then [step row] else []) =
          (rows.filter changed).map step := by
      intro rows
      induction rows with
      | nil => rfl
      | cons row rest ih => by_cases hchanged : changed row <;> simp [hchanged, ih]
    rwa [hsteps] at hall

/-! ## The parts of a call -/

section Parts

variable {subject : Subject}

lemma visits_eraseRuntimeCheckpoints (htokens : subject.tokens ≠ []) :
    Visits call (call.eraseRuntimeCheckpoints subject) s
      (call.checkpointSteps subject s.working) := by
  unfold eraseRuntimeCheckpoints
  rw [if_neg htokens]
  exact Visits.documents checkpointTable CheckpointRow.checkpointId rfl rfl fun _ => rfl

lemma visits_eraseRuntimeSnapshots :
    Visits call (call.eraseRuntimeSnapshots subject) s (call.snapshotSteps subject s.working) :=
  Visits.documents snapshotTable SnapshotRow.runtimeRunId rfl rfl fun _ => rfl

lemma visits_eraseRuntimeSummaries :
    Visits call (call.eraseRuntimeSummaries subject) s (call.summarySteps subject s.working) :=
  Visits.documents summaryTable SummaryRow.summaryId rfl rfl fun _ => rfl

/-- The statements that write the identities and the documents. -/
lemma visits_eraseIdentities (hkeyed : s.working.Keyed) :
    Visits call (call.eraseIdentities subject) s (call.identitySteps subject s.working) := by
  unfold eraseIdentities
  refine (Visits.execute rfl _).step fun _ s₁ hidentities => ?_
  have hmissing : Visits call (subject.missingKeys.forM fun key =>
      call.execute (.updateMissingIdentity key) (call.updateIdentity key)) s₁
      (subject.missingKeys.map .updateMissingIdentity) := by
    rw [List.map_eq_flatMap]
    exact Visits.forM (fun key s => Visits.execute rfl _) _ s₁
  refine hmissing.bind fun _ s₂ hmissed => ?_
  have hwritten := Returns.of_forM Returns.of_execute hmissed
  rw [hidentities.of_execute, identities_erased] at hwritten
  subst hwritten
  by_cases htokens : subject.tokens = []
  · simp only [eraseRuntimeCheckpoints, eraseRuntimeSnapshotsAndSummaries, htokens, if_true]
    exact (visits_pure ()).bind_nil fun _ _ _ => visits_pure ()
  rw [if_neg htokens]
  refine (visits_eraseRuntimeCheckpoints htokens).bind fun _ s₃ hcheckpoints => ?_
  have hcheckpoints := Returns.of_eraseRuntimeCheckpoints (by exact hkeyed.checkpoints) hcheckpoints
  subst hcheckpoints
  unfold eraseRuntimeSnapshotsAndSummaries
  rw [if_neg htokens]
  refine visits_eraseRuntimeSnapshots.bind fun _ s₄ hsnapshots => ?_
  rw [Returns.of_eraseRuntimeSnapshots htokens (by exact hkeyed.snapshots) hsnapshots]
  exact visits_eraseRuntimeSummaries

/-- The steps of a round are those of the round. -/
lemma roundOf_of_mem {tokens : List String} {hasRefs : Bool} {index : Nat} {row : StageOutputRow}
    {files : Files} {step : ErasureStep}
    (h : step ∈ call.roundSteps tokens hasRefs index row files) : roundOf step = some index := by
  unfold roundSteps at h
  split at h
  · cases h
  · split at h
    · obtain rfl := List.mem_singleton.mp h
      rfl
    · simp only [List.mem_cons] at h
      obtain rfl | rfl | rfl | rfl | hrefs := h
      case inr.inr.inr.inr =>
        split at hrefs
        · obtain rfl := List.mem_singleton.mp hrefs
          rfl
        · cases hrefs
      all_goals rfl

/-- Where a round raises. -/
lemma roundEnds_raises_iff (tokens : List String) (index : Nat) (row : StageOutputRow)
    (files : Files) (hasRefs : Bool) :
    (∃ raised, (call.roundEnds tokens index row files hasRefs).1 = .error raised) ↔
      ∃ step ∈ call.roundSteps tokens hasRefs index row files, call.RaisesAt step := by
  by_cases hround : ∃ fault ∈ call.fault, roundOf fault.step = some index
  · obtain ⟨⟨step, raises⟩, hfault, hstep⟩ := hround
    have hraises : ∀ step', call.RaisesAt step' ↔ step = step' ∧
        ¬(raises = .fileNotFound ∧ readsFile step' = true) := by
      simp [RaisesAt, Option.mem_def.mp hfault]
    rw [(roundEnds_of_fault hfault hstep tokens row files hasRefs).1]
    unfold roundSteps heldArtifact
    cases call.artifactOf row with
    | none => cases step <;> simp
    | some artifactRefId =>
      cases hholds : holdsToken tokens
        ((files (call.stageOutputArtifactPath artifactRefId)).getD "") <;>
        cases hasRefs <;> cases step <;> simp_all [roundOf, readsFile]
  · have hclear : call.ClearRound index := by
      intro step hstep
      cases hfault : call.faultAt step with
      | none => rfl
      | some raised =>
        obtain ⟨fault, hmem, -⟩ := Option.map_eq_some_iff.mp hfault
        obtain ⟨hmem, hat⟩ := Option.filter_eq_some_iff.mp hmem
        exact absurd ⟨fault, hmem, (of_decide_eq_true hat) ▸ hstep⟩ hround
    rw [roundEnds_of_clear call hclear]
    refine iff_of_false (by simp) ?_
    rintro ⟨step, hmem, fault, hfault, rfl, -⟩
    exact hround ⟨fault, hfault, roundOf_of_mem hmem⟩

/-- The loop over the stage outputs. -/
lemma visits_deleteArtifactsFrom {tokens : List String} (htokens : "" ∉ tokens) (index : Nat)
    (rows : List StageOutputRow) (s : Session) :
    Visits call (call.deleteArtifactsFrom tokens index rows) s
      (call.loopSteps tokens s.working.artifactRefs.isSome index rows s.files) := by
  induction rows generalizing index s with
  | nil => exact visits_pure _
  | cons row rest ih =>
    obtain ⟨s', hrun, hfiles, hrest⟩ := call.runOn_round htokens index row s
    have hround : Visits call (call.deleteStageOutputArtifact tokens index row) s
        (call.roundSteps tokens s.working.artifactRefs.isSome index row s.files) := by
      unfold Visits
      rw [← roundEnds_raises_iff, hrun]
      cases (call.roundEnds tokens index row s.files s.working.artifactRefs.isSome).1 <;>
        simp [Except.map]
    refine hround.bind fun moved s₁ hreturns => ?_
    obtain rfl : s' = s₁ := congrArg Prod.snd (hrun.symm.trans hreturns)
    rw [← hfiles, ← hrest.hasRefs]
    exact (ih (index + 1) s').bind_nil fun _ _ _ => visits_pure _

lemma visits_deleteRuntimeStageOutputArtifacts (htokens : "" ∉ subject.tokens) :
    Visits call (call.deleteRuntimeStageOutputArtifacts subject) s
      (call.stageOutputSteps subject s.working s.files) := by
  unfold deleteRuntimeStageOutputArtifacts stageOutputSteps
  split
  · exact visits_pure _
  refine (Visits.query rfl _).step fun present s₁ hpresent => ?_
  obtain ⟨rfl, rfl⟩ := hpresent.of_query
  by_cases hnone : s₁.working.stageOutputs.isSome = false ∨
      (subject.identityRows.map IdentityRow.runtimeRunId ++
        subject.evidenceRows.map EvidenceRow.runtimeRunId).all (· = "") = true
  · rw [if_pos hnone]
    rcases hnone with habsent | hids
    · rw [if_neg (by simp [habsent])]
      exact visits_pure _
    · rw [if_pos hids, ite_self]
      exact visits_pure _
  · obtain ⟨hpresent, hids⟩ := not_or.mp hnone
    rw [if_neg hnone, if_pos (Bool.eq_true_of_not_eq_false hpresent), if_neg hids]
    refine (Visits.query rfl _).step fun rows s₂ hrows => ?_
    obtain ⟨rfl, rfl⟩ := hrows.of_query
    exact visits_deleteArtifactsFrom htokens 0 _ s₂

lemma visits_eraseEvidenceAndCommit :
    Visits call call.eraseEvidenceAndCommit s (commitSteps s.working) := by
  unfold eraseEvidenceAndCommit commitSteps
  refine visits_get_bind ?_
  split
  · exact (Visits.execute rfl _).step fun _ _ _ => Visits.reach rfl
  · exact Visits.reach rfl

end Parts

/-! ## The call -/

section Call

variable {db : Database} {files : Files}

/-- The statements that read the rows of the person. -/
lemma visits_selectSubject : Visits call call.selectSubject s (call.selectSteps s.working) := by
  have hkeys : Visits call ((call.subjectIn s.working).missingKeys.forM fun key =>
      call.reach (.selectMissingIdentity key)) s
      ((call.subjectIn s.working).missingKeys.map .selectMissingIdentity) := by
    rw [List.map_eq_flatMap]
    exact Visits.forM (fun key s => Visits.reach rfl) _ s
  unfold selectSubject selectSteps
  refine (Visits.reach rfl).step fun _ s₁ hconnect => ?_
  obtain rfl := hconnect.of_reach
  refine (Visits.query rfl _).step fun _ s₁ hidentities => ?_
  obtain ⟨rfl, rfl⟩ := hidentities.of_query
  refine (Visits.query rfl _).step fun _ s₁ hevidence => ?_
  obtain ⟨rfl, rfl⟩ := hevidence.of_query
  cases hidentities : s₁.working.identities.isSome <;>
    cases hevidence : s₁.working.evidence.isSome
  · exact visits_pure none
  · refine (Visits.reach rfl).step fun _ s₂ hselect => ?_
    obtain rfl := hselect.of_reach
    exact visits_get_bind (visits_pure _)
  · refine visits_get_bind ((Visits.reach rfl).step fun _ s₂ hselect => ?_)
    obtain rfl := hselect.of_reach
    exact hkeys.bind_nil fun _ _ _ => visits_pure _
  · refine (Visits.reach rfl).step fun _ s₂ hselect => ?_
    obtain rfl := hselect.of_reach
    refine visits_get_bind ((Visits.reach rfl).step fun _ s₃ hselect => ?_)
    obtain rfl := hselect.of_reach
    exact hkeys.bind_nil fun _ _ _ => visits_pure _

/-- The steps of the stage outputs depend on nothing that was written before. -/
lemma SameOutputs.stageOutputSteps {s' : Session} (h : SameOutputs s s') (subject : Subject) :
    call.stageOutputSteps subject s'.working s'.files =
      call.stageOutputSteps subject s.working s.files := by
  unfold ErasureCall.stageOutputSteps
  rw [h.stageOutputRows, h.stageOutputs, h.artifactRefs, h.files]

/-- What is done until the stage outputs are deleted. -/
lemma visits_eraseUntilArtifacts (hkeyed : s.working.Keyed) :
    Visits call call.eraseUntilArtifacts s (call.stepsUntilArtifacts s.working s.files) := by
  have hafter {s' : Session} (h : SameOutputs s s') :
      Visits call (call.afterIdentities (call.subjectIn s.working)) s'
        (call.stageOutputSteps (call.subjectIn s.working) s.working s.files) := by
    rw [← h.stageOutputSteps]
    exact (visits_deleteRuntimeStageOutputArtifacts
      (call.empty_notMem_tokens s.working)).bind_nil fun _ _ _ => visits_pure _
  unfold eraseUntilArtifacts stepsUntilArtifacts
  refine visits_selectSubject.bind fun selected s₁ hselect => ?_
  obtain ⟨rfl, rfl⟩ := hselect.of_selectSubject
  by_cases htables : s₁.working.identities.isSome = false ∧ s₁.working.evidence.isSome = false
  · rw [if_pos htables, if_pos htables]
    exact visits_pure none
  rw [if_neg htables, if_neg htables]
  dsimp only
  refine visits_get_bind ?_
  cases hidentities : s₁.working.identities.isSome with
  | false => exact hafter (SameOutputs.refl s₁)
  | true =>
    refine (visits_eraseIdentities hkeyed).bind fun _ s₂ herase => hafter ?_
    have hquiet : Quiet call (call.eraseIdentities (call.subjectIn s₁.working)) :=
      quiet_eraseIdentities _
    have hsame := hquiet.same s₁
    rwa [herase] at hsame

/-- A call is rolled back exactly if its fault is at a step that it comes to. -/
theorem raised_iff (hkeyed : db.Keyed) :
    (∃ raised, (call.eraseRuntimeControlSubject db files).ending = .raised raised) ↔
      call.RolledBack db files := by
  have hcall : Visits call (call.eraseUntilArtifacts >>= fun found =>
      if found.isSome then call.eraseEvidenceAndCommit else pure ()) ⟨db, files⟩
      (call.steps db files) := by
    refine (visits_eraseUntilArtifacts hkeyed).bind fun found s' hreturns => ?_
    rcases Returns.of_eraseUntilArtifacts hkeyed hreturns with
      ⟨rfl, -, hidentities, hevidence⟩ | ⟨moves, s₁, rfl, htables, hrecords, hsome, hnone⟩
    · have hnone : db.identities.isSome = false ∧ db.evidence.isSome = false :=
        ⟨Option.isSome_eq_false_iff.mpr (Option.isNone_iff_eq_none.mpr hidentities),
          Option.isSome_eq_false_iff.mpr (Option.isNone_iff_eq_none.mpr hevidence)⟩
      rw [if_pos hnone]
      exact visits_pure ()
    · have hkept : s'.working.evidence = db.evidence := by
        rw [(tables_of_records hrecords).2.1]
        cases hpresent : db.identities.isSome with
        | false => rw [hnone hpresent]
        | true => exact (hsome hpresent).evidence
      rw [if_neg htables]
      unfold commitSteps
      rw [← hkept]
      exact visits_eraseEvidenceAndCommit
  unfold Visits at hcall
  rw [RolledBack, ← hcall, eraseRuntimeControlSubject_eq, runOn_bind]
  rcases runOn call.eraseUntilArtifacts ⟨db, files⟩ with ⟨raised | _ | ⟨subject, moves⟩, s'⟩
  · simp
  · simp
  · unfold afterLoop
    dsimp only
    rw [if_pos Option.isSome_some]
    rcases runOn call.eraseEvidenceAndCommit s' with ⟨raised | _, s''⟩
    · simp
    · rcases hdelete : call.deleteQuarantinedArtifactPaths moves s''.working s''.files with
        ⟨after, left, _ | ⟨error, rest⟩⟩ <;> simp [hdelete]

end Call

end Visiting

end ErasureCall

end SeekTalent.PrivacyErasure
