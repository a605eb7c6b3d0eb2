import SeekTalent.PrivacyErasure.ArtifactErasure

/-!
# The steps of an erasure up to the stage outputs

What a step of the erasure does to the rows and the files, and that all the statements before the
loop over the stage outputs leave the stage outputs and the files alone: `until_cases` says how the
run comes to the loop.
-/

namespace SeekTalent.PrivacyErasure

open Foundation

namespace ErasureCall

/-! ## Runs -/

section Runs

variable {α β : Type}

/-- What a computation returns or raises, and the session it leaves. -/
def runOn (m : ErasureM α) (s : Session) : Except Raised α × Session := m.run.run s

@[simp] lemma runOn_pure (a : α) (s : Session) : runOn (pure a) s = (.ok a, s) := rfl

@[simp] lemma runOn_get (s : Session) : runOn (get : ErasureM Session) s = (.ok s, s) := rfl

@[simp] lemma runOn_modify (f : Session → Session) (s : Session) :
    runOn (modify f : ErasureM Unit) s = (.ok (), f s) := rfl

/-- One computation after another. -/
lemma runOn_bind (m : ErasureM α) (f : α → ErasureM β) (s : Session) :
    runOn (m >>= f) s =
      match runOn m s with
      | (.ok a, s') => runOn (f a) s'
      | (.error raised, s') => (.error raised, s') := by
  have hbind : runOn (m >>= f) s =
      match (m.run.run s) with
      | (r, s') => (ExceptT.bindCont f r).run s' := rfl
  rw [hbind]
  unfold runOn
  rcases m.run.run s with ⟨_ | a, s'⟩ <;> rfl

end Runs

variable (call : ErasureCall)

/-- A step raises or does nothing. -/
lemma runOn_reach (step : ErasureStep) (s : Session) :
    runOn (call.reach step) s =
      match call.faultAt step with
      | some raised => (.error raised, s)
      | none => (.ok (), s) := by
  unfold reach
  cases call.faultAt step <;> rfl

/-- A step that raises does nothing, and one that returns does what it is there for. -/
lemma runOn_execute (step : ErasureStep) (write : Database → Database) (s : Session) :
    runOn (call.execute step write) s =
      match call.faultAt step with
      | some raised => (.error raised, s)
      | none => (.ok (), { s with working := write s.working }) := by
  unfold execute
  rw [runOn_bind, runOn_reach]
  cases call.faultAt step <;> rfl

lemma runOn_query {α : Type} (step : ErasureStep) (read : Database → α) (s : Session) :
    runOn (call.query step read) s =
      match call.faultAt step with
      | some raised => (.error raised, s)
      | none => (.ok (read s.working), s) := by
  unfold query
  rw [runOn_bind, runOn_reach]
  cases call.faultAt step <;> rfl

/-- Nothing that the stage outputs depend on has changed. -/
structure SameOutputs (s s' : Session) : Prop where
  files : s'.files = s.files
  stageOutputs : s'.working.stageOutputs = s.working.stageOutputs
  artifactRefs : s'.working.artifactRefs = s.working.artifactRefs
  evidence : s'.working.evidence = s.working.evidence
  artifactDeletions : s'.working.artifactDeletions = s.working.artifactDeletions

lemma SameOutputs.refl (s : Session) : SameOutputs s s := ⟨rfl, rfl, rfl, rfl, rfl⟩

lemma SameOutputs.trans (a b c : Session) (h : SameOutputs a b) (h' : SameOutputs b c) :
    SameOutputs a c :=
  ⟨h'.files.trans h.files, h'.stageOutputs.trans h.stageOutputs,
    h'.artifactRefs.trans h.artifactRefs, h'.evidence.trans h.evidence, h'.artifactDeletions.trans
    h.artifactDeletions⟩

/-- The steps before the loop over the stage outputs. -/
def early : ErasureStep → Bool
  | .readArtifact _ | .renameArtifact _ | .deleteStageOutput _ | .artifactRefsTable _
    | .deleteArtifactRef _
  | .updateEvidence | .commit => false
  | _ => true

/-- A computation that leaves the stage outputs alone and raises only at steps before the loop. -/
structure Quiet {α : Type} (m : ErasureM α) : Prop where
  same : ∀ s, SameOutputs s (runOn m s).2
  raises : ∀ s raised, (runOn m s).1 = .error raised → ∃ step, early step = true ∧
    call.faultAt step = some raised

section Before

variable {call} {α β : Type}

lemma Quiet.pure (a : α) : Quiet call (pure a : ErasureM α) :=
  ⟨SameOutputs.refl, fun _ _ h => nomatch h⟩

lemma Quiet.get : Quiet call (get : ErasureM Session) :=
  ⟨SameOutputs.refl, fun _ _ h => nomatch h⟩

lemma Quiet.bind {m : ErasureM α} {f : α → ErasureM β} (hm : Quiet call m)
    (hf : ∀ a, Quiet call (f a)) : Quiet call (m >>= f) := by
  constructor
  · intro s
    have hfirst := hm.same s
    rw [runOn_bind]
    rcases hrun : runOn m s with ⟨_ | a, s'⟩ <;> rw [hrun] at hfirst
    · exact hfirst
    · exact hfirst.trans _ _ _ ((hf a).same s')
  · intro s raised h
    have hfirst := hm.raises s raised
    rw [runOn_bind] at h
    rcases hrun : runOn m s with ⟨raised' | a, s'⟩ <;> rw [hrun] at hfirst h
    · cases h
      exact hfirst rfl
    · exact (hf a).raises s' raised h

lemma Quiet.forM {body : α → ErasureM Unit} (hbody : ∀ a, Quiet call (body a)) (l : List α) :
    Quiet call (l.forM body) := by
  induction l with
  | nil => exact Quiet.pure ()
  | cons a rest ih => exact (hbody a).bind fun _ => ih

lemma Quiet.reach {step : ErasureStep} (h : early step = true) : Quiet call (call.reach step) := by
  constructor
  · intro s
    rw [runOn_reach]
    cases call.faultAt step <;> exact SameOutputs.refl s
  · intro s raised hraised
    rw [runOn_reach] at hraised
    cases hfault : call.faultAt step with
    | none =>
      rw [hfault] at hraised
      cases hraised
    | some raised' =>
      rw [hfault] at hraised
      cases hraised
      exact ⟨step, h, hfault⟩

lemma Quiet.query {step : ErasureStep} (h : early step = true) (read : Database → α) :
    Quiet call (call.query step read) :=
  (Quiet.reach h).bind fun _ => Quiet.get.bind fun _ => Quiet.pure _

lemma Quiet.execute {step : ErasureStep} (h : early step = true) {write : Database → Database}
    (hwrite : ∀ db, (write db).stageOutputs = db.stageOutputs ∧
      (write db).artifactRefs = db.artifactRefs ∧
      (write db).evidence = db.evidence ∧ (write db).artifactDeletions = db.artifactDeletions) :
    Quiet call (call.execute step write) := by
  refine (Quiet.reach h).bind fun _ => ⟨fun s => ?_, fun _ _ h => nomatch h⟩
  obtain ⟨houtputs, hrefs, hevidence, hdeletions⟩ := hwrite s.working
  exact ⟨rfl, houtputs, hrefs, hevidence, hdeletions⟩

/-- The statements on the documents of one table. -/
lemma Quiet.documents {ρ : Type} {table select : ErasureStep} (htable : early table = true)
    (hselect : early select = true) {exists? : Database → Bool} {read : Database → List ρ}
    {once : List ρ → List ρ} {body : ρ → ErasureM Unit} (hbody : ∀ row, Quiet call (body row)) :
    Quiet call (do
      if ← call.query table exists? then
        let rows ← call.query select read
        (once rows).forM body) := by
  refine (Quiet.query htable _).bind fun hasTable => ?_
  split
  · exact (Quiet.query hselect _).bind fun rows => Quiet.forM hbody _
  · exact Quiet.pure ()

/-- The statements on the identities and on the documents of the runs. -/
lemma quiet_eraseIdentities (subject : Subject) : Quiet call (call.eraseIdentities subject) := by
  have hcheckpoints : Quiet call (call.eraseRuntimeCheckpoints subject) := by
    unfold eraseRuntimeCheckpoints
    split
    · exact Quiet.pure ()
    refine Quiet.documents rfl rfl fun row => ?_
    dsimp only
    split
    · exact Quiet.execute rfl fun db => ⟨rfl, rfl, rfl, rfl⟩
    · exact Quiet.pure ()
  have hsnapshots : Quiet call (call.eraseRuntimeSnapshots subject) := by
    refine Quiet.documents rfl rfl fun row => ?_
    dsimp only
    split
    · exact Quiet.execute rfl fun db => ⟨rfl, rfl, rfl, rfl⟩
    · exact Quiet.pure ()
  have hsummaries : Quiet call (call.eraseRuntimeSummaries subject) := by
    refine Quiet.documents rfl rfl fun row => ?_
    dsimp only
    split
    · exact Quiet.execute rfl fun db => ⟨rfl, rfl, rfl, rfl⟩
    · exact Quiet.pure ()
  unfold eraseIdentities
  refine Quiet.bind (Quiet.execute rfl fun db => ⟨rfl, rfl, rfl, rfl⟩) fun _ => ?_
  refine (Quiet.forM (fun key => ?_) _).bind fun _ => hcheckpoints.bind fun _ => ?_
  · exact Quiet.execute rfl fun db => ⟨rfl, rfl, rfl, rfl⟩
  unfold eraseRuntimeSnapshotsAndSummaries
  split
  · exact Quiet.pure ()
  · exact hsnapshots.bind fun _ => hsummaries

end Before

/-- A computation changes nothing, and returns the given value unless a step before the loop
raises. -/
def Reads {α : Type} (m : ErasureM α) (s : Session) (a : α) : Prop :=
  runOn m s = (.ok a, s) ∨
    ∃ step raised, early step = true ∧ call.faultAt step = some raised ∧
      runOn m s = (.error raised, s)

section Reading

variable {call} {α β : Type} {s : Session}

lemma Reads.pure (a : α) : Reads call (pure a : ErasureM α) s a := .inl rfl

lemma Reads.bind {m : ErasureM α} {f : α → ErasureM β} {a : α} {b : β} (hm : Reads call m s a)
    (hf : Reads call (f a) s b) : Reads call (m >>= f) s b := by
  unfold Reads
  rw [runOn_bind]
  rcases hm with hok | ⟨step, raised, hearly, hfault, herror⟩
  · rw [hok]
    exact hf
  · rw [herror]
    exact .inr ⟨step, raised, hearly, hfault, rfl⟩

lemma Reads.reach {step : ErasureStep} (h : early step = true) :
    Reads call (call.reach step) s () := by
  unfold Reads
  rw [runOn_reach]
  cases hfault : call.faultAt step with
  | none => exact .inl rfl
  | some raised => exact .inr ⟨step, raised, h, hfault, rfl⟩

lemma Reads.query {step : ErasureStep} (h : early step = true) (read : Database → α) :
    Reads call (call.query step read) s (read s.working) :=
  (Reads.reach h).bind (.inl rfl)

lemma Reads.forM {body : α → ErasureM Unit} (hbody : ∀ a, Reads call (body a) s ()) (l : List α) :
    Reads call (l.forM body) s () := by
  induction l with
  | nil => exact Reads.pure ()
  | cons a rest ih => exact (hbody a).bind ih

variable (call s) in
/-- What is read is what the rows say, unless neither of the tables exists. -/
lemma reads_selectSubject : Reads call call.selectSubject s
    (if s.working.identities.isSome = false ∧ s.working.evidence.isSome = false then none
      else some (call.subjectIn s.working)) := by
  unfold selectSubject
  refine (Reads.reach rfl).bind ((Reads.query rfl _).bind ((Reads.query rfl _).bind ?_))
  cases hidentities : s.working.identities.isSome <;> cases hevidence : s.working.evidence.isSome
  · exact Reads.pure none
  · exact (Reads.reach rfl).bind (Reads.bind (.inl rfl) (Reads.pure _))
  · exact Reads.bind (.inl rfl) ((Reads.reach rfl).bind
      ((Reads.forM (fun key => Reads.reach rfl) _).bind (Reads.pure _)))
  · exact (Reads.reach rfl).bind (Reads.bind (.inl rfl) ((Reads.reach rfl).bind
      ((Reads.forM (fun key => Reads.reach rfl) _).bind (Reads.pure _))))

end Reading

/-- The stage outputs that the loop goes through depend on nothing that was written before. -/
lemma SameOutputs.stageOutputRows {s s' : Session} (h : SameOutputs s s') (subject : Subject) :
    stageOutputRows subject s'.working = stageOutputRows subject s.working := by
  unfold ErasureCall.stageOutputRows
  rw [h.stageOutputs]

/-- How the deletion of the stage outputs comes to its loop: it raises before, has nothing to look
at, or runs it. -/
lemma runOn_deleteRuntimeStageOutputArtifacts (subject : Subject) (s : Session) :
    (∃ step raised, early step = true ∧ call.faultAt step = some raised ∧
      runOn (call.deleteRuntimeStageOutputArtifacts subject) s = (.error raised, s)) ∨
    ((subject.tokens = [] ∨ stageOutputRows subject s.working = []) ∧
      runOn (call.deleteRuntimeStageOutputArtifacts subject) s = (.ok [], s)) ∨
    runOn (call.deleteRuntimeStageOutputArtifacts subject) s =
      runOn (call.deleteArtifactsFrom subject.tokens 0 (stageOutputRows subject s.working)) s := by
  unfold deleteRuntimeStageOutputArtifacts
  by_cases htokens : subject.tokens = []
  · rw [if_pos htokens]
    exact .inr (.inl ⟨.inl htokens, rfl⟩)
  rw [if_neg htokens, runOn_bind, runOn_query]
  cases htable : call.faultAt .stageOutputsTable with
  | some raised => exact .inl ⟨_, raised, rfl, htable, rfl⟩
  | none =>
    dsimp only
    cases houtputs : s.working.stageOutputs with
    | none => exact .inr (.inl ⟨.inr (by simp [ErasureCall.stageOutputRows, houtputs]), rfl⟩)
    | some outputs =>
      rw [if_pos Option.isSome_some]
      split
      · rename_i hids
        refine .inr (.inl ⟨.inr ?_, rfl⟩)
        have hnone : (subject.identityRows.map IdentityRow.runtimeRunId ++
            subject.evidenceRows.map EvidenceRow.runtimeRunId).filter (· ≠ "") = [] := by
          rw [List.filter_eq_nil_iff]
          intro id hid
          simpa using List.all_eq_true.mp hids id hid
        unfold ErasureCall.stageOutputRows
        rw [hnone]
        simp
      · rw [runOn_bind, runOn_query]
        cases hselect : call.faultAt .selectStageOutputs with
        | some raised => exact .inl ⟨_, raised, rfl, hselect, rfl⟩
        | none => exact .inr (.inr rfl)

/-- The rest of a call once the person's rows are known and the identities are written. -/
def afterIdentities (subject : Subject) : ErasureM (Option (Subject × List (String × String))) := do
  let quarantined ← call.deleteRuntimeStageOutputArtifacts subject
  return some (subject, quarantined)

/-- How the rest of a call comes to the loop. -/
lemma runOn_afterIdentities (subject : Subject) (s : Session) :
    (∃ step raised, early step = true ∧ call.faultAt step = some raised ∧
      runOn (call.afterIdentities subject) s = (.error raised, s)) ∨
    ((subject.tokens = [] ∨ stageOutputRows subject s.working = []) ∧
      runOn (call.afterIdentities subject) s = (.ok (some (subject, [])), s)) ∨
    runOn (call.afterIdentities subject) s =
      match runOn (call.deleteArtifactsFrom subject.tokens 0 (stageOutputRows subject s.working))
        s with
      | (.ok moves, s') => (.ok (some (subject, moves)), s')
      | (.error raised, s') => (.error raised, s') := by
  unfold afterIdentities
  rw [runOn_bind]
  rcases call.runOn_deleteRuntimeStageOutputArtifacts subject s with
    ⟨step, raised, hearly, hfault, hrun⟩ | ⟨hnone, hrun⟩ | hrun
  · rw [hrun]
    exact .inl ⟨step, raised, hearly, hfault, rfl⟩
  · rw [hrun]
    exact .inr (.inl ⟨hnone, rfl⟩)
  · rw [hrun]
    refine .inr (.inr ?_)
    rcases runOn (call.deleteArtifactsFrom subject.tokens 0 (stageOutputRows subject s.working))
      s with ⟨_ | moves, s'⟩ <;> rfl

/-- Neither table, no rows of the person. -/
lemma stageOutputRows_of_no_tables {db : Database}
    (h : db.identities.isSome = false ∧ db.evidence.isSome = false) :
    stageOutputRows (call.subjectIn db) db = [] := by
  have hidentities : db.identities = none := by simpa using h.1
  have hevidence : db.evidence = none := by simpa using h.2
  have hnoEvidence : evidenceRows db call.resumeId = [] := by simp [evidenceRows, hevidence]
  have hnoIdentities : identityRows call.toErasureRuntime db call.resumeId = [] := by
    simp [identityRows, resumeIdentityRows, missingEvidenceIdentityKeys, hidentities]
  simp [ErasureCall.stageOutputRows, subjectIn, hnoEvidence, hnoIdentities]

/-- How a run comes to the loop over the stage outputs: it raises before, there is nothing to look
at, or it goes through the loop from a session that has the same stage outputs and files. -/
def ComesToLoop (s : Session) (subject : Subject)
    (run : Except Raised (Option (Subject × List (String × String))) × Session) : Prop :=
  (∃ step raised s', early step = true ∧ call.faultAt step = some raised ∧ s'.files = s.files ∧
    run = (.error raised, s')) ∨
  (∃ s', SameOutputs s s' ∧ (subject.tokens = [] ∨ stageOutputRows subject s.working = []) ∧
    (run = (.ok none, s') ∨ run = (.ok (some (subject, [])), s'))) ∨
  ∃ s', SameOutputs s s' ∧
    run = match runOn
      (call.deleteArtifactsFrom subject.tokens 0 (stageOutputRows subject s.working)) s' with
      | (.ok moves, s'') => (.ok (some (subject, moves)), s'')
      | (.error raised, s'') => (.error raised, s'')

/-- What is done first leaves the stage outputs alone. -/
lemma comesToLoop_of_quiet {subject : Subject} {m : ErasureM Unit} (hm : Quiet call m)
    (s : Session) :
    ComesToLoop call s subject (runOn (m >>= fun _ => call.afterIdentities subject) s) := by
  have hsame := hm.same s
  have hraises := hm.raises s
  rw [runOn_bind]
  rcases hrun : runOn m s with ⟨raised | _, s'⟩ <;> rw [hrun] at hsame hraises
  · obtain ⟨step, hearly, hfault⟩ := hraises raised rfl
    exact .inl ⟨step, raised, s', hearly, hfault, hsame.files, rfl⟩
  have hrows : stageOutputRows subject s'.working = stageOutputRows subject s.working :=
    hsame.stageOutputRows subject
  rcases call.runOn_afterIdentities subject s' with
    ⟨step, raised, hearly, hfault, hrest⟩ | ⟨hnone, hrest⟩ | hrest
  · exact .inl ⟨step, raised, s', hearly, hfault, hsame.files, hrest⟩
  · exact .inr (.inl ⟨s', hsame, hrows ▸ hnone, .inr hrest⟩)
  · rw [hrows] at hrest
    exact .inr (.inr ⟨s', hsame, hrest⟩)

/-- How a call comes to the loop over the stage outputs. -/
theorem comesToLoop_eraseUntilArtifacts (s : Session) :
    ComesToLoop call s (call.subjectIn s.working) (runOn call.eraseUntilArtifacts s) := by
  unfold eraseUntilArtifacts
  rw [runOn_bind]
  rcases reads_selectSubject call s with hok | ⟨step, raised, hearly, hfault, herror⟩
  swap
  · rw [herror]
    exact .inl ⟨step, raised, s, hearly, hfault, rfl, rfl⟩
  rw [hok]
  by_cases htables : s.working.identities.isSome = false ∧ s.working.evidence.isSome = false
  · rw [if_pos htables]
    exact .inr
      (.inl ⟨s, SameOutputs.refl s, .inr (call.stageOutputRows_of_no_tables htables), .inl rfl⟩)
  rw [if_neg htables]
  dsimp only
  rw [runOn_bind, runOn_get]
  dsimp only
  split
  · exact comesToLoop_of_quiet call (quiet_eraseIdentities _) s
  · exact comesToLoop_of_quiet call (Quiet.pure ()) s

end ErasureCall

end SeekTalent.PrivacyErasure
