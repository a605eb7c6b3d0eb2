import SeekTalent.Foundation.JsonWriter
import SeekTalent.PrivacyErasure.ArtifactMoves

/-!
# What an erasure that fails leaves behind

The rows are rolled back whatever happens, but the files that were renamed are renamed back only if
the loop over the stage outputs has returned, since the handler does not know of them before, and
only for an `OSError` or an error of SQLite.  `leavesInPlace_iff` says at which steps a fault leaves
a file under its other name.
-/

namespace SeekTalent.PrivacyErasure

open Foundation Foundation.Renames

namespace ErasureCall

variable (call : ErasureCall)
variable {db : Database}
variable {moved : String × String} {names : List String} {fault : Fault}

/-- A path is recorded as a pending deletion. -/
def PendingDeletion (db : Database) (path : String) : Prop :=
  ∃ row ∈ db.artifactDeletions.getD [], row.quarantinePath = path ∧ row.status = "pending"

/-- After a call that raised before its commit the rows and the files are as before, and after any
other one the files that have come to be are recorded as pending deletions. -/
structure LeavesInPlace (db : Database) (files : Files) (outcome : Outcome) : Prop where
  restored : ∀ raised, outcome.ending = .raised raised → outcome.committed = db ∧
    outcome.files = files
  recorded : (∀ raised, outcome.ending ≠ .raised raised) → ∀ path, files path = none →
    (outcome.files path).isSome → PendingDeletion outcome.committed path

/-! ## The steps at which a file is left behind -/

/-- The stage outputs that the loop goes through. -/
def loopRows (db : Database) : List StageOutputRow := stageOutputRows (call.subjectIn db) db

/-- The artifact of a row of the loop whose file holds a text of the person. -/
def held (db : Database) (files : Files) (row : StageOutputRow) : Option String :=
  call.heldArtifact (call.subjectIn db).tokens files row

/-- A row before the given one has a file that holds a text of the person. -/
def HeldBefore (db : Database) (files : Files) (k : Nat) : Prop :=
  ∃ row ∈ (call.loopRows db).take k, (call.held db files row).isSome

/-- The file of a row holds a text of the person, and no row before it has the same file. -/
def FirstHeld (db : Database) (files : Files) (k : Nat) : Prop :=
  ∃ row artifactRefId, (call.loopRows db)[k]? = some row ∧
    call.held db files row = some artifactRefId ∧
    ∀ earlier ∈ (call.loopRows db).take k, call.held db files earlier ≠ some artifactRefId

/-- A fault comes when a file is renamed and the handler does not know it, or does not handle what
is raised. -/
def StrandsFile (db : Database) (files : Files) (fault : Fault) : Prop :=
  match fault.step with
  | .readArtifact k => fault.raises ≠ .fileNotFound ∧ call.HeldBefore db files k ∧
      ∃ row ∈ (call.loopRows db)[k]?, (call.artifactOf row).isSome
  | .renameArtifact k => call.HeldBefore db files k ∧ call.FirstHeld db files k
  | .deleteStageOutput k | .artifactRefsTable k => call.FirstHeld db files k
  | .deleteArtifactRef k => call.FirstHeld db files k ∧ db.artifactRefs.isSome
  | .updateEvidence => fault.raises.caught = false ∧ db.evidence.isSome ∧
      ∃ row ∈ call.loopRows db, (call.held db files row).isSome
  | .commit => fault.raises.caught = false ∧ ∃ row ∈ call.loopRows db,
    (call.held db files row).isSome
  | _ => False

/-- The names of renamed files are new, and so are their ids in the table of deletions. -/
structure NewNames (db : Database) (files : Files) : Prop where
  names : call.QuarantineNames (db.stageOutputs.getD []).length
    ((db.stageOutputs.getD []).filterMap StageOutputRow.artifactRefId)
  free : call.FreeFrom (db.stageOutputs.getD []).length
    ((db.stageOutputs.getD []).filterMap StageOutputRow.artifactRefId) 0 files
  ids : ∀ k < (db.stageOutputs.getD []).length, ∀ j < (db.stageOutputs.getD []).length,
    ∀ artifactRefId ∈ (db.stageOutputs.getD []).filterMap StageOutputRow.artifactRefId,
    ∀ other ∈ (db.stageOutputs.getD []).filterMap StageOutputRow.artifactRefId,
    call.deletionId (call.moveOf k artifactRefId).1 = call.deletionId (call.moveOf j other).1 →
      (call.moveOf k artifactRefId).1 = (call.moveOf j other).1
  recorded : ∀ row ∈ db.artifactDeletions.getD [], ∀ k < (db.stageOutputs.getD []).length,
    ∀ artifactRefId ∈ (db.stageOutputs.getD []).filterMap StageOutputRow.artifactRefId,
    row.deletionId = call.deletionId (call.moveOf k artifactRefId).1 →
      row.quarantinePath = (call.moveOf k artifactRefId).1

/-! ## The removal of the renamed files -/

/-- Names that stand for one row each in the table of deletions. -/
def Recordable (names : List String) (db : Database) : Prop :=
  (∀ name ∈ names, ∀ other ∈ names, call.deletionId name = call.deletionId other → name = other) ∧
    ∀ row ∈ db.artifactDeletions.getD [], ∀ name ∈ names,
      row.deletionId = call.deletionId name → row.quarantinePath = name

variable {call}

/-- The rows of the table of deletions once a deletion is recorded. -/
lemma mem_record {artifactRefId : String} {error : UnlinkError} {row : ArtifactDeletionRow}
    (h : row ∈ (call.recordPendingArtifactDeletion moved artifactRefId error
      db).artifactDeletions.getD []) :
    (∃ old ∈ db.artifactDeletions.getD [], row.deletionId = old.deletionId ∧
      row.quarantinePath = old.quarantinePath) ∨
      row.deletionId = call.deletionId moved.1 ∧ row.quarantinePath = moved.1 := by
  unfold recordPendingArtifactDeletion at h
  dsimp only [Option.getD_some] at h
  split at h
  · obtain ⟨old, hold, rfl⟩ := List.mem_map.mp h
    refine .inl ⟨old, hold, ?_⟩
    split <;> exact ⟨rfl, rfl⟩
  · rcases List.mem_append.mp h with hold | hnew
    · exact .inl ⟨row, hold, rfl, rfl⟩
    · obtain rfl := List.mem_singleton.mp hnew
      exact .inr ⟨rfl, rfl⟩

/-- What is recorded stays recorded. -/
lemma PendingDeletion.record {path : String} (h : PendingDeletion db path) (moved : String × String)
    (artifactRefId : String) (error : UnlinkError) :
    PendingDeletion (call.recordPendingArtifactDeletion moved artifactRefId error db) path := by
  obtain ⟨row, hrow, hpath, hpending⟩ := h
  unfold PendingDeletion recordPendingArtifactDeletion
  dsimp only [Option.getD_some]
  split
  · refine ⟨_, List.mem_map.mpr ⟨row, hrow, rfl⟩, ?_⟩
    split
    · exact ⟨hpath, rfl⟩
    · exact ⟨hpath, hpending⟩
  · exact ⟨row, List.mem_append_left _ hrow, hpath, hpending⟩

/-- A file that could not be removed is recorded. -/
lemma pendingDeletion_record (hdb : call.Recordable names db)
    (hmoved : moved.1 ∈ names) (artifactRefId : String) (error : UnlinkError) :
    PendingDeletion (call.recordPendingArtifactDeletion moved artifactRefId error db) moved.1 := by
  unfold PendingDeletion recordPendingArtifactDeletion
  dsimp only [Option.getD_some]
  split
  · rename_i hthere
    obtain ⟨row, hrow⟩ := Option.isSome_iff_exists.mp hthere
    obtain ⟨hmem, hid⟩ := mem_of_rowAt hrow
    refine ⟨_, List.mem_map.mpr ⟨row, hmem, rfl⟩, ?_⟩
    rw [if_pos hid]
    exact ⟨hdb.2 row hmem moved.1 hmoved hid, rfl⟩
  · exact ⟨_, List.mem_append_right _ (List.mem_singleton.mpr rfl), rfl, rfl⟩

lemma Recordable.record (hdb : call.Recordable names db)
    (hmoved : moved.1 ∈ names) (artifactRefId : String) (error : UnlinkError) :
    call.Recordable names (call.recordPendingArtifactDeletion moved artifactRefId error db) := by
  refine ⟨hdb.1, fun row hrow name hname hid => ?_⟩
  rcases mem_record hrow with ⟨old, hold, hidOld, hpath⟩ | ⟨hidNew, hpath⟩
  · rw [hpath]
    exact hdb.2 old hold name hname (hidOld ▸ hid)
  · rw [hpath]
    exact hdb.1 moved.1 hmoved name hname (hidNew ▸ hid)

/-- Removing the renamed files leaves only files that are recorded. -/
lemma deleteQuarantinedArtifactPaths_spec {moves : List (String × String)}
    (hmoves : ∀ moved ∈ moves, moved.1 ∈ names) (hdb : call.Recordable names db) (files : Files) :
    (∀ path, PendingDeletion db path →
      PendingDeletion (call.deleteQuarantinedArtifactPaths moves db files).1 path) ∧
      ∀ path, ((call.deleteQuarantinedArtifactPaths moves db files).2.1 path).isSome →
        (files path).isSome ∧ ((∃ moved ∈ moves, moved.1 = path) →
          PendingDeletion (call.deleteQuarantinedArtifactPaths moves db files).1 path) := by
  induction moves generalizing db files with
  | nil => exact ⟨fun path h => h, fun path h =>
    ⟨h, fun ⟨moved, hmoved, _⟩ => (List.not_mem_nil hmoved).elim⟩⟩
  | cons moved rest ih =>
    have hmoved := hmoves moved List.mem_cons_self
    have hrest : ∀ later ∈ rest, later.1 ∈ names := fun later hlater =>
      hmoves later (List.mem_cons_of_mem moved hlater)
    unfold deleteQuarantinedArtifactPaths
    cases hunlink : call.unlinkError moved.1 with
    | none =>
      obtain ⟨hkept, htaken⟩ := ih hrest hdb (Function.update files moved.1 none)
      refine ⟨hkept, fun path hpath => ?_⟩
      obtain ⟨hthere, hpending⟩ := htaken path hpath
      rcases eq_or_ne path moved.1 with rfl | hne
      · simp at hthere
      rw [Function.update_of_ne hne] at hthere
      refine ⟨hthere, ?_⟩
      rintro ⟨later, hlater, rfl⟩
      rcases List.mem_cons.mp hlater with rfl | hlater
      · exact absurd rfl hne
      · exact hpending ⟨later, hlater, rfl⟩
    | some error =>
      obtain ⟨hkept, htaken⟩ := ih hrest (hdb.record hmoved (call.artifactStem moved.2) error) files
      refine ⟨fun path h => hkept path (h.record _ _ _), fun path hpath => ?_⟩
      obtain ⟨hthere, hpending⟩ := htaken path hpath
      refine ⟨hthere, ?_⟩
      rintro ⟨later, hlater, rfl⟩
      rcases List.mem_cons.mp hlater with rfl | hlater
      · exact hkept _ (pendingDeletion_record hdb hmoved _ _)
      · exact hpending ⟨later, hlater, rfl⟩

/-! ## The loop -/

/-- What the given step raises. -/
lemma faultAt_of_fault (hfault : call.fault = some fault) (step : ErasureStep) :
    call.faultAt step = if fault.step = step then some fault.raises else none := by
  unfold faultAt
  rw [hfault]
  by_cases hstep : fault.step = step <;> simp [Option.filter, hstep]

/-- Rounds other than the one of the fault do not raise. -/
lemma clearRound_of_fault (hfault : call.fault = some fault) {k : Nat}
    (hk : roundOf fault.step ≠ some k) : call.ClearRound k := by
  intro step hstep
  rw [faultAt_of_fault hfault, if_neg]
  rintro rfl
  exact hk hstep

/-- Where a round raises, and what it has renamed then. -/
lemma roundEnds_of_fault (hfault : call.fault = some fault) {k : Nat}
    (hround : roundOf fault.step = some k) (tokens : List String) (row : StageOutputRow)
    (files : Files) (hasRefs : Bool) :
    ((∃ raised, (call.roundEnds tokens k row files hasRefs).1 = .error raised) ↔
      match fault.step with
      | .readArtifact _ => fault.raises ≠ .fileNotFound ∧ (call.artifactOf row).isSome
      | .deleteArtifactRef _ => (call.heldArtifact tokens files row).isSome ∧ hasRefs = true
      | _ => (call.heldArtifact tokens files row).isSome) ∧
    ((∃ raised, (call.roundEnds tokens k row files hasRefs).1 = .error raised) →
      (call.roundEnds tokens k row files hasRefs).2 =
        match fault.step with
        | .readArtifact _ | .renameArtifact _ => none
        | _ => (call.heldArtifact tokens files row).map (call.moveOf k)) := by
  obtain ⟨step, raises⟩ := fault
  cases hartifact : call.artifactOf row with
  | none => cases step <;> simp [roundEnds, heldArtifact, hartifact, roundOf] at hround ⊢
  | some artifactRefId =>
    cases hholds : holdsToken tokens
      ((files (call.stageOutputArtifactPath artifactRefId)).getD "") <;>
      cases step <;> simp [roundEnds, heldArtifact, hartifact, hholds, faultAt_of_fault hfault,
        roundOf, Option.filter]
        at hround ⊢
    -- What is left is the step that the fault is at.
    all_goals
      subst hround
      rw [if_pos rfl]
      cases raises <;> cases hasRefs <;> simp

section Loop

variable {db : Database} {files : Files}
variable {k : Nat}

variable (call db) in
/-- No text of the person is empty. -/
lemma empty_notMem_tokens : "" ∉ (call.subjectIn db).tokens := by
  unfold subjectIn runtimeSubjectTokens
  rw [(call.setOrder_perm _).mem_iff]
  simp

lemma loopRows_length : (call.loopRows db).length ≤ (db.stageOutputs.getD []).length :=
  List.length_filter_le _ _

/-- The artifacts of the rows of the loop are those of stage outputs. -/
lemma artifactsIn_loopRows :
    ArtifactsIn call ((db.stageOutputs.getD []).filterMap StageOutputRow.artifactRefId)
      (call.loopRows db) := by
  intro row hrow artifactRefId hartifact
  refine List.mem_filterMap.mpr ⟨row, List.mem_of_mem_filter hrow, ?_⟩
  unfold artifactOf at hartifact
  split at hartifact
  · rename_i stored hstored
    rw [hstored]
    split at hartifact
    · exact hartifact
    · cases hartifact
  · cases hartifact

lemma heldBefore_iff (k : Nat) : call.HeldBefore db files k ↔
    call.movesFrom (call.subjectIn db).tokens 0 ((call.loopRows db).take k) files ≠ [] := by
  rw [Ne, movesFrom_eq_nil]
  simp [HeldBefore, held, Option.isSome_iff_ne_none]

/-- The first row with an artifact that is held is the one that still holds it when the loop comes
to it. -/
lemma firstHeld_iff (hnew : call.NewNames db files) {row : StageOutputRow}
    (hrow : (call.loopRows db)[k]? = some row) :
    call.FirstHeld db files k ↔ (call.heldArtifact (call.subjectIn db).tokens (renameAll
      (call.movesFrom (call.subjectIn db).tokens 0 ((call.loopRows db).take k) files) files)
      row).isSome := by
  have hk : k < (call.loopRows db).length := (List.getElem?_eq_some_iff.mp hrow).1
  have htake : 0 + ((call.loopRows db).take k).length ≤ (db.stageOutputs.getD []).length := by
    rw [List.length_take_of_le hk.le, Nat.zero_add]
    exact hk.le.trans call.loopRows_length
  have hmem : row ∈ call.loopRows db := List.mem_of_getElem? hrow
  have hafter := heldArtifact_after (call.empty_notMem_tokens db) hnew.names htake
    (fun other hother => call.artifactsIn_loopRows other (List.mem_of_mem_take hother)) files
    (call.artifactsIn_loopRows row hmem)
  rw [Option.isSome_iff_exists]
  constructor
  · rintro ⟨_, artifactRefId, hfound, hheld, hfirst⟩
    obtain rfl := Option.some_inj.mp (hrow.symm.trans hfound)
    exact ⟨artifactRefId, (hafter artifactRefId).mpr ⟨hheld, hfirst⟩⟩
  · rintro ⟨artifactRefId, hheld⟩
    obtain ⟨hbefore, hfirst⟩ := (hafter artifactRefId).mp hheld
    exact ⟨row, artifactRefId, hrow, hbefore, hfirst⟩

/-- Whether a fault in a round strands a file, from how the round ends. -/
lemma strandsFile_iff_roundEnds (hnew : call.NewNames db files) {fault : Fault}
    (hfault : call.fault = some fault)
    (hround : roundOf fault.step = some k) {row : StageOutputRow}
    (hrow : (call.loopRows db)[k]? = some row)
    {ends : Except Raised Unit × Option (String × String)}
    (hends : call.roundEnds (call.subjectIn db).tokens k row (renameAll
      (call.movesFrom (call.subjectIn db).tokens 0 ((call.loopRows db).take k) files) files)
      db.artifactRefs.isSome = ends) :
    call.StrandsFile db files fault ↔ (∃ raised, ends.1 = .error raised) ∧
      call.movesFrom (call.subjectIn db).tokens 0 ((call.loopRows db).take k) files ++
        ends.2.toList ≠ [] := by
  subst hends
  obtain ⟨herror, hmoved⟩ :=
    roundEnds_of_fault hfault hround (call.subjectIn db).tokens row (renameAll
      (call.movesFrom (call.subjectIn db).tokens 0 ((call.loopRows db).take k) files) files)
      db.artifactRefs.isSome
  have hsplit : ∀ second : Option (String × String),
      call.movesFrom (call.subjectIn db).tokens 0 ((call.loopRows db).take k) files ++
      second.toList ≠ [] ↔
        call.HeldBefore db files k ∨ second.isSome := by
    intro second
    rw [heldBefore_iff, Ne, List.append_eq_nil_iff, not_and_or]
    cases second <;> simp
  have hfirst := firstHeld_iff hnew hrow
  obtain ⟨step, raises⟩ := fault
  cases step with
  | readArtifact index =>
    obtain rfl := Option.some_inj.mp hround
    constructor
    · rintro ⟨hraises, hbefore, found, hfound, hartifact⟩
      obtain rfl := Option.some_inj.mp (hrow.symm.trans hfound)
      exact ⟨herror.mpr ⟨hraises, hartifact⟩, (hsplit _).mpr (.inl hbefore)⟩
    · rintro ⟨hraised, hmoves⟩
      obtain ⟨hraises, hartifact⟩ := herror.mp hraised
      rw [hmoved hraised, hsplit] at hmoves
      exact ⟨hraises, hmoves.resolve_right Bool.false_ne_true, row, hrow, hartifact⟩
  | renameArtifact index =>
    obtain rfl := Option.some_inj.mp hround
    constructor
    · rintro ⟨hbefore, hheld⟩
      exact ⟨herror.mpr (hfirst.mp hheld), (hsplit _).mpr (.inl hbefore)⟩
    · rintro ⟨hraised, hmoves⟩
      rw [hmoved hraised, hsplit] at hmoves
      exact ⟨hmoves.resolve_right Bool.false_ne_true, hfirst.mpr (herror.mp hraised)⟩
  | deleteArtifactRef index =>
    obtain rfl := Option.some_inj.mp hround
    constructor
    · rintro ⟨hheld, hrefs⟩
      have hraised := herror.mpr ⟨hfirst.mp hheld, hrefs⟩
      refine ⟨hraised, (hsplit _).mpr (.inr ?_)⟩
      rw [hmoved hraised]
      simpa using hfirst.mp hheld
    · rintro ⟨hraised, -⟩
      exact ⟨hfirst.mpr (herror.mp hraised).1, (herror.mp hraised).2⟩
  | deleteStageOutput index | artifactRefsTable index =>
    obtain rfl := Option.some_inj.mp hround
    constructor
    · intro hheld
      have hraised := herror.mpr (hfirst.mp hheld)
      refine ⟨hraised, (hsplit _).mpr (.inr ?_)⟩
      rw [hmoved hraised]
      simpa using hfirst.mp hheld
    · rintro ⟨hraised, -⟩
      exact hfirst.mpr (herror.mp hraised)
  | _ => cases hround

/-- A fault in a round that strands a file is in the round of a row. -/
lemma exists_row_of_strandsFile {fault : Fault} (hround : roundOf fault.step = some k)
    (h : call.StrandsFile db files fault) : ∃ row, (call.loopRows db)[k]? = some row := by
  have hfirst : call.FirstHeld db files k →
    ∃ row, (call.loopRows db)[k]? = some row := fun ⟨row, _, hrow, _⟩ =>
    ⟨row, hrow⟩
  obtain ⟨step, raises⟩ := fault
  cases step with
  | readArtifact index =>
    obtain rfl := Option.some_inj.mp hround
    exact ⟨h.2.2.choose, h.2.2.choose_spec.1⟩
  | renameArtifact index =>
    obtain rfl := Option.some_inj.mp hround
    exact hfirst h.2
  | deleteArtifactRef index =>
    obtain rfl := Option.some_inj.mp hround
    exact hfirst h.1
  | deleteStageOutput index | artifactRefsTable index =>
    obtain rfl := Option.some_inj.mp hround
    exact hfirst h
  | _ => cases hround

variable (db) in
/-- The loop returns the renames of its rows unless there is a fault in one of its rounds. -/
lemma loop_returns (s : Session)
    (hclear : ∀ fault ∈ call.fault, ∀ k, roundOf fault.step = some k →
      ¬ k < (call.loopRows db).length) :
    ∃ s', runOn (call.deleteArtifactsFrom (call.subjectIn db).tokens 0 (call.loopRows db)) s =
        (.ok (call.movesFrom (call.subjectIn db).tokens 0 (call.loopRows db) s.files), s') ∧
      s'.files = renameAll (call.movesFrom (call.subjectIn db).tokens 0 (call.loopRows db) s.files)
        s.files := by
  obtain ⟨s', hok, hfiles, -⟩ :=
    call.runOn_deleteArtifactsFrom_of_clear (call.empty_notMem_tokens db) 0
    (call.loopRows db) s fun k _ hk step hstep => by
      cases hfault : call.fault with
      | none => simp [faultAt, hfault]
      | some fault =>
        refine clearRound_of_fault hfault (fun heq => hclear fault hfault k heq ?_) step hstep
        omega
  exact ⟨s', hok, hfiles⟩

/-- The loop raises with a file renamed if and only if the fault is one in a round that strands a
file. -/
lemma loop_strands_iff (hnew : call.NewNames db files) {s : Session} (hfiles : s.files = files)
    (hrefs : s.working.artifactRefs = db.artifactRefs) :
    (∃ raised s', runOn (call.deleteArtifactsFrom (call.subjectIn db).tokens 0 (call.loopRows db))
      s =
        (.error raised, s') ∧ s'.files ≠ files) ↔
      ∃ fault ∈ call.fault, (roundOf fault.step).isSome ∧ call.StrandsFile db files fault := by
  subst hfiles
  have htokens := call.empty_notMem_tokens db
  have hlength : (call.loopRows db).length ≤ (db.stageOutputs.getD []).length :=
    call.loopRows_length
  have hat {fault : Fault} (hfault : call.fault = some fault) {k : Nat}
    (hround : roundOf fault.step = some k)
      {row : StageOutputRow} (hrow : (call.loopRows db)[k]? = some row) :=
    runOn_deleteArtifactsFrom_at htokens hnew.names hlength call.artifactsIn_loopRows hnew.free hrow
      fun other hother => clearRound_of_fault hfault fun heq =>
      hother (Option.some_inj.mp (heq.symm.trans hround))
  constructor
  · rintro ⟨raised, s', hrun, hne⟩
    have hfault : ∃ fault k, call.fault = some fault ∧ roundOf fault.step = some k ∧
        k < (call.loopRows db).length := by
      by_contra hnone
      obtain ⟨s'', hok, -⟩ := loop_returns db s fun fault hfault k hk hlt =>
        hnone ⟨fault, k, hfault, hk, hlt⟩
      rw [hok] at hrun
      cases hrun
    obtain ⟨fault, k, hfault, hround, hk⟩ := hfault
    have hrow : (call.loopRows db)[k]? = some (call.loopRows db)[k] := List.getElem?_eq_getElem hk
    obtain ⟨s₁, hfiles₁, -, hends⟩ := hat hfault hround hrow
    obtain ⟨herror, hok⟩ := hends _ rfl
    rw [hfiles₁, hrefs] at herror hok
    refine ⟨fault, hfault, by rw [hround]; rfl,
      (strandsFile_iff_roundEnds hnew hfault hround hrow rfl).mpr ?_⟩
    cases hround' : (call.roundEnds (call.subjectIn db).tokens k (call.loopRows db)[k] (renameAll
        (call.movesFrom (call.subjectIn db).tokens 0 ((call.loopRows db).take k) s.files) s.files)
        db.artifactRefs.isSome).1 with
    | ok _ =>
      obtain ⟨result, s'', hreturns⟩ := hok hround'
      rw [hreturns] at hrun
      cases hrun
    | error raised' =>
      refine ⟨⟨raised', rfl⟩, fun hnone => hne ?_⟩
      obtain ⟨s'', hraises, hmoves⟩ := herror raised' hround'
      rw [hraises] at hrun
      cases hrun
      rw [hmoves.files, hnone]
      rfl
  · rintro ⟨fault, hfault, hround, hstrands⟩
    obtain ⟨k, hround⟩ := Option.isSome_iff_exists.mp hround
    obtain ⟨row, hrow⟩ := exists_row_of_strandsFile hround hstrands
    have hk : k < (call.loopRows db).length := (List.getElem?_eq_some_iff.mp hrow).1
    obtain ⟨s₁, hfiles₁, -, hends⟩ := hat hfault hround hrow
    obtain ⟨herror, -⟩ := hends _ rfl
    rw [hfiles₁, hrefs] at herror
    obtain ⟨⟨raised, hraised⟩, hmoved⟩ :=
      (strandsFile_iff_roundEnds hnew hfault hround hrow rfl).mp hstrands
    obtain ⟨s', hrun, hmoves⟩ := herror raised hraised
    exact ⟨raised, s', hrun, hmoves.files_ne hnew.names (hk.trans_le hlength) hmoved⟩

end Loop

/-! ## The call -/

section Call

variable {db : Database} {files : Files}
variable {fault : Fault}

lemma restoreQuarantinedArtifactPaths_eq (paths : List (String × String)) (files : Files) :
    restoreQuarantinedArtifactPaths paths files = undoAll paths files := rfl

/-- A call that raised leaves everything in place if and only if the files are as before. -/
lemma leavesInPlace_raised {after : Files} {raised : Raised} :
    LeavesInPlace db files ⟨db, after, .raised raised⟩ ↔ after = files :=
  ⟨fun h => (h.restored raised rfl).2, fun h =>
    ⟨fun _ _ => ⟨rfl, h⟩, fun hending => absurd rfl (hending raised)⟩⟩

/-- A fault at one of the steps before the loop strands no file. -/
lemma not_strandsFile_of_early (h : early fault.step = true) :
    ¬ call.StrandsFile db files fault := by
  obtain ⟨step, raises⟩ := fault
  cases step <;> first | exact id | cases h

/-- What strands a file needs a row whose file holds a text of the person. -/
lemma exists_held_of_strandsFile (h : call.StrandsFile db files fault) :
    ∃ row ∈ call.loopRows db, (call.held db files row).isSome := by
  have hbefore {k : Nat} : call.HeldBefore db files k → ∃ row ∈ call.loopRows db,
      (call.held db files row).isSome :=
    fun ⟨row, hrow, hheld⟩ => ⟨row, List.mem_of_mem_take hrow, hheld⟩
  have hfirst {k : Nat} : call.FirstHeld db files k → ∃ row ∈ call.loopRows db,
      (call.held db files row).isSome :=
    fun ⟨row, _, hrow, hheld, _⟩ => ⟨row, List.mem_of_getElem? hrow, Option.isSome_of_eq_some hheld⟩
  obtain ⟨step, raises⟩ := fault
  cases step with
  | readArtifact index => exact hbefore h.2.1
  | renameArtifact index => exact hbefore h.1
  | deleteStageOutput index | artifactRefsTable index => exact hfirst h
  | deleteArtifactRef index => exact hfirst h.1
  | updateEvidence => exact h.2.2
  | commit => exact h.2
  | _ => exact h.elim

/-- A fault after the loop, at a step that the run comes to. -/
def Late (db : Database) (fault : Fault) : Prop :=
  fault.step = .updateEvidence ∧ db.evidence.isSome ∨ fault.step = .commit

/-- The last statement and the commit raise if and only if there is a fault at them. -/
lemma runOn_eraseEvidenceAndCommit (s : Session) :
    (∃ fault ∈ call.fault, Late s.working fault ∧
      ∃ s', runOn call.eraseEvidenceAndCommit s = (.error fault.raises, s') ∧ s'.files = s.files) ∨
    (∀ fault ∈ call.fault, ¬ Late s.working fault) ∧
      ∃ s', runOn call.eraseEvidenceAndCommit s = (.ok (), s') ∧
      s'.files = s.files ∧ s'.working.artifactDeletions = s.working.artifactDeletions := by
  have hfaultAt {step : ErasureStep} {raised : Raised} (h : call.faultAt step = some raised) :
      ∃ fault ∈ call.fault, fault.step = step ∧ fault.raises = raised := by
    obtain ⟨fault, hfault, hraised⟩ := Option.map_eq_some_iff.mp h
    obtain ⟨hmem, hstep⟩ := Option.filter_eq_some_iff.mp hfault
    exact ⟨fault, hmem, by simpa using hstep, hraised⟩
  have hnoFault {step : ErasureStep} (h : call.faultAt step = none) : ∀ fault ∈ call.fault,
      fault.step ≠ step := by
    intro fault hfault hstep
    rw [faultAt_of_fault hfault, if_pos hstep] at h
    cases h
  unfold eraseEvidenceAndCommit
  rw [runOn_bind, runOn_get]
  dsimp only
  cases hevidence : s.working.evidence.isSome with
  | false =>
    rw [if_neg Bool.false_ne_true, runOn_reach]
    cases hcommit : call.faultAt .commit with
    | some raised =>
      obtain ⟨fault, hfault, hstep, rfl⟩ := hfaultAt hcommit
      exact .inl ⟨fault, hfault, .inr hstep, s, rfl, rfl⟩
    | none =>
      refine .inr ⟨fun fault hfault hlate => ?_, s, rfl, rfl, rfl⟩
      rcases hlate with ⟨-, hsome⟩ | hstep
      · rw [hevidence] at hsome
        cases hsome
      · exact hnoFault hcommit fault hfault hstep
  | true =>
    rw [if_pos rfl, runOn_bind, runOn_execute]
    cases hupdate : call.faultAt .updateEvidence with
    | some raised =>
      obtain ⟨fault, hfault, hstep, rfl⟩ := hfaultAt hupdate
      exact .inl ⟨fault, hfault, .inl ⟨hstep, hevidence⟩, s, rfl, rfl⟩
    | none =>
      dsimp only
      rw [runOn_reach]
      cases hcommit : call.faultAt .commit with
      | some raised =>
        obtain ⟨fault, hfault, hstep, rfl⟩ := hfaultAt hcommit
        exact .inl ⟨fault, hfault, .inr hstep, _, rfl, rfl⟩
      | none =>
        refine .inr ⟨fun fault hfault hlate => ?_, _, rfl, rfl, rfl⟩
        rcases hlate with ⟨hstep, -⟩ | hstep
        · exact hnoFault hupdate fault hfault hstep
        · exact hnoFault hcommit fault hfault hstep

/-- Whether a fault after the loop strands a file. -/
lemma strandsFile_of_late (h : Late db fault) :
    call.StrandsFile db files fault ↔
      fault.raises.caught = false ∧ ∃ row ∈ call.loopRows db, (call.held db files row).isSome := by
  obtain ⟨step, raises⟩ := fault
  rcases h with ⟨hstep, hevidence⟩ | hstep <;> obtain rfl : step = _ := hstep
  · exact and_congr_right fun _ => and_iff_right hevidence
  · exact Iff.rfl

/-- A fault that strands a file is in a round of the loop or after it. -/
lemma late_of_strandsFile (h : call.StrandsFile db files fault)
    (hround : roundOf fault.step = none) : Late db fault := by
  obtain ⟨step, raises⟩ := fault
  cases step with
  | updateEvidence => exact .inl ⟨rfl, h.2.1⟩
  | commit => exact .inr rfl
  | readArtifact _ | renameArtifact _ | deleteStageOutput _ | artifactRefsTable _
  | deleteArtifactRef _ => cases hround
  | _ => exact h.elim

/-- The renamed files that are there after the removal are recorded. -/
lemma recorded_of_movesTo (hnew : call.NewNames db files) {moves : List (String × String)}
    {s s' : Session} {j : Nat}
    (hj : j ≤ (db.stageOutputs.getD []).length) (hfiles : s.files = files)
    (hmoves : MovesTo call ((db.stageOutputs.getD []).filterMap StageOutputRow.artifactRefId) 0 j
      moves s s')
    {working : Database} (hdeletions : working.artifactDeletions = db.artifactDeletions)
    {path : String} (hfree : files path = none)
    (hthere : ((call.deleteQuarantinedArtifactPaths moves working s'.files).2.1 path).isSome) :
    PendingDeletion (call.deleteQuarantinedArtifactPaths moves working s'.files).1 path := by
  have hrecordable : call.Recordable (moves.map Prod.fst) working := by
    constructor
    · intro name hname other hother hid
      obtain ⟨moved, hmoved, rfl⟩ := List.mem_map.mp hname
      obtain ⟨moved', hmoved', rfl⟩ := List.mem_map.mp hother
      obtain ⟨k, -, hk, artifactRefId, hmem, rfl⟩ := hmoves.named moved hmoved
      obtain ⟨k', -, hk', artifactRefId', hmem', rfl⟩ := hmoves.named moved' hmoved'
      exact hnew.ids k (hk.trans_le hj) k' (hk'.trans_le hj) artifactRefId hmem artifactRefId' hmem'
        hid
    · intro row hrow name hname hid
      obtain ⟨moved, hmoved, rfl⟩ := List.mem_map.mp hname
      obtain ⟨k, -, hk, artifactRefId, hmem, rfl⟩ := hmoves.named moved hmoved
      exact hnew.recorded row (hdeletions ▸ hrow) k (hk.trans_le hj) artifactRefId hmem hid
  obtain ⟨hsession, hpending⟩ := (deleteQuarantinedArtifactPaths_spec (fun moved hmoved =>
    List.mem_map.mpr ⟨moved, hmoved, rfl⟩) hrecordable s'.files).2 path hthere
  rw [hmoves.files, hfiles] at hsession
  exact hpending (exists_moved_of_new hfree hsession)

/-- What a call makes of the session in which the loop has returned. -/
def afterLoop (call : ErasureCall) (db : Database) (subject : Subject)
    (quarantined : List (String × String)) (s : Session) : Outcome :=
  match runOn call.eraseEvidenceAndCommit s with
  | (.error raised, s) =>
    ⟨db, if raised.caught then restoreQuarantinedArtifactPaths quarantined s.files else s.files,
      .raised raised⟩
  | (.ok (), s) =>
    match call.deleteQuarantinedArtifactPaths quarantined s.working s.files with
    | (db, files, []) =>
      ⟨db, files, .returned subject.identityRows.length subject.evidenceRows.length⟩
    | (db, files, error :: _) => ⟨db, files, .unlinkFailed error⟩

lemma eraseRuntimeControlSubject_eq (call : ErasureCall) (db : Database) (files : Files) :
    call.eraseRuntimeControlSubject db files =
      match runOn call.eraseUntilArtifacts ⟨db, files⟩ with
      | (.error raised, s) =>
        ⟨db, if raised.caught then restoreQuarantinedArtifactPaths [] s.files else s.files,
          .raised raised⟩
      | (.ok none, s) => ⟨db, s.files, .returned 0 0⟩
      | (.ok (some (subject, quarantined)), s) => call.afterLoop db subject quarantined s := rfl

/-- Once the loop has returned, a file is left behind only by a fault that the handler does not
handle. -/
lemma leavesInPlace_afterLoop (hnew : call.NewNames db files) {moves : List (String × String)}
    {s s' : Session}
    {j : Nat} (hj : j ≤ (db.stageOutputs.getD []).length) (hfiles : s.files = files)
    (hmoves : MovesTo call ((db.stageOutputs.getD []).filterMap StageOutputRow.artifactRefId) 0 j
      moves s s')
    (hevidence : s'.working.evidence = db.evidence)
    (hdeletions : s'.working.artifactDeletions = db.artifactDeletions) (subject : Subject) :
    LeavesInPlace db files (call.afterLoop db subject moves s') ↔
      ∀ fault ∈ call.fault, ¬ (Late db fault ∧ fault.raises.caught = false ∧ moves ≠ []) := by
  have hlate (fault : Fault) : Late s'.working fault ↔ Late db fault := by
    unfold Late
    rw [hevidence]
  unfold afterLoop
  rcases call.runOn_eraseEvidenceAndCommit s' with
    ⟨fault, hfault, hraises, s'', hrun, hsame⟩ | ⟨hnone, s'', hrun, hsame, hkept⟩ <;> rw [hrun]
  · dsimp only
    rw [leavesInPlace_raised, hsame]
    cases hcaught : fault.raises.caught with
    | true =>
      rw [if_pos rfl, restoreQuarantinedArtifactPaths_eq, hmoves.files,
        undoAll_renameAll hmoves.clear]
      refine iff_of_true hfiles fun other hother => ?_
      obtain rfl := Option.some_inj.mp (hfault.symm.trans hother)
      rw [hcaught]
      exact fun h => nomatch h.2.1
    | false =>
      rw [if_neg Bool.false_ne_true]
      constructor
      · rintro hback other hother ⟨-, -, hne⟩
        exact hmoves.files_ne hnew.names hj hne (hback.trans hfiles.symm)
      · intro h
        have hnil : moves = [] := by
          by_contra hne
          exact h fault hfault ⟨(hlate fault).mp hraises, hcaught, hne⟩
        rw [hmoves.files, hnil, hfiles]
        rfl
  · refine iff_of_true ?_ fun fault hfault h => hnone fault hfault ((hlate fault).mpr h.1)
    have hrecorded {path : String} (hfree : files path = none)
        (hthere : ((call.deleteQuarantinedArtifactPaths moves s''.working s'.files).2.1
          path).isSome) :=
      recorded_of_movesTo hnew hj hfiles hmoves (hkept.trans hdeletions) hfree hthere
    dsimp only
    rw [hsame]
    rcases hdelete : call.deleteQuarantinedArtifactPaths moves s''.working
      s'.files with ⟨after, left, _ | ⟨error, rest⟩⟩ <;>
      rw [hdelete] at hrecorded
    all_goals exact ⟨fun raised h => (nomatch h), fun _ path hfree hthere => hrecorded hfree hthere⟩

/-- An erasure leaves everything in place, or what it could not remove recorded, if and only if no
fault comes when a file is renamed and the handler does not know it or does not handle what is
raised. -/
theorem leavesInPlace_iff (call : ErasureCall) (db : Database) (files : Files)
    (hnew : call.NewNames db files) :
    LeavesInPlace db files (call.eraseRuntimeControlSubject db files) ↔
      ∀ fault ∈ call.fault, ¬ call.StrandsFile db files fault := by
  rw [eraseRuntimeControlSubject_eq]
  have hlength : 0 + (call.loopRows db).length ≤ (db.stageOutputs.getD []).length := by
    rw [Nat.zero_add]
    exact call.loopRows_length
  rcases call.comesToLoop_eraseUntilArtifacts ⟨db, files⟩ with
    ⟨step, raised, s', hearly, hfault, hfiles, hrun⟩ | ⟨s', hsame, hnone, hrun⟩ | ⟨s', hsame, hrun⟩
  · rw [hrun]
    dsimp only
    rw [leavesInPlace_raised, restoreQuarantinedArtifactPaths_eq]
    refine iff_of_true (by split <;> exact hfiles) fun fault hmem => ?_
    rw [faultAt_of_fault hmem] at hfault
    refine not_strandsFile_of_early ?_
    by_cases hstep : fault.step = step
    · exact hstep ▸ hearly
    · rw [if_neg hstep] at hfault
      cases hfault
  · -- No file holds a text of the person.
    have hheld : ∀ row ∈ call.loopRows db, call.held db files row = none := by
      rcases hnone with htokens | hrows
      · intro row _
        show call.heldArtifact (call.subjectIn db).tokens files row = none
        rw [show (call.subjectIn db).tokens = [] from htokens]
        simp [heldArtifact, holdsToken]
      · rw [show call.loopRows db = [] from hrows]
        simp
    have hstrands : ∀ fault ∈ call.fault, ¬ call.StrandsFile db files fault := by
      intro fault _ h
      obtain ⟨row, hrow, hsome⟩ := exists_held_of_strandsFile h
      rw [hheld row hrow] at hsome
      cases hsome
    refine iff_of_true ?_ hstrands
    rcases hrun with hrun | hrun <;> rw [hrun]
    · refine ⟨fun raised h => (by cases h), fun _ path hfree hthere => ?_⟩
      dsimp only at hthere
      rw [show s'.files = files from hsame.files, hfree] at hthere
      cases hthere
    · refine (leavesInPlace_afterLoop hnew (Nat.zero_le _) hsame.files
        (MovesTo.refl 0 0 s') hsame.evidence
        hsame.artifactDeletions _).mpr fun fault hfault h => h.2.2 rfl
  dsimp only at hrun
  rw [show stageOutputRows (call.subjectIn db) db = call.loopRows db from rfl] at hrun
  have hstrands := loop_strands_iff hnew hsame.files hsame.artifactRefs
  have hinRound {fault : Fault} (hfault : fault ∈ call.fault)
      (hround : roundOf fault.step = none) :=
    loop_returns db s' fun other hother k hk => by
      obtain rfl := Option.some_inj.mp (hfault.symm.trans hother)
      rw [hround] at hk
      cases hk
  rcases hloop : runOn (call.deleteArtifactsFrom (call.subjectIn db).tokens 0 (call.loopRows db))
    s' with ⟨raised | result, s''⟩ <;> rw [hloop] at hrun hinRound <;> rw [hrun]
  · dsimp only
    rw [leavesInPlace_raised, restoreQuarantinedArtifactPaths_eq, show undoAll [] s''.files =
      s''.files from rfl, ite_self]
    constructor
    · intro hback fault hfault h
      cases hround : roundOf fault.step with
      | none =>
        obtain ⟨s₃, hreturns, -⟩ := hinRound hfault hround
        cases hreturns
      | some k =>
        obtain ⟨raised', s₃, hraises, hne⟩ := hstrands.mpr ⟨fault, hfault, by rw [hround]; rfl, h⟩
        rw [hloop] at hraises
        cases hraises
        exact hne hback
    · intro h
      by_contra hne
      obtain ⟨fault, hfault, -, hstrand⟩ := hstrands.mp ⟨raised, s'', hloop, hne⟩
      exact h fault hfault hstrand
  · obtain ⟨moves, hmoves, hresult⟩ :=
      deleteArtifactsFrom_moves (s := s') (call.empty_notMem_tokens db) hnew.names hlength
      call.artifactsIn_loopRows (show call.FreeFrom _ _ 0 s'.files from hsame.files ▸ hnew.free)
    rw [hloop] at hmoves hresult
    obtain rfl := hresult result rfl
    dsimp only
    rw [leavesInPlace_afterLoop hnew hlength hsame.files hmoves
      (hmoves.rest.evidence.trans hsame.evidence)
      (hmoves.rest.artifactDeletions.trans hsame.artifactDeletions)]
    refine forall_congr' fun fault => forall_congr' fun hfault => not_congr ⟨?_, fun h => ?_⟩
    · rintro ⟨hlate, hcaught, hne⟩
      have hround : roundOf fault.step = none := by
        rcases hlate with ⟨hstep, -⟩ | hstep <;> rw [hstep] <;> rfl
      obtain ⟨s₃, hreturns, -⟩ := hinRound hfault hround
      cases hreturns
      refine (strandsFile_of_late hlate).mpr ⟨hcaught, ?_⟩
      rw [Ne, movesFrom_eq_nil] at hne
      push Not at hne
      obtain ⟨row, hrow, hheld⟩ := hne
      rw [show s'.files = files from hsame.files] at hheld
      exact ⟨row, hrow, Option.isSome_iff_ne_none.mpr hheld⟩
    · have hround : roundOf fault.step = none := by
        by_contra hsome
        obtain ⟨raised', s₃, hraises, -⟩ :=
          hstrands.mpr ⟨fault, hfault, Option.isSome_iff_ne_none.mpr hsome, h⟩
        rw [hloop] at hraises
        cases hraises
      have hlate := late_of_strandsFile h hround
      obtain ⟨hcaught, row, hrow, hheld⟩ := (strandsFile_of_late hlate).mp h
      obtain ⟨s₃, hreturns, -⟩ := hinRound hfault hround
      cases hreturns
      refine ⟨hlate, hcaught, fun hnil => ?_⟩
      have hnone := (call.movesFrom_eq_nil _ _ _).mp hnil row hrow
      rw [show s'.files = files from hsame.files] at hnone
      rw [show call.held db files row = none from hnone] at hheld
      cases hheld

end Call

end ErasureCall

/-! ## Two stage outputs of one run -/

/-- Python on texts of ASCII characters whose JSON has neither floats nor a key twice. -/
def exampleErasureRuntime : ErasureRuntime where
  loads text :=
    ((jsonLoads ⟨fun digits => .ok (decimalValue digits), (), (), ()⟩
      (pointsOf text)).toOption).bind JsonText.toJson
  dumps value := String.ofList (((writeValue value.normalize).getD []).map Char.ofNat)
  strip text :=
    String.ofList
      ((text.toList.dropWhile Char.isWhitespace).reverse.dropWhile Char.isWhitespace).reverse
  isalnum := Char.isAlphanum
  setOrder := id
  setOrder_perm members := List.Perm.refl members

/-- One candidate, and two stage outputs that name it. -/
def exampleErasureDatabase : Database where
  identities := some [{
    runtimeRunId := "run-1", identityId := "identity-1", canonicalResumeId := "resume-1"
    mergedResumeIdsJson := "[\"resume-1\"]", sourceEvidenceIdsJson := "[]", displayName :=
      "", title := ""
    company := "", location := "", summary := "", score := none, fitBucket := none
    payloadHash := "", updatedAt := "2026-05-30T00:00:00Z" }]
  stageOutputs := some [
    { outputId := "output-a", runtimeRunId := "run-1", artifactRefId := some "rtartifact_a"
      outputJson :=
        "\x7b\"artifactKind\":\"runtime_stage_output\",\"artifactRefId\":\"rtartifact_a\",\"storage\":\"file\"\x7d" },
    { outputId := "output-b", runtimeRunId := "run-1", artifactRefId := some "rtartifact_b"
      outputJson :=
        "\x7b\"artifactKind\":\"runtime_stage_output\",\"artifactRefId\":\"rtartifact_b\",\"storage\":\"file\"\x7d" }]
  artifactRefs := some ["rtartifact_a", "rtartifact_b"]

/-- The files of the two stage outputs. -/
def exampleErasureFiles : Files := fun path =>
  if path = "/data/runtime_control_artifacts/stage_outputs/rtartifact_a.json" then some
    "scored resume-1"
  else if path = "/data/runtime_control_artifacts/stage_outputs/rtartifact_b.json" then some
    "merged resume-1"
  else none

/-- The erasure of the candidate. -/
def exampleErasureCall (fault : Option Fault) : ErasureCall where
  toErasureRuntime := exampleErasureRuntime
  sha256Hex path :=
    if path =
      "/data/runtime_control_artifacts/stage_outputs/rtartifact_a.json.delete-9f1c0f5e7b9e4d0a8a5e3c2b1d0f4e6a"
    then "cdb040b71e85916f4108450dc1afcfc493da81bd5038fb7e762a3bbd1e2b3004"
    else if path =
      "/data/runtime_control_artifacts/stage_outputs/rtartifact_b.json.delete-9f1c0f5e7b9e4d0a8a5e3c2b1d0f4e6a"
    then "1e4e5860497a3fd048cf371196e98720b2dbbb38867dc8cde2e03dc8e353ff41"
    else if path =
      "/data/runtime_control_artifacts/stage_outputs/rtartifact_a.json.delete-3b7de0c4525f4c1f9d6a0e8b7c2f1a95"
    then "95ee2ac28e33859b56e0985126e451b867f0fe8adf00fbfea13325417bc6e3fb"
    else "6eb5a0740aeb3b09ced91b8ee1188b0d2f7079ca590dc1e921b5c9583bd8c4c5"
  quarantineName index path :=
    path ++ ".delete-" ++
      if index = 0 then "9f1c0f5e7b9e4d0a8a5e3c2b1d0f4e6a" else "3b7de0c4525f4c1f9d6a0e8b7c2f1a95"
  resumeId := "resume-1"
  erasedAt := "2026-06-01T00:00:00.000000Z"
  nowIso := "2026-06-01T00:00:00.000000Z"
  artifactDirectory := "/data/runtime_control_artifacts/stage_outputs"
  fault := fault
  unlinkError _ := none

/-- The names of the example are new. -/
lemma exampleErasure_newNames (fault : Option Fault) :
    (exampleErasureCall fault).NewNames exampleErasureDatabase exampleErasureFiles := by
  have hnew : (exampleErasureCall none).NewNames exampleErasureDatabase exampleErasureFiles := by
    refine ⟨⟨by decide +kernel, by decide +kernel⟩, fun k _ hk => ?_, by decide +kernel,
      by decide +kernel⟩
    have hall : ∀ k < (exampleErasureDatabase.stageOutputs.getD []).length,
        ∀ artifactRefId ∈ (exampleErasureDatabase.stageOutputs.getD []).filterMap
        StageOutputRow.artifactRefId, exampleErasureFiles
        ((exampleErasureCall none).moveOf k artifactRefId).1 = none := by decide +kernel
    exact hall k hk
  exact ⟨⟨hnew.names.apart, hnew.names.distinct⟩, hnew.free, hnew.ids, hnew.recorded⟩

/-- A commit that fails with an error of SQLite: the files are put back. -/
theorem commitFails_leavesInPlace :
    ErasureCall.LeavesInPlace exampleErasureDatabase exampleErasureFiles
      ((exampleErasureCall (some ⟨.commit, .sqliteError⟩)).eraseRuntimeControlSubject
        exampleErasureDatabase exampleErasureFiles) :=
  (ErasureCall.leavesInPlace_iff _ _ _ (exampleErasure_newNames _)).mpr fun fault hfault h => by
    obtain rfl := Option.some_inj.mp hfault
    exact absurd h.1 (by decide)

/-- The second stage output cannot be decoded: the first one stays renamed. -/
theorem undecodableArtifact_leavesFirstRenamed :
    ¬ ErasureCall.LeavesInPlace exampleErasureDatabase exampleErasureFiles
      ((exampleErasureCall
        (some ⟨.readArtifact 1, .other "UnicodeDecodeError"⟩)).eraseRuntimeControlSubject
        exampleErasureDatabase exampleErasureFiles) := by
  intro h
  have hending : ((exampleErasureCall
      (some ⟨.readArtifact 1, .other "UnicodeDecodeError"⟩)).eraseRuntimeControlSubject
      exampleErasureDatabase
        exampleErasureFiles).ending = .raised (.other "UnicodeDecodeError") := by decide +kernel
  have hgone : ((exampleErasureCall
      (some ⟨.readArtifact 1, .other "UnicodeDecodeError"⟩)).eraseRuntimeControlSubject
      exampleErasureDatabase
        exampleErasureFiles).files
        "/data/runtime_control_artifacts/stage_outputs/rtartifact_a.json" = none := by
    decide +kernel
  rw [(h.restored _ hending).2] at hgone
  exact absurd hgone (by decide)

end SeekTalent.PrivacyErasure
