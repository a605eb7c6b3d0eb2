import SeekTalent.Foundation.Renames
import SeekTalent.PrivacyErasure.ErasureRuns

/-!
# The renames of the loop over the stage outputs

Each round of the loop renames the file of its row or leaves the files alone, and a round that
raises has renamed its file or not (`roundEnds`).  So the files after the loop, wherever it ends,
are those before it with some renames (`deleteArtifactsFrom_moves`), and which rows lead to one
depends on the files before the loop only (`heldArtifact_after`).
-/

namespace SeekTalent.PrivacyErasure

open Foundation Foundation.Renames

namespace ErasureCall

variable (call : ErasureCall) (tokens : List String)
variable {s s' : Session} {row : StageOutputRow} {i : Nat}
variable {j index : Nat} {rows : List StageOutputRow}

/-! ## One round -/

/-- The artifact of a row whose file holds a text of the person. -/
def heldArtifact (files : Files) (row : StageOutputRow) : Option String :=
  (call.artifactOf row).filter fun artifactRefId =>
    holdsToken tokens ((files (call.stageOutputArtifactPath artifactRefId)).getD "")

/-- The rename of an artifact in the round of the given index. -/
def moveOf (index : Nat) (artifactRefId : String) : String × String :=
  (call.quarantineName index (call.stageOutputArtifactPath artifactRefId),
    call.stageOutputArtifactPath artifactRefId)

/-- What a round raises, and the rename that it has made by then. -/
def roundEnds (index : Nat) (row : StageOutputRow) (files : Files) (hasRefs : Bool) :
    Except Raised Unit × Option (String × String) :=
  match call.artifactOf row with
  | none => (.ok (), none)
  | some artifactRefId =>
    match call.faultAt (.readArtifact index) with
    | some .fileNotFound => (.ok (), none)
    | some raised => (.error raised, none)
    | none =>
      if holdsToken tokens ((files (call.stageOutputArtifactPath artifactRefId)).getD "") =
        false then (.ok (), none)
      else
        match call.faultAt (.renameArtifact index) with
        | some raised => (.error raised, none)
        | none =>
          match call.faultAt (.deleteStageOutput index), call.faultAt (.artifactRefsTable index),
            call.faultAt (.deleteArtifactRef index), hasRefs with
          | some raised, _, _, _ => (.error raised, some (call.moveOf index artifactRefId))
          | none, some raised, _, _ => (.error raised, some (call.moveOf index artifactRefId))
          | none, none, some raised, true => (.error raised, some (call.moveOf index artifactRefId))
          | none, none, _, _ => (.ok (), some (call.moveOf index artifactRefId))

/-- The tables of the candidates and of the documents. -/
def records (db : Database) : Database :=
  { db with stageOutputs := none, artifactRefs := none, artifactDeletions := none }

/-- The tables that the loop leaves alone. -/
structure SameRest (s s' : Session) : Prop where
  hasRefs : s'.working.artifactRefs.isSome = s.working.artifactRefs.isSome
  records : records s'.working = records s.working
  artifactDeletions : s'.working.artifactDeletions = s.working.artifactDeletions

lemma SameRest.refl (s : Session) : SameRest s s := ⟨rfl, rfl, rfl⟩

lemma SameRest.trans {a b c : Session} (h : SameRest a b) (h' : SameRest b c) : SameRest a c :=
  ⟨h'.hasRefs.trans h.hasRefs, h'.records.trans h.records,
    h'.artifactDeletions.trans h.artifactDeletions⟩

lemma SameRest.evidence (h : SameRest s s') : s'.working.evidence = s.working.evidence := by
  have hrecords := congrArg Database.evidence h.records
  exact hrecords

variable {tokens}

lemma holdsToken_empty (htokens : "" ∉ tokens) : holdsToken tokens "" = false := by
  unfold holdsToken occursIn
  rw [List.any_eq_false]
  intro token htoken
  simp only [String.toList_empty, List.infix_nil, decide_eq_true_eq]
  intro hempty
  exact htokens ((String.toList_eq_nil_iff.mp hempty) ▸ htoken)

/-- How a round ends, and what it leaves. -/
lemma runOn_round (htokens : "" ∉ tokens) (index : Nat) (row : StageOutputRow) (s : Session) :
    ∃ s', runOn (call.deleteStageOutputArtifact tokens index row) s =
        ((call.roundEnds tokens index row s.files s.working.artifactRefs.isSome).1.map fun _ =>
          (call.roundEnds tokens index row s.files s.working.artifactRefs.isSome).2, s') ∧
      s'.files = renameAll
        (call.roundEnds tokens index row s.files s.working.artifactRefs.isSome).2.toList s.files ∧
      SameRest s s' := by
  unfold deleteStageOutputArtifact roundEnds
  cases hartifact : call.artifactOf row with
  | none => exact ⟨s, rfl, rfl, SameRest.refl s⟩
  | some artifactRefId =>
    dsimp only
    rw [runOn_bind]
    unfold readArtifact
    rcases hread : call.faultAt (.readArtifact index) with _ | (_ | _ | _ | _)
    case some.fileNotFound =>
      refine ⟨s, ?_, rfl, SameRest.refl s⟩
      dsimp only
      rw [runOn_pure]
      dsimp only
      rw [if_pos (holdsToken_empty htokens)]
      rfl
    case none =>
      dsimp only
      rw [runOn_bind, runOn_get]
      dsimp only
      rw [runOn_pure]
      dsimp only
      split
      · exact ⟨s, rfl, rfl, SameRest.refl s⟩
      rw [runOn_bind, runOn_reach]
      cases call.faultAt (.renameArtifact index) with
      | some raised => exact ⟨s, rfl, rfl, SameRest.refl s⟩
      | none =>
        dsimp only
        rw [runOn_bind, runOn_modify]
        dsimp only
        rw [runOn_bind, runOn_execute]
        cases call.faultAt (.deleteStageOutput index) with
        | some raised => exact ⟨_, rfl, rfl, rfl, rfl, rfl⟩
        | none =>
          dsimp only
          rw [runOn_bind, runOn_query]
          cases call.faultAt (.artifactRefsTable index) with
          | some raised => exact ⟨_, rfl, rfl, rfl, rfl, rfl⟩
          | none =>
            dsimp only
            cases hrefs : s.working.artifactRefs.isSome with
            | false =>
              rw [if_neg Bool.false_ne_true]
              cases call.faultAt (.deleteArtifactRef index) <;> exact ⟨_, rfl, rfl, rfl, rfl, rfl⟩
            | true =>
              rw [if_pos rfl, runOn_bind, runOn_execute]
              cases call.faultAt (.deleteArtifactRef index) with
              | some raised => exact ⟨_, rfl, rfl, rfl, rfl, rfl⟩
              | none => exact ⟨_, rfl, rfl, by simp, rfl, rfl⟩
    all_goals exact ⟨s, rfl, rfl, SameRest.refl s⟩

/-- A round renames the file of an artifact that is held. -/
lemma held_of_move {files : Files} {hasRefs : Bool} {moved : String × String}
    (h : (call.roundEnds tokens index row files hasRefs).2 = some moved) :
    ∃ artifactRefId, call.heldArtifact tokens files row = some artifactRefId ∧
      moved = call.moveOf index artifactRefId := by
  unfold roundEnds at h
  unfold heldArtifact
  cases hartifact : call.artifactOf row with
  | none =>
    rw [hartifact] at h
    cases h
  | some artifactRefId =>
    rw [hartifact] at h
    dsimp only at h
    have hheld : holdsToken tokens ((files (call.stageOutputArtifactPath artifactRefId)).getD "") =
      true ∧
        moved = call.moveOf index artifactRefId := by
      split at h
      · cases h
      · cases h
      · split at h
        · cases h
        rename_i hholds
        refine ⟨by simpa using hholds, ?_⟩
        split at h
        · cases h
        split at h <;> exact (Option.some_inj.mp h).symm
    refine ⟨artifactRefId, ?_, hheld.2⟩
    simp [Option.filter, hheld.1]

/-- The round of a step, if it is one of the loop. -/
def roundOf : ErasureStep → Option Nat
  | .readArtifact index | .renameArtifact index | .deleteStageOutput index
    | .artifactRefsTable index
  | .deleteArtifactRef index => some index
  | _ => none

/-- No step of a round raises. -/
def ClearRound (index : Nat) : Prop := ∀ step, roundOf step = some index → call.faultAt step = none

/-- A round in which no step raises renames the artifact that is held. -/
lemma roundEnds_of_clear (hclear : call.ClearRound index) (row : StageOutputRow)
    (files : Files) (hasRefs : Bool) :
    call.roundEnds tokens index row files hasRefs =
      (.ok (), (call.heldArtifact tokens files row).map (call.moveOf index)) := by
  unfold roundEnds heldArtifact
  rw [hclear (.readArtifact index) rfl, hclear (.renameArtifact index) rfl,
    hclear (.deleteStageOutput index) rfl, hclear (.artifactRefsTable index) rfl,
    hclear (.deleteArtifactRef index) rfl]
  cases call.artifactOf row with
  | none => rfl
  | some artifactRefId =>
    dsimp only
    cases hholds : holdsToken tokens
      ((files (call.stageOutputArtifactPath artifactRefId)).getD "") <;>
      simp [Option.filter, hholds]

/-! ## The loop -/

/-- The names that renamed files get are apart from each other and from those of the artifacts. -/
structure QuarantineNames (n : Nat) (refs : List String) : Prop where
  apart : ∀ k < n, ∀ artifactRefId ∈ refs, ∀ other ∈ refs,
    (call.moveOf k artifactRefId).1 ≠ call.stageOutputArtifactPath other
  distinct : ∀ k < n, ∀ j < n, k ≠ j → ∀ artifactRefId ∈ refs, ∀ other ∈ refs,
    (call.moveOf k artifactRefId).1 ≠ (call.moveOf j other).1

/-- The names that files get from the given round on are free. -/
def FreeFrom (n : Nat) (refs : List String) (i : Nat) (files : Files) : Prop :=
  ∀ k, i ≤ k → k < n → ∀ artifactRefId ∈ refs, files (call.moveOf k artifactRefId).1 = none

/-- The files of a session are renamed by some of the rounds from `i` on and before `j`. -/
structure MovesTo (refs : List String) (i j : Nat) (moves : List (String × String))
    (s s' : Session) : Prop where
  files : s'.files = renameAll moves s.files
  clear : Clear moves s.files
  named : ∀ moved ∈ moves, ∃ k, i ≤ k ∧ k < j ∧ ∃ artifactRefId ∈ refs,
    moved = call.moveOf k artifactRefId
  rest : SameRest s s'

variable {n : Nat} {refs : List String} {call}

lemma MovesTo.refl (i j : Nat) (s : Session) : MovesTo call refs i j [] s s :=
  ⟨rfl, trivial, fun _ h => (List.not_mem_nil h).elim, SameRest.refl s⟩

lemma MovesTo.trans {k : Nat} {first second : List (String × String)} {a b c : Session}
    (h : MovesTo call refs i j first a b) (h' : MovesTo call refs j k second b c) (hij : i ≤ j)
    (hjk : j ≤ k) : MovesTo call refs i k (first ++ second) a c where
  files := by rw [renameAll_append, ← h.files, h'.files]
  clear := clear_append.mpr ⟨h.clear, h.files ▸ h'.clear⟩
  named moved hmoved := by
    rcases List.mem_append.mp hmoved with hfirst | hsecond
    · obtain ⟨round, hi, hj, hrest⟩ := h.named moved hfirst
      exact ⟨round, hi, hj.trans_le hjk, hrest⟩
    · obtain ⟨round, hj, hk, hrest⟩ := h'.named moved hsecond
      exact ⟨round, hij.trans hj, hk, hrest⟩
  rest := h.rest.trans h'.rest

/-- The names of the later rounds are still free. -/
lemma MovesTo.freeFrom {moves : List (String × String)}
    (hnames : call.QuarantineNames n refs) (h : MovesTo call refs i j moves s s') (hij : i ≤ j)
    (hfree : call.FreeFrom n refs i s.files) : call.FreeFrom n refs j s'.files := by
  intro k hk hkn artifactRefId hmem
  rw [h.files]
  refine renameAll_eq_none (fun moved hmoved => ?_) (hfree k (hij.trans hk) hkn artifactRefId hmem)
  obtain ⟨round, -, hround, other, hother, rfl⟩ := h.named moved hmoved
  have hlt : round < k := hround.trans_le hk
  exact hnames.distinct round (hlt.trans hkn) k hkn hlt.ne other hother artifactRefId hmem

/-- Files that were renamed are not where they were. -/
lemma MovesTo.files_ne {moves : List (String × String)}
    (hnames : call.QuarantineNames n refs) (h : MovesTo call refs i j moves s s') (hj : j ≤ n)
    (hmoves : moves ≠ []) : s'.files ≠ s.files := by
  rw [h.files]
  refine renameAll_ne_self h.clear (fun moved hmoved other hother => ?_) hmoves
  obtain ⟨k, -, hk, artifactRefId, hmem, rfl⟩ := h.named moved hmoved
  obtain ⟨k', -, -, artifactRefId', hmem', rfl⟩ := h.named other hother
  exact hnames.apart k (hk.trans_le hj) artifactRefId hmem artifactRefId' hmem'

/-- What holds a text of the person is there. -/
lemma isSome_of_held (htokens : "" ∉ tokens) {files : Files} {artifactRefId : String}
    (h : call.heldArtifact tokens files row = some artifactRefId) :
    (files (call.stageOutputArtifactPath artifactRefId)).isSome := by
  obtain ⟨-, hholds⟩ := Option.filter_eq_some_iff.mp h
  cases hfile : files (call.stageOutputArtifactPath artifactRefId) with
  | some _ => rfl
  | none =>
    rw [hfile, Option.getD_none, holdsToken_empty htokens] at hholds
    cases hholds

/-- The artifacts of the rows are among the given ones. -/
def ArtifactsIn (call : ErasureCall) (refs : List String) (rows : List StageOutputRow) : Prop :=
  ∀ row ∈ rows, ∀ artifactRefId, call.artifactOf row = some artifactRefId → artifactRefId ∈ refs

/-- A round leads to a rename at most. -/
lemma movesTo_round (htokens : "" ∉ tokens) (hindex : index < n)
    (hrow : ∀ artifactRefId, call.artifactOf row = some artifactRefId → artifactRefId ∈ refs)
    (hfree : call.FreeFrom n refs index s.files) {hasRefs : Bool}
    (hfiles : s'.files = renameAll (call.roundEnds tokens index row s.files hasRefs).2.toList
      s.files)
    (hrest : SameRest s s') :
    MovesTo call refs index (index + 1)
      (call.roundEnds tokens index row s.files hasRefs).2.toList s s' := by
  refine ⟨hfiles, ?_, ?_, hrest⟩
  · cases hmoved : (call.roundEnds tokens index row s.files hasRefs).2 with
    | none => trivial
    | some moved =>
      obtain ⟨artifactRefId, hheld, rfl⟩ := call.held_of_move hmoved
      have hmem : artifactRefId ∈ refs := hrow artifactRefId (Option.filter_eq_some_iff.mp hheld).1
      exact ⟨isSome_of_held htokens hheld, hfree index le_rfl hindex artifactRefId hmem, trivial⟩
  · intro moved hmoved
    obtain ⟨artifactRefId, hheld, rfl⟩ := call.held_of_move (Option.mem_toList.mp hmoved)
    have hmem : artifactRefId ∈ refs := hrow artifactRefId (Option.filter_eq_some_iff.mp hheld).1
    exact ⟨index, le_rfl, Nat.lt_succ_self index, artifactRefId, hmem, rfl⟩

/-- One round after another. -/
lemma runOn_deleteArtifactsFrom_cons (index : Nat) (row : StageOutputRow)
    (rest : List StageOutputRow) (s : Session) :
    runOn (call.deleteArtifactsFrom tokens index (row :: rest)) s =
      match runOn (call.deleteStageOutputArtifact tokens index row) s with
      | (.error raised, s') => (.error raised, s')
      | (.ok moved, s') =>
        match runOn (call.deleteArtifactsFrom tokens (index + 1) rest) s' with
        | (.ok later, s'') => (.ok (moved.toList ++ later), s'')
        | (.error raised, s'') => (.error raised, s'') := by
  rw [deleteArtifactsFrom, runOn_bind]
  rcases runOn (call.deleteStageOutputArtifact tokens index row) s with ⟨_ | moved, s'⟩
  · rfl
  dsimp only
  rw [runOn_bind]
  rcases runOn (call.deleteArtifactsFrom tokens (index + 1) rest) s' with ⟨_ | later, s''⟩ <;> rfl

variable (call) in
/-- The loop leaves the tables of the candidates and of the documents alone. -/
lemma sameRest_deleteArtifactsFrom (htokens : "" ∉ tokens) (i : Nat) (rows : List StageOutputRow)
    (s : Session) : SameRest s (runOn (call.deleteArtifactsFrom tokens i rows) s).2 := by
  induction rows generalizing i s with
  | nil => exact SameRest.refl s
  | cons row rest ih =>
    obtain ⟨s', hrun, -, hrest⟩ := call.runOn_round htokens i row s
    rw [runOn_deleteArtifactsFrom_cons, hrun]
    cases (call.roundEnds tokens i row s.files s.working.artifactRefs.isSome).1 with
    | error raised => exact hrest
    | ok _ =>
      dsimp only [Except.map]
      have hlater := ih (i + 1) s'
      rcases hrun' : runOn (call.deleteArtifactsFrom tokens (i + 1) rest)
        s' with ⟨_ | later, s''⟩ <;>
        rw [hrun'] at hlater <;> exact hrest.trans hlater

/-- Wherever the loop ends, it has made some renames, and if it returns it returns these. -/
theorem deleteArtifactsFrom_moves (htokens : "" ∉ tokens) (hnames : call.QuarantineNames n refs)
    (hlength : i + rows.length ≤ n)
    (hrows : ArtifactsIn call refs rows) (hfree : call.FreeFrom n refs i s.files) :
    ∃ moves, MovesTo call refs i (i + rows.length) moves s
      (runOn (call.deleteArtifactsFrom tokens i rows) s).2 ∧
      ∀ result, (runOn (call.deleteArtifactsFrom tokens i rows) s).1 = .ok result →
        result = moves := by
  induction rows generalizing i s with
  | nil => exact ⟨[], MovesTo.refl i _ s, fun result h => (Except.ok.inj h).symm⟩
  | cons row rest ih =>
    rw [List.length_cons] at hlength ⊢
    rw [show i + (rest.length + 1) = i + 1 + rest.length by omega] at hlength ⊢
    have hi : i < n := by omega
    obtain ⟨s', hrun, hfiles, hrest⟩ := call.runOn_round htokens i row s
    have hround := movesTo_round htokens hi (hrows row List.mem_cons_self) hfree hfiles hrest
    rw [runOn_deleteArtifactsFrom_cons, hrun]
    cases hends : (call.roundEnds tokens i row s.files s.working.artifactRefs.isSome).1 with
    | error raised =>
      have hall := hround.trans (MovesTo.refl (i + 1) (i + 1 + rest.length) s') (Nat.le_succ i)
        (Nat.le_add_right _ _)
      exact ⟨_, hall, fun result h => nomatch h⟩
    | ok _ =>
      obtain ⟨moves, hmoves, hresult⟩ := ih (i := i + 1) (s := s') hlength
        (fun later hlater => hrows later (List.mem_cons_of_mem row hlater))
        (hround.freeFrom hnames (Nat.le_succ i) hfree)
      refine ⟨(call.roundEnds tokens i row s.files s.working.artifactRefs.isSome).2.toList ++
        moves, ?_⟩
      dsimp only [Except.map]
      rcases hlater : runOn (call.deleteArtifactsFrom tokens (i + 1) rest)
        s' with ⟨raised | later, s''⟩ <;>
        rw [hlater] at hmoves hresult
      · exact ⟨hround.trans hmoves (Nat.le_succ i) (Nat.le_add_right _ _), fun result h =>
          nomatch h⟩
      · refine ⟨hround.trans hmoves (Nat.le_succ i) (Nat.le_add_right _ _), fun result h => ?_⟩
        rw [← Except.ok.inj h, hresult later rfl]

/-! ## Rounds that do not raise -/

/-- The renames that rows lead to. -/
def movesFrom (call : ErasureCall) (tokens : List String) : Nat → List StageOutputRow → Files →
    List (String × String)
  | _, [], _ => []
  | index, row :: rest, files =>
    let moved := ((call.heldArtifact tokens files row).map (call.moveOf index)).toList
    moved ++ movesFrom call tokens (index + 1) rest (renameAll moved files)

variable (call) in
/-- Where no step raises, the loop returns the renames of its rows. -/
lemma runOn_deleteArtifactsFrom_of_clear (htokens : "" ∉ tokens) (i : Nat)
    (rows : List StageOutputRow) (s : Session)
    (hclear : ∀ k, i ≤ k → k < i + rows.length → call.ClearRound k) :
    ∃ s', runOn (call.deleteArtifactsFrom tokens i rows) s =
      (.ok (call.movesFrom tokens i rows s.files), s') ∧
      s'.files = renameAll (call.movesFrom tokens i rows s.files) s.files ∧ SameRest s s' := by
  induction rows generalizing i s with
  | nil => exact ⟨s, rfl, rfl, SameRest.refl s⟩
  | cons row rest ih =>
    rw [List.length_cons] at hclear
    obtain ⟨s', hrun, hfiles, hrest⟩ := call.runOn_round htokens i row s
    rw [roundEnds_of_clear call (hclear i le_rfl (by omega))] at hrun hfiles
    obtain ⟨s'', hlater, hlaterFiles, hlaterRest⟩ := ih (i + 1) s' fun k hk hlt =>
      hclear k (by omega) (by omega)
    refine ⟨s'', ?_, ?_, hrest.trans hlaterRest⟩
    · rw [runOn_deleteArtifactsFrom_cons, hrun]
      dsimp only [Except.map]
      rw [hlater, hfiles]
      rfl
    · rw [hlaterFiles, hfiles, movesFrom, renameAll_append]

variable (call tokens) in
/-- The loop goes through the first rows and then through the others. -/
lemma runOn_deleteArtifactsFrom_append (i : Nat) (first rest : List StageOutputRow) (s : Session) :
    runOn (call.deleteArtifactsFrom tokens i (first ++ rest)) s =
      match runOn (call.deleteArtifactsFrom tokens i first) s with
      | (.error raised, s') => (.error raised, s')
      | (.ok moves, s') =>
        match runOn (call.deleteArtifactsFrom tokens (i + first.length) rest) s' with
        | (.ok later, s'') => (.ok (moves ++ later), s'')
        | (.error raised, s'') => (.error raised, s'') := by
  induction first generalizing i s with
  | nil =>
    rw [List.nil_append, show runOn (call.deleteArtifactsFrom tokens i []) s = (.ok [], s) from rfl]
    dsimp only [List.length_nil, Nat.add_zero]
    rcases runOn (call.deleteArtifactsFrom tokens i rest) s with ⟨_ | later, s''⟩ <;> rfl
  | cons row others ih =>
    rw [List.cons_append, runOn_deleteArtifactsFrom_cons, runOn_deleteArtifactsFrom_cons]
    rcases runOn (call.deleteStageOutputArtifact tokens i row) s with ⟨_ | moved, s'⟩
    · rfl
    dsimp only
    rw [ih, List.length_cons, show i + (others.length + 1) = i + 1 + others.length by omega]
    rcases runOn (call.deleteArtifactsFrom tokens (i + 1) others) s' with ⟨_ | moves, s''⟩
    · rfl
    dsimp only
    rcases runOn (call.deleteArtifactsFrom tokens (i + 1 + others.length) rest)
      s'' with ⟨_ | later, s'''⟩
    · rfl
    · dsimp only
      rw [List.append_assoc]

/-- Rows lead to no rename if and only if none of their files holds a text of the person. -/
lemma movesFrom_eq_nil (i : Nat) (rows : List StageOutputRow) (files : Files) :
    call.movesFrom tokens i rows files = [] ↔ ∀ row ∈ rows,
      call.heldArtifact tokens files row = none := by
  induction rows generalizing i with
  | nil => simp [movesFrom]
  | cons row rest ih =>
    cases hheld : call.heldArtifact tokens files row with
    | none => simp [movesFrom, hheld, ih, renameAll]
    | some artifactRefId => simp [movesFrom, hheld]

/-- What is held after one rename: all that was but the renamed artifact. -/
lemma held_after_rename (hnames : call.QuarantineNames n refs) (hi : i < n) {moved : String}
    (hmoved : moved ∈ refs) (files : Files)
    (hrow : ∀ artifactRefId, call.artifactOf row = some artifactRefId → artifactRefId ∈ refs)
    (htokens : "" ∉ tokens) (artifactRefId : String) :
    call.heldArtifact tokens (renameAll [call.moveOf i moved] files) row = some artifactRefId ↔
      call.heldArtifact tokens files row = some artifactRefId ∧ artifactRefId ≠ moved := by
  unfold heldArtifact
  rw [Option.filter_eq_some_iff, Option.filter_eq_some_iff, and_assoc]
  refine and_congr_right fun hartifact => ?_
  have hmem : artifactRefId ∈ refs := hrow artifactRefId hartifact
  have hother : call.stageOutputArtifactPath artifactRefId ≠ (call.moveOf i moved).1 :=
    (hnames.apart i hi moved hmoved artifactRefId hmem).symm
  show holdsToken tokens ((rename (call.stageOutputArtifactPath moved) (call.moveOf i moved).1 files
    (call.stageOutputArtifactPath artifactRefId)).getD "") = true ↔ _
  rcases eq_or_ne artifactRefId moved with rfl | hne
  · rw [rename_old hother, Option.getD_none, holdsToken_empty htokens]
    simp
  · have hpath : call.stageOutputArtifactPath artifactRefId ≠ call.stageOutputArtifactPath
        moved := by
      intro heq
      simp [stageOutputArtifactPath, String.append_assoc] at heq
      exact hne heq
    rw [rename_of_ne hpath hother]
    simp [hne]

/-- What is held after some rounds: all that was but what one of them renamed. -/
lemma heldArtifact_after (htokens : "" ∉ tokens) (hnames : call.QuarantineNames n refs)
    (hlength : i + rows.length ≤ n) (hrows : ArtifactsIn call refs rows) (files : Files)
    (hrow : ∀ artifactRefId, call.artifactOf row = some artifactRefId → artifactRefId ∈ refs)
    (artifactRefId : String) :
    call.heldArtifact tokens (renameAll (call.movesFrom tokens i rows files) files) row =
      some artifactRefId ↔ call.heldArtifact tokens files row = some artifactRefId ∧
        ∀ earlier ∈ rows, call.heldArtifact tokens files earlier ≠ some artifactRefId := by
  induction rows generalizing i files with
  | nil => simp [movesFrom, renameAll]
  | cons first rest ih =>
    rw [List.length_cons] at hlength
    have hrest : ArtifactsIn call refs rest := fun later hlater =>
      hrows later (List.mem_cons_of_mem first hlater)
    have hlater := ih (i := i + 1) (by omega) hrest
      (renameAll ((call.heldArtifact tokens files first).map (call.moveOf i)).toList files)
    rw [movesFrom, renameAll_append, hlater]
    cases hheld : call.heldArtifact tokens files first with
    | none => simp [renameAll, hheld]
    | some moved =>
      have hmoved : moved ∈ refs :=
        hrows first List.mem_cons_self moved (Option.filter_eq_some_iff.mp hheld).1
      have hafter := fun (other : StageOutputRow) (hother : other ∈ rest) =>
        held_after_rename hnames (show i < n by omega) hmoved files (hrest other hother) htokens
          artifactRefId
      simp only [Option.map_some, Option.toList_some]
      rw [held_after_rename hnames (by omega) hmoved files hrow htokens artifactRefId,
        List.forall_mem_cons, hheld, and_assoc]
      refine and_congr_right fun _ => ?_
      constructor
      · rintro ⟨hne, hothers⟩
        refine ⟨fun heq => hne (Option.some_inj.mp heq).symm, fun other hother heq => ?_⟩
        exact hothers other hother ((hafter other hother).mpr ⟨heq, hne⟩)
      · rintro ⟨hne, hothers⟩
        refine ⟨fun heq => hne (congrArg some heq.symm), fun other hother heq => ?_⟩
        exact hothers other hother ((hafter other hother).mp heq).1

/-! ## The round that may raise -/

/-- What the loop comes to in a round, if no step of another round raises. -/
lemma runOn_deleteArtifactsFrom_at (htokens : "" ∉ tokens) (hnames : call.QuarantineNames n refs)
    (hlength : rows.length ≤ n) (hrows : ArtifactsIn call refs rows)
    (hfree : call.FreeFrom n refs 0 s.files) {k : Nat} (hrow : rows[k]? = some row)
    (hclear : ∀ other, other ≠ k → call.ClearRound other) :
    ∃ s₁, s₁.files = renameAll (call.movesFrom tokens 0 (rows.take k) s.files) s.files ∧
      SameRest s s₁ ∧
      ∀ ends, call.roundEnds tokens k row s₁.files s.working.artifactRefs.isSome = ends →
        (∀ raised, ends.1 = .error raised → ∃ s', runOn (call.deleteArtifactsFrom tokens 0 rows) s =
          (.error raised, s') ∧ MovesTo call refs 0 (k + 1)
            (call.movesFrom tokens 0 (rows.take k) s.files ++ ends.2.toList) s s') ∧
        (ends.1 = .ok () → ∃ result s', runOn (call.deleteArtifactsFrom tokens 0 rows) s =
          (.ok result, s')) := by
  obtain ⟨hk, rfl⟩ := List.getElem?_eq_some_iff.mp hrow
  have hsplit : rows = rows.take k ++ (rows[k] :: rows.drop (k + 1)) := by
    rw [List.getElem_cons_drop, List.take_append_drop]
  have htake : (rows.take k).length = k := List.length_take_of_le hk.le
  have htakeIn : ArtifactsIn call refs (rows.take k) := fun other hother =>
    hrows other (List.mem_of_mem_take hother)
  -- The rounds before.
  obtain ⟨s₁, hrun₁, hfiles₁, hrest₁⟩ :=
    call.runOn_deleteArtifactsFrom_of_clear htokens 0 (rows.take k) s
    fun other _ hother => hclear other (by omega)
  obtain ⟨moves, hmoves, hresult⟩ := deleteArtifactsFrom_moves (i := 0) (s := s) htokens hnames
    (by omega) htakeIn hfree
  rw [hrun₁] at hmoves hresult
  obtain rfl := hresult _ rfl
  rw [htake, Nat.zero_add] at hmoves
  refine ⟨s₁, hfiles₁, hrest₁, ?_⟩
  rintro ends rfl
  -- The round itself.
  obtain ⟨s₂, hrun₂, hfiles₂, hrest₂⟩ := call.runOn_round htokens k rows[k] s₁
  rw [hrest₁.hasRefs] at hrun₂ hfiles₂
  have hround := movesTo_round htokens (hk.trans_le hlength) (hrows rows[k] (List.getElem_mem hk))
    (hmoves.freeFrom hnames (Nat.zero_le k) hfree) hfiles₂ hrest₂
  have hloop :=
    call.runOn_deleteArtifactsFrom_append tokens 0 (rows.take k) (rows[k] :: rows.drop (k + 1)) s
  rw [← hsplit, hrun₁, htake, Nat.zero_add] at hloop
  dsimp only at hloop
  rw [runOn_deleteArtifactsFrom_cons, hrun₂] at hloop
  constructor
  · intro raised hraised
    rw [hraised] at hloop
    exact ⟨s₂, hloop, hmoves.trans hround (Nat.zero_le k) (Nat.le_succ k)⟩
  · intro hok
    obtain ⟨s₃, hrun₃, -, -⟩ :=
      call.runOn_deleteArtifactsFrom_of_clear htokens (k + 1) (rows.drop (k + 1)) s₂
      fun other hother _ => hclear other (by omega)
    rw [hok] at hloop
    dsimp only [Except.map] at hloop
    rw [hrun₃] at hloop
    exact ⟨_, s₃, hloop⟩

end ErasureCall

end SeekTalent.PrivacyErasure
