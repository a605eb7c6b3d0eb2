import SeekTalent.Foundation.JsonEquality
import SeekTalent.PrivacyErasure.DocumentFrame
import SeekTalent.PrivacyErasure.ErasureRollback

/-!
# What an erasure commits

An erasure that commits has erased the identities that are found from the resume, the evidence of
the resume, and the texts of the person in the documents of the runs (`committed_of_not_raised`).
-/

namespace SeekTalent.PrivacyErasure

open Foundation

/-! ## Tables -/

/-- The rows of a table are related, one by one, to those of the table that takes its place. -/
def RowsRelated {ρ : Type} (R : ρ → ρ → Prop) : Option (List ρ) → Option (List ρ) → Prop
  | none, none => True
  | some rows, some rows' => List.Forall₂ R rows rows'
  | _, _ => False

lemma rowsRelated_map {ρ : Type} {R : ρ → ρ → Prop} {f : ρ → ρ} (table : Option (List ρ)) :
    RowsRelated R table (table.map fun rows => rows.map f) ↔ ∀ row ∈ table.getD [], R row
      (f row) := by
  cases table with
  | none => simp [RowsRelated]
  | some rows => simp [RowsRelated, List.forall₂_map_right_iff, List.forall₂_same]

lemma rowsRelated_self {ρ : Type} {R : ρ → ρ → Prop} (hR : ∀ row, R row row)
    (table : Option (List ρ)) : RowsRelated R table table := by
  cases table with
  | none => trivial
  | some rows => exact List.forall₂_same.mpr fun row _ => hR row

/-- The primary keys of the documents. -/
structure Database.Keyed (db : Database) : Prop where
  checkpoints : ((db.checkpoints.getD []).map CheckpointRow.checkpointId).Nodup
  snapshots : ((db.snapshots.getD []).map SnapshotRow.runtimeRunId).Nodup
  finalSummaries : ((db.finalSummaries.getD []).map SummaryRow.summaryId).Nodup

namespace ErasureCall

/-! ## Runs that return -/

section Returning

variable {call : ErasureCall} {α β : Type} {s s' : Session}
variable {step : ErasureStep} {u : Unit}

/-- A computation returns the given value and leaves the given session. -/
def Returns (m : ErasureM α) (s : Session) (a : α) (s' : Session) : Prop := runOn m s = (.ok a, s')

lemma returns_bind {m : ErasureM α} {f : α → ErasureM β} {b : β} :
    Returns (m >>= f) s b s' ↔ ∃ a s₁, Returns m s a s₁ ∧ Returns (f a) s₁ b s' := by
  unfold Returns
  rw [runOn_bind]
  constructor
  · intro h
    rcases hrun : runOn m s with ⟨raised | a, s₁⟩ <;> rw [hrun] at h
    · cases h
    · exact ⟨a, s₁, rfl, h⟩
  · rintro ⟨a, s₁, hm, hf⟩
    rw [hm]
    exact hf

lemma returns_pure {a b : α} : Returns (pure a : ErasureM α) s b s' ↔ b = a ∧ s' = s := by
  unfold Returns
  rw [runOn_pure]
  constructor
  · intro h
    cases h
    exact ⟨rfl, rfl⟩
  · rintro ⟨rfl, rfl⟩
    rfl

lemma returns_get {a : Session} : Returns (get : ErasureM Session) s a s' ↔ a = s ∧ s' = s :=
    returns_pure (a := s)

lemma Returns.of_reach (h : Returns (call.reach step) s u s') :
    s' = s := by
  unfold Returns at h
  rw [runOn_reach] at h
  cases hfault : call.faultAt step <;> rw [hfault] at h <;> cases h
  rfl

lemma Returns.of_query {read : Database → α} {a : α}
    (h : Returns (call.query step read) s a s') : a = read s.working ∧ s' = s := by
  unfold Returns at h
  rw [runOn_query] at h
  cases hfault : call.faultAt step <;> rw [hfault] at h <;> cases h
  exact ⟨rfl, rfl⟩

lemma Returns.of_execute {write : Database → Database}
    (h : Returns (call.execute step write) s u s') :
    s' = { s with working := write s.working } := by
  unfold Returns at h
  rw [runOn_execute] at h
  cases hfault : call.faultAt step <;> rw [hfault] at h <;> cases h
  rfl

/-- Statements for each of a list, when each one writes the same to the rows whatever the
session. -/
lemma Returns.of_forM {ρ : Type} {body : ρ → ErasureM Unit} {write : ρ → Database → Database}
    (hbody : ∀ {row s u s'}, Returns (body row) s u s' →
      s' = { s with working := write row s.working })
    {rows : List ρ} (h : Returns (rows.forM body) s u s') :
    s' = { s with working := rows.foldl (fun db row => write row db) s.working } := by
  induction rows generalizing s with
  | nil => exact (returns_pure.mp h).2
  | cons row rest ih =>
    obtain ⟨_, s₁, hrow, hrest⟩ := returns_bind.mp h
    rw [ih hrest, hbody hrow]
    rfl

/-- Statements for the rows of a list that meet a condition. -/
lemma Returns.of_forM_if {ρ : Type} {step : ρ → ErasureStep} {write : ρ → Database → Database}
    {changed : ρ → Prop} [DecidablePred changed] {rows : List ρ}
    (h : Returns (rows.forM fun row => if changed row then call.execute (step row)
      (write row) else pure ()) s u s') :
    s' = { s with working :=
      (rows.filter changed).foldl (fun db row => write row db) s.working } := by
  have hbody : ∀ {row s u s'},
    Returns (if changed row then call.execute (step row) (write row) else pure ()) s u s' →
      s' = { s with working := if changed row then write row s.working else s.working } := by
    intro row s u s' hrow
    by_cases hchanged : changed row
    · rw [if_pos hchanged] at hrow ⊢
      exact hrow.of_execute
    · rw [if_neg hchanged] at hrow ⊢
      exact (returns_pure.mp hrow).2
  rw [List.foldl_filter]
  simp only [decide_eq_true_eq]
  exact Returns.of_forM hbody h

end Returning

/-! ## The documents -/

section Once

variable {ρ : Type} {key : ρ → String}

lemma mem_of_mem_onceEach {seen : List String} {rows : List ρ} {row : ρ}
    (h : row ∈ onceEach key seen rows) : row ∈ rows ∧ key row ∉ seen := by
  induction rows generalizing seen with
  | nil => cases h
  | cons first rest ih =>
    unfold onceEach at h
    split at h
    · exact ⟨List.mem_cons_of_mem first (ih h).1, (ih h).2⟩
    · rename_i hfirst
      rcases List.mem_cons.mp h with rfl | hrest
      · exact ⟨List.mem_cons_self, hfirst⟩
      · exact ⟨List.mem_cons_of_mem first (ih hrest).1, fun hseen =>
          (ih hrest).2 (List.mem_cons_of_mem _ hseen)⟩

lemma nodup_onceEach (seen : List String) (rows : List ρ) :
    ((onceEach key seen rows).map key).Nodup := by
  induction rows generalizing seen with
  | nil => exact List.nodup_nil
  | cons first rest ih =>
    unfold onceEach
    split
    · exact ih seen
    · refine List.nodup_cons.mpr ⟨fun hmem => ?_, ih _⟩
      obtain ⟨row, hrow, hkey⟩ := List.mem_map.mp hmem
      exact (mem_of_mem_onceEach hrow).2 (hkey ▸ List.mem_cons_self)

lemma exists_mem_onceEach {seen : List String} {rows : List ρ} {row : ρ} (hrow : row ∈ rows)
    (hnew : key row ∉ seen) : ∃ first ∈ onceEach key seen rows, key first = key row := by
  induction rows generalizing seen with
  | nil => cases hrow
  | cons first rest ih =>
    unfold onceEach
    split
    · rename_i hfirst
      rcases List.mem_cons.mp hrow with rfl | hrest
      · exact absurd hfirst hnew
      · exact ih hrest hnew
    · by_cases hkey : key first = key row
      · exact ⟨first, List.mem_cons_self, hkey⟩
      · rcases List.mem_cons.mp hrow with rfl | hrest
        · exact absurd rfl hkey
        · have hnot : key row ∉ key first :: seen := fun hmem => by
            rcases List.mem_cons.mp hmem with heq | hseen
            · exact hkey heq.symm
            · exact hnew hseen
          obtain ⟨other, hother, hsame⟩ := ih hrest hnot
          exact ⟨other, List.mem_cons_of_mem first hother, hsame⟩

/-- The documents after the statements on a table: those that are to be cleaned are what they are
changed to. -/
lemma documents_after [DecidableEq ρ] {stored : List ρ} (hunique : (stored.map key).Nodup)
    {runId : ρ → String}
    {mentions : ρ → Bool} {runIds : List String} {changed : ρ → Prop} [DecidablePred changed]
    {set : ρ → ρ → ρ} (hkey : ∀ row old, key (set row old) = key old) :
    ((onceEach key [] (rowsToClean runId mentions runIds stored)).filter changed).foldl
        (fun table row => updateRows key table (key row) (set row)) stored =
      stored.map fun row => if (runId row ∈ runIds ∨ mentions row = true) ∧
        changed row then set row row else row := by
  have hclean : ∀ row, row ∈ rowsToClean runId mentions runIds stored ↔
      row ∈ stored ∧ (runId row ∈ runIds ∨ mentions row = true) := by
    intro row
    simp only [rowsToClean, List.mem_append, List.mem_filter, decide_eq_true_eq]
    tauto
  have honce : ∀ row ∈ stored, row ∈ onceEach key [] (rowsToClean runId mentions runIds stored) ↔
      runId row ∈ runIds ∨ mentions row = true := by
    intro row hrow
    constructor
    · exact fun h => ((hclean row).mp (mem_of_mem_onceEach h).1).2
    · intro h
      obtain ⟨first, hfirst, hsame⟩ :=
        exists_mem_onceEach ((hclean row).mpr ⟨hrow, h⟩) List.not_mem_nil
      have hstored : first ∈ stored := ((hclean first).mp (mem_of_mem_onceEach hfirst).1).1
      exact List.inj_on_of_nodup_map hunique hstored hrow hsame ▸ hfirst
  rw [foldl_updateRows hkey hunique]
  · refine List.map_congr_left fun row hrow => ?_
    simp only [List.mem_filter, honce row hrow, decide_eq_true_eq]
  · exact (nodup_onceEach [] _).sublist (List.filter_sublist.map key)
  · intro row hrow
    exact ((hclean row).mp (mem_of_mem_onceEach (List.mem_of_mem_filter hrow)).1).1

end Once

/-- A table of documents: how it is read, and how its rows are changed. -/
structure DocumentTable (ρ : Type) where
  get : Database → Option (List ρ)
  modify : (List ρ → List ρ) → Database → Database
  modify_modify : ∀ f g db, modify g (modify f db) = modify (g ∘ f) db
  modify_id : ∀ db, modify id db = db
  modify_congr : ∀ f g db, (∀ rows, get db = some rows → f rows = g rows) →
    modify f db = modify g db

/-- Changes of the rows, one after another. -/
lemma DocumentTable.foldl_modify {ρ : Type} (table : DocumentTable ρ) (change : ρ → List ρ → List ρ)
    (rows : List ρ) (db : Database) :
    rows.foldl (fun db row => table.modify (change row) db) db =
      table.modify (fun stored => rows.foldl (fun stored row => change row stored) stored) db := by
  induction rows generalizing db with
  | nil => exact (table.modify_id db).symm
  | cons row rest ih => rw [List.foldl_cons, ih, table.modify_modify]; rfl

/-- The statements on a table of documents, when they return. -/
lemma Returns.of_documents {call : ErasureCall} {s s' : Session} {u : Unit} {ρ : Type}
    [DecidableEq ρ] (table : DocumentTable ρ) (key : ρ → String) (set : ρ → ρ → ρ)
    (hunique : (((table.get s.working).getD []).map key).Nodup) {tableStep selectStep : ErasureStep}
    {step : ρ → ErasureStep} {runId : ρ → String} {mentions : ρ → Bool} {runIds : List String}
    {changed : ρ → Prop} [DecidablePred changed] (hkey : ∀ row old, key (set row old) = key old)
    (h : Returns (do
      if ← call.query tableStep fun db => (table.get db).isSome then
        let rows ← call.query selectStep fun db =>
          rowsToClean runId mentions runIds ((table.get db).getD [])
        (onceEach key [] rows).forM fun row => if changed row then
          call.execute (step row)
            (table.modify fun stored => updateRows key stored (key row) (set row))
        else pure ()) s u s') :
    s' = { s with
      working := table.modify (fun rows => rows.map fun row =>
          if (runId row ∈ runIds ∨ mentions row = true) ∧ changed row then set row row else row)
        s.working } := by
  obtain ⟨_, _, hexists, hrest⟩ := returns_bind.mp h
  obtain ⟨rfl, hs⟩ := hexists.of_query
  rw [hs] at hrest
  cases hget : table.get s.working with
  | none =>
    simp only [hget, Option.isSome_none, Bool.false_eq_true, if_false] at hrest
    have hnone : ∀ f, table.modify f s.working = s.working := fun f => by
      rw [table.modify_congr f id s.working, table.modify_id]
      intro rows hrows
      rw [hget] at hrows
      cases hrows
    rw [(returns_pure.mp hrest).2, hnone]
  | some stored =>
    rw [hget, if_pos Option.isSome_some] at hrest
    obtain ⟨_, _, hselect, hbody⟩ := returns_bind.mp hrest
    obtain ⟨rfl, hs'⟩ := hselect.of_query
    rw [hs'] at hbody
    rw [hbody.of_forM_if, table.foldl_modify, hget]
    rw [table.modify_congr]
    intro rows hrows
    obtain rfl := Option.some_inj.mp (hget.symm.trans hrows)
    rw [hget] at hunique
    exact documents_after hunique hkey

section Documents

variable (call : ErasureCall) (subject : Subject)

/-- A document is one that the erasure looks at. -/
def IsCleaned (subject : Subject) (runtimeRunId : String) (mentions : Bool) : Prop :=
  subject.tokens ≠ [] ∧ (runtimeRunId ∈ identityRunIds subject.identityRows ∨ mentions = true)

instance (subject : Subject) (runtimeRunId : String) (mentions : Bool) :
    Decidable (IsCleaned subject runtimeRunId mentions) :=
  inferInstanceAs (Decidable (_ ∧ _))

/-- A checkpoint after the erasure. -/
def cleanCheckpoint (row : CheckpointRow) : CheckpointRow :=
  if IsCleaned subject row.runtimeRunId (likeContains row.runStateJson call.resumeId) then
    { row with runStateJson :=
      eraseTokensFromJsonText call.toErasureRuntime row.runStateJson subject.tokens }
  else row

/-- A snapshot after the erasure. -/
def cleanSnapshot (row : SnapshotRow) : SnapshotRow :=
  if IsCleaned subject row.runtimeRunId (likeContains row.snapshotJson call.resumeId) then
    { row with snapshotJson :=
      eraseTokensFromJsonText call.toErasureRuntime row.snapshotJson subject.tokens }
  else row

/-- A final summary after the erasure. -/
def cleanSummary (row : SummaryRow) : SummaryRow :=
  if IsCleaned subject row.runtimeRunId (likeContains row.summaryJson call.resumeId ||
      row.userInstruction.elim false fun text => likeContains text call.resumeId) then
    { row with
      summaryJson := eraseTokensFromJsonText call.toErasureRuntime row.summaryJson subject.tokens
      userInstruction := row.userInstruction.map (eraseTokensFromString subject.tokens) }
  else row

/-- The checkpoints. -/
def checkpointTable : DocumentTable CheckpointRow where
  get := Database.checkpoints
  modify f db := { db with checkpoints := db.checkpoints.map f }
  modify_modify f g db := by simp
  modify_id db := by simp
  modify_congr f g db h := by cases hrows : db.checkpoints <;> simp_all

/-- The snapshots. -/
def snapshotTable : DocumentTable SnapshotRow where
  get := Database.snapshots
  modify f db := { db with snapshots := db.snapshots.map f }
  modify_modify f g db := by simp
  modify_id db := by simp
  modify_congr f g db h := by cases hrows : db.snapshots <;> simp_all

/-- The final summaries. -/
def summaryTable : DocumentTable SummaryRow where
  get := Database.finalSummaries
  modify f db := { db with finalSummaries := db.finalSummaries.map f }
  modify_modify f g db := by simp
  modify_id db := by simp
  modify_congr f g db h := by cases hrows : db.finalSummaries <;> simp_all

/-- A change of the rows that changes none of them. -/
lemma DocumentTable.modify_map_eq_self {ρ : Type} (table : DocumentTable ρ) {f : ρ → ρ}
    (hf : ∀ row, f row = row) (db : Database) : table.modify (fun rows => rows.map f) db = db := by
  rw [table.modify_congr _ id
    _ fun rows _ => by rw [List.map_congr_left fun row _ => hf row]; exact List.map_id rows,
      table.modify_id]

variable {call subject} {s s' : Session} {u : Unit}

/-- What `_erase_runtime_checkpoints` does. -/
lemma Returns.of_eraseRuntimeCheckpoints
    (hunique : ((s.working.checkpoints.getD []).map CheckpointRow.checkpointId).Nodup)
    (h : Returns (call.eraseRuntimeCheckpoints subject) s u s') :
    s' = { s with working :=
      checkpointTable.modify (fun rows => rows.map (call.cleanCheckpoint subject)) s.working } := by
  unfold eraseRuntimeCheckpoints at h
  by_cases htokens : subject.tokens = []
  · rw [if_pos htokens] at h
    rw [(returns_pure.mp h).2, checkpointTable.modify_map_eq_self]
    intro row
    simp [cleanCheckpoint, IsCleaned, htokens]
  rw [if_neg htokens] at h
  rw [Returns.of_documents checkpointTable CheckpointRow.checkpointId (fun row old => { old with
    runStateJson := eraseTokensFromJsonText call.toErasureRuntime row.runStateJson subject.tokens })
      hunique
    (fun _ _ => rfl) h]
  refine congrArg
    (fun f => { s with working := checkpointTable.modify (fun rows => rows.map f) s.working })
    (funext fun row => ?_)
  unfold cleanCheckpoint IsCleaned
  by_cases hchanged : eraseTokensFromJsonText call.toErasureRuntime row.runStateJson
    subject.tokens = row.runStateJson
  · simp [hchanged]
  · simp [hchanged, htokens]

/-- What `_erase_runtime_snapshots_and_summaries` does to the snapshots. -/
lemma Returns.of_eraseRuntimeSnapshots (htokens : subject.tokens ≠ [])
    (hunique : ((s.working.snapshots.getD []).map SnapshotRow.runtimeRunId).Nodup)
    (h : Returns (call.eraseRuntimeSnapshots subject) s u s') :
    s' = { s with working :=
      snapshotTable.modify (fun rows => rows.map (call.cleanSnapshot subject)) s.working } := by
  rw [Returns.of_documents snapshotTable SnapshotRow.runtimeRunId (fun row old => { old with
    snapshotJson := eraseTokensFromJsonText call.toErasureRuntime row.snapshotJson subject.tokens })
      hunique
    (fun _ _ => rfl) h]
  refine congrArg
    (fun f => { s with working := snapshotTable.modify (fun rows => rows.map f) s.working })
    (funext fun row => ?_)
  unfold cleanSnapshot IsCleaned
  by_cases hchanged : eraseTokensFromJsonText call.toErasureRuntime row.snapshotJson
    subject.tokens = row.snapshotJson
  · simp [hchanged]
  · simp [hchanged, htokens]

/-- What `_erase_runtime_snapshots_and_summaries` does to the final summaries. -/
lemma Returns.of_eraseRuntimeSummaries (htokens : subject.tokens ≠ [])
    (hunique : ((s.working.finalSummaries.getD []).map SummaryRow.summaryId).Nodup)
    (h : Returns (call.eraseRuntimeSummaries subject) s u s') :
    s' = { s with
      working := summaryTable.modify (fun rows => rows.map (call.cleanSummary subject))
        s.working } := by
  rw [Returns.of_documents summaryTable SummaryRow.summaryId (fun row old => { old with
    summaryJson := eraseTokensFromJsonText call.toErasureRuntime row.summaryJson subject.tokens
    userInstruction := row.userInstruction.map (eraseTokensFromString subject.tokens) }) hunique
      (fun _ _ => rfl) h]
  refine congrArg
    (fun f => { s with working := summaryTable.modify (fun rows => rows.map f) s.working })
    (funext fun row => ?_)
  unfold cleanSummary IsCleaned
  by_cases hjson : eraseTokensFromJsonText call.toErasureRuntime row.summaryJson subject.tokens =
    row.summaryJson
  · by_cases hinstruction : row.userInstruction.map (eraseTokensFromString subject.tokens) =
      row.userInstruction
    · simp [hjson, hinstruction]
    · simp [hjson, hinstruction, htokens]
  · simp [hjson, htokens]

/-! ## The identities -/

variable (call) in
/-- An identity after the erasure: it is found from the resume, or from the evidence of the
resume. -/
def cleanIdentity (missingKeys : List IdentityKey) (row : IdentityRow) : IdentityRow :=
  if row.hasResume call.toErasureRuntime call.resumeId = true ∨
    row.key ∈ missingKeys then call.erasedIdentity row
  else row

/-- The statements on the identities, one after another. -/
lemma foldl_updateIdentity (keys : List IdentityKey) (db : Database) :
    keys.foldl (fun db key => call.updateIdentity key db) db =
      { db with identities := db.identities.map fun rows => rows.map fun row =>
          if row.key ∈ keys then call.erasedIdentity row else row } := by
  induction keys generalizing db with
  | nil => simp
  | cons key rest ih =>
    rw [List.foldl_cons, ih]
    unfold updateIdentity
    simp only [Option.map_map, Function.comp_def, List.map_map]
    refine congrArg (fun f : IdentityRow → IdentityRow =>
      { db with identities := db.identities.map (List.map f) }) (funext fun row => ?_)
    have hkept : (call.erasedIdentity row).key = row.key := rfl
    have hagain : call.erasedIdentity (call.erasedIdentity row) = call.erasedIdentity row := rfl
    by_cases hkey : row.key = key
    · by_cases hrest : row.key ∈ rest <;> simp [hkey, hkept, hagain]
    · simp [hkey]

/-- All the statements on the identities. -/
lemma identities_erased (keys : List IdentityKey) (db : Database) :
    keys.foldl (fun db key => call.updateIdentity key db) (call.updateIdentities db) =
      { db with identities := db.identities.map fun rows =>
        rows.map (call.cleanIdentity keys) } := by
  rw [foldl_updateIdentity]
  unfold updateIdentities
  simp only [Option.map_map, Function.comp_def, List.map_map]
  refine congrArg (fun f : IdentityRow → IdentityRow =>
    { db with identities := db.identities.map (List.map f) }) (funext fun row => ?_)
  have hkept : (call.erasedIdentity row).key = row.key := rfl
  have hagain : call.erasedIdentity (call.erasedIdentity row) = call.erasedIdentity row := rfl
  unfold cleanIdentity
  by_cases hresume : row.hasResume call.toErasureRuntime call.resumeId = true
  · simp [hresume, hkept, hagain]
  · simp [hresume]

/-- The tables once the identities and the documents are written. -/
structure IdentitiesErased (call : ErasureCall) (subject : Subject) (db db' : Database) : Prop where
  identities : db'.identities = db.identities.map fun rows =>
    rows.map (call.cleanIdentity subject.missingKeys)
  evidence : db'.evidence = db.evidence
  checkpoints : db'.checkpoints = db.checkpoints.map fun rows =>
    rows.map (call.cleanCheckpoint subject)
  snapshots : db'.snapshots = db.snapshots.map fun rows => rows.map (call.cleanSnapshot subject)
  finalSummaries : db'.finalSummaries = db.finalSummaries.map fun rows =>
    rows.map (call.cleanSummary subject)

/-- What `eraseIdentities` does. -/
lemma Returns.of_eraseIdentities (hkeyed : s.working.Keyed)
    (h : Returns (call.eraseIdentities subject) s u s') :
    IdentitiesErased call subject s.working s'.working := by
  unfold eraseIdentities at h
  obtain ⟨_, _, hidentities, h⟩ := returns_bind.mp h
  obtain ⟨_, _, hmissing, h⟩ := returns_bind.mp h
  obtain ⟨_, _, hcheckpoints, h⟩ := returns_bind.mp h
  have hmissing := Returns.of_forM Returns.of_execute hmissing
  rw [hidentities.of_execute, identities_erased] at hmissing
  subst hmissing
  have hcheckpoints := Returns.of_eraseRuntimeCheckpoints (by exact hkeyed.checkpoints) hcheckpoints
  subst hcheckpoints
  unfold eraseRuntimeSnapshotsAndSummaries at h
  by_cases htokens : subject.tokens = []
  · rw [if_pos htokens] at h
    rw [(returns_pure.mp h).2]
    have hsnapshot : ∀ row,
      call.cleanSnapshot subject row = row := fun row => by simp [cleanSnapshot, IsCleaned, htokens]
    have hsummary : ∀ row,
      call.cleanSummary subject row = row := fun row => by simp [cleanSummary, IsCleaned, htokens]
    refine ⟨rfl, rfl, rfl, ?_, ?_⟩
    · rw [funext hsnapshot]
      simp [checkpointTable]
    · rw [funext hsummary]
      simp [checkpointTable]
  · rw [if_neg htokens] at h
    obtain ⟨_, _, hsnapshots, hsummaries⟩ := returns_bind.mp h
    have hsnapshots :=
      Returns.of_eraseRuntimeSnapshots htokens (by exact hkeyed.snapshots) hsnapshots
    subst hsnapshots
    rw [Returns.of_eraseRuntimeSummaries htokens (by exact hkeyed.finalSummaries) hsummaries]
    exact ⟨rfl, rfl, rfl, rfl, rfl⟩

end Documents

/-! ## The call -/

/-- The tables of the candidates and of the documents once the erasure is committed. -/
structure Committed (call : ErasureCall) (db db' : Database) : Prop where
  identities : db'.identities = db.identities.map fun rows =>
    rows.map (call.cleanIdentity (call.subjectIn db).missingKeys)
  evidence : db'.evidence = db.evidence.map fun rows => rows.map fun row =>
    if row.resumeId = call.resumeId then call.erasedEvidence row else row
  checkpoints : db'.checkpoints = db.checkpoints.map fun rows => rows.map fun row =>
    if db.identities.isSome then call.cleanCheckpoint (call.subjectIn db) row else row
  snapshots : db'.snapshots = db.snapshots.map fun rows => rows.map fun row =>
    if db.identities.isSome then call.cleanSnapshot (call.subjectIn db) row else row
  finalSummaries : db'.finalSummaries = db.finalSummaries.map fun rows => rows.map fun row =>
    if db.identities.isSome then call.cleanSummary (call.subjectIn db) row else row

section Call

variable {call : ErasureCall}
variable {s s' : Session} {db : Database}

/-- The deletion of the stage outputs leaves the tables of the candidates and of the documents
alone. -/
lemma Returns.of_deleteRuntimeStageOutputArtifacts {subject : Subject}
    (htokens : "" ∉ subject.tokens) {moves : List (String × String)}
    (h : Returns (call.deleteRuntimeStageOutputArtifacts subject) s moves s') :
    records s'.working = records s.working := by
  unfold Returns at h
  rcases call.runOn_deleteRuntimeStageOutputArtifacts subject s with
    ⟨_, _, -, -, hrun⟩ | ⟨-, hrun⟩ | hrun <;> rw [hrun] at h
  · cases h
  · cases h
    rfl
  · have hrest := call.sameRest_deleteArtifactsFrom htokens 0 (stageOutputRows subject s.working) s
    rw [h] at hrest
    exact hrest.records

lemma tables_of_records {db' : Database} (h : records db' = records db) :
    db'.identities = db.identities ∧ db'.evidence = db.evidence ∧ db'.checkpoints = db.checkpoints ∧
      db'.snapshots = db.snapshots ∧ db'.finalSummaries = db.finalSummaries := by
  simpa [records, and_assoc] using h

variable (call) in
/-- The removal of the renamed files leaves the tables of the candidates and of the documents
alone. -/
lemma records_deleteQuarantinedArtifactPaths (moves : List (String × String)) (db : Database)
    (files : Files) :
    records (call.deleteQuarantinedArtifactPaths moves db files).1 = records db := by
  induction moves generalizing db files with
  | nil => rfl
  | cons moved rest ih =>
    unfold deleteQuarantinedArtifactPaths
    cases call.unlinkError moved.1 with
    | none => exact ih db _
    | some error => exact ih _ files

/-- What the last statement does. -/
lemma Returns.of_eraseEvidenceAndCommit {u : Unit}
    (h : Returns call.eraseEvidenceAndCommit s u s') :
    s'.working = call.updateEvidence s.working := by
  unfold eraseEvidenceAndCommit at h
  obtain ⟨_, _, hget, hrest⟩ := returns_bind.mp h
  obtain ⟨hread, hs⟩ := returns_get.mp hget
  rw [hread, hs] at hrest
  dsimp only at hrest
  cases hevidence : s.working.evidence.isSome with
  | false =>
    rw [hevidence, if_neg Bool.false_ne_true] at hrest
    have hnone : s.working.evidence = none := by simpa using hevidence
    rw [hrest.of_reach, updateEvidence, hnone, Option.map_none, ← hnone]
  | true =>
    rw [hevidence, if_pos rfl] at hrest
    obtain ⟨_, _, hupdate, hcommit⟩ := returns_bind.mp hrest
    rw [hcommit.of_reach, hupdate.of_execute]

/-- What `selectSubject` returns. -/
lemma Returns.of_selectSubject {selected : Option Subject}
    (h : Returns call.selectSubject s selected s') :
    selected = (if s.working.identities.isSome = false ∧ s.working.evidence.isSome = false then none
      else some (call.subjectIn s.working)) ∧ s' = s := by
  unfold Returns at h
  rcases reads_selectSubject call s with hok | ⟨_, _, -, -, herror⟩
  · rw [hok] at h
    cases h
    exact ⟨rfl, rfl⟩
  · rw [herror] at h
    cases h

/-- How a call that returns has come to its commit. -/
lemma Returns.of_eraseUntilArtifacts (hkeyed : s.working.Keyed)
    {found : Option (Subject × List (String × String))}
    (h : Returns call.eraseUntilArtifacts s found s') :
    (found = none ∧ s' = s ∧ s.working.identities = none ∧ s.working.evidence = none) ∨
    ∃ moves s₁, found = some (call.subjectIn s.working, moves) ∧
      ¬(s.working.identities.isSome = false ∧ s.working.evidence.isSome = false) ∧
      records s'.working = records s₁.working ∧
      (s.working.identities.isSome = true →
        IdentitiesErased call (call.subjectIn s.working) s.working s₁.working) ∧
      (s.working.identities.isSome = false → s₁ = s) := by
  unfold eraseUntilArtifacts at h
  obtain ⟨selected, s₀, hselect, hrest⟩ := returns_bind.mp h
  obtain ⟨rfl, hs₀⟩ := hselect.of_selectSubject
  rw [hs₀] at hrest
  by_cases htables : s.working.identities.isSome = false ∧ s.working.evidence.isSome = false
  · rw [if_pos htables] at hrest
    obtain ⟨hfound, hs'⟩ := returns_pure.mp hrest
    exact .inl ⟨hfound, hs', by simpa using htables.1, by simpa using htables.2⟩
  rw [if_neg htables] at hrest
  dsimp only at hrest
  obtain ⟨_, _, hget, hrest⟩ := returns_bind.mp hrest
  obtain ⟨hread, hs⟩ := returns_get.mp hget
  rw [hread, hs] at hrest
  have hafter {s₁ : Session}
    (hdelete : Returns (call.afterIdentities (call.subjectIn s.working)) s₁ found s') :
      ∃ moves, found = some (call.subjectIn s.working, moves) ∧
          records s'.working = records s₁.working := by
    obtain ⟨moves, s₂, hmoves, hreturn⟩ := returns_bind.mp hdelete
    obtain ⟨hfound, hs'⟩ := returns_pure.mp hreturn
    rw [hs']
    exact ⟨moves, hfound, hmoves.of_deleteRuntimeStageOutputArtifacts
      (call.empty_notMem_tokens s.working)⟩
  cases hidentities : s.working.identities.isSome with
  | false =>
    rw [hidentities, if_neg Bool.false_ne_true] at hrest
    obtain ⟨moves, hfound, hrecords⟩ := hafter hrest
    exact .inr ⟨moves, s, hfound, hidentities ▸ htables, hrecords, fun h => (nomatch h),
      fun _ => rfl⟩
  | true =>
    rw [hidentities, if_pos rfl] at hrest
    obtain ⟨_, s₁, herase, hdelete⟩ := returns_bind.mp hrest
    obtain ⟨moves, hfound, hrecords⟩ := hafter hdelete
    exact .inr ⟨moves, s₁, hfound, hidentities ▸ htables, hrecords,
      fun _ => herase.of_eraseIdentities hkeyed, fun h =>
      (nomatch h)⟩

/-- What a call that does not raise before its commit commits. -/
theorem committed_of_not_raised (hkeyed : db.Keyed) {files : Files}
    (h : ∀ raised, (call.eraseRuntimeControlSubject db files).ending ≠ .raised raised) :
    Committed call db (call.eraseRuntimeControlSubject db files).committed := by
  rw [eraseRuntimeControlSubject_eq] at h ⊢
  rcases hrun : runOn call.eraseUntilArtifacts ⟨db, files⟩ with ⟨raised | found, s⟩ <;>
    rw [hrun] at h
  · exact absurd rfl (h raised)
  rcases Returns.of_eraseUntilArtifacts hkeyed hrun with
    ⟨rfl, rfl, hidentities, hevidence⟩ | ⟨moves, s₁, rfl, -, hrecords, hsome, hnone⟩
  · dsimp only at hidentities hevidence ⊢
    constructor <;> simp [hidentities, hevidence]
  dsimp only at h hsome hnone ⊢
  unfold afterLoop at h ⊢
  rcases hcommit : runOn call.eraseEvidenceAndCommit s with ⟨raised | _, s₂⟩ <;> rw [hcommit] at h
  · exact absurd rfl (h raised)
  have hworking : s₂.working = call.updateEvidence s.working :=
    Returns.of_eraseEvidenceAndCommit hcommit
  have hdeleted := call.records_deleteQuarantinedArtifactPaths moves s₂.working s₂.files
  have hcommitted : ∀ db', records db' = records s₂.working → Committed call db db' := by
    intro db' hdb'
    rw [hworking] at hdb'
    obtain ⟨hidentities, hevidence, hcheckpoints, hsnapshots, hsummaries⟩ := tables_of_records hdb'
    obtain ⟨hidentities₁, hevidence₁, hcheckpoints₁, hsnapshots₁, hsummaries₁⟩ :=
      tables_of_records hrecords
    have hevidence₂ : db'.evidence = s₁.working.evidence.map fun rows => rows.map fun row =>
        if row.resumeId = call.resumeId then call.erasedEvidence row else row := by
      rw [hevidence, ← hevidence₁]
      rfl
    cases hpresent : db.identities.isSome with
    | false =>
      obtain rfl := hnone hpresent
      have hno : db.identities = none := by simpa using hpresent
      refine ⟨?_, hevidence₂, ?_, ?_, ?_⟩
      · rw [hidentities, show (call.updateEvidence s.working).identities =
          s.working.identities from rfl, hidentities₁, hno]
        rfl
      · simp [hcheckpoints, updateEvidence, hcheckpoints₁, hpresent]
      · simp [hsnapshots, updateEvidence, hsnapshots₁, hpresent]
      · simp [hsummaries, updateEvidence, hsummaries₁, hpresent]
    | true =>
      have herased := hsome hpresent
      refine ⟨?_, herased.evidence ▸ hevidence₂, ?_, ?_, ?_⟩
      · rw [hidentities, ← herased.identities, ← hidentities₁]
        rfl
      · simp only [hpresent, if_true]
        rw [hcheckpoints, ← herased.checkpoints, ← hcheckpoints₁]
        rfl
      · simp only [hpresent, if_true]
        rw [hsnapshots, ← herased.snapshots, ← hsnapshots₁]
        rfl
      · simp only [hpresent, if_true]
        rw [hsummaries, ← herased.finalSummaries, ← hsummaries₁]
        rfl
  dsimp only
  rcases hdelete : call.deleteQuarantinedArtifactPaths moves s₂.working
    s₂.files with ⟨after, left, _ | ⟨error, rest⟩⟩ <;>
    rw [hdelete] at hdeleted <;> exact hcommitted after hdeleted

/-- A call that raises before its commit leaves the rows as they were. -/
lemma committed_of_raised {files : Files} {raised : Raised}
    (h : (call.eraseRuntimeControlSubject db files).ending = .raised raised) :
    (call.eraseRuntimeControlSubject db files).committed = db := by
  rw [eraseRuntimeControlSubject_eq] at h ⊢
  rcases hrun : runOn call.eraseUntilArtifacts
    ⟨db, files⟩ with ⟨raised' | (_ | ⟨subject, moves⟩), s⟩ <;> rw [hrun] at h
  dsimp only at h ⊢
  unfold afterLoop at h ⊢
  rcases hcommit : runOn call.eraseEvidenceAndCommit s with ⟨raised' | _, s₂⟩ <;> rw [hcommit] at h
  dsimp only at h
  rcases hdelete : call.deleteQuarantinedArtifactPaths moves s₂.working
    s₂.files with ⟨after, left, _ | ⟨error, rest⟩⟩ <;>
    rw [hdelete] at h <;> cases h

end Call

end ErasureCall

end SeekTalent.PrivacyErasure
