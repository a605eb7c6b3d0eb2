import SeekTalent.RequirementDrafts.DraftContents
import SeekTalent.RequirementDrafts.DraftService

/-!
# What the calls save

Rows are only added (`Grows`), so what a call has read of a draft stays true while others go on. 
Hence every draft that is saved was edited from a draft in the table, and every revision that is
approved is the sheet of one (`Honest`), whatever the interleaving.
-/

namespace SeekTalent.RequirementDrafts

open Foundation SourcePort

/-! ## Tables that grow -/

/-- Rows were added only. -/
structure Grows (t after : DraftTables) : Prop where
  drafts : t.drafts <+: after.drafts
  amendments : t.amendments <+: after.amendments
  approved : t.approved <+: after.approved

lemma Grows.refl (t : DraftTables) : Grows t t :=
  ⟨List.prefix_rfl, List.prefix_rfl, List.prefix_rfl⟩

lemma Grows.trans {a b c : DraftTables} (hab : Grows a b) (hbc : Grows b c) : Grows a c :=
  ⟨hab.drafts.trans hbc.drafts, hab.amendments.trans hbc.amendments,
    hab.approved.trans hbc.approved⟩

/-- An insertion of a draft adds rows only. -/
lemma grows_insertDraft (t : DraftTables) (draft : RequirementDraft) :
    Grows t (t.insertDraft draft).2 := by
  unfold DraftTables.insertDraft
  split
  · exact .refl t
  · exact ⟨List.prefix_append _ _, List.prefix_rfl, List.prefix_rfl⟩

/-- An insertion of an amendment adds rows only. -/
lemma grows_insertAmendment (t : DraftTables) (row : RequirementAmendment) :
    Grows t (t.insertAmendment row).2 := by
  unfold DraftTables.insertAmendment
  split
  · exact .refl t
  · exact ⟨List.prefix_rfl, List.prefix_append _ _, List.prefix_rfl⟩

/-- An insertion of an approved sheet adds rows only. -/
lemma grows_insertApproved (t : DraftTables) (revision : ApprovedRequirementRevision) :
    Grows t (t.insertApproved revision).2 := by
  unfold DraftTables.insertApproved
  split
  · exact .refl t
  · exact ⟨List.prefix_rfl, List.prefix_rfl, List.prefix_append _ _⟩

/-- A transaction adds rows only. -/
lemma grows_exec (op : DraftTransaction) (t : DraftTables) : Grows t (DraftTables.exec op t).2 := by
  cases op with
  | saveDraft draft seen => exact grows_insertDraft t draft
  | saveAmendment row => exact grows_insertAmendment t row
  | saveApproved row seen => exact grows_insertApproved t row
  | _ => exact .refl t

/-- The latest of some drafts is one of them. -/
lemma mem_of_latestOf {drafts : List RequirementDraft} {latest : RequirementDraft}
    (h : latestOf drafts = some latest) : latest ∈ drafts := by
  induction drafts using List.reverseRecOn generalizing latest with
  | nil => cases h
  | append_singleton drafts draft ih =>
    have hconcat : latestOf (drafts ++ [draft]) = some (laterDraft (latestOf drafts) draft) := by
      simp [latestOf]
    rw [hconcat] at h
    obtain rfl := Option.some.inj h
    unfold laterDraft
    cases hheld : latestOf drafts with
    | none => simp
    | some other =>
      dsimp only
      split
      · simp
      · exact List.mem_append_left _ (ih hheld)

/-- The latest draft of a conversation. -/
lemma mem_of_latestDraft {t : DraftTables} {conversationId : String} {latest : RequirementDraft}
    (h : t.latestDraft conversationId = some latest) :
    latest ∈ t.drafts ∧ latest.conversationId = conversationId := by
  have hmem := mem_of_latestOf h
  rw [DraftTables.draftsOf, List.mem_filter] at hmem
  exact ⟨hmem.1, by simpa using hmem.2⟩

/-- A conversation with a draft has a latest one. -/
lemma exists_latestDraft {t : DraftTables} {draft : RequirementDraft} (h : draft ∈ t.drafts) :
    ∃ latest, t.latestDraft draft.conversationId = some latest := by
  have hmem : draft ∈ t.draftsOf draft.conversationId := by
    rw [DraftTables.draftsOf, List.mem_filter]
    exact ⟨h, by simp⟩
  unfold DraftTables.latestDraft
  generalize t.draftsOf draft.conversationId = drafts at hmem
  cases drafts using List.reverseRecOn with
  | nil => cases hmem
  | append_singleton drafts last => exact ⟨laterDraft (latestOf drafts) last, by simp [latestOf]⟩

/-! ## Rows that are found again -/

section Found

variable {t after : DraftTables}
variable {row : RequirementAmendment}
variable {key conversationId : String} {revision : ApprovedRequirementRevision}

/-- A draft that is found is found later. -/
lemma Grows.draft (h : Grows t after) {draftRevisionId : String} {draft : RequirementDraft}
    (hfound : t.draft draftRevisionId = some draft) : after.draft draftRevisionId = some draft := by
  obtain ⟨more, hmore⟩ := h.drafts
  rw [DraftTables.draft, ← hmore]
  exact rowAt_append hfound more

lemma Grows.draftByKey (h : Grows t after) {draft : RequirementDraft}
    (hfound : t.draftByKey conversationId key = some draft) :
    after.draftByKey conversationId key = some draft := by
  obtain ⟨more, hmore⟩ := h.drafts
  rw [DraftTables.draftByKey, ← hmore]
  exact rowAt_append hfound more

lemma Grows.amendmentByKey (h : Grows t after)
    (hfound : t.amendmentByKey conversationId key = some row) :
    after.amendmentByKey conversationId key = some row := by
  obtain ⟨more, hmore⟩ := h.amendments
  rw [DraftTables.amendmentByKey, ← hmore]
  exact rowAt_append hfound more

lemma Grows.approvedByKey (h : Grows t after)
    (hfound : t.approvedByKey conversationId key = some revision) :
    after.approvedByKey conversationId key = some revision := by
  obtain ⟨more, hmore⟩ := h.approved
  rw [DraftTables.approvedByKey, ← hmore]
  exact rowAt_append hfound more

/-- What an insertion that met its constraints leaves. -/
lemma insertDraft_inserted {draft : RequirementDraft} (h : (t.insertDraft draft).1 = true) :
    t.draft draft.draftRevisionId = none ∧
      t.draftByKey draft.conversationId draft.idempotencyKey = none ∧
      (t.insertDraft draft).2 = { t with drafts := t.drafts ++ [draft] } := by
  unfold DraftTables.insertDraft at h ⊢
  split at h
  · cases h
  · rename_i hnew
    rw [if_neg hnew]
    simp only [Bool.or_eq_true, Option.isSome_iff_ne_none, ne_eq, not_or, not_not] at hnew
    exact ⟨hnew.1, hnew.2, rfl⟩

lemma insertDraft_refused {draft : RequirementDraft} (h : (t.insertDraft draft).1 ≠ true) :
    (t.insertDraft draft).2 = t := by
  unfold DraftTables.insertDraft at h ⊢
  split
  · rfl
  · rename_i hnew
    rw [if_neg hnew] at h
    exact absurd rfl h

lemma insertAmendment_inserted (h : (t.insertAmendment row).1 = true) :
    t.amendmentByKey row.conversationId row.idempotencyKey = none ∧
      (t.insertAmendment row).2 = { t with amendments := t.amendments ++ [row] } := by
  unfold DraftTables.insertAmendment at h ⊢
  split at h
  · cases h
  · rename_i hnew
    rw [if_neg hnew]
    simp only [Bool.or_eq_true, Option.isSome_iff_ne_none, ne_eq, not_or, not_not] at hnew
    exact ⟨hnew.2, rfl⟩

lemma insertAmendment_refused (h : (t.insertAmendment row).1 ≠ true) :
    (t.insertAmendment row).2 = t := by
  unfold DraftTables.insertAmendment at h ⊢
  split
  · rfl
  · rename_i hnew
    rw [if_neg hnew] at h
    exact absurd rfl h

lemma insertApproved_inserted (h : (t.insertApproved revision).1 = true) :
    t.approvedByKey revision.conversationId revision.idempotencyKey = none ∧
      (t.insertApproved revision).2 = { t with approved := t.approved ++ [revision] } := by
  unfold DraftTables.insertApproved at h ⊢
  split at h
  · cases h
  · rename_i hnew
    rw [if_neg hnew]
    simp only [Bool.or_eq_true, Option.isSome_iff_ne_none, ne_eq, not_or, not_not] at hnew
    exact ⟨hnew.2, rfl⟩

/-- An inserted draft is found under its identifier and under its key. -/
lemma found_insertDraft {draft : RequirementDraft} (h : (t.insertDraft draft).1 = true) :
    (t.insertDraft draft).2.draft draft.draftRevisionId = some draft ∧
      (t.insertDraft draft).2.draftByKey draft.conversationId draft.idempotencyKey =
        some draft := by
  obtain ⟨hid, hkey, htables⟩ := insertDraft_inserted h
  rw [htables]
  constructor
  · have hconcat := rowAt_concat (k := draft.draftRevisionId) hid
    rwa [if_pos rfl] at hconcat
  · have hconcat := rowAt_concat (k := (draft.conversationId, draft.idempotencyKey)) hkey
    rwa [if_pos rfl] at hconcat

/-- An inserted amendment is found under its key. -/
lemma found_insertAmendment (h : (t.insertAmendment row).1 = true) :
    (t.insertAmendment row).2.amendmentByKey row.conversationId row.idempotencyKey = some row := by
  obtain ⟨hkey, htables⟩ := insertAmendment_inserted h
  rw [htables]
  have hconcat := rowAt_concat (k := (row.conversationId, row.idempotencyKey)) hkey
  rwa [if_pos rfl] at hconcat

/-- An inserted revision is found under its key. -/
lemma found_insertApproved (h : (t.insertApproved revision).1 = true) :
    (t.insertApproved revision).2.approvedByKey revision.conversationId revision.idempotencyKey =
      some revision := by
  obtain ⟨hkey, htables⟩ := insertApproved_inserted h
  rw [htables]
  have hconcat := rowAt_concat (k := (revision.conversationId, revision.idempotencyKey)) hkey
  rwa [if_pos rfl] at hconcat

/-- A draft with a new identifier keeps identifiers unique. -/
lemma nodup_insertDraft {draft : RequirementDraft}
    (hunique : (t.drafts.map RequirementDraft.draftRevisionId).Nodup)
    (hnew : t.draft draft.draftRevisionId = none) :
    ((t.drafts ++ [draft]).map RequirementDraft.draftRevisionId).Nodup := by
  have hfresh : draft.draftRevisionId ∉ t.drafts.map RequirementDraft.draftRevisionId := by
    intro hmem
    obtain ⟨stored, hstored, hsame⟩ := List.mem_map.mp hmem
    exact rowAt_eq_none.mp hnew stored hstored hsame
  have hconcat : (t.drafts ++ [draft]).map RequirementDraft.draftRevisionId =
      (t.drafts.map RequirementDraft.draftRevisionId).concat draft.draftRevisionId := by simp
  rw [hconcat]
  exact List.Nodup.concat hfresh hunique

end Found

/-! ## What a call saves -/

section Calls

variable (rt : RequirementRuntime)
variable {context : CallContext} {call : ServiceCall} {t : DraftTables} {base : RequirementDraft}
variable {after : DraftTables} {check : StalenessCheck}

/-- What the operations of a call make of the sections of a draft. -/
inductive EditedSections (before : DraftSections) : DraftSections → Prop
  | update {after : DraftSections} (operations : List (DraftOperation × String))
      (hafter : applyOperations before operations = .ok after) : EditedSections before after
  | amend (amendmentId : String) (newIds : SectionId → Nat → String)
      (supplement : RequirementSheet) :
      EditedSections before (appendExtractedSupplement rt amendmentId newIds supplement before)
  | resolve {after : DraftSections} (amendmentId : String)
      (operations : List (ReviewResolutionOperation × String))
      (hafter : applyReviewResolutions amendmentId before operations = .ok after) :
      EditedSections before after

/-- The draft was computed from the other. -/
structure EditedFrom (base draft : RequirementDraft) : Prop where
  copied : draft.baseRevisionId = some base.draftRevisionId
  conversation : draft.conversationId = base.conversationId
  ready : draft.status = .draftReady
  sections : EditedSections rt base.sections draft.sections

/-- The revision is that of the draft. -/
structure ApprovedFrom (draft : RequirementDraft) (revision : ApprovedRequirementRevision) :
    Prop where
  confirmed : revision.draftRevisionId = draft.draftRevisionId
  conversation : revision.conversationId = draft.conversationId
  sheet : requirementSheetFromDraft draft.sections draft.extractedSheet =
    .ok revision.requirementSheet

/-- A staleness check that a call passed: when the draft that the call had read was in the table
already, the latest one was the revision that the call names as its base. -/
def Checked (t : DraftTables) (base : RequirementDraft) (check : StalenessCheck) : Prop :=
  ∃ before latest, before <+: t.draftsOf base.conversationId ∧ base ∈ before ∧
    latestOf before = some latest ∧ check.seen = some latest ∧
    latest.draftRevisionId = check.baseRevisionId

/-- What is known of a transaction of a call: it saves an edit of a draft in the table, or the sheet
of one, after a staleness check; `confirms` says whether calls confirm. -/
def Honest (confirms : Prop) (t : DraftTables) : DraftTransaction → Prop
  | .saveDraft draft check => ∃ base ∈ t.drafts, EditedFrom rt base draft ∧ Checked t base check
  | .saveApproved revision check => confirms ∧ ∃ draft ∈ t.drafts, ApprovedFrom draft revision ∧
      Checked t draft check
  | _ => True

/-- A call that returned this finds it when it is repeated. -/
def Recalled (context : CallContext) (call : ServiceCall) (t : DraftTables) :
    Except ServiceError ServiceResult → Prop
  | .error _ => True
  | .ok (.draft draft) => ∃ base, t.draft context.draftRevisionId = some base ∧
    match call with
    | .update _ | .resolve _ _ =>
      t.draftByKey base.conversationId context.idempotencyKey = some draft
    | .amend _ _ _ _ _ =>
      ∃ row, t.amendmentByKey base.conversationId context.idempotencyKey = some row ∧
      t.draft row.resultDraftRevisionId = some draft
    | .confirm => False
  | .ok (.approved revision) => ∃ base, t.draft context.draftRevisionId = some base ∧
    call = .confirm ∧ t.approvedByKey base.conversationId context.idempotencyKey = some revision

/-- What is found is found later. -/
lemma Recalled.grow (result : Except ServiceError ServiceResult) (hgrows : Grows t after)
    (h : Recalled context call t result) : Recalled context call after result := by
  rcases result with e | draft | revision
  · trivial
  · obtain ⟨base, hbase, hsaved⟩ := h
    refine ⟨base, hgrows.draft hbase, ?_⟩
    cases call with
    | update operations => exact hgrows.draftByKey hsaved
    | resolve amendmentId operations => exact hgrows.draftByKey hsaved
    | amend text targetSectionHint extracted amendmentId newIds =>
      obtain ⟨row, hrow, hdraft⟩ := hsaved
      exact ⟨row, hgrows.amendmentByKey hrow, hgrows.draft hdraft⟩
    | confirm => exact hsaved
  · obtain ⟨base, hbase, hconfirm, hsaved⟩ := h
    exact ⟨base, hgrows.draft hbase, hconfirm, hgrows.approvedByKey hsaved⟩

variable {rt} {confirms : Prop} {context : CallContext} {call : ServiceCall} {t : DraftTables}

/-- The programs whose transactions are honest and whose results are recalled. -/
abbrev HonestProgram (rt : RequirementRuntime) (confirms : Prop) (context : CallContext)
    (call : ServiceCall) (program : ServiceProgram) (t : DraftTables) : Prop :=
  program.Honours DraftTables.exec Grows (Honest rt confirms) (Recalled context call) t

/-- An honest program stays one. -/
lemma HonestProgram.grow {program : ServiceProgram}
    (h : HonestProgram rt confirms context call program t) (hgrows : Grows t after) :
    HonestProgram rt confirms context call program after :=
  Program.Honours.grow Grows.trans (fun result => Recalled.grow result) h hgrows

lemma honest_requireDraft {draftRevisionId : String} {next : RequirementDraft → ServiceProgram}
    (hnext : ∀ after, Grows t after → ∀ draft, after.draft draftRevisionId = some draft →
      HonestProgram rt confirms context call (next draft) after) :
    HonestProgram rt confirms context call (requireDraft draftRevisionId next) t := by
  intro after hgrows
  refine ⟨trivial, ?_⟩
  dsimp only [DraftTables.exec]
  cases hfound : after.draft draftRevisionId with
  | none => trivial
  | some draft => exact hnext after hgrows draft hfound

lemma honest_unlessSaved {next : ServiceProgram}
    (hsaved : ∀ after, Grows t after → ∀ draft,
      after.draftByKey base.conversationId context.idempotencyKey = some draft →
        Recalled context call after (.ok (.draft draft)))
    (hnext : HonestProgram rt confirms context call next t) :
    HonestProgram rt confirms context call (unlessSaved context base next) t := by
  intro after hgrows
  refine ⟨trivial, ?_⟩
  dsimp only [DraftTables.exec]
  cases hfound : after.draftByKey base.conversationId context.idempotencyKey with
  | some draft => exact hsaved after hgrows draft hfound
  | none => exact hnext.grow hgrows

lemma honest_rejectStale {next : StalenessCheck → ServiceProgram} (hbase : base ∈ t.drafts)
    (hnext : ∀ after, Grows t after → ∀ check, Checked after base check →
      HonestProgram rt confirms context call (next check) after) :
    HonestProgram rt confirms context call (rejectStale context base next) t := by
  intro after hgrows
  refine ⟨trivial, ?_⟩
  have hmem := hgrows.drafts.subset hbase
  obtain ⟨latest, hlatest⟩ := exists_latestDraft hmem
  dsimp only [DraftTables.exec]
  rw [hlatest]
  dsimp only
  split
  · trivial
  · rename_i hnamed
    refine hnext after hgrows _ ⟨_, latest, List.prefix_rfl, ?_, hlatest, rfl, not_not.mp hnamed⟩
    rw [DraftTables.draftsOf, List.mem_filter]
    exact ⟨hmem, by simp⟩

lemma honest_orRaise {α : Type} {result : Except DraftError α} {next : α → ServiceProgram}
    (hnext : ∀ value, result = .ok value → HonestProgram rt confirms context call (next value) t) :
    HonestProgram rt confirms context call (orRaise result next) t := by
  unfold orRaise
  cases hresult : result with
  | error e => trivial
  | ok value => exact hnext value hresult

/-- A check stays one that was passed. -/
lemma Checked.grow
    (h : Checked t base check) (hgrows : Grows t after) : Checked after base check := by
  obtain ⟨before, latest, hbefore, hrest⟩ := h
  exact ⟨before, latest, hbefore.trans (hgrows.drafts.filter _), hrest⟩

lemma honest_saveDraft {draft : RequirementDraft}
    (hbase : base ∈ t.drafts) (hedited : EditedFrom rt base draft) (hcheck : Checked t base check)
    (hsaved : ∀ after, Grows t after → (after.insertDraft draft).1 = true →
      Recalled context call (after.insertDraft draft).2 (.ok (.draft draft))) :
    HonestProgram rt confirms context call (saveDraft draft check) t := by
  intro after hgrows
  refine ⟨⟨base, hgrows.drafts.subset hbase, hedited, hcheck.grow hgrows⟩, ?_⟩
  show HonestProgram rt confirms context call (if (after.insertDraft draft).1 = true then
    .done (.ok (.draft draft)) else .done (.error .integrityError)) (after.insertDraft draft).2
  split
  · exact hsaved after hgrows ‹_›
  · trivial

lemma honest_saveApproved {draft : RequirementDraft} {revision : ApprovedRequirementRevision}
    (hcheck : Checked t draft check) (hconfirms : confirms)
    (hcall : call = .confirm) (hdraft : t.draft context.draftRevisionId = some draft)
    (hkey : revision.idempotencyKey = context.idempotencyKey)
    (happroved : ApprovedFrom draft revision) :
    HonestProgram rt confirms context call (saveApproved revision check) t := by
  intro after hgrows
  refine ⟨⟨hconfirms, draft, hgrows.drafts.subset (mem_of_rowAt hdraft).1, happroved,
    hcheck.grow hgrows⟩, ?_⟩
  have hbase := (hgrows.trans (grows_insertApproved after revision)).draft hdraft
  show HonestProgram rt confirms context call (if (after.insertApproved revision).1 = true then
    .done (.ok (.approved revision)) else _) (after.insertApproved revision).2
  split
  · rename_i hinserted
    refine ⟨draft, hbase, hcall, ?_⟩
    rw [← happroved.conversation, ← hkey]
    exact found_insertApproved hinserted
  · intro later hlater
    refine ⟨trivial, ?_⟩
    dsimp only [DraftTables.exec]
    cases hfound : later.approvedByKey revision.conversationId revision.idempotencyKey with
    | none => trivial
    | some existing =>
      dsimp only
      split
      · trivial
      · refine ⟨draft, hlater.draft hbase, hcall, ?_⟩
        rw [← happroved.conversation, ← hkey]
        exact hfound

/-- The copy of a draft was computed from it. -/
lemma editedFrom_copyDraft {sections : DraftSections}
    (extracted : RequirementSheet) (hsections : EditedSections rt base.sections sections) :
    EditedFrom rt base (copyDraft context base sections extracted) :=
  ⟨rfl, rfl, rfl, hsections⟩

/-- The transactions of every call are honest. -/
theorem honest_program (rt : RequirementRuntime) (context : CallContext) (call : ServiceCall)
    (hconfirms : call = .confirm → confirms) (t : DraftTables) :
    HonestProgram rt confirms context call (call.program rt context) t := by
  cases call with
  | update operations =>
    apply honest_requireDraft
    intro t _ base hbase
    apply honest_unlessSaved (fun after hgrows draft hsaved => ⟨base, hgrows.draft hbase, hsaved⟩)
    apply honest_rejectStale (mem_of_rowAt hbase).1
    intro t hgrown check hcheck
    have hbase := hgrown.draft hbase
    apply honest_orRaise
    intro sections hsections
    refine honest_saveDraft (mem_of_rowAt hbase).1
      (editedFrom_copyDraft _ (.update operations hsections))
      hcheck (fun after hgrows hinserted => ?_)
    exact ⟨base, (hgrows.trans (grows_insertDraft after _)).draft hbase,
      (found_insertDraft hinserted).2⟩
  | amend text targetSectionHint extracted amendmentId newIds =>
    apply honest_requireDraft
    intro t _ base hbase after hgrows
    refine ⟨trivial, ?_⟩
    dsimp only [DraftTables.exec]
    cases hfound : after.amendmentByKey base.conversationId context.idempotencyKey with
    | some amendment =>
      apply honest_requireDraft
      intro later hlater draft hdraft
      exact ⟨base, (hgrows.trans hlater).draft hbase, amendment, hlater.amendmentByKey hfound,
        hdraft⟩
    | none =>
      apply honest_rejectStale (hgrows.drafts.subset (mem_of_rowAt hbase).1)
      intro checked hchecked check hcheck
      apply honest_orRaise
      intro baseSheet _ later hlater
      refine ⟨trivial, ?_⟩
      have hgrown := (hgrows.trans hchecked).trans hlater
      let row : RequirementAmendment := {
        amendmentId := amendmentId
        conversationId := base.conversationId
        baseDraftRevisionId := base.draftRevisionId
        resultDraftRevisionId := context.newRevisionId
        inputText := text
        targetSectionHint := targetSectionHint
        idempotencyKey := context.idempotencyKey
        createdAt := context.now }
      show HonestProgram rt confirms context _ (if (later.insertAmendment row).1 = true then
        saveDraft (amendedDraft rt context base baseSheet extracted amendmentId newIds) check
        else .done (.error .integrityError)) (later.insertAmendment row).2
      have hbase' := (hgrown.trans (grows_insertAmendment later row)).draft hbase
      split
      · rename_i hinserted
        refine honest_saveDraft (mem_of_rowAt hbase').1
          (editedFrom_copyDraft _ (.amend amendmentId newIds _))
          (hcheck.grow (hlater.trans (grows_insertAmendment later row)))
          (fun last hlast hdraft => ?_)
        have hend := hlast.trans (grows_insertDraft last
          (amendedDraft rt context base baseSheet extracted amendmentId newIds))
        exact ⟨base, hend.draft hbase', row, hend.amendmentByKey (found_insertAmendment hinserted),
          (found_insertDraft hdraft).1⟩
      · trivial
  | resolve amendmentId operations =>
    apply honest_requireDraft
    intro t _ base hbase
    apply honest_unlessSaved (fun after hgrows draft hsaved => ⟨base, hgrows.draft hbase, hsaved⟩)
    apply honest_rejectStale (mem_of_rowAt hbase).1
    intro checked hchecked check hcheck after hlater
    have hgrows := hchecked.trans hlater
    refine ⟨trivial, ?_⟩
    dsimp only
    split
    · trivial
    · apply honest_orRaise
      intro sections hsections
      refine honest_saveDraft (hgrows.drafts.subset (mem_of_rowAt hbase).1)
        (editedFrom_copyDraft _ (.resolve amendmentId operations hsections)) (hcheck.grow hlater)
        (fun later hlater hinserted => ?_)
      exact ⟨base, ((hgrows.trans hlater).trans (grows_insertDraft later _)).draft hbase,
        (found_insertDraft hinserted).2⟩
  | confirm =>
    apply honest_requireDraft
    intro t _ draft hdraft after hgrows
    refine ⟨trivial, ?_⟩
    dsimp only [DraftTables.exec]
    cases hfound : after.approvedByKey draft.conversationId context.idempotencyKey with
    | some existing => exact ⟨draft, hgrows.draft hdraft, rfl, hfound⟩
    | none =>
      apply honest_rejectStale (hgrows.drafts.subset (mem_of_rowAt hdraft).1)
      intro checked hchecked check hcheck
      split
      · trivial
      · apply honest_orRaise
        intro sheet hsheet
        exact honest_saveApproved hcheck (hconfirms rfl) rfl ((hgrows.trans hchecked).draft hdraft)
          rfl ⟨rfl, rfl, hsheet⟩

end Calls

end SeekTalent.RequirementDrafts
