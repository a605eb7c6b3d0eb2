import SeekTalent.RequirementDrafts.DraftHistory

/-!
# What a draft is confirmed to

The drafts of a conversation after its sheet was read and edited by any sequence of calls.  The
latest one is confirmed to a sheet that lists what it shows exactly when it is confirmable.

`edit_text` puts the new text under a key `value` of whatever the item carries, which the record of
a query term does not allow; and `move_item` takes an item to any section with the value it has. 
Such items are selected and resolved in the draft, but a confirmation raises or leaves them out.
-/

namespace SeekTalent.RequirementDrafts

open Foundation SourcePort

/-- A call that edits the drafts. -/
structure DraftEdit where
  context : CallContext
  call : ServiceCall
  edits : call ≠ .confirm

section Editing

variable (rt : RequirementRuntime)

/-- The tables after an edit that runs alone. -/
def editStep (t : DraftTables) (edit : DraftEdit) : DraftTables :=
  ((edit.call.program rt edit.context).eval DraftTables.exec t).2

/-- The tables after the sheet of a new conversation was read. -/
def readSheet (context : CallContext) (conversationId : String) (sheet : RequirementSheet) :
    DraftTables :=
  ((extractRequirements rt context conversationId sheet).eval DraftTables.exec ⟨[], [], []⟩).2

/-- A confirmation of the draft succeeds, with a sheet that lists what the draft shows. -/
def ConfirmsToWhatItShows (context : CallContext) (t : DraftTables) (draft : RequirementDraft) :
    Prop :=
  ∃ revision, ((ServiceCall.confirm.program rt context).eval DraftTables.exec t).1 =
      .ok (.approved revision) ∧
    revision.draftRevisionId = draft.draftRevisionId ∧
      Shows draft.sections revision.requirementSheet

/-- What edits keep: well-kept drafts with identifiers of their own, and nothing approved. -/
structure Unconfirmed (t : DraftTables) : Prop where
  kept : ∀ draft ∈ t.drafts, WellKept draft.sections
  unique : (t.drafts.map RequirementDraft.draftRevisionId).Nodup
  approved : t.approved = []

variable {rt}

/-- An edit of a well-kept draft is well kept. -/
lemma EditedSections.wellKept {before after : DraftSections} (h : EditedSections rt before after)
    (hbefore : WellKept before) : WellKept after := by
  cases h with
  | update operations hafter => exact hbefore.applyOperations hafter
  | amend amendmentId newIds supplement => exact hbefore.appendExtractedSupplement rt _ _ _
  | resolve amendmentId operations hafter => exact hbefore.applyReviewResolutions hafter

/-- A transaction of an edit keeps what edits keep. -/
lemma Unconfirmed.exec {t : DraftTables} (h : Unconfirmed t) {op : DraftTransaction}
    (hop : Honest rt False t op) : Unconfirmed (DraftTables.exec op t).2 := by
  cases op with
  | saveDraft draft seen =>
    obtain ⟨base, hbase, hedited, -⟩ := hop
    show Unconfirmed (t.insertDraft draft).2
    unfold DraftTables.insertDraft
    split
    · exact h
    · rename_i hnew
      have hfresh : t.draft draft.draftRevisionId = none := by
        rw [← Option.not_isSome_iff_eq_none]
        exact fun hused => hnew (by rw [hused]; rfl)
      refine ⟨fun other hother => ?_, nodup_insertDraft h.unique hfresh, h.approved⟩
      obtain hold | hsame := List.mem_append.mp hother
      · exact h.kept other hold
      · rw [List.mem_singleton.mp hsame]
        exact hedited.sections.wellKept (h.kept base hbase)
  | saveAmendment row =>
    show Unconfirmed (t.insertAmendment row).2
    unfold DraftTables.insertAmendment
    split
    · exact h
    · exact ⟨h.kept, h.unique, h.approved⟩
  | saveApproved row seen => exact absurd hop.1 id
  | _ => exact h

/-- Edits keep it. -/
lemma unconfirmed_run {t : DraftTables} (h : Unconfirmed t) (edits : List DraftEdit) :
    Unconfirmed (run (editStep rt) t edits) := by
  refine run_invariant (fun t edit ht => ?_) h edits
  have hhonest : HonestProgram rt False edit.context edit.call (edit.call.program rt edit.context)
      t :=
    honest_program rt edit.context edit.call edit.edits t
  exact hhonest.eval_keeps Grows.refl (fun _ _ hs hop => hs.exec hop) ht

/-- Reading a sheet makes a well-kept draft. -/
lemma unconfirmed_readSheet (context : CallContext) (conversationId : String)
    (sheet : RequirementSheet) : Unconfirmed (readSheet rt context conversationId sheet) := by
  have htables : readSheet rt context conversationId sheet =
      ⟨[extractedDraft rt context conversationId sheet], [], []⟩ := rfl
  rw [htables]
  refine ⟨fun draft hdraft => ?_, List.nodup_singleton _, rfl⟩
  rw [List.mem_singleton.mp hdraft]
  exact wellKept_draftFromRequirementSheet rt "extracted" sheet

/-- How a confirmation of the latest draft of a conversation without approved sheets ends. -/
lemma eval_confirm {t : DraftTables} (h : Unconfirmed t) {conversationId : String}
    {draft : RequirementDraft} (hlatest : t.latestDraft conversationId = some draft)
    (hconfirm : draft.canConfirm = true) {context : CallContext}
    (hdraft : context.draftRevisionId = draft.draftRevisionId)
    (hbase : context.baseRevisionId = draft.draftRevisionId) :
    ((ServiceCall.confirm.program rt context).eval DraftTables.exec t).1 =
      match requirementSheetFromDraft draft.sections draft.extractedSheet with
      | .error e => .error (.content e)
      | .ok sheet => .ok (.approved (approvedRevision context draft sheet)) := by
  obtain ⟨hmem, rfl⟩ := mem_of_latestDraft hlatest
  have hfound : t.draft context.draftRevisionId = some draft := by
    rw [hdraft]
    exact rowAt_of_mem h.unique hmem
  have hnew : t.approvedByKey draft.conversationId context.idempotencyKey = none := by
    rw [DraftTables.approvedByKey, h.approved]
    rfl
  have hcount : draft.unresolvedReviewItemCount = 0 := by
    simp only [RequirementDraft.canConfirm, Bool.and_eq_true, decide_eq_true_eq] at hconfirm
    exact hconfirm.1
  have hsame : ¬ draft.draftRevisionId ≠ context.baseRevisionId := not_not_intro hbase.symm
  simp only [ServiceCall.program, confirmRequirements, requireDraft, rejectStale, Program.eval,
    DraftTables.exec, hfound, hnew, hlatest, if_neg hsame, hcount, ne_eq, not_true_eq_false,
    if_false]
  cases hsheet : requirementSheetFromDraft draft.sections draft.extractedSheet with
  | error e => rfl
  | ok sheet =>
    have hinsert : (t.insertApproved (approvedRevision context draft sheet)).1 = true := by
      simp [DraftTables.insertApproved, DraftTables.approvedByKey, h.approved]
    simp only [orRaise, saveApproved, Program.eval, DraftTables.exec, hinsert, if_true]

/-- Reading a sheet and editing it by any calls, the latest draft, when it can be confirmed, is
confirmed to a sheet that lists what it shows exactly when the selected items of the hard
constraints carry a field and those of the pool an unedited query term. -/
theorem confirmsToWhatItShows_iff (rt : RequirementRuntime) (opening : CallContext)
    (conversationId : String) (sheet : RequirementSheet) (edits : List DraftEdit)
    (draft : RequirementDraft)
    (hlatest : (run (editStep rt) (readSheet rt opening conversationId sheet) edits).latestDraft
      conversationId = some draft)
    (hconfirm : draft.canConfirm = true) (context : CallContext)
    (hdraft : context.draftRevisionId = draft.draftRevisionId)
    (hbase : context.baseRevisionId = draft.draftRevisionId) :
    ConfirmsToWhatItShows rt context
        (run (editStep rt) (readSheet rt opening conversationId sheet) edits) draft ↔
      Confirmable draft.sections := by
  have hkept : Unconfirmed (run (editStep rt) (readSheet rt opening conversationId sheet) edits) :=
    unconfirmed_run (unconfirmed_readSheet opening conversationId sheet) edits
  have hsections := hkept.kept draft (mem_of_latestDraft hlatest).1
  rw [← shows_iff_confirmable hsections draft.extractedSheet, ConfirmsToWhatItShows,
    eval_confirm hkept hlatest hconfirm hdraft hbase]
  cases requirementSheetFromDraft draft.sections draft.extractedSheet with
  | error e => simp
  | ok rebuilt =>
    constructor
    · rintro ⟨revision, hrevision, -, hshows⟩
      simp only [Except.ok.injEq, ServiceResult.approved.injEq] at hrevision
      subst hrevision
      exact ⟨rebuilt, rfl, hshows⟩
    · rintro ⟨other, hother, hshows⟩
      obtain rfl : rebuilt = other := Except.ok.inj hother
      exact ⟨approvedRevision context draft rebuilt, rfl, rfl, hshows⟩

end Editing

/-! ## A query term whose text is edited -/

section Sample

/-- The digests of the sample are those of its one item. -/
def sampleRuntime : RequirementRuntime where
  casefold := id
  sha256Hexdigest := fun _ => ""
  sha1Hexdigest := fun _ => "4d0aa19e918b9ba5d7f6c24100a5ae8c9ae6a54f"

/-- The query term of the sample. -/
def sampleTerm : QueryTermCandidate where
  term := "Python"
  source := .jd
  category := .tooling
  priority := 1
  evidence := "Python services"
  firstAddedRound := 0
  active := true
  retrievalRole := .frameworkTool
  queryability := .admitted
  family := "framework.python"

/-- A sheet with one query term. -/
def sampleSheet : RequirementSheet where
  jobTitle := "Engineer"
  titleAnchorTerms := ["Engineer"]
  titleAnchorRationale := "title"
  roleSummary := "services"
  mustHaveCapabilities := []
  preferredCapabilities := []
  exclusionSignals := []
  hardConstraints := ⟨fun _ => [], none, none, none, none, none⟩
  preferences := ⟨[], [], [], [], []⟩
  initialQueryTermPool := [sampleTerm]
  scoringRationale := "services"

/-- The call that reads the sheet. -/
def openingContext : CallContext := ⟨"", "", "extract-1", "draft-1", 1⟩

/-- The call that edits the term. -/
def editingContext : CallContext := ⟨"draft-1", "draft-1", "edit-1", "draft-2", 2⟩

/-- The call that confirms the edited draft. -/
def confirmingContext : CallContext := ⟨"draft-2", "draft-2", "confirm-1", "approved-1", 3⟩

/-- `edit_text` on the term. -/
def editTerm : DraftEdit where
  context := editingContext
  call := .update [({
    op := .editText
    itemId := "reqitem_4d0aa19e918b9ba5"
    selected := none
    text := some "Golang"
    targetSection := none
    enabled := none }, "")]
  edits := by simp

/-- The item of the edited term. -/
def editedItem : RequirementDraftItem where
  itemId := "reqitem_4d0aa19e918b9ba5"
  selected := true
  enabled := true
  text := "Golang"
  value := .term sampleTerm (some "Golang")
  source := "user_edited"
  status := .resolved
  reviewItemId := none
  amendmentId := none
  sortOrder := 10
  allowedActions := ["select", "enable", "edit", "delete"]

/-- The sections of the edited draft. -/
def editedSections : DraftSections
  | .initialQueryTermPool => [editedItem]
  | _ => []

/-- The edited draft. -/
def editedDraft : RequirementDraft :=
  copyDraft editingContext
    (extractedDraft sampleRuntime openingContext "conversation-1" sampleSheet)
    editedSections sampleSheet

/-- The item as it was read. -/
def sampleItem : RequirementDraftItem :=
  { editedItem with text := "Python", value := .term sampleTerm none, source := "extracted" }

/-- The sections as they were read. -/
def sampleSections : DraftSections
  | .initialQueryTermPool => [sampleItem]
  | _ => []

/-- Reading the sheet makes the one item. -/
lemma draftFromRequirementSheet_sample :
    draftFromRequirementSheet sampleRuntime "extracted" sampleSheet = sampleSections := by
  have hitem : queryTermItems sampleRuntime "extracted" [sampleTerm] =
    [sampleItem] := by decide +kernel
  funext s
  cases s with
  | initialQueryTermPool => exact hitem
  | _ => rfl

/-- The edit makes the edited sections. -/
lemma applyOperation_sample (operation : DraftOperation) (hop : operation.op = .editText)
    (hnamed : operation.itemId = "reqitem_4d0aa19e918b9ba5")
    (htext : operation.text = some "Golang")
    (newId : String) : applyOperation sampleSections operation newId = .ok editedSections := by
  have hfound : findItem sampleSections (fun item => item.itemId = "reqitem_4d0aa19e918b9ba5") =
      .ok (.initialQueryTermPool, sampleItem) := by decide +kernel
  have hrequired : requiredText (some "Golang") = .ok "Golang" := by decide +kernel
  simp only [applyOperation, hnamed, hop, htext, hfound, hrequired, bind, Except.bind, pure,
    Except.pure]
  refine congrArg Except.ok (funext fun s => ?_)
  cases s <;> rfl

/-- The draft that was read. -/
def sampleDraft : RequirementDraft :=
  extractedDraft sampleRuntime openingContext "conversation-1" sampleSheet

/-- The drafts of the sample. -/
lemma run_sample : run (editStep sampleRuntime)
    (readSheet sampleRuntime openingContext "conversation-1" sampleSheet) [editTerm] =
      ⟨[sampleDraft, editedDraft], [], []⟩ := by
  have hread : readSheet sampleRuntime openingContext "conversation-1" sampleSheet =
      ⟨[sampleDraft], [], []⟩ := rfl
  have hfound : (⟨[sampleDraft], [], []⟩ : DraftTables).draft "draft-1" = some sampleDraft := rfl
  have hnew : (⟨[sampleDraft], [], []⟩ : DraftTables).draftByKey "conversation-1" "edit-1" = none :=
    rfl
  have hedited : applyOperations sampleDraft.sections [({
      op := .editText, itemId := "reqitem_4d0aa19e918b9ba5", selected := none, text :=
        some "Golang",
      targetSection := none, enabled := none }, "")] = .ok editedSections := by
    have hsections : sampleDraft.sections = sampleSections := draftFromRequirementSheet_sample
    rw [hsections]
    simp only [applyOperations, bind, Except.bind]
    rw [applyOperation_sample _ rfl rfl rfl]
  rw [hread, run_cons, run_nil]
  simp only [editStep, editTerm, editingContext, ServiceCall.program, updateRequirementDraft,
    requireDraft, unlessSaved, rejectStale, Program.eval, DraftTables.exec, hfound]
  have hconversation : sampleDraft.conversationId = "conversation-1" := rfl
  simp only [hconversation, hnew, hedited, orRaise]
  rfl

/-- The theorem at the sheet as it was read, which confirms, and after the edit. -/
theorem confirmsToWhatItShows_iff_sample :
    ConfirmsToWhatItShows sampleRuntime ⟨"draft-1", "draft-1", "confirm-1", "approved-1", 3⟩
        (run (editStep sampleRuntime)
          (readSheet sampleRuntime openingContext "conversation-1" sampleSheet) []) sampleDraft ∧
      (ConfirmsToWhatItShows sampleRuntime confirmingContext
          (run (editStep sampleRuntime)
            (readSheet sampleRuntime openingContext "conversation-1" sampleSheet) [editTerm])
            editedDraft ↔
        Confirmable editedDraft.sections) := by
  have hlatest : (run (editStep sampleRuntime)
      (readSheet sampleRuntime openingContext "conversation-1" sampleSheet) [editTerm]).latestDraft
        "conversation-1" = some editedDraft := by
    rw [run_sample]
    rfl
  have hsections : sampleDraft.sections = sampleSections := draftFromRequirementSheet_sample
  refine ⟨(confirmsToWhatItShows_iff sampleRuntime openingContext "conversation-1" sampleSheet []
    sampleDraft rfl ?_ _ rfl rfl).mpr ?_, confirmsToWhatItShows_iff sampleRuntime openingContext
    "conversation-1" sampleSheet [editTerm] editedDraft hlatest rfl confirmingContext rfl rfl⟩
  · rw [RequirementDraft.canConfirm, RequirementDraft.unresolvedReviewItemCount, hsections]
    rfl
  · rw [hsections]
    refine ⟨fun item hitem => absurd hitem List.not_mem_nil, fun item hitem => ⟨sampleTerm, ?_⟩⟩
    rw [List.mem_singleton.mp hitem]
    rfl

/-- A draft is shown as confirmable, but its confirmation raises: the text of its query term was
edited. -/
theorem editedTerm_raises :
    let t := run (editStep sampleRuntime)
      (readSheet sampleRuntime openingContext "conversation-1" sampleSheet) [editTerm]
    t.latestDraft "conversation-1" = some editedDraft ∧ editedDraft.canConfirm = true ∧
      ((ServiceCall.confirm.program sampleRuntime confirmingContext).eval DraftTables.exec t).1 =
        .error (.content .termInvalid) ∧
      ¬ ConfirmsToWhatItShows sampleRuntime confirmingContext t editedDraft := by
  intro t
  have htables : t = ⟨[sampleDraft, editedDraft], [], []⟩ := run_sample
  have hraises : ((ServiceCall.confirm.program sampleRuntime confirmingContext).eval
    DraftTables.exec
      ⟨[sampleDraft, editedDraft], [], []⟩).1 = .error (.content .termInvalid) := rfl
  rw [htables]
  refine ⟨rfl, rfl, hraises, ?_⟩
  rintro ⟨revision, hrevision, -⟩
  rw [hraises] at hrevision
  cases hrevision

end Sample

end SeekTalent.RequirementDrafts
