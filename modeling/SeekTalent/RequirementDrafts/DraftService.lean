import SeekTalent.Foundation.Programs
import SeekTalent.Foundation.Tables
import SeekTalent.RequirementDrafts.RequirementDraft

/-!
# The draft service

The calls of `RuntimeControlService` on requirement drafts (`seektalent_runtime_control/service.py`)
as programs over the transactions of the store (`store.py`).  Every query and every insertion is a
transaction of its own, so the transactions of other calls may come between any two of a call.  Rows
are only ever added, so the sheet of a draft, which the code queries once more, is read with its
row.

What a call draws from outside (identifiers, the time, the sheet that the executor reads from a
text) is part of the call.
-/

namespace SeekTalent.RequirementDrafts

open Foundation SourcePort

/-- `status` of a draft. -/
inductive DraftStatus where
  | draftReady | needsReview
  deriving DecidableEq

/-- A row of `runtime_requirement_drafts`. -/
structure RequirementDraft where
  draftRevisionId : String
  conversationId : String
  baseRevisionId : Option String
  status : DraftStatus
  sections : DraftSections
  extractedSheet : RequirementSheet
  idempotencyKey : String
  createdAt : Nat

namespace RequirementDraft

/-- `unresolved_review_item_count`. -/
def unresolvedReviewItemCount (draft : RequirementDraft) : Nat :=
  (SectionId.order.flatMap draft.sections).countP (fun item => item.status = .needsReview)

/-- `can_confirm`. -/
def canConfirm (draft : RequirementDraft) : Bool :=
  draft.unresolvedReviewItemCount = 0 && draft.status = .draftReady

end RequirementDraft

/-- A row of `runtime_requirement_amendments` of a draft. -/
structure RequirementAmendment where
  amendmentId : String
  conversationId : String
  baseDraftRevisionId : String
  resultDraftRevisionId : String
  inputText : String
  targetSectionHint : Option String
  idempotencyKey : String
  createdAt : Nat

/-- A row of `runtime_approved_requirements`. -/
structure ApprovedRequirementRevision where
  approvedRequirementRevisionId : String
  draftRevisionId : String
  conversationId : String
  requirementSheet : RequirementSheet
  selectedItemIds : List String
  deselectedItemIds : List String
  idempotencyKey : String
  createdAt : Nat

/-- The tables, in the order of insertion. -/
structure DraftTables where
  drafts : List RequirementDraft
  amendments : List RequirementAmendment
  approved : List ApprovedRequirementRevision

/-! ## Transactions -/

/-- The later of two drafts in the order of `created_at` and of insertion. -/
def laterDraft (held : Option RequirementDraft) (draft : RequirementDraft) : RequirementDraft :=
  match held with
  | none => draft
  | some other => if other.createdAt ≤ draft.createdAt then draft else other

/-- `get_latest_requirement_draft` over the drafts of a conversation. -/
def latestOf (drafts : List RequirementDraft) : Option RequirementDraft :=
  drafts.foldl (fun held draft => some (laterDraft held draft)) none

namespace DraftTables

variable (t : DraftTables)

/-- The drafts of a conversation. -/
def draftsOf (conversationId : String) : List RequirementDraft :=
  t.drafts.filter (fun draft => draft.conversationId = conversationId)

/-- `get_latest_requirement_draft`. -/
def latestDraft (conversationId : String) : Option RequirementDraft :=
  latestOf (t.draftsOf conversationId)

/-- `get_requirement_draft`. -/
def draft (draftRevisionId : String) : Option RequirementDraft :=
  rowAt RequirementDraft.draftRevisionId t.drafts draftRevisionId

/-- `get_requirement_draft_by_idempotency`. -/
def draftByKey (conversationId key : String) : Option RequirementDraft :=
  rowAt (fun draft => (draft.conversationId, draft.idempotencyKey)) t.drafts (conversationId, key)

/-- `get_requirement_amendment_by_idempotency`. -/
def amendmentByKey (conversationId key : String) : Option RequirementAmendment :=
  rowAt (fun row => (row.conversationId, row.idempotencyKey)) t.amendments (conversationId, key)

/-- `get_requirement_amendment`. -/
def amendment (amendmentId : String) : Option RequirementAmendment :=
  rowAt RequirementAmendment.amendmentId t.amendments amendmentId

/-- `get_approved_requirement_by_idempotency`. -/
def approvedByKey (conversationId key : String) : Option ApprovedRequirementRevision :=
  rowAt (fun row => (row.conversationId, row.idempotencyKey)) t.approved (conversationId, key)

end DraftTables

/-- A staleness check: the revision that the call names as its base, and the draft that was the
latest. -/
structure StalenessCheck where
  baseRevisionId : String
  seen : Option RequirementDraft

/-- The transactions of the store.  With an insertion stands the staleness check of its call, which
the store does not look at. -/
inductive DraftTransaction where
  | getDraft (draftRevisionId : String)
  | draftByKey (conversationId key : String)
  | latestDraft (conversationId : String)
  | amendmentByKey (conversationId key : String)
  | getAmendment (amendmentId : String)
  | approvedByKey (conversationId key : String)
  | saveDraft (draft : RequirementDraft) (check : StalenessCheck)
  | saveAmendment (amendment : RequirementAmendment)
  | saveApproved (approved : ApprovedRequirementRevision) (check : StalenessCheck)

/-- What a transaction answers; an insertion answers whether it met its constraints. -/
def DraftAnswer : DraftTransaction → Type
  | .getDraft _ | .draftByKey _ _ | .latestDraft _ => Option RequirementDraft
  | .amendmentByKey _ _ | .getAmendment _ => Option RequirementAmendment
  | .approvedByKey _ _ => Option ApprovedRequirementRevision
  | .saveDraft _ _ | .saveAmendment _ | .saveApproved _ _ => Bool

/-- `INSERT INTO runtime_requirement_drafts`. -/
def DraftTables.insertDraft (t : DraftTables) (draft : RequirementDraft) : Bool × DraftTables :=
  if (t.draft draft.draftRevisionId).isSome ||
    (t.draftByKey draft.conversationId draft.idempotencyKey).isSome then (false, t)
  else (true, { t with drafts := t.drafts ++ [draft] })

/-- `INSERT INTO runtime_requirement_amendments`. -/
def DraftTables.insertAmendment (t : DraftTables) (row : RequirementAmendment) :
    Bool × DraftTables :=
  if (t.amendment row.amendmentId).isSome ||
    (t.amendmentByKey row.conversationId row.idempotencyKey).isSome then (false, t)
  else (true, { t with amendments := t.amendments ++ [row] })

/-- `INSERT INTO runtime_approved_requirements`. -/
def DraftTables.insertApproved (t : DraftTables) (row : ApprovedRequirementRevision) :
    Bool × DraftTables :=
  if t.approved.any
    (fun held => held.approvedRequirementRevisionId = row.approvedRequirementRevisionId) ||
    (t.approvedByKey row.conversationId row.idempotencyKey).isSome then (false, t)
  else (true, { t with approved := t.approved ++ [row] })

/-- One transaction. -/
def DraftTables.exec : (op : DraftTransaction) → DraftTables → DraftAnswer op × DraftTables
  | .getDraft id, t => (t.draft id, t)
  | .draftByKey conversationId key, t => (t.draftByKey conversationId key, t)
  | .latestDraft conversationId, t => (t.latestDraft conversationId, t)
  | .amendmentByKey conversationId key, t => (t.amendmentByKey conversationId key, t)
  | .getAmendment id, t => (t.amendment id, t)
  | .approvedByKey conversationId key, t => (t.approvedByKey conversationId key, t)
  | .saveDraft draft _, t => t.insertDraft draft
  | .saveAmendment row, t => t.insertAmendment row
  | .saveApproved row _, t => t.insertApproved row

/-! ## Calls -/

/-- What a call raises. -/
inductive ServiceError where
  | draftNotFound
  | draftStale (latestDraftRevisionId : String)
  | reviewUnresolved
  | idempotencyKeyConflict
  | integrityError
  | content (error : DraftError)
  deriving DecidableEq

/-- What a call returns. -/
inductive ServiceResult where
  | draft (draft : RequirementDraft)
  | approved (revision : ApprovedRequirementRevision)

/-- A call under way. -/
abbrev ServiceProgram := Program DraftTransaction DraftAnswer (Except ServiceError ServiceResult)

/-- The arguments that the calls share, and what they draw. -/
structure CallContext where
  draftRevisionId : String
  baseRevisionId : String
  idempotencyKey : String
  /-- The identifier of the row the call saves. -/
  newRevisionId : String
  now : Nat

/-- A call. -/
inductive ServiceCall where
  | update (operations : List (DraftOperation × String))
  | amend (text : String) (targetSectionHint : Option String) (extracted : RequirementSheet)
      (amendmentId : String) (newIds : SectionId → Nat → String)
  | resolve (amendmentId : String) (operations : List (ReviewResolutionOperation × String))
  | confirm

section Programs

variable (rt : RequirementRuntime) (context : CallContext)

/-- `_copy_draft` with the sections of the new draft. -/
def copyDraft (base : RequirementDraft) (sections : DraftSections) (extracted : RequirementSheet) :
    RequirementDraft where
  draftRevisionId := context.newRevisionId
  conversationId := base.conversationId
  baseRevisionId := some base.draftRevisionId
  status := .draftReady
  sections := sections
  extractedSheet := extracted
  idempotencyKey := context.idempotencyKey
  createdAt := context.now

/-- `_require_draft`. -/
def requireDraft (draftRevisionId : String) (next : RequirementDraft → ServiceProgram) :
    ServiceProgram :=
  .call (.getDraft draftRevisionId) (fun (found : Option RequirementDraft) =>
    match found with
    | none => .done (.error .draftNotFound)
    | some draft => next draft)

/-- `_reject_stale`. -/
def rejectStale (draft : RequirementDraft) (next : StalenessCheck → ServiceProgram) :
    ServiceProgram :=
  .call (.latestDraft draft.conversationId) (fun (found : Option RequirementDraft) =>
    match found with
    | none => next ⟨context.baseRevisionId, none⟩
    | some latest =>
      if latest.draftRevisionId ≠ context.baseRevisionId then
        .done (.error (.draftStale latest.draftRevisionId))
      else next ⟨context.baseRevisionId, some latest⟩)

/-- `save_requirement_draft`. -/
def saveDraft (draft : RequirementDraft) (check : StalenessCheck) : ServiceProgram :=
  .call (.saveDraft draft check) (fun (inserted : Bool) =>
    if inserted = true then .done (.ok (.draft draft)) else .done (.error .integrityError))

/-- Raise an error of the content, or go on. -/
def orRaise {α : Type} (result : Except DraftError α) (next : α → ServiceProgram) :
    ServiceProgram :=
  match result with
  | .error e => .done (.error (.content e))
  | .ok value => next value

/-- The replay of an update or a resolution. -/
def unlessSaved (base : RequirementDraft) (next : ServiceProgram) : ServiceProgram :=
  .call (.draftByKey base.conversationId context.idempotencyKey)
    (fun (found : Option RequirementDraft) =>
    match found with
    | some draft => .done (.ok (.draft draft))
    | none => next)

/-- The draft of a sheet that was read from a job description. -/
def extractedDraft (conversationId : String) (sheet : RequirementSheet) : RequirementDraft where
  draftRevisionId := context.newRevisionId
  conversationId := conversationId
  baseRevisionId := none
  status := .draftReady
  sections := draftFromRequirementSheet rt "extracted" sheet
  extractedSheet := sheet
  idempotencyKey := context.idempotencyKey
  createdAt := context.now

/-- `extract_requirements`; `sheet` is what the executor reads. -/
def extractRequirements (conversationId : String) (sheet : RequirementSheet) : ServiceProgram :=
  .call (.draftByKey conversationId context.idempotencyKey)
    (fun (found : Option RequirementDraft) =>
    match found with
    | some draft => .done (.ok (.draft draft))
    | none =>
      saveDraft (extractedDraft rt context conversationId sheet) ⟨context.baseRevisionId, none⟩)

/-- `update_requirement_draft`. -/
def updateRequirementDraft (operations : List (DraftOperation × String)) : ServiceProgram :=
  requireDraft context.draftRevisionId (fun base =>
    unlessSaved context base (rejectStale context base (fun check =>
      orRaise (applyOperations base.sections operations) (fun sections =>
        saveDraft (copyDraft context base sections base.extractedSheet) check))))

/-- The supplement that an amendment adds. -/
def amendmentSupplement (extracted : RequirementSheet) : RequirementSheet :=
  prepareRequirementSupplement extracted 1

/-- The draft that an amendment saves. -/
def amendedDraft (base : RequirementDraft) (baseSheet extracted : RequirementSheet)
    (amendmentId : String) (newIds : SectionId → Nat → String) : RequirementDraft :=
  copyDraft context base
    (appendExtractedSupplement rt amendmentId newIds (amendmentSupplement extracted) base.sections)
    (mergeRequirementSheetSupplement rt.toPythonRuntime baseSheet (amendmentSupplement extracted) 1)

/-- `amend_requirement_draft_from_text`.  What it hands to the review is always empty. -/
def amendRequirementDraftFromText (text : String) (targetSectionHint : Option String)
    (extracted : RequirementSheet) (amendmentId : String) (newIds : SectionId → Nat → String) :
    ServiceProgram :=
  requireDraft context.draftRevisionId (fun base =>
    .call (.amendmentByKey base.conversationId context.idempotencyKey)
      (fun (found : Option RequirementAmendment) =>
      match found with
      | some amendment =>
        requireDraft amendment.resultDraftRevisionId (fun draft => .done (.ok (.draft draft)))
      | none =>
        rejectStale context base (fun check =>
          orRaise (requirementSheetFromDraft base.sections base.extractedSheet) (fun baseSheet =>
            let row : RequirementAmendment := {
              amendmentId := amendmentId
              conversationId := base.conversationId
              baseDraftRevisionId := base.draftRevisionId
              resultDraftRevisionId := context.newRevisionId
              inputText := text
              targetSectionHint := targetSectionHint
              idempotencyKey := context.idempotencyKey
              createdAt := context.now }
            .call (.saveAmendment row) (fun (inserted : Bool) =>
              if inserted = true then
                saveDraft (amendedDraft rt context base baseSheet extracted amendmentId newIds)
                  check
              else .done (.error .integrityError))))))

/-- `resolve_requirement_review`. -/
def resolveRequirementReview (amendmentId : String)
    (operations : List (ReviewResolutionOperation × String)) : ServiceProgram :=
  requireDraft context.draftRevisionId (fun base =>
    unlessSaved context base (rejectStale context base (fun check =>
      .call (.getAmendment amendmentId) (fun (found : Option RequirementAmendment) =>
        if found.isNone then .done (.error .draftNotFound)
        else orRaise (applyReviewResolutions amendmentId base.sections operations) (fun sections =>
          saveDraft (copyDraft context base sections base.extractedSheet) check)))))

/-- The identifiers of the items that meet a condition. -/
def itemIds (sections : DraftSections) (p : RequirementDraftItem → Bool) : List String :=
  ((SectionId.order.flatMap sections).filter p).map RequirementDraftItem.itemId

/-- The revision that a draft is confirmed to. -/
def approvedRevision (draft : RequirementDraft) (sheet : RequirementSheet) :
    ApprovedRequirementRevision where
  approvedRequirementRevisionId := context.newRevisionId
  draftRevisionId := draft.draftRevisionId
  conversationId := draft.conversationId
  requirementSheet := sheet
  selectedItemIds := itemIds draft.sections RequirementDraftItem.isActive
  deselectedItemIds :=
    itemIds draft.sections (fun item => !item.selected || item.status = .deleted ||
    item.status = .moved || item.status = .rejected)
  idempotencyKey := context.idempotencyKey
  createdAt := context.now

/-- `save_approved_requirement`. -/
def saveApproved (revision : ApprovedRequirementRevision) (check : StalenessCheck) :
    ServiceProgram :=
  .call (.saveApproved revision check) (fun (inserted : Bool) =>
    if inserted = true then .done (.ok (.approved revision))
    else .call (.approvedByKey revision.conversationId revision.idempotencyKey)
      (fun (found : Option ApprovedRequirementRevision) =>
      match found with
      | none => .done (.error .integrityError)
      | some existing =>
        if existing.draftRevisionId ≠ revision.draftRevisionId then
          .done (.error .idempotencyKeyConflict)
        else .done (.ok (.approved existing))))

/-- `confirm_requirements`. -/
def confirmRequirements : ServiceProgram :=
  requireDraft context.draftRevisionId (fun draft =>
    .call (.approvedByKey draft.conversationId context.idempotencyKey)
      (fun (found : Option ApprovedRequirementRevision) =>
      match found with
      | some existing => .done (.ok (.approved existing))
      | none =>
        rejectStale context draft (fun check =>
          if draft.unresolvedReviewItemCount ≠ 0 then .done (.error .reviewUnresolved)
          else orRaise (requirementSheetFromDraft draft.sections draft.extractedSheet) (fun sheet =>
            saveApproved (approvedRevision context draft sheet) check))))

/-- The program of a call. -/
def ServiceCall.program : ServiceCall → ServiceProgram
  | .update operations => updateRequirementDraft context operations
  | .amend text targetSectionHint extracted amendmentId newIds =>
    amendRequirementDraftFromText rt context text targetSectionHint extracted amendmentId newIds
  | .resolve amendmentId operations => resolveRequirementReview context amendmentId operations
  | .confirm => confirmRequirements context

end Programs

end SeekTalent.RequirementDrafts
