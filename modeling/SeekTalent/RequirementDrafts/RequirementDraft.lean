import Mathlib.Data.List.Sort
import SeekTalent.Foundation.Checks
import SeekTalent.RequirementDrafts.RequirementSheet

/-!
# Requirement drafts

The draft that a user edits before a sheet is approved
(`seektalent_runtime_control/requirements.py`): five sections of items, each with a text that is
shown and a value that remembers what kind of item it was.  The operations of `service.py` change
texts, values, statuses and sections without looking at the kind; the sheet is rebuilt from the
texts in three sections and from the values in the other two.
-/

namespace SeekTalent.RequirementDrafts

open Foundation SourcePort

/-- What the drafts need of the standard library. -/
structure RequirementRuntime extends PythonRuntime where
  /-- `sha1(value).hexdigest()`. -/
  sha1Hexdigest : Bytes → String

/-- The sections of a draft. -/
inductive SectionId where
  | mustHaveCapabilities | preferredCapabilities | hardConstraints | exclusionSignals
  | initialQueryTermPool
  deriving DecidableEq

namespace SectionId

/-- `SECTION_ORDER`. -/
def order : List SectionId :=
  [.mustHaveCapabilities, .preferredCapabilities, .hardConstraints, .exclusionSignals,
    .initialQueryTermPool]

/-- The identifier of a section. -/
def name : SectionId → String
  | .mustHaveCapabilities => "must_have_capabilities"
  | .preferredCapabilities => "preferred_capabilities"
  | .hardConstraints => "hard_constraints"
  | .exclusionSignals => "exclusion_signals"
  | .initialQueryTermPool => "initial_query_term_pool"

/-- The section of an identifier. -/
def named (text : String) : Option SectionId :=
  order.find? (fun s => s.name = text)

/-- `_allowed_actions`. -/
def allowedActions : SectionId → List String
  | .mustHaveCapabilities => ["select", "edit", "delete", "move_to_preferred_capabilities"]
  | .preferredCapabilities => ["select", "edit", "delete", "move_to_must_have_capabilities"]
  | .initialQueryTermPool => ["select", "enable", "edit", "delete"]
  | _ => ["select", "edit", "delete"]

end SectionId

/-- The name of a list of hard constraints. -/
def HardField.name : HardField → String
  | .locations => "locations"
  | .schoolNames => "school_names"
  | .companyNames => "company_names"

/-- The `value` of an item: a text; a field and a value; or the dump of a query term, to which an
edit of the text has added a key `value`. -/
inductive ItemValue where
  | text (value : String)
  | slot (field : HardField) (value : String)
  | term (candidate : QueryTermCandidate) (value : Option String)
  deriving DecidableEq

/-- `status` of an item. -/
inductive ItemStatus where
  | resolved | deleted | moved | needsReview | rejected
  deriving DecidableEq

/-- `RequirementDraftItem`. -/
structure RequirementDraftItem where
  itemId : String
  selected : Bool
  enabled : Bool
  text : String
  value : ItemValue
  source : String
  status : ItemStatus
  reviewItemId : Option String
  amendmentId : Option String
  sortOrder : Nat
  allowedActions : List String
  deriving DecidableEq

/-- The items of the sections of a draft. -/
abbrev DraftSections := SectionId → List RequirementDraftItem

/-- What an operation on a draft raises. -/
inductive DraftError where
  | draftInvalid
  | sectionUnknown
  | termInvalid
  deriving DecidableEq

/-- An item is listed in the sheet when it is selected and resolved. -/
def RequirementDraftItem.isActive (item : RequirementDraftItem) : Bool :=
  item.selected && item.status = .resolved

/-- `_active_items`. -/
def activeItems (items : List RequirementDraftItem) : List RequirementDraftItem :=
  items.filter RequirementDraftItem.isActive

/-! ## From a sheet to a draft -/

section FromSheet

variable (rt : RequirementRuntime)

/-- `_item_id`. -/
def newItemId (s : SectionId) (text : String) (index : Nat) : String :=
  let digest := rt.sha1Hexdigest (s.name ++ ":" ++ toString index ++ ":" ++ text).toUTF8.toList
  "reqitem_" ++ String.ofList (digest.toList.take 16)

/-- The item at a position of a section of a new draft. -/
def newItem (s : SectionId) (source idText text : String) (value : ItemValue) (enabled : Bool)
    (index : Nat) : RequirementDraftItem where
  itemId := newItemId rt s idText index
  selected := true
  enabled := enabled
  text := text
  value := value
  source := source
  status := .resolved
  reviewItemId := none
  amendmentId := none
  sortOrder := (index + 1) * 10
  allowedActions := s.allowedActions

/-- `_add_text_items`. -/
def textItems (s : SectionId) (source : String) (values : List String) :
    List RequirementDraftItem :=
  values.mapIdx (fun index value => newItem rt s source value value (.text value) true index)

/-- `_add_hard_constraint_items`. -/
def hardConstraintItems (source : String) (constraints : HardConstraintSlots) :
    List RequirementDraftItem :=
  (HardField.all.flatMap
    (fun field => (constraints.names field).map (fun value => (field, value)))).mapIdx
    (fun index entry => newItem rt .hardConstraints source (entry.1.name ++ ":" ++ entry.2) entry.2
      (.slot entry.1 entry.2) true index)

/-- `_add_query_term_items`. -/
def queryTermItems (source : String) (terms : List QueryTermCandidate) :
    List RequirementDraftItem :=
  terms.mapIdx (fun index candidate => newItem rt .initialQueryTermPool source candidate.term
    candidate.term (.term candidate none) candidate.active index)

/-- `draft_from_requirement_sheet`. -/
def draftFromRequirementSheet (source : String) (sheet : RequirementSheet) : DraftSections
  | .mustHaveCapabilities => textItems rt .mustHaveCapabilities source sheet.mustHaveCapabilities
  | .preferredCapabilities => textItems rt .preferredCapabilities source sheet.preferredCapabilities
  | .hardConstraints => hardConstraintItems rt source sheet.hardConstraints
  | .exclusionSignals => textItems rt .exclusionSignals source sheet.exclusionSignals
  | .initialQueryTermPool => queryTermItems rt source sheet.initialQueryTermPool

end FromSheet

/-! ## From a draft to a sheet -/

/-- The value that an item puts into a list of hard constraints. -/
def hardValue (field : HardField) (item : RequirementDraftItem) : Option String :=
  match item.value with
  | .slot other value => if other = field then some value else none
  | _ => none

/-- `QueryTermCandidate.model_validate` on the value of an item with the text and the switch of the
item put into it: other keys are forbidden, and those of a query term are required. -/
def queryTerm (item : RequirementDraftItem) : Except DraftError QueryTermCandidate :=
  match item.value with
  | .term candidate none => .ok { candidate with term := item.text, active := item.enabled }
  | _ => .error .termInvalid

/-- The query terms of the active items of a section. -/
def queryTerms : List RequirementDraftItem → Except DraftError (List QueryTermCandidate)
  | [] => .ok []
  | item :: rest => do
    let term ← queryTerm item
    let terms ← queryTerms rest
    return term :: terms

/-- `requirement_sheet_from_draft`. -/
def requirementSheetFromDraft (sections : DraftSections) (extracted : RequirementSheet) :
    Except DraftError RequirementSheet := do
  let texts (s : SectionId) : List String :=
    (activeItems (sections s)).map RequirementDraftItem.text
  let hardConstraints := { extracted.hardConstraints with
    names := fun field => (activeItems (sections .hardConstraints)).filterMap (hardValue field) }
  let terms ← queryTerms (activeItems (sections .initialQueryTermPool))
  return { extracted with
    mustHaveCapabilities := texts .mustHaveCapabilities
    preferredCapabilities := texts .preferredCapabilities
    exclusionSignals := texts .exclusionSignals
    hardConstraints := hardConstraints
    initialQueryTermPool := terms }

/-! ## Operations -/

/-- `section.items.sort(key=lambda item: item.sort_order)`. -/
def sortItems (items : List RequirementDraftItem) : List RequirementDraftItem :=
  items.insertionSort (fun a b => a.sortOrder ≤ b.sortOrder)

/-- The section, sorted. -/
def resort (sections : DraftSections) (s : SectionId) : DraftSections :=
  Function.update sections s (sortItems (sections s))

/-- Append an item to a section and sort it. -/
def appendItem (sections : DraftSections) (s : SectionId) (item : RequirementDraftItem) :
    DraftSections :=
  resort (Function.update sections s (sections s ++ [item])) s

/-- Change the first item of a section that meets a condition. -/
def changeItem (sections : DraftSections) (s : SectionId) (p : RequirementDraftItem → Bool)
    (change : RequirementDraftItem → RequirementDraftItem) : DraftSections :=
  Function.update sections s (modifyFirst p change (sections s))

/-- `_find_item` and `_find_review_item`: the first item that meets a condition, and its section. -/
def findItem (sections : DraftSections) (p : RequirementDraftItem → Bool) :
    Except DraftError (SectionId × RequirementDraftItem) :=
  match SectionId.order.find? (fun s => (sections s).any p) with
  | none => .error .draftInvalid
  | some s =>
    match (sections s).find? p with
    | none => .error .draftInvalid
    | some item => .ok (s, item)

/-- `draft.section`. -/
def requireSection (text : String) : Except DraftError SectionId :=
  match SectionId.named text with
  | none => .error .sectionUnknown
  | some s => .ok s

/-- `_required_text`. -/
def requiredText (value : Option String) : Except DraftError String :=
  let text := stripText (value.getD "")
  if text = "" then .error .draftInvalid else .ok text

/-- The sort order of an item that is appended to a section. -/
def nextSortOrder (sections : DraftSections) (s : SectionId) : Nat :=
  ((sections s).length + 1) * 10

/-- `op` of a draft operation. -/
inductive DraftOp where
  | setSelected | editText | deleteItem | moveItem | setEnabled
  deriving DecidableEq

/-- `DraftOperation`. -/
structure DraftOperation where
  op : DraftOp
  itemId : String
  selected : Option Bool
  text : Option String
  targetSection : Option String
  enabled : Option Bool
  deriving DecidableEq

/-- The value of an item whose text is edited. -/
def ItemValue.edited (text : String) : ItemValue → ItemValue
  | .text _ => .text text
  | .slot field _ => .slot field text
  | .term candidate _ => .term candidate (some text)

/-- `_apply_operation`; `newId` is the identifier of the copy of an item that moves. -/
def applyOperation (sections : DraftSections) (operation : DraftOperation) (newId : String) :
    Except DraftError DraftSections := do
  let named (item : RequirementDraftItem) : Bool := item.itemId = operation.itemId
  let (s, item) ← findItem sections named
  match operation.op with
  | .setSelected =>
    return resort (changeItem sections s named (fun held => { held with
      selected := operation.selected.getD false })) s
  | .setEnabled =>
    return resort (changeItem sections s named (fun held => { held with
      enabled := operation.enabled.getD false })) s
  | .editText => do
    let text ← requiredText operation.text
    return resort (changeItem sections s named (fun held => { held with
      text := text, value := held.value.edited text, source := "user_edited" })) s
  | .deleteItem =>
    return resort (changeItem sections s named (fun held => { held with
      selected := false, status := .deleted })) s
  | .moveItem => do
    let target ← requireSection (operation.targetSection.getD "")
    let moved := { item with
      itemId := newId
      status := .resolved
      sortOrder := nextSortOrder sections target
      source := "user_edited" }
    let left := changeItem sections s named (fun held => { held with
      selected := false, status := .moved })
    return resort (appendItem left target moved) s

/-- The operations of one call, each with the identifier its copy would be given. -/
def applyOperations : DraftSections → List (DraftOperation × String) →
    Except DraftError DraftSections
  | sections, [] => .ok sections
  | sections, (operation, newId) :: rest => do
    let after ← applyOperation sections operation newId
    applyOperations after rest

/-- `op` of a review resolution. -/
inductive ReviewOp where
  | acceptCandidate | editCandidate | moveCandidate | rejectCandidate | rejectFragment
  deriving DecidableEq

/-- `ReviewResolutionOperation`. -/
structure ReviewResolutionOperation where
  op : ReviewOp
  reviewItemId : String
  targetSection : Option String
  text : Option String
  deriving DecidableEq

/-- `_apply_review_resolution`. -/
def applyReviewResolution (sections : DraftSections) (operation : ReviewResolutionOperation)
    (amendmentId newId : String) : Except DraftError DraftSections := do
  let named (item : RequirementDraftItem) : Bool := item.reviewItemId = some operation.reviewItemId
  let (s, item) ← findItem sections named
  let rejected := changeItem sections s named (fun held => { held with
    selected := false, status := .rejected })
  if operation.op = .rejectCandidate ∨ operation.op = .rejectFragment then return rejected
  else do
    let given := operation.targetSection.getD ""
    let target ← requireSection (if given = "" then s.name else given)
    let text := operation.text.getD ""
    let resolved := { item with
      itemId := newId
      text := if text = "" then item.text else text
      value := if text = "" then item.value else .text text
      status := .resolved
      selected := true
      source := "user_review_resolution"
      amendmentId := some amendmentId
      sortOrder := nextSortOrder sections target }
    return appendItem rejected target resolved

/-- The resolutions of one call. -/
def applyReviewResolutions (amendmentId : String) : DraftSections →
    List (ReviewResolutionOperation × String) → Except DraftError DraftSections
  | sections, [] => .ok sections
  | sections, (operation, newId) :: rest => do
    let after ← applyReviewResolution sections operation amendmentId newId
    applyReviewResolutions amendmentId after rest

/-! ## Supplements -/

section Supplement

variable (rt : RequirementRuntime)

/-- `requirement_draft_item_key`: the text without its case, and the value without what a later
round may change. -/
def requirementDraftItemKey (item : RequirementDraftItem) : String × ItemValue :=
  let value := match item.value with
    | .term candidate edited =>
      .term { candidate with active := false, firstAddedRound := 0 } edited
    | value => value
  (rt.casefold (stripText item.text), value)

/-- `merge_duplicate_requirement_draft_item`. -/
def mergeDuplicateRequirementDraftItem (s : SectionId) (incoming existing : RequirementDraftItem) :
    RequirementDraftItem :=
  if s = .initialQueryTermPool then
    { existing with value := incoming.value, enabled := incoming.enabled }
  else existing

/-- One item of a supplement: the last item of the section with its key takes it up, or it is
appended. -/
def addSupplementItem (amendmentId : String) (s : SectionId) (items : List RequirementDraftItem)
    (incoming : RequirementDraftItem) (newId : String) : List RequirementDraftItem :=
  let same (held : RequirementDraftItem) : Bool :=
    held.status ≠ .deleted && requirementDraftItemKey rt held = requirementDraftItemKey rt incoming
  if items.any same then
    (modifyFirst same (mergeDuplicateRequirementDraftItem s incoming) items.reverse).reverse
  else
    let appended := { incoming with
      itemId := newId
      source := "extracted_amendment"
      amendmentId := some amendmentId
      sortOrder := (items.length + 1) * 10 }
    items ++ [appended]

/-- `_append_extracted_supplement`; `newIds` names the items that are appended. -/
def appendExtractedSupplement (amendmentId : String) (newIds : SectionId → Nat → String)
    (supplement : RequirementSheet) (sections : DraftSections) : DraftSections := fun s =>
  (draftFromRequirementSheet rt "extracted_amendment" supplement s).zipIdx.foldl
    (fun items entry => addSupplementItem rt amendmentId s items entry.1 (newIds s entry.2))
    (sections s)

end Supplement

end SeekTalent.RequirementDrafts
