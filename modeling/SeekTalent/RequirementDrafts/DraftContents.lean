import Mathlib.Algebra.Ring.Nat
import SeekTalent.RequirementDrafts.RequirementDraft

/-!
# What the operations keep of a draft

Every draft lists its items in the order of their positions, and an item that carries a field and a
value shows that value (`WellKept`): the drafts read from a sheet do so, and every operation keeps
it.

`Confirmable` says that the selected items of the two sections that are rebuilt from values carry
values of the right kind.  `Shows` says of a sheet that it lists what the draft shows.  A well-kept
draft is rebuilt to a sheet that shows it exactly when it is confirmable.
-/

namespace SeekTalent.RequirementDrafts

open Foundation SourcePort

variable {items : List RequirementDraftItem} {item : RequirementDraftItem}
  {after sections : DraftSections}
variable {newId amendmentId : String}

/-- The sort orders of a section are those of its positions. -/
def Orders (items : List RequirementDraftItem) : Prop :=
  items.map RequirementDraftItem.sortOrder = (List.range items.length).map (fun i => (i + 1) * 10)

/-- An item with a field and a value shows the value. -/
def RequirementDraftItem.Truthful (item : RequirementDraftItem) : Prop :=
  ∀ field value, item.value = .slot field value → value = item.text

/-- Every section is in order, and every item truthful. -/
structure WellKept (sections : DraftSections) : Prop where
  orders : ∀ s, Orders (sections s)
  truthful : ∀ s, ∀ item ∈ sections s, item.Truthful

/-! ## One section -/

/-- A section in order is sorted. -/
lemma Orders.pairwise (h : Orders items) :
    items.Pairwise (fun a b => a.sortOrder ≤ b.sortOrder) := by
  have hrange : ((List.range items.length).map (fun i => (i + 1) * 10)).Pairwise (· ≤ ·) := by
    rw [List.pairwise_map]
    exact List.pairwise_lt_range.imp fun hlt => by omega
  rw [← h, List.pairwise_map] at hrange
  exact hrange

/-- A section in order is not changed by sorting. -/
lemma Orders.sortItems (h : Orders items) :
    sortItems items = items :=
  h.pairwise.insertionSort_eq

/-- Appending the item of the next position keeps the order. -/
lemma Orders.concat (h : Orders items) (hitem : item.sortOrder = (items.length + 1) * 10) :
    Orders (items ++ [item]) := by
  unfold Orders at h ⊢
  rw [List.map_append, h, List.length_append, List.length_singleton, List.range_succ,
    List.map_append]
  simp [hitem]

section ModifyFirst

variable {α β : Type} {p : α → Bool} {change : α → α} {items : List α}

/-- A column that the change keeps is kept. -/
lemma map_modifyFirst {column : α → β} (hcolumn : ∀ item, column (change item) = column item) :
    (modifyFirst p change items).map column = items.map column := by
  induction items with
  | nil => rfl
  | cons item rest ih =>
    rw [modifyFirst]
    split
    · simp [hcolumn]
    · simp [ih]

/-- An item after the change is the changed one or one of the old. -/
lemma mem_modifyFirst {item : α} (h : item ∈ modifyFirst p change items) :
    item ∈ items ∨ ∃ held ∈ items, item = change held := by
  induction items with
  | nil => cases h
  | cons first rest ih =>
    rw [modifyFirst] at h
    split at h
    · obtain rfl | hrest := List.mem_cons.mp h
      · exact .inr ⟨first, List.mem_cons_self, rfl⟩
      · exact .inl (List.mem_cons_of_mem first hrest)
    · obtain rfl | hrest := List.mem_cons.mp h
      · exact .inl List.mem_cons_self
      · obtain hold | ⟨held, hheld, rfl⟩ := ih hrest
        · exact .inl (List.mem_cons_of_mem first hold)
        · exact .inr ⟨held, List.mem_cons_of_mem first hheld, rfl⟩

end ModifyFirst

/-- A section with the same sort orders is in order. -/
lemma Orders.of_map_eq {after : List RequirementDraftItem} (h : Orders items)
    (hsame : after.map RequirementDraftItem.sortOrder = items.map RequirementDraftItem.sortOrder) :
    Orders after := by
  have hlength : after.length = items.length := by simpa using congrArg List.length hsame
  unfold Orders at h ⊢
  rw [hsame, h, hlength]

/-- A change that keeps the sort order keeps the order of the section. -/
lemma Orders.modifyFirst (h : Orders items)
    {p : RequirementDraftItem → Bool} {change : RequirementDraftItem → RequirementDraftItem}
    (hchange : ∀ item, (change item).sortOrder = item.sortOrder) :
    Orders (modifyFirst p change items) :=
  h.of_map_eq (map_modifyFirst hchange)

/-! ## The primitives of the operations -/

namespace WellKept

variable {sections : DraftSections}

/-- Another section in order, of truthful items, in the place of one. -/
lemma update (h : WellKept sections) {s : SectionId}
    (horders : Orders items) (htruthful : ∀ item ∈ items, item.Truthful) :
    WellKept (Function.update sections s items) := by
  refine ⟨fun other => ?_, fun other => ?_⟩
  · by_cases hother : other = s
    · subst hother
      rwa [Function.update_self]
    · rw [Function.update_of_ne hother]
      exact h.orders other
  · by_cases hother : other = s
    · subst hother
      rwa [Function.update_self]
    · rw [Function.update_of_ne hother]
      exact h.truthful other

/-- Sorting a section changes nothing. -/
lemma resort_eq (h : WellKept sections) (s : SectionId) : resort sections s = sections := by
  rw [resort, (h.orders s).sortItems, Function.update_eq_self]

/-- A change of an item that keeps its place and its truth. -/
lemma changeItem (h : WellKept sections) (s : SectionId) (p : RequirementDraftItem → Bool)
    (change : RequirementDraftItem → RequirementDraftItem)
    (horder : ∀ item, (change item).sortOrder = item.sortOrder)
    (htruthful : ∀ item, item.Truthful → (change item).Truthful) :
    WellKept (changeItem sections s p change) := by
  refine h.update ((h.orders s).modifyFirst horder) fun item hitem => ?_
  obtain hold | ⟨held, hheld, rfl⟩ := mem_modifyFirst hitem
  · exact h.truthful s item hold
  · exact htruthful held (h.truthful s held hheld)

/-- Appending a truthful item in the next position. -/
lemma appendItem (h : WellKept sections) (s : SectionId)
    (horder : item.sortOrder = ((sections s).length + 1) * 10) (htruthful : item.Truthful) :
    WellKept (appendItem sections s item) := by
  have happended : WellKept (Function.update sections s (sections s ++ [item])) := by
    refine h.update ((h.orders s).concat horder) fun held hheld => ?_
    obtain hold | hnew := List.mem_append.mp hheld
    · exact h.truthful s held hold
    · rw [List.mem_singleton.mp hnew]
      exact htruthful
  rw [RequirementDrafts.appendItem, happended.resort_eq]
  exact happended

end WellKept

/-- A change of an item keeps the length of every section. -/
lemma length_changeItem (sections : DraftSections) (s other : SectionId)
    (p : RequirementDraftItem → Bool) (change : RequirementDraftItem → RequirementDraftItem) :
    (changeItem sections s p change other).length = (sections other).length := by
  unfold changeItem
  by_cases hother : other = s
  · subst hother
    rw [Function.update_self]
    have hmap : (modifyFirst p change (sections other)).map (fun _ => ()) =
        (sections other).map (fun _ => ()) := map_modifyFirst fun _ => rfl
    simpa using congrArg List.length hmap
  · rw [Function.update_of_ne hother]

/-- The item that is found is in its section. -/
lemma findItem_ok {p : RequirementDraftItem → Bool} {s : SectionId}
    (h : findItem sections p = .ok (s, item)) : item ∈ sections s := by
  unfold findItem at h
  cases hsection : SectionId.order.find? (fun s => (sections s).any p) with
  | none => simp [hsection] at h
  | some found =>
    cases hitem : (sections found).find? p with
    | none => simp [hsection, hitem] at h
    | some held =>
      simp only [hsection, hitem, Except.ok.injEq, Prod.mk.injEq] at h
      obtain ⟨rfl, rfl⟩ := h
      exact List.mem_of_find?_eq_some hitem

/-! ## The operations -/

/-- The edit of a text keeps an item truthful. -/
lemma truthful_edited {text source : String} :
    ({ item with text := text, value := item.value.edited text, source := source } :
      RequirementDraftItem).Truthful := by
  intro field value hvalue
  cases hheld : item.value <;> simp [ItemValue.edited, hheld] at hvalue
  exact hvalue.2.symm

/-- An operation keeps a draft well kept. -/
theorem WellKept.applyOperation {operation : DraftOperation}
    (h : WellKept sections)
    (hafter : applyOperation sections operation newId = .ok after) : WellKept after := by
  unfold RequirementDrafts.applyOperation at hafter
  simp only [bind_eq_ok] at hafter
  obtain ⟨⟨s, item⟩, hfound, hafter⟩ := hafter
  have hitem := h.truthful s item (findItem_ok hfound)
  cases hop : operation.op with
  | setSelected =>
    simp only [hop, pure_eq_ok] at hafter
    have hchanged := h.changeItem s (fun item => item.itemId = operation.itemId)
      (fun held => { held with selected := operation.selected.getD false })
      (fun _ => rfl) (fun _ => id)
    rw [hchanged.resort_eq] at hafter
    exact hafter ▸ hchanged
  | setEnabled =>
    simp only [hop, pure_eq_ok] at hafter
    have hchanged := h.changeItem s (fun item => item.itemId = operation.itemId)
      (fun held => { held with enabled := operation.enabled.getD false })
      (fun _ => rfl) (fun _ => id)
    rw [hchanged.resort_eq] at hafter
    exact hafter ▸ hchanged
  | editText =>
    simp only [hop, bind_eq_ok, pure_eq_ok] at hafter
    obtain ⟨text, -, hafter⟩ := hafter
    have hchanged := h.changeItem s (fun item => item.itemId = operation.itemId)
      (fun held => { held with
        text := text, value := held.value.edited text, source := "user_edited" })
      (fun _ => rfl) (fun _ _ => truthful_edited)
    rw [hchanged.resort_eq] at hafter
    exact hafter ▸ hchanged
  | deleteItem =>
    simp only [hop, pure_eq_ok] at hafter
    have hchanged := h.changeItem s (fun item => item.itemId = operation.itemId)
      (fun held => { held with selected := false, status := .deleted })
      (fun _ => rfl) (fun _ => id)
    rw [hchanged.resort_eq] at hafter
    exact hafter ▸ hchanged
  | moveItem =>
    simp only [hop, bind_eq_ok, pure_eq_ok] at hafter
    obtain ⟨target, -, hafter⟩ := hafter
    have hleft := h.changeItem s (fun item => item.itemId = operation.itemId)
      (fun held => { held with selected := false, status := .moved })
      (fun _ => rfl) (fun _ => id)
    let moved : RequirementDraftItem := { item with
      itemId := newId
      status := .resolved
      sortOrder := nextSortOrder sections target
      source := "user_edited" }
    have horder : moved.sortOrder = ((RequirementDrafts.changeItem sections s
        (fun item => item.itemId = operation.itemId)
        (fun held => { held with selected := false, status := .moved }) target).length + 1) *
        10 := by
      rw [length_changeItem]
      rfl
    have hmoved := hleft.appendItem target horder hitem
    rw [hmoved.resort_eq] at hafter
    exact hafter ▸ hmoved

/-- The operations of a call keep a draft well kept. -/
theorem WellKept.applyOperations
    {operations : List (DraftOperation × String)} (h : WellKept sections)
    (hafter : applyOperations sections operations = .ok after) : WellKept after := by
  induction operations generalizing sections with
  | nil =>
    obtain rfl : sections = after := Except.ok.inj hafter
    exact h
  | cons entry rest ih =>
    simp only [RequirementDrafts.applyOperations, bind_eq_ok] at hafter
    obtain ⟨next, hnext, hafter⟩ := hafter
    exact ih (h.applyOperation hnext) hafter

/-- A resolution keeps a draft well kept. -/
theorem WellKept.applyReviewResolution
    {operation : ReviewResolutionOperation} (h : WellKept sections)
    (hafter : applyReviewResolution sections operation amendmentId newId = .ok after) :
    WellKept after := by
  unfold RequirementDrafts.applyReviewResolution at hafter
  simp only [bind_eq_ok] at hafter
  obtain ⟨⟨s, item⟩, hfound, hafter⟩ := hafter
  have hitem := h.truthful s item (findItem_ok hfound)
  have hrejected := h.changeItem s
    (fun item => item.reviewItemId = some operation.reviewItemId)
    (fun held => { held with selected := false, status := .rejected })
    (fun _ => rfl) (fun _ => id)
  by_cases hreject : operation.op = .rejectCandidate ∨ operation.op = .rejectFragment
  · simp only [if_pos hreject, pure_eq_ok] at hafter
    exact hafter ▸ hrejected
  · simp only [if_neg hreject, bind_eq_ok, pure_eq_ok] at hafter
    obtain ⟨target, -, rfl⟩ := hafter
    refine hrejected.appendItem target (by rw [length_changeItem]; rfl) ?_
    intro field value hvalue
    by_cases htext : operation.text.getD "" = ""
    · simp only [htext, if_true] at hvalue ⊢
      exact hitem field value hvalue
    · simp [htext] at hvalue

/-- The resolutions of a call keep a draft well kept. -/
theorem WellKept.applyReviewResolutions
    {operations : List (ReviewResolutionOperation × String)} (h : WellKept sections)
    (hafter : applyReviewResolutions amendmentId sections operations = .ok after) :
    WellKept after := by
  induction operations generalizing sections with
  | nil =>
    obtain rfl : sections = after := Except.ok.inj hafter
    exact h
  | cons entry rest ih =>
    simp only [RequirementDrafts.applyReviewResolutions, bind_eq_ok] at hafter
    obtain ⟨next, hnext, hafter⟩ := hafter
    exact ih (h.applyReviewResolution hnext) hafter

/-! ## Drafts of sheets, and supplements -/

/-- Items that are numbered by their positions are in order. -/
lemma orders_mapIdx {α : Type} {values : List α} {item : Nat → α → RequirementDraftItem}
    (hitem : ∀ index value, (item index value).sortOrder = (index + 1) * 10) :
    Orders (values.mapIdx item) := by
  unfold Orders
  apply List.ext_getElem
  · simp
  · intro index hleft hright
    simp [hitem]

/-- The draft of a sheet is well kept. -/
theorem wellKept_draftFromRequirementSheet (rt : RequirementRuntime) (source : String)
    (sheet : RequirementSheet) : WellKept (draftFromRequirementSheet rt source sheet) := by
  refine ⟨fun s => ?_, fun s item hitem => ?_⟩
  · cases s <;> exact orders_mapIdx fun _ _ => rfl
  · cases s <;> obtain ⟨index, hindex, rfl⟩ :=
      List.mem_mapIdx.mp hitem <;> intro field value hvalue <;>
      simp only [newItem] at hvalue ⊢ <;> cases hvalue
    rfl

/-- The items of the pool of a new draft carry query terms. -/
lemma term_of_mem_queryTermItems {rt : RequirementRuntime} {source : String}
    {terms : List QueryTermCandidate}
    (h : item ∈ queryTermItems rt source terms) :
    ∃ candidate, item.value = .term candidate none := by
  obtain ⟨index, hindex, rfl⟩ := List.mem_mapIdx.mp h
  exact ⟨_, rfl⟩

/-- An item of a supplement keeps a section in order and truthful. -/
lemma addSupplementItem_keeps {rt : RequirementRuntime} {s : SectionId}
    {incoming : RequirementDraftItem} (horders : Orders items)
    (htruthful : ∀ item ∈ items, item.Truthful) (hincoming : incoming.Truthful)
    (hpool : s = .initialQueryTermPool → ∃ candidate, incoming.value = .term candidate none) :
    Orders (addSupplementItem rt amendmentId s items incoming newId) ∧
      ∀ item ∈ addSupplementItem rt amendmentId s items incoming newId, item.Truthful := by
  unfold addSupplementItem
  dsimp only
  split
  · refine ⟨horders.of_map_eq ?_, fun item hitem => ?_⟩
    · rw [List.map_reverse, map_modifyFirst, List.map_reverse, List.reverse_reverse]
      intro held
      unfold mergeDuplicateRequirementDraftItem
      split <;> rfl
    · obtain hold | ⟨held, hheld, rfl⟩ := mem_modifyFirst (List.mem_reverse.mp hitem)
      · exact htruthful item (List.mem_reverse.mp hold)
      · unfold mergeDuplicateRequirementDraftItem
        split
        · rename_i hs
          obtain ⟨candidate, hvalue⟩ := hpool hs
          intro field value hslot
          rw [hvalue] at hslot
          cases hslot
        · exact htruthful held (List.mem_reverse.mp hheld)
  · refine ⟨horders.concat rfl, fun item hitem => ?_⟩
    obtain hold | hnew := List.mem_append.mp hitem
    · exact htruthful item hold
    · rw [List.mem_singleton.mp hnew]
      exact hincoming

/-- A supplement keeps a draft well kept. -/
theorem WellKept.appendExtractedSupplement (h : WellKept sections)
    (rt : RequirementRuntime) (amendmentId : String) (newIds : SectionId → Nat → String)
    (supplement : RequirementSheet) :
    WellKept (RequirementDrafts.appendExtractedSupplement rt amendmentId newIds supplement
      sections) := by
  have hdraft := wellKept_draftFromRequirementSheet rt "extracted_amendment" supplement
  have hsection : ∀ s,
    Orders (RequirementDrafts.appendExtractedSupplement rt amendmentId newIds supplement
      sections s) ∧
      ∀ item ∈ RequirementDrafts.appendExtractedSupplement rt amendmentId newIds supplement
        sections s, item.Truthful := by
    intro s
    refine List.foldlRecOn (motive := fun items => Orders items ∧ ∀ item ∈ items, item.Truthful) _ _
      ⟨h.orders s, h.truthful s⟩ ?_
    rintro items ⟨horders, htruthful⟩ ⟨incoming, index⟩ hentry
    have hmem : incoming ∈ draftFromRequirementSheet rt "extracted_amendment" supplement s :=
      List.fst_mem_of_mem_zipIdx hentry
    refine addSupplementItem_keeps horders htruthful (hdraft.truthful s incoming hmem) ?_
    rintro rfl
    exact term_of_mem_queryTermItems hmem
  exact ⟨fun s => (hsection s).1, fun s => (hsection s).2⟩

/-! ## The sheet of a draft -/

/-- The selected items of the sections that are rebuilt from values carry the right kind of value:
those of the hard constraints a field and a value, and those of the pool a query term whose text was
not edited. -/
structure Confirmable (sections : DraftSections) : Prop where
  slots : ∀ item ∈ activeItems (sections .hardConstraints), ∃ field value,
    item.value = .slot field value
  terms : ∀ item ∈ activeItems (sections .initialQueryTermPool), ∃ candidate,
    item.value = .term candidate none

/-- The list of hard constraints that an item belongs to: the field it was read from. -/
def RequirementDraftItem.hardField (item : RequirementDraftItem) : Option HardField :=
  match item.value with
  | .slot field _ => some field
  | _ => none

/-- A sheet lists what a draft shows: in each section the texts of the selected and resolved items,
in their order.  Of the hard constraints each list holds the items of its own field, and together
the lists hold all items; a query term is active when its item is enabled. -/
structure Shows (sections : DraftSections) (sheet : RequirementSheet) : Prop where
  mustHave : sheet.mustHaveCapabilities =
    (activeItems (sections .mustHaveCapabilities)).map RequirementDraftItem.text
  preferred : sheet.preferredCapabilities =
    (activeItems (sections .preferredCapabilities)).map RequirementDraftItem.text
  exclusions : sheet.exclusionSignals =
    (activeItems (sections .exclusionSignals)).map RequirementDraftItem.text
  hard : ∀ field, sheet.hardConstraints.names field =
    ((activeItems (sections .hardConstraints)).filter (fun item => item.hardField = some field)).map
      RequirementDraftItem.text
  nothingDropped : (HardField.all.map
    (fun field => (sheet.hardConstraints.names field).length)).sum =
    (activeItems (sections .hardConstraints)).length
  pool : sheet.initialQueryTermPool.map (fun candidate => (candidate.term, candidate.active)) =
    (activeItems (sections .initialQueryTermPool)).map (fun item => (item.text, item.enabled))
  sorted : ∀ s, (activeItems (sections s)).Pairwise (fun a b => a.sortOrder ≤ b.sortOrder)

/-- The terms of items that all carry query terms. -/
lemma queryTerms_eq_ok :
    (∃ terms, queryTerms items = .ok terms) ↔
      ∀ item ∈ items, ∃ candidate, item.value = .term candidate none := by
  induction items with
  | nil => simp [queryTerms]
  | cons item rest ih =>
    rw [List.forall_mem_cons, ← ih]
    constructor
    · rintro ⟨terms, hterms⟩
      simp only [queryTerms, bind_eq_ok, pure_eq_ok] at hterms
      obtain ⟨term, hterm, others, hothers, -⟩ := hterms
      refine ⟨?_, others, hothers⟩
      unfold queryTerm at hterm
      split at hterm
      · rename_i candidate hvalue
        exact ⟨candidate, hvalue⟩
      · cases hterm
    · rintro ⟨⟨candidate, hvalue⟩, others, hothers⟩
      simp only [queryTerms, bind_eq_ok, pure_eq_ok]
      exact ⟨_, _, by rw [queryTerm, hvalue], others, hothers, rfl⟩

/-- The terms list the texts and the switches. -/
lemma map_queryTerms {terms : List QueryTermCandidate} (h : queryTerms items = .ok terms) :
    terms.map (fun candidate => (candidate.term, candidate.active)) =
      items.map (fun item => (item.text, item.enabled)) := by
  induction items generalizing terms with
  | nil =>
    obtain rfl : [] = terms := Except.ok.inj h
    rfl
  | cons item rest ih =>
    simp only [queryTerms, bind_eq_ok, pure_eq_ok] at h
    obtain ⟨term, hterm, others, hothers, rfl⟩ := h
    rw [List.map_cons, List.map_cons, ih hothers]
    unfold queryTerm at hterm
    split at hterm
    · rw [← Except.ok.inj hterm]
    · cases hterm

/-- The list of a field is that of the truthful items of that field. -/
lemma filterMap_hardValue (htruthful : ∀ item ∈ items, item.Truthful) (field : HardField) :
    items.filterMap (hardValue field) =
      (items.filter (fun item => item.hardField = some field)).map RequirementDraftItem.text := by
  induction items with
  | nil => rfl
  | cons item rest ih =>
    rw [List.forall_mem_cons] at htruthful
    have hrest := ih htruthful.2
    cases hvalue : item.value with
    | slot other value =>
      have htext : value = item.text := htruthful.1 _ _ hvalue
      by_cases hfield : other = field
      · simp [hardValue, RequirementDraftItem.hardField, hvalue, hfield, htext, hrest]
      · simp [hardValue, RequirementDraftItem.hardField, hvalue, hfield, hrest]
    | text value => simp [hardValue, RequirementDraftItem.hardField, hvalue, hrest]
    | term candidate value => simp [hardValue, RequirementDraftItem.hardField, hvalue, hrest]

/-- The lists of the three fields hold as many texts as there are items with a field. -/
lemma length_filter_hardField (items : List RequirementDraftItem) :
    (HardField.all.map (fun field =>
      ((items.filter (fun item => item.hardField = some field)).map
        RequirementDraftItem.text).length)).sum =
      items.countP (fun item => item.hardField.isSome) := by
  induction items with
  | nil => rfl
  | cons item rest ih =>
    simp only [HardField.all, List.map_cons, List.map_nil, List.sum_cons, List.sum_nil,
      List.filter_cons, List.countP_cons, List.length_map] at ih ⊢
    cases hfield : item.hardField with
    | none => simpa using ih
    | some field => cases field <;> simp [← ih] <;> omega

/-- A well-kept draft is rebuilt to a sheet that shows it exactly when it is confirmable. -/
theorem shows_iff_confirmable (h : WellKept sections) (extracted : RequirementSheet) :
    (∃ sheet, requirementSheetFromDraft sections extracted = .ok sheet ∧ Shows sections sheet) ↔
      Confirmable sections := by
  have hactive : ∀ s, ∀ item ∈ activeItems (sections s), item ∈ sections s :=
    fun s item hitem => List.mem_of_mem_filter hitem
  constructor
  · rintro ⟨sheet, hsheet, hshows⟩
    simp only [requirementSheetFromDraft, bind_eq_ok, pure_eq_ok] at hsheet
    obtain ⟨terms, hterms, rfl⟩ := hsheet
    refine ⟨?_, queryTerms_eq_ok.mp ⟨terms, hterms⟩⟩
    -- An item without a field would be missing from the three lists.
    have hcount : (activeItems (sections .hardConstraints)).countP
      (fun item => item.hardField.isSome) =
        (activeItems (sections .hardConstraints)).length := by
      have hlengths := hshows.nothingDropped
      rwa [List.map_congr_left fun field _ => congrArg List.length (hshows.hard field),
        length_filter_hardField] at hlengths
    intro item hitem
    have hhas := List.countP_eq_length.mp hcount item hitem
    unfold RequirementDraftItem.hardField at hhas
    split at hhas
    · rename_i field value hvalue
      exact ⟨field, value, hvalue⟩
    · cases hhas
  · intro hconfirmable
    obtain ⟨terms, hterms⟩ := queryTerms_eq_ok.mpr hconfirmable.terms
    have hlists : ∀ field, (activeItems (sections .hardConstraints)).filterMap (hardValue field) =
        ((activeItems (sections .hardConstraints)).filter
          (fun item => item.hardField = some field)).map RequirementDraftItem.text :=
      filterMap_hardValue fun item hitem => h.truthful _ item (hactive _ item hitem)
    refine ⟨_, by
      simp only [requirementSheetFromDraft, bind_eq_ok, pure_eq_ok]
      exact ⟨terms, hterms, rfl⟩, rfl, rfl, rfl, hlists, ?_, map_queryTerms hterms, ?_⟩
    · simp only [hlists]
      rw [length_filter_hardField, List.countP_eq_length]
      intro item hitem
      obtain ⟨field, value, hvalue⟩ := hconfirmable.slots item hitem
      simp [RequirementDraftItem.hardField, hvalue]
    · exact fun s => (h.orders s).pairwise.filter _

end SeekTalent.RequirementDrafts
