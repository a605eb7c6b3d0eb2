import SeekTalent.SourcePort.HistorySelection
import SeekTalent.SourcePort.JournalValidity

/-!
# What a history query answers

Every answer of the reader about a validated journal, and when the reader has an answer other than
`history_unavailable`.  A selection is numbered from its first authorization exactly when everything
before it was searched too, which is what the result model of the `all` selector asks for.
-/

namespace SeekTalent.SourcePort

open Foundation

variable {py : PythonRuntime}
variable {head : HeadRow}

/-! ## Results -/

variable {values : ResultValues py}

/-- A result is built exactly from values that validate. -/
theorem buildResult_eq_ok {result : SourceHistoryQueryResultV1 py} :
    buildResult values = .ok result ↔ values.validate = .ok () ∧ result.values = values := by
  unfold buildResult
  split
  next h =>
    constructor
    · intro hbuilt
      cases hbuilt
      exact ⟨h, rfl⟩
    · rintro ⟨-, hvalues⟩
      cases result
      cases hvalues
      rfl
  next failure h => simp [h]

/-- Values that validate build a result. -/
theorem exists_buildResult :
    (∃ result, buildResult values = .ok result) ↔ values.validate = .ok () :=
  ⟨fun ⟨_, h⟩ => (buildResult_eq_ok.mp h).1, fun h => ⟨⟨values, h⟩, buildResult_eq_ok.mpr ⟨h, rfl⟩⟩⟩

/-- A result about a query validates when its bounds do and its outcome does. -/
theorem validate_eq_ok (request : SourceHistoryQueryV1)
    (hecho : values.echo = request.toQueryEcho) :
    values.validate = .ok () ↔ (values.bounds.1.all positiveJsonInteger = true ∧
      values.bounds.2.all positiveJsonInteger = true) ∧ validateOutcome values = .ok () := by
  have hfields := request.fields
  have hrange := request.range
  unfold ResultValues.validate
  rw [check_bind_eq_ok, check_bind_eq_ok, hecho]
  simp only [validateFields, resultFields, hecho, require_eq_ok, List.all_append, List.all_cons,
    List.all_nil, Bool.and_eq_true, and_true] at hfields ⊢
  exact ⟨fun ⟨⟨_, hbounds⟩, _, houtcome⟩ => ⟨hbounds, houtcome⟩,
    fun ⟨hbounds, houtcome⟩ => ⟨⟨hfields, hbounds⟩, hrange, houtcome⟩⟩

/-- The searched range of a query is not empty. -/
theorem SourceHistoryQueryV1.range_le (request : SourceHistoryQueryV1) :
    request.searchedFirstGeneration ≤ request.searchedLastGeneration := by
  have hrange := request.range
  unfold validateGenerationRange at hrange
  rw [check_bind_eq_ok, require_eq_ok] at hrange
  exact hrange.1

/-! ## The branches of an answer -/

section Branches

variable {journal : Journal} {facts : List (MatchedHistoryFact py)} {request : QueryEcho}

/-- The reasons that a query reports about a journal. -/
abbrev reportedReasons (journal : Journal) (request : QueryEcho) : List IdentityConflictReason :=
  conflictReasons request (belongingRows journal request) (collidingRows journal request)

theorem answer_of_conflict (h : reportedReasons journal request ≠ []) :
    answer py journal facts request = buildResult (.identityConflict request
      (reportedReasons journal request) (generationBounds journal).1
      (generationBounds journal).2) :=
  if_pos h

theorem answer_of_uncovered {reason : HistoryUnavailableReason}
    (h : reportedReasons journal request = [])
    (hreason : coverageFailure journal request (generationBounds journal).1
      (generationBounds journal).2 = some reason) :
    answer py journal facts request = unavailable py request reason (generationBounds journal).1
      (generationBounds journal).2 := by
  refine (if_neg (not_not.mpr h)).trans ?_
  rw [hreason]

theorem answer_of_complete {oldest newest : Int} (h : reportedReasons journal request = [])
    (hbounds : generationBounds journal = (some oldest, some newest))
    (hcoverage : coverageFailure journal request (some oldest) (some newest) = none) :
    answer py journal facts request =
      answerComplete py request oldest newest facts (belongingRows journal request) := by
  refine (if_neg (not_not.mpr h)).trans ?_
  rw [hbounds, hcoverage]
  rfl

end Branches

/-! ## Selections -/

variable {fact : MatchedHistoryFact py}

/-- A loaded fact has the columns of its head and the conclusion of its phase. -/
theorem factFromRow_values (h : factFromRow py head = .ok fact) :
    ∃ conclusion, conclusionFromRow head = some conclusion ∧
      fact.values = head.factValues conclusion := by
  unfold factFromRow at h
  cases hconclusion : conclusionFromRow head with
  | none =>
    rw [hconclusion] at h
    cases h
  | some conclusion =>
    rw [hconclusion] at h
    exact ⟨conclusion, rfl, ((modelValidate_eq_ok py).mp h).2⟩

/-- The facts of some heads, one for each of them in order. -/
abbrev FactsOf (py : PythonRuntime) : List HeadRow → List (MatchedHistoryFact py) → Prop :=
  List.Forall₂ (fun head fact => factFromRow py head = .ok fact)

/-- The commands of the facts of some heads. -/
theorem commands_of_factsOf {heads : List HeadRow} {facts : List (MatchedHistoryFact py)}
    (h : FactsOf py heads facts) :
    facts.map (·.values.command) = heads.map (·.columns.toAcceptedCommand) := by
  induction h with
  | nil => rfl
  | cons hfact _ ih => rw [List.map_cons, List.map_cons, ih, factFromRow_command py hfact]

/-- Each of the facts is that of one of the heads. -/
theorem mem_of_factsOf {heads : List HeadRow} {facts : List (MatchedHistoryFact py)}
    (h : FactsOf py heads facts) (hmem : fact ∈ facts) :
    ∃ head ∈ heads, factFromRow py head = .ok fact := by
  induction h with
  | nil => exact absurd hmem List.not_mem_nil
  | @cons head first heads facts hfact _ ih =>
    obtain rfl | hrest := List.mem_cons.mp hmem
    · exact ⟨head, List.mem_cons_self, hfact⟩
    · obtain ⟨other, hother, hstated⟩ := ih hrest
      exact ⟨other, List.mem_cons_of_mem _ hother, hstated⟩

/-- Two commands that belong to a query are of one operation. -/
theorem Belongs.operation_eq {request : QueryEcho} {left right : AcceptedCommand}
    (hleft : Belongs request left) (hright : Belongs request right) :
    left.operation = right.operation := by
  unfold AcceptedCommand.operation
  rw [hleft.identity.run, hleft.identity.operation, hright.identity.run, hright.identity.operation]

/-- In the authorizations of an operation, fields grow with the ordinal. -/
theorem AuthorizationsAccepted.lt_of_ordinal_lt {history : List AcceptedCommand}
    (h : AuthorizationsAccepted history) {left right : AcceptedCommand} (hleft : left ∈ history)
    (hright : right ∈ history)
    (hlt : left.dispatchAuthorizationOrdinal < right.dispatchAuthorizationOrdinal)
    {field : String × (AcceptedCommand → Int)} (hfield : field ∈ monotonicFields) :
    field.2 left < field.2 right := by
  have htrans : IsTrans AcceptedCommand (fun a b => field.2 a < field.2 b) :=
    ⟨fun _ _ _ hab hbc => hab.trans hbc⟩
  have hpairwise : history.Pairwise (fun a b => field.2 a < field.2 b) :=
    List.isChain_iff_pairwise.mp (h.increasing field hfield)
  exact rel_of_lt_of_numbered h.ordinals hpairwise hleft hright hlt

namespace Validated

variable {journal : Journal} {facts : List (MatchedHistoryFact py)} {request : QueryEcho}

/-- The rows that belong to a query are in the strict order of their ordinals. -/
theorem belongingRows_ordered (h : Validated py journal facts) (request : QueryEcho) :
    (belongingRows journal request).Pairwise (fun a b =>
      a.columns.dispatchAuthorizationOrdinal < b.columns.dispatchAuthorizationOrdinal) := by
  have hsublist := belongingRows_sublist journal request
  have hsorted := journal.selectHeads_pairwise.sublist hsublist
  have hkeys : (belongingRows journal request).Pairwise (fun a b => a.key ≠ b.key) :=
    List.pairwise_map.mp (h.nodup_keys.sublist (hsublist.map HeadRow.key))
  refine (hsorted.and hkeys).imp_of_mem ?_
  rintro left right hleft hright ⟨horder, hkey⟩
  have hoperation := (mem_belongingRows.mp hleft).2.2.operation_eq (mem_belongingRows.mp hright).2.2
  simp only [AcceptedCommand.operation, Prod.mk.injEq] at hoperation
  simp only [headOrder, hoperation.1, hoperation.2, lt_irrefl, decide_false, beq_self_eq_true,
    Bool.false_or, Bool.true_and, decide_eq_true_eq] at horder
  refine lt_of_le_of_ne horder fun hordinal => hkey ?_
  simp only [HeadRow.key, AcceptedCommand.key, hoperation.1, hoperation.2, hordinal]

end Validated

/-- Everything before the selected authorizations was searched too, and the latest of them has the
attempt number of the query. -/
structure WholeHistorySearched (journal : Journal) (request : QueryEcho) : Prop where
  earlier : ∀ head ∈ journal.heads, InSearchedRange request head →
    Belongs request head.columns.toAcceptedCommand →
    ∀ before ∈ journal.heads, before.columns.operation = head.columns.operation →
      before.columns.dispatchAuthorizationOrdinal < head.columns.dispatchAuthorizationOrdinal →
      InSearchedRange request before
  latest : ∀ head ∈ journal.heads, InSearchedRange request head →
    Belongs request head.columns.toAcceptedCommand →
    (∀ other ∈ journal.heads, InSearchedRange request other →
      Belongs request other.columns.toAcceptedCommand →
      other.columns.dispatchAuthorizationOrdinal ≤ head.columns.dispatchAuthorizationOrdinal) →
    head.columns.attemptNo = request.attemptNo

namespace Validated

variable {journal : Journal} {facts : List (MatchedHistoryFact py)} {request : QueryEcho}
variable {first : HeadRow}

/-- Two heads with one key are one head. -/
theorem head_eq_of_key (h : Validated py journal facts) {left right : HeadRow}
    (hleft : left ∈ journal.heads) (hright : right ∈ journal.heads) (hkey : left.key = right.key) :
    left = right :=
  List.inj_on_of_nodup_map h.nodup_keys (journal.mem_selectHeads.mpr hleft)
    (journal.mem_selectHeads.mpr hright) hkey

/-- An authorization of an operation is that of a head. -/
theorem exists_of_mem_history {operation : OperationKey} {command : AcceptedCommand}
    (hmem : command ∈ journal.history operation) :
    ∃ head ∈ journal.heads, head.columns.toAcceptedCommand = command ∧
      head.columns.operation = operation := by
  obtain ⟨hselected, hoperation⟩ := List.mem_filter.mp ((orderBy_perm _ _).mem_iff.mp hmem)
  obtain ⟨head, hhead, rfl⟩ := List.mem_map.mp hselected
  exact ⟨head, journal.mem_selectHeads.mp hhead, rfl, by simpa using hoperation⟩

/-- The selected ordinals are numbered from one exactly when nothing before them is left out. -/
theorem ordinals_numbered_iff (h : Validated py journal facts)
    (hall : request.authorizationSelector = .all) :
    (belongingRows journal request).map (·.columns.dispatchAuthorizationOrdinal) =
        countFromOne (belongingRows journal request).length ↔
      ∀ head ∈ journal.heads, InSearchedRange request head →
        Belongs request head.columns.toAcceptedCommand →
        ∀ before ∈ journal.heads, before.columns.operation = head.columns.operation →
          before.columns.dispatchAuthorizationOrdinal < head.columns.dispatchAuthorizationOrdinal →
          InSearchedRange request before := by
  have hordinal : ∀ head ∈ journal.heads, 1 ≤ head.columns.dispatchAuthorizationOrdinal ∧
      head.columns.dispatchAuthorizationOrdinal ≤ (journal.history head.columns.operation).length :=
    fun head hhead => bounds_of_numbered (h.histories _).ordinals (mem_history hhead)
  have hsorted := List.pairwise_map.mpr (h.belongingRows_ordered request)
  have hpos : ∀ x ∈ (belongingRows journal request).map
      (·.columns.dispatchAuthorizationOrdinal), 1 ≤ x := by
    intro x hx
    obtain ⟨head, hhead, rfl⟩ := List.mem_map.mp hx
    exact (hordinal head (mem_belongingRows.mp hhead).1).1
  have hnumbered := eq_countFromOne_iff hsorted hpos
  rw [List.length_map] at hnumbered
  rw [hnumbered]
  constructor
  · intro hdown head hhead hrange hbelongs before hbefore hoperation hlt
    have hx := List.mem_map_of_mem (f := fun row : HeadRow =>
      row.columns.dispatchAuthorizationOrdinal) (mem_belongingRows.mpr ⟨hhead, hrange, hbelongs⟩)
    obtain ⟨row, hrow, hsame⟩ := List.mem_map.mp (hdown _ hx _ (hordinal before hbefore).1 hlt)
    obtain ⟨hmem, hrowRange, hrowBelongs⟩ := mem_belongingRows.mp hrow
    have hrowOperation := hoperation.trans (hbelongs.operation_eq hrowBelongs)
    simp only [AcceptedCommand.operation, Prod.mk.injEq] at hrowOperation
    have hkey : before.key = row.key := by
      simp only [HeadRow.key, AcceptedCommand.key, hrowOperation.1, hrowOperation.2, hsame]
    rw [h.head_eq_of_key hbefore hmem hkey]
    exact hrowRange
  · intro hearlier x hx y hlow hlt
    obtain ⟨head, hhead, rfl⟩ := List.mem_map.mp hx
    obtain ⟨hmem, hrange, hbelongs⟩ := mem_belongingRows.mp hhead
    obtain ⟨command, hcommand, rfl⟩ := exists_of_numbered
      (h.histories head.columns.operation).ordinals hlow
      (hlt.le.trans (hordinal head hmem).2)
    obtain ⟨before, hbefore, rfl, hoperation⟩ := exists_of_mem_history hcommand
    refine List.mem_map_of_mem (mem_belongingRows.mpr
      ⟨hbefore, hearlier head hmem hrange hbelongs before hbefore hoperation hlt, ?_⟩)
    have hidentity := h.identity_eq hbefore hmem hoperation
    simp only [AcceptedCommand.stableIdentity, AcceptedCommand.operation, Prod.mk.injEq]
      at hidentity hoperation
    have hsame := hbelongs.identity
    exact
      { identity :=
          { run := hoperation.1.trans hsame.run
            operation := hoperation.2.trans hsame.operation
            source := hidentity.1.trans hsame.source
            kind := hidentity.2.1.trans hsame.kind
            key := hidentity.2.2.1.trans hsame.key
            request := hidentity.2.2.2.1.trans hsame.request }
        named := fun ordinal hexact => by rw [hall] at hexact; cases hexact
        attempt := fun hexact => absurd hall hexact }

/-- The attempt of the last selected row is that of the query exactly when that of the latest
authorization selected is. -/
theorem last_attempt_iff (h : Validated py journal facts)
    (hne : belongingRows journal request ≠ []) :
    ((belongingRows journal request).getLast?.map (·.columns.attemptNo)) = some request.attemptNo ↔
      ∀ head ∈ journal.heads, InSearchedRange request head →
        Belongs request head.columns.toAcceptedCommand →
        (∀ other ∈ journal.heads, InSearchedRange request other →
          Belongs request other.columns.toAcceptedCommand →
          other.columns.dispatchAuthorizationOrdinal ≤ head.columns.dispatchAuthorizationOrdinal) →
        head.columns.attemptNo = request.attemptNo := by
  obtain ⟨init, last, hrows⟩ : ∃ init last, belongingRows journal request = init ++ [last] :=
    ⟨_, _, (List.dropLast_append_getLast hne).symm⟩
  have hlast : last ∈ belongingRows journal request := by
    rw [hrows]
    exact List.mem_append_right _ (List.mem_singleton_self last)
  have hle : ∀ row ∈ belongingRows journal request, row = last ∨
      row.columns.dispatchAuthorizationOrdinal < last.columns.dispatchAuthorizationOrdinal := by
    intro row hrow
    have hordered := h.belongingRows_ordered request
    rw [hrows] at hrow hordered
    obtain hinit | hsame := List.mem_append.mp hrow
    · exact .inr ((List.pairwise_append.mp hordered).2.2 row hinit last (List.mem_singleton_self _))
    · exact .inl (List.mem_singleton.mp hsame)
  rw [hrows, List.getLast?_concat, Option.map_some, Option.some_inj]
  constructor
  · intro hattempt head hmem hrange hbelongs hmax
    obtain rfl | hlt := hle head (mem_belongingRows.mpr ⟨hmem, hrange, hbelongs⟩)
    · exact hattempt
    · obtain ⟨hlastMem, hlastRange, hlastBelongs⟩ := mem_belongingRows.mp hlast
      exact absurd (hmax last hlastMem hlastRange hlastBelongs) (not_le.mpr hlt)
  · intro hlatest
    obtain ⟨hlastMem, hlastRange, hlastBelongs⟩ := mem_belongingRows.mp hlast
    refine hlatest last hlastMem hlastRange hlastBelongs fun other hother hrange hbelongs => ?_
    obtain rfl | hlt := hle other (mem_belongingRows.mpr ⟨hother, hrange, hbelongs⟩)
    · exact le_refl _
    · exact hlt.le

/-- An exact selector selects at most one row, and the row has its ordinal and attempt number. -/
theorem exact_selected (h : Validated py journal facts) {ordinal : Int}
    (hexact : request.authorizationSelector = .exact ordinal)
    {rest : List HeadRow} (hrows : belongingRows journal request = first :: rest) :
    rest = [] ∧ first.columns.dispatchAuthorizationOrdinal = ordinal ∧
      first.columns.attemptNo = request.attemptNo := by
  have hall : ∀ row ∈ first :: rest, row.columns.dispatchAuthorizationOrdinal = ordinal ∧
      row.columns.attemptNo = request.attemptNo := by
    intro row hrow
    obtain ⟨-, -, hbelongs⟩ := mem_belongingRows.mp (hrows ▸ hrow)
    exact ⟨hbelongs.named ordinal hexact, hbelongs.attempt (by rw [hexact]; simp)⟩
  have hordered := h.belongingRows_ordered request
  rw [hrows] at hordered
  obtain ⟨hfirst, hattempt⟩ := hall first List.mem_cons_self
  refine ⟨?_, hfirst, hattempt⟩
  cases rest with
  | nil => rfl
  | cons second rest =>
    have hlt := List.rel_of_pairwise_cons hordered List.mem_cons_self
    rw [hfirst, (hall second (List.mem_cons_of_mem _ List.mem_cons_self)).1] at hlt
    exact absurd hlt (lt_irrefl _)

/-- The commands of the selected rows are authorizations of one operation. -/
theorem selected_history (hfirst : first ∈ belongingRows journal request)
    {row : HeadRow} (hrow : row ∈ belongingRows journal request) :
    row.columns.toAcceptedCommand ∈ journal.history first.columns.operation := by
  obtain ⟨hmem, -, hbelongs⟩ := mem_belongingRows.mp hrow
  have hoperation := hbelongs.operation_eq (mem_belongingRows.mp hfirst).2.2
  exact hoperation ▸ mem_history hmem

/-- The facts of the selected rows pass the checks that the result makes of each of them. -/
theorem validateMatchedFact_selected (h : Validated py journal facts) {newest : Int}
    (hnewest : (generationBounds journal).2 = some newest) {row : HeadRow}
    (hfirst : first ∈ belongingRows journal request) (hrow : row ∈ belongingRows journal request)
    {fact : MatchedHistoryFact py} (hfact : factFromRow py row = .ok fact) :
    validateMatchedFact request newest first.columns.acceptedRequirementRevisionId fact.values =
      .ok () := by
  obtain ⟨conclusion, -, hvalues⟩ := factFromRow_values hfact
  obtain ⟨hmem, hrange, hbelongs⟩ := mem_belongingRows.mp hrow
  have hidentity := hbelongs.identity
  have hhead : row.headGeneration ≤ newest := by
    have hknown := h.known row hmem
    simp only [headKnown, knownGeneration, Bool.and_eq_true, List.any_eq_true, beq_iff_eq] at hknown
    obtain ⟨generation, hgeneration, hsame⟩ := hknown.1.2
    exact hsame ▸ (newest_eq_some.mp hnewest).2 generation hgeneration
  simp only [validateMatchedFact, check_bind_eq_ok, require_eq_ok, hvalues]
  exact ⟨⟨hidentity.run, hidentity.operation, hidentity.source, hidentity.kind, hidentity.key,
    hidentity.request⟩, h.requirement_eq hrow hfirst, hrange, hhead⟩

/-- The commands of the selected rows reuse no retry reference and grow in every field that has
to. -/
theorem selected_advance (h : Validated py journal facts)
    (hfirst : first ∈ belongingRows journal request) :
    (((belongingRows journal request).map (·.columns.toAcceptedCommand)).filterMap
        (·.safeRetryCommitRef)).Nodup ∧
      ∀ field ∈ monotonicFields, strictlyIncreasing
        (((belongingRows journal request).map (·.columns.toAcceptedCommand)).map field.2) =
          true := by
  have haccepted := h.histories first.columns.operation
  have hordered := h.belongingRows_ordered request
  constructor
  · have hrefs := List.pairwise_filterMap.mp haccepted.retryRefs
    refine List.pairwise_filterMap.mpr (List.pairwise_map.mpr (hordered.imp_of_mem ?_))
    intro left right hleft hright hlt
    exact rel_of_lt_of_numbered haccepted.ordinals hrefs (selected_history hfirst hleft)
      (selected_history hfirst hright) hlt
  · intro field hfield
    rw [strictlyIncreasing_map_iff]
    refine List.Pairwise.isChain (List.pairwise_map.mpr (hordered.imp_of_mem ?_))
    intro left right hleft hright hlt
    exact haccepted.lt_of_ordinal_lt (selected_history hfirst hleft)
      (selected_history hfirst hright) hlt hfield

/-- The facts of the selected rows make a result exactly when the selector is exact or the whole
history up to the query's attempt was searched. -/
theorem validateMatchedFacts_iff (h : Validated py journal facts) {newest : Int}
    (hnewest : (generationBounds journal).2 = some newest) {matched : List (MatchedHistoryFact py)}
    (hne : belongingRows journal request ≠ [])
    (hmatched : FactsOf py (belongingRows journal request) matched) :
    validateMatchedFacts request newest matched = .ok () ↔
      request.authorizationSelector ≠ .all ∨ WholeHistorySearched journal request := by
  obtain ⟨first, rest, hrows⟩ := List.exists_cons_of_ne_nil hne
  have hfirst : first ∈ belongingRows journal request := by
    rw [hrows]
    exact List.mem_cons_self
  obtain ⟨firstFact, others, rfl, hfirstFact⟩ : ∃ firstFact others,
      matched = firstFact :: others ∧ factFromRow py first = .ok firstFact := by
    rw [hrows] at hmatched
    cases hmatched with
    | cons hfact _ => exact ⟨_, _, rfl, hfact⟩
  have hcommands := commands_of_factsOf hmatched
  have hfirstCommand := factFromRow_command py hfirstFact
  have hsorted : ((belongingRows journal request).map
      (·.columns.dispatchAuthorizationOrdinal)).Pairwise (· < ·) :=
    List.pairwise_map.mpr (h.belongingRows_ordered request)
  have hordinals : (((firstFact :: others).map (·.values.command)).map
      (·.dispatchAuthorizationOrdinal)) =
        (belongingRows journal request).map (·.columns.dispatchAuthorizationOrdinal) := by
    rw [hcommands, List.map_map]
    rfl
  have hfacts : ∀ fact ∈ firstFact :: others, validateMatchedFact request newest
      first.columns.acceptedRequirementRevisionId fact.values = .ok () := by
    intro fact hfact
    obtain ⟨row, hrow, hstated⟩ := mem_of_factsOf hmatched hfact
    exact h.validateMatchedFact_selected hnewest hfirst hrow hstated
  unfold validateMatchedFacts
  dsimp only
  rw [check_bind_eq_ok, require_eq_ok, check_bind_eq_ok, check_bind_eq_ok, checkAll_eq_ok,
    hordinals, hcommands, hfirstCommand]
  simp only [hsorted, true_and]
  cases hselector : request.authorizationSelector with
  | exact ordinal =>
    obtain ⟨rfl, hordinal, hattempt⟩ := h.exact_selected hselector hrows
    simp only [validateSelectedOrdinals, validateSelectedAttempts, hselector, hrows,
      require_eq_ok, List.map_cons, List.map_nil, hordinal, hattempt, true_and, and_true, ne_eq,
      reduceCtorEq, not_false_eq_true, true_or, iff_true]
    exact hfacts
  | all =>
    obtain ⟨hrefs, hgrow⟩ := h.selected_advance hfirst
    have hlast : ((belongingRows journal request).map (·.columns.toAcceptedCommand)).getLast?.map
        (·.attemptNo) = (belongingRows journal request).getLast?.map (·.columns.attemptNo) := by
      rw [List.getLast?_map, Option.map_map]
      rfl
    simp only [validateSelectedOrdinals, validateSelectedAttempts, hselector, check_bind_eq_ok,
      require_eq_ok, checkAll_eq_ok, List.length_map, hlast, h.ordinals_numbered_iff hselector,
      h.last_attempt_iff hne, ne_eq, not_true_eq_false, false_or]
    constructor
    · rintro ⟨hearlier, -, hlatest, -, -⟩
      exact ⟨hearlier, hlatest⟩
    · rintro ⟨hearlier, hlatest⟩
      exact ⟨hearlier, hfacts, hlatest, hrefs, hgrow⟩

end Validated

/-! ## Answers -/

/-- What the reader answers about a journal, by the branch that it takes. -/
inductive AnswerOf (journal : Journal) (request : QueryEcho) : ResultValues py → Prop
  | conflict (hreasons : reportedReasons journal request ≠ []) :
    AnswerOf journal request (.identityConflict request (reportedReasons journal request)
      (generationBounds journal).1 (generationBounds journal).2)
  | unavailable (hreasons : reportedReasons journal request = [])
      (reason : HistoryUnavailableReason) :
    AnswerOf journal request (.historyUnavailable request reason (generationBounds journal).1
      (generationBounds journal).2)
  | notFound (hreasons : reportedReasons journal request = []) (hcovered : Covered journal request)
      {oldest newest : Int} (hbounds : generationBounds journal = (some oldest, some newest))
      (hrows : belongingRows journal request = []) :
    AnswerOf journal request (.notFound request oldest newest)
  | matched (hreasons : reportedReasons journal request = []) (hcovered : Covered journal request)
      {oldest newest : Int} (hbounds : generationBounds journal = (some oldest, some newest))
      {facts : List (MatchedHistoryFact py)} (hne : belongingRows journal request ≠ [])
      (hfacts : FactsOf py (belongingRows journal request) facts) :
    AnswerOf journal request (.matched request oldest newest facts)

namespace Validated

variable {journal : Journal} {facts : List (MatchedHistoryFact py)}

/-- The answer once the range is known to be complete and free of conflicts. -/
theorem answerComplete_cases (h : Validated py journal facts) (request : QueryEcho)
    (oldest newest : Int) :
    (belongingRows journal request = [] ∧
      answerComplete py request oldest newest facts (belongingRows journal request) =
        buildResult (.notFound request oldest newest)) ∨
    ∃ matched, belongingRows journal request ≠ [] ∧
      FactsOf py (belongingRows journal request) matched ∧
      answerComplete py request oldest newest facts (belongingRows journal request) =
        match buildResult (.matched request oldest newest matched) with
        | .ok result => .ok result
        | .error _ => SourcePort.unavailable py request .corrupt (some oldest) (some newest) := by
  by_cases hrows : belongingRows journal request = []
  · exact .inl ⟨hrows, if_pos hrows⟩
  · obtain ⟨matched, hmapM, hfacts⟩ := h.exists_mapM_factsByKey
      (fun head hhead => (mem_belongingRows.mp hhead).1 : ∀ head ∈ belongingRows journal request, _)
    refine .inr ⟨matched, hrows, hfacts, ?_⟩
    unfold answerComplete
    rw [if_neg hrows, hmapM]
    rfl

/-- Every answer is that of a branch. -/
theorem answer_cases (h : Validated py journal facts) {request : QueryEcho}
    {result : SourceHistoryQueryResultV1 py}
    (hanswer : answer py journal facts request = .ok result) :
    AnswerOf journal request result.values := by
  by_cases hreasons : reportedReasons journal request = []
  · cases hcoverage : coverageFailure journal request (generationBounds journal).1
        (generationBounds journal).2 with
    | some reason =>
      rw [answer_of_uncovered hreasons hcoverage] at hanswer
      rw [(buildResult_eq_ok.mp hanswer).2]
      exact .unavailable hreasons reason
    | none =>
      obtain ⟨⟨oldest, newest, holdest, hnewest, -⟩, hcovered⟩ :=
        covered_of_coverageFailure hcoverage
      have hbounds : generationBounds journal = (some oldest, some newest) :=
        Prod.ext holdest hnewest
      rw [holdest, hnewest] at hcoverage
      rw [answer_of_complete hreasons hbounds hcoverage] at hanswer
      obtain ⟨hrows, hcomplete⟩ | ⟨matched, hne, hfacts, hcomplete⟩ :=
        h.answerComplete_cases request oldest newest
      · rw [hcomplete] at hanswer
        rw [(buildResult_eq_ok.mp hanswer).2]
        exact .notFound hreasons hcovered hbounds hrows
      · rw [hcomplete] at hanswer
        split at hanswer
        next built hbuilt =>
          cases hanswer
          rw [(buildResult_eq_ok.mp hbuilt).2]
          exact .matched hreasons hcovered hbounds hne hfacts
        next =>
          have hbranch : AnswerOf journal request (.historyUnavailable request .corrupt
              (generationBounds journal).1 (generationBounds journal).2 : ResultValues py) :=
            .unavailable hreasons .corrupt
          rw [holdest, hnewest] at hbranch
          rw [(buildResult_eq_ok.mp hanswer).2]
          exact hbranch
  · rw [answer_of_conflict hreasons] at hanswer
    rw [(buildResult_eq_ok.mp hanswer).2]
    exact .conflict hreasons

/-- The bounds of a journal are in order. -/
theorem validateAvailableBounds_generationBounds (journal : Journal) :
    validateAvailableBounds (generationBounds journal).1 (generationBounds journal).2 = .ok () := by
  unfold validateAvailableBounds
  rw [require_eq_ok]
  exact fun first hfirst last hlast => bounds_le hfirst hlast

/-- A conflict can be reported when the generations are JSON-safe. -/
theorem conflict_validates (h : Validated py journal facts) (hsafe : JsonSafeGenerations journal)
    (request : SourceHistoryQueryV1) (hreasons : reportedReasons journal request.toQueryEcho ≠ []) :
    (.identityConflict request.toQueryEcho (reportedReasons journal request.toQueryEcho)
      (generationBounds journal).1 (generationBounds journal).2 : ResultValues py).validate =
        .ok () := by
  have hnodup : (reportedReasons journal request.toQueryEcho).Nodup := by
    unfold reportedReasons
    rw [h.conflictReasons_eq]
    exact (foldl_addReason List.nodup_nil).1
  rw [validate_eq_ok request rfl]
  refine ⟨h.bounds_fields hsafe, ?_⟩
  simp only [validateOutcome, check_bind_eq_ok, require_eq_ok]
  exact ⟨hreasons, hnodup, validateAvailableBounds_generationBounds journal⟩

/-- An unavailable history can be reported when the generations are JSON-safe. -/
theorem unavailable_validates (h : Validated py journal facts) (hsafe : JsonSafeGenerations journal)
    (request : SourceHistoryQueryV1) {reason : HistoryUnavailableReason}
    (hreason : reason = .unknownGeneration → ∀ last ∈ (generationBounds journal).2,
      last < request.searchedLastGeneration) :
    (.historyUnavailable request.toQueryEcho reason (generationBounds journal).1
      (generationBounds journal).2 : ResultValues py).validate = .ok () := by
  rw [validate_eq_ok request rfl]
  refine ⟨h.bounds_fields hsafe, ?_⟩
  simp only [validateOutcome, check_bind_eq_ok, require_eq_ok]
  exact ⟨validateAvailableBounds_generationBounds journal, hreason⟩

/-- That nothing was found can be reported of a range within JSON-safe bounds. -/
theorem notFound_validates (h : Validated py journal facts) (hsafe : JsonSafeGenerations journal)
    (request : SourceHistoryQueryV1) {oldest newest : Int}
    (hbounds : generationBounds journal = (some oldest, some newest))
    (holdest : oldest ≤ request.searchedFirstGeneration)
    (hnewest : request.searchedLastGeneration ≤ newest) :
    (.notFound request.toQueryEcho oldest newest : ResultValues py).validate = .ok () := by
  have hfields := h.bounds_fields hsafe
  rw [hbounds] at hfields
  rw [validate_eq_ok request rfl]
  refine ⟨hfields, ?_⟩
  simp only [validateOutcome, validateCompleteCoverage, require_eq_ok]
  exact ⟨holdest, request.range_le, hnewest⟩

/-- The facts of the selected rows can be reported of a range within JSON-safe bounds exactly when
the selector is exact or the whole history up to the query's attempt was searched. -/
theorem matched_validates_iff (h : Validated py journal facts) (hsafe : JsonSafeGenerations journal)
    (request : SourceHistoryQueryV1) {oldest newest : Int}
    (hbounds : generationBounds journal = (some oldest, some newest))
    (holdest : oldest ≤ request.searchedFirstGeneration)
    (hnewest : request.searchedLastGeneration ≤ newest) {matched : List (MatchedHistoryFact py)}
    (hne : belongingRows journal request.toQueryEcho ≠ [])
    (hmatched : FactsOf py (belongingRows journal request.toQueryEcho) matched) :
    (ResultValues.matched request.toQueryEcho oldest newest matched).validate = .ok () ↔
      request.authorizationSelector ≠ .all ∨ WholeHistorySearched journal request.toQueryEcho := by
  have hfields := h.bounds_fields hsafe
  rw [hbounds] at hfields
  have hbound : (generationBounds journal).2 = some newest := by rw [hbounds]
  rw [validate_eq_ok request rfl, ← h.validateMatchedFacts_iff hbound hne hmatched]
  simp only [validateOutcome, check_bind_eq_ok, validateCompleteCoverage, require_eq_ok]
  exact ⟨fun ⟨_, _, hvalid⟩ => hvalid,
    fun hvalid => ⟨hfields, ⟨holdest, request.range_le, hnewest⟩, hvalid⟩⟩

end Validated

/-- The phase that a conclusion states. -/
def Conclusion.phase : Conclusion → Phase
  | .acceptedNoDispatch => .accepted
  | .dispatchNotObserved _ => .dispatchIntent
  | .observedResult _ _ => .observedResult
  | .observedFailure _ _ => .observedFailure

/-- A head gives the conclusion of its phase. -/
theorem conclusionFromRow_phase {conclusion : Conclusion}
    (h : conclusionFromRow head = some conclusion) : conclusion.phase = head.phase := by
  unfold conclusionFromRow at h
  cases hphase : head.phase with
  | accepted =>
    rw [hphase] at h
    cases h
    rfl
  | dispatchIntent =>
    rw [hphase] at h
    obtain ⟨dispatch, -, rfl⟩ := Option.map_eq_some_iff.mp h
    rfl
  | observedResult | observedFailure =>
    rw [hphase] at h
    obtain ⟨dispatch, -, h⟩ := Option.bind_eq_some_iff.mp h
    obtain ⟨observation, -, h⟩ := Option.bind_eq_some_iff.mp h
    cases h
    rfl

/-- A fact states a head: its columns, with the conclusion of its phase. -/
structure States (head : HeadRow) (fact : MatchedHistoryFact py) : Prop where
  columns : fact.values = head.factValues fact.values.conclusion
  phase : fact.values.conclusion.phase = head.phase

/-- A loaded fact states its head. -/
theorem states_of_factFromRow (h : factFromRow py head = .ok fact) : States head fact := by
  obtain ⟨conclusion, hconclusion, hvalues⟩ := factFromRow_values h
  have hsame : fact.values.conclusion = conclusion := by rw [hvalues]
  exact ⟨by rw [hsame]; exact hvalues, by rw [hsame]; exact conclusionFromRow_phase hconclusion⟩

/-- An answer is right about a journal: nothing found means that nothing in a fully retained range
belongs to or collides with the query, the facts matched are those of exactly the heads that belong,
and a conflict is reported exactly when a head collides, with a reason. -/
structure Answers (journal : Journal) (request : QueryEcho) (values : ResultValues py) : Prop where
  echo : values.echo = request
  notFound : values.outcome = .notFound → Covered journal request ∧ ∀ head ∈ journal.heads,
    InSearchedRange request head → ¬ Belongs request head.columns.toAcceptedCommand ∧
      ¬ Collides request head.columns.toAcceptedCommand
  matched : ∀ oldest newest facts, values = .matched request oldest newest facts →
    ∃ heads : List HeadRow, heads ≠ [] ∧
      (∀ head, head ∈ heads ↔ head ∈ journal.heads ∧ InSearchedRange request head ∧
        Belongs request head.columns.toAcceptedCommand) ∧
      heads.Pairwise (fun a b =>
        a.columns.dispatchAuthorizationOrdinal < b.columns.dispatchAuthorizationOrdinal) ∧
      List.Forall₂ States heads facts
  conflict : values.outcome = .identityConflict ↔ ∃ head ∈ journal.heads,
    InSearchedRange request head ∧ Collides request head.columns.toAcceptedCommand
  reasons : ∀ reasons oldest newest, values = .identityConflict request reasons oldest newest →
    reasons ≠ [] ∧ ∀ reason ∈ reasons, ∃ head ∈ journal.heads, InSearchedRange request head ∧
      Collides request head.columns.toAcceptedCommand ∧ reason ∈ mismatches request head

namespace Validated

variable {journal : Journal} {facts : List (MatchedHistoryFact py)}

/-- The answer of every branch is right. -/
theorem answers_of_branch (h : Validated py journal facts) {request : QueryEcho}
    {values : ResultValues py} (hanswer : AnswerOf journal request values) :
    Answers journal request values := by
  have hnone : reportedReasons journal request = [] → ¬ ∃ head ∈ journal.heads,
      InSearchedRange request head ∧ Collides request head.columns.toAcceptedCommand :=
    fun hreasons hcollides => h.conflictReasons_ne_nil.mpr hcollides hreasons
  cases hanswer with
  | conflict hreasons =>
    have hcollides := h.conflictReasons_ne_nil.mp hreasons
    refine ⟨rfl, nofun, nofun, ⟨fun _ => hcollides, fun _ => rfl⟩, ?_⟩
    rintro reasons oldest newest hvalues
    cases hvalues
    refine ⟨hreasons, fun reason hreason => ?_⟩
    obtain ⟨head, hhead, hmismatch⟩ := h.mem_conflictReasons.mp hreason
    obtain ⟨hmem, hrange, hcollides⟩ := mem_collidingRows.mp hhead
    exact ⟨head, hmem, hrange, hcollides, hmismatch⟩
  | unavailable hreasons reason =>
    exact ⟨rfl, nofun, nofun, ⟨nofun, fun hcollides => absurd hcollides (hnone hreasons)⟩, nofun⟩
  | notFound hreasons hcovered hbounds hrows =>
    refine ⟨rfl, fun _ =>
      ⟨hcovered, fun head hmem hrange => ⟨fun hbelongs => ?_, fun hcollides => ?_⟩⟩, nofun,
        ⟨nofun, fun hcollides => absurd hcollides (hnone hreasons)⟩, nofun⟩
    · have hrow := mem_belongingRows.mpr ⟨hmem, hrange, hbelongs⟩
      rw [hrows] at hrow
      exact absurd hrow List.not_mem_nil
    · exact hnone hreasons ⟨head, hmem, hrange, hcollides⟩
  | matched hreasons hcovered hbounds hne hfacts =>
    refine ⟨rfl, nofun, ?_, ⟨nofun, fun hcollides => absurd hcollides (hnone hreasons)⟩, nofun⟩
    rintro oldest newest matched hvalues
    cases hvalues
    exact ⟨belongingRows journal request, hne, fun _ =>
      mem_belongingRows, h.belongingRows_ordered _,
        hfacts.imp (fun _ _ hstated => states_of_factFromRow hstated)⟩

/-- A journal with JSON-safe generations gets an answer to every query. -/
theorem exists_answer (h : Validated py journal facts) (hsafe : JsonSafeGenerations journal)
    (request : SourceHistoryQueryV1) :
    ∃ result, answer py journal facts request.toQueryEcho = .ok result := by
  by_cases hreasons : reportedReasons journal request.toQueryEcho = []
  · cases hcoverage : coverageFailure journal request.toQueryEcho (generationBounds journal).1
        (generationBounds journal).2 with
    | some reason =>
      rw [answer_of_uncovered hreasons hcoverage]
      refine exists_buildResult.mpr (h.unavailable_validates hsafe request ?_)
      rintro rfl last hlast
      exact lt_of_unknownGeneration hcoverage hlast
    | none =>
      obtain ⟨⟨oldest, newest, holdest, hnewest, hlow, hhigh⟩, -⟩ :=
        covered_of_coverageFailure hcoverage
      have hbounds : generationBounds journal = (some oldest, some newest) :=
        Prod.ext holdest hnewest
      rw [holdest, hnewest] at hcoverage
      rw [answer_of_complete hreasons hbounds hcoverage]
      obtain ⟨-, hcomplete⟩ | ⟨matched, -, -, hcomplete⟩ :=
        h.answerComplete_cases request.toQueryEcho oldest newest
      · rw [hcomplete]
        exact exists_buildResult.mpr (h.notFound_validates hsafe request hbounds hlow hhigh)
      · rw [hcomplete]
        have hcorrupt : (.historyUnavailable request.toQueryEcho .corrupt
            (generationBounds journal).1 (generationBounds journal).2 : ResultValues py).validate =
              .ok () := h.unavailable_validates hsafe request nofun
        rw [holdest, hnewest] at hcorrupt
        split
        next result _ => exact ⟨result, rfl⟩
        next => exact exists_buildResult.mpr hcorrupt
  · rw [answer_of_conflict hreasons]
    exact exists_buildResult.mpr (h.conflict_validates hsafe request hreasons)

end Validated

/-- The query about the sample command with the given operation, key, attempt and selector. -/
def sampleEcho (operation key : String) (attempt : Int) (selector : AuthorizationSelector) :
    QueryEcho where
  runId := "run"
  operationId := operation
  source := "liepin"
  operationKind := "cards"
  idempotencyKey := key
  requestHash := sampleDigest
  attemptNo := attempt
  authorizationSelector := selector
  searchedFirstGeneration := 1
  searchedLastGeneration := 1
  expectedSourceOperationLedgerRevision := 1
  expectedReconciliationRevision := 0

/-- The query about the first authorization of the sample command. -/
def sampleQuery : SourceHistoryQueryV1 where
  toQueryEcho := sampleEcho "operation" "key" 1 (.exact 1)
  fields := by decide +kernel
  range := by decide +kernel

/-- The query about another operation of the run of the sample command. -/
def otherOperationQuery : SourceHistoryQueryV1 where
  toQueryEcho := sampleEcho "other" "other-key" 1 (.exact 1)
  fields := by decide +kernel
  range := by decide +kernel

/-- The query about all authorizations of the sample command that expects a second attempt. -/
def secondAttemptQuery : SourceHistoryQueryV1 where
  toQueryEcho := sampleEcho "operation" "key" 2 .all
  fields := by decide +kernel
  range := by decide +kernel

/-- Every answer of the reader about a validated journal is right, and a journal with JSON-safe
generations gets one. -/
theorem query_answers (py : PythonRuntime) {journal : Journal}
    (hvalid : openValidated py journal = .ok ()) (request : SourceHistoryQueryV1) :
    (∀ result, query py journal request = .ok result →
      Answers journal request.toQueryEcho result.values) ∧
    (JsonSafeGenerations journal → ∃ result, query py journal request = .ok result) := by
  obtain ⟨facts, hjournal, hquery⟩ := validated_of_openValidated hvalid
  rw [hquery]
  exact ⟨fun _ hanswer => hjournal.answers_of_branch (hjournal.answer_cases hanswer),
    fun hsafe => hjournal.exists_answer hsafe request⟩

/-- The sample journal answers the query about its command. -/
theorem query_answers_sample : openValidated asciiRuntime sampleHistory = .ok () ∧
    ∃ result, query asciiRuntime sampleHistory sampleQuery = .ok result :=
  ⟨sampleHistory_valid, (query_answers asciiRuntime sampleHistory_valid sampleQuery).2
    (by unfold JsonSafeGenerations; decide)⟩

/-- A head that shares the run of a query and differs in the operation is no conflict. -/
theorem shared_run_is_no_conflict :
    openValidated asciiRuntime sampleHistory = .ok () ∧ sampleHead ∈ sampleHistory.heads ∧
      InSearchedRange otherOperationQuery.toQueryEcho sampleHead ∧
      sampleHead.columns.runId = otherOperationQuery.runId ∧
      sampleHead.columns.operationId ≠ otherOperationQuery.operationId ∧
      (query asciiRuntime sampleHistory otherOperationQuery).toOption.map (·.values.outcome) =
        some .notFound := by
  refine ⟨sampleHistory_valid, List.mem_singleton_self _, ?_, rfl, ?_, ?_⟩
  · exact inSearchedRange_iff.mp (by decide)
  · decide
  · decide +kernel

namespace Validated

variable {journal : Journal} {facts : List (MatchedHistoryFact py)}

/-- An answer about the history has the bounds of the journal. -/
theorem bounds_of_branch {request : QueryEcho} {values : ResultValues py}
    (hanswer : AnswerOf journal request values) : values.bounds = generationBounds journal := by
  cases hanswer with
  | conflict | unavailable => rfl
  | notFound _ _ hbounds | matched _ _ hbounds => exact hbounds.symm

/-- A range of retained and complete generations is answered from the history exactly when the
result models admit the answer. -/
theorem available_iff (h : Validated py journal facts) (hkey : journal.GenerationKey)
    (request : SourceHistoryQueryV1) (hcovered : Covered journal request.toQueryEcho) :
    (∃ result, answer py journal facts request.toQueryEcho = .ok result ∧
        result.values.outcome ≠ .historyUnavailable) ↔
      JsonSafeGenerations journal ∧ (request.authorizationSelector ≠ .all ∨
        (∃ head ∈ journal.heads, InSearchedRange request.toQueryEcho head ∧
          Collides request.toQueryEcho head.columns.toAcceptedCommand) ∨
        WholeHistorySearched journal request.toQueryEcho) := by
  obtain ⟨oldest, newest, hbounds, hlow, hhigh⟩ := bounds_of_covered hcovered request.range_le
  constructor
  · rintro ⟨result, hanswer, houtcome⟩
    have hbranch := h.answer_cases hanswer
    have hfields : result.values.bounds.2.all positiveJsonInteger = true :=
      ((validate_eq_ok request (h.answers_of_branch hbranch).echo).mp result.valid).1.2
    have hsafe : JsonSafeGenerations journal := by
      by_contra hunsafe
      obtain ⟨last, hlast, hinvalid⟩ := newest_unsafe hunsafe
      rw [bounds_of_branch hbranch, hlast, Option.all_some, hinvalid] at hfields
      cases hfields
    refine ⟨hsafe, ?_⟩
    have hresult := result.valid
    generalize hvalues : result.values = values at hbranch houtcome hresult
    cases hbranch with
    | conflict hreasons => exact .inr (.inl (h.conflictReasons_ne_nil.mp hreasons))
    | unavailable => exact absurd rfl houtcome
    | notFound _ _ _ hrows =>
      have hempty : ∀ head ∈ journal.heads, InSearchedRange request.toQueryEcho head →
          ¬ Belongs request.toQueryEcho head.columns.toAcceptedCommand := by
        intro head hmem hrange hbelongs
        have hrow := mem_belongingRows.mpr ⟨hmem, hrange, hbelongs⟩
        rw [hrows] at hrow
        exact absurd hrow List.not_mem_nil
      exact .inr (.inr
        ⟨fun head hmem hrange hbelongs => absurd hbelongs (hempty head hmem hrange),
          fun head hmem hrange hbelongs => absurd hbelongs (hempty head hmem hrange)⟩)
    | matched _ _ hown hne hfacts =>
      rw [hbounds] at hown
      cases hown
      exact ((h.matched_validates_iff hsafe request hbounds hlow hhigh hne hfacts).mp
        hresult).imp_right .inr
  · rintro ⟨hsafe, hcondition⟩
    by_cases hreasons : reportedReasons journal request.toQueryEcho = []
    · have hcoverage := coverageFailure_of_covered hkey hcovered request.range_le hlow hhigh
      rw [answer_of_complete hreasons hbounds hcoverage]
      obtain ⟨-, hcomplete⟩ | ⟨matched, hne, hfacts, hcomplete⟩ :=
        h.answerComplete_cases request.toQueryEcho oldest newest
      · rw [hcomplete]
        obtain ⟨result, hresult⟩ :=
          exists_buildResult.mpr (h.notFound_validates hsafe request hbounds hlow hhigh)
        refine ⟨result, hresult, ?_⟩
        rw [(buildResult_eq_ok.mp hresult).2]
        nofun
      · have hadmitted : request.authorizationSelector ≠ .all ∨
            WholeHistorySearched journal request.toQueryEcho := by
          obtain hexact | hcollides | hwhole := hcondition
          · exact .inl hexact
          · exact absurd hreasons (h.conflictReasons_ne_nil.mpr hcollides)
          · exact .inr hwhole
        obtain ⟨result, hresult⟩ := exists_buildResult.mpr
          ((h.matched_validates_iff hsafe request hbounds hlow hhigh hne hfacts).mpr hadmitted)
        refine ⟨result, ?_, ?_⟩
        · rw [hcomplete, hresult]
        · rw [(buildResult_eq_ok.mp hresult).2]
          nofun
    · rw [answer_of_conflict hreasons]
      obtain ⟨result, hresult⟩ :=
        exists_buildResult.mpr (h.conflict_validates hsafe request hreasons)
      refine ⟨result, hresult, ?_⟩
      rw [(buildResult_eq_ok.mp hresult).2]
      nofun

end Validated

/-- A query about retained and complete generations of a validated journal is answered from the
history exactly when the generations are JSON-safe and the selector is exact, a head collides with
the queried identity, or everything before the selected authorizations was searched with the attempt
number of the latest of them. -/
theorem query_available_iff (py : PythonRuntime) {journal : Journal}
    (hvalid : openValidated py journal = .ok ()) (hkey : journal.GenerationKey)
    (request : SourceHistoryQueryV1) (hcovered : Covered journal request.toQueryEcho) :
    (∃ result, query py journal request = .ok result ∧
        result.values.outcome ≠ .historyUnavailable) ↔
      JsonSafeGenerations journal ∧ (request.authorizationSelector ≠ .all ∨
        (∃ head ∈ journal.heads, InSearchedRange request.toQueryEcho head ∧
          Collides request.toQueryEcho head.columns.toAcceptedCommand) ∨
        WholeHistorySearched journal request.toQueryEcho) := by
  obtain ⟨facts, hjournal, hquery⟩ := validated_of_openValidated hvalid
  rw [hquery]
  exact hjournal.available_iff hkey request hcovered

/-- The only generation of the sample journal is retained and complete. -/
theorem sampleHistory_covered (request : QueryEcho) (hfirst : request.searchedFirstGeneration = 1)
    (hlast : request.searchedLastGeneration = 1) : Covered sampleHistory request := by
  intro generation hlow hhigh
  have hone : generation = 1 := by omega
  exact ⟨⟨1, sampleDigest, 1, 1⟩, List.mem_singleton_self _, hone.symm, rfl, rfl⟩

/-- The query about the first authorization of the sample command is answered. -/
theorem query_available_sample :
    ∃ result, query asciiRuntime sampleHistory sampleQuery = .ok result ∧
      result.values.outcome ≠ .historyUnavailable :=
  (query_available_iff asciiRuntime sampleHistory_valid (List.nodup_singleton _) sampleQuery
    (sampleHistory_covered _ rfl rfl)).mpr
      ⟨by unfold JsonSafeGenerations; decide, .inl (by decide)⟩

/-- A validated journal is reported corrupt for a query about all authorizations of an operation
that expects another attempt than the latest. -/
theorem all_selector_reports_corrupt :
    openValidated asciiRuntime sampleHistory = .ok () ∧ sampleHistory.GenerationKey ∧
      Covered sampleHistory secondAttemptQuery.toQueryEcho ∧
      (query asciiRuntime sampleHistory secondAttemptQuery).toOption.map (·.values.outcome) =
        some .historyUnavailable :=
  ⟨sampleHistory_valid, List.nodup_singleton _, sampleHistory_covered _ rfl rfl, by decide +kernel⟩

end SeekTalent.SourcePort
