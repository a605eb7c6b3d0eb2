import Mathlib.Data.Prod.Lex
import Mathlib.Data.String.Basic
import SeekTalent.SourcePort.HistoryQueries
import SeekTalent.SourcePort.JournalInvariant

/-!
# What a history query reads

What the reader's validation establishes of a journal (`Validated`), and the parts of a query in
terms of it: which heads belong to the queried identity and which collide with it, when a conflict
is reported, and when the searched generations are covered.  Nothing here supposes that the journal
was written by this program.
-/

namespace SeekTalent.SourcePort

open Foundation

variable {py : PythonRuntime}
variable {journal : Journal} {request : QueryEcho} {command : AcceptedCommand} {head : HeadRow}
  {last : Int}
variable {reasons : List IdentityConflictReason} {first : Int}

/-! ## What validation establishes -/

/-- The authorizations of one operation, by their ordinals. -/
def Journal.history (journal : Journal) (operation : OperationKey) : List AcceptedCommand :=
  orderBy (·.dispatchAuthorizationOrdinal)
    ((journal.selectHeads.map (·.columns.toAcceptedCommand)).filter
      (fun command => command.operation == operation))

/-- The authorizations of an operation as `_validate_authorization_histories` accepts them. -/
structure AuthorizationsAccepted (history : List AcceptedCommand) : Prop where
  ordinals : history.map (·.dispatchAuthorizationOrdinal) = countFromOne history.length
  identity : ∀ command ∈ history,
    some command.stableIdentity = history.head?.map (·.stableIdentity)
  retryRefs : (history.filterMap (·.safeRetryCommitRef)).Nodup
  increasing : ∀ field ∈ monotonicFields, history.IsChain (fun a b => field.2 a < field.2 b)

/-- A journal that the reader accepts, with the facts that it loads. -/
structure Validated (py : PythonRuntime) (journal : Journal)
    (facts : List (MatchedHistoryFact py)) : Prop where
  loaded : journal.selectHeads.mapM (factFromRow py) = .ok facts
  histories : ∀ operation, AuthorizationsAccepted (journal.history operation)
  known : ∀ head ∈ journal.heads, headKnown journal head = true
  generations : ∀ row ∈ journal.generations, generationRowCheck row = true

/-- The validation of one operation accepts exactly the accepted authorizations. -/
theorem validateAuthorizationHistory_eq_ok {commands : List AcceptedCommand} :
    validateAuthorizationHistory commands = .ok () ↔
      AuthorizationsAccepted (orderBy (·.dispatchAuthorizationOrdinal) commands) := by
  simp only [validateAuthorizationHistory, check_bind_eq_ok, require_eq_ok, checkAll_eq_ok,
    strictlyIncreasing_map_iff]
  exact ⟨fun ⟨hordinals, hidentity, hrefs, hfields⟩ => ⟨hordinals, hidentity, hrefs, hfields⟩,
    fun h => ⟨h.ordinals, h.identity, h.retryRefs, h.increasing⟩⟩

theorem AuthorizationsAccepted.nil : AuthorizationsAccepted [] where
  ordinals := rfl
  identity := by simp
  retryRefs := List.nodup_nil
  increasing := fun _ _ => List.isChain_nil

/-- Every operation of a journal whose facts pass the validation has accepted authorizations. -/
theorem history_accepted
    (h : validateAuthorizationHistories (journal.selectHeads.map (·.columns.toAcceptedCommand)) =
      .ok ()) (operation : OperationKey) : AuthorizationsAccepted (journal.history operation) := by
  simp only [validateAuthorizationHistories, checkAll_eq_ok, List.mem_eraseDups] at h
  by_cases hoperation : operation ∈
      (journal.selectHeads.map (·.columns.toAcceptedCommand)).map (·.operation)
  · exact validateAuthorizationHistory_eq_ok.mp (h operation hoperation)
  · have hempty : (journal.selectHeads.map (·.columns.toAcceptedCommand)).filter
        (fun command => command.operation == operation) = [] := by
      rw [List.filter_eq_nil_iff]
      intro command hcommand hop
      exact hoperation (List.mem_map.mpr ⟨command, hcommand, by simpa using hop⟩)
    unfold Journal.history
    rw [hempty]
    exact AuthorizationsAccepted.nil

/-- A journal that passes the validation is validated, and the queries about it are answered from
the facts that were loaded. -/
theorem validated_of_openValidated (h : openValidated py journal = .ok ()) :
    ∃ facts, Validated py journal facts ∧ ∀ request : SourceHistoryQueryV1,
      query py journal request = answer py journal facts request.toQueryEcho := by
  unfold openValidated at h
  rw [check_bind_eq_ok, bind_eq_ok] at h
  obtain ⟨hschema, facts, hload, -⟩ := h
  have hquery : ∀ request : SourceHistoryQueryV1,
      query py journal request = answer py journal facts request.toQueryEcho := by
    intro request
    unfold query
    rw [hschema, hload]
  have hloaded := hload
  unfold loadValidatedHistoryFacts at hloaded
  rw [bind_eq_ok] at hloaded
  obtain ⟨found, hfound, hrest⟩ := hloaded
  rw [check_bind_eq_ok] at hrest
  obtain ⟨hhistories, hsame⟩ := hrest
  obtain rfl : found = facts := pure_eq_ok.mp hsame
  rw [mapError_eq_ok] at hfound hhistories
  rw [commands_of_loaded py hfound] at hhistories
  simp only [verifySchema, verifyJournalConsistency, check_bind_eq_ok, require_eq_ok,
    foreignKeysHold, Bool.and_eq_true, List.all_eq_true] at hschema
  obtain ⟨-, ⟨-, hknown⟩, -, hgenerations, -⟩ := hschema
  refine ⟨found, ⟨hfound, history_accepted hhistories, hknown, ?_⟩, hquery⟩
  intro row hrow
  exact hgenerations row ((orderBy_perm _ _).mem_iff.mpr hrow)

namespace Validated

variable {journal : Journal} {facts : List (MatchedHistoryFact py)}

/-- No two heads have one key. -/
theorem nodup_keys (h : Validated py journal facts) :
    (journal.selectHeads.map HeadRow.key).Nodup := by
  have hgroups : ∀ operation, (((journal.selectHeads.map (·.columns.toAcceptedCommand)).filter
      (fun command => command.operation == operation)).map
        (·.dispatchAuthorizationOrdinal)).Nodup := by
    intro operation
    have hordinals : ((journal.history operation).map (·.dispatchAuthorizationOrdinal)).Nodup := by
      rw [(h.histories operation).ordinals]
      exact (countFromOne_pairwise _).imp (fun hlt => ne_of_lt hlt)
    exact ((orderBy_perm _ _).map _).nodup_iff.mp hordinals
  have hpairs := nodup_map_of_groups hgroups
  rw [List.map_map] at hpairs
  have hassoc : (journal.selectHeads.map HeadRow.key) = (journal.selectHeads.map
      ((fun command : AcceptedCommand =>
        (command.operation, command.dispatchAuthorizationOrdinal)) ∘
        (fun head => head.columns.toAcceptedCommand))).map
        (fun pair => (pair.1.1, pair.1.2, pair.2)) := by
    rw [List.map_map]
    rfl
  rw [hassoc]
  refine hpairs.map ?_
  rintro ⟨⟨_, _⟩, _⟩ ⟨⟨_, _⟩, _⟩ hsame
  simp only [Prod.mk.injEq] at hsame ⊢
  exact ⟨⟨hsame.1, hsame.2.1⟩, hsame.2.2⟩

/-- The fact under the key of a head is the fact that the head states. -/
theorem factsByKey_of_mem (h : Validated py journal facts) (hmem : head ∈ journal.heads) :
    ∃ fact, factFromRow py head = .ok fact ∧ factsByKey facts head = .ok fact := by
  have hkeys : facts.map (fun fact => fact.values.command.key) =
      journal.selectHeads.map HeadRow.key := by
    have hcommands := congrArg (List.map AcceptedCommand.key) (commands_of_loaded py h.loaded)
    rw [List.map_map, List.map_map] at hcommands
    exact hcommands
  obtain ⟨fact, hfact, hrow⟩ := mapM_ok_of_mem h.loaded (journal.mem_selectHeads.mpr hmem)
  refine ⟨fact, hrow, ?_⟩
  have hkey : fact.values.command.key = head.key := by
    rw [factFromRow_command py hrow]
    rfl
  unfold factsByKey
  rw [← hkey, rowAt_of_mem (hkeys ▸ h.nodup_keys) hfact]

/-- The facts of selected heads are looked up one by one. -/
theorem exists_mapM_factsByKey (h : Validated py journal facts) {heads : List HeadRow}
    (hheads : ∀ head ∈ heads, head ∈ journal.heads) :
    ∃ matched, heads.mapM (factsByKey facts) = .ok matched ∧
      List.Forall₂ (fun head fact => factFromRow py head = .ok fact) heads matched := by
  induction heads with
  | nil => exact ⟨[], rfl, .nil⟩
  | cons head rest ih =>
    obtain ⟨fact, hfact, hlookup⟩ := h.factsByKey_of_mem (hheads head List.mem_cons_self)
    obtain ⟨matched, hmatched, hforall⟩ :=
      ih (fun row hrow => hheads row (List.mem_cons_of_mem _ hrow))
    refine ⟨fact :: matched, ?_, .cons hfact hforall⟩
    rw [List.mapM_cons, hlookup]
    simp only [bind_eq_ok, pure_eq_ok]
    exact ⟨fact, rfl, matched, hmatched, rfl⟩

end Validated

/-! ## Selected heads -/

/-- The position of a head in the selection order. -/
def headRank (head : HeadRow) : String ×ₗ String ×ₗ Int :=
  toLex (head.columns.runId, toLex (head.columns.operationId,
    head.columns.dispatchAuthorizationOrdinal))

/-- The selection order of heads is the lexicographic order of their keys. -/
theorem headOrder_iff {left right : HeadRow} :
    headOrder left right = true ↔ headRank left ≤ headRank right := by
  simp [headOrder, headRank, Prod.Lex.toLex_le_toLex]

/-- The selected heads are in the order of their keys. -/
theorem Journal.selectHeads_pairwise (journal : Journal) :
    journal.selectHeads.Pairwise (fun a b => headOrder a b = true) := by
  have htotal : Std.Total (fun a b : HeadRow => headOrder a b = true) :=
    ⟨fun a b => by rw [headOrder_iff, headOrder_iff]; exact le_total _ _⟩
  have htrans : IsTrans HeadRow (fun a b => headOrder a b = true) :=
    ⟨fun a b c hab hbc => by rw [headOrder_iff] at *; exact hab.trans hbc⟩
  exact List.pairwise_insertionSort _ _

/-- A command has the six identity columns of a query. -/
structure SameIdentity (request : QueryEcho) (command : AcceptedCommand) : Prop where
  run : command.runId = request.runId
  operation : command.operationId = request.operationId
  source : command.source = request.source
  kind : command.operationKind = request.operationKind
  key : command.idempotencyKey = request.idempotencyKey
  request : command.requestHash = request.requestHash

/-- A command has the authorization a selector names: the ordinal alone. -/
def NamedBySelector (request : QueryEcho) (command : AcceptedCommand) : Prop :=
  ∀ ordinal, request.authorizationSelector = .exact ordinal →
    command.dispatchAuthorizationOrdinal = ordinal

/-- Under an exact selector a command has the attempt number of the query. -/
def SameAttempt (request : QueryEcho) (command : AcceptedCommand) : Prop :=
  request.authorizationSelector ≠ .all → command.attemptNo = request.attemptNo

/-- A command belongs to the queried identity under the query's authorization selector. -/
structure Belongs (request : QueryEcho) (command : AcceptedCommand) : Prop where
  identity : SameIdentity request command
  named : NamedBySelector request command
  attempt : SameAttempt request command

/-- A command shares two of run, operation and idempotency key with the query. -/
def SharesAlias (request : QueryEcho) (command : AcceptedCommand) : Prop :=
  (command.runId = request.runId ∧ command.operationId = request.operationId) ∨
    (command.runId = request.runId ∧ command.idempotencyKey = request.idempotencyKey) ∨
    (command.operationId = request.operationId ∧
      command.idempotencyKey = request.idempotencyKey)

/-- A command collides with the queried identity: it shares an alias with it and differs in an
identity column, or in the attempt number when it is the authorization that is asked for. -/
structure Collides (request : QueryEcho) (command : AcceptedCommand) : Prop where
  shares : SharesAlias request command
  differs : ¬ SameIdentity request command ∨
    (NamedBySelector request command ∧ ¬ SameAttempt request command)

@[simp] theorem ordinalMatches_iff :
    ordinalMatches request command = true ↔ NamedBySelector request command := by
  unfold ordinalMatches NamedBySelector
  cases request.authorizationSelector <;> simp

@[simp] theorem attemptMatches_iff :
    attemptMatches request command = true ↔ SameAttempt request command := by
  unfold attemptMatches SameAttempt
  cases request.authorizationSelector <;> simp

@[simp] theorem stableIdentityMatches_iff :
    stableIdentityMatches request command = true ↔ SameIdentity request command := by
  simp only [stableIdentityMatches, Bool.and_eq_true, beq_iff_eq]
  exact ⟨fun ⟨⟨⟨⟨⟨hrun, hop⟩, hsource⟩, hkind⟩, hkey⟩, hhash⟩ =>
    ⟨hrun, hop, hsource, hkind, hkey, hhash⟩,
    fun h => ⟨⟨⟨⟨⟨h.run, h.operation⟩, h.source⟩, h.kind⟩, h.key⟩, h.request⟩⟩

@[simp] theorem sharesAlias_iff :
    sharesAlias request command = true ↔ SharesAlias request command := by
  simp only [sharesAlias, SharesAlias, Bool.or_eq_true, Bool.and_eq_true, beq_iff_eq]
  tauto

/-- The rows of the first part are those that belong to the query. -/
theorem rowPart_eq_exact :
    rowPart request command = .exact ↔ Belongs request command := by
  have hbelongs : (ordinalMatches request command && stableIdentityMatches request command &&
      attemptMatches request command) = true ↔ Belongs request command := by
    simp only [Bool.and_eq_true, ordinalMatches_iff, stableIdentityMatches_iff, attemptMatches_iff]
    exact ⟨fun ⟨⟨hnamed, hsame⟩, hattempt⟩ => ⟨hsame, hnamed, hattempt⟩,
      fun h => ⟨⟨h.named, h.identity⟩, h.attempt⟩⟩
  unfold rowPart
  split
  next h => exact ⟨fun _ => hbelongs.mp h, fun _ => rfl⟩
  next h =>
    refine ⟨fun hpart => ?_, fun hb => absurd (hbelongs.mpr hb) h⟩
    split at hpart
    · cases hpart
    · split at hpart <;> cases hpart

/-- The rows of the second part are those that collide with the query. -/
theorem rowPart_eq_collision :
    rowPart request command = .collision ↔ Collides request command := by
  have hall : NamedBySelector request command ∨ request.authorizationSelector ≠ .all := by
    by_cases h : request.authorizationSelector = .all
    · exact .inl (fun ordinal hexact => by rw [h] at hexact; cases hexact)
    · exact .inr h
  have hskipped : (request.authorizationSelector != .all && !ordinalMatches request command &&
      stableIdentityMatches request command) = true ↔
        ¬ NamedBySelector request command ∧ SameIdentity request command := by
    simp only [Bool.and_eq_true, bne_iff_ne, Bool.not_eq_true', stableIdentityMatches_iff,
      ← Bool.not_eq_true, ordinalMatches_iff]
    constructor
    · exact fun ⟨⟨_, hnamed⟩, hsame⟩ => ⟨hnamed, hsame⟩
    · exact fun ⟨hnamed, hsame⟩ => ⟨⟨hall.resolve_left hnamed, hnamed⟩, hsame⟩
  constructor
  · intro hpart
    have hnot : ¬ Belongs request command := fun hb => by
      rw [rowPart_eq_exact.mpr hb] at hpart
      cases hpart
    unfold rowPart at hpart
    split at hpart
    · cases hpart
    · split at hpart
      · cases hpart
      next hskip =>
        rw [hskipped] at hskip
        split at hpart
        next hshares =>
          refine ⟨sharesAlias_iff.mp hshares, ?_⟩
          by_cases hsame : SameIdentity request command
          · have hnamed : NamedBySelector request command := by
              by_contra hnamed
              exact hskip ⟨hnamed, hsame⟩
            exact .inr ⟨hnamed, fun hattempt => hnot ⟨hsame, hnamed, hattempt⟩⟩
          · exact .inl hsame
        · cases hpart
  · intro hcollides
    have hnot : ¬ Belongs request command := by
      intro hb
      obtain hsame | ⟨-, hattempt⟩ := hcollides.differs
      · exact hsame hb.identity
      · exact hattempt hb.attempt
    have hnotSkipped : ¬ (¬ NamedBySelector request command ∧ SameIdentity request command) := by
      rintro ⟨hnamed, hsame⟩
      obtain hdiffers | ⟨hagain, -⟩ := hcollides.differs
      · exact hdiffers hsame
      · exact hnamed hagain
    have hfirst := rowPart_eq_exact.not.mpr hnot
    unfold rowPart at hfirst ⊢
    split at hfirst
    · exact absurd rfl hfirst
    next hexact =>
      rw [if_neg hexact, if_neg (hskipped.not.mpr hnotSkipped),
        if_pos (sharesAlias_iff.mpr hcollides.shares)]

/-! ## Conflict reasons -/

theorem mem_addReason {reason other : IdentityConflictReason} :
    other ∈ addReason reasons reason ↔ other ∈ reasons ∨ other = reason := by
  unfold addReason
  split
  next h => exact ⟨.inl, fun hor => hor.elim id (fun heq => heq ▸ h)⟩
  next => rw [List.mem_append, List.mem_singleton]

theorem nodup_addReason (h : reasons.Nodup)
    (reason : IdentityConflictReason) : (addReason reasons reason).Nodup := by
  unfold addReason
  split
  · exact h
  next hnew => exact List.nodup_append_comm.mp (List.nodup_cons.mpr ⟨hnew, h⟩)

/-- Collecting reasons keeps those there are and adds the new ones, each once. -/
theorem foldl_addReason {found : List IdentityConflictReason} (h : reasons.Nodup) :
    (found.foldl addReason reasons).Nodup ∧
      ∀ reason, reason ∈ found.foldl addReason reasons ↔ reason ∈ reasons ∨ reason ∈ found := by
  induction found generalizing reasons with
  | nil => exact ⟨h, fun reason => by simp⟩
  | cons first rest ih =>
    obtain ⟨hnodup, hmem⟩ := ih (nodup_addReason h first)
    refine ⟨hnodup, fun reason => ?_⟩
    rw [List.foldl_cons, hmem, mem_addReason, List.mem_cons, or_assoc]

/-- No column of a row is reported exactly when the row has the identity and the attempt. -/
theorem mismatches_eq_nil :
    mismatches request head = [] ↔ SameIdentity request head.columns.toAcceptedCommand ∧
      SameAttempt request head.columns.toAcceptedCommand := by
  have hcomparisons : mismatches request head = [] ↔
      ∀ entry ∈ comparisons request head.columns.toAcceptedCommand, entry.1 = false := by
    simp [mismatches, List.map_eq_nil_iff, List.filter_eq_nil_iff]
  rw [hcomparisons]
  unfold comparisons SameAttempt
  constructor
  · intro hall
    simp only [List.forall_mem_append, List.forall_mem_cons, bne_eq_false_iff_eq] at hall
    obtain ⟨⟨hrun, hop, hsource, hkind, hkey, hhash, -⟩, hattempt⟩ := hall
    refine ⟨⟨hrun, hop, hsource, hkind, hkey, hhash⟩, fun hexact => ?_⟩
    cases hselector : request.authorizationSelector with
    | all => exact absurd hselector hexact
    | exact ordinal =>
      rw [hselector] at hattempt
      simpa using hattempt
  · rintro ⟨hsame, hattempt⟩
    simp only [List.forall_mem_append, List.forall_mem_cons, bne_eq_false_iff_eq]
    refine ⟨⟨hsame.run, hsame.operation, hsame.source, hsame.kind, hsame.key, hsame.request,
      by simp⟩, ?_⟩
    cases hselector : request.authorizationSelector with
    | all => simp
    | exact ordinal =>
      rw [hselector] at hattempt
      simpa using hattempt (by simp)

/-- A colliding row has a column to report. -/
theorem Collides.mismatches_ne_nil
    (h : Collides request head.columns.toAcceptedCommand) : mismatches request head ≠ [] := by
  rw [ne_eq, mismatches_eq_nil]
  rintro ⟨hsame, hattempt⟩
  obtain hdiffers | ⟨-, hdiffers⟩ := h.differs
  · exact hdiffers hsame
  · exact hdiffers hattempt

/-- The heads accepted in the searched range that belong to the query, in selection order. -/
def belongingRows (journal : Journal) (request : QueryEcho) : List HeadRow :=
  (partitionRows request (journal.selectHeads.filter (inSearchedRange request))).1

/-- The heads accepted in the searched range that collide with the query, in selection order. -/
def collidingRows (journal : Journal) (request : QueryEcho) : List HeadRow :=
  (partitionRows request (journal.selectHeads.filter (inSearchedRange request))).2

/-- A head was accepted in the generations that the request searches. -/
def InSearchedRange (request : QueryEcho) (head : HeadRow) : Prop :=
  request.searchedFirstGeneration ≤ head.columns.acceptedGeneration ∧
    head.columns.acceptedGeneration ≤ request.searchedLastGeneration

@[simp] theorem inSearchedRange_iff :
    inSearchedRange request head = true ↔ InSearchedRange request head := by
  simp [inSearchedRange, InSearchedRange]

theorem mem_belongingRows :
    head ∈ belongingRows journal request ↔ head ∈ journal.heads ∧ InSearchedRange request head ∧
      Belongs request head.columns.toAcceptedCommand := by
  simp only [belongingRows, partitionRows, List.mem_filter, journal.mem_selectHeads,
    inSearchedRange_iff, beq_iff_eq, rowPart_eq_exact, and_assoc]

theorem mem_collidingRows :
    head ∈ collidingRows journal request ↔ head ∈ journal.heads ∧ InSearchedRange request head ∧
      Collides request head.columns.toAcceptedCommand := by
  simp only [collidingRows, partitionRows, List.mem_filter, journal.mem_selectHeads,
    inSearchedRange_iff, beq_iff_eq, rowPart_eq_collision, and_assoc]

/-- The heads selected for a request are in the selection order of the journal. -/
theorem belongingRows_sublist (journal : Journal) (request : QueryEcho) :
    (belongingRows journal request).Sublist journal.selectHeads :=
  List.filter_sublist.trans List.filter_sublist

namespace Validated

variable {journal : Journal} {facts : List (MatchedHistoryFact py)} {request : QueryEcho}

/-- The authorization of a head is in the history of its operation. -/
theorem mem_history (hmem : head ∈ journal.heads) :
    head.columns.toAcceptedCommand ∈ journal.history head.columns.operation := by
  refine (orderBy_perm _ _).mem_iff.mpr (List.mem_filter.mpr ⟨?_, by simp⟩)
  exact List.mem_map_of_mem (journal.mem_selectHeads.mpr hmem)

/-- The heads of one operation share one identity. -/
theorem identity_eq (h : Validated py journal facts) {left right : HeadRow}
    (hleft : left ∈ journal.heads) (hright : right ∈ journal.heads)
    (hsame : left.columns.operation = right.columns.operation) :
    left.columns.stableIdentity = right.columns.stableIdentity := by
  have haccepted := h.histories right.columns.operation
  have hfirst := haccepted.identity _ (hsame ▸ mem_history hleft)
  have hsecond := haccepted.identity _ (mem_history hright)
  exact Option.some.inj (hfirst.trans hsecond.symm)

/-- The rows that belong to a query accepted one requirement revision. -/
theorem requirement_eq (h : Validated py journal facts) {left right : HeadRow}
    (hleft : left ∈ belongingRows journal request)
    (hright : right ∈ belongingRows journal request) :
    left.columns.acceptedRequirementRevisionId = right.columns.acceptedRequirementRevisionId := by
  obtain ⟨hleft, -, hleftBelongs⟩ := mem_belongingRows.mp hleft
  obtain ⟨hright, -, hrightBelongs⟩ := mem_belongingRows.mp hright
  have hoperation : left.columns.operation = right.columns.operation := by
    unfold AcceptedCommand.operation
    rw [hleftBelongs.identity.run, hleftBelongs.identity.operation, hrightBelongs.identity.run,
      hrightBelongs.identity.operation]
  have hidentity := h.identity_eq hleft hright hoperation
  simp only [AcceptedCommand.stableIdentity, Prod.mk.injEq] at hidentity
  exact hidentity.2.2.2.2

/-- The reasons reported for a request are those of the columns of its colliding rows. -/
theorem conflictReasons_eq (h : Validated py journal facts) :
    conflictReasons request (belongingRows journal request) (collidingRows journal request) =
      ((collidingRows journal request).flatMap (mismatches request)).foldl addReason [] := by
  unfold conflictReasons
  refine if_neg fun ⟨_, hcard⟩ => ?_
  obtain ⟨left, hleft, right, hright, hdiffer⟩ := Finset.one_lt_card.mp hcard
  rw [List.mem_toFinset, List.mem_map] at hleft hright
  obtain ⟨left, hleft, rfl⟩ := hleft
  obtain ⟨right, hright, rfl⟩ := hright
  exact hdiffer (h.requirement_eq hleft hright)

/-- A reason is reported exactly when a colliding row differs in its column. -/
theorem mem_conflictReasons (h : Validated py journal facts) {reason : IdentityConflictReason} :
    reason ∈ conflictReasons request (belongingRows journal request)
        (collidingRows journal request) ↔
      ∃ head ∈ collidingRows journal request, reason ∈ mismatches request head := by
  rw [h.conflictReasons_eq, (foldl_addReason List.nodup_nil).2, List.mem_flatMap]
  simp

/-- Reasons are reported exactly when a head of the range collides with the query. -/
theorem conflictReasons_ne_nil (h : Validated py journal facts) :
    conflictReasons request (belongingRows journal request) (collidingRows journal request) ≠ [] ↔
      ∃ head ∈ journal.heads, InSearchedRange request head ∧
        Collides request head.columns.toAcceptedCommand := by
  constructor
  · intro hreasons
    obtain ⟨reason, hreason⟩ := List.exists_mem_of_ne_nil _ hreasons
    obtain ⟨head, hhead, -⟩ := h.mem_conflictReasons.mp hreason
    obtain ⟨hmem, hrange, hcollides⟩ := mem_collidingRows.mp hhead
    exact ⟨head, hmem, hrange, hcollides⟩
  · rintro ⟨head, hmem, hrange, hcollides⟩
    obtain ⟨reason, hreason⟩ := List.exists_mem_of_ne_nil _ hcollides.mismatches_ne_nil
    exact List.ne_nil_of_mem (h.mem_conflictReasons.mpr
      ⟨head, mem_collidingRows.mpr ⟨hmem, hrange, hcollides⟩, hreason⟩)

end Validated

/-! ## Coverage -/

/-- The coverage loop accepts the rows that count on from a generation and are retained. -/
theorem retainedFrom_iff {previous : Int} {rows : List GenerationRow} :
    retainedFrom previous rows = true ↔
      rows.map (·.generation) = countAfter previous rows.length ∧ ∀ row ∈ rows,
        row.retained = 1 := by
  induction rows generalizing previous with
  | nil => simp [retainedFrom, countAfter]
  | cons row rows ih =>
    simp only [retainedFrom, Bool.and_eq_true, beq_iff_eq, ih, List.map_cons, List.length_cons,
      countAfter, List.cons.injEq, List.forall_mem_cons]
    constructor
    · rintro ⟨⟨hrow, hretained⟩, hrest, hall⟩
      rw [hrow] at hrest
      exact ⟨⟨hrow, hrest⟩, hretained, hall⟩
    · rintro ⟨⟨hrow, hrest⟩, hretained, hall⟩
      rw [hrow]
      exact ⟨⟨rfl, hretained⟩, hrest, hall⟩

/-- Every generation that the request searches is on record, retained and complete. -/
def Covered (journal : Journal) (request : QueryEcho) : Prop :=
  ∀ generation, request.searchedFirstGeneration ≤ generation →
    generation ≤ request.searchedLastGeneration →
    ∃ row ∈ journal.generations, row.generation = generation ∧ row.retained = 1 ∧ row.complete = 1

/-- The generation rows that the coverage check reads. -/
abbrev searchedGenerations (journal : Journal) (request : QueryEcho) : List GenerationRow :=
  journal.selectGenerations.filter (fun row =>
    request.searchedFirstGeneration ≤ row.generation &&
      row.generation ≤ request.searchedLastGeneration)

theorem mem_searchedGenerations {row : GenerationRow} :
    row ∈ searchedGenerations journal request ↔ row ∈ journal.generations ∧
      request.searchedFirstGeneration ≤ row.generation ∧
      row.generation ≤ request.searchedLastGeneration := by
  simp only [searchedGenerations, List.mem_filter, Bool.and_eq_true, decide_eq_true_eq]
  rw [Journal.selectGenerations, (orderBy_perm _ _).mem_iff]

/-- A range without a coverage failure lies between the bounds and is covered. -/
theorem covered_of_coverageFailure {oldest newest : Option Int}
    (h : coverageFailure journal request oldest newest = none) :
    (∃ first last, oldest = some first ∧ newest = some last ∧
        first ≤ request.searchedFirstGeneration ∧ request.searchedLastGeneration ≤ last) ∧
      Covered journal request := by
  unfold coverageFailure at h
  split at h
  · cases h
  next hnewest =>
    split at h
    · cases h
    next holdest =>
      dsimp only at h
      split at h
      · cases h
      next hlength =>
        split at h
        · cases h
        next hretained =>
          split at h
          · cases h
          next hcomplete =>
            rw [not_not] at hlength hretained
            constructor
            · cases oldest with
              | none => simp at holdest
              | some first =>
                cases newest with
                | none => simp at hnewest
                | some last =>
                  simp only [Option.all_some, decide_eq_true_eq, not_lt] at hnewest holdest
                  exact ⟨first, last, rfl, rfl, holdest, hnewest⟩
            · intro generation hlow hhigh
              obtain ⟨hcount, hall⟩ := retainedFrom_iff.mp hretained
              have hmem : generation ∈ (searchedGenerations journal request).map
                  (·.generation) := by
                rw [hcount, mem_countAfter]
                omega
              obtain ⟨row, hrow, rfl⟩ := List.mem_map.mp hmem
              refine ⟨row, (mem_searchedGenerations.mp hrow).1, rfl, hall row hrow, ?_⟩
              by_contra hne
              exact hcomplete (List.any_eq_true.mpr ⟨row, hrow, by simpa using hne⟩)

/-- A range fails as unknown only when it ends after the newest known generation. -/
theorem lt_of_unknownGeneration {oldest newest : Option Int}
    (h : coverageFailure journal request oldest newest = some .unknownGeneration)
    (hlast : last ∈ newest) : last < request.searchedLastGeneration := by
  cases hlast
  unfold coverageFailure at h
  split at h
  next hnewest => simpa using hnewest
  next =>
    split at h
    · cases h
    · dsimp only at h
      split at h
      · cases h
      · split at h
        · cases h
        · split at h <;> cases h

/-- The primary key of the generation table: no generation is on record twice. -/
def Journal.GenerationKey (journal : Journal) : Prop :=
  (journal.generations.map (·.generation)).Nodup

/-- A covered range between the bounds has no coverage failure. -/
theorem coverageFailure_of_covered
    (hkey : journal.GenerationKey) (hcovered : Covered journal request)
    (hrange : request.searchedFirstGeneration ≤ request.searchedLastGeneration)
    (hfirst : first ≤ request.searchedFirstGeneration)
    (hlast : request.searchedLastGeneration ≤ last) :
    coverageFailure journal request (some first) (some last) = none := by
  have hrows : ∀ row ∈ searchedGenerations journal request, row.retained = 1 ∧
      row.complete = 1 := by
    intro row hrow
    obtain ⟨hmem, hlow, hhigh⟩ := mem_searchedGenerations.mp hrow
    obtain ⟨covering, hcovering, hsame, hretained, hcomplete⟩ :=
      hcovered row.generation hlow hhigh
    obtain rfl : covering = row := List.inj_on_of_nodup_map hkey hcovering hmem hsame
    exact ⟨hretained, hcomplete⟩
  have hsorted : ((searchedGenerations journal request).map (·.generation)).Pairwise (· < ·) := by
    have hle : (journal.selectGenerations.map (·.generation)).Pairwise (· ≤ ·) :=
      List.pairwise_map.mpr (orderBy_pairwise _ _)
    have hne : (journal.selectGenerations.map (·.generation)).Nodup :=
      ((orderBy_perm _ _).map _).nodup_iff.mpr hkey
    have hlt := (hle.and hne).imp (fun hab => lt_of_le_of_ne hab.1 hab.2)
    exact hlt.sublist (List.filter_sublist.map _)
  obtain ⟨n, hn⟩ : ∃ n : Nat, request.searchedLastGeneration =
      request.searchedFirstGeneration - 1 + n :=
    ⟨(request.searchedLastGeneration - request.searchedFirstGeneration + 1).toNat, by omega⟩
  have hcount : (searchedGenerations journal request).map (·.generation) =
      countAfter (request.searchedFirstGeneration - 1) n := by
    refine eq_countAfter hsorted fun generation => ?_
    constructor
    · intro hmem
      obtain ⟨row, hrow, rfl⟩ := List.mem_map.mp hmem
      obtain ⟨-, hlow, hhigh⟩ := mem_searchedGenerations.mp hrow
      omega
    · rintro ⟨hlow, hhigh⟩
      obtain ⟨row, hrow, rfl, -, -⟩ := hcovered generation (by omega) (by omega)
      exact List.mem_map_of_mem (mem_searchedGenerations.mpr ⟨hrow, by omega, by omega⟩)
  have hlength : (searchedGenerations journal request).length = n := by
    rw [← List.length_map (·.generation), hcount, length_countAfter]
  have hretained : retainedFrom (request.searchedFirstGeneration - 1)
      (searchedGenerations journal request) = true :=
    retainedFrom_iff.mpr ⟨by rw [hlength, hcount], fun row hrow => (hrows row hrow).1⟩
  have hcomplete : (searchedGenerations journal request).any (fun row => row.complete != 1) =
      false := by
    rw [List.any_eq_false]
    intro row hrow
    simp [(hrows row hrow).2]
  unfold coverageFailure
  rw [if_neg (by simpa using hlast), if_neg (by simpa using hfirst)]
  dsimp only
  rw [if_neg (by rw [hlength]; omega), if_neg (by simp [hretained]), if_neg (by simp [hcomplete])]

/-- The newest known generation is the greatest on record. -/
theorem newest_eq_some :
    (generationBounds journal).2 = some last ↔
      last ∈ journal.generations.map (·.generation) ∧
        ∀ row ∈ journal.generations, row.generation ≤ last := by
  simp only [generationBounds, List.max?_eq_some_iff, List.forall_mem_map]

/-- The oldest retained generation is the least that is retained. -/
theorem oldest_eq_some :
    (generationBounds journal).1 = some first ↔
      (∃ row ∈ journal.generations, row.retained = 1 ∧ row.generation = first) ∧
        ∀ row ∈ journal.generations, row.retained = 1 → first ≤ row.generation := by
  simp only [generationBounds, List.min?_eq_some_iff, List.mem_map, List.mem_filter, beq_iff_eq,
    and_assoc]
  refine and_congr_right fun _ => ⟨fun hleast row hrow hretained => ?_, ?_⟩
  · exact hleast _ ⟨row, hrow, hretained, rfl⟩
  · rintro hleast _ ⟨row, hrow, hretained, rfl⟩
    exact hleast row hrow hretained

/-- Both bounds of a journal are on record, the older one first. -/
theorem bounds_le (hfirst : (generationBounds journal).1 = some first)
    (hlast : (generationBounds journal).2 = some last) : first ≤ last := by
  obtain ⟨row, hrow, -, rfl⟩ := (oldest_eq_some.mp hfirst).1
  exact (newest_eq_some.mp hlast).2 row hrow

/-- A covered, non-empty range lies between the bounds. -/
theorem bounds_of_covered (hcovered : Covered journal request)
    (hrange : request.searchedFirstGeneration ≤ request.searchedLastGeneration) :
    ∃ first last, generationBounds journal = (some first, some last) ∧
      first ≤ request.searchedFirstGeneration ∧ request.searchedLastGeneration ≤ last := by
  obtain ⟨lowRow, hlow, hlowGen, hlowRetained, -⟩ :=
    hcovered request.searchedFirstGeneration (le_refl _) hrange
  obtain ⟨highRow, hhigh, hhighGen, -, -⟩ :=
    hcovered request.searchedLastGeneration hrange (le_refl _)
  cases hfirst : (generationBounds journal).1 with
  | none =>
    simp only [generationBounds, List.min?_eq_none_iff, List.map_eq_nil_iff,
      List.filter_eq_nil_iff, beq_iff_eq] at hfirst
    exact absurd hlowRetained (hfirst lowRow hlow)
  | some first =>
    cases hlast : (generationBounds journal).2 with
    | none =>
      simp only [generationBounds, List.max?_eq_none_iff, List.map_eq_nil_iff] at hlast
      rw [hlast] at hlow
      exact absurd hlow List.not_mem_nil
    | some last =>
      refine ⟨first, last, Prod.ext hfirst hlast, ?_, ?_⟩
      · exact hlowGen ▸ (oldest_eq_some.mp hfirst).2 lowRow hlow hlowRetained
      · exact hhighGen ▸ (newest_eq_some.mp hlast).2 highRow hhigh

/-- Every generation on record can be written in a result. -/
def JsonSafeGenerations (journal : Journal) : Prop :=
  ∀ row ∈ journal.generations, row.generation ≤ jsonSafeInteger

namespace Validated

variable {journal : Journal} {facts : List (MatchedHistoryFact py)}

/-- The bounds of a journal are valid fields of a result when its generations are JSON-safe. -/
theorem bounds_fields (h : Validated py journal facts) (hsafe : JsonSafeGenerations journal) :
    (generationBounds journal).1.all positiveJsonInteger = true ∧
      (generationBounds journal).2.all positiveJsonInteger = true := by
  have hrow : ∀ row ∈ journal.generations, positiveJsonInteger row.generation = true := by
    intro row hrow
    have hcheck := h.generations row hrow
    simp only [generationRowCheck, Bool.and_eq_true, decide_eq_true_eq] at hcheck
    simp only [positiveJsonInteger, Bool.and_eq_true, decide_eq_true_eq]
    exact ⟨hcheck.1.1.1.1, hsafe row hrow⟩
  constructor
  · cases hfirst : (generationBounds journal).1 with
    | none => rfl
    | some first =>
      obtain ⟨row, hmem, -, rfl⟩ := (oldest_eq_some.mp hfirst).1
      exact hrow row hmem
  · cases hlast : (generationBounds journal).2 with
    | none => rfl
    | some last =>
      obtain ⟨row, hmem, rfl⟩ := List.mem_map.mp (newest_eq_some.mp hlast).1
      exact hrow row hmem

/-- A generation that is not JSON-safe makes the newest known generation an invalid field. -/
theorem newest_unsafe (hsafe : ¬ JsonSafeGenerations journal) :
    ∃ last, (generationBounds journal).2 = some last ∧ positiveJsonInteger last = false := by
  unfold JsonSafeGenerations at hsafe
  push Not at hsafe
  obtain ⟨row, hrow, hlarge⟩ := hsafe
  cases hlast : (generationBounds journal).2 with
  | none =>
    simp only [generationBounds, List.max?_eq_none_iff, List.map_eq_nil_iff] at hlast
    rw [hlast] at hrow
    exact absurd hrow List.not_mem_nil
  | some last =>
    refine ⟨last, rfl, ?_⟩
    have hle := (newest_eq_some.mp hlast).2 row hrow
    simp only [positiveJsonInteger, Bool.and_eq_false_iff, decide_eq_false_iff_not]
    exact .inr (by omega)

end Validated

end SeekTalent.SourcePort
