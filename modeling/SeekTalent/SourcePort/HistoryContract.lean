import SeekTalent.Foundation.Checks
import SeekTalent.SourcePort.CommandJournalTypes

/-!
# Matched history facts

The strict fact models of `history_contract.py`.  A fact is the columns fixed at acceptance together
with the head position and, by phase, the dispatch and the observation it reached.
`FactValues.validate` is `model_validate(..., strict=True)`: the field types first, then the
`mode="after"` validators from the base model outwards.  `MatchedHistoryFact` carries the successful
validation, so a fact that violates the contract cannot be built.
-/

namespace SeekTalent.SourcePort

open Foundation

/-- The values of a dispatch that was recorded. -/
structure DispatchValues where
  durableDispatchIntentRef : String
  dispatchIntentGeneration : Int
  dispatchIntentJournalRevision : Int
deriving DecidableEq, Repr

/-- The values of a terminal observation: `result_*` or `failure_*` by its kind. -/
structure ObservationValues where
  observationGeneration : Int
  observationJournalRevision : Int
  ref : String
  hash : String
deriving DecidableEq, Repr

/-- The conclusion of a fact and the values that come with it. -/
inductive Conclusion
  | acceptedNoDispatch
  | dispatchNotObserved (dispatch : DispatchValues)
  | observedResult (dispatch : DispatchValues) (observation : ObservationValues)
  | observedFailure (dispatch : DispatchValues) (observation : ObservationValues)
deriving DecidableEq, Repr

/-- The unvalidated values of a fact. -/
structure FactValues where
  command : AcceptedCommand
  acceptedGeneration : Int
  acceptedJournalRevision : Int
  headGeneration : Int
  headJournalRevision : Int
  conclusion : Conclusion
deriving DecidableEq, Repr

variable (py : PythonRuntime)

/-- The typed fields of an accepted command, by name. -/
def acceptedCommandFields (command : AcceptedCommand) : List (String × Bool) :=
  [("run_id", opaque96 command.runId),
    ("operation_id", opaque96 command.operationId),
    ("source", command.source == "liepin"),
    ("operation_kind", isOperationKind command.operationKind),
    ("idempotency_key", opaque128 command.idempotencyKey),
    ("request_hash", isSha256 command.requestHash),
    ("attempt_no", positiveJsonInteger command.attemptNo),
    ("accepted_requirement_revision_id", opaque96 command.acceptedRequirementRevisionId),
    ("runtime_attempt_fence_ref", isSha256 command.runtimeAttemptFenceRef),
    ("dispatch_authorization_ordinal", positiveJsonInteger command.dispatchAuthorizationOrdinal),
    ("safe_retry_commit_ref", command.safeRetryCommitRef.all (safeRetryCommitRef py)),
    ("expected_source_operation_ledger_revision",
      positiveJsonInteger command.expectedSourceOperationLedgerRevision),
    ("expected_reconciliation_revision",
      nonNegativeJsonInteger command.expectedReconciliationRevision),
    ("authorized_dispatch_intent_id", opaque96 command.authorizedDispatchIntentId),
    ("authorized_dispatch_intent_revision",
      positiveJsonInteger command.authorizedDispatchIntentRevision),
    ("authorized_dispatch_intent_digest", isSha256 command.authorizedDispatchIntentDigest),
    ("profile_binding_generation", positiveJsonInteger command.profileBindingGeneration),
    ("browser_control_scope_id", command.browserControlScopeId.all opaque96),
    ("controller_fence_ref", command.controllerFenceRef.all isSha256)]

/-- The typed fields of a recorded dispatch. -/
def dispatchFields (dispatch : DispatchValues) : List (String × Bool) :=
  [("durable_dispatch_intent_ref", opaque256 dispatch.durableDispatchIntentRef),
    ("dispatch_intent_generation", positiveJsonInteger dispatch.dispatchIntentGeneration),
    ("dispatch_intent_journal_revision",
      positiveJsonInteger dispatch.dispatchIntentJournalRevision)]

/-- The typed fields of a recorded observation; `kind` is `result` or `failure`. -/
def observationFields (kind : String) (observation : ObservationValues) : List (String × Bool) :=
  [("observation_generation", positiveJsonInteger observation.observationGeneration),
    ("observation_journal_revision", positiveJsonInteger observation.observationJournalRevision),
    (kind ++ "_ref", opaque256 observation.ref),
    (kind ++ "_hash", isSha256 observation.hash)]

/-- The typed fields a conclusion adds. -/
def conclusionFields : Conclusion → List (String × Bool)
  | .acceptedNoDispatch => []
  | .dispatchNotObserved dispatch => dispatchFields dispatch
  | .observedResult dispatch observation =>
    dispatchFields dispatch ++ observationFields "result" observation
  | .observedFailure dispatch observation =>
    dispatchFields dispatch ++ observationFields "failure" observation

/-- Every typed field of a fact. -/
def factFields (fact : FactValues) : List (String × Bool) :=
  acceptedCommandFields py fact.command ++
    [("accepted_generation", positiveJsonInteger fact.acceptedGeneration),
      ("accepted_journal_revision", positiveJsonInteger fact.acceptedJournalRevision),
      ("head_generation", positiveJsonInteger fact.headGeneration),
      ("head_journal_revision", positiveJsonInteger fact.headJournalRevision)] ++
    conclusionFields fact.conclusion

/-- Raise a validation error that names every field that does not validate. -/
def validateFields (fields : List (String × Bool)) : Except JournalFailure Unit :=
  require (fields.all (·.2) = true)
    (.validation ((fields.filter (fun field => !field.2)).map (·.1)))

/-- `_AcceptedFactBase.validate_accepted_head`. -/
def validateAcceptedHead (fact : FactValues) : Except JournalFailure Unit := do
  require (fact.acceptedGeneration ≤ fact.headGeneration ∧
      fact.acceptedJournalRevision ≤ fact.headJournalRevision)
    (.valueError "source_history_head_before_acceptance")
  if fact.command.dispatchAuthorizationOrdinal = 1 then
    require (fact.command.safeRetryCommitRef = none ∧
        fact.command.expectedSourceOperationLedgerRevision = 1 ∧
        fact.command.expectedReconciliationRevision = 0)
      (.valueError "source_history_initial_authorization_epoch_invalid")
  else
    require (fact.command.safeRetryCommitRef ≠ none ∧
        fact.command.expectedReconciliationRevision ≠ 0)
      (.valueError "source_history_safe_retry_authorization_epoch_invalid")

/-- `_DispatchedFactBase.validate_dispatch_head`. -/
def validateDispatchHead (fact : FactValues) (dispatch : DispatchValues) :
    Except JournalFailure Unit :=
  require (fact.acceptedGeneration ≤ dispatch.dispatchIntentGeneration ∧
      dispatch.dispatchIntentGeneration ≤ fact.headGeneration ∧
      fact.acceptedJournalRevision < dispatch.dispatchIntentJournalRevision ∧
      dispatch.dispatchIntentJournalRevision ≤ fact.headJournalRevision)
    (.valueError "source_history_invalid_dispatch_revision")

/-- `_ObservedFactBase.validate_observation_head`. -/
def validateObservationHead (fact : FactValues) (dispatch : DispatchValues)
    (observation : ObservationValues) : Except JournalFailure Unit :=
  require (dispatch.dispatchIntentGeneration ≤ observation.observationGeneration ∧
      observation.observationGeneration = fact.headGeneration ∧
      dispatch.dispatchIntentJournalRevision < observation.observationJournalRevision ∧
      observation.observationJournalRevision = fact.headJournalRevision)
    (.valueError "source_history_invalid_observation_revision")

/-- The validators that depend on the conclusion. -/
def validateConclusion (fact : FactValues) : Except JournalFailure Unit :=
  match fact.conclusion with
  | .acceptedNoDispatch =>
    require (fact.headGeneration = fact.acceptedGeneration ∧
        fact.headJournalRevision = fact.acceptedJournalRevision)
      (.valueError "source_history_accepted_head_not_exact")
  | .dispatchNotObserved dispatch => do
    validateDispatchHead fact dispatch
    require (fact.headGeneration = dispatch.dispatchIntentGeneration ∧
        fact.headJournalRevision = dispatch.dispatchIntentJournalRevision)
      (.valueError "source_history_dispatch_head_not_exact")
  | .observedResult dispatch observation | .observedFailure dispatch observation => do
    validateDispatchHead fact dispatch
    validateObservationHead fact dispatch observation

/-- `model_validate(values, strict=True)` of the fact model that the conclusion selects. -/
def FactValues.validate (fact : FactValues) : Except JournalFailure Unit := do
  validateFields (factFields py fact)
  validateAcceptedHead fact
  validateConclusion fact

/-- `MatchedHistoryFact`: fact values that validate. -/
structure MatchedHistoryFact where
  values : FactValues
  valid : values.validate py = .ok ()

/-- Build a fact from values that validate, and raise what the validation raises otherwise. -/
def modelValidate (fact : FactValues) : Except JournalFailure (MatchedHistoryFact py) :=
  match h : fact.validate py with
  | .ok () => .ok ⟨fact, h⟩
  | .error failure => .error failure

/-- A built fact holds exactly the values it was built from. -/
theorem modelValidate_eq_ok {fact : FactValues} {built : MatchedHistoryFact py} :
    modelValidate py fact = .ok built ↔ fact.validate py = .ok () ∧ built.values = fact := by
  unfold modelValidate
  split
  next h =>
    constructor
    · intro hbuilt
      cases hbuilt
      exact ⟨h, rfl⟩
    · rintro ⟨-, hvalues⟩
      cases built
      cases hvalues
      rfl
  next failure h => simp [h]

/-- Values that validate build a fact. -/
theorem exists_modelValidate {fact : FactValues} (h : fact.validate py = .ok ()) :
    ∃ built, modelValidate py fact = .ok built ∧ built.values = fact :=
  ⟨⟨fact, h⟩, (modelValidate_eq_ok py).mpr ⟨h, rfl⟩, rfl⟩

end SeekTalent.SourcePort
