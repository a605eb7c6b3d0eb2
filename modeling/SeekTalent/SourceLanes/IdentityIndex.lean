import SeekTalent.SourceLanes.IdentitySignals

/-!
# The candidate identity index

`RuntimeCandidateIdentityIndex` of `seektalent/runtime/source_lanes.py`: identities, the six
dictionaries that point at them, and `upsert_candidate`, which takes one observation of a resume,
merges every identity that the observation touches into one and files the observation there.

Indexing a dictionary of identities by an id that is not there raises, so the writers return in
`Except`.
-/

namespace SeekTalent.SourceLanes

open Foundation

/-- `RuntimeCandidateIdentity`. -/
structure RuntimeCandidateIdentity where
  identityId : String
  canonicalIdentityId : String
  resumeIds : List String := []
  evidenceIds : List String := []
  aliasIdentityIds : List String := []
  strongestSignal : Option String := none
  deriving DecidableEq, Repr

/-- `RuntimeIdentityConflict`. -/
structure RuntimeIdentityConflict where
  conflictId : String
  candidateIdentityIds : List String
  reasonCode : String
  resumeIds : List String
  evidenceIds : List String
  matchScore : Nat
  deriving DecidableEq, Repr

/-- What a call of `upsert_candidate` is given. -/
structure CandidateUpsert where
  resumeId : String
  evidenceId : String
  signals : RuntimeIdentitySignals
  deriving DecidableEq, Repr

/-- The identities that a call has found so far, and the weaker matches with their scores. -/
structure IdentityMatches where
  existing : List String
  scored : List (Nat × String) := []
  deriving DecidableEq, Repr

/-- The part of an index that says whose an observation is: the identities and the dictionaries that
point at them. -/
structure IdentityFiling where
  identities : Dict String RuntimeCandidateIdentity := ∅
  keyToIdentityId : Dict String String := ∅
  keysByIdentityId : Dict String (List String) := ∅
  resumeIdToIdentityId : Dict String String := ∅
  evidenceIdToIdentityId : Dict String String := ∅
  aliasesByCanonicalId : Dict String (List String) := ∅
  aliasToCanonicalId : Dict String String := ∅

/-- `RuntimeCandidateIdentityIndex`, empty by default: the filing, what fuzzy matching reads and the
conflicts found. -/
structure RuntimeCandidateIdentityIndex extends IdentityFiling where
  signalsByIdentityId : Dict String RuntimeIdentitySignals := ∅
  fuzzyIdentityIdsByName : Dict String (List String) := ∅
  fuzzyNameByIdentityId : Dict String String := ∅
  conflictsById : Dict String RuntimeIdentityConflict := ∅

/-- `_canonical_identity_id`. -/
def IdentityFiling.canonicalIdentityId (filing : IdentityFiling) (identityId : String) : String :=
  (filing.aliasToCanonicalId.lookup identityId).getD identityId

namespace RuntimeCandidateIdentityIndex

variable (py : PythonRuntime) (index : RuntimeCandidateIdentityIndex)

/-! ## Readers -/

/-- `identity_for_resume_id`. -/
def identityForResumeId (resumeId : String) : Option String :=
  (index.resumeIdToIdentityId.lookup resumeId).map index.canonicalIdentityId

/-- `aliases_for`. -/
def aliasesFor (canonicalId : String) : List String :=
  sortedTexts ((index.aliasesByCanonicalId.lookup canonicalId).getD [] ++ [canonicalId])

/-- `_candidate_fuzzy_identity_ids`. -/
def candidateFuzzyIdentityIds (signals : RuntimeIdentitySignals) : List String :=
  match signals.fuzzyBucketName with
  | none => []
  | some name => ((index.fuzzyIdentityIdsByName.lookup name).getD []).map index.canonicalIdentityId

/-! ## Index maintenance -/

/-- `_ensure_identity`. -/
def ensureIdentity (identityId : String) (strongestSignal : Option String) :
    RuntimeCandidateIdentityIndex :=
  { index with
    identities :=
      if identityId ∈ index.identities then index.identities
      else index.identities.insert identityId
        { identityId, canonicalIdentityId := identityId, strongestSignal }
    aliasesByCanonicalId := index.aliasesByCanonicalId.insert identityId
      ((index.aliasesByCanonicalId.lookup identityId).getD [identityId] ∪ [identityId])
    aliasToCanonicalId := index.aliasToCanonicalId.insert identityId identityId }

/-- `_index_identity_keys`. -/
def indexIdentityKeys (identityId : String) (keys : List String) : RuntimeCandidateIdentityIndex :=
  let canonicalId := index.canonicalIdentityId identityId
  if keys = [] then index
  else { index with
    keyToIdentityId := index.keyToIdentityId.insertAll keys canonicalId
    keysByIdentityId := index.keysByIdentityId.insert canonicalId
      ((index.keysByIdentityId.lookup canonicalId).getD [] ∪ keys) }

/-- `_index_identity_membership`. -/
def indexIdentityMembership (identityId : String) (identity : RuntimeCandidateIdentity)
    (keys : List String) : RuntimeCandidateIdentityIndex :=
  let canonicalId := index.canonicalIdentityId identityId
  { index with
    resumeIdToIdentityId := index.resumeIdToIdentityId.insertAll identity.resumeIds canonicalId
    evidenceIdToIdentityId :=
      index.evidenceIdToIdentityId.insertAll identity.evidenceIds canonicalId }.indexIdentityKeys
    canonicalId keys

/-- The buckets without an identity: a bucket that becomes empty is dropped. -/
def discardFromBucket (name identityId : String) : Dict String (List String) :=
  match index.fuzzyIdentityIdsByName.lookup name with
  | none => index.fuzzyIdentityIdsByName
  | some identityIds =>
    let kept := identityIds.filter (· ≠ identityId)
    if kept = [] then index.fuzzyIdentityIdsByName.erase name
    else index.fuzzyIdentityIdsByName.insert name kept

/-- `_remove_identity_signals`, without the signals that it returns. -/
def removeIdentitySignals (identityId : String) : RuntimeCandidateIdentityIndex :=
  let canonicalId := index.canonicalIdentityId identityId
  { index with
    fuzzyNameByIdentityId := index.fuzzyNameByIdentityId.erase canonicalId
    fuzzyIdentityIdsByName :=
      match index.fuzzyNameByIdentityId.lookup canonicalId with
      | none => index.fuzzyIdentityIdsByName
      | some previousBucket => index.discardFromBucket previousBucket canonicalId
    signalsByIdentityId := index.signalsByIdentityId.erase canonicalId }

/-- The signals that `_remove_identity_signals` returns. -/
def removedIdentitySignals (identityId : String) : Option RuntimeIdentitySignals :=
  index.signalsByIdentityId.lookup (index.canonicalIdentityId identityId)

/-- `_set_identity_signals`. -/
def setIdentitySignals (identityId : String) (signals : RuntimeIdentitySignals) :
    RuntimeCandidateIdentityIndex :=
  let canonicalId := index.canonicalIdentityId identityId
  let removed := index.removeIdentitySignals canonicalId
  let stored := { removed with
    signalsByIdentityId := removed.signalsByIdentityId.insert canonicalId signals }
  match signals.fuzzyBucketName with
  | none => stored
  | some name =>
    { stored with
      fuzzyIdentityIdsByName := stored.fuzzyIdentityIdsByName.insert name
        ((stored.fuzzyIdentityIdsByName.lookup name).getD [] ∪ [canonicalId])
      fuzzyNameByIdentityId := stored.fuzzyNameByIdentityId.insert canonicalId name }

/-- The identities of a conflict, each under its canonical id. -/
def conflictIdentityIds (conflict : RuntimeIdentityConflict) : List String :=
  sortedTexts (conflict.candidateIdentityIds.map index.canonicalIdentityId)

/-- `_drop_resolved_conflicts`. -/
def dropResolvedConflicts : RuntimeCandidateIdentityIndex :=
  { index with
    conflictsById := index.conflictsById.entries.foldl
      (fun updated entry =>
        if (index.conflictIdentityIds entry.2).length < 2 then updated
        else updated.insert entry.1
          { entry.2 with candidateIdentityIds := index.conflictIdentityIds entry.2 }) ∅ }

/-! ## Merging -/

/-- The aliases of the target once it takes over another identity. -/
def mergedAliases (oldId targetId : String) : List String :=
  (index.aliasesByCanonicalId.lookup targetId).getD [targetId] ∪
    (index.aliasesByCanonicalId.lookup oldId).getD [oldId] ∪ [oldId, targetId]

/-- The alias maps once the target takes over another identity. -/
def mergeAliases (oldId targetId : String) : RuntimeCandidateIdentityIndex :=
  { index with
    aliasesByCanonicalId := (index.aliasesByCanonicalId.erase oldId).insert targetId
      (index.mergedAliases oldId targetId)
    aliasToCanonicalId :=
      index.aliasToCanonicalId.insertAll (index.mergedAliases oldId targetId) targetId }

/-- The signals once the target takes over another identity.  The alias map already points the old
id at the target, so that the signals read and removed under the old id are those of the target. -/
def mergeSignals (oldId targetId : String) : RuntimeCandidateIdentityIndex :=
  let oldSignals := index.removedIdentitySignals oldId
  let removed := index.removeIdentitySignals oldId
  removed.setIdentitySignals targetId
    (mergeIdentitySignals (removed.signalsByIdentityId.lookup targetId) oldSignals)

/-- `_merge_identity`. -/
def mergeIdentity (oldId targetId : String) :
    Except (KeyError String) RuntimeCandidateIdentityIndex :=
  match index.identities.lookup oldId with
  | none => .ok index
  | some oldIdentity => do
    let targetIdentity ← Dict.item (index.identities.erase oldId) targetId
    let updated := { targetIdentity with
      resumeIds := sortedTexts (targetIdentity.resumeIds ++ oldIdentity.resumeIds)
      evidenceIds := sortedTexts (targetIdentity.evidenceIds ++ oldIdentity.evidenceIds)
      aliasIdentityIds := sortedTexts (index.mergedAliases oldId targetId) }
    let oldKeys := (index.keysByIdentityId.lookup oldId).getD []
    let stored := { index.mergeAliases oldId targetId with
      identities := (index.identities.erase oldId).insert targetId updated
      keysByIdentityId := index.keysByIdentityId.erase oldId }
    .ok ((stored.mergeSignals oldId targetId).indexIdentityMembership targetId updated
      oldKeys).dropResolvedConflicts

/-! ## Upserting -/

/-- The identities that share a key, the resume or the evidence of the call. -/
def existingIdentityIds (call : CandidateUpsert) : List String :=
  ((identityKeys py call.signals call.evidenceId).filterMap index.keyToIdentityId.lookup ++
    (index.resumeIdToIdentityId.lookup call.resumeId).toList ++
    (index.evidenceIdToIdentityId.lookup call.evidenceId).toList).map index.canonicalIdentityId

/-- How one fuzzy candidate is taken: as the same person, as a weaker match or not at all. -/
def matchCandidate (signals : RuntimeIdentitySignals) (found : IdentityMatches)
    (identityId : String) : IdentityMatches :=
  if identityId ∈ found.existing then found
  else
    match index.signalsByIdentityId.lookup identityId with
    | none => found
    | some existingSignals =>
      let score := identityMatchScore existingSignals signals
      if 85 ≤ score then { found with existing := found.existing ++ [identityId] }
      else if 70 ≤ score then { found with scored := found.scored ++ [(score, identityId)] }
      else found

/-- Everything that a call matches. -/
def identityMatches (call : CandidateUpsert) : IdentityMatches :=
  (sortedTexts (index.candidateFuzzyIdentityIds call.signals)).foldl
    (index.matchCandidate call.signals) { existing := index.existingIdentityIds py call }

/-- The identity that a call files its observation under: without a contact, the first of the
identities found. -/
def targetIdentityId (call : CandidateUpsert) (existing : List String) : String :=
  match call.signals.protectedContactHashes, sortedTexts existing with
  | [], first :: _ => first
  | _, _ => stableIdentityId py (primaryIdentityKey py call.signals call.evidenceId)

/-- Record that a call is a medium match of an identity that it was not merged with. -/
def recordConflict (call : CandidateUpsert) (targetId : String) (scored : Nat × String) :
    Except (KeyError String) RuntimeCandidateIdentityIndex :=
  if scored.2 = targetId then .ok index
  else do
    let conflictIdentity ← Dict.item index.identities scored.2
    let conflictId := stableIdentityId py ("conflict:" ++ "||".intercalate
      ([targetId, scored.2, call.resumeId, call.evidenceId].insertionSort (· ≤ ·)))
    .ok { index with
      conflictsById := index.conflictsById.insert conflictId
        { conflictId
          candidateIdentityIds := [targetId, scored.2].insertionSort (· ≤ ·)
          resumeIds := sortedTexts (conflictIdentity.resumeIds ++ [call.resumeId])
          reasonCode := "medium_confidence_identity_match"
          evidenceIds := sortedTexts (conflictIdentity.evidenceIds ++ [call.evidenceId])
          matchScore := scored.1 } }

/-- File the observation of a call under an identity. -/
def fileObservation (call : CandidateUpsert) (targetId : String) :
    Except (KeyError String) (RuntimeCandidateIdentityIndex × RuntimeCandidateIdentity) := do
  let identity ← Dict.item index.identities targetId
  let updated := { identity with
    resumeIds := sortedTexts (identity.resumeIds ++ [call.resumeId])
    evidenceIds := sortedTexts (identity.evidenceIds ++ [call.evidenceId])
    aliasIdentityIds := sortedTexts ((index.aliasesByCanonicalId.lookup targetId).getD [])
    strongestSignal := some (strongestSignalCode call.signals) }
  let stored := { index with identities := index.identities.insert targetId updated }
  let signed := stored.setIdentitySignals targetId
    (mergeIdentitySignals (stored.signalsByIdentityId.lookup targetId) (some call.signals))
  .ok (signed.indexIdentityMembership targetId updated
    (identityKeys py call.signals call.evidenceId), updated)

/-- `upsert_candidate`. -/
def upsertCandidate (call : CandidateUpsert) :
    Except (KeyError String) (RuntimeCandidateIdentityIndex × RuntimeCandidateIdentity) := do
  let found := index.identityMatches py call
  let targetId := targetIdentityId py call found.existing
  let ensured := index.ensureIdentity targetId (some (strongestSignalCode call.signals))
  let merged ← ((sortedTexts found.existing).filter (· ≠ targetId)).foldlM
    (fun index oldId => index.mergeIdentity oldId targetId) ensured
  let recorded ← found.scored.foldlM
    (fun index scored => index.recordConflict py call targetId scored) merged
  recorded.fileObservation py call targetId

/-- The index after a sequence of calls on the empty index. -/
def afterUpserts (calls : List CandidateUpsert) :
    Except (KeyError String) RuntimeCandidateIdentityIndex :=
  calls.foldlM (fun index call => (index.upsertCandidate py call).map Prod.fst) {}

end RuntimeCandidateIdentityIndex

end SeekTalent.SourceLanes
