import Mathlib.Data.List.Infix
import Mathlib.Data.List.Sort
import Mathlib.Data.Prod.Lex
import SeekTalent.Foundation.Dicts
import SeekTalent.Foundation.Json
import SeekTalent.Foundation.Tables

/-!
# Erasing a person from the runtime-control database

`seektalent/privacy_erasure.py`, the part that works on the rows: which rows belong to a person, the
texts by which the person is known (`_runtime_subject_tokens`), and how these are taken out of the
JSON documents of the runs.

What Python has for texts and JSON is a runtime: `json.loads`, `json.dumps` with sorted keys,
`str.strip` and `str.isalnum`.  A table may not exist, and its rows have the columns that the
erasure reads or writes.
-/

namespace SeekTalent.PrivacyErasure

open Foundation

/-! ## Texts -/

/-- What the erasure uses of Python. -/
structure ErasureRuntime where
  /-- `json.loads`, where it does not raise `JSONDecodeError`. -/
  loads : String → Option Json
  /-- `json.dumps(value, ensure_ascii=False, sort_keys=True, separators=(",", ":"))`. -/
  dumps : Json → String
  /-- `str.strip`. -/
  strip : String → String
  /-- `str.isalnum`, on one character. -/
  isalnum : Char → Bool
  /-- The order in which a set yields its members. -/
  setOrder : List String → List String
  setOrder_perm : ∀ members, (setOrder members).Perm members

/-- `token in text`. -/
def occursIn (token text : String) : Bool := token.toList <:+: text.toList

/-- `str.replace` for a text that is not empty, behind `skip` characters that are replaced
already. -/
def replaceFrom (old new : List Char) : Nat → List Char → List Char
  | _, [] => []
  | skip + 1, _ :: rest => replaceFrom old new skip rest
  | 0, c :: rest =>
    if old.isPrefixOf (c :: rest) then new ++ replaceFrom old new (old.length - 1) rest
    else c :: replaceFrom old new 0 rest

/-- `text.replace(token, "[erased]")`. -/
def eraseToken (token text : String) : String :=
  String.ofList (replaceFrom token.toList "[erased]".toList 0 text.toList)

/-- `LIKE '%needle%' ESCAPE '\\'` with the needle escaped: SQLite does not tell the cases of ASCII
letters apart. -/
def likeContains (text needle : String) : Bool :=
  needle.toList.map Char.toLower <:+: text.toList.map Char.toLower

/-! ## Rows -/

/-- A row of `runtime_control_candidate_identities`. -/
structure IdentityRow where
  runtimeRunId : String
  identityId : String
  canonicalResumeId : String
  mergedResumeIdsJson : String
  sourceEvidenceIdsJson : String
  displayName : String
  title : String
  company : String
  location : String
  summary : String
  score : Option Int
  fitBucket : Option String
  payloadHash : String
  updatedAt : String
  deriving DecidableEq, Repr

/-- A row of `runtime_control_candidate_evidence`. -/
structure EvidenceRow where
  runtimeRunId : String
  evidenceId : String
  identityId : String
  resumeId : String
  providerCandidateKeyHash : String
  score : Option Int
  fitBucket : Option String
  payloadJson : String
  payloadHash : String
  updatedAt : String
  deriving DecidableEq, Repr

/-- A row of `runtime_control_checkpoints`. -/
structure CheckpointRow where
  checkpointId : String
  runtimeRunId : String
  runStateJson : String
  deriving DecidableEq, Repr

/-- A row of `runtime_control_snapshots`. -/
structure SnapshotRow where
  runtimeRunId : String
  snapshotJson : String
  deriving DecidableEq, Repr

/-- A row of `runtime_control_final_summaries`. -/
structure SummaryRow where
  summaryId : String
  runtimeRunId : String
  userInstruction : Option String
  summaryJson : String
  deriving DecidableEq, Repr

/-- A row of `runtime_control_stage_outputs`. -/
structure StageOutputRow where
  outputId : String
  runtimeRunId : String
  artifactRefId : Option String
  outputJson : String
  deriving DecidableEq, Repr

/-- A row of `runtime_control_artifact_deletions`. -/
structure ArtifactDeletionRow where
  deletionId : String
  artifactRefId : String
  artifactKind : String
  originalPath : String
  quarantinePath : String
  reasonCode : String
  status : String
  attemptCount : Nat
  lastErrorCode : Option String
  requestedAt : String
  lastAttemptAt : Option String
  metadataJson : String
  deriving DecidableEq, Repr

/-- The tables of the database, as far as they exist. -/
structure Database where
  identities : Option (List IdentityRow) := none
  evidence : Option (List EvidenceRow) := none
  checkpoints : Option (List CheckpointRow) := none
  snapshots : Option (List SnapshotRow) := none
  finalSummaries : Option (List SummaryRow) := none
  stageOutputs : Option (List StageOutputRow) := none
  /-- The `artifact_ref_id`s of `runtime_control_artifact_refs`. -/
  artifactRefs : Option (List String) := none
  artifactDeletions : Option (List ArtifactDeletionRow) := none
  deriving DecidableEq, Repr

/-- The primary key of an identity. -/
abbrev IdentityKey := String × String

instance : LawfulBEq IdentityKey := inferInstance

/-- `(row["runtime_run_id"], row["identity_id"])`. -/
def IdentityRow.key (row : IdentityRow) : IdentityKey := (row.runtimeRunId, row.identityId)

/-- `(row["runtime_run_id"], row["identity_id"])`. -/
def EvidenceRow.identityKey (row : EvidenceRow) : IdentityKey := (row.runtimeRunId, row.identityId)

section Erasure

variable (rt : ErasureRuntime)

/-! ## The rows of the person -/

/-- The condition by which identities are found from the resume. -/
def IdentityRow.hasResume (resumeId : String) (row : IdentityRow) : Bool :=
  row.canonicalResumeId = resumeId ∨ likeContains row.mergedResumeIdsJson (rt.dumps (.str resumeId))

/-- The evidence of the person. -/
def evidenceRows (db : Database) (resumeId : String) : List EvidenceRow :=
  (db.evidence.getD []).filter fun row => row.resumeId = resumeId

/-- The identities that are found from the resume. -/
def resumeIdentityRows (db : Database) (resumeId : String) : List IdentityRow :=
  (db.identities.getD []).filter (IdentityRow.hasResume rt resumeId)

/-- `sorted(evidence_identity_keys - identity_keys)`. -/
def missingEvidenceIdentityKeys (db : Database) (resumeId : String) : List IdentityKey :=
  let missing := ((evidenceRows db resumeId).map EvidenceRow.identityKey).filter fun key =>
    key ∉ (resumeIdentityRows rt db resumeId).map IdentityRow.key
  if db.identities.isSome then missing.dedup.insertionSort fun a b => toLex a ≤ toLex b else []

/-- The identities of the person. -/
def identityRows (db : Database) (resumeId : String) : List IdentityRow :=
  resumeIdentityRows rt db resumeId ++
    (missingEvidenceIdentityKeys rt db resumeId).filterMap fun key =>
      rowAt IdentityRow.key (db.identities.getD []) key

/-! ## The texts of the person -/

/-- `_add_subject_token`. -/
def subjectToken (text : String) : List String :=
  if rt.strip text = "" then [] else [rt.strip text]

mutual

/-- `_collect_json_string_tokens`. -/
def collectJsonStringTokens : Json → List String
  | .obj members => collectMemberTokens members
  | .arr items => collectItemTokens items
  | .str value => subjectToken rt value
  | .null | .bool _ | .int _ | .float _ => []

def collectItemTokens : List Json → List String
  | [] => []
  | item :: rest => collectJsonStringTokens item ++ collectItemTokens rest

def collectMemberTokens : List (String × Json) → List String
  | [] => []
  | (_, item) :: rest => collectJsonStringTokens item ++ collectMemberTokens rest

end

/-- The tokens of the texts in a list, as `_loads_list` reads it. -/
def listTokens (text : String) : List String :=
  match rt.loads text with
  | some (.arr items) =>
    items.flatMap fun item =>
      match item with
      | .str value => subjectToken rt value
      | _ => []
  | _ => []

/-- The tokens of an identity. -/
def IdentityRow.tokens (row : IdentityRow) : List String :=
  [row.canonicalResumeId, row.displayName, row.title, row.company, row.location,
    row.summary].flatMap
      (subjectToken rt) ++
    listTokens rt row.mergedResumeIdsJson ++ listTokens rt row.sourceEvidenceIdsJson

/-- The tokens of an evidence row. -/
def EvidenceRow.tokens (row : EvidenceRow) : List String :=
  [row.resumeId, row.providerCandidateKeyHash, row.evidenceId].flatMap (subjectToken rt) ++
    ((rt.loads row.payloadJson).elim [] (collectJsonStringTokens rt))

/-- `_runtime_subject_tokens`, in the order in which the set yields them. -/
def runtimeSubjectTokens (resumeId : String) (identityRows : List IdentityRow)
    (evidenceRows : List EvidenceRow) : List String :=
  rt.setOrder ((resumeId :: (identityRows.flatMap (IdentityRow.tokens rt) ++
    evidenceRows.flatMap (EvidenceRow.tokens rt))).filter (· ≠ "")).dedup

/-! ## Taking them out of a document -/

/-- `_erase_tokens_from_string`. -/
def eraseTokensFromString (subjectTokens : List String) (value : String) : String :=
  (subjectTokens.insertionSort fun a b => b.length ≤ a.length).foldl (fun cleaned token =>
    if token = "" then cleaned
    else if occursIn token cleaned then eraseToken token cleaned
    else cleaned) value

mutual

/-- `_erase_tokens_from_json_value`: of two members that get one key, the later one stays. -/
def eraseTokensFromJsonValue (subjectTokens : List String) : Json → Json
  | .obj members => .obj (eraseTokensFromMembers subjectTokens [] members)
  | .arr items => .arr (eraseTokensFromItems subjectTokens items)
  | .str value => .str (eraseTokensFromString subjectTokens value)
  | .null => .null
  | .bool value => .bool value
  | .int value => .int value
  | .float value => .float value

def eraseTokensFromItems (subjectTokens : List String) : List Json → List Json
  | [] => []
  | item :: rest =>
    eraseTokensFromJsonValue subjectTokens item :: eraseTokensFromItems subjectTokens rest

def eraseTokensFromMembers (subjectTokens : List String) (cleaned : List (String × Json)) :
    List (String × Json) → List (String × Json)
  | [] => cleaned
  | (key, item) :: rest =>
    eraseTokensFromMembers subjectTokens
      (Dict.updateEntry (eraseTokensFromString subjectTokens key) .null
        (fun _ => eraseTokensFromJsonValue subjectTokens item) cleaned) rest

end

/-- `_erase_tokens_from_json_text`. -/
def eraseTokensFromJsonText (rawJson : String) (subjectTokens : List String) : String :=
  match rt.loads rawJson with
  | none | some .null => subjectTokens.foldl (fun cleaned token => eraseToken token cleaned) rawJson
  | some value => rt.dumps (eraseTokensFromJsonValue subjectTokens value)

end Erasure

end SeekTalent.PrivacyErasure
