import SeekTalent.Foundation.Dicts
import SeekTalent.SourcePort.WirePrimitives

/-!
# The signals of a candidate identity

What one observation says about who a candidate is (`RuntimeIdentitySignals` of
`seektalent/models.py`) and the functions of `seektalent/runtime/source_lanes.py` that read it: the
keys under which an observation is indexed, the identity id that its strongest key names, the score
of a fuzzy match and the merge of two signals.
-/

namespace SeekTalent.SourceLanes

open Foundation SourcePort

variable {key : String}

/-- A text that Python takes for true: it is there and not empty. -/
def truthyText (value : Option String) : Bool :=
  value.any (fun text => text ≠ "")

/-- `left or right`. -/
def orText (left right : Option String) : Option String :=
  if truthyText left then left else right

/-- `RuntimeIdentitySignals`. -/
structure RuntimeIdentitySignals where
  normalizedName : Option String := none
  isMaskedName : Bool := false
  currentCompanyNorm : Option String := none
  currentTitleNorm : Option String := none
  schoolNorms : List String := []
  workChronologyFingerprints : List String := []
  providerCandidateKeyHash : Option String := none
  protectedContactHashes : List String := []
  yearsOfExperience : Option Int := none
  locationNorms : List String := []
  skillNorms : List String := []
  deriving DecidableEq, Repr

namespace RuntimeIdentitySignals

/-- The name is there and not masked. -/
def VisibleName (signals : RuntimeIdentitySignals) : Prop :=
  signals.isMaskedName = false ∧ truthyText signals.normalizedName = true

instance (signals : RuntimeIdentitySignals) : Decidable signals.VisibleName :=
  inferInstanceAs (Decidable (_ ∧ _))

/-- `RuntimeCandidateIdentityIndex._fuzzy_bucket_name`. -/
def fuzzyBucketName (signals : RuntimeIdentitySignals) : Option String :=
  if signals.isMaskedName || !truthyText signals.normalizedName then none
  else signals.normalizedName

end RuntimeIdentitySignals

/-! ## Keys -/

/-- The keys of the protected contacts. -/
def contactKeys (signals : RuntimeIdentitySignals) : List String :=
  (sortedTexts signals.protectedContactHashes).map ("contact:" ++ ·)

/-- The key of the candidate at its provider. -/
def providerKeys (signals : RuntimeIdentitySignals) : List String :=
  if truthyText signals.providerCandidateKeyHash then
    (signals.providerCandidateKeyHash.map ("provider:" ++ ·)).toList
  else []

/-- The parts of a profile that tell people of one name apart, the name first. -/
def distinctiveParts (signals : RuntimeIdentitySignals) : List String :=
  [signals.normalizedName.getD "", signals.currentCompanyNorm.getD "",
    signals.currentTitleNorm.getD "", "|".intercalate signals.schoolNorms,
    "|".intercalate signals.workChronologyFingerprints]

variable (py : PythonRuntime)

/-- The key of a visible name with a distinctive profile. -/
def identityFieldKeys (signals : RuntimeIdentitySignals) : List String :=
  if signals.VisibleName ∧ (distinctiveParts signals).tail.any (fun part => part ≠ "") then
    ["identity-fields:" ++
      py.sha256Hexdigest ("||".intercalate (distinctiveParts signals)).toUTF8.data.toList]
  else []

/-- `_identity_keys`. -/
def identityKeys (signals : RuntimeIdentitySignals) (evidenceId : String) : List String :=
  match contactKeys signals ++ providerKeys signals with
  | key :: keys => key :: keys
  | [] =>
    match identityFieldKeys py signals with
    | key :: keys => key :: keys
    | [] => ["evidence:" ++ evidenceId]

/-- `_primary_identity_key`. -/
def primaryIdentityKey (signals : RuntimeIdentitySignals) (evidenceId : String) : String :=
  match contactKeys signals with
  | key :: _ => key
  | [] =>
    match providerKeys signals with
    | key :: _ => key
    | [] => (identityKeys py signals evidenceId).headD ""

/-- `_stable_identity_id`. -/
def stableIdentityId (identityKey : String) : String :=
  "identity-" ++ String.ofList ((py.sha256Hexdigest identityKey.toUTF8.data.toList).toList.take 16)

/-- `_strongest_signal_code`. -/
def strongestSignalCode (signals : RuntimeIdentitySignals) : String :=
  if signals.protectedContactHashes ≠ [] then "protected_contact_hash"
  else if truthyText signals.providerCandidateKeyHash then "provider_candidate_key_hash"
  else if signals.isMaskedName then "masked_name_only"
  else "normalized_identity_fields"

/-! ## Scores -/

/-- `[\s,/|:;()_-]`. -/
def isTokenSeparator (character : Char) : Bool :=
  isPythonSpace character || character ∈ [',', '/', '|', ':', ';', '(', ')', '_', '-']

/-- `_identity_tokens`: a set of words, so each word once. -/
def identityTokens (values : List String) : List String :=
  (values.flatMap fun value =>
    ((value.toList.splitOnP isTokenSeparator).filter (· ≠ [])).map String.ofList).dedup

/-- `_token_overlap(left, right) >= numerator / denominator`, for a positive threshold. -/
def tokenOverlapAtLeast (left right : List String) (numerator denominator : Nat) : Bool :=
  let leftTokens := identityTokens left
  let rightTokens := identityTokens right
  leftTokens ≠ [] && rightTokens ≠ [] &&
    numerator * (leftTokens ∪ rightTokens).length ≤
      denominator * (leftTokens.filter (· ∈ rightTokens)).length

/-- `_same_or_similar_text`. -/
def sameOrSimilarText (left right : Option String) (numerator denominator : Nat) : Bool :=
  truthyText left && truthyText right &&
    (left == right || tokenOverlapAtLeast left.toList right.toList numerator denominator)

/-- `set(left) & set(right)`, read as a truth value. -/
def shareElement (left right : List String) : Bool :=
  left.any (· ∈ right)

/-- Both counts of years are known and differ by at most one. -/
def closeYears (left right : Option Int) : Bool :=
  match left, right with
  | some left, some right => (left - right).natAbs ≤ 1
  | _, _ => false

/-- What two profiles under one visible name have in common, out of 95. -/
def profileScore (left right : RuntimeIdentitySignals) : Nat :=
  40 + (if truthyText left.currentCompanyNorm ∧ left.currentCompanyNorm = right.currentCompanyNorm
      then 20 else 0) +
    (if sameOrSimilarText left.currentTitleNorm right.currentTitleNorm 3 5 then 15 else 0) +
    (if shareElement left.schoolNorms right.schoolNorms then 15 else 0) +
    (if shareElement left.workChronologyFingerprints right.workChronologyFingerprints
      then 15 else 0) +
    (if closeYears left.yearsOfExperience right.yearsOfExperience then 5 else 0) +
    (if shareElement left.locationNorms right.locationNorms then 5 else 0) +
    (if tokenOverlapAtLeast left.skillNorms right.skillNorms 3 10 then 5 else 0)

/-- `_identity_match_score`. -/
def identityMatchScore (left right : RuntimeIdentitySignals) : Nat :=
  if shareElement left.protectedContactHashes right.protectedContactHashes then 100
  else if truthyText left.providerCandidateKeyHash ∧
      left.providerCandidateKeyHash = right.providerCandidateKeyHash then 95
  else if left.isMaskedName || right.isMaskedName then 0
  else if !truthyText left.normalizedName || left.normalizedName ≠ right.normalizedName then 0
  else min (profileScore left right) 95

/-- `_merge_identity_signals`, both sides known. -/
def mergeKnownSignals (left right : RuntimeIdentitySignals) : RuntimeIdentitySignals where
  normalizedName := orText left.normalizedName right.normalizedName
  isMaskedName := left.isMaskedName && right.isMaskedName
  currentCompanyNorm := orText left.currentCompanyNorm right.currentCompanyNorm
  currentTitleNorm := orText left.currentTitleNorm right.currentTitleNorm
  schoolNorms := sortedTexts (left.schoolNorms ++ right.schoolNorms)
  workChronologyFingerprints :=
    sortedTexts (left.workChronologyFingerprints ++ right.workChronologyFingerprints)
  providerCandidateKeyHash := orText left.providerCandidateKeyHash right.providerCandidateKeyHash
  protectedContactHashes :=
    sortedTexts (left.protectedContactHashes ++ right.protectedContactHashes)
  yearsOfExperience := left.yearsOfExperience <|> right.yearsOfExperience
  locationNorms := sortedTexts (left.locationNorms ++ right.locationNorms)
  skillNorms := sortedTexts (left.skillNorms ++ right.skillNorms)

/-- `_merge_identity_signals`. -/
def mergeIdentitySignals : Option RuntimeIdentitySignals → Option RuntimeIdentitySignals →
    RuntimeIdentitySignals
  | none, right => right.getD {}
  | some left, none => left
  | some left, some right => mergeKnownSignals left right

/-! ## What a key says -/

variable {signals : RuntimeIdentitySignals}

/-- A contact key is a contact. -/
lemma mem_contactKeys :
    key ∈ contactKeys signals ↔ ∃ hash ∈ signals.protectedContactHashes, key = "contact:" ++
      hash := by
  simp only [contactKeys, List.mem_map, mem_sortedTexts, eq_comm]

/-- A provider key is the hash that the provider gave. -/
lemma mem_providerKeys :
    key ∈ providerKeys signals ↔
      ∃ hash, signals.providerCandidateKeyHash = some hash ∧ hash ≠ "" ∧
        key = "provider:" ++ hash := by
  unfold providerKeys
  cases hprovider : signals.providerCandidateKeyHash with
  | none => simp [truthyText]
  | some hash =>
    by_cases hempty : hash = ""
    · simp [truthyText, hempty]
    · simp [truthyText, hempty]

/-- Contacts and the provider's hash are always keys. -/
lemma mem_identityKeys_of_hard {evidenceId : String}
    (hkey : key ∈ contactKeys signals ++ providerKeys signals) :
    key ∈ identityKeys py signals evidenceId := by
  unfold identityKeys
  cases hhard : contactKeys signals ++ providerKeys signals with
  | nil => rw [hhard] at hkey; cases hkey
  | cons first rest => rwa [hhard] at hkey

/-- Without a visible name the keys are the contacts and the provider's hash, or else the
evidence. -/
lemma mem_identityKeys_of_not_visible {evidenceId : String}
    (hname : ¬ signals.VisibleName) (hkey : key ∈ identityKeys py signals evidenceId) :
    key ∈ contactKeys signals ∨ key ∈ providerKeys signals ∨ key = "evidence:" ++ evidenceId := by
  unfold identityKeys at hkey
  cases hhard : contactKeys signals ++ providerKeys signals with
  | nil =>
    have hfields : identityFieldKeys py signals = [] := by simp [identityFieldKeys, hname]
    rw [hhard, hfields] at hkey
    exact Or.inr (Or.inr (List.mem_singleton.mp hkey))
  | cons first rest =>
    have hmem : key ∈ contactKeys signals ++ providerKeys signals := by
      rw [hhard] at hkey ⊢
      exact hkey
    rcases List.mem_append.mp hmem with hcontact | hprovider
    · exact Or.inl hcontact
    · exact Or.inr (Or.inl hprovider)

/-- The primary key is one of the keys. -/
lemma primaryIdentityKey_mem (signals : RuntimeIdentitySignals) (evidenceId : String) :
    primaryIdentityKey py signals evidenceId ∈ identityKeys py signals evidenceId := by
  unfold primaryIdentityKey
  cases hcontacts : contactKeys signals with
  | cons key rest => exact mem_identityKeys_of_hard py (by simp [hcontacts])
  | nil =>
    cases hprovider : providerKeys signals with
    | cons key rest => exact mem_identityKeys_of_hard py (by simp [hprovider])
    | nil =>
      unfold identityKeys
      rw [hcontacts, hprovider]
      cases identityFieldKeys py signals <;> simp

end SeekTalent.SourceLanes
