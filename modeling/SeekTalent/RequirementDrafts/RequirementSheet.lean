import SeekTalent.SourcePort.WirePrimitives

/-!
# Requirement sheets

The sheet of requirements that a job description is read into (`seektalent/models.py`), and how a
supplement read from a later text is merged into it (`seektalent_runtime_control/normalizer.py`).
-/

namespace SeekTalent.RequirementDrafts

open SourcePort

/-- `QueryTermSource`. -/
inductive QueryTermSource where
  | jobTitle | jd | notes | reflection | candidateFeedback
  deriving DecidableEq

/-- `QueryTermCategory`. -/
inductive QueryTermCategory where
  | roleAnchor | domain | tooling | expansion | company
  deriving DecidableEq

/-- `QueryRetrievalRole`. -/
inductive QueryRetrievalRole where
  | roleAnchor | coreSkill | primaryRoleAnchor | secondaryTitleAnchor | domainContext
  | frameworkTool
  | filterOnly | scoreOnly
  deriving DecidableEq

/-- `Queryability`. -/
inductive Queryability where
  | admitted | scoreOnly | filterOnly | blocked
  deriving DecidableEq

/-- `QueryTermCandidate`. -/
structure QueryTermCandidate where
  term : String
  source : QueryTermSource
  category : QueryTermCategory
  priority : Int
  evidence : String
  firstAddedRound : Int
  active : Bool
  retrievalRole : QueryRetrievalRole
  queryability : Queryability
  family : String
  deriving DecidableEq

/-- The three lists of hard constraints. -/
inductive HardField where
  | locations | schoolNames | companyNames
  deriving DecidableEq

/-- The order in which the lists are shown. -/
def HardField.all : List HardField := [.locations, .schoolNames, .companyNames]

/-- `DegreeRequirement`. -/
structure DegreeRequirement where
  canonicalDegree : String
  rawText : String
  pinned : Bool
  deriving DecidableEq

/-- `SchoolTypeRequirement`. -/
structure SchoolTypeRequirement where
  canonicalTypes : List String
  rawText : String
  pinned : Bool
  deriving DecidableEq

/-- `ExperienceRequirement`. -/
structure ExperienceRequirement where
  minYears : Option Int
  maxYears : Option Int
  rawText : String
  pinned : Bool
  deriving DecidableEq

/-- `GenderRequirement`. -/
structure GenderRequirement where
  canonicalGender : String
  rawText : String
  pinned : Bool
  deriving DecidableEq

/-- `AgeRequirement`. -/
structure AgeRequirement where
  minAge : Option Int
  maxAge : Option Int
  rawText : String
  pinned : Bool
  deriving DecidableEq

/-- `HardConstraintSlots`; `names` are its three lists. -/
structure HardConstraintSlots where
  names : HardField → List String
  degreeRequirement : Option DegreeRequirement
  schoolTypeRequirement : Option SchoolTypeRequirement
  experienceRequirement : Option ExperienceRequirement
  genderRequirement : Option GenderRequirement
  ageRequirement : Option AgeRequirement

/-- `PreferenceSlots`. -/
structure PreferenceSlots where
  preferredLocations : List String
  preferredCompanies : List String
  preferredDomains : List String
  preferredBackgrounds : List String
  preferredQueryTerms : List String
  deriving DecidableEq

/-- `RequirementSheet`. -/
structure RequirementSheet where
  jobTitle : String
  titleAnchorTerms : List String
  titleAnchorRationale : String
  roleSummary : String
  mustHaveCapabilities : List String
  preferredCapabilities : List String
  exclusionSignals : List String
  hardConstraints : HardConstraintSlots
  preferences : PreferenceSlots
  initialQueryTermPool : List QueryTermCandidate
  scoringRationale : String

variable (py : PythonRuntime)

/-- `unique_strings`. -/
def uniqueStrings (values : List String) : List String :=
  (values.foldl (fun (held : List String × List String) value =>
    let clean := stripText value
    let key := py.casefold clean
    if clean = "" ∨ key ∈ held.1 then held else (held.1 ++ [key], held.2 ++ [clean])) ([], [])).2

/-- `_query_term_key`. -/
def queryTermKey (term : String) : String :=
  py.casefold (" ".intercalate (splitText term))

/-- Change the first item that meets a condition. -/
def modifyFirst {α : Type} (p : α → Bool) (change : α → α) : List α → List α
  | [] => []
  | item :: rest => if p item then change item :: rest else item :: modifyFirst p change rest

/-- What becomes of a term that the supplement names again. -/
def supplementedTerm (roundNo : Int) (candidate existing : QueryTermCandidate) :
    QueryTermCandidate :=
  if existing.source = .jobTitle ∧ candidate.source = .jobTitle then existing
  else if existing.queryability ≠ .admitted then { existing with active := false }
  else if candidate.queryability ≠ .admitted then
    { candidate with firstAddedRound := roundNo, active := false }
  else { existing with firstAddedRound := roundNo, active := true }

/-- One term of the supplement: the last term with its key is changed, or it is appended. -/
def mergeQueryTerm (roundNo : Int) (output : List QueryTermCandidate)
    (candidate : QueryTermCandidate) : List QueryTermCandidate :=
  let key := queryTermKey py candidate.term
  if key = "" then output
  else if output.any (fun held => queryTermKey py held.term = key) then
    (modifyFirst (fun held => queryTermKey py held.term = key) (supplementedTerm roundNo candidate)
      output.reverse).reverse
  else output ++ [{ candidate with
    firstAddedRound := roundNo, active := candidate.queryability = .admitted }]

/-- `_merge_query_terms`. -/
def mergeQueryTerms (roundNo : Int) (base supplement : List QueryTermCandidate) :
    List QueryTermCandidate :=
  supplement.foldl (mergeQueryTerm py roundNo) base

/-- `_merge_rationale`. -/
def mergeRationale (base supplement : String) : String :=
  let base := stripText base
  let supplement := stripText supplement
  if supplement = "" ∨ py.casefold supplement = py.casefold base then base
  else if base = "" then supplement
  else base ++ " Additional user requirement: " ++ supplement

/-- `prepare_requirement_supplement`. -/
def prepareRequirementSupplement (supplement : RequirementSheet) (roundNo : Int) :
    RequirementSheet :=
  { supplement with initialQueryTermPool :=
    supplement.initialQueryTermPool.map (fun item => { item with
      firstAddedRound := roundNo, active := item.queryability = .admitted }) }

/-- `merge_requirement_sheet_supplement`. -/
def mergeRequirementSheetSupplement (base given : RequirementSheet) (roundNo : Int) :
    RequirementSheet :=
  let supplement := prepareRequirementSupplement given roundNo
  let joined (field : RequirementSheet → List String) : List String :=
    uniqueStrings py (field base ++ field supplement)
  let preferred (field : PreferenceSlots → List String) : List String :=
    uniqueStrings py (field base.preferences ++ field supplement.preferences)
  let held := base.hardConstraints
  let added := supplement.hardConstraints
  { base with
    mustHaveCapabilities := joined RequirementSheet.mustHaveCapabilities
    preferredCapabilities := joined RequirementSheet.preferredCapabilities
    exclusionSignals := joined RequirementSheet.exclusionSignals
    hardConstraints := {
      names := fun field => uniqueStrings py (held.names field ++ added.names field)
      degreeRequirement := held.degreeRequirement.or added.degreeRequirement
      schoolTypeRequirement := held.schoolTypeRequirement.or added.schoolTypeRequirement
      experienceRequirement := held.experienceRequirement.or added.experienceRequirement
      genderRequirement := held.genderRequirement.or added.genderRequirement
      ageRequirement := held.ageRequirement.or added.ageRequirement }
    preferences := {
      preferredLocations := preferred PreferenceSlots.preferredLocations
      preferredCompanies := preferred PreferenceSlots.preferredCompanies
      preferredDomains := preferred PreferenceSlots.preferredDomains
      preferredBackgrounds := preferred PreferenceSlots.preferredBackgrounds
      preferredQueryTerms := preferred PreferenceSlots.preferredQueryTerms }
    initialQueryTermPool :=
      mergeQueryTerms py roundNo base.initialQueryTermPool supplement.initialQueryTermPool
    scoringRationale := mergeRationale py base.scoringRationale supplement.scoringRationale }

end SeekTalent.RequirementDrafts
