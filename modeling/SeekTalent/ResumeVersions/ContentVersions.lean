import Mathlib.Data.List.Lex
import Mathlib.Data.List.Sort
import Mathlib.Data.Prod.Lex
import SeekTalent.Foundation.Json
import SeekTalent.SourcePort.WirePrimitives

/-!
# The content of a resume

`resume_content_version` of `seektalent/runtime/resume_versions.py`: what a resume says about jobs,
projects and schools, with normalised texts and with the periods that its durations name, and how
fresh that is.

Unicode normalisation and the classes of characters that a regular expression knows are functions of
`VersionRuntime`; no result asks anything of them.
-/

namespace SeekTalent.ResumeVersions

open Foundation SourcePort

/-- The functions on texts. -/
structure VersionRuntime extends PythonRuntime where
  /-- `unicodedata.normalize("NFKC", value)`. -/
  normalizeNfkc : String → String
  /-- A character that `\d` matches. -/
  isDecimal : Char → Bool
  /-- The value of such a character, as `int` reads it. -/
  decimalValue : Char → Nat
  /-- A character that `\w` matches. -/
  isWord : Char → Bool
  /-- The SHA-256 digest of a payload that is dumped with sorted keys and no spaces. -/
  payloadDigest : Json → String

/-! ## Resumes -/

/-- `StructuredEvidenceValue`. -/
inductive StructuredEvidenceValue where
  | text (value : String)
  | number (value : Int)
  deriving DecidableEq, Repr

/-- `StructuredResumeTimelineItem`. -/
structure StructuredResumeTimelineItem where
  company : String := ""
  title : String := ""
  name : String := ""
  school : String := ""
  major : String := ""
  degree : String := ""
  duration : String := ""
  summary : String := ""
  deriving DecidableEq, Repr

/-- `StructuredResumeEvidence`. -/
structure StructuredResumeEvidence where
  identity : List (String × StructuredEvidenceValue) := []
  currentRole : List (String × StructuredEvidenceValue) := []
  status : List (String × StructuredEvidenceValue) := []
  jobIntention : List (String × StructuredEvidenceValue) := []
  workExperience : List StructuredResumeTimelineItem := []
  projectExperience : List StructuredResumeTimelineItem := []
  educationExperience : List StructuredResumeTimelineItem := []
  skills : List String := []
  sourceMetadata : List (String × StructuredEvidenceValue) := []
  deriving DecidableEq, Repr

/-! ## Texts and dates -/

/-- `TimelinePeriod`. -/
structure TimelinePeriod where
  start : Nat
  finish : Nat
  current : Bool
  deriving DecidableEq, Repr

section Texts

variable (rt : VersionRuntime)

/-- `_normalize_text`. -/
def normalizeText (value : String) : String :=
  " ".intercalate (splitText (rt.casefold (rt.normalizeNfkc value)))

/-- `_text`. -/
def textOf : Option StructuredEvidenceValue → String
  | none => ""
  | some (.text value) => normalizeText rt value
  | some (.number value) => normalizeText rt (toString value)

/-- `1[0-2]|0?[1-9]`, with what is behind it. -/
def matchMonthNumber : List Char → Option (Nat × List Char)
  | '1' :: '0' :: rest => some (10, rest)
  | '1' :: '1' :: rest => some (11, rest)
  | '1' :: '2' :: rest => some (12, rest)
  | '0' :: c :: rest => if '1' ≤ c ∧ c ≤ '9' then some (c.toNat - 48, rest) else none
  | c :: rest => if '1' ≤ c ∧ c ≤ '9' then some (c.toNat - 48, rest) else none
  | [] => none

/-- The group of a separator and a month in `_DATE_PATTERN`, with what is behind it. -/
def matchMonth (text : List Char) : Option (Nat × List Char) :=
  match text.dropWhile isPythonSpace with
  | c :: rest =>
    if c ∈ ['-', '/', '.', '年'] then
      match matchMonthNumber (rest.dropWhile isPythonSpace) with
      | some (month, '月' :: rest) => some (month, rest)
      | other => other
    else none
  | [] => none

/-- `(?:19|20)\d{2}`, with what is behind it. -/
def matchYear : List Char → Option (Nat × List Char)
  | a :: b :: c :: d :: rest =>
    if ((a = '1' ∧ b = '9') ∨ (a = '2' ∧ b = '0')) ∧ rt.isDecimal c ∧ rt.isDecimal d then
      some ((if a = '1' then 1900 else 2000) + 10 * rt.decimalValue c + rt.decimalValue d, rest)
    else none
  | _ => none

/-- `_DATE_PATTERN` at the start of a text: the date, and how many characters it has. -/
def matchDate (text : List Char) : Option (Nat × Nat) :=
  (matchYear rt text).map fun (year, behindYear) =>
    match matchMonth behindYear with
    | some (month, rest) => (year * 100 + month, text.length - rest.length)
    | none => (year * 100 + 1, 4)

/-- The matches of `_DATE_PATTERN` from a character on; the first ones may belong to the match
before. -/
def datesFrom : Nat → Option Char → List Char → List Nat
  | _, _, [] => []
  | skipped + 1, _, c :: rest => datesFrom skipped (some c) rest
  | 0, previous, c :: rest =>
    match if previous.any rt.isDecimal then none else matchDate rt (c :: rest) with
    | some (date, length) => date :: datesFrom (length - 1) (some c) rest
    | none => datesFrom 0 (some c) rest

/-- `_dates`. -/
def dates (value : String) : List Nat :=
  datesFrom rt 0 none value.toList

/-- Words with spaces between them at the start of a text, with what is behind them. -/
def matchWords : List String → List Char → Option (List Char)
  | [], text => some text
  | [word], text =>
    if word.toList.isPrefixOf text then some (text.drop word.length) else none
  | word :: words, text =>
    if word.toList.isPrefixOf text ∧ ((text.drop word.length).head?.any isPythonSpace) then
      matchWords words ((text.drop word.length).dropWhile isPythonSpace)
    else none

/-- The words stand somewhere behind a character, with no other word character next to them. -/
def hasWordsFrom (words : List String) : Option Char → List Char → Bool
  | _, [] => false
  | previous, c :: rest =>
    (!previous.any rt.isWord &&
      ((matchWords words (c :: rest)).any fun behind => !behind.head?.any rt.isWord)) ||
    hasWordsFrom words (some c) rest

/-- `\b..\b` of some words. -/
def hasWords (words : List String) (value : String) : Bool :=
  hasWordsFrom rt words none value.toList

/-- `(?<!不)在职` behind a character. -/
def hasEmployedFrom : Option Char → List Char → Bool
  | _, [] => false
  | previous, c :: rest =>
    (previous ≠ some '不' && "在职".toList.isPrefixOf (c :: rest)) || hasEmployedFrom (some c) rest

/-- `_has_current_marker`. -/
def hasCurrentMarker (value : String) : Bool :=
  if hasWords rt ["not", "current"] value || hasWords rt ["not", "presently", "employed"] value ||
      ["目前不在职", "现在不在职", "不在职"].any (containsText value) then false
  else ["present", "current", "now"].any (fun word => hasWords rt [word] value) ||
    ["至今", "现在", "目前"].any (containsText value) || hasEmployedFrom none value.toList

/-- `_period_key`. -/
def periodKey (duration : String) : TimelinePeriod :=
  let value := normalizeText rt duration
  { start := (dates rt value).head?.getD 0
    finish := (dates rt value).getLast?.getD 0
    current := hasCurrentMarker rt value }

/-- `_timeline_freshness`. -/
def timelineFreshness (duration : String) : Option (Nat ×ₗ Nat) :=
  let value := normalizeText rt duration
  if hasCurrentMarker rt value then some (toLex (1, 0))
  else (dates rt value).max?.map fun date => toLex (0, date)

end Texts

/-! ## Versions -/

/-- `TimelineVersionItem`: the texts of a job are company, title and summary, those of a project
name, company, title and summary, and those of a school its name, major, degree and summary. -/
structure TimelineVersionItem where
  period : TimelinePeriod
  texts : List String
  deriving DecidableEq, Repr

/-- The order of tuples. -/
def TimelineVersionItem.key (item : TimelineVersionItem) : Nat ×ₗ Nat ×ₗ Bool ×ₗ List String :=
  toLex (item.period.start, toLex (item.period.finish, toLex (item.period.current, item.texts)))

/-- `sorted(items)`. -/
def sortedItems (items : List TimelineVersionItem) : List TimelineVersionItem :=
  items.insertionSort fun item item' => item.key ≤ item'.key

/-- `ResumeContentVersion`. -/
structure ResumeContentVersion where
  resumeId : String
  freshness : Option (Nat ×ₗ Nat)
  contentKey : String
  currentCompany : String
  currentTitle : String
  workItems : List TimelineVersionItem
  projectItems : List TimelineVersionItem
  educationItems : List TimelineVersionItem
  deriving DecidableEq

section Versions

variable (rt : VersionRuntime)

/-- `_work_item`. -/
def workItem (item : StructuredResumeTimelineItem) : TimelineVersionItem where
  period := periodKey rt item.duration
  texts := [item.company, item.title, item.summary].map (normalizeText rt)

/-- `_project_item`. -/
def projectItem (item : StructuredResumeTimelineItem) : TimelineVersionItem where
  period := periodKey rt item.duration
  texts := [item.name, item.company, item.title, item.summary].map (normalizeText rt)

/-- `_education_item`. -/
def educationItem (item : StructuredResumeTimelineItem) : TimelineVersionItem where
  period := periodKey rt item.duration
  texts := [item.school, item.major, item.degree, item.summary].map (normalizeText rt)

/-- An item of the payload, with the names of its texts. -/
def itemPayload (names : List String) (item : TimelineVersionItem) : Json :=
  .obj (("period",
    .arr [.int item.period.start, .int item.period.finish, .int item.period.current.toNat]) ::
    (names.zip (item.texts.map Json.str)))

/-- `_content_key`. -/
def contentKey (role : List (String × Json)) (work projects education : List TimelineVersionItem) :
    String :=
  "structured-v2:" ++ rt.payloadDigest (.obj
    [("current_role", .obj role),
      ("education_experience",
        .arr (education.map (itemPayload ["school", "major", "degree", "summary"]))),
      ("project_experience",
        .arr (projects.map (itemPayload ["name", "company", "title", "summary"]))),
      ("work_experience", .arr (work.map (itemPayload ["company", "title", "summary"])))])

/-- `resume_content_version`. -/
def resumeContentVersion (resumeId : String) : Option StructuredResumeEvidence →
    ResumeContentVersion
  | none =>
    { resumeId
      freshness := none
      contentKey := contentKey rt [] [] [] []
      currentCompany := ""
      currentTitle := ""
      workItems := []
      projectItems := []
      educationItems := [] }
  | some structured =>
    let company := textOf rt (structured.currentRole.lookup "company")
    let title := textOf rt (structured.currentRole.lookup "title")
    let work := sortedItems (structured.workExperience.map (workItem rt))
    let projects := sortedItems (structured.projectExperience.map (projectItem rt))
    let education := sortedItems (structured.educationExperience.map (educationItem rt))
    { resumeId
      freshness := ((structured.workExperience ++ structured.projectExperience ++
        structured.educationExperience).filterMap fun item =>
          timelineFreshness rt item.duration).max?
      contentKey :=
        contentKey rt [("company", .str company), ("title", .str title)] work projects education
      currentCompany := company
      currentTitle := title
      workItems := work
      projectItems := projects
      educationItems := education }

end Versions

end SeekTalent.ResumeVersions
