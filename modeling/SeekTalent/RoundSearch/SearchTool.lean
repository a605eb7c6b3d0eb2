import Mathlib.Data.List.Nodup
import SeekTalent.Foundation.Lists
import SeekTalent.Rounds.SourceDispatch

/-!
# The search tool

`execute_search_tool` of `seektalent/runtime/retrieval_runtime.py`: pages of one query are fetched
until the target is met, the provider has nothing more, nothing new comes, or the attempts or the
pages run out.  The provider may answer in any way, may keep a state and may raise.

`executeSearchTool_spec` says what a run of the tool comes to, whatever the provider does.
-/

namespace SeekTalent.RoundSearch

open Foundation QueryPlanning
open Rounds (LaneType QueryRole LogicalQueryDispatch)

/-! ## Data -/

/-- The settings of a search, which are checked to be at least 1. -/
structure SearchSettings where
  searchMaxAttemptsPerRound : Nat
  searchMaxPagesPerRound : Nat
  searchNoProgressLimit : Nat
  attempts_pos : 1 ≤ searchMaxAttemptsPerRound
  pages_pos : 1 ≤ searchMaxPagesPerRound
  noProgress_pos : 1 ≤ searchNoProgressLimit

/-- `LocationExecutionPhase`. -/
inductive LocationExecutionPhase
  | priority
  | balanced
  deriving DecidableEq, Repr

/-- `ProviderQuery`, as far as a search sets it. -/
structure ProviderQuery where
  laneType : LaneType
  queryInstanceId : String
  queryFingerprint : String
  city : Option String := none
  page : Int
  pageSize : Int
  deriving DecidableEq, Repr

/-- The first hit of a resume: `first_query_instance_id` and the fields that are set with it. -/
structure FirstHit where
  queryInstanceId : String
  queryFingerprint : String
  laneType : LaneType
  locationKey : Option String
  batchNo : Nat
  deriving DecidableEq, Repr

/-- `ResumeCandidate`, as far as a search reads it. -/
structure ResumeCandidate where
  resumeId : String
  dedupKey : String
  firstHit : Option FirstHit := none
  deriving DecidableEq, Repr

/-- `SearchResult`, as far as a search reads it. -/
structure SearchResult where
  candidates : List ResumeCandidate
  rawCandidateCount : Nat
  deriving DecidableEq, Repr

/-- Why a search stopped. -/
inductive ExhaustedReason
  | targetSatisfied
  | providerExhausted
  | noProgressRepeatedResults
  | maxAttemptsReached
  | maxPagesReached
  deriving DecidableEq, Repr

/-- `SearchAttempt`, with its query. -/
structure SearchAttempt where
  query : ProviderQuery
  phase : Option LocationExecutionPhase
  batchNo : Nat
  attemptNo : Nat
  rawCandidateCount : Nat
  batchDuplicateCount : Nat
  batchUniqueNewCount : Nat
  cumulativeUniqueNewCount : Nat
  consecutiveZeroGainAttempts : Nat
  continueRefill : Bool
  exhaustedReason : Option ExhaustedReason
  deriving DecidableEq, Repr

/-- What ends a search early. -/
inductive SearchFault
  /-- What `search_once`, the check of its snapshots or the scoring raises. -/
  | raised (message : String)
  | keyError (key : String)
  /-- Not an error of the source: a loop did not stop within its bound. -/
  | outOfFuel
  deriving DecidableEq, Repr

/-- `search_once` with the check of the snapshots: an answer, or what is raised, from a state of the
provider. -/
abbrev Provider (σ : Type) :=
  σ → ProviderQuery → Except String (SearchResult × σ)

variable {σ : Type}

/-! ## One batch -/

/-- `_apply_first_hit_attribution` -/
def applyFirstHitAttribution (candidate : ResumeCandidate) (query : ProviderQuery) (batchNo : Nat) :
    ResumeCandidate :=
  match candidate.firstHit with
  | some _ => candidate
  | none =>
    { candidate with
      firstHit := some
        { queryInstanceId := query.queryInstanceId
          queryFingerprint := query.queryFingerprint
          laneType := query.laneType
          locationKey := query.city
          batchNo := batchNo } }

/-- The new resumes of a batch, with the keys that were seen in the search so far. -/
structure Batch where
  batchNew : List ResumeCandidate := []
  batchDuplicates : Nat := 0
  localSeenKeys : List String
  deriving DecidableEq, Repr

/-- One candidate of a batch. -/
def takeCandidate (seenResumeIds : List String) (query : ProviderQuery) (batchNo : Nat) (b : Batch)
    (candidate : ResumeCandidate) : Batch :=
  if candidate.dedupKey ∈ b.localSeenKeys then { b with batchDuplicates := b.batchDuplicates + 1 }
  else if candidate.resumeId ∈ seenResumeIds then
    { b with localSeenKeys := b.localSeenKeys ++ [candidate.dedupKey] }
  else
    { b with
      localSeenKeys := b.localSeenKeys ++ [candidate.dedupKey]
      batchNew := b.batchNew ++ [applyFirstHitAttribution candidate query batchNo] }

/-! ## The loop -/

/-- The state of the loop of `execute_search_tool`, which has made as many attempts as it
recorded. -/
structure ToolRun (σ : Type) where
  world : σ
  page : Int
  newCandidates : List ResumeCandidate := []
  localSeenKeys : List String
  attempts : List SearchAttempt := []
  rawCandidateCount : Nat := 0
  duplicateCount : Nat := 0
  consecutiveZeroGainAttempts : Nat := 0

/-- The reason for which the loop stops behind an attempt, unless it goes on. -/
def stopReason (settings : SearchSettings) (targetNew : Int)
    (newCount rawCount zeroGain attemptNo : Nat) (page : Int) : Option ExhaustedReason :=
  if targetNew ≤ newCount then some .targetSatisfied
  else if rawCount = 0 then some .providerExhausted
  else if settings.searchNoProgressLimit ≤ zeroGain then some .noProgressRepeatedResults
  else if settings.searchMaxAttemptsPerRound ≤ attemptNo then some .maxAttemptsReached
  else if (settings.searchMaxPagesPerRound : Int) ≤ page then some .maxPagesReached
  else none

/-- What a search is called with. -/
structure ToolCall where
  query : ProviderQuery
  targetNew : Int
  phase : Option LocationExecutionPhase
  batchNo : Nat
  seenResumeIds : List String
  seenDedupKeys : List String

/-- The query of the next attempt: the next page, with room for what is missing. -/
def ToolCall.attemptQuery (call : ToolCall) (run : ToolRun σ) : ProviderQuery :=
  { call.query with page := run.page, pageSize := call.targetNew - run.newCandidates.length }

/-- The state behind an attempt, before the page is turned, and the reason to stop. -/
def recordAttempt (settings : SearchSettings) (call : ToolCall) (run : ToolRun σ)
    (fetched : SearchResult) (world : σ) : ToolRun σ × Option ExhaustedReason :=
  let batch := fetched.candidates.foldl (takeCandidate call.seenResumeIds call.query call.batchNo)
    { localSeenKeys := run.localSeenKeys }
  let newCandidates := run.newCandidates ++ batch.batchNew
  let zeroGain := if batch.batchNew = [] then run.consecutiveZeroGainAttempts + 1 else 0
  let reason := stopReason settings call.targetNew newCandidates.length fetched.rawCandidateCount
    zeroGain (run.attempts.length + 1) run.page
  ({ world := world
     page := run.page
     newCandidates := newCandidates
     localSeenKeys := batch.localSeenKeys
     attempts := run.attempts ++
      [{ query := call.attemptQuery run
         phase := call.phase
         batchNo := call.batchNo
         attemptNo := run.attempts.length + 1
         rawCandidateCount := fetched.rawCandidateCount
         batchDuplicateCount := batch.batchDuplicates
         batchUniqueNewCount := batch.batchNew.length
         cumulativeUniqueNewCount := newCandidates.length
         consecutiveZeroGainAttempts := zeroGain
         continueRefill := reason.isNone
         exhaustedReason := reason }]
     rawCandidateCount := run.rawCandidateCount + fetched.rawCandidateCount
     duplicateCount := run.duplicateCount + batch.batchDuplicates
     consecutiveZeroGainAttempts := zeroGain }, reason)

/-- The page is turned. -/
def ToolRun.turn (run : ToolRun σ) : ToolRun σ :=
  { run with page := run.page + 1 }

/-- The loop of `execute_search_tool`, with as many attempts left as the settings still allow. -/
def searchLoop (settings : SearchSettings) (provider : Provider σ) (call : ToolCall) :
    Nat → ToolRun σ → Except SearchFault (ToolRun σ × ExhaustedReason)
  | 0, run => .ok (run, .maxAttemptsReached)
  | left + 1, run =>
    if (settings.searchMaxPagesPerRound : Int) < run.page then .ok (run, .maxPagesReached)
    else if call.targetNew - run.newCandidates.length ≤ 0 then .ok (run, .targetSatisfied)
    else
      match provider run.world (call.attemptQuery run) with
      | .error message => .error (.raised message)
      | .ok (fetched, world) =>
        match recordAttempt settings call run fetched world with
        | (next, some reason) => .ok (next, reason)
        | (next, none) => searchLoop settings provider call left next.turn

/-- `execute_search_tool` -/
def executeSearchTool (settings : SearchSettings) (provider : Provider σ) (call : ToolCall)
    (world : σ) : Except SearchFault (ToolRun σ × ExhaustedReason) :=
  searchLoop settings provider call settings.searchMaxAttemptsPerRound
    { world := world, page := max call.query.page 1, localSeenKeys := call.seenDedupKeys }

/-! ## What a batch holds -/

@[simp] lemma dedupKey_applyFirstHitAttribution (candidate : ResumeCandidate)
    (query : ProviderQuery) (batchNo : Nat) :
    (applyFirstHitAttribution candidate query batchNo).dedupKey = candidate.dedupKey := by
  unfold applyFirstHitAttribution
  split <;> rfl

@[simp] lemma resumeId_applyFirstHitAttribution (candidate : ResumeCandidate)
    (query : ProviderQuery) (batchNo : Nat) :
    (applyFirstHitAttribution candidate query batchNo).resumeId = candidate.resumeId := by
  unfold applyFirstHitAttribution
  split <;> rfl

/-- The resumes of a batch are new: no key twice, no key that was seen before, no seen resume. -/
structure Batch.Fresh (seenResumeIds seenKeys : List String) (b : Batch) : Prop where
  keeps : seenKeys ⊆ b.localSeenKeys
  noted : ∀ c ∈ b.batchNew, c.dedupKey ∈ b.localSeenKeys
  fresh : ∀ c ∈ b.batchNew, c.dedupKey ∉ seenKeys ∧ c.resumeId ∉ seenResumeIds
  nodup : (b.batchNew.map ResumeCandidate.dedupKey).Nodup

variable {seenResumeIds seenKeys : List String} {query : ProviderQuery} {batchNo : Nat}

lemma Batch.Fresh.takeCandidate {b : Batch} (h : b.Fresh seenResumeIds seenKeys)
    (candidate : ResumeCandidate) :
    (takeCandidate seenResumeIds query batchNo b candidate).Fresh seenResumeIds seenKeys := by
  unfold RoundSearch.takeCandidate
  split
  · exact ⟨h.keeps, h.noted, h.fresh, h.nodup⟩
  · rename_i hkey
    split
    · exact ⟨fun key hmem => List.mem_append_left _ (h.keeps hmem),
        fun c hc => List.mem_append_left _ (h.noted c hc), h.fresh, h.nodup⟩
    · rename_i hresume
      refine ⟨fun key hmem => List.mem_append_left _ (h.keeps hmem), fun c hc => ?_, fun c hc => ?_,
        ?_⟩
      · rcases List.mem_append.mp hc with hc | hc
        · exact List.mem_append_left _ (h.noted c hc)
        · rw [List.mem_singleton.mp hc, dedupKey_applyFirstHitAttribution]
          exact List.mem_append_right _ (List.mem_singleton.mpr rfl)
      · rcases List.mem_append.mp hc with hc | hc
        · exact h.fresh c hc
        · rw [List.mem_singleton.mp hc, dedupKey_applyFirstHitAttribution,
            resumeId_applyFirstHitAttribution]
          exact ⟨fun hmem => hkey (h.keeps hmem), hresume⟩
      · rw [List.map_append, List.map_singleton, dedupKey_applyFirstHitAttribution]
        refine List.Nodup.append h.nodup (List.nodup_singleton _) ?_
        rw [List.disjoint_singleton]
        intro hmem
        obtain ⟨c, hc, heq⟩ := List.mem_map.mp hmem
        exact hkey (heq ▸ h.noted c hc)

/-- A whole batch is new, and no longer than what was fetched. -/
lemma fresh_foldl_takeCandidate (candidates : List ResumeCandidate) {b : Batch}
    (h : b.Fresh seenResumeIds seenKeys) :
    (candidates.foldl (takeCandidate seenResumeIds query batchNo) b).Fresh seenResumeIds
    seenKeys := by
  induction candidates generalizing b with
  | nil => exact h
  | cons candidate rest ih => exact ih (h.takeCandidate candidate)

/-- A batch has no more new resumes than candidates. -/
lemma length_foldl_takeCandidate_le (seenResumeIds : List String) (query : ProviderQuery)
    (batchNo : Nat) (candidates : List ResumeCandidate) (b : Batch) :
    (candidates.foldl (takeCandidate seenResumeIds query batchNo) b).batchNew.length ≤
      b.batchNew.length + candidates.length := by
  induction candidates generalizing b with
  | nil => exact le_rfl
  | cons candidate rest ih =>
    refine (ih _).trans ?_
    have hstep : (takeCandidate seenResumeIds query batchNo b candidate).batchNew.length ≤
        b.batchNew.length + 1 := by
      unfold takeCandidate
      split
      · exact Nat.le_succ _
      · split
        · exact Nat.le_succ _
        · simp
    rw [List.length_cons]
    omega

/-! ## The invariant of the loop -/

/-- What the loop keeps: it asks for one page after the other, from the page it started at and none
beyond the last one; its resumes are new; its counts are those of its attempts. -/
structure ToolRun.Kept (settings : SearchSettings) (call : ToolCall) (run : ToolRun σ) : Prop where
  pages : run.attempts.map (fun a => a.query.page) =
    countAfter (max call.query.page 1 - 1) run.attempts.length
  last : ∀ a ∈ run.attempts, a.query.page ≤ settings.searchMaxPagesPerRound
  queries : ∀ a ∈ run.attempts, a.query.laneType = call.query.laneType ∧
    a.query.queryInstanceId = call.query.queryInstanceId ∧ a.query.city = call.query.city
  keeps : call.seenDedupKeys ⊆ run.localSeenKeys
  noted : ∀ c ∈ run.newCandidates, c.dedupKey ∈ run.localSeenKeys
  fresh : ∀ c ∈ run.newCandidates, c.dedupKey ∉ call.seenDedupKeys ∧ c.resumeId ∉ call.seenResumeIds
  nodup : (run.newCandidates.map ResumeCandidate.dedupKey).Nodup
  raw : run.rawCandidateCount = (run.attempts.map SearchAttempt.rawCandidateCount).sum

section Loop

variable {settings : SearchSettings} {provider : Provider σ} {call : ToolCall}
variable {run : ToolRun σ} {reason : ExhaustedReason} {world : σ}

/-- An attempt keeps the invariant. -/
lemma ToolRun.Kept.recordAttempt (h : run.Kept settings call)
    (hpage : run.page = max call.query.page 1 + (run.attempts.length : Int))
    (hlast : run.page ≤ settings.searchMaxPagesPerRound) (fetched : SearchResult) (world : σ) :
    (RoundSearch.recordAttempt settings call run fetched world).1.Kept settings call := by
  have hbatch : (fetched.candidates.foldl (takeCandidate call.seenResumeIds call.query call.batchNo)
      { localSeenKeys := run.localSeenKeys }).Fresh call.seenResumeIds run.localSeenKeys :=
    fresh_foldl_takeCandidate _ ⟨fun _ hmem => hmem, by simp, by simp, List.nodup_nil⟩
  unfold RoundSearch.recordAttempt
  dsimp only
  generalize fetched.candidates.foldl (takeCandidate call.seenResumeIds call.query call.batchNo)
    { localSeenKeys := run.localSeenKeys } = batch at hbatch ⊢
  constructor
  · have hlength : ∀ a : SearchAttempt, (run.attempts ++ [a]).length = run.attempts.length + 1 :=
      fun a => by simp
    have hquery : (call.attemptQuery run).page =
        max call.query.page 1 - 1 + (run.attempts.length : Int) + 1 := hpage.trans (by omega)
    rw [List.map_append, h.pages, hlength, countAfter_add, List.map_singleton, countAfter,
      countAfter]
    exact congrArg (fun page => _ ++ [page]) hquery
  · intro a ha
    rcases List.mem_append.mp ha with ha | ha
    · exact h.last a ha
    · rw [List.mem_singleton.mp ha]
      exact hlast
  · intro a ha
    rcases List.mem_append.mp ha with ha | ha
    · exact h.queries a ha
    · rw [List.mem_singleton.mp ha]
      exact ⟨rfl, rfl, rfl⟩
  · exact fun key hmem => hbatch.keeps (h.keeps hmem)
  · intro c hc
    rcases List.mem_append.mp hc with hc | hc
    · exact hbatch.keeps (h.noted c hc)
    · exact hbatch.noted c hc
  · intro c hc
    rcases List.mem_append.mp hc with hc | hc
    · exact h.fresh c hc
    · obtain ⟨hkey, hresume⟩ := hbatch.fresh c hc
      exact ⟨fun hmem => hkey (h.keeps hmem), hresume⟩
  · rw [List.map_append]
    refine List.Nodup.append h.nodup hbatch.nodup fun key hold hnew => ?_
    obtain ⟨c, hc, rfl⟩ := List.mem_map.mp hold
    obtain ⟨d, hd, heq⟩ := List.mem_map.mp hnew
    exact (hbatch.fresh d hd).1 (heq ▸ h.noted c hc)
  · simp [h.raw]

/-- What the reason says about the target. -/
lemma stopReason_satisfied {targetNew : Int} {newCount rawCount zeroGain attemptNo : Nat}
    {page : Int} :
    stopReason settings targetNew newCount rawCount zeroGain attemptNo page =
      some .targetSatisfied ↔ targetNew ≤ newCount := by
  unfold stopReason
  split_ifs <;> simp_all

/-- The loop goes on only while the target is not met and there are attempts and pages left. -/
lemma stopReason_eq_none {targetNew : Int} {newCount rawCount zeroGain attemptNo : Nat} {page : Int}
    (h : stopReason settings targetNew newCount rawCount zeroGain attemptNo page = none) :
    (newCount : Int) < targetNew ∧ attemptNo < settings.searchMaxAttemptsPerRound ∧
      page < settings.searchMaxPagesPerRound := by
  unfold stopReason at h
  split_ifs at h
  omega

/-- Turning the page keeps the invariant. -/
lemma ToolRun.Kept.turn (h : run.Kept settings call) : run.turn.Kept settings call :=
  ⟨h.pages, h.last, h.queries, h.keeps, h.noted, h.fresh, h.nodup, h.raw⟩

/-- An attempt is recorded once. -/
lemma length_attempts_recordAttempt (settings : SearchSettings) (call : ToolCall) (run : ToolRun σ)
    (fetched : SearchResult) (world : σ) :
    (recordAttempt settings call run fetched world).1.attempts.length =
      run.attempts.length + 1 := by
  simp [recordAttempt]

/-- An attempt does not turn the page. -/
lemma page_recordAttempt (settings : SearchSettings) (call : ToolCall) (run : ToolRun σ)
    (fetched : SearchResult) (world : σ) :
    (recordAttempt settings call run fetched world).1.page = run.page := rfl

/-- The reason behind an attempt is that of its counts. -/
lemma reason_recordAttempt (settings : SearchSettings) (call : ToolCall) (run : ToolRun σ)
    (fetched : SearchResult) (world : σ) :
    (recordAttempt settings call run fetched world).2 =
      stopReason settings call.targetNew
        (recordAttempt settings call run fetched world).1.newCandidates.length
        fetched.rawCandidateCount
        (recordAttempt settings call run fetched world).1.consecutiveZeroGainAttempts
        (run.attempts.length + 1) run.page := rfl

/-- What a run of the tool comes to: the invariant, at most as many attempts as the settings allow,
and a reason that says whether the target was met. -/
structure ToolSpec (settings : SearchSettings) (call : ToolCall) (run : ToolRun σ)
    (reason : ExhaustedReason) : Prop extends run.Kept settings call where
  attempts : run.attempts.length ≤ settings.searchMaxAttemptsPerRound
  satisfied : reason = .targetSatisfied → call.targetNew ≤ run.newCandidates.length
  short : reason ≠ .targetSatisfied → 0 < call.targetNew →
    (run.newCandidates.length : Int) < call.targetNew

/-- A run of the loop. -/
lemma searchLoop_spec {left : Nat} {last : ToolRun σ} (hkept : run.Kept settings call)
    (hleft : run.attempts.length + left = settings.searchMaxAttemptsPerRound)
    (hpage : run.page = max call.query.page 1 + (run.attempts.length : Int))
    (hshort : 0 < call.targetNew → (run.newCandidates.length : Int) < call.targetNew)
    (h : searchLoop settings provider call left run = .ok (last, reason)) :
    ToolSpec settings call last reason := by
  induction left generalizing run with
  | zero =>
    cases h
    exact ⟨hkept, by omega, nofun, fun _ => hshort⟩
  | succ left ih =>
    rw [searchLoop] at h
    split at h
    · cases h
      exact ⟨hkept, by omega, nofun, fun _ => hshort⟩
    · rename_i hlast
      split at h
      · rename_i hgap
        cases h
        exact ⟨hkept, by omega, fun _ => by omega, fun hne => absurd rfl hne⟩
      · split at h
        · cases h
        · rename_i fetched world _
          have hnext := hkept.recordAttempt hpage (not_lt.mp hlast) fetched world
          have hcount := length_attempts_recordAttempt settings call run fetched world
          have hturn := page_recordAttempt settings call run fetched world
          have hreason := reason_recordAttempt settings call run fetched world
          generalize recordAttempt settings call run fetched world = recorded
            at h hnext hcount hturn hreason
          obtain ⟨next, found⟩ := recorded
          dsimp only at h hnext hcount hturn hreason
          cases found with
          | some found =>
            cases h
            refine ⟨hnext, by omega, fun heq => ?_, fun hne _ => ?_⟩
            · exact stopReason_satisfied.mp (hreason.symm.trans (congrArg some heq))
            · by_contra hmet
              have hfound := hreason.trans (stopReason_satisfied.mpr (not_lt.mp hmet))
              exact hne (Option.some.inj hfound)
          | none =>
            obtain ⟨hless, -, -⟩ := stopReason_eq_none hreason.symm
            refine ih hnext.turn ?_ ?_ (fun _ => hless) h
            · show next.attempts.length + left = settings.searchMaxAttemptsPerRound
              omega
            · show next.page + 1 = max call.query.page 1 + (next.attempts.length : Int)
              omega

/-- What a run of `execute_search_tool` comes to. -/
theorem executeSearchTool_spec
    (h : executeSearchTool settings provider call world = .ok (run, reason)) :
    ToolSpec settings call run reason := by
  have hstart : ToolRun.Kept settings call
      { world := world, page := max call.query.page 1, localSeenKeys := call.seenDedupKeys } :=
    ⟨rfl, by simp, by simp, fun _ hmem => hmem, by simp, by simp, List.nodup_nil, rfl⟩
  exact searchLoop_spec hstart (Nat.zero_add _) (by simp) (fun htarget => by simpa using htarget) h

/-- A provider that never returns more than the page it is asked for. -/
def PageBounded (provider : Provider σ) : Prop :=
  ∀ world query fetched world', 0 < query.pageSize → provider world query = .ok (fetched, world') →
    (fetched.candidates.length : Int) ≤ query.pageSize

/-- An attempt adds at most what was fetched. -/
lemma length_new_recordAttempt_le (settings : SearchSettings) (call : ToolCall) (run : ToolRun σ)
    (fetched : SearchResult) (world : σ) :
    (recordAttempt settings call run fetched world).1.newCandidates.length ≤
      run.newCandidates.length + fetched.candidates.length := by
  have hbatch := length_foldl_takeCandidate_le call.seenResumeIds call.query call.batchNo
    fetched.candidates { localSeenKeys := run.localSeenKeys }
  simp only [List.length_nil, Nat.zero_add] at hbatch
  simp only [recordAttempt, List.length_append]
  omega

/-- A run of the loop never finds more than it was asked for, if no page is too long. -/
lemma searchLoop_bounded (hbounded : PageBounded provider) {left : Nat} {last : ToolRun σ}
    (hrun : (run.newCandidates.length : Int) ≤ max call.targetNew 0)
    (h : searchLoop settings provider call left run = .ok (last, reason)) :
    (last.newCandidates.length : Int) ≤ max call.targetNew 0 := by
  induction left generalizing run with
  | zero =>
    cases h
    exact hrun
  | succ left ih =>
    rw [searchLoop] at h
    split at h
    · cases h
      exact hrun
    · split at h
      · cases h
        exact hrun
      · rename_i hgap
        split at h
        · cases h
        · rename_i fetched world hfetch
          have hpage : (fetched.candidates.length : Int) ≤
              call.targetNew - run.newCandidates.length :=
            hbounded _ _ _ _ (not_le.mp hgap) hfetch
          have hadded := length_new_recordAttempt_le settings call run fetched world
          generalize recordAttempt settings call run fetched world = recorded at h hadded
          obtain ⟨next, found⟩ := recorded
          dsimp only at h hadded
          cases found with
          | some found =>
            cases h
            omega
          | none =>
            refine ih ?_ h
            show (next.newCandidates.length : Int) ≤ max call.targetNew 0
            omega

/-- A run of `execute_search_tool` never finds more than it was asked for, if no page is too
long. -/
theorem executeSearchTool_bounded (hbounded : PageBounded provider)
    (h : executeSearchTool settings provider call world = .ok (run, reason)) :
    (run.newCandidates.length : Int) ≤ max call.targetNew 0 :=
  searchLoop_bounded hbounded (by simp) h

/-- A provider whose resumes carry no first hit yet. -/
def Unattributed (provider : Provider σ) : Prop :=
  ∀ world query fetched world', provider world query = .ok (fetched, world') →
    ∀ candidate ∈ fetched.candidates, candidate.firstHit = none

/-- The new resumes of a batch are candidates of it. -/
lemma mem_foldl_takeCandidate (seenResumeIds : List String) (query : ProviderQuery) (batchNo : Nat)
    (candidates : List ResumeCandidate) (b : Batch) {found : ResumeCandidate}
    (h : found ∈ (candidates.foldl (takeCandidate seenResumeIds query batchNo) b).batchNew) :
    found ∈ b.batchNew ∨ ∃ candidate ∈ candidates,
      found = applyFirstHitAttribution candidate query batchNo := by
  induction candidates generalizing b with
  | nil => exact Or.inl h
  | cons candidate rest ih =>
    rcases ih _ h with hold | ⟨other, hmem, heq⟩
    · unfold takeCandidate at hold
      split at hold
      · exact Or.inl hold
      · split at hold
        · exact Or.inl hold
        · rcases List.mem_append.mp hold with hold | hnew
          · exact Or.inl hold
          · exact Or.inr ⟨candidate, List.mem_cons_self, List.mem_singleton.mp hnew⟩
    · exact Or.inr ⟨other, List.mem_cons_of_mem _ hmem, heq⟩

/-- The resumes of a run are attributed to the lane of its query, if they came without a first
hit. -/
def Attributed (laneType : LaneType) (found : ResumeCandidate) : Prop :=
  found.firstHit.map FirstHit.laneType = some laneType

lemma searchLoop_attributed (hfree : Unattributed provider) {left : Nat} {last : ToolRun σ}
    (hrun : ∀ found ∈ run.newCandidates, Attributed call.query.laneType found)
    (h : searchLoop settings provider call left run = .ok (last, reason)) :
    ∀ found ∈ last.newCandidates, Attributed call.query.laneType found := by
  induction left generalizing run with
  | zero =>
    cases h
    exact hrun
  | succ left ih =>
    rw [searchLoop] at h
    split at h
    · cases h
      exact hrun
    · split at h
      · cases h
        exact hrun
      · split at h
        · cases h
        · rename_i fetched world hfetch
          have hnew : ∀ found ∈ (recordAttempt settings call run fetched world).1.newCandidates,
              Attributed call.query.laneType found := by
            intro found hmem
            rcases List.mem_append.mp hmem with hmem | hmem
            · exact hrun found hmem
            · rcases mem_foldl_takeCandidate _ _ _ _ _ hmem with hmem | ⟨candidate, hcandidate, rfl⟩
              · cases hmem
              · unfold Attributed applyFirstHitAttribution
                rw [hfree _ _ _ _ hfetch candidate hcandidate]
                rfl
          generalize recordAttempt settings call run fetched world = recorded at h hnew
          obtain ⟨next, found⟩ := recorded
          dsimp only at h hnew
          cases found with
          | some found =>
            cases h
            exact hnew
          | none =>
            have hturn : ∀ found ∈ next.turn.newCandidates, Attributed call.query.laneType found :=
              hnew
            exact ih hturn h

/-- What a run of `execute_search_tool` finds is attributed to the lane of its query. -/
theorem executeSearchTool_attributed (hfree : Unattributed provider)
    (h : executeSearchTool settings provider call world = .ok (run, reason)) :
    ∀ found ∈ run.newCandidates, Attributed call.query.laneType found :=
  searchLoop_attributed hfree (by simp) h

/-- The tool itself always stops. -/
theorem executeSearchTool_ne_outOfFuel :
    executeSearchTool settings provider call world ≠ .error .outOfFuel := by
  have hloop : ∀ (left : Nat) (run : ToolRun σ),
      searchLoop settings provider call left run ≠ .error .outOfFuel := by
    intro left
    induction left with
    | zero => exact fun run => nofun
    | succ left ih =>
      intro run
      rw [searchLoop]
      split
      · exact nofun
      · split
        · exact nofun
        · split
          · exact nofun
          · split
            · exact nofun
            · exact ih _
  exact hloop _ _

end Loop

end SeekTalent.RoundSearch
