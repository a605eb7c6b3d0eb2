import SeekTalent.Foundation.Lists
import SeekTalent.RequirementDrafts.ConfirmedSheets

/-!
# Edits of one conversation

Any number of calls on the drafts of a conversation, interleaved transaction by transaction; a call
that no longer moves has crashed.  The staleness check, which reads one of the two revisions a call
names, is a transaction before the one that saves the copy of the other, and an amendment is saved a
transaction before its draft.  The drafts form one chain, the latest is what is confirmed, and a
call that is repeated finds what it saved, exactly where a call that saves names one revision twice,
nothing is saved between its check and its insertion, and no amendment is without its draft.
-/

namespace SeekTalent.RequirementDrafts

open Foundation SourcePort

/-- A call that returned. -/
structure DraftReturn where
  context : CallContext
  call : ServiceCall
  result : Except ServiceError ServiceResult

/-- The drafts and the calls under way. -/
abbrev DraftPool := Pool DraftTables DraftTransaction DraftAnswer DraftReturn

/-- A call starts, or one of them performs its next transaction. -/
abbrev DraftChoice := Choice DraftTransaction DraftAnswer DraftReturn

section Chain

variable (rt : RequirementRuntime)

/-- A call, with what it returned at its end. -/
def startedCall (context : CallContext) (call : ServiceCall) :
    Program DraftTransaction DraftAnswer DraftReturn :=
  (call.program rt context).bind (fun result => .done ⟨context, call, result⟩)

/-- Only calls start. -/
def StartsCalls : DraftChoice → Prop :=
  Pool.Starts (fun program => ∃ context call, program = startedCall rt context call)

/-- A saved draft is an edit of the draft that was latest, and is now the latest; an approved sheet
is that of the latest draft. -/
def Chained (t : DraftTables) : DraftTransaction → Prop
  | .saveDraft draft _ => (t.insertDraft draft).1 = true →
    ∃ latest, t.latestDraft draft.conversationId = some latest ∧ EditedFrom rt latest draft ∧
      (t.insertDraft draft).2.latestDraft draft.conversationId = some draft
  | .saveApproved revision _ => (t.insertApproved revision).1 = true →
    ∃ latest, t.latestDraft revision.conversationId = some latest ∧ ApprovedFrom latest revision
  | _ => True

/-- A row was saved under the key of a call. -/
def SavedUnderKey (context : CallContext) (call : ServiceCall) (t : DraftTables) : Prop :=
  ∃ base, t.draft context.draftRevisionId = some base ∧
    match call with
    | .update _ | .resolve _ _ => (t.draftByKey base.conversationId context.idempotencyKey).isSome
    | .amend _ _ _ _ _ => (t.amendmentByKey base.conversationId context.idempotencyKey).isSome
    | .confirm => (t.approvedByKey base.conversationId context.idempotencyKey).isSome

/-- The call returns the value and changes nothing. -/
def Replays (context : CallContext) (call : ServiceCall) (t : DraftTables) (value : ServiceResult) :
    Prop :=
  (call.program rt context).eval DraftTables.exec t = (.ok value, t)

/-- No edit is lost in an interleaving: the drafts of the conversation form one chain, each saved on
the latest; the latest is what is confirmed; and a call that saved something under its key is
repeated to one value, which is what it returned, without adding anything. -/
structure EditsKept (conversationId : String) (start : DraftPool) (choices : List DraftChoice) :
    Prop where
  chained : Along (Pool.step DraftTables.exec) (Pool.Guarded (Chained rt)) start choices
  chain : ((run (Pool.step DraftTables.exec) start choices).shared.draftsOf conversationId).IsChain
    (EditedFrom rt)
  repeats : ∀ context call,
    SavedUnderKey context call (run (Pool.step DraftTables.exec) start choices).shared →
      ∃ value, Replays rt context call (run (Pool.step DraftTables.exec) start choices).shared value
  returns : ∀ context call value,
    .done ⟨context, call, .ok value⟩ ∈ (run (Pool.step DraftTables.exec) start choices).programs →
      Replays rt context call (run (Pool.step DraftTables.exec) start choices).shared value

/-- The conversation after its sheet was read, without a call under way. -/
def openedPool (opening : CallContext) (conversationId : String) (sheet : RequirementSheet) :
    DraftPool :=
  ⟨readSheet rt opening conversationId sheet, []⟩

end Chain

/-! ## The conditions -/

/-- Nothing came between.  A call that saves names one revision as its draft and as its base, what
its staleness check found is still the latest draft, and the time of a draft has not gone back. -/
def Undisturbed (t : DraftTables) : DraftTransaction → Prop
  | .saveDraft draft check => (t.insertDraft draft).1 = true →
    draft.baseRevisionId = some check.baseRevisionId ∧
      t.latestDraft draft.conversationId = check.seen ∧
      ∀ latest ∈ check.seen, latest.createdAt ≤ draft.createdAt
  | .saveApproved revision check => (t.insertApproved revision).1 = true →
    revision.draftRevisionId = check.baseRevisionId ∧
      t.latestDraft revision.conversationId = check.seen
  | _ => True

/-- Every amendment that a call finds under its key has its draft. -/
def AmendmentsDrafted (t : DraftTables) : Prop :=
  ∀ draftRevisionId base key row, t.draft draftRevisionId = some base →
    t.amendmentByKey base.conversationId key = some row → (t.draft row.resultDraftRevisionId).isSome

/-- A draft that is refused is not that of an amendment. -/
def RefusesNoAmendment (t : DraftTables) : DraftTransaction → Prop
  | .saveDraft draft _ => (t.insertDraft draft).1 ≠ true →
    ∀ row ∈ t.amendments, row.resultDraftRevisionId ≠ draft.draftRevisionId
  | _ => True

/-- No call stands between an amendment it has saved and the draft of it. -/
def NoneBetween (pool : DraftPool) : Prop :=
  ∀ draft check next, .call (.saveDraft draft check) next ∈ pool.programs →
    ∀ row ∈ pool.shared.amendments, row.resultDraftRevisionId ≠ draft.draftRevisionId

/-! ## The chain -/

section Drafts

variable {rt : RequirementRuntime} {t : DraftTables}

/-- The latest draft after one was added. -/
lemma latestDraft_insertDraft {draft : RequirementDraft} (h : (t.insertDraft draft).1 = true) :
    (t.insertDraft draft).2.latestDraft draft.conversationId =
      some (laterDraft (t.latestDraft draft.conversationId) draft) := by
  obtain ⟨-, -, htables⟩ := insertDraft_inserted h
  rw [htables]
  simp [DraftTables.latestDraft, DraftTables.draftsOf, latestOf]

/-- Identifiers of drafts are unique. -/
def UniqueDrafts (t : DraftTables) : Prop :=
  (t.drafts.map RequirementDraft.draftRevisionId).Nodup

/-- They stay unique. -/
lemma UniqueDrafts.exec (op : DraftTransaction) (h : UniqueDrafts t) :
    UniqueDrafts (DraftTables.exec op t).2 := by
  cases op with
  | saveDraft draft check =>
    show UniqueDrafts (t.insertDraft draft).2
    by_cases hinserted : (t.insertDraft draft).1 = true
    · obtain ⟨hnew, -, htables⟩ := insertDraft_inserted hinserted
      rw [UniqueDrafts, htables]
      exact nodup_insertDraft h hnew
    · rwa [insertDraft_refused hinserted]
  | saveAmendment row =>
    show UniqueDrafts (t.insertAmendment row).2
    by_cases hinserted : (t.insertAmendment row).1 = true
    · rw [(insertAmendment_inserted hinserted).2]
      exact h
    · rwa [insertAmendment_refused hinserted]
  | saveApproved revision check =>
    show UniqueDrafts (t.insertApproved revision).2
    unfold DraftTables.insertApproved
    split
    · exact h
    · exact h
  | _ => exact h

/-- The latest of some drafts is the latest of the first of them, or one of the others. -/
lemma latestOf_append {before more : List RequirementDraft} {latest : RequirementDraft}
    (h : latestOf (before ++ more) = some latest) : latestOf before = some latest ∨
      latest ∈ more := by
  induction more using List.reverseRecOn generalizing latest with
  | nil => exact .inl (by simpa using h)
  | append_singleton more draft ih =>
    have hconcat : latestOf (before ++ (more ++ [draft])) =
        some (laterDraft (latestOf (before ++ more)) draft) := by
      simp [latestOf]
    obtain rfl : laterDraft (latestOf (before ++ more)) draft = latest :=
      Option.some.inj (hconcat.symm.trans h)
    unfold laterDraft
    cases hheld : latestOf (before ++ more) with
    | none => simp
    | some other =>
      dsimp only
      split
      · simp
      · exact (ih hheld).imp_right (List.mem_append_left _)

/-- Drafts with one identifier are one draft. -/
lemma UniqueDrafts.eq (h : UniqueDrafts t) {draft other : RequirementDraft}
    (hdraft : draft ∈ t.drafts)
    (hother : other ∈ t.drafts) (hid : draft.draftRevisionId = other.draftRevisionId) :
    draft = other :=
  List.inj_on_of_nodup_map h hdraft hother hid

/-- A draft that a call had read before its check, and that is still the latest, is what the check
found, and the call names it as its base. -/
lemma Checked.of_latest {base : RequirementDraft} {check : StalenessCheck}
    (h : Checked t base check)
    (hunique : UniqueDrafts t) (hlatest : t.latestDraft base.conversationId = some base) :
    check.seen = some base ∧ base.draftRevisionId = check.baseRevisionId := by
  obtain ⟨before, latest, ⟨more, hmore⟩, hbase, hfound, hseen, hnamed⟩ := h
  have hnodup : (t.draftsOf base.conversationId).Nodup := (hunique.of_map _).filter _
  rw [DraftTables.latestDraft, ← hmore] at hlatest
  rw [← hmore] at hnodup
  have hapart : base ∉ more := fun hlater => (List.disjoint_of_nodup_append hnodup) hbase hlater
  have hsame := (latestOf_append hlatest).resolve_right hapart
  obtain rfl := Option.some.inj (hfound.symm.trans hsame)
  exact ⟨hseen, hnamed⟩

/-- What a check found, and is still the latest, is the draft with the identifier that the call
names as its base. -/
lemma Checked.latest {base : RequirementDraft} {check : StalenessCheck} (h : Checked t base check)
    (hunique : UniqueDrafts t) (hbase : base ∈ t.drafts)
    (hseen : t.latestDraft base.conversationId = check.seen)
    (hnamed : base.draftRevisionId = check.baseRevisionId) :
    t.latestDraft base.conversationId = some base ∧ check.seen = some base := by
  obtain ⟨before, latest, -, -, -, hfound, hid⟩ := h
  have hlatest := hseen.trans hfound
  obtain rfl := hunique.eq hbase (mem_of_latestDraft hlatest).1 (hnamed.trans hid.symm)
  exact ⟨hlatest, hfound⟩

/-- A transaction of a call is chained exactly when nothing came between. -/
lemma chained_iff_undisturbed {op : DraftTransaction} {confirms : Prop} (hunique : UniqueDrafts t)
    (hhonest : Honest rt confirms t op) : Chained rt t op ↔ Undisturbed t op := by
  cases op with
  | saveDraft draft check =>
    obtain ⟨base, hbase, hedited, hcheck⟩ := hhonest
    refine imp_congr_right fun hinserted => ?_
    rw [hedited.conversation]
    constructor
    · rintro ⟨latest, hlatest, hcopied, hafter⟩
      obtain rfl := hunique.eq hbase (mem_of_latestDraft hlatest).1
        (Option.some.inj (hedited.copied.symm.trans hcopied.copied))
      obtain ⟨hseen, hnamed⟩ := hcheck.of_latest hunique hlatest
      refine ⟨hedited.copied.trans (congrArg some hnamed), hlatest.trans hseen.symm, ?_⟩
      rw [hseen]
      rintro _ ⟨⟩
      rw [← hedited.conversation, latestDraft_insertDraft hinserted, hedited.conversation,
        hlatest] at hafter
      by_contra hback
      obtain rfl : base = draft := by
        simpa [laterDraft, hback] using hafter
      exact hback le_rfl
    · rintro ⟨hnamed, hseen, htime⟩
      obtain ⟨hlatest, hfound⟩ := hcheck.latest hunique hbase hseen
        (Option.some.inj (hedited.copied.symm.trans hnamed))
      refine ⟨base, hlatest, hedited, ?_⟩
      rw [← hedited.conversation, latestDraft_insertDraft hinserted, hedited.conversation, hlatest]
      exact congrArg some (if_pos (htime base hfound))
  | saveApproved revision check =>
    obtain ⟨-, draft, hdraft, happroved, hcheck⟩ := hhonest
    refine imp_congr_right fun _ => ?_
    rw [happroved.conversation]
    constructor
    · rintro ⟨latest, hlatest, hconfirmed⟩
      obtain rfl := hunique.eq hdraft (mem_of_latestDraft hlatest).1
        (happroved.confirmed.symm.trans hconfirmed.confirmed)
      obtain ⟨hseen, hnamed⟩ := hcheck.of_latest hunique hlatest
      exact ⟨happroved.confirmed.trans hnamed, hlatest.trans hseen.symm⟩
    · rintro ⟨hnamed, hseen⟩
      have hlatest := (hcheck.latest hunique hdraft hseen (happroved.confirmed.symm.trans hnamed)).1
      exact ⟨draft, hlatest, happroved⟩
  | _ => exact iff_of_true trivial trivial

/-- The drafts of a conversation form a chain, of which the latest draft is the last. -/
structure OneChain (rt : RequirementRuntime) (conversationId : String) (t : DraftTables) :
    Prop where
  chain : (t.draftsOf conversationId).IsChain (EditedFrom rt)
  latest : t.latestDraft conversationId = (t.draftsOf conversationId).getLast?

/-- It depends on the drafts only. -/
lemma OneChain.of_drafts {conversationId : String} {after : DraftTables}
    (h : OneChain rt conversationId t)
    (hdrafts : after.drafts = t.drafts) : OneChain rt conversationId after := by
  obtain ⟨hchain, hlatest⟩ := h
  unfold DraftTables.latestDraft DraftTables.draftsOf at hlatest
  unfold DraftTables.draftsOf at hchain
  refine ⟨?_, ?_⟩
  · rwa [DraftTables.draftsOf, hdrafts]
  · rwa [DraftTables.latestDraft, DraftTables.draftsOf, hdrafts]

/-- A chained transaction keeps the chain. -/
lemma OneChain.exec {conversationId : String} {op : DraftTransaction}
    (h : OneChain rt conversationId t)
    (hop : Chained rt t op) : OneChain rt conversationId (DraftTables.exec op t).2 := by
  cases op with
  | saveDraft draft check =>
    show OneChain rt conversationId (t.insertDraft draft).2
    by_cases hinserted : (t.insertDraft draft).1 = true
    · obtain ⟨latest, hlatest, hedited, hafter⟩ := hop hinserted
      obtain ⟨-, -, htables⟩ := insertDraft_inserted hinserted
      by_cases hconversation : draft.conversationId = conversationId
      · subst hconversation
        have hdrafts : (t.insertDraft draft).2.draftsOf draft.conversationId =
            t.draftsOf draft.conversationId ++ [draft] := by
          rw [htables]
          simp [DraftTables.draftsOf]
        refine ⟨?_, ?_⟩
        · rw [hdrafts, isChain_concat]
          refine ⟨h.chain, fun last hlast => ?_⟩
          rw [← h.latest, hlatest] at hlast
          obtain rfl := Option.some.inj hlast
          exact hedited
        · rw [hafter, hdrafts, List.getLast?_concat]
      · have hdrafts : (t.insertDraft draft).2.draftsOf conversationId =
            t.draftsOf conversationId := by
          rw [htables]
          simp [DraftTables.draftsOf, hconversation]
        refine ⟨by rw [hdrafts]; exact h.chain, ?_⟩
        rw [DraftTables.latestDraft, hdrafts]
        exact h.latest
    · rwa [insertDraft_refused hinserted]
  | saveAmendment row =>
    show OneChain rt conversationId (t.insertAmendment row).2
    by_cases hinserted : (t.insertAmendment row).1 = true
    · exact h.of_drafts (by rw [(insertAmendment_inserted hinserted).2])
    · rwa [insertAmendment_refused hinserted]
  | saveApproved revision check =>
    have hdrafts : (t.insertApproved revision).2.drafts = t.drafts := by
      unfold DraftTables.insertApproved
      split <;> rfl
    exact h.of_drafts hdrafts
  | _ => exact h

end Drafts

/-! ## Amendments and their drafts -/

section Amendments

/-- After an amendment was saved, the next transaction saves its draft. -/
def SavesDraftNext {ρ : Type} : (op : DraftTransaction) →
    (DraftAnswer op → Program DraftTransaction DraftAnswer ρ) → Prop
  | .saveAmendment row, next => ∃ draft check rest, next (show Bool from true) =
      .call (.saveDraft draft check) rest ∧ draft.draftRevisionId = row.resultDraftRevisionId
  | _, _ => True

/-- The calls of a program save the draft of an amendment right after it. -/
abbrev SavesDrafts {ρ : Type} (program : Program DraftTransaction DraftAnswer ρ) : Prop :=
  program.Everywhere SavesDraftNext

/-- What follows a call of the service keeps it. -/
lemma SavesDrafts.bind {ρ ρ' : Type} {program : Program DraftTransaction DraftAnswer ρ}
    {next : ρ → Program DraftTransaction DraftAnswer ρ'} (h : SavesDrafts program)
    (hnext : ∀ result, SavesDrafts (next result)) : SavesDrafts (program.bind next) := by
  induction program with
  | done result => exact hnext result
  | call op rest ih =>
    obtain ⟨hop, hrest⟩ := h
    refine ⟨?_, fun answer => ih answer (hrest answer)⟩
    cases op with
    | saveAmendment row =>
      obtain ⟨draft, check, others, hcall, hid⟩ := hop
      refine ⟨draft, check, fun answer => (others answer).bind next, ?_, hid⟩
      show Program.bind (rest (show Bool from true)) next = _
      rw [hcall]
      rfl
    | _ => trivial

variable {rt : RequirementRuntime}

lemma savesDrafts_requireDraft {draftRevisionId : String} {next : RequirementDraft → ServiceProgram}
    (hnext : ∀ draft, SavesDrafts (next draft)) :
    SavesDrafts (requireDraft draftRevisionId next) := by
  refine ⟨trivial, fun (found : Option RequirementDraft) => ?_⟩
  cases found with
  | none => trivial
  | some draft => exact hnext draft

lemma savesDrafts_rejectStale {context : CallContext} {base : RequirementDraft}
    {next : StalenessCheck → ServiceProgram} (hnext : ∀ check, SavesDrafts (next check)) :
    SavesDrafts (rejectStale context base next) := by
  refine ⟨trivial, fun (found : Option RequirementDraft) => ?_⟩
  cases found with
  | none => exact hnext ⟨context.baseRevisionId, none⟩
  | some latest =>
    dsimp only
    split
    · trivial
    · exact hnext ⟨context.baseRevisionId, some latest⟩

lemma savesDrafts_unlessSaved {context : CallContext} {base : RequirementDraft}
    {next : ServiceProgram}
    (hnext : SavesDrafts next) : SavesDrafts (unlessSaved context base next) := by
  refine ⟨trivial, fun (found : Option RequirementDraft) => ?_⟩
  cases found with
  | none => exact hnext
  | some draft => trivial

lemma savesDrafts_orRaise {α : Type} {result : Except DraftError α} {next : α → ServiceProgram}
    (hnext : ∀ value, SavesDrafts (next value)) : SavesDrafts (orRaise result next) := by
  cases result with
  | error e => trivial
  | ok value => exact hnext value

lemma savesDrafts_saveDraft (draft : RequirementDraft) (check : StalenessCheck) :
    SavesDrafts (saveDraft draft check) := by
  refine ⟨trivial, fun (inserted : Bool) => ?_⟩
  dsimp only
  split <;> trivial

/-- Every call saves the draft of an amendment right after it. -/
lemma savesDrafts_program (context : CallContext) (call : ServiceCall) :
    SavesDrafts (call.program rt context) := by
  cases call with
  | update operations =>
    apply savesDrafts_requireDraft
    intro base
    apply savesDrafts_unlessSaved
    apply savesDrafts_rejectStale
    intro check
    apply savesDrafts_orRaise
    intro sections
    exact savesDrafts_saveDraft _ _
  | amend text targetSectionHint extracted amendmentId newIds =>
    apply savesDrafts_requireDraft
    intro base
    refine ⟨trivial, fun (found : Option RequirementAmendment) => ?_⟩
    cases found with
    | some amendment =>
      apply savesDrafts_requireDraft
      intro draft
      trivial
    | none =>
      apply savesDrafts_rejectStale
      intro check
      apply savesDrafts_orRaise
      intro baseSheet
      refine ⟨⟨_, _, _, rfl, rfl⟩, fun (inserted : Bool) => ?_⟩
      dsimp only
      split
      · exact savesDrafts_saveDraft _ _
      · trivial
  | resolve amendmentId operations =>
    apply savesDrafts_requireDraft
    intro base
    apply savesDrafts_unlessSaved
    apply savesDrafts_rejectStale
    intro check
    refine ⟨trivial, fun (found : Option RequirementAmendment) => ?_⟩
    dsimp only
    split
    · trivial
    · apply savesDrafts_orRaise
      intro sections
      exact savesDrafts_saveDraft _ _
  | confirm =>
    apply savesDrafts_requireDraft
    intro draft
    refine ⟨trivial, fun (found : Option ApprovedRequirementRevision) => ?_⟩
    cases found with
    | some existing => trivial
    | none =>
      apply savesDrafts_rejectStale
      intro check
      split
      · trivial
      · apply savesDrafts_orRaise
        intro sheet
        refine ⟨trivial, fun (inserted : Bool) => ?_⟩
        dsimp only
        split
        · trivial
        · refine ⟨trivial, fun (existing : Option ApprovedRequirementRevision) => ?_⟩
          cases existing with
          | none => trivial
          | some other =>
            dsimp only
            split <;> trivial

/-- The draft of every amendment is saved, or a call is about to save it. -/
structure Completed (pool : DraftPool) : Prop where
  programs : ∀ program ∈ pool.programs, SavesDrafts program
  amendments : ∀ row ∈ pool.shared.amendments,
    (∃ draft ∈ pool.shared.drafts, draft.draftRevisionId = row.resultDraftRevisionId) ∨
      ∃ draft check next, .call (.saveDraft draft check) next ∈ pool.programs ∧
        draft.draftRevisionId = row.resultDraftRevisionId

/-- The amendments after a transaction. -/
lemma amendments_exec {t : DraftTables} {op : DraftTransaction} {row : RequirementAmendment}
    (h : row ∈ (DraftTables.exec op t).2.amendments) :
    row ∈ t.amendments ∨ op = .saveAmendment row ∧ (t.insertAmendment row).1 = true := by
  cases op with
  | saveDraft draft check =>
    change row ∈ (t.insertDraft draft).2.amendments at h
    unfold DraftTables.insertDraft at h
    split at h <;> exact .inl h
  | saveAmendment other =>
    change row ∈ (t.insertAmendment other).2.amendments at h
    by_cases hinserted : (t.insertAmendment other).1 = true
    · rw [(insertAmendment_inserted hinserted).2] at h
      obtain hold | hnew := List.mem_append.mp h
      · exact .inl hold
      · obtain rfl := List.mem_singleton.mp hnew
        exact .inr ⟨rfl, hinserted⟩
    · rw [insertAmendment_refused hinserted] at h
      exact .inl h
  | saveApproved revision check =>
    change row ∈ (t.insertApproved revision).2.amendments at h
    unfold DraftTables.insertApproved at h
    split at h <;> exact .inl h
  | _ => exact .inl h

/-- A step keeps it, unless the draft of an amendment is refused. -/
lemma Completed.step {pool : DraftPool} (h : Completed pool) {choice : DraftChoice}
    (hstart : StartsCalls rt choice) (hguard : Pool.Guarded RefusesNoAmendment pool choice) :
    Completed (pool.step DraftTables.exec choice) := by
  cases choice with
  | start program =>
    obtain ⟨context, call, rfl⟩ := hstart
    refine ⟨fun other hother => ?_, fun row hrow => ?_⟩
    · obtain hold | hnew := List.mem_append.mp hother
      · exact h.programs other hold
      · rw [List.mem_singleton.mp hnew]
        exact (savesDrafts_program context call).bind (fun result => trivial)
    · obtain hsaved | ⟨draft, check, next, hmem, hid⟩ := h.amendments row hrow
      · exact .inl hsaved
      · exact .inr ⟨draft, check, next, List.mem_append_left _ hmem, hid⟩
  | advance index =>
    cases hprogram : pool.programs[index]? with
    | none =>
      have hidle : pool.step DraftTables.exec (.advance index) =
        pool := by simp [Pool.step, hprogram]
      rwa [hidle]
    | some program =>
      cases program with
      | done result =>
        have hidle : pool.step DraftTables.exec (.advance index) =
          pool := by simp [Pool.step, hprogram]
        rwa [hidle]
      | call op next =>
        have hmem := List.mem_of_getElem? hprogram
        obtain ⟨hnext, hrest⟩ := h.programs _ hmem
        have hrefuses : RefusesNoAmendment pool.shared op :=
          hguard op (by simp [Pool.called, hprogram])
        have hstep : pool.step DraftTables.exec (.advance index) =
            { shared := (DraftTables.exec op pool.shared).2
              programs := pool.programs.set index (next (DraftTables.exec op pool.shared).1) } := by
          simp [Pool.step, hprogram]
        have hindex : index < pool.programs.length := by
          by_contra hlength
          rw [List.getElem?_eq_none (Nat.le_of_not_lt hlength)] at hprogram
          cases hprogram
        have hgrows := grows_exec op pool.shared
        rw [hstep]
        refine ⟨fun other hother => ?_, fun row hrow => ?_⟩
        · obtain hold | rfl := List.mem_or_eq_of_mem_set hother
          · exact h.programs other hold
          · exact hrest _
        · obtain hold | ⟨rfl, hinserted⟩ := amendments_exec hrow
          · obtain ⟨draft, hdraft, hid⟩ | ⟨draft, check, after, hwaits, hid⟩ :=
              h.amendments row hold
            · exact .inl ⟨draft, hgrows.drafts.subset hdraft, hid⟩
            · obtain ⟨other, hother⟩ := List.getElem?_of_mem hwaits
              by_cases hsame : other = index
              · -- The call that was about to save the draft has moved.
                subst hsame
                rw [hprogram] at hother
                obtain ⟨rfl, -⟩ := Program.call.inj (Option.some.inj hother)
                by_cases hinserted : (pool.shared.insertDraft draft).1 = true
                · refine .inl ⟨draft, ?_, hid⟩
                  show draft ∈ (pool.shared.insertDraft draft).2.drafts
                  rw [(insertDraft_inserted hinserted).2.2]
                  exact List.mem_append_right _ (List.mem_singleton_self draft)
                · exact absurd hid.symm (hrefuses hinserted row hold)
              · refine .inr ⟨draft, check, after, List.mem_of_getElem? (i := other) ?_, hid⟩
                rwa [List.getElem?_set_ne (Ne.symm hsame)]
          · obtain ⟨draft, check, after, hcall, hid⟩ := hnext
            have hanswer : next (DraftTables.exec (.saveAmendment row) pool.shared).1 =
                .call (.saveDraft draft check) after := by
              rw [← hcall]
              exact congrArg next hinserted
            refine .inr ⟨draft, check, after, ?_, hid⟩
            rw [hanswer]
            exact List.mem_set hindex _

end Amendments

/-! ## Repeated calls -/

section Repeats

variable {rt : RequirementRuntime} {context : CallContext} {call : ServiceCall} {t : DraftTables}

/-- A call that finds what it returned returns it again. -/
lemma Recalled.replays {value : ServiceResult} (h : Recalled context call t (.ok value)) :
    Replays rt context call t value := by
  unfold Replays
  cases value with
  | draft draft =>
    obtain ⟨base, hbase, hsaved⟩ := h
    cases call with
    | update operations =>
      simp only [ServiceCall.program, updateRequirementDraft, requireDraft, unlessSaved,
        Program.eval, DraftTables.exec, hbase, hsaved]
    | resolve amendmentId operations =>
      simp only [ServiceCall.program, resolveRequirementReview, requireDraft, unlessSaved,
        Program.eval, DraftTables.exec, hbase, hsaved]
    | amend text targetSectionHint extracted amendmentId newIds =>
      obtain ⟨row, hrow, hdraft⟩ := hsaved
      simp only [ServiceCall.program, amendRequirementDraftFromText, requireDraft, Program.eval,
        DraftTables.exec, hbase, hrow, hdraft]
    | confirm => exact absurd hsaved id
  | approved revision =>
    obtain ⟨base, hbase, rfl, hsaved⟩ := h
    simp only [ServiceCall.program, confirmRequirements, requireDraft, Program.eval,
      DraftTables.exec, hbase, hsaved]

/-- Where amendments have their drafts, a call finds what was saved under its key. -/
lemma exists_recalled (hamendments : AmendmentsDrafted t) (h : SavedUnderKey context call t) :
    ∃ value, Recalled context call t (.ok value) := by
  obtain ⟨base, hbase, hsaved⟩ := h
  cases call with
  | update operations =>
    obtain ⟨draft, hdraft⟩ := Option.isSome_iff_exists.mp hsaved
    exact ⟨.draft draft, base, hbase, hdraft⟩
  | resolve amendmentId operations =>
    obtain ⟨draft, hdraft⟩ := Option.isSome_iff_exists.mp hsaved
    exact ⟨.draft draft, base, hbase, hdraft⟩
  | amend text targetSectionHint extracted amendmentId newIds =>
    obtain ⟨row, hrow⟩ := Option.isSome_iff_exists.mp hsaved
    obtain ⟨draft, hdraft⟩ := Option.isSome_iff_exists.mp (hamendments _ base _ row hbase hrow)
    exact ⟨.draft draft, base, hbase, row, hrow, hdraft⟩
  | confirm =>
    obtain ⟨revision, hrevision⟩ := Option.isSome_iff_exists.mp hsaved
    exact ⟨.approved revision, base, hbase, rfl, hrevision⟩

/-- Repeated calls return what was saved under their keys exactly where amendments have their
drafts. -/
lemma repeats_iff_amendmentsDrafted :
    (∀ context call, SavedUnderKey context call t → ∃ value, Replays rt context call t value) ↔
      AmendmentsDrafted t := by
  constructor
  · intro hrepeats draftRevisionId base key row hbase hrow
    -- An amendment with this key is repeated on the draft.
    obtain ⟨value, hvalue⟩ := hrepeats ⟨draftRevisionId, "", key, "", 0⟩
      (.amend "" none base.extractedSheet "" fun _ _ => "")
      ⟨base, hbase, Option.isSome_iff_exists.mpr ⟨row, hrow⟩⟩
    cases hdraft : t.draft row.resultDraftRevisionId with
    | some draft => rfl
    | none =>
      simp [Replays, ServiceCall.program, amendRequirementDraftFromText, requireDraft, Program.eval,
        DraftTables.exec, hbase, hrow, hdraft] at hvalue
  · intro hamendments context call hsaved
    obtain ⟨value, hrecalled⟩ := exists_recalled hamendments hsaved
    exact ⟨value, hrecalled.replays⟩

end Repeats

/-- The draft that was read is the whole chain. -/
lemma oneChain_readSheet {rt : RequirementRuntime} (opening : CallContext) (conversationId : String)
    (sheet : RequirementSheet) :
    OneChain rt conversationId (readSheet rt opening conversationId sheet) := by
  have hdrafts : (readSheet rt opening conversationId sheet).draftsOf conversationId =
      [extractedDraft rt opening conversationId sheet] := by
    show [extractedDraft rt opening conversationId sheet].filter _ = _
    simp [extractedDraft]
  refine ⟨?_, ?_⟩
  · rw [hdrafts]
    exact List.IsChain.singleton _
  · rw [DraftTables.latestDraft, hdrafts]
    rfl

/-- The transactions of an interleaving of calls are chained exactly where nothing comes between. -/
lemma along_chained_iff {opening : CallContext} {conversationId : String} {sheet : RequirementSheet}
    {rt : RequirementRuntime} {choices : List DraftChoice} {confirms : Prop}
    (hhonest : Along (Pool.step DraftTables.exec) (Pool.Guarded (Honest rt confirms))
      (openedPool rt opening conversationId sheet) choices) :
    Along (Pool.step DraftTables.exec) (Pool.Guarded (Chained rt))
        (openedPool rt opening conversationId sheet) choices ↔
      Along (Pool.step DraftTables.exec) (Pool.Guarded Undisturbed)
        (openedPool rt opening conversationId sheet) choices := by
  have hfirst : UniqueDrafts (openedPool rt opening conversationId sheet).shared :=
    List.nodup_singleton _
  have hkeeps : ∀ (pool : DraftPool) (choice : DraftChoice), UniqueDrafts pool.shared →
      UniqueDrafts (pool.step DraftTables.exec choice).shared :=
    fun pool choice hunique => Pool.step_keeps (fun t op => UniqueDrafts.exec op) hunique
  constructor
  · intro hchained
    refine along_of_invariant (I := fun pool : DraftPool => UniqueDrafts pool.shared)
      (fun pool choice hunique _ => hkeeps pool choice hunique) ?_ (hhonest.and hchained) hfirst
    rintro pool choice hunique ⟨hop, hchain⟩ op hcalled
    exact (chained_iff_undisturbed hunique (hop op hcalled)).mp (hchain op hcalled)
  · intro hundisturbed
    refine along_of_invariant (I := fun pool : DraftPool => UniqueDrafts pool.shared)
      (fun pool choice hunique _ => hkeeps pool choice hunique) ?_ (hhonest.and hundisturbed) hfirst
    rintro pool choice hunique ⟨hop, hquiet⟩ op hcalled
    exact (chained_iff_undisturbed hunique (hop op hcalled)).mpr (hquiet op hcalled)

/-- Where no draft of an amendment is refused, amendments are without their drafts only while a call
stands between the two. -/
lemma amendmentsDrafted_of_noneBetween {rt : RequirementRuntime} {opening : CallContext}
    {conversationId : String} {sheet : RequirementSheet} {choices : List DraftChoice}
    (hcalls : ∀ choice ∈ choices, StartsCalls rt choice)
    (hsteps : Along (Pool.step DraftTables.exec) (Pool.Guarded RefusesNoAmendment)
      (openedPool rt opening conversationId sheet) choices)
    (hend : NoneBetween
      (run (Pool.step DraftTables.exec) (openedPool rt opening conversationId sheet) choices)) :
    AmendmentsDrafted (run (Pool.step DraftTables.exec) (openedPool rt opening conversationId sheet)
      choices).shared := by
  have hcompleted : Completed (run (Pool.step DraftTables.exec)
      (openedPool rt opening conversationId sheet) choices) := by
    refine run_preserves (fun pool choice hpool hchoice => hpool.step hchoice.1 hchoice.2)
      ((along_of_mem hcalls).and hsteps) ?_
    exact ⟨fun _ hprogram => absurd hprogram List.not_mem_nil, fun _ hrow =>
      absurd hrow List.not_mem_nil⟩
  intro _ base key row _ hrow
  have hmem := (mem_of_rowAt hrow).1
  obtain ⟨draft, hdraft, hid⟩ := (hcompleted.amendments row hmem).resolve_right (by
    rintro ⟨draft, check, next, hwaits, hid⟩
    exact hend draft check next hwaits row hmem hid.symm)
  cases hfound : DraftTables.draft _ row.resultDraftRevisionId with
  | none => exact absurd hid (rowAt_eq_none.mp hfound draft hdraft)
  | some stored => rfl

section Overlap

/-- The item of the sample is switched off, or no longer selected. -/
def switchTerm (op : DraftOp) : DraftOperation where
  op := op
  itemId := "reqitem_4d0aa19e918b9ba5"
  selected := some false
  text := none
  targetSection := none
  enabled := some false

/-- The sections with the item switched off. -/
def disabledSections : DraftSections
  | .initialQueryTermPool => [{ sampleItem with enabled := false }]
  | _ => []

/-- The sections with the item no longer selected. -/
def deselectedSections : DraftSections
  | .initialQueryTermPool => [{ sampleItem with selected := false }]
  | _ => []

/-- Switching the item off. -/
lemma applyOperation_disable {operation : DraftOperation} (hop : operation.op = .setEnabled)
    (hnamed : operation.itemId = "reqitem_4d0aa19e918b9ba5")
    (henabled : operation.enabled = some false)
    (newId : String) : applyOperation sampleSections operation newId = .ok disabledSections := by
  have hfound : findItem sampleSections (fun item => item.itemId = "reqitem_4d0aa19e918b9ba5") =
      .ok (.initialQueryTermPool, sampleItem) := by decide +kernel
  simp only [applyOperation, hnamed, hop, henabled, hfound, bind, Except.bind, pure, Except.pure]
  refine congrArg Except.ok (funext fun s => ?_)
  cases s <;> rfl

/-- Taking it out of the selection. -/
lemma applyOperation_deselect {operation : DraftOperation} (hop : operation.op = .setSelected)
    (hnamed : operation.itemId = "reqitem_4d0aa19e918b9ba5")
    (hselected : operation.selected = some false)
    (newId : String) : applyOperation sampleSections operation newId = .ok deselectedSections := by
  have hfound : findItem sampleSections (fun item => item.itemId = "reqitem_4d0aa19e918b9ba5") =
      .ok (.initialQueryTermPool, sampleItem) := by decide +kernel
  simp only [applyOperation, hnamed, hop, hselected, hfound, bind, Except.bind, pure, Except.pure]
  refine congrArg Except.ok (funext fun s => ?_)
  cases s <;> rfl

/-- What the first update makes of the draft. -/
lemma applyOperations_disable :
    applyOperations sampleDraft.sections [(switchTerm .setEnabled, "")] = .ok disabledSections := by
  have hsections : sampleDraft.sections = sampleSections := draftFromRequirementSheet_sample
  rw [hsections]
  simp only [applyOperations, bind, Except.bind]
  rw [applyOperation_disable rfl rfl rfl]

/-- What the second update makes of the draft. -/
lemma applyOperations_deselect :
    applyOperations sampleDraft.sections
      [(switchTerm .setSelected, "")] = .ok deselectedSections := by
  have hsections : sampleDraft.sections = sampleSections := draftFromRequirementSheet_sample
  rw [hsections]
  simp only [applyOperations, bind, Except.bind]
  rw [applyOperation_deselect rfl rfl rfl]

/-- The context of the first update of the draft that was read. -/
def firstUpdate : CallContext := ⟨"draft-1", "draft-1", "update-1", "draft-2", 2⟩

/-- The context of the second. -/
def secondUpdate : CallContext := ⟨"draft-1", "draft-1", "update-2", "draft-3", 3⟩

/-- Each of two updates checks that the draft is the latest before either saves its own. -/
def overlappingUpdates : List DraftChoice :=
  [.start (startedCall sampleRuntime firstUpdate (.update [(switchTerm .setEnabled, "")])),
    .start (startedCall sampleRuntime secondUpdate (.update [(switchTerm .setSelected, "")])),
    .advance 0, .advance 0, .advance 0, .advance 1, .advance 1, .advance 1, .advance 0, .advance 1]

/-- One update alone. -/
def oneUpdate : List DraftChoice :=
  [.start (startedCall sampleRuntime firstUpdate (.update [(switchTerm .setEnabled, "")])),
    .advance 0, .advance 0, .advance 0, .advance 0]

end Overlap

end SeekTalent.RequirementDrafts
