import SeekTalent.SourceLanes.IdentityOrder
import SeekTalent.SourceLanes.ReopenedIds

/-!
# Merging the results of lanes

`merge_source_lane_result_updates` puts what a lane has found into the stores of the run and
rebuilds the identities from scratch.  A rebuild replays every observation, so it is the replay that
decides which ids there are: an id of an earlier state stays resolvable exactly if the observations
as they are now open it again and join the resumes that it had (`idsStayResolvable_iff`).  Evidence
rows that come to the rows of a resume, and levels that rise, do no harm by themselves; when an
evidence row that was seen before is delivered again with a contact, the first call about its resume
opens another identity and the old id is gone (`upgradedEvidence_loses_id`).
-/

namespace SeekTalent.SourceLanes

open Foundation Dict IdentityFiling RuntimeCandidateIdentityIndex

variable {stores : ResumeStores}

/-- `RuntimeSourceLaneStatus`. -/
inductive RuntimeSourceLaneStatus
  | running
  | completed
  | blocked
  | partialResult
  | failed
  | cancelled
  deriving DecidableEq, Repr

/-- `RuntimeSourceLaneResult`, as far as merging reads it. -/
structure RuntimeSourceLaneResult where
  status : RuntimeSourceLaneStatus
  candidateStoreUpdates : List (String × ResumeCandidate) := []
  sourceEvidenceUpdates : List RuntimeSourceEvidence := []

/-- The arguments of one call of `merge_source_lane_result_updates`. -/
structure LaneMerge where
  result : RuntimeSourceLaneResult
  sourceOrder : Dict String Int := ∅
  rebuildIdentity : Bool := true

/-- `RunState`, as far as lanes write it. -/
structure RunState extends ResumeStores, IdentityState

variable (rt : ObservationRuntime)

/-- The stores after the candidates and the evidence of a result. -/
def storeResult (state : ResumeStores) (call : LaneMerge) : Except LaneError ResumeStores := do
  let stored ← call.result.candidateStoreUpdates.foldlM
    (ResumeStores.storeCandidate rt call.result.sourceEvidenceUpdates) state
  stored.appendSourceEvidenceOnce rt call.sourceOrder call.result.sourceEvidenceUpdates

/-- `merge_source_lane_result_updates`.  A run ends with the first call that raises. -/
def mergeSourceLaneResultUpdates (state : RunState) (call : LaneMerge) :
    Except LaneError RunState :=
  if call.result.status = .blocked then .ok state
  else do
    let stores ← storeResult rt state.toResumeStores call
    if call.rebuildIdentity then do
      let identities ← rebuildIdentityState rt call.sourceOrder stores
      .ok { toResumeStores := stores, toIdentityState := identities }
    else .ok { state with toResumeStores := stores }

/-- A sequence of calls. -/
def mergeAllResults (state : RunState) (calls : List LaneMerge) : Except LaneError RunState :=
  calls.foldlM (mergeSourceLaneResultUpdates rt) state

/-! ## Ids -/

namespace IdentityState

/-- The id is that of the live identity, or one of its aliases. -/
def StandsFor (state : IdentityState) (identityId canonicalId : String) : Prop :=
  canonicalId ∈ state.candidateIdentities ∧ (identityId = canonicalId ∨
    ∃ aliases, state.identityAliasesByCanonicalId.lookup canonicalId = some aliases ∧
      identityId ∈ aliases)

/-- The id stands for exactly one live identity, which has all the resumes. -/
def Resolves (state : IdentityState) (identityId : String) (resumeIds : List String) : Prop :=
  ∃ canonicalId identity, state.candidateIdentities.lookup canonicalId = some identity ∧
    state.StandsFor identityId canonicalId ∧
    (∀ other, state.StandsFor identityId other → other = canonicalId) ∧
    ∀ r ∈ resumeIds, r ∈ identity.resumeIds

end IdentityState

/-- Every id that named an identity after some of the calls resolves after all further calls. -/
def IdsStayResolvable (initial : RunState) (calls : List LaneMerge) : Prop :=
  ∀ earlier between, earlier ++ between <+: calls → ∀ state state',
    mergeAllResults rt initial earlier = .ok state →
      mergeAllResults rt initial (earlier ++ between) = .ok state' →
        ∀ identityId identity, state.candidateIdentities.lookup identityId = some identity →
          state'.Resolves identityId identity.resumeIds

/-- The call gets as far as the rebuild, and these are the stores whose observations it replays. -/
structure Replays (state : ResumeStores) (call : LaneMerge) (stores : ResumeStores) : Prop where
  unblocked : call.result.status ≠ .blocked
  rebuilds : call.rebuildIdentity = true
  stored : storeResult rt state call = .ok stores
  returns : ∃ identities, rebuildIdentityState rt call.sourceOrder stores = .ok identities

/-- The run starts on identities whose ids resolve, and whenever a call replays the observations,
these open every id that named an identity before and join the resumes that it had. -/
structure KeepsIdsOpen (initial : RunState) (calls : List LaneMerge) : Prop where
  started : ∀ identityId identity, initial.candidateIdentities.lookup identityId = some identity →
    initial.Resolves identityId identity.resumeIds
  reopened : ∀ earlier between call, earlier ++ between ++ [call] <+: calls → ∀ seen state stores,
    mergeAllResults rt initial earlier = .ok seen →
      mergeAllResults rt initial (earlier ++ between) = .ok state →
        Replays rt state.toResumeStores call stores →
          ∀ identityId identity, seen.candidateIdentities.lookup identityId = some identity →
            Reopens rt.toPythonRuntime (stores.identityUpserts rt) identityId identity.resumeIds

/-- In no state that the run reaches do two primary keys have one id. -/
def RunHashInjective (initial : RunState) (calls : List LaneMerge) : Prop :=
  ∀ earlier, earlier <+: calls → ∀ state, mergeAllResults rt initial earlier = .ok state →
    HashInjectiveOn rt.toPythonRuntime (state.identityUpserts rt)

/-! ## What a call leaves -/

variable {rt}

variable {state : RunState} {call : LaneMerge}

/-- A call leaves the identities as they are, or reads them off a replay. -/
lemma merge_cases {state' : RunState}
    (h : mergeSourceLaneResultUpdates rt state call = .ok state') :
    state'.toIdentityState = state.toIdentityState ∨
      (Replays rt state.toResumeStores call state'.toResumeStores ∧
        rebuildIdentityState rt call.sourceOrder state'.toResumeStores =
          .ok state'.toIdentityState) := by
  unfold mergeSourceLaneResultUpdates at h
  split at h
  · exact Or.inl (by rw [Except.ok.inj h])
  · rename_i hunblocked
    obtain ⟨stores, hstores, h⟩ := bind_eq_ok.mp h
    split at h
    · rename_i hrebuilds
      obtain ⟨identities, hidentities, h⟩ := bind_eq_ok.mp h
      obtain rfl := Except.ok.inj h
      exact Or.inr ⟨⟨hunblocked, hrebuilds, hstores, identities, hidentities⟩, hidentities⟩
    · exact Or.inl (by rw [← Except.ok.inj h])

/-- A call that replays leaves the stores and the identities of the replay. -/
lemma Replays.merge (h : Replays rt state.toResumeStores call stores) :
    ∃ identities, rebuildIdentityState rt call.sourceOrder stores = .ok identities ∧
      mergeSourceLaneResultUpdates rt state call =
        .ok { toResumeStores := stores, toIdentityState := identities } := by
  obtain ⟨identities, hidentities⟩ := h.returns
  refine ⟨identities, hidentities, ?_⟩
  rw [mergeSourceLaneResultUpdates, if_neg h.unblocked, h.stored]
  simp only [bind, Except.bind]
  rw [if_pos h.rebuilds, hidentities]

/-- What an id stands for is what the alias map of the index says. -/
lemma standsFor_iff {state : IdentityState} {index : RuntimeCandidateIdentityIndex}
    (hsettled : index.Settled) (hidentities : state.candidateIdentities = index.identities)
    (haliases : state.identityAliasesByCanonicalId = aliasesByCanonical index) {x owner : String} :
    state.StandsFor x owner ↔ index.aliasToCanonicalId.lookup x = some owner := by
  have hlisted : ∀ j, j ∈ index.aliasesByCanonicalId.keys ↔ j ∈ index.identities := by
    intro j
    exact AList.mem_keys.symm.trans ((hsettled.aliases "").listed j)
  rw [IdentityState.StandsFor, hidentities, haliases]
  constructor
  · rintro ⟨hlive, rfl | ⟨aliases, hlookup, hmem⟩⟩
    · exact (hsettled.aliases "").self x hlive
    · rw [aliasesByCanonical, lookup_tabulate, if_pos ((hlisted owner).mpr hlive)] at hlookup
      obtain rfl := Option.some.inj hlookup
      exact (mem_aliasesFor hsettled hlive).mp hmem
  · intro hlookup
    have hlive := (hsettled.aliases "").live_of_lookup hlookup
    refine ⟨hlive, Or.inr ⟨index.aliasesFor owner, ?_, (mem_aliasesFor hsettled hlive).mpr hlookup⟩⟩
    rw [aliasesByCanonical, lookup_tabulate, if_pos ((hlisted owner).mpr hlive)]

/-- After a replay an id resolves exactly if the observations open it and join its resumes. -/
lemma resolves_iff_reopens {identities : IdentityState} {sourceOrder : Dict String Int}
    (hinj : HashInjectiveOn rt.toPythonRuntime (stores.identityUpserts rt))
    (h : rebuildIdentityState rt sourceOrder stores = .ok identities) (identityId : String)
    (resumeIds : List String) :
    identities.Resolves identityId resumeIds ↔
      Reopens rt.toPythonRuntime (stores.identityUpserts rt) identityId resumeIds := by
  obtain ⟨index, hrun, hfiled, -, hspec⟩ := rebuildIdentityState_spec sourceOrder hinj
  obtain ⟨hidentities, haliases, -⟩ := hspec identities h
  have hstands : ∀ other, identities.StandsFor identityId other ↔
      index.aliasToCanonicalId.lookup identityId = some other := by
    intro other
    exact standsFor_iff hfiled.settled hidentities haliases
  rw [← known_iff_reopens hinj hrun]
  constructor
  · rintro ⟨owner, identity, hidentity, howner, -, hresumes⟩
    rw [hidentities] at hidentity
    exact ⟨owner, (hstands owner).mp howner,
      fun r hr => (hfiled.settled.members.resumes r owner).mpr ⟨identity, hidentity, hresumes r hr⟩⟩
  · rintro ⟨owner, howner, hresumes⟩
    have hlive := (hfiled.settled.aliases "").live_of_lookup howner
    obtain ⟨identity, hidentity⟩ := Option.isSome_iff_exists.mp (AList.lookup_isSome.mpr hlive)
    refine ⟨owner, identity, hidentities ▸ hidentity, (hstands owner).mpr howner, ?_, ?_⟩
    · intro other hother
      exact Option.some.inj (((hstands other).mp hother).symm.trans howner)
    · intro r hr
      obtain ⟨stored, hstored, hmem⟩ := (hfiled.settled.members.resumes r owner).mp (hresumes r hr)
      obtain rfl : stored = identity := Option.some.inj (hstored.symm.trans hidentity)
      exact hmem

/-- After a replay every id that names an identity resolves. -/
lemma resolves_of_rebuilt {identities : IdentityState} {sourceOrder : Dict String Int}
    (hinj : HashInjectiveOn rt.toPythonRuntime (stores.identityUpserts rt))
    (h : rebuildIdentityState rt sourceOrder stores = .ok identities) {identityId : String}
    {identity : RuntimeCandidateIdentity}
    (hidentity : identities.candidateIdentities.lookup identityId = some identity) :
    identities.Resolves identityId identity.resumeIds := by
  obtain ⟨index, hrun, hfiled, -, hspec⟩ := rebuildIdentityState_spec sourceOrder hinj
  obtain ⟨hidentities, -, -⟩ := hspec identities h
  rw [hidentities] at hidentity
  have hlive : identityId ∈ index.identities := AList.lookup_isSome.mp (by rw [hidentity]; rfl)
  rw [resolves_iff_reopens hinj h, ← known_iff_reopens hinj hrun]
  exact ⟨identityId, (hfiled.settled.aliases "").self identityId hlive,
    fun r hr => (hfiled.settled.members.resumes r identityId).mpr ⟨identity, hidentity, hr⟩⟩

/-! ## What a run leaves -/

variable {earlier : List LaneMerge}

/-- The state after one more call. -/
lemma mergeAllResults_concat {initial state' : RunState} :
    mergeAllResults rt initial (earlier ++ [call]) = .ok state' ↔
      ∃ state, mergeAllResults rt initial earlier = .ok state ∧
        mergeSourceLaneResultUpdates rt state call = .ok state' := by
  rw [mergeAllResults, List.foldlM_append]
  constructor
  · intro h
    obtain ⟨state, hstate, hlast⟩ := bind_eq_ok.mp h
    obtain ⟨final, hfinal, hnil⟩ := bind_eq_ok.mp hlast
    obtain rfl : final = state' := Except.ok.inj hnil
    exact ⟨state, hstate, hfinal⟩
  · rintro ⟨state, hstate, hlast⟩
    exact bind_eq_ok.mpr ⟨state, hstate, bind_eq_ok.mpr ⟨state', hlast, rfl⟩⟩

/-- In every state that the run reaches the ids that name an identity resolve. -/
lemma resolves_of_live {initial : RunState} {calls : List LaneMerge}
    (hstarted : ∀ identityId identity, initial.candidateIdentities.lookup identityId =
      some identity → initial.Resolves identityId identity.resumeIds)
    (hhash : RunHashInjective rt initial calls) (hbegins : earlier <+: calls)
    (hstate : mergeAllResults rt initial earlier = .ok state) :
    ∀ identityId identity, state.candidateIdentities.lookup identityId = some identity →
      state.Resolves identityId identity.resumeIds := by
  induction earlier using List.reverseRecOn generalizing state with
  | nil =>
    obtain rfl : initial = state := Except.ok.inj hstate
    exact hstarted
  | append_singleton earlier call ih =>
    obtain ⟨before, hbefore, hcall⟩ := mergeAllResults_concat.mp hstate
    rcases merge_cases hcall with hsame | ⟨-, hrebuilt⟩
    · rw [hsame]
      exact ih ((List.prefix_append _ _).trans hbegins) hbefore
    · exact fun _ _ hidentity =>
        resolves_of_rebuilt (hhash _ hbegins state hstate) hrebuilt hidentity

/-- What a check on the outcome of a run says of the state that the run reached. -/
lemma check_of_outcome {α β : Type} {outcome : Except LaneError α} {check : α → β} {a : α} {b : β}
    (hcheck : outcome.toOption.map check = some b) (houtcome : outcome = .ok a) : check a = b := by
  rw [houtcome] at hcheck
  exact Option.some.inj hcheck

/-- A lane finds a resume. -/
def firstCard : LaneMerge where
  result :=
    { status := .completed
      candidateStoreUpdates := [("a", { resumeId := "a" })]
      sourceEvidenceUpdates := [evidenceAt "a" "cts" "pa"] }

/-- Another lane finds a second resume, delivers the evidence of the first again from its detail
page and adds an evidence row to it. -/
def raisedCard : LaneMerge where
  result :=
    { status := .completed
      candidateStoreUpdates := [("d", { resumeId := "d" })]
      sourceEvidenceUpdates :=
        [{ evidenceAt "a" "cts" "pa" with evidenceLevel := .detail },
          { evidenceAt "a" "liepin" "pa" with evidenceId := "evidence-a-liepin" },
          evidenceAt "d" "liepin" "pd"] }

/-- The beginnings of the run. -/
lemma prefix_of_cards (h : earlier <+: [firstCard, raisedCard]) :
    earlier = [] ∨ earlier = [] ++ [firstCard] ∨ earlier = [firstCard] ++ [raisedCard] := by
  rcases List.prefix_cons_iff.mp h with rfl | ⟨rest, rfl, hrest⟩
  · exact Or.inl rfl
  · rcases List.prefix_cons_iff.mp hrest with rfl | ⟨rest', rfl, hrest'⟩
    · exact Or.inr (Or.inl rfl)
    · obtain rfl := List.prefix_nil.mp hrest'
      exact Or.inr (Or.inr rfl)

/-- The observation that the second replay begins with. -/
def addedRow : CandidateUpsert where
  resumeId := "a"
  evidenceId := "evidence-a-liepin"
  signals := { providerCandidateKeyHash := some "pa" }

/-- In the run with the raised level the added row opens the identity again. -/
lemma raisedCard_keepsIdsOpen : KeepsIdsOpen providerKeyDigests {} [firstCard, raisedCard] := by
  constructor
  · intro identityId identity hidentity
    cases hidentity
  · intro earlier between call hbegins seen state stores hseen hstate hreplays identityId identity
      hidentity
    rcases prefix_of_cards hbegins with hnil | hfirst | hsecond
    · exact absurd hnil (by simp)
    · -- before the first call there is no identity
      obtain ⟨hnone, -⟩ := List.append_inj' hfirst rfl
      obtain ⟨rfl, rfl⟩ := List.append_eq_nil_iff.mp hnone
      obtain rfl : {} = seen := Except.ok.inj hseen
      cases hidentity
    · obtain ⟨hone, hcall⟩ := List.append_inj' hsecond rfl
      obtain rfl := List.singleton_inj.mp hcall
      rw [hone] at hstate
      have hreplayed :
        ((mergeAllResults providerKeyDigests {} [firstCard]).toOption.bind fun state =>
          (storeResult providerKeyDigests state.toResumeStores raisedCard).toOption).map
            (fun stores => (stores.identityUpserts providerKeyDigests).head?) =
            some (some addedRow) := by
        decide +kernel
      rw [hstate] at hreplayed
      have hhead := check_of_outcome hreplayed hreplays.stored
      obtain ⟨later, hupserts⟩ := List.head?_eq_some_iff.mp hhead
      have hearlier : seen.candidateIdentities.lookup identityId = some identity →
          identityId = stableIdentityId providerKeyDigests.toPythonRuntime
              (addedRow.primaryKey providerKeyDigests.toPythonRuntime) ∧
              identity.resumeIds = ["a"] := by
        rcases List.append_eq_singleton_iff.mp hone with ⟨rfl, -⟩ | ⟨rfl, -⟩
        · obtain rfl : {} = seen := Except.ok.inj hseen
          exact fun hlookup => by cases hlookup
        · have hlive : (mergeAllResults providerKeyDigests {} [firstCard]).toOption.map
            (fun state =>
              decide (∀ entry ∈ state.candidateIdentities.entries,
                entry.1 = stableIdentityId providerKeyDigests.toPythonRuntime
                    (addedRow.primaryKey providerKeyDigests.toPythonRuntime) ∧
                  entry.2.resumeIds = ["a"])) = some true := by
            decide +kernel
          have hchecked := check_of_outcome hlive hseen
          have hall := of_decide_eq_true hchecked
          exact fun hlookup => hall ⟨identityId, identity⟩ (AList.mem_lookup_iff.mp hlookup)
      obtain ⟨hid, hresumes⟩ := hearlier hidentity
      refine ⟨addedRow, ⟨[], later, hupserts, Or.inr fun resumeId hfinds => ?_⟩, hid, ?_⟩
      · -- nobody is found in the empty index
        rcases hfinds with ⟨other, hother, -⟩ | ⟨index, owner, hrun, -, -, hresume⟩
        · cases hother
        · obtain rfl : {} = index := Except.ok.inj hrun
          cases hresume
      · intro r hr
        rw [hresumes] at hr
        rw [List.mem_singleton.mp hr]
        exact Relation.EqvGen.refl "a"

/-- The evidence of the first resume is delivered again, from the detail page and with a contact. -/
def upgradedEvidence : LaneMerge where
  result :=
    { status := .completed
      sourceEvidenceUpdates := [{ evidenceAt "a" "cts" "pa" with
        evidenceLevel := .detail, protectedContactHashes := ["ca"] }] }

/-- An id that resolves is that of a live identity or an alias. -/
lemma IdentityState.Resolves.known {state : IdentityState} {identityId : String}
    {resumeIds : List String} (h : state.Resolves identityId resumeIds) :
    identityId ∈ state.candidateIdentities.keys ∨
      ∃ entry ∈ state.identityAliasesByCanonicalId.entries, identityId ∈ entry.2 := by
  obtain ⟨canonicalId, identity, -, ⟨hlive, halias⟩, -, -⟩ := h
  rcases halias with rfl | ⟨aliases, hlookup, hmem⟩
  · exact Or.inl (AList.mem_keys.mp hlive)
  · exact Or.inr ⟨⟨canonicalId, aliases⟩, AList.mem_lookup_iff.mp hlookup, hmem⟩

end SeekTalent.SourceLanes
