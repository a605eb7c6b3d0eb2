import SeekTalent.SourceLanes.IndexInvariant

/-!
# What a call of the index does

`upsertCandidate_spec`: on an index between two calls, `upsert_candidate` does not raise, it leaves
an index between two calls, and the pointers afterwards are those before with the owners found
redirected to the target and the observation filed under it.
-/

namespace SeekTalent.SourceLanes

open Foundation Dict IdentityFiling

namespace RuntimeCandidateIdentityIndex

variable {py : PythonRuntime} {index : RuntimeCandidateIdentityIndex} {call : CandidateUpsert}

/-! ## Matching -/

/-- The signals of the identity reach the score of a merge. -/
def StrongMatch (index : RuntimeCandidateIdentityIndex) (signals : RuntimeIdentitySignals)
    (identityId : String) : Prop :=
  ∃ stored, index.signalsByIdentityId.lookup identityId = some stored ∧
    85 ≤ identityMatchScore stored signals

/-- What one fuzzy candidate adds. -/
lemma matchCandidate_cases (index : RuntimeCandidateIdentityIndex)
    (signals : RuntimeIdentitySignals) (found : IdentityMatches) (identityId : String) :
    (index.matchCandidate signals found identityId = found ∧
        (index.StrongMatch signals identityId → identityId ∈ found.existing)) ∨
      (identityId ∉ found.existing ∧
        ((index.matchCandidate signals found identityId =
              { found with existing := found.existing ++ [identityId] } ∧
            index.StrongMatch signals identityId) ∨
          (¬ index.StrongMatch signals identityId ∧
            ∃ score, index.matchCandidate signals found identityId =
              { found with scored := found.scored ++ [(score, identityId)] }))) := by
  unfold matchCandidate StrongMatch
  by_cases hexisting : identityId ∈ found.existing
  · exact Or.inl ⟨if_pos hexisting, fun _ => hexisting⟩
  · rw [if_neg hexisting]
    cases hsignals : index.signalsByIdentityId.lookup identityId with
    | none => exact Or.inl ⟨rfl, by simp⟩
    | some stored =>
      simp only [Option.some.injEq, exists_eq_left']
      by_cases hstrong : 85 ≤ identityMatchScore stored signals
      · exact Or.inr ⟨hexisting, Or.inl ⟨if_pos hstrong, hstrong⟩⟩
      · rw [if_neg hstrong]
        by_cases hmedium : 70 ≤ identityMatchScore stored signals
        · exact Or.inr ⟨hexisting, Or.inr ⟨hstrong, _, if_pos hmedium⟩⟩
        · exact Or.inl ⟨if_neg hmedium, fun h => absurd h hstrong⟩

/-- The identities found after the fuzzy candidates: those found before, and those that match
strongly. -/
lemma mem_foldl_matchCandidate (index : RuntimeCandidateIdentityIndex)
    (signals : RuntimeIdentitySignals) (candidates : List String) (found : IdentityMatches)
    (x : String) :
    x ∈ (candidates.foldl (index.matchCandidate signals) found).existing ↔
      x ∈ found.existing ∨ (x ∈ candidates ∧ index.StrongMatch signals x) := by
  induction candidates generalizing found with
  | nil => simp
  | cons first rest ih =>
    rw [List.foldl_cons, ih]
    rcases matchCandidate_cases index signals found first with
      ⟨heq, hstrong⟩ | ⟨-, ⟨heq, hstrong⟩ | ⟨hweak, score, heq⟩⟩
    · rw [heq]
      constructor
      · rintro (hx | ⟨hx, hmatch⟩)
        · exact Or.inl hx
        · exact Or.inr ⟨List.mem_cons_of_mem _ hx, hmatch⟩
      · rintro (hx | ⟨hx, hmatch⟩)
        · exact Or.inl hx
        · rcases List.mem_cons.mp hx with rfl | hrest
          · exact Or.inl (hstrong hmatch)
          · exact Or.inr ⟨hrest, hmatch⟩
    · simp only [heq, List.mem_append, List.mem_cons, List.not_mem_nil, or_false]
      constructor
      · rintro ((hx | rfl) | ⟨hx, hmatch⟩)
        · exact Or.inl hx
        · exact Or.inr ⟨Or.inl rfl, hstrong⟩
        · exact Or.inr ⟨Or.inr hx, hmatch⟩
      · rintro (hx | ⟨rfl | hx, hmatch⟩)
        · exact Or.inl (Or.inl hx)
        · exact Or.inl (Or.inr rfl)
        · exact Or.inr ⟨hx, hmatch⟩
    · rw [heq]
      constructor
      · rintro (hx | ⟨hx, hmatch⟩)
        · exact Or.inl hx
        · exact Or.inr ⟨List.mem_cons_of_mem _ hx, hmatch⟩
      · rintro (hx | ⟨hx, hmatch⟩)
        · exact Or.inl hx
        · rcases List.mem_cons.mp hx with rfl | hrest
          · exact absurd hmatch hweak
          · exact Or.inr ⟨hrest, hmatch⟩

/-- The weaker matches are candidates that match too weakly to be found. -/
lemma mem_scored_foldl_matchCandidate (index : RuntimeCandidateIdentityIndex)
    (signals : RuntimeIdentitySignals) (candidates : List String) (found : IdentityMatches)
    {scored : Nat × String}
    (hscored : scored ∈ (candidates.foldl (index.matchCandidate signals) found).scored) :
    scored ∈ found.scored ∨ (scored.2 ∈ candidates ∧ scored.2 ∉ found.existing ∧
      ¬ index.StrongMatch signals scored.2) := by
  induction candidates generalizing found with
  | nil => exact Or.inl hscored
  | cons first rest ih =>
    have hkeeps : ∀ x ∈ found.existing,
        x ∈ (index.matchCandidate signals found first).existing := by
      intro x hx
      exact (mem_foldl_matchCandidate index signals [first] found x).mpr (Or.inl hx)
    rcases ih (index.matchCandidate signals found first) hscored with hstep | ⟨hmem, hnot, hweak⟩
    · rcases matchCandidate_cases index signals found first with
        ⟨heq, -⟩ | ⟨hnew, ⟨heq, -⟩ | ⟨hweak, score, heq⟩⟩ <;> rw [heq] at hstep
      · exact Or.inl hstep
      · exact Or.inl hstep
      · rcases List.mem_append.mp hstep with hbefore | hlast
        · exact Or.inl hbefore
        · rw [List.mem_singleton.mp hlast]
          exact Or.inr ⟨List.mem_cons_self, hnew, hweak⟩
    · exact Or.inr ⟨List.mem_cons_of_mem first hmem, fun hx => hnot (hkeeps _ hx), hweak⟩

/-- A fuzzy candidate is live. -/
lemma live_of_fuzzy (h : index.Settled) {signals : RuntimeIdentitySignals} {identityId : String}
    (hmem : identityId ∈ index.candidateFuzzyIdentityIds signals) :
    identityId ∈ index.identities := by
  unfold candidateFuzzyIdentityIds at hmem
  cases hbucket : signals.fuzzyBucketName with
  | none => simp [hbucket] at hmem
  | some name =>
    simp only [hbucket, List.mem_map] at hmem
    obtain ⟨stored, hstored, rfl⟩ := hmem
    cases hids : index.fuzzyIdentityIdsByName.lookup name with
    | none => simp [hids] at hstored
    | some identityIds =>
      rw [hids, Option.getD_some] at hstored
      obtain ⟨owner, howner⟩ := Option.isSome_iff_exists.mp
        (AList.lookup_isSome.mpr (h.buckets name identityIds hids stored hstored))
      rw [canonicalIdentityId, howner, Option.getD_some]
      exact (h.aliases "").live_of_lookup howner

/-- Without a visible name nothing is a fuzzy candidate. -/
lemma candidateFuzzyIdentityIds_eq_nil {signals : RuntimeIdentitySignals}
    (hname : ¬ signals.VisibleName) : index.candidateFuzzyIdentityIds signals = [] := by
  have hbucket : signals.fuzzyBucketName = none := by
    unfold RuntimeIdentitySignals.fuzzyBucketName
    unfold RuntimeIdentitySignals.VisibleName at hname
    cases hmasked : signals.isMaskedName <;> cases htruthy : truthyText signals.normalizedName <;>
      simp_all
  rw [candidateFuzzyIdentityIds, hbucket]

/-- Who an identity that shares a key, the resume or the evidence is. -/
lemma mem_existingIdentityIds (h : index.Settled) (identityId : String) :
    identityId ∈ index.existingIdentityIds py call ↔
      (∃ key ∈ identityKeys py call.signals call.evidenceId,
          index.keyToIdentityId.lookup key = some identityId) ∨
        index.resumeIdToIdentityId.lookup call.resumeId = some identityId ∨
        index.evidenceIdToIdentityId.lookup call.evidenceId = some identityId := by
  have hkey : ∀ key owner, index.keyToIdentityId.lookup key = some owner →
      index.canonicalIdentityId owner = owner := fun key owner hlookup =>
    (h.aliases "").canonical_eq (h.members.keys_live ((h.members.keys key owner).mp hlookup))
  have hresume : ∀ x owner, index.resumeIdToIdentityId.lookup x = some owner →
      index.canonicalIdentityId owner = owner := by
    intro x owner hlookup
    obtain ⟨identity, hidentity, -⟩ := (h.members.resumes x owner).mp hlookup
    exact (h.aliases "").canonical_eq (AList.lookup_isSome.mp (by rw [hidentity]; rfl))
  have hevidence : ∀ x owner, index.evidenceIdToIdentityId.lookup x = some owner →
      index.canonicalIdentityId owner = owner := by
    intro x owner hlookup
    obtain ⟨identity, hidentity, -⟩ := (h.members.evidence x owner).mp hlookup
    exact (h.aliases "").canonical_eq (AList.lookup_isSome.mp (by rw [hidentity]; rfl))
  simp only [existingIdentityIds, List.mem_map, List.mem_append, List.mem_filterMap,
    Option.mem_toList]
  constructor
  · rintro ⟨owner, (⟨key, hmem, hlookup⟩ | hlookup) | hlookup, rfl⟩
    · exact Or.inl ⟨key, hmem, by rw [hkey key owner hlookup, hlookup]⟩
    · exact Or.inr (Or.inl (by rw [hresume _ owner hlookup, hlookup]))
    · exact Or.inr (Or.inr (by rw [hevidence _ owner hlookup, hlookup]))
  · rintro (⟨key, hmem, hlookup⟩ | hlookup | hlookup)
    · exact ⟨identityId, Or.inl (Or.inl ⟨key, hmem, hlookup⟩), hkey key _ hlookup⟩
    · exact ⟨identityId, Or.inl (Or.inr hlookup), hresume _ _ hlookup⟩
    · exact ⟨identityId, Or.inr hlookup, hevidence _ _ hlookup⟩

/-- An identity that shares a key, the resume or the evidence is live. -/
lemma live_of_existing (h : index.Settled) {identityId : String}
    (hmem : identityId ∈ index.existingIdentityIds py call) : identityId ∈ index.identities := by
  rcases (mem_existingIdentityIds h identityId).mp hmem with ⟨key, -, hlookup⟩ | hlookup | hlookup
  · exact h.members.keys_live ((h.members.keys key _).mp hlookup)
  · obtain ⟨identity, hidentity, -⟩ := (h.members.resumes _ _).mp hlookup
    exact AList.lookup_isSome.mp (by rw [hidentity]; rfl)
  · obtain ⟨identity, hidentity, -⟩ := (h.members.evidence _ _).mp hlookup
    exact AList.lookup_isSome.mp (by rw [hidentity]; rfl)

/-! ## Conflicts -/

/-- Two indexes that differ in their conflicts only. -/
def SameBut (before after : RuntimeCandidateIdentityIndex) : Prop :=
  after.toIdentityFiling = before.toIdentityFiling ∧
    after.fuzzyIdentityIdsByName = before.fuzzyIdentityIdsByName ∧
    after.signalsByIdentityId = before.signalsByIdentityId

/-- Recording the conflicts with live identities succeeds and touches nothing else. -/
lemma recordConflicts_spec (py : PythonRuntime) (call : CandidateUpsert) (targetId : String)
    (scored : List (Nat × String)) :
    ∀ index : RuntimeCandidateIdentityIndex,
      (∀ entry ∈ scored, entry.2 = targetId ∨ entry.2 ∈ index.identities) →
      ∃ index', scored.foldlM
        (fun index entry => recordConflict py index call targetId entry) index =
        .ok index' ∧ index.SameBut index' := by
  induction scored with
  | nil => exact fun index _ => ⟨index, rfl, rfl, rfl, rfl⟩
  | cons entry rest ih =>
    intro index hlive
    have hstep : ∃ between, index.recordConflict py call targetId entry = .ok between ∧
        index.SameBut between := by
      unfold recordConflict
      by_cases htarget : entry.2 = targetId
      · exact ⟨index, if_pos htarget, rfl, rfl, rfl⟩
      · obtain ⟨identity, hidentity⟩ := Option.isSome_iff_exists.mp (AList.lookup_isSome.mpr
          ((hlive entry List.mem_cons_self).resolve_left htarget))
        simp only [if_neg htarget, item_eq_ok.mpr hidentity]
        exact ⟨_, rfl, rfl, rfl, rfl⟩
    obtain ⟨between, hrun, hfiling, hbuckets, hsignals⟩ := hstep
    obtain ⟨after, hfold, hfiling', hbuckets', hsignals'⟩ := ih between (fun s hs => by
      rw [hfiling]
      exact hlive s (List.mem_cons_of_mem entry hs))
    refine ⟨after, ?_, hfiling'.trans hfiling, hbuckets'.trans hbuckets, hsignals'.trans hsignals⟩
    rw [List.foldlM_cons, hrun]
    exact hfold

/-- Conflicts are irrelevant to merging. -/
lemma Merging.congr {after : RuntimeCandidateIdentityIndex} {target : String}
    {pending : List String}
    (h : index.Merging target pending) (hsame : index.SameBut after) :
    after.Merging target pending where
  members := by rw [hsame.1]; exact h.members
  aliases := by rw [hsame.1]; exact h.aliases
  buckets := bucketsKnown_congr hsame.2.1 (fun x hx => by rw [hsame.1]; exact hx) h.buckets
  presented := by rw [hsame.1]; exact h.presented
  target_live := by rw [hsame.1]; exact h.target_live

/-! ## Filing -/

/-- What filing an observation under the target does to the pointers. -/
structure Filed (py : PythonRuntime) (before after : IdentityFiling) (call : CandidateUpsert)
    (target : String) : Prop where
  live : ∀ identityId, identityId ∈ after.identities ↔ identityId ∈ before.identities
  resumes : ∀ x, after.resumeIdToIdentityId.lookup x =
    if x = call.resumeId then some target else before.resumeIdToIdentityId.lookup x
  evidence : ∀ x, after.evidenceIdToIdentityId.lookup x =
    if x = call.evidenceId then some target else before.evidenceIdToIdentityId.lookup x
  keys : ∀ x, after.keyToIdentityId.lookup x =
    if x ∈ identityKeys py call.signals call.evidenceId then some target
    else before.keyToIdentityId.lookup x
  aliases : ∀ x, after.aliasToCanonicalId.lookup x = before.aliasToCanonicalId.lookup x

/-- Pointing the members of an identity and one thing more at it. -/
lemma lookup_insertAll_members {pointer : Dict String String} {members : List String}
    {target added x : String} (hmembers : ∀ y ∈ members, pointer.lookup y = some target) :
    (pointer.insertAll (sortedTexts (members ++ [added])) target).lookup x =
      if x = added then some target else pointer.lookup x := by
  rw [lookup_insertAll]
  by_cases hadded : x = added
  · simp [hadded]
  · by_cases hmem : x ∈ members
    · simp [hadded, hmem, hmembers x hmem]
    · simp [hadded, hmem]

/-- Filing an observation whose resume, evidence and keys belong to nobody but the target. -/
theorem fileObservation_spec (py : PythonRuntime) (call : CandidateUpsert) {target : String}
    (h : index.Merging target [])
    (hresume : ∀ owner, index.resumeIdToIdentityId.lookup call.resumeId = some owner →
      owner = target)
    (hevidence : ∀ owner, index.evidenceIdToIdentityId.lookup call.evidenceId = some owner →
      owner = target)
    (hkeys : ∀ key ∈ identityKeys py call.signals call.evidenceId, ∀ owner,
      index.keyToIdentityId.lookup key = some owner → owner = target) :
    ∃ after identity, index.fileObservation py call target = .ok (after, identity) ∧
      after.Settled ∧ identity.identityId = target ∧
      Filed py index.toIdentityFiling after.toIdentityFiling call target ∧
      Signed index after target
        (some (mergeIdentitySignals (index.signalsByIdentityId.lookup target)
          (some call.signals))) := by
  obtain ⟨identity, hidentity⟩ :=
    Option.isSome_iff_exists.mp (AList.lookup_isSome.mpr h.target_live)
  obtain ⟨hid, hcanonicalId, -⟩ := h.presented target identity hidentity
  obtain ⟨updated, hupdated⟩ : ∃ updated : RuntimeCandidateIdentity, updated = { identity with
      resumeIds := sortedTexts (identity.resumeIds ++ [call.resumeId])
      evidenceIds := sortedTexts (identity.evidenceIds ++ [call.evidenceId])
      aliasIdentityIds := sortedTexts ((index.aliasesByCanonicalId.lookup target).getD [])
      strongestSignal := some (strongestSignalCode call.signals) } := ⟨_, rfl⟩
  obtain ⟨signed, hsigned⟩ : ∃ signed : RuntimeCandidateIdentityIndex, signed =
      setIdentitySignals { index with identities := index.identities.insert target updated } target
        (mergeIdentitySignals (index.signalsByIdentityId.lookup target) (some call.signals)) :=
    ⟨_, rfl⟩
  obtain ⟨keys, hkeysEq⟩ : ∃ keys, keys = identityKeys py call.signals call.evidenceId := ⟨_, rfl⟩
  rw [← hkeysEq] at hkeys
  have hrun : index.fileObservation py call target =
      .ok (signed.indexIdentityMembership target updated keys, updated) := by
    rw [fileObservation, item_eq_ok.mpr hidentity, hsigned, hupdated, hkeysEq]
    rfl
  have hself := h.aliases.self target h.target_live
  have hsignedFiling : signed.toIdentityFiling =
      { index.toIdentityFiling with identities := index.identities.insert target updated } := by
    rw [hsigned, setIdentitySignals_toIdentityFiling]
  have hcanonical : signed.canonicalIdentityId target = target := by
    rw [hsignedFiling, canonicalIdentityId, hself, Option.getD_some]
  have hfiling := indexIdentityMembership_toIdentityFiling hcanonical updated keys
  rw [hsignedFiling] at hfiling
  have hresumes : ∀ y ∈ identity.resumeIds, index.resumeIdToIdentityId.lookup y = some target :=
    fun y hy => (h.members.resumes y target).mpr ⟨identity, hidentity, hy⟩
  have hevidences : ∀ y ∈ identity.evidenceIds,
      index.evidenceIdToIdentityId.lookup y = some target :=
    fun y hy => (h.members.evidence y target).mpr ⟨identity, hidentity, hy⟩
  have hfiled : Filed py index.toIdentityFiling
      (signed.indexIdentityMembership target updated keys).toIdentityFiling call target := by
    rw [hfiling]
    refine ⟨fun x => ?_, fun x => ?_, fun x => ?_, fun x => ?_, fun x => rfl⟩
    · rw [AList.mem_insert]
      exact ⟨fun hx => hx.elim (fun heq => heq ▸ h.target_live) id, Or.inr⟩
    · rw [hupdated]
      exact lookup_insertAll_members hresumes
    · rw [hupdated]
      exact lookup_insertAll_members hevidences
    · rw [← hkeysEq]
      exact lookup_insertAll _ _ _ _
  have hsignedIndex : Signed index (signed.indexIdentityMembership target updated keys) target
      (some (mergeIdentitySignals (index.signalsByIdentityId.lookup target)
        (some call.signals))) := by
    have hstored : canonicalIdentityId
        { index.toIdentityFiling with identities := index.identities.insert target updated }
        target = target := by
      rw [← hsignedFiling]
      exact hcanonical
    have hset : Signed { index with identities := index.identities.insert target updated } signed
        target (some (mergeIdentitySignals (index.signalsByIdentityId.lookup target)
          (some call.signals))) := by
      rw [hsigned]
      apply setIdentitySignals_signed
      exact hstored
    have hbefore : Signed index signed target (some (mergeIdentitySignals
        (index.signalsByIdentityId.lookup target) (some call.signals))) :=
      ⟨hset.others, hset.target, hset.complete⟩
    exact hbefore.congr_right (indexIdentityMembership_signals _ _ _)
      (indexIdentityMembership_buckets _ _ _)
  refine ⟨_, updated, hrun, ?_, by rw [hupdated]; exact hid, hfiled, hsignedIndex⟩
  have hmembers : (signed.indexIdentityMembership target updated keys).MembersFiled :=
    { resumes := by
        have hfree : ∀ x ∈ [call.resumeId], ∀ owner,
            index.resumeIdToIdentityId.lookup x = some owner → owner = target := by
          simpa using hresume
        apply h.members.resumes.takeIn hfree
        · simpa using hfiled.resumes
        · intro owner x
          simp only [OwnsResume, hfiling, lookup_insert_ite]
          by_cases htarget : owner = target
          · subst htarget
            simp [hidentity, hupdated]
          · simp [htarget]
      evidence := by
        have hfree : ∀ x ∈ [call.evidenceId], ∀ owner,
            index.evidenceIdToIdentityId.lookup x = some owner → owner = target := by
          simpa using hevidence
        apply h.members.evidence.takeIn hfree
        · simpa using hfiled.evidence
        · intro owner x
          simp only [OwnsEvidence, hfiling, lookup_insert_ite]
          by_cases htarget : owner = target
          · subst htarget
            simp [hidentity, hupdated]
          · simp [htarget]
      keys := by
        apply h.members.keys.takeIn hkeys
        · intro x
          rw [hfiled.keys, hkeysEq]
        · intro owner x
          simp only [OwnsKey, hfiling]
          by_cases hempty : keys = []
          · simp [hempty]
          · rw [if_neg hempty, lookup_insert_ite]
            by_cases htarget : owner = target
            · subst htarget
              cases hstored : index.keysByIdentityId.lookup owner <;> simp
            · simp [htarget]
      keys_live := by
        intro owner x howns
        rw [hfiled.live]
        simp only [OwnsKey, hfiling] at howns
        by_cases hempty : keys = []
        · rw [if_pos hempty] at howns
          exact h.members.keys_live howns
        · rw [if_neg hempty, lookup_insert_ite] at howns
          by_cases htarget : owner = target
          · exact htarget ▸ h.target_live
          · rw [if_neg htarget] at howns
            exact h.members.keys_live howns }
  refine ⟨hmembers, fun _ => ?_, ?_, fun _ => ?_⟩
  · have haliases : (signed.indexIdentityMembership target updated keys).AliasesFiled target
        [] := by
      refine ⟨fun x => ?_, fun x hx => ?_, ?_, ?_⟩
      · rw [hfiled.live, hfiling]
        exact h.aliases.listed x
      · rw [hfiled.aliases]
        exact h.aliases.self x ((hfiled.live x).mp hx)
      · rw [hfiling]
        exact h.aliases.forward
      · rw [hfiling]
        exact h.aliases.backward
    exact haliases.retarget _ _
  · have hbuckets : signed.BucketsKnown := by
      rw [hsigned]
      have hstored : BucketsKnown
          { index with identities := index.identities.insert target updated } := h.buckets
      exact hstored.setIdentitySignals hself _
    refine bucketsKnown_congr (indexIdentityMembership_buckets _ _ _) (fun x hx => ?_) hbuckets
    rw [hfiling]
    rw [hsignedFiling] at hx
    exact hx
  · intro owner stored hlookup
    have howns : ∀ x, (signed.indexIdentityMembership target updated keys).OwnsAlias owner x ↔
        index.OwnsAlias owner x := by
      intro x
      rw [hfiling]
      rfl
    rw [hfiling] at hlookup
    simp only [lookup_insert_ite] at hlookup
    by_cases htarget : owner = target
    · rw [if_pos htarget] at hlookup
      cases hlookup
      subst htarget
      refine ⟨by rw [hupdated]; exact hid, by rw [hupdated]; exact hcanonicalId, fun _ x => ?_⟩
      rw [howns, hupdated, OwnsAlias]
      cases index.aliasesByCanonicalId.lookup owner <;> simp
    · rw [if_neg htarget] at hlookup
      obtain ⟨hstoredId, hstoredCanonical, hlists⟩ := h.presented owner stored hlookup
      exact ⟨hstoredId, hstoredCanonical, fun _ x => (hlists htarget x).trans (howns x).symm⟩

/-! ## A whole call -/

/-- What a call does to an index, given the identities that it found and its target. -/
structure Upserted (py : PythonRuntime) (before after : RuntimeCandidateIdentityIndex)
    (call : CandidateUpsert) (existing : List String) (target : String) : Prop where
  settled : after.Settled
  target_eq : target = targetIdentityId py call existing
  revived : ∀ owner, before.aliasToCanonicalId.lookup target = some owner → owner ∈ existing
  hard : ∀ x ∈ before.existingIdentityIds py call, x ∈ existing
  soft : ∀ x ∈ existing, x ∈ before.existingIdentityIds py call ∨
    (call.signals.VisibleName ∧ before.StrongMatch call.signals x)
  strong : ∀ x ∈ before.candidateFuzzyIdentityIds call.signals,
    before.StrongMatch call.signals x → x ∈ existing
  existing_live : ∀ x ∈ existing, x ∈ before.identities
  live : ∀ identityId, identityId ∈ after.identities ↔
    identityId = target ∨ (identityId ∈ before.identities ∧ identityId ∉ existing)
  resumes : ∀ x, after.resumeIdToIdentityId.lookup x = if x = call.resumeId then some target
    else (before.resumeIdToIdentityId.lookup x).map (redirect existing target)
  evidence : ∀ x, after.evidenceIdToIdentityId.lookup x = if x = call.evidenceId then some target
    else (before.evidenceIdToIdentityId.lookup x).map (redirect existing target)
  keys : ∀ x, after.keyToIdentityId.lookup x =
    if x ∈ identityKeys py call.signals call.evidenceId then some target
    else (before.keyToIdentityId.lookup x).map (redirect existing target)
  aliases : ∀ x, after.aliasToCanonicalId.lookup x = if x = target then some target
    else (before.aliasToCanonicalId.lookup x).map (redirect existing target)
  signed : Signed before after target (some (mergeIdentitySignals
    (if ∀ x ∈ existing, x = target then before.signalsByIdentityId.lookup target
      else some ((before.signalsByIdentityId.lookup target).getD {})) (some call.signals)))

namespace Upserted

variable {before after : RuntimeCandidateIdentityIndex} {existing : List String}
  {target x owner : String}

lemma redirect_of_hard (h : Upserted py before after call existing target)
    (hmem : owner ∈ before.existingIdentityIds py call) : redirect existing target owner = target :=
  if_pos (h.hard owner hmem)

/-- The owner of a resume is redirected. -/
lemma resume_of_before (h : Upserted py before after call existing target)
    (hbefore : before.Settled) (hlookup : before.resumeIdToIdentityId.lookup x = some owner) :
    after.resumeIdToIdentityId.lookup x = some (redirect existing target owner) := by
  rw [h.resumes]
  split
  · rename_i hx
    subst hx
    rw [h.redirect_of_hard ((mem_existingIdentityIds hbefore owner).mpr (Or.inr (Or.inl hlookup)))]
  · rw [hlookup, Option.map_some]

/-- The owner of an evidence row is redirected. -/
lemma evidence_of_before (h : Upserted py before after call existing target)
    (hbefore : before.Settled) (hlookup : before.evidenceIdToIdentityId.lookup x = some owner) :
    after.evidenceIdToIdentityId.lookup x = some (redirect existing target owner) := by
  rw [h.evidence]
  split
  · rename_i hx
    subst hx
    rw [h.redirect_of_hard ((mem_existingIdentityIds hbefore owner).mpr (Or.inr (Or.inr hlookup)))]
  · rw [hlookup, Option.map_some]

/-- The owner of a key is redirected. -/
lemma key_of_before (h : Upserted py before after call existing target) (hbefore : before.Settled)
    (hlookup : before.keyToIdentityId.lookup x = some owner) :
    after.keyToIdentityId.lookup x = some (redirect existing target owner) := by
  rw [h.keys]
  split
  · rename_i hx
    rw [h.redirect_of_hard ((mem_existingIdentityIds hbefore owner).mpr (Or.inl ⟨x, hx, hlookup⟩))]
  · rw [hlookup, Option.map_some]

end Upserted

/-- What a call finds: everything that it shares a key with, and every fuzzy candidate that matches
strongly; the weaker matches are live and were not found. -/
lemma identityMatches_spec (h : index.Settled) (py : PythonRuntime) (call : CandidateUpsert) :
    (∀ x, x ∈ (index.identityMatches py call).existing ↔ x ∈ index.existingIdentityIds py call ∨
        (x ∈ index.candidateFuzzyIdentityIds call.signals ∧ index.StrongMatch call.signals x)) ∧
      (∀ x ∈ (index.identityMatches py call).existing, x ∈ index.identities) ∧
      ∀ scored ∈ (index.identityMatches py call).scored,
        scored.2 ∈ index.identities ∧ scored.2 ∉ (index.identityMatches py call).existing := by
  have hmem : ∀ x, x ∈ (index.identityMatches py call).existing ↔
      x ∈ index.existingIdentityIds py call ∨
        (x ∈ index.candidateFuzzyIdentityIds call.signals ∧ index.StrongMatch call.signals x) := by
    intro x
    rw [identityMatches, mem_foldl_matchCandidate, mem_sortedTexts]
  refine ⟨hmem, fun x hx => ?_, fun scored hs => ?_⟩
  · rcases (hmem x).mp hx with hexisting | ⟨hfuzzy, -⟩
    · exact live_of_existing h hexisting
    · exact live_of_fuzzy h hfuzzy
  · rcases mem_scored_foldl_matchCandidate index call.signals _ _
      hs with hnone | ⟨hfuzzy, hnot, hweak⟩
    · cases hnone
    · refine ⟨live_of_fuzzy h (mem_sortedTexts.mp hfuzzy), fun hx => ?_⟩
      rcases (hmem scored.2).mp hx with hexisting | ⟨-, hstrong⟩
      · exact hnot hexisting
      · exact hweak hstrong

/-- Redirecting everything found but the target is redirecting everything found. -/
lemma redirect_filter_ne (existing : List String) (target : String) :
    redirect ((sortedTexts existing).filter (· ≠ target)) target = redirect existing target := by
  funext owner
  unfold redirect
  by_cases htarget : owner = target
  · simp [htarget]
  · by_cases hmem : owner ∈ existing <;> simp [htarget, hmem]

/-- A call does not raise; it merges what it found into its target and files the observation there.
The target must be new, or an alias of something found. -/
theorem upsertCandidate_spec (h : index.Settled) {existing : List String} {target : String}
    (hexisting : existing = (index.identityMatches py call).existing)
    (htarget : target = targetIdentityId py call existing)
    (hrevived : ∀ owner, index.aliasToCanonicalId.lookup target = some owner → owner ∈ existing) :
    ∃ after identity, index.upsertCandidate py call = .ok (after, identity) ∧
      identity.identityId = target ∧ Upserted py index after call existing target := by
  obtain ⟨hmatches, hlive, hscored⟩ := identityMatches_spec h py call
  rw [← hexisting] at hmatches hlive hscored
  have hhard : ∀ x ∈ index.existingIdentityIds py call, x ∈ existing :=
    fun x hx => (hmatches x).mpr (Or.inl hx)
  obtain ⟨pending, hpending⟩ : ∃ pending, pending = (sortedTexts existing).filter (· ≠ target) :=
    ⟨_, rfl⟩
  have hmemPending : ∀ x, x ∈ pending ↔ x ∈ existing ∧ x ≠ target := by
    intro x
    simp [hpending]
  obtain ⟨ensured, hensured⟩ : ∃ ensured, ensured =
      index.ensureIdentity target (some (strongestSignalCode call.signals)) := ⟨_, rfl⟩
  -- opening the target leaves the identities found to be merged
  have hmerging : ensured.Merging target pending := by
    rw [hensured]
    refine ensureIdentity_merging h _ (fun owner howner hne => ?_)
    exact (hmemPending owner).mpr ⟨hrevived owner howner, hne⟩
  have hpendingLive : ∀ x ∈ pending, x ∈ ensured.identities := by
    intro x hx
    rw [hensured, mem_ensureIdentity]
    exact Or.inr (hlive x ((hmemPending x).mp hx).1)
  obtain ⟨merged, hmerge, hmerged, hredirected, hmergedSigned⟩ :=
    mergeAll_spec pending ensured hmerging
    (by rw [hpending]; exact (nodup_sortedTexts existing).filter _)
    (fun hmem => ((hmemPending target).mp hmem).2 rfl) hpendingLive
  -- the weaker matches are still live
  obtain ⟨recorded, hrecord, hsame⟩ := recordConflicts_spec py call target
    (index.identityMatches py call).scored merged (fun scored hs => by
      right
      rw [hredirected.live, hensured, mem_ensureIdentity]
      refine ⟨Or.inr (hscored scored hs).1, fun hmem => ?_⟩
      exact (hscored scored hs).2 ((hmemPending _).mp hmem).1)
  have hrecorded := hmerged.congr hsame
  -- whatever the observation shares with an identity is the target's by now
  have hredirect : redirect pending target = redirect existing target := by
    rw [hpending]
    exact redirect_filter_ne existing target
  have howner : ∀ before owner, before ∈ index.existingIdentityIds py call →
      redirect existing target before = owner → owner = target := by
    intro before owner hmem hredirect
    rw [← hredirect, redirect, if_pos (hhard before hmem)]
  have hresumes : ∀ x, recorded.resumeIdToIdentityId.lookup x =
      (index.resumeIdToIdentityId.lookup x).map (redirect existing target) := by
    intro x
    rw [hsame.1, hredirected.resumes, hensured, hredirect]
    rfl
  have hevidence : ∀ x, recorded.evidenceIdToIdentityId.lookup x =
      (index.evidenceIdToIdentityId.lookup x).map (redirect existing target) := by
    intro x
    rw [hsame.1, hredirected.evidence, hensured, hredirect]
    rfl
  have hkeys : ∀ x, recorded.keyToIdentityId.lookup x =
      (index.keyToIdentityId.lookup x).map (redirect existing target) := by
    intro x
    rw [hsame.1, hredirected.keys, hensured, hredirect]
    rfl
  obtain ⟨after, identity, hfile, hsettled, hid, hfiled, hfiledSigned⟩ :=
    fileObservation_spec py call hrecorded (by
      intro owner hlookup
      rw [hresumes, Option.map_eq_some_iff] at hlookup
      obtain ⟨before, hbefore, hto⟩ := hlookup
      exact howner before owner ((mem_existingIdentityIds h before).mpr (Or.inr (Or.inl hbefore)))
        hto)
    (by
      intro owner hlookup
      rw [hevidence, Option.map_eq_some_iff] at hlookup
      obtain ⟨before, hbefore, hto⟩ := hlookup
      exact howner before owner ((mem_existingIdentityIds h before).mpr (Or.inr (Or.inr hbefore)))
        hto)
    (by
      intro key hkey owner hlookup
      rw [hkeys, Option.map_eq_some_iff] at hlookup
      obtain ⟨before, hbefore, hto⟩ := hlookup
      exact howner before owner
        ((mem_existingIdentityIds h before).mpr (Or.inl ⟨key, hkey, hbefore⟩)) hto)
  have hsoft : ∀ x ∈ existing, x ∈ index.existingIdentityIds py call ∨
      (call.signals.VisibleName ∧ index.StrongMatch call.signals x) := by
    intro x hx
    rcases (hmatches x).mp hx with hexisting | ⟨hfuzzy, hstrong⟩
    · exact Or.inl hexisting
    · refine Or.inr ⟨?_, hstrong⟩
      by_contra hname
      rw [candidateFuzzyIdentityIds_eq_nil hname] at hfuzzy
      cases hfuzzy
  refine ⟨after, identity, ?_, hid, hsettled, htarget, hrevived, hhard, hsoft,
    fun x hx hstrong => (hmatches x).mpr (Or.inr ⟨hx, hstrong⟩), hlive, ?_, ?_, ?_, ?_, ?_, ?_⟩
  · simp only [upsertCandidate, ← hexisting, ← htarget, ← hensured, ← hpending]
    rw [hmerge]
    simp only [bind, Except.bind]
    rw [hrecord]
    exact hfile
  · intro identityId
    rw [hfiled.live, hsame.1, hredirected.live, hensured, mem_ensureIdentity, hmemPending]
    by_cases hself : identityId = target
    · simp [hself]
    · simp [hself]
  · intro x
    rw [hfiled.resumes, hresumes]
  · intro x
    rw [hfiled.evidence, hevidence]
  · intro x
    rw [hfiled.keys, hkeys]
  · intro x
    rw [hfiled.aliases, hsame.1, hredirected.aliases, hensured, ensureIdentity, lookup_insert_ite,
      hredirect]
    by_cases hself : x = target
    · rw [if_pos hself, if_pos hself]
      simp [redirect]
    · rw [if_neg hself, if_neg hself]
  · have hensuredSignals : ensured.signalsByIdentityId = index.signalsByIdentityId := by
      rw [hensured]
      rfl
    have hpendingNil : pending = [] ↔ ∀ x ∈ existing, x = target := by
      rw [List.eq_nil_iff_forall_not_mem]
      constructor
      · intro hnone x hx
        by_contra hne
        exact hnone x ((hmemPending x).mpr ⟨hx, hne⟩)
      · intro hall x hx
        exact ((hmemPending x).mp hx).2 (hall x ((hmemPending x).mp hx).1)
    refine ⟨fun x hne => ?_, ?_, fun hcomplete => hfiledSigned.complete ?_⟩
    · rw [hfiledSigned.others x hne, hsame.2.2, hmergedSigned.others x hne, hensuredSignals]
    · rw [hfiledSigned.target, hsame.2.2, hmergedSigned.target, hensuredSignals]
      simp only [hpendingNil]
    · have hmergedComplete : merged.BucketsComplete :=
        hmergedSigned.complete (by rw [hensured]; exact hcomplete)
      unfold BucketsComplete at hmergedComplete ⊢
      rw [hsame.2.1, hsame.2.2]
      exact hmergedComplete

end RuntimeCandidateIdentityIndex

end SeekTalent.SourceLanes
