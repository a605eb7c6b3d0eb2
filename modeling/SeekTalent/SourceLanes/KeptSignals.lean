import SeekTalent.SourceLanes.MatchingOrder

/-!
# The signals that an identity keeps

What an index knows of an identity should be what all calls said that ended up in it, including
those of the identities that were merged into it.  `_merge_identity` points the old id at the target
before it takes the signals of the old id away, so that it takes those of the target: the signals of
the old identity stay behind under an id that is no identity any more, and the target keeps its own.

A run keeps all signals exactly if none of its calls merges an identity away.
-/

namespace SeekTalent.SourceLanes

open Foundation Dict IdentityFiling

/-! ## Facts -/

/-- What the first signals say is in the second ones: the values of sets, and a value where there
was one. -/
structure RuntimeIdentitySignals.ContainedIn (left right : RuntimeIdentitySignals) : Prop where
  schools : ∀ x ∈ left.schoolNorms, x ∈ right.schoolNorms
  chronology : ∀ x ∈ left.workChronologyFingerprints, x ∈ right.workChronologyFingerprints
  contacts : ∀ x ∈ left.protectedContactHashes, x ∈ right.protectedContactHashes
  locations : ∀ x ∈ left.locationNorms, x ∈ right.locationNorms
  skills : ∀ x ∈ left.skillNorms, x ∈ right.skillNorms
  name : truthyText left.normalizedName → truthyText right.normalizedName
  company : truthyText left.currentCompanyNorm → truthyText right.currentCompanyNorm
  title : truthyText left.currentTitleNorm → truthyText right.currentTitleNorm
  provider : truthyText left.providerCandidateKeyHash → truthyText right.providerCandidateKeyHash
  years : left.yearsOfExperience.isSome → right.yearsOfExperience.isSome

namespace RuntimeIdentitySignals

variable {left right signals : RuntimeIdentitySignals}

lemma ContainedIn.refl (signals : RuntimeIdentitySignals) : signals.ContainedIn signals :=
  ⟨fun _ h => h, fun _ h => h, fun _ h => h, fun _ h => h, fun _ h => h, id, id, id, id, id⟩

/-- The first of two texts that is there. -/
lemma truthyText_orText (first second : Option String) :
    truthyText (orText first second) = (truthyText first || truthyText second) := by
  unfold orText
  cases hfirst : truthyText first with
  | true => rw [if_pos rfl, hfirst, Bool.true_or]
  | false => rw [if_neg (by simp), Bool.false_or]

/-- Merging keeps what the first signals say. -/
lemma ContainedIn.merged_left (h : signals.ContainedIn left) :
    signals.ContainedIn (mergeKnownSignals left right) where
  schools x hx := mem_sortedTexts.mpr (List.mem_append_left _ (h.schools x hx))
  chronology x hx := mem_sortedTexts.mpr (List.mem_append_left _ (h.chronology x hx))
  contacts x hx := mem_sortedTexts.mpr (List.mem_append_left _ (h.contacts x hx))
  locations x hx := mem_sortedTexts.mpr (List.mem_append_left _ (h.locations x hx))
  skills x hx := mem_sortedTexts.mpr (List.mem_append_left _ (h.skills x hx))
  name hname := by rw [mergeKnownSignals, truthyText_orText, h.name hname, Bool.true_or]
  company hcompany := by rw [mergeKnownSignals, truthyText_orText, h.company hcompany, Bool.true_or]
  title htitle := by rw [mergeKnownSignals, truthyText_orText, h.title htitle, Bool.true_or]
  provider hprovider := by rw [mergeKnownSignals, truthyText_orText, h.provider hprovider,
    Bool.true_or]
  years hyears := by
    obtain ⟨years, hsome⟩ := Option.isSome_iff_exists.mp (h.years hyears)
    rw [mergeKnownSignals, hsome]
    rfl

/-- Merging keeps what the second signals say. -/
lemma containedIn_merged_right (left right : RuntimeIdentitySignals) :
    right.ContainedIn (mergeKnownSignals left right) where
  schools x hx := mem_sortedTexts.mpr (List.mem_append_right _ hx)
  chronology x hx := mem_sortedTexts.mpr (List.mem_append_right _ hx)
  contacts x hx := mem_sortedTexts.mpr (List.mem_append_right _ hx)
  locations x hx := mem_sortedTexts.mpr (List.mem_append_right _ hx)
  skills x hx := mem_sortedTexts.mpr (List.mem_append_right _ hx)
  name hname := by rw [mergeKnownSignals, truthyText_orText, hname, Bool.or_true]
  company hcompany := by rw [mergeKnownSignals, truthyText_orText, hcompany, Bool.or_true]
  title htitle := by rw [mergeKnownSignals, truthyText_orText, htitle, Bool.or_true]
  provider hprovider := by rw [mergeKnownSignals, truthyText_orText, hprovider, Bool.or_true]
  years hyears := by
    obtain ⟨years, hsome⟩ := Option.isSome_iff_exists.mp hyears
    rw [mergeKnownSignals, hsome]
    cases left.yearsOfExperience <;> rfl

end RuntimeIdentitySignals

/-- What some calls say together. -/
def accumulatedFacts (calls : List CandidateUpsert) : Option RuntimeIdentitySignals :=
  calls.foldl (fun facts call => some (mergeIdentitySignals facts (some call.signals))) none

/-- One more call. -/
lemma accumulatedFacts_concat (calls : List CandidateUpsert) (call : CandidateUpsert) :
    accumulatedFacts (calls ++ [call]) = some
      (mergeIdentitySignals (accumulatedFacts calls) (some call.signals)) := by
  unfold accumulatedFacts
  rw [List.foldl_append]
  rfl

/-- Calls say something. -/
lemma accumulatedFacts_eq_none {calls : List CandidateUpsert} : accumulatedFacts calls = none ↔
    calls = [] := by
  induction calls using List.reverseRecOn with
  | nil => exact iff_of_true rfl rfl
  | append_singleton calls call _ =>
    rw [accumulatedFacts_concat]
    simp

/-- The facts contain what each call says. -/
lemma containedIn_accumulatedFacts {calls : List CandidateUpsert} {facts : RuntimeIdentitySignals}
    (h : accumulatedFacts calls = some facts) {call : CandidateUpsert} (hcall : call ∈ calls) :
    call.signals.ContainedIn facts := by
  induction calls using List.reverseRecOn generalizing facts with
  | nil => exact absurd hcall List.not_mem_nil
  | append_singleton calls last ih =>
    rw [accumulatedFacts_concat, Option.some.injEq] at h
    subst h
    cases hbefore : accumulatedFacts calls with
    | none =>
      rw [accumulatedFacts_eq_none.mp hbefore, List.nil_append, List.mem_singleton] at hcall
      rw [hcall]
      exact .refl _
    | some before =>
      obtain hold | hlast := List.mem_append.mp hcall
      · exact (ih hbefore hold).merged_left
      · rw [List.mem_singleton.mp hlast]
        exact RuntimeIdentitySignals.containedIn_merged_right _ _

/-- A contact or a provider's hash among the facts is one that a call gave. -/
lemma exists_call_of_accumulatedFacts {calls : List CandidateUpsert}
    {facts : RuntimeIdentitySignals} (h : accumulatedFacts calls = some facts) :
    (∀ hash ∈ facts.protectedContactHashes, ∃ call ∈ calls,
      hash ∈ call.signals.protectedContactHashes) ∧ (truthyText facts.providerCandidateKeyHash →
        ∃ call ∈ calls,
          call.signals.providerCandidateKeyHash = facts.providerCandidateKeyHash) := by
  induction calls using List.reverseRecOn generalizing facts with
  | nil => cases h
  | append_singleton calls last ih =>
    rw [accumulatedFacts_concat, Option.some.injEq] at h
    subst h
    have hlast : last ∈ calls ++ [last] := List.mem_append_right _ (List.mem_singleton.mpr rfl)
    cases hbefore : accumulatedFacts calls with
    | none => exact ⟨fun hash hhash => ⟨last, hlast, hhash⟩, fun _ => ⟨last, hlast, rfl⟩⟩
    | some before =>
      obtain ⟨hcontacts, hprovider⟩ := ih hbefore
      constructor
      · intro hash hhash
        obtain hold | hnew := List.mem_append.mp (mem_sortedTexts.mp hhash)
        · obtain ⟨call, hcall, hmem⟩ := hcontacts hash hold
          exact ⟨call, List.mem_append_left _ hcall, hmem⟩
        · exact ⟨last, hlast, hnew⟩
      · intro htruthy
        cases hold : truthyText before.providerCandidateKeyHash with
        | true =>
          obtain ⟨call, hcall, hhash⟩ := hprovider hold
          refine ⟨call, List.mem_append_left _ hcall, ?_⟩
          rw [hhash]
          exact (if_pos hold).symm
        | false =>
          refine ⟨last, hlast, ?_⟩
          exact (if_neg (by rw [hold]; exact Bool.false_ne_true)).symm

namespace RuntimeCandidateIdentityIndex

variable {py : PythonRuntime} {calls : List CandidateUpsert} {index : RuntimeCandidateIdentityIndex}
  {call : CandidateUpsert}

/-! ## Runs that keep all signals -/

/-- The calls that ended up in an identity. -/
def callsOf (index : RuntimeCandidateIdentityIndex) (calls : List CandidateUpsert)
    (identityId : String) : List CandidateUpsert :=
  calls.filter fun call => index.identityForResumeId call.resumeId = some identityId

/-- What the index knows of its identities is what the calls said, and it knows nothing of
others. -/
structure SignalsKept (index : RuntimeCandidateIdentityIndex) (calls : List CandidateUpsert) :
    Prop where
  contained : ∀ identityId ∈ index.identities, ∀ call ∈ index.callsOf calls identityId,
    ∃ signals, index.signalsByIdentityId.lookup identityId = some signals ∧
    call.signals.ContainedIn signals
  owners_live : ∀ identityId ∈ index.signalsByIdentityId, identityId ∈ index.identities
  buckets_live : ∀ name identityIds, index.fuzzyIdentityIdsByName.lookup name = some identityIds →
    ∀ identityId ∈ identityIds, identityId ∈ index.identities
  bucketed : ∀ identityId ∈ index.identities, ∀ signals name,
    index.signalsByIdentityId.lookup identityId = some signals →
    signals.fuzzyBucketName = some name →
      ∃ identityIds, index.fuzzyIdentityIdsByName.lookup name = some identityIds ∧
        identityId ∈ identityIds

/-- After every call the signals are kept, and the next call, if it reaches the score of a merge
against what the calls of an identity said together, is merged with the identity. -/
def KeepsSignals (py : PythonRuntime) (calls : List CandidateUpsert) : Prop :=
  ∀ earlier rest, calls = earlier ++ rest → ∃ index, afterUpserts py earlier = .ok index ∧
    index.SignalsKept earlier ∧ ∀ call later, rest = call :: later →
      ∃ after identity, index.upsertCandidate py call = .ok (after, identity) ∧
        ∀ identityId ∈ index.identities, ∀ facts,
          accumulatedFacts (index.callsOf earlier identityId) = some facts →
            85 ≤ identityMatchScore facts call.signals →
              after.canonicalIdentityId identityId = identity.identityId

/-- The call finds no identity but the one that it is filed under. -/
def MergesNobody (py : PythonRuntime) (index : RuntimeCandidateIdentityIndex)
    (call : CandidateUpsert) : Prop :=
  ∀ identityId ∈ (index.identityMatches py call).existing,
    identityId = targetIdentityId py call (index.identityMatches py call).existing

/-- No call merges an identity away. -/
def NeverMerges (py : PythonRuntime) (calls : List CandidateUpsert) : Prop :=
  ∀ earlier call later, calls = earlier ++ call :: later →
    ∀ index, afterUpserts py earlier = .ok index → index.MergesNobody py call

/-! ## One call -/

/-- What a call does, with the identities that it finds. -/
lemma exists_upserted (h : CallsFiled py calls index)
    (hinj : HashInjectiveOn py (calls ++ [call])) :
    ∃ after identity, index.upsertCandidate py call = .ok (after, identity) ∧
      identity.identityId = targetIdentityId py call (index.identityMatches py call).existing ∧
      Upserted py index after call (index.identityMatches py call).existing
        (targetIdentityId py call (index.identityMatches py call).existing) ∧
      CallsFiled py (calls ++ [call]) after := by
  obtain ⟨hmatches, hlive, -⟩ := identityMatches_spec h.settled py call
  have hhard : ∀ x ∈ index.existingIdentityIds py call,
      x ∈ (index.identityMatches py call).existing :=
    fun x hx => (hmatches x).mpr (.inl hx)
  obtain ⟨after, identity, hrun, hid, hup⟩ :=
    upsertCandidate_spec h.settled rfl rfl (h.revived hinj hhard hlive)
  obtain ⟨after', identity', -, -, hrun', -, -, hfiled⟩ := h.upsert hinj
  obtain ⟨rfl, rfl⟩ := Prod.mk.inj (Except.ok.inj (hrun.symm.trans hrun'))
  exact ⟨after, identity, hrun, hid, hup, hfiled⟩

/-- The index before the last call of a run, and what the call does to it. -/
lemma exists_before {call : CandidateUpsert} (hinj : HashInjectiveOn py (calls ++ [call]))
    (hrun : afterUpserts py (calls ++ [call]) = .ok index) :
    HashInjectiveOn py calls ∧ ∃ before, afterUpserts py calls = .ok before ∧
      CallsFiled py calls before ∧
      Upserted py before index call (before.identityMatches py call).existing
        (targetIdentityId py call (before.identityMatches py call).existing) := by
  have hinj' : HashInjectiveOn py calls := hinj.of_subset fun c hc => List.mem_append_left _ hc
  obtain ⟨before, hbefore, hfiled⟩ := callsFiled_afterUpserts hinj'
  obtain ⟨after, identity, hcall, -, hup, -⟩ := exists_upserted hfiled hinj
  obtain rfl : after = index :=
    Except.ok.inj ((afterUpserts_concat hbefore hcall).symm.trans hrun)
  exact ⟨hinj', before, hbefore, hfiled, hup⟩

/-- A live identity has signals. -/
def Signing (index : RuntimeCandidateIdentityIndex) : Prop :=
  ∀ identityId ∈ index.identities, identityId ∈ index.signalsByIdentityId

/-- A call leaves live identities with signals. -/
lemma Signing.upserted (h : index.Signing) {after : RuntimeCandidateIdentityIndex}
    {existing : List String}
    {target : String} (hup : Upserted py index after call existing target) : after.Signing := by
  intro identityId hlive
  by_cases htarget : identityId = target
  · rw [htarget, ← AList.lookup_isSome, hup.signed.target]
    rfl
  · obtain heq | ⟨hbefore, -⟩ := (hup.live identityId).mp hlive
    · exact absurd heq htarget
    · rw [← AList.lookup_isSome, hup.signed.others identityId htarget, AList.lookup_isSome]
      exact h identityId hbefore

/-- After every run live identities have signals. -/
lemma signing_afterUpserts (hinj : HashInjectiveOn py calls)
    (hrun : afterUpserts py calls = .ok index) : index.Signing := by
  induction calls using List.reverseRecOn generalizing index with
  | nil =>
    cases hrun
    exact fun identityId hlive => absurd hlive (AList.notMem_empty identityId)
  | append_singleton calls call ih =>
    obtain ⟨hinj', before, hbefore, -, hup⟩ := exists_before hinj hrun
    exact (ih hinj' hbefore).upserted hup

/-! ## Runs without a merge -/

/-- The index after calls that merged nobody away: an identity has no name but its own, and its
signals are what its calls said together. -/
structure Unmerged (py : PythonRuntime) (calls : List CandidateUpsert)
    (index : RuntimeCandidateIdentityIndex) : Prop where
  filed : CallsFiled py calls index
  names : ∀ x owner, index.aliasToCanonicalId.lookup x = some owner → owner = x
  signals : ∀ x, index.signalsByIdentityId.lookup x = accumulatedFacts (index.callsOf calls x)
  complete : index.BucketsComplete

/-- The empty index. -/
lemma unmerged_nil (py : PythonRuntime) : Unmerged py [] {} :=
  ⟨callsFiled_nil py, fun _ _ h => absurd h (by simp), fun _ => rfl, fun _ _ _ h =>
    absurd h (by simp)⟩

/-- One more call. -/
lemma Unmerged.upserted (h : Unmerged py calls index) {after : RuntimeCandidateIdentityIndex}
    {existing : List String} {target : String} (hup : Upserted py index after call existing target)
    (hnobody : ∀ x ∈ existing, x = target) (hfiled : CallsFiled py (calls ++ [call]) after) :
    Unmerged py (calls ++ [call]) after := by
  have hredirect : redirect existing target = id := by
    funext owner
    unfold redirect
    split
    · exact (hnobody owner ‹_›).symm
    · rfl
  have hcalls : ∀ x, after.callsOf (calls ++ [call]) x = index.callsOf calls x ++
      if x = target then [call] else [] := by
    intro x
    have hold : calls.filter (fun c => after.identityForResumeId c.resumeId = some x) =
        calls.filter fun c => index.identityForResumeId c.resumeId = some x := by
      refine List.filter_congr fun c hc => ?_
      obtain ⟨owner, hresume, -⟩ := h.filed.filed c hc
      have hafter := hup.resume_of_before h.filed.settled hresume
      rw [hredirect] at hafter
      rw [identityForResumeId_eq h.filed.settled hresume, identityForResumeId_eq hup.settled hafter]
      rfl
    have hnew : after.identityForResumeId call.resumeId = some target :=
      identityForResumeId_eq hup.settled (by rw [hup.resumes, if_pos rfl])
    unfold callsOf
    rw [List.filter_append, hold, List.filter_singleton, hnew]
    by_cases htarget : x = target
    · simp [htarget]
    · simp [htarget, Ne.symm htarget]
  refine ⟨hfiled, fun x owner howner => ?_, fun x => ?_, hup.signed.complete h.complete⟩
  · rw [hup.aliases] at howner
    by_cases htarget : x = target
    · rw [if_pos htarget, Option.some.injEq] at howner
      rw [← howner, htarget]
    · rw [if_neg htarget, hredirect, Option.map_id, id] at howner
      exact h.names x owner howner
  · rw [hcalls]
    by_cases htarget : x = target
    · rw [if_pos htarget, accumulatedFacts_concat, htarget, hup.signed.target, if_pos hnobody,
        h.signals]
    · rw [if_neg htarget, List.append_nil, hup.signed.others x htarget, h.signals]

/-- Every run without a merge. -/
lemma unmerged_afterUpserts (hinj : HashInjectiveOn py calls) (hnever : NeverMerges py calls) :
    ∃ index, afterUpserts py calls = .ok index ∧ Unmerged py calls index := by
  induction calls using List.reverseRecOn with
  | nil => exact ⟨{}, rfl, unmerged_nil py⟩
  | append_singleton calls call ih =>
    have hearlier : NeverMerges py calls := by
      intro earlier other later hsplit
      refine hnever earlier other (later ++ [call]) ?_
      rw [hsplit, List.append_assoc, List.cons_append]
    obtain ⟨index, hrun, h⟩ := ih (hinj.of_subset fun c hc => List.mem_append_left _ hc) hearlier
    obtain ⟨after, identity, hcall, -, hup, hfiled⟩ := exists_upserted h.filed hinj
    exact ⟨after, afterUpserts_concat hrun hcall,
      h.upserted hup (hnever calls call [] rfl index hrun) hfiled⟩

/-- A run without a merge keeps the signals. -/
lemma Unmerged.signalsKept (h : Unmerged py calls index) : index.SignalsKept calls where
  contained identityId _ call hcall := by
    cases hfacts : accumulatedFacts (index.callsOf calls identityId) with
    | none =>
      rw [accumulatedFacts_eq_none.mp hfacts] at hcall
      exact absurd hcall List.not_mem_nil
    | some facts =>
      exact ⟨facts, (h.signals identityId).trans hfacts, containedIn_accumulatedFacts hfacts hcall⟩
  owners_live identityId howner := by
    have hcalls : index.callsOf calls identityId ≠ [] := by
      rw [← AList.lookup_isSome, h.signals] at howner
      intro hnil
      rw [accumulatedFacts_eq_none.mpr hnil] at howner
      cases howner
    obtain ⟨call, hcall⟩ := List.exists_mem_of_ne_nil _ hcalls
    obtain ⟨hmem, hid⟩ := List.mem_filter.mp hcall
    obtain ⟨owner, hresume, -⟩ := h.filed.filed call hmem
    rw [identityForResumeId_eq h.filed.settled hresume, decide_eq_true_eq, Option.some.injEq] at hid
    obtain ⟨identity, hidentity, -⟩ := (h.filed.settled.members.resumes _ owner).mp hresume
    rw [← hid]
    exact AList.lookup_isSome.mp (by rw [hidentity]; rfl)
  buckets_live name identityIds hbucket identityId hmem := by
    obtain ⟨owner, howner⟩ := Option.isSome_iff_exists.mp
      (AList.lookup_isSome.mpr (h.filed.settled.buckets name identityIds hbucket identityId hmem))
    rw [← h.names identityId owner howner]
    exact (h.filed.settled.aliases "").live_of_lookup howner
  bucketed identityId _ signals name hsignals hname :=
    h.complete identityId signals name hsignals hname

/-- Whoever reaches the score of a merge against all that the calls of an identity said finds the
identity. -/
lemma Unmerged.mem_existing (h : Unmerged py calls index) {identityId : String}
    (hlive : identityId ∈ index.identities)
    {facts : RuntimeIdentitySignals}
    (hfacts : accumulatedFacts (index.callsOf calls identityId) = some facts)
    (hscore : 85 ≤ identityMatchScore facts call.signals) :
    identityId ∈ (index.identityMatches py call).existing := by
  obtain ⟨hmatches, -, -⟩ := identityMatches_spec h.filed.settled py call
  obtain ⟨hcontacts, hprovider⟩ := exists_call_of_accumulatedFacts hfacts
  -- A key of the call that one of the identity's calls has, too.
  have hshared : ∀ other ∈ index.callsOf calls identityId, ∀ key,
      key ∈ contactKeys other.signals ++ providerKeys other.signals →
        key ∈ contactKeys call.signals ++ providerKeys call.signals →
          identityId ∈ (index.identityMatches py call).existing := by
    intro other hother key hkey hkey'
    obtain ⟨hmem, hid⟩ := List.mem_filter.mp hother
    obtain ⟨owner, hresume, -, hkeys⟩ := h.filed.filed other hmem
    rw [identityForResumeId_eq h.filed.settled hresume, decide_eq_true_eq, Option.some.injEq] at hid
    rw [hid] at hkeys
    exact (hmatches identityId).mpr (.inl ((mem_existingIdentityIds h.filed.settled identityId).mpr
      (.inl ⟨key, mem_identityKeys_of_hard py hkey',
        hkeys key (mem_identityKeys_of_hard py hkey)⟩)))
  have hstored : index.signalsByIdentityId.lookup identityId = some facts :=
    (h.signals identityId).trans hfacts
  unfold identityMatchScore at hscore
  by_cases hcontact : shareElement facts.protectedContactHashes
    call.signals.protectedContactHashes = true
  · obtain ⟨hash, hleft, hright⟩ := List.any_eq_true.mp hcontact
    obtain ⟨other, hother, hmem⟩ := hcontacts hash hleft
    exact hshared other hother _ (List.mem_append_left _ (mem_contactKeys.mpr ⟨hash, hmem, rfl⟩))
      (List.mem_append_left _ (mem_contactKeys.mpr ⟨hash, of_decide_eq_true hright, rfl⟩))
  by_cases hsame : truthyText facts.providerCandidateKeyHash ∧
      facts.providerCandidateKeyHash = call.signals.providerCandidateKeyHash
  · obtain ⟨htruthy, heq⟩ := hsame
    obtain ⟨other, hother, hhash⟩ := hprovider htruthy
    cases hfact : facts.providerCandidateKeyHash with
    | none =>
      rw [hfact] at htruthy
      cases htruthy
    | some hash =>
      have hne : hash ≠ "" := by
        rw [hfact] at htruthy
        simpa [truthyText] using htruthy
      exact hshared other hother _
        (List.mem_append_right _ (mem_providerKeys.mpr ⟨hash, hhash.trans hfact, hne, rfl⟩))
        (List.mem_append_right _ (mem_providerKeys.mpr ⟨hash, heq.symm.trans hfact, hne, rfl⟩))
  rw [if_neg hcontact, if_neg hsame] at hscore
  by_cases hmasked : (facts.isMaskedName || call.signals.isMaskedName) = true
  · rw [if_pos hmasked] at hscore
    omega
  rw [if_neg hmasked] at hscore
  by_cases hname : (!truthyText facts.normalizedName ||
    facts.normalizedName ≠ call.signals.normalizedName) = true
  · rw [if_pos hname] at hscore
    omega
  rw [if_neg hname] at hscore
  have hstrong : 85 ≤ identityMatchScore facts call.signals := by
    unfold identityMatchScore
    rw [if_neg hcontact, if_neg hsame, if_neg hmasked, if_neg hname]
    exact hscore
  -- Both names are visible, and the same.
  simp only [Bool.or_eq_true, not_or, Bool.not_eq_true, Bool.not_eq_false', decide_eq_true_eq,
    not_not] at hmasked hname
  obtain ⟨name, hname'⟩ : ∃ name, facts.normalizedName = some name := by
    cases hfact : facts.normalizedName with
    | none =>
      rw [hfact] at hname
      cases hname.1
    | some name => exact ⟨name, rfl⟩
  have hbucket : facts.fuzzyBucketName = some name := by
    unfold RuntimeIdentitySignals.fuzzyBucketName
    rw [hmasked.1, hname.1, hname']
    rfl
  have hbucket' : call.signals.fuzzyBucketName = some name := by
    unfold RuntimeIdentitySignals.fuzzyBucketName
    rw [hmasked.2, ← hname.2, hname.1, hname']
    rfl
  obtain ⟨identityIds, hids, hmem⟩ := h.complete identityId facts name hstored hbucket
  have hcandidate : identityId ∈ index.candidateFuzzyIdentityIds call.signals := by
    unfold candidateFuzzyIdentityIds
    rw [hbucket']
    dsimp only
    rw [hids, Option.getD_some]
    exact List.mem_map.mpr ⟨identityId, hmem, (h.filed.settled.aliases "").canonical_eq hlive⟩
  exact (hmatches identityId).mpr (.inr ⟨hcandidate, facts, hstored, hstrong⟩)

/-- A run keeps all signals exactly if none of its calls merges an identity away. -/
theorem keepsSignals_iff (py : PythonRuntime) (calls : List CandidateUpsert)
    (hinj : HashInjectiveOn py calls) : KeepsSignals py calls ↔ NeverMerges py calls := by
  constructor
  · intro h earlier call later hsplit index hrun x hx
    have hinj' : HashInjectiveOn py (earlier ++ [call]) := by
      refine hinj.of_subset fun c hc => ?_
      rw [hsplit, List.append_cons]
      exact List.mem_append_left _ hc
    obtain ⟨index', hrun', hfiled⟩ :=
      callsFiled_afterUpserts (hinj'.of_subset fun c hc => List.mem_append_left _ hc)
    obtain rfl : index' = index := Except.ok.inj (hrun'.symm.trans hrun)
    obtain ⟨after, identity, hcall, -, hup, -⟩ := exists_upserted hfiled hinj'
    obtain ⟨after', hafter, hkept, -⟩ :=
      h (earlier ++ [call]) later (by rw [hsplit, List.append_cons])
    obtain rfl : after' = after :=
      Except.ok.inj (hafter.symm.trans (afterUpserts_concat hrun hcall))
    by_contra hne
    -- The signals of an identity that is merged away stay where they are.
    have hsigned : x ∈ index'.signalsByIdentityId :=
      signing_afterUpserts (hinj'.of_subset fun c hc => List.mem_append_left _ hc) hrun x
        (hup.existing_live x hx)
    have hstale : x ∈ after'.signalsByIdentityId := by
      rw [← AList.lookup_isSome, hup.signed.others x hne, AList.lookup_isSome]
      exact hsigned
    obtain heq | ⟨-, hnot⟩ := (hup.live x).mp (hkept.owners_live x hstale)
    · exact hne heq
    · exact hnot hx
  · intro hnever earlier rest hsplit
    have hsub : ∀ c ∈ earlier, c ∈ calls := by
      intro c hc
      rw [hsplit]
      exact List.mem_append_left _ hc
    have hearlier : NeverMerges py earlier := by
      intro before other later hbefore
      refine hnever before other (later ++ rest) ?_
      rw [hsplit, hbefore, List.append_assoc, List.cons_append]
    obtain ⟨index, hrun, h⟩ := unmerged_afterUpserts (hinj.of_subset hsub) hearlier
    refine ⟨index, hrun, h.signalsKept, fun call later hrest => ?_⟩
    have hinj' : HashInjectiveOn py (earlier ++ [call]) := by
      refine hinj.of_subset fun c hc => ?_
      rw [hsplit, hrest, List.append_cons]
      exact List.mem_append_left _ hc
    obtain ⟨after, identity, hcall, hid, hup, -⟩ := exists_upserted h.filed hinj'
    refine ⟨after, identity, hcall, fun identityId hlive facts hfacts hscore => ?_⟩
    have hfound := h.mem_existing hlive hfacts hscore
    have htarget := hnever earlier call later (by rw [hsplit, hrest]) index hrun identityId hfound
    rw [hid, ← htarget, canonicalIdentityId, hup.aliases, if_pos htarget, Option.getD_some,
      ← htarget]

/-- The digests of the provider keys below. -/
def profileDigests : PythonRuntime where
  casefold := id
  sha256Hexdigest value :=
    if value = "provider:pa".toUTF8.data.toList then
      "29e87498df938e9d56b879d0431dcbf9546471602d7443600b3f5defef64bb0c"
    else if value = "provider:pd".toUTF8.data.toList then
      "942aeb002d68f0b269f0ff982c406273bb480e2a03ac7874872f55c7757aef37"
    else "5b867f41e8118d82a56a97a8a61a44b62eee15bacf0639c3645f48152d9b31c6"

/-- The profile of one person at a provider. -/
def profileAt (provider : String) : RuntimeIdentitySignals where
  normalizedName := some "alice chen"
  currentCompanyNorm := some "acme"
  currentTitleNorm := some "engineer"
  schoolNorms := ["tsinghua"]
  providerCandidateKeyHash := some provider

/-- The signals of a masked observation: nothing but the key at a provider. -/
def maskedAt (provider : String) : RuntimeIdentitySignals where
  isMaskedName := true
  providerCandidateKeyHash := some provider

/-- A profile, a masked observation, and a masked observation that joins the two. -/
def joinedProfile : List CandidateUpsert :=
  [⟨"a", "evidence-a", profileAt "pd"⟩, ⟨"b", "evidence-b", maskedAt "pa"⟩,
    ⟨"b", "evidence-b-detail", maskedAt "pd"⟩]

/-- The same profile at a third provider. -/
def secondProfile : CandidateUpsert :=
  ⟨"d", "evidence-d", profileAt "pz"⟩

/-- A run with one masked observation keeps its signals, as it merges nobody away. -/
theorem keepsSignals_iff_masked :
    KeepsSignals profileDigests [⟨"b", "evidence-b", maskedAt "pa"⟩] ↔
      NeverMerges profileDigests [⟨"b", "evidence-b", maskedAt "pa"⟩] :=
  keepsSignals_iff profileDigests [⟨"b", "evidence-b", maskedAt "pa"⟩] (by decide +kernel)

/-- The identity of the profile is merged into that of the masked observation, which learns nothing
of it; the second profile matches the first one, and becomes an identity of its own. -/
theorem joinedProfile_lost :
    HashInjectiveOn profileDigests (joinedProfile ++ [secondProfile]) ∧
    ¬ KeepsSignals profileDigests (joinedProfile ++ [secondProfile]) ∧
    85 ≤ identityMatchScore (profileAt "pd") secondProfile.signals ∧
    (afterUpserts profileDigests (joinedProfile ++ [secondProfile])).toOption.map (fun index =>
      (index.identityForResumeId "a", index.identityForResumeId "b",
        index.identityForResumeId "d")) =
        some (some "identity-29e87498df938e9d", some "identity-29e87498df938e9d",
          some "identity-5b867f41e8118d82") := by
  refine ⟨by decide +kernel, fun h => ?_, by decide +kernel, by decide +kernel⟩
  obtain ⟨index, hrun, hkept, -⟩ := h joinedProfile [secondProfile] rfl
  have hstale : (afterUpserts profileDigests joinedProfile).toOption.map (fun index =>
      decide ("identity-942aeb002d68f0b2" ∈ index.signalsByIdentityId ∧
        "identity-942aeb002d68f0b2" ∉ index.identities)) = some true := by
    decide +kernel
  rw [hrun] at hstale
  obtain ⟨howner, hnot⟩ := of_decide_eq_true (Option.some.inj hstale)
  exact hnot (hkept.owners_live _ howner)

end RuntimeCandidateIdentityIndex

end SeekTalent.SourceLanes
