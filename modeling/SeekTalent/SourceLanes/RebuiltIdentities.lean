import SeekTalent.SourceLanes.IdentityClasses
import SeekTalent.SourceLanes.IdentityRebuild

/-!
# What a rebuild computes

A rebuild gives the index the observations of all resumes and then reads the result through three
more dictionaries.  The lemmas here say what these contain in terms of the index: the identity that
a call returned and the identity that its resume belongs to afterwards have the same canonical id,
so the owner of a resume is what the index says, the evidence of an identity is that of the resumes
it owns, and every live identity has a canonical resume.
-/

namespace SeekTalent.SourceLanes

open Foundation Dict IdentityFiling RuntimeCandidateIdentityIndex

variable {rt : ObservationRuntime} {sourceOrder : Dict String Int}

/-- The names that calls returned follow their resumes. -/
structure NamesFollow (calls : List CandidateUpsert) (index : RuntimeCandidateIdentityIndex)
    (named : Dict String String) : Prop where
  known : ∀ call ∈ calls, ∃ x owner, named.lookup call.resumeId = some x ∧
    index.aliasToCanonicalId.lookup x = some owner ∧
    index.resumeIdToIdentityId.lookup call.resumeId = some owner
  unseen : ∀ r, (∀ call ∈ calls, call.resumeId ≠ r) → named.lookup r = none

/-- Observing is upserting, and the names follow. -/
theorem observed {calls : List CandidateUpsert} (hinj : HashInjectiveOn rt.toPythonRuntime calls) :
    ∃ index named, calls.foldlM (observe rt) ({}, ∅) = .ok (index, named) ∧
      afterUpserts rt.toPythonRuntime calls = .ok index ∧
      CallsFiled rt.toPythonRuntime calls index ∧ NamesFollow calls index named := by
  induction calls using List.reverseRecOn with
  | nil => exact ⟨{}, ∅, rfl, rfl, callsFiled_nil _, by simp, by simp⟩
  | append_singleton calls call ih =>
    obtain ⟨index, named, hobserved, hrun, hfiled, hfollow⟩ := ih (hinj.of_subset (by simp; tauto))
    obtain ⟨after, identity, existing, target, hcall, hid, hup, hafter⟩ := hfiled.upsert hinj
    have hcallResume : after.resumeIdToIdentityId.lookup call.resumeId = some target := by
      rw [hup.resumes, if_pos rfl]
    have hstep : observe rt (index, named) call =
        .ok (after, named.insert call.resumeId target) := by
      rw [← hid, observe, hcall]
      rfl
    refine ⟨after, named.insert call.resumeId target, ?_, afterUpserts_concat hrun hcall, hafter,
      fun c hc => ?_, fun r hr => ?_⟩
    · rw [List.foldlM_append, hobserved]
      simp only [bind, Except.bind, List.foldlM_cons, hstep, List.foldlM_nil]
      rfl
    · by_cases hsame : c.resumeId = call.resumeId
      · exact ⟨target, target, by rw [hsame, AList.lookup_insert], by rw [hup.aliases, if_pos rfl],
          by rw [hsame, hcallResume]⟩
      · have hearlier : c ∈ calls := by
          rcases List.mem_append.mp hc with hearlier | hlast
          · exact hearlier
          · exact absurd (List.mem_singleton.mp hlast ▸ rfl) hsame
        obtain ⟨x, owner, hx, halias, hresume⟩ := hfollow.known c hearlier
        refine ⟨x, redirect existing target owner, by rw [lookup_insert_ite, if_neg hsame, hx], ?_,
          hup.resume_of_before hfiled.settled hresume⟩
        rw [hup.aliases]
        split
        · rename_i hxTarget
          rw [redirect, if_pos (hup.revived owner (hxTarget ▸ halias))]
        · rw [halias, Option.map_some]
    · rw [lookup_insert_ite, if_neg (fun heq => hr call (by simp) heq.symm)]
      exact hfollow.unseen r (fun c hc => hr c (List.mem_append_left _ hc))

/-! ## Canonical ids -/

/-- The last entries that mention an alias decide: all of them name one identity. -/
lemma lookup_foldl_aliases {x owner : String}
    (entries : List (Sigma fun _ : String => List String)) :
    ∀ start : Dict String String,
      (∀ entry ∈ entries, x = entry.1 ∨ x ∈ entry.2 → entry.1 = owner) →
      (start.lookup x = some owner ∨ ∃ entry ∈ entries, x = entry.1 ∨ x ∈ entry.2) →
      (entries.foldl (fun d entry => insertAll (d.insert entry.1 entry.1) entry.2 entry.1)
        start).lookup x = some owner := by
  induction entries with
  | nil => simp
  | cons first rest ih =>
    intro start hall hsome
    rw [List.foldl_cons]
    apply ih
    · exact fun entry hentry => hall entry (List.mem_cons_of_mem first hentry)
    · by_cases hfirst : x = first.1 ∨ x ∈ first.2
      · left
        have howner := hall first List.mem_cons_self hfirst
        rw [lookup_insertAll, lookup_insert_ite, ← howner]
        rcases hfirst with hself | hmem
        · simp [hself]
        · simp [hmem]
      · rw [not_or] at hfirst
        rw [lookup_insertAll, if_neg hfirst.2, lookup_insert_ite, if_neg hfirst.1]
        refine hsome.imp id (fun hentry => ?_)
        obtain ⟨entry, hmem, hmention⟩ := hentry
        rcases List.mem_cons.mp hmem with rfl | hrest
        · exact absurd hmention (not_or.mpr hfirst)
        · exact ⟨entry, hrest, hmention⟩

/-- The alias map read off the alias sets is the alias map of the index. -/
lemma aliasToCanonical_eq {index : RuntimeCandidateIdentityIndex} (h : index.Settled)
    {x owner : String} (hlookup : index.aliasToCanonicalId.lookup x = some owner) :
    (aliasToCanonical (aliasesByCanonical index)).lookup x = some owner := by
  have hlive := (h.aliases "").live_of_lookup hlookup
  have hkeys : ∀ j, j ∈ index.aliasesByCanonicalId.keys ↔ j ∈ index.identities := by
    intro j
    exact AList.mem_keys.symm.trans ((h.aliases "").listed j)
  have hentry : ∀ entry : Sigma fun _ : String => List String,
      entry ∈ (aliasesByCanonical index).entries →
        entry.1 ∈ index.identities ∧ entry.2 = index.aliasesFor entry.1 := by
    intro entry hentry
    have hvalue : (aliasesByCanonical index).lookup entry.1 = some entry.2 :=
      AList.mem_lookup_iff.mpr hentry
    rw [aliasesByCanonical, lookup_tabulate] at hvalue
    split at hvalue
    · rename_i hmem
      exact ⟨(hkeys _).mp hmem, (Option.some.inj hvalue).symm⟩
    · cases hvalue
  apply lookup_foldl_aliases
  · intro entry hmem hmention
    obtain ⟨hentryLive, hvalue⟩ := hentry entry hmem
    have hpoints : index.aliasToCanonicalId.lookup x = some entry.1 := by
      rcases hmention with rfl | hmember
      · exact (h.aliases "").self _ hentryLive
      · rw [hvalue] at hmember
        exact (mem_aliasesFor h hentryLive).mp hmember
    exact Option.some.inj (hpoints.symm.trans hlookup)
  · right
    have hstored : (aliasesByCanonical index).lookup owner = some (index.aliasesFor owner) := by
      rw [aliasesByCanonical, lookup_tabulate, if_pos ((hkeys owner).mpr hlive)]
    exact ⟨⟨owner, index.aliasesFor owner⟩, AList.mem_lookup_iff.mp hstored,
      Or.inr ((mem_aliasesFor h hlive).mpr hlookup)⟩

/-! ## The rebuilt state -/

/-- The resumes that an identity of the index owns, in the order in which they were seen. -/
def ownedResumes (state : ResumeStores) (index : RuntimeCandidateIdentityIndex)
    (identityId : String) : List String :=
  state.seenResumeIds.dedup.filter
    (fun r => index.resumeIdToIdentityId.lookup r = some identityId)

/-- The evidence rows of the resumes that an identity owns. -/
def ownedEvidence (state : ResumeStores) (index : RuntimeCandidateIdentityIndex)
    (identityId : String) : List RuntimeSourceEvidence :=
  (ownedResumes state index identityId).flatMap state.evidenceOf

/-- Selecting the pairs of one owner. -/
lemma flatMap_filter_owned {β : Type*} (resumes : List String) (owner : String → Option String)
    (j : String) (f : String → List β) :
    (((resumes.filterMap (fun r => (owner r).map (fun i => (r, i)))).filter (·.2 = j)).flatMap
      (fun entry => f entry.1)) = (resumes.filter (fun r => owner r = some j)).flatMap f := by
  induction resumes with
  | nil => rfl
  | cons r rest ih =>
    cases howner : owner r with
    | none => simp [howner, ih]
    | some i =>
      by_cases hij : i = j
      · simp [howner, hij, ih]
      · simp [howner, hij, ih]

/-- Every call is about a resume that was seen. -/
lemma mem_identityUpserts {state : ResumeStores} {call : CandidateUpsert} :
    call ∈ state.identityUpserts rt ↔
      call.resumeId ∈ state.seenResumeIds ∧ call ∈ state.resumeUpserts rt call.resumeId := by
  have hresume : ∀ r c, c ∈ state.resumeUpserts rt r → c.resumeId = r := by
    intro r c hc
    unfold ResumeStores.resumeUpserts at hc
    cases hcandidate : state.candidateStore.lookup r with
    | none => simp [hcandidate] at hc
    | some candidate =>
      simp only [hcandidate] at hc
      split at hc
      · rw [List.mem_singleton.mp hc]
      · obtain ⟨e, -, rfl⟩ := List.mem_map.mp hc
        rfl
  rw [ResumeStores.identityUpserts, List.mem_flatMap]
  constructor
  · rintro ⟨r, hr, hc⟩
    obtain rfl := hresume r call hc
    exact ⟨hr, hc⟩
  · rintro ⟨hr, hc⟩
    exact ⟨call.resumeId, hr, hc⟩

/-- What a rebuild computes, read off the index after all observations. -/
theorem rebuildIdentityState_spec (sourceOrder : Dict String Int) {state : ResumeStores}
    (hinj : HashInjectiveOn rt.toPythonRuntime (state.identityUpserts rt)) :
    ∃ index, afterUpserts rt.toPythonRuntime (state.identityUpserts rt) = .ok index ∧
      CallsFiled rt.toPythonRuntime (state.identityUpserts rt) index ∧
      ((∃ out, rebuildIdentityState rt sourceOrder state = .ok out) ↔
        ∀ identityId ∈ index.identities, ∃ evidence,
          identityEvidence rt sourceOrder (ownedEvidence state index identityId) = .ok evidence) ∧
      ∀ out, rebuildIdentityState rt sourceOrder state = .ok out →
        out.candidateIdentities = index.identities ∧
        out.identityAliasesByCanonicalId = aliasesByCanonical index ∧
        ∀ identityId identity, index.identities.lookup identityId = some identity →
          ∃ evidence,
            identityEvidence rt sourceOrder (ownedEvidence state index identityId) = .ok evidence ∧
            out.canonicalResumeByIdentityId.lookup identityId =
              some (chooseCanonicalResumeForIdentity rt state identityId identity.resumeIds
                evidence) := by
  obtain ⟨index, named, hobserved, hrun, hfiled, hfollow⟩ := observed hinj
  obtain ⟨owned, howned⟩ : ∃ owned, owned = state.seenResumeIds.dedup.filterMap (fun resumeId =>
      (index.resumeIdToIdentityId.lookup resumeId).map
          (fun identityId => (resumeId, identityId))) :=
    ⟨_, rfl⟩
  -- a resume belongs to the identity that the name its last call returned stands for
  have hnames : ∀ r, (named.lookup r).map (fun identityId =>
      (r, ((aliasToCanonical (aliasesByCanonical index)).lookup identityId).getD identityId)) =
        (index.resumeIdToIdentityId.lookup r).map (fun identityId => (r, identityId)) := by
    intro r
    by_cases hseen : ∃ call ∈ state.identityUpserts rt, call.resumeId = r
    · obtain ⟨call, hcall, rfl⟩ := hseen
      obtain ⟨x, owner, hx, halias, hresume⟩ := hfollow.known call hcall
      rw [hx, hresume, Option.map_some, Option.map_some,
        aliasToCanonical_eq hfiled.settled halias, Option.getD_some]
    · have hnone : named.lookup r = none :=
        hfollow.unseen r (fun call hcall heq => hseen ⟨call, hcall, heq⟩)
      have hnoOwner : index.resumeIdToIdentityId.lookup r = none := by
        cases hlookup : index.resumeIdToIdentityId.lookup r with
        | none => rfl
        | some owner =>
          obtain ⟨call, hcall, heq⟩ := hfiled.resume_seen r owner hlookup
          exact absurd ⟨call, hcall, heq⟩ hseen
      rw [hnone, hnoOwner]
      rfl
  have hitems : ∀ identityId, (owned.filter (·.2 = identityId)).flatMap
      (fun entry => state.evidenceOf entry.1) = ownedEvidence state index identityId := by
    intro identityId
    rw [howned]
    exact flatMap_filter_owned _ _ identityId state.evidenceOf
  have hrebuild : rebuildIdentityState rt sourceOrder state = (do
      let evidence ← tabulateM (owned.map (·.2)) (fun identityId =>
        identityEvidence rt sourceOrder (ownedEvidence state index identityId))
      .ok
        { candidateIdentities := index.identities
          identityAliasesByCanonicalId := aliasesByCanonical index
          identityConflicts := indexConflicts index
          candidateIdentityByResumeId := owned.foldl (fun d entry => d.insert entry.1 entry.2) ∅
          sourceEvidenceByIdentityId := evidence
          canonicalResumeByIdentityId := tabulate
            (index.identities.keys.filter (fun identityId =>
              ((index.identities.lookup identityId).map (·.resumeIds)).getD [] ≠ []))
            (fun identityId => chooseCanonicalResumeForIdentity rt state identityId
              (((index.identities.lookup identityId).map (·.resumeIds)).getD [])
              ((evidence.lookup identityId).getD [])) }) := by
    unfold rebuildIdentityState
    rw [hobserved]
    simp only [bind, Except.bind, hnames, ← howned, hitems]
  -- the identities with evidence are the live ones
  have hlive : ∀ identityId, identityId ∈ owned.map (·.2) ↔ identityId ∈ index.identities := by
    intro identityId
    simp only [howned, List.mem_map, List.mem_filterMap, List.mem_dedup, Option.map_eq_some_iff]
    constructor
    · rintro ⟨_, ⟨r, -, owner, howner, rfl⟩, rfl⟩
      obtain ⟨identity, hidentity, -⟩ := (hfiled.settled.members.resumes r owner).mp howner
      exact AList.lookup_isSome.mp (by rw [hidentity]; rfl)
    · intro hidentity
      obtain ⟨call, hcall, -, hkey⟩ :=
        hfiled.named identityId identityId ((hfiled.settled.aliases "").self identityId hidentity)
      obtain ⟨owner, hresume, -, hkeys⟩ := hfiled.filed call hcall
      have hprimary := hkeys _ (primaryIdentityKey_mem _ call.signals call.evidenceId)
      obtain rfl : owner = identityId := Option.some.inj (hprimary.symm.trans hkey)
      exact ⟨(call.resumeId, owner),
        ⟨call.resumeId, (mem_identityUpserts.mp hcall).1, owner, hresume, rfl⟩, rfl⟩
  refine ⟨index, hrun, hfiled, ?_, ?_⟩
  · rw [hrebuild]
    constructor
    · rintro ⟨out, hout⟩ identityId hidentity
      obtain ⟨evidence, hevidence, -⟩ := bind_eq_ok.mp hout
      obtain ⟨rows, hrows, -⟩ :=
        (lookup_of_tabulateM hevidence identityId).1 ((hlive _).mpr hidentity)
      exact ⟨rows, hrows⟩
    · intro hall
      obtain ⟨evidence, hevidence⟩ :=
        exists_tabulateM (fun identityId hmem => hall identityId ((hlive identityId).mp hmem))
      exact ⟨_, bind_eq_ok.mpr ⟨evidence, hevidence, rfl⟩⟩
  · intro out hout
    rw [hrebuild] at hout
    obtain ⟨evidence, hevidence, hout⟩ := bind_eq_ok.mp hout
    cases hout
    refine ⟨rfl, rfl, fun identityId identity hidentity => ?_⟩
    have hidentityLive : identityId ∈ index.identities :=
      AList.lookup_isSome.mp (by rw [hidentity]; rfl)
    obtain ⟨rows, hrows, hstored⟩ :=
      (lookup_of_tabulateM hevidence identityId).1 ((hlive _).mpr hidentityLive)
    have hnonempty : identity.resumeIds ≠ [] := by
      obtain ⟨entry, hentry, hsecond⟩ := List.mem_map.mp ((hlive identityId).mpr hidentityLive)
      simp only [howned, List.mem_filterMap, Option.map_eq_some_iff] at hentry
      obtain ⟨r, -, owner, howner, rfl⟩ := hentry
      obtain ⟨stored, hstoredIdentity, hmem⟩ := (hfiled.settled.members.resumes r owner).mp howner
      obtain rfl : owner = identityId := hsecond
      obtain rfl : stored = identity := Option.some.inj (hstoredIdentity.symm.trans hidentity)
      exact List.ne_nil_of_mem hmem
    refine ⟨rows, hrows, ?_⟩
    have hmember : identityId ∈ index.identities.keys.filter (fun identityId =>
        ((index.identities.lookup identityId).map (·.resumeIds)).getD [] ≠ []) := by
      exact List.mem_filter.mpr ⟨AList.mem_keys.mp hidentityLive, by simp [hidentity, hnonempty]⟩
    rw [lookup_tabulate, if_pos hmember, hidentity, hstored]
    rfl

end SeekTalent.SourceLanes
