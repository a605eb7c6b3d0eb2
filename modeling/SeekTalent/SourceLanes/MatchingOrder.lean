import SeekTalent.SourceLanes.IdentityClasses

/-!
# Matching that does not depend on the order

Fuzzy matching compares a call with whatever signals an identity has accumulated, and what it has
accumulated depends on the order of the calls: the first value of a field wins, and the signals of
an identity that is merged away are lost.  `MatchesConsistently` says that none of this decides a
match: against all signals that the calls of a class can accumulate, in whatever order, a call of
another class stays below the score of a merge, and two calls of one class that no chain of keys
joins reach it. Then the identities are the classes (`sameOwner_iff`), whatever the order was.
-/

namespace SeekTalent.SourceLanes

open Foundation Dict IdentityFiling RuntimeCandidateIdentityIndex

variable {py : PythonRuntime}
variable {left right : CandidateUpsert} {calls : List CandidateUpsert}

/-- The two calls share a key of the index, the resume or the evidence row. -/
def SharesIndexKey (py : PythonRuntime) (left right : CandidateUpsert) : Prop :=
  left.resumeId = right.resumeId ∨ left.evidenceId = right.evidenceId ∨
    ∃ key, key ∈ identityKeys py left.signals left.evidenceId ∧
      key ∈ identityKeys py right.signals right.evidenceId

/-- The two signals are in one bucket and reach the score of a merge. -/
def FuzzyMatch (left right : RuntimeIdentitySignals) : Prop :=
  (∃ name, left.fuzzyBucketName = some name ∧ right.fuzzyBucketName = some name) ∧
    85 ≤ identityMatchScore left right

/-- The two calls share a key, or the signals of one match those of the other. -/
def SamePerson (py : PythonRuntime) (left right : CandidateUpsert) : Prop :=
  SharesIndexKey py left right ∨ FuzzyMatch left.signals right.signals ∨
    FuzzyMatch right.signals left.signals

/-- The calls of the list that a chain of keys and matches joins to the call. -/
def ClassOf (py : PythonRuntime) (calls : List CandidateUpsert) (call other : CandidateUpsert) :
    Prop :=
  other ∈ calls ∧ Linked (SamePerson py) calls call other

/-- The signals that an identity can accumulate from calls of a class: those of a first call, those
of a contact that a new identity was opened for, and further calls on top. -/
inductive Accumulated (members : CandidateUpsert → Prop) : RuntimeIdentitySignals → Prop
  | first (call : CandidateUpsert) (hcall : members call) : Accumulated members call.signals
  | afresh (call : CandidateUpsert) (hcall : members call)
      (hcontact : call.signals.protectedContactHashes ≠ []) :
      Accumulated members (mergeKnownSignals {} call.signals)
  | more (signals : RuntimeIdentitySignals) (call : CandidateUpsert)
      (hsignals : Accumulated members signals) (hcall : members call) :
      Accumulated members (mergeKnownSignals signals call.signals)

/-- Whatever a class accumulates, the calls of other classes do not match it, and the calls of the
class that no chain of keys joins do. -/
structure MatchesConsistently (py : PythonRuntime) (calls : List CandidateUpsert) : Prop where
  apart : ∀ left ∈ calls, ∀ right ∈ calls, ¬ Linked (SamePerson py) calls left right →
    ∀ signals, Accumulated (ClassOf py calls left) signals →
      identityMatchScore signals right.signals < 85
  together : ∀ left ∈ calls, ∀ right ∈ calls, Linked (SamePerson py) calls left right →
    ¬ Linked (SharesIndexKey py) calls left right →
      ∀ signals, Accumulated (ClassOf py calls left) signals → FuzzyMatch signals right.signals

lemma SharesIndexKey.symm (h : SharesIndexKey py left right) :
    SharesIndexKey py right left := by
  rcases h with hresume | hevidence | ⟨key, hleft, hright⟩
  · exact Or.inl hresume.symm
  · exact Or.inr (Or.inl hevidence.symm)
  · exact Or.inr (Or.inr ⟨key, hright, hleft⟩)

lemma SamePerson.symm (h : SamePerson py left right) :
    SamePerson py right left := by
  rcases h with hkey | hleft | hright
  · exact Or.inl hkey.symm
  · exact Or.inr (Or.inr hleft)
  · exact Or.inr (Or.inl hright)

/-- A larger class accumulates more. -/
lemma Accumulated.mono {members members' : CandidateUpsert → Prop}
    {signals : RuntimeIdentitySignals}
    (h : Accumulated members signals) (hsub : ∀ call, members call → members' call) :
    Accumulated members' signals := by
  induction h with
  | first call hcall => exact .first call (hsub call hcall)
  | afresh call hcall hcontact => exact .afresh call (hsub call hcall) hcontact
  | more signals call _ hcall ih => exact .more signals call ih (hsub call hcall)

/-- Linked calls are in one class. -/
lemma classOf_of_linked (h : Linked (SamePerson py) calls left right) (call : CandidateUpsert)
    (hcall : ClassOf py calls left call) : ClassOf py calls right call :=
  ⟨hcall.1, (h.symm SamePerson.symm).trans hcall.2⟩

/-- Linking reads which calls there are, not their order. -/
lemma linked_perm {shares : CandidateUpsert → CandidateUpsert → Prop}
    {calls' : List CandidateUpsert} (hperm : calls.Perm calls') (left right : CandidateUpsert) :
    Linked shares calls left right ↔ Linked shares calls' left right :=
  ⟨fun h => h.mono (fun _ hw => hperm.mem_iff.mp hw), fun h =>
    h.mono (fun _ hw => hperm.mem_iff.mpr hw)⟩

/-- Consistent matching reads which calls there are, not their order. -/
lemma MatchesConsistently.perm {calls' : List CandidateUpsert} (hperm : calls.Perm calls')
    (h : MatchesConsistently py calls) : MatchesConsistently py calls' := by
  have hclass : ∀ left call, ClassOf py calls' left call → ClassOf py calls left call :=
    fun left call hcall => ⟨hperm.mem_iff.mpr hcall.1, (linked_perm hperm left call).mpr hcall.2⟩
  constructor
  · intro left hleft right hright hnot signals hsignals
    refine h.apart left (hperm.mem_iff.mpr hleft) right (hperm.mem_iff.mpr hright) ?_ signals
      (hsignals.mono (hclass left))
    rwa [linked_perm hperm]
  · intro left hleft right hright hlinked hnot signals hsignals
    refine h.together left (hperm.mem_iff.mpr hleft) right (hperm.mem_iff.mpr hright) ?_ ?_ signals
      (hsignals.mono (hclass left))
    · rwa [linked_perm hperm]
    · rwa [linked_perm hperm]

/-! ## What a sequence of consistent calls keeps -/

/-- The index after some of the calls, while all calls match consistently. -/
structure ClassesFiled (py : PythonRuntime) (all calls : List CandidateUpsert)
    (index : RuntimeCandidateIdentityIndex) : Prop where
  filed : CallsFiled py calls index
  signed : ∀ identityId ∈ index.identities, ∃ signals,
    index.signalsByIdentityId.lookup identityId = some signals
  signed_known : ∀ identityId signals, index.signalsByIdentityId.lookup identityId = some signals →
    ∃ owner, index.aliasToCanonicalId.lookup identityId = some owner
  complete : index.BucketsComplete
  accumulated : ∀ identityId signals owner,
    index.signalsByIdentityId.lookup identityId = some signals →
      index.aliasToCanonicalId.lookup identityId = some owner →
        ∀ call ∈ calls, index.resumeIdToIdentityId.lookup call.resumeId = some owner →
          Accumulated (ClassOf py all call) signals
  sameClass : ∀ left ∈ calls, ∀ right ∈ calls, ∀ owner,
    index.resumeIdToIdentityId.lookup left.resumeId = some owner →
      index.resumeIdToIdentityId.lookup right.resumeId = some owner →
        Linked (SamePerson py) all left right
  connected : ∀ left ∈ calls, ∀ right ∈ calls, Linked (SamePerson py) all left right →
    ¬ Linked (SharesIndexKey py) all left right →
      index.resumeIdToIdentityId.lookup left.resumeId =
        index.resumeIdToIdentityId.lookup right.resumeId

variable {all calls : List CandidateUpsert} {index : RuntimeCandidateIdentityIndex}
  {call : CandidateUpsert}

/-- A live identity has a call. -/
lemma CallsFiled.exists_call (h : CallsFiled py calls index) {x owner : String}
    (hlookup : index.aliasToCanonicalId.lookup x = some owner) :
    ∃ c ∈ calls, index.resumeIdToIdentityId.lookup c.resumeId = some owner := by
  obtain ⟨c, hc, -, hkey⟩ := h.named x owner hlookup
  obtain ⟨owner', hresume, -, hkeys⟩ := h.filed c hc
  have hprimary := hkeys _ (primaryIdentityKey_mem py c.signals c.evidenceId)
  obtain rfl : owner' = owner := Option.some.inj (hprimary.symm.trans hkey)
  exact ⟨c, hc, hresume⟩

/-- Who was found shares a key with an earlier call of the identity. -/
lemma CallsFiled.exists_sharing (h : CallsFiled py calls index) {owner : String}
    (hmem : owner ∈ index.existingIdentityIds py call) :
    ∃ earlier ∈ calls, index.resumeIdToIdentityId.lookup earlier.resumeId = some owner ∧
      SharesIndexKey py earlier call := by
  rcases (mem_existingIdentityIds h.settled owner).mp
    hmem with ⟨key, hkey, hfound⟩ | hfound | hfound
  · obtain ⟨earlier, hearlier, hkey'⟩ := h.key_seen key owner hfound
    obtain ⟨owner', hresume, -, hkeys⟩ := h.filed earlier hearlier
    obtain rfl : owner' = owner := Option.some.inj ((hkeys key hkey').symm.trans hfound)
    exact ⟨earlier, hearlier, hresume, Or.inr (Or.inr ⟨key, hkey', hkey⟩)⟩
  · obtain ⟨earlier, hearlier, hsame⟩ := h.resume_seen _ owner hfound
    exact ⟨earlier, hearlier, by rw [hsame, hfound], Or.inl hsame⟩
  · obtain ⟨earlier, hearlier, hsame⟩ := h.evidence_seen _ owner hfound
    obtain ⟨owner', hresume, hevidence, -⟩ := h.filed earlier hearlier
    rw [hsame, hfound] at hevidence
    obtain rfl := Option.some.inj hevidence
    exact ⟨earlier, hearlier, hresume, Or.inr (Or.inl hsame)⟩

/-- Calls that share a key of the index have one owner. -/
lemma CallsFiled.owner_eq_of_shares (h : CallsFiled py calls index)
    (hleft : left ∈ calls) (hright : right ∈ calls) (hshares : SharesIndexKey py left right) :
    index.resumeIdToIdentityId.lookup left.resumeId =
      index.resumeIdToIdentityId.lookup right.resumeId := by
  obtain ⟨leftOwner, hleftResume, hleftEvidence, hleftKeys⟩ := h.filed left hleft
  obtain ⟨rightOwner, hrightResume, hrightEvidence, hrightKeys⟩ := h.filed right hright
  rcases hshares with hresume | hevidence | ⟨key, hl, hr⟩
  · rw [hresume]
  · rw [hevidence] at hleftEvidence
    rw [hleftResume, hrightResume, ← hleftEvidence, ← hrightEvidence]
  · rw [hleftResume, hrightResume, ← hleftKeys key hl, ← hrightKeys key hr]

/-- Whoever a call finds is of its class. -/
lemma ClassesFiled.linked_of_existing (h : ClassesFiled py all calls index)
    (hconsistent : MatchesConsistently py all) (hcalls : ∀ c ∈ calls, c ∈ all) (hcall : call ∈ all)
    {owner : String} {other : CandidateUpsert} (hother : other ∈ calls)
    (hresume : index.resumeIdToIdentityId.lookup other.resumeId = some owner)
    (hfound : owner ∈ index.existingIdentityIds py call ∨ index.StrongMatch call.signals owner) :
    Linked (SamePerson py) all other call := by
  rcases hfound with hexisting | ⟨signals, hsignals, hscore⟩
  · obtain ⟨earlier, hearlier, hearlierResume, hshares⟩ := h.filed.exists_sharing hexisting
    exact (h.sameClass other hother earlier hearlier owner hresume hearlierResume).trans
      (Linked.of_shares (hcalls earlier hearlier) hcall (Or.inl hshares))
  · by_contra hnot
    obtain ⟨identity, hidentity, -⟩ := (h.filed.settled.members.resumes _ owner).mp hresume
    have hlive : owner ∈ index.identities := AList.lookup_isSome.mp (by rw [hidentity]; rfl)
    have haccumulated := h.accumulated owner signals owner hsignals
      ((h.filed.settled.aliases "").self owner hlive) other hother hresume
    have hlow := hconsistent.apart other (hcalls other hother) call hcall hnot signals haccumulated
    omega

/-- The signals of the target after a call are accumulated from its class. -/
lemma ClassesFiled.accumulated_target (h : ClassesFiled py all calls index) (hcall : call ∈ all)
    {after : RuntimeCandidateIdentityIndex} {existing : List String} {target : String}
    (hup : Upserted py index after call existing target)
    (hlinked : ∀ c ∈ calls, ∀ owner ∈ existing,
      index.resumeIdToIdentityId.lookup c.resumeId = some owner →
        Linked (SamePerson py) all c call) :
    ∃ signals, after.signalsByIdentityId.lookup target = some signals ∧
      Accumulated (ClassOf py all call) signals := by
  have hself : ClassOf py all call call := ⟨hcall, Relation.ReflTransGen.refl⟩
  refine ⟨_, hup.signed.target, ?_⟩
  cases hbefore : index.signalsByIdentityId.lookup target with
  | some signals =>
    -- the target was known, and what it stood for was found
    obtain ⟨owner, howner⟩ := h.signed_known target signals hbefore
    obtain ⟨c, hc, hresume⟩ := h.filed.exists_call howner
    have hchain := hlinked c hc owner (hup.revived owner howner) hresume
    have haccumulated := (h.accumulated target signals owner hbefore howner c hc hresume).mono
      (classOf_of_linked hchain)
    split <;> exact .more signals call haccumulated hself
  | none =>
    split
    · exact .first call hself
    · rename_i hmerged
      -- something was merged into a new identity: the call has a contact
      refine .afresh call hself (fun hnone => hmerged ?_)
      have hnew : target ∉ index.identities := by
        intro hlive
        obtain ⟨signals, hsignals⟩ := h.signed target hlive
        rw [hbefore] at hsignals
        cases hsignals
      intro x hx
      have htarget := hup.target_eq
      unfold targetIdentityId at htarget
      rw [hnone] at htarget
      cases hsorted : sortedTexts existing with
      | nil =>
        rw [← mem_sortedTexts, hsorted] at hx
        cases hx
      | cons first rest =>
        rw [hsorted] at htarget
        have hfirst : first ∈ existing := by
          rw [← mem_sortedTexts, hsorted]
          exact List.mem_cons_self
        have hsame : target = first := htarget
        exact absurd (hup.existing_live first hfirst) (hsame ▸ hnew)

/-- A consistent call keeps what the calls so far have established. -/
theorem ClassesFiled.upsert (h : ClassesFiled py all calls index)
    (hconsistent : MatchesConsistently py all) (hinj : HashInjectiveOn py (calls ++ [call]))
    (hcalls : ∀ c ∈ calls, c ∈ all) (hcall : call ∈ all) :
    ∃ after identity, index.upsertCandidate py call = .ok (after, identity) ∧
      ClassesFiled py all (calls ++ [call]) after := by
  obtain ⟨after, identity, existing, target, hrun, -, hup, hfiled⟩ := h.filed.upsert hinj
  have hsettled := h.filed.settled
  have hfound : ∀ c ∈ calls, ∀ owner ∈ existing,
      index.resumeIdToIdentityId.lookup c.resumeId = some owner →
        Linked (SamePerson py) all c call := by
    intro c hc owner howner hresume
    exact h.linked_of_existing hconsistent hcalls hcall hc hresume
      ((hup.soft owner howner).imp id And.right)
  have hcallResume : after.resumeIdToIdentityId.lookup call.resumeId = some target := by
    rw [hup.resumes, if_pos rfl]
  -- an earlier call that now belongs to the target is of the class of this call
  have htoCall : ∀ c ∈ calls, after.resumeIdToIdentityId.lookup c.resumeId = some target →
      Linked (SamePerson py) all c call := by
    intro c hc hafter
    obtain ⟨owner, hresume, -, -⟩ := h.filed.filed c hc
    rw [hup.resume_of_before hsettled hresume, Option.some.injEq] at hafter
    exact hfound c hc owner (h.filed.mem_of_redirect hup.revived hresume hafter) hresume
  have hunmoved : ∀ before owner, owner ≠ target → redirect existing target before = owner →
      before = owner := by
    intro before owner hne hredirect
    unfold redirect at hredirect
    split at hredirect
    · exact absurd hredirect.symm hne
    · exact hredirect
  have hsame : ∀ left ∈ calls ++ [call], ∀ right ∈ calls ++ [call], ∀ owner,
      after.resumeIdToIdentityId.lookup left.resumeId = some owner →
        after.resumeIdToIdentityId.lookup right.resumeId = some owner →
          Linked (SamePerson py) all left right := by
    intro left hleft right hright owner hleftOwner hrightOwner
    rcases List.mem_append.mp hleft with hleft | hleft <;>
      rcases List.mem_append.mp hright with hright | hright
    · by_cases howner : owner = target
      · subst howner
        exact (htoCall left hleft hleftOwner).trans
          ((htoCall right hright hrightOwner).symm SamePerson.symm)
      · obtain ⟨leftBefore, hleftBefore, -, -⟩ := h.filed.filed left hleft
        obtain ⟨rightBefore, hrightBefore, -, -⟩ := h.filed.filed right hright
        rw [hup.resume_of_before hsettled hleftBefore, Option.some.injEq] at hleftOwner
        rw [hup.resume_of_before hsettled hrightBefore, Option.some.injEq] at hrightOwner
        rw [hunmoved leftBefore owner howner hleftOwner] at hleftBefore
        rw [hunmoved rightBefore owner howner hrightOwner] at hrightBefore
        exact h.sameClass left hleft right hright owner hleftBefore hrightBefore
    · rw [List.mem_singleton.mp hright] at hrightOwner ⊢
      obtain rfl : target = owner := Option.some.inj (hcallResume.symm.trans hrightOwner)
      exact htoCall left hleft hleftOwner
    · rw [List.mem_singleton.mp hleft] at hleftOwner ⊢
      obtain rfl : target = owner := Option.some.inj (hcallResume.symm.trans hleftOwner)
      exact (htoCall right hright hrightOwner).symm SamePerson.symm
    · rw [List.mem_singleton.mp hleft, List.mem_singleton.mp hright]
      exact Relation.ReflTransGen.refl
  obtain ⟨newSignals, hnewSignals, hnewAccumulated⟩ := h.accumulated_target hcall hup hfound
  -- an earlier call of the class that no chain of keys joins to this one matches it
  have hmatched : ∀ c ∈ calls, Linked (SamePerson py) all c call →
      ¬ Linked (SharesIndexKey py) all c call →
        after.resumeIdToIdentityId.lookup c.resumeId = some target := by
    intro c hc hlinked hnot
    obtain ⟨owner, hresume, -, -⟩ := h.filed.filed c hc
    obtain ⟨stored, hidentity, -⟩ := (hsettled.members.resumes _ owner).mp hresume
    have hlive : owner ∈ index.identities := AList.lookup_isSome.mp (by rw [hidentity]; rfl)
    have hself := (hsettled.aliases "").self owner hlive
    obtain ⟨signals, hsignals⟩ := h.signed owner hlive
    obtain ⟨⟨name, hname, hcallName⟩, hscore⟩ :=
      hconsistent.together c (hcalls c hc) call hcall hlinked
      hnot signals (h.accumulated owner signals owner hsignals hself c hc hresume)
    obtain ⟨identityIds, hbucket, hmem⟩ := h.complete owner signals name hsignals hname
    have hcandidate : owner ∈ index.candidateFuzzyIdentityIds call.signals := by
      unfold candidateFuzzyIdentityIds
      rw [hcallName]
      simp only [hbucket, Option.getD_some]
      exact List.mem_map.mpr ⟨owner, hmem, (hsettled.aliases "").canonical_eq hlive⟩
    rw [hup.resume_of_before hsettled hresume, redirect,
      if_pos (hup.strong owner hcandidate ⟨signals, hsignals, hscore⟩)]
  refine ⟨after, identity, hrun, ?_⟩
  constructor
  case filed => exact hfiled
  case signed =>
    intro identityId hlive
    by_cases htarget : identityId = target
    · exact ⟨newSignals, htarget ▸ hnewSignals⟩
    · rw [hup.signed.others identityId htarget]
      exact h.signed identityId (((hup.live identityId).mp hlive).resolve_left htarget).1
  case signed_known =>
    intro identityId signals hlookup
    by_cases htarget : identityId = target
    · exact ⟨target, by rw [hup.aliases, if_pos htarget]⟩
    · rw [hup.signed.others identityId htarget] at hlookup
      obtain ⟨owner, howner⟩ := h.signed_known identityId signals hlookup
      exact ⟨redirect existing target owner, by rw [hup.aliases, if_neg htarget, howner]; rfl⟩
  case complete => exact hup.signed.complete h.complete
  case accumulated =>
    intro identityId signals owner hlookup howner c hc hresume
    by_cases htarget : identityId = target
    · subst htarget
      obtain rfl : newSignals = signals := Option.some.inj (hnewSignals.symm.trans hlookup)
      rw [hup.aliases, if_pos rfl, Option.some.injEq] at howner
      subst howner
      exact hnewAccumulated.mono (classOf_of_linked
        (hsame call (by simp) c hc identityId hcallResume hresume))
    · rw [hup.signed.others identityId htarget] at hlookup
      rw [hup.aliases, if_neg htarget, Option.map_eq_some_iff] at howner
      obtain ⟨before, hbefore, hredirect⟩ := howner
      obtain ⟨earlier, hearlier, hearlierResume⟩ := h.filed.exists_call hbefore
      have hearlierAfter := hup.resume_of_before hsettled hearlierResume
      rw [hredirect] at hearlierAfter
      have hchain :=
        hsame earlier (List.mem_append_left _ hearlier) c hc owner hearlierAfter hresume
      exact (h.accumulated identityId signals before hlookup hbefore earlier hearlier
        hearlierResume).mono (classOf_of_linked hchain)
  case sameClass => exact hsame
  case connected =>
    intro left hleft right hright hlinked hnot
    rcases List.mem_append.mp hleft with hleft | hleft <;>
      rcases List.mem_append.mp hright with hright | hright
    · obtain ⟨owner, hleftResume, -, -⟩ := h.filed.filed left hleft
      have hrightResume := h.connected left hleft right hright hlinked hnot
      rw [hleftResume] at hrightResume
      rw [hup.resume_of_before hsettled hleftResume,
        hup.resume_of_before hsettled hrightResume.symm]
    · rw [List.mem_singleton.mp hright] at hlinked hnot ⊢
      rw [hmatched left hleft hlinked hnot, hcallResume]
    · rw [List.mem_singleton.mp hleft] at hlinked hnot ⊢
      rw [hmatched right hright (hlinked.symm SamePerson.symm)
        (fun hchain => hnot (hchain.symm SharesIndexKey.symm)), hcallResume]
    · rw [List.mem_singleton.mp hleft, List.mem_singleton.mp hright]

/-- A sequence of consistent calls files its classes. -/
theorem classesFiled_afterUpserts (hconsistent : MatchesConsistently py all)
    (hinj : HashInjectiveOn py calls) (hcalls : ∀ c ∈ calls, c ∈ all) :
    ∃ index, afterUpserts py calls = .ok index ∧ ClassesFiled py all calls index := by
  induction calls using List.reverseRecOn with
  | nil =>
    refine ⟨{}, rfl, callsFiled_nil py, ?_, ?_, ?_, ?_, ?_, ?_⟩ <;> simp [BucketsComplete]
  | append_singleton calls call ih =>
    obtain ⟨index, hrun, hfiled⟩ := ih (hinj.of_subset (by simp; tauto))
      (fun c hc => hcalls c (List.mem_append_left _ hc))
    obtain ⟨after, identity, hcall, hafter⟩ := hfiled.upsert hconsistent hinj
      (fun c hc => hcalls c (List.mem_append_left _ hc)) (hcalls call (by simp))
    exact ⟨after, afterUpserts_concat hrun hcall, hafter⟩

/-- What all the calls have established once they returned. -/
lemma ClassesFiled.of_run (hconsistent : MatchesConsistently py all) (hinj : HashInjectiveOn py all)
    (hrun : afterUpserts py all = .ok index) : ClassesFiled py all all index := by
  obtain ⟨filed, hfiledRun, hfiled⟩ := classesFiled_afterUpserts hconsistent hinj (fun c hc => hc)
  obtain rfl : filed = index := Except.ok.inj (hfiledRun.symm.trans hrun)
  exact hfiled

/-- After all the calls, two of them are filed under one identity exactly when they are of one
class. -/
theorem sameOwner_iff (h : ClassesFiled py all all index)
    (hleft : left ∈ all) (hright : right ∈ all) :
    index.resumeIdToIdentityId.lookup left.resumeId =
        index.resumeIdToIdentityId.lookup right.resumeId ↔
      Linked (SamePerson py) all left right := by
  constructor
  · intro hsame
    obtain ⟨owner, hleftOwner, -, -⟩ := h.filed.filed left hleft
    exact h.sameClass left hleft right hright owner hleftOwner (hsame ▸ hleftOwner)
  · intro hlinked
    by_cases hkeys : Linked (SharesIndexKey py) all left right
    · exact hkeys.agree (fun v hv w hw hshares => h.filed.owner_eq_of_shares hv hw hshares)
    · exact h.connected left hleft right hright hlinked hkeys

end SeekTalent.SourceLanes
