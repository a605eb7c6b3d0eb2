import SeekTalent.SourceLanes.KeptSignals

/-!
# The ids that a replay opens again

Replaying observations on the empty index knows an id exactly if one of the calls opens it: the call
has the primary key of the id, and it comes with a contact or finds nobody.  Two resumes end up in
one identity exactly if a chain of calls joins them, each of which finds someone earlier, by a
shared key or by a matching profile.  So whether an id and its resumes outlive a change of the
observations is read off the new observations (`known_iff_reopens`).
-/

namespace SeekTalent.SourceLanes

open Foundation Dict IdentityFiling RuntimeCandidateIdentityIndex

variable {left owner right : String}

/-- The call finds the person of the resume: an earlier call about the resume shares something with
it, or its profile matches that of the identity which has the resume by then. -/
def Finds (py : PythonRuntime) (earlier : List CandidateUpsert) (call : CandidateUpsert)
    (resumeId : String) : Prop :=
  (∃ other ∈ earlier, other.resumeId = resumeId ∧ SharesIndexKey py other call) ∨
    ∃ index identityId, afterUpserts py earlier = .ok index ∧
      identityId ∈ index.candidateFuzzyIdentityIds call.signals ∧
      index.StrongMatch call.signals identityId ∧
      index.resumeIdToIdentityId.lookup resumeId = some identityId

/-- One of the calls is about the first resume and finds the person of the second. -/
def Meets (py : PythonRuntime) (calls : List CandidateUpsert) (left right : String) : Prop :=
  ∃ earlier call later, calls = earlier ++ call :: later ∧ call.resumeId = left ∧
    Finds py earlier call right

/-- A chain of calls that find each other joins the two resumes. -/
def Joined (py : PythonRuntime) (calls : List CandidateUpsert) : String → String → Prop :=
  Relation.EqvGen (Meets py calls)

/-- Among the calls, this one opens an identity under its own primary key: it comes with a contact,
or it finds nobody. -/
def Opens (py : PythonRuntime) (calls : List CandidateUpsert) (opening : CandidateUpsert) : Prop :=
  ∃ earlier later, calls = earlier ++ opening :: later ∧
    (opening.signals.protectedContactHashes ≠ [] ∨ ∀ resumeId, ¬ Finds py earlier opening resumeId)

/-- A call opens the id, and the calls join all the resumes with the one that it is about. -/
def Reopens (py : PythonRuntime) (calls : List CandidateUpsert) (identityId : String)
    (resumeIds : List String) : Prop :=
  ∃ opening, Opens py calls opening ∧ identityId = stableIdentityId py (opening.primaryKey py) ∧
    ∀ r ∈ resumeIds, Joined py calls opening.resumeId r

variable {py : PythonRuntime} {calls : List CandidateUpsert} {index : RuntimeCandidateIdentityIndex}
  {call : CandidateUpsert}

/-! ## More calls -/

/-- A call that finds somebody does so whatever comes later. -/
lemma Meets.append (h : Meets py calls left right) (later : List CandidateUpsert) :
    Meets py (calls ++ later) left right := by
  obtain ⟨earlier, call, rest, rfl, hleft, hfinds⟩ := h
  exact ⟨earlier, call, rest ++ later, by simp, hleft, hfinds⟩

/-- What is joined stays joined. -/
lemma Joined.append (h : Joined py calls left right) (later : List CandidateUpsert) :
    Joined py (calls ++ later) left right :=
  Relation.EqvGen.mono (fun _ _ hmeets => Meets.append hmeets later) left right h

/-- A call that opens an identity does so whatever comes later. -/
lemma Opens.append {opening : CandidateUpsert} (h : Opens py calls opening)
    (later : List CandidateUpsert) : Opens py (calls ++ later) opening := by
  obtain ⟨earlier, rest, rfl, hopens⟩ := h
  exact ⟨earlier, rest ++ later, by simp, hopens⟩

/-! ## Whom a call finds -/

/-- Sharing something with an earlier call is being found. -/
lemma CallsFiled.mem_existing_of_shares (h : CallsFiled py calls index) {other : CandidateUpsert}
    (hother : other ∈ calls) (hshares : SharesIndexKey py other call) :
    ∃ owner ∈ index.existingIdentityIds py call,
      index.resumeIdToIdentityId.lookup other.resumeId = some owner := by
  obtain ⟨owner, hresume, hevidence, hkeys⟩ := h.filed other hother
  refine ⟨owner, (mem_existingIdentityIds h.settled owner).mpr ?_, hresume⟩
  rcases hshares with hsame | hsame | ⟨key, hkey, hkey'⟩
  · exact Or.inr (Or.inl (hsame ▸ hresume))
  · exact Or.inr (Or.inr (hsame ▸ hevidence))
  · exact Or.inl ⟨key, hkey', hkeys key hkey⟩

/-- The identity of a resume that the call finds is among those found. -/
lemma CallsFiled.owner_of_finds (h : CallsFiled py calls index)
    (hrun : afterUpserts py calls = .ok index)
    {resumeId : String} (hfinds : Finds py calls call resumeId) :
    ∃ owner ∈ (index.identityMatches py call).existing,
      index.resumeIdToIdentityId.lookup resumeId = some owner := by
  obtain ⟨hmatches, -, -⟩ := identityMatches_spec h.settled py call
  rcases hfinds with ⟨other, hother, rfl, hshares⟩ | ⟨index', owner, hrun', hfuzzy, hstrong,
    hresume⟩
  · obtain ⟨owner, hexisting, hresume⟩ := h.mem_existing_of_shares hother hshares
    exact ⟨owner, (hmatches owner).mpr (Or.inl hexisting), hresume⟩
  · obtain rfl : index = index' := Except.ok.inj (hrun.symm.trans hrun')
    exact ⟨owner, (hmatches owner).mpr (Or.inr ⟨hfuzzy, hstrong⟩), hresume⟩

/-- Every identity found has a resume that the call finds. -/
lemma CallsFiled.finds_of_existing (h : CallsFiled py calls index)
    (hrun : afterUpserts py calls = .ok index)
    (howner : owner ∈ (index.identityMatches py call).existing) :
    ∃ resumeId, index.resumeIdToIdentityId.lookup resumeId = some owner ∧
      Finds py calls call resumeId := by
  obtain ⟨hmatches, hlive, -⟩ := identityMatches_spec h.settled py call
  rcases (hmatches owner).mp howner with hexisting | ⟨hfuzzy, hstrong⟩
  · obtain ⟨other, hother, hresume, hshares⟩ := h.exists_sharing hexisting
    exact ⟨other.resumeId, hresume, Or.inl ⟨other, hother, rfl, hshares⟩⟩
  · obtain ⟨other, -, hresume⟩ :=
      h.exists_call ((h.settled.aliases "").self owner (hlive owner howner))
    exact ⟨other.resumeId, hresume, Or.inr ⟨index, owner, hrun, hfuzzy, hstrong, hresume⟩⟩

/-- A call that comes with a contact or finds nobody is filed under its own primary key. -/
lemma targetIdentityId_of_opens {existing : List String}
    (hopens : call.signals.protectedContactHashes ≠ [] ∨ existing = []) :
    targetIdentityId py call existing = stableIdentityId py (call.primaryKey py) := by
  unfold targetIdentityId
  split
  · rename_i first rest hcontacts hsorted
    rcases hopens with hcontact | rfl
    · exact absurd hcontacts hcontact
    · cases hsorted
  · rfl

/-- A call that is not filed under somebody found opens an identity under its own primary key. -/
lemma opens_of_target_not_mem {existing : List String}
    (hnot : targetIdentityId py call existing ∉ existing) :
    call.signals.protectedContactHashes ≠ [] ∨ existing = [] := by
  by_contra hneither
  obtain ⟨hcontacts, hexisting⟩ := not_or.mp hneither
  rw [not_not] at hcontacts
  cases hsorted : sortedTexts existing with
  | nil =>
    obtain ⟨first, hfirst⟩ := List.exists_mem_of_ne_nil existing hexisting
    rw [← mem_sortedTexts, hsorted] at hfirst
    cases hfirst
  | cons first rest =>
    have htarget : targetIdentityId py call existing = first := by
      unfold targetIdentityId
      rw [hcontacts, hsorted]
    rw [htarget, ← mem_sortedTexts, hsorted] at hnot
    exact hnot List.mem_cons_self

/-! ## Owners -/

/-- Two resumes of one identity are joined. -/
theorem joined_of_sameOwner (hinj : HashInjectiveOn py calls)
    (hrun : afterUpserts py calls = .ok index)
    (hleft : index.resumeIdToIdentityId.lookup left = some owner)
    (hright : index.resumeIdToIdentityId.lookup right = some owner) :
    Joined py calls left right := by
  induction calls using List.reverseRecOn generalizing index left right owner with
  | nil =>
    cases hrun
    cases hleft
  | append_singleton calls call ih =>
    obtain ⟨hinj', before, hbefore, hfiled, hup⟩ := exists_before hinj hrun
    -- whatever the target has now is joined with the resume of the call
    have htoCall : ∀ r, index.resumeIdToIdentityId.lookup r =
        some (targetIdentityId py call (before.identityMatches py call).existing) →
          Joined py (calls ++ [call]) r call.resumeId := by
      intro r hr
      rw [hup.resumes] at hr
      split at hr
      · rename_i hsame
        exact hsame ▸ Relation.EqvGen.refl r
      · obtain ⟨first, hfirst, hredirect⟩ := Option.map_eq_some_iff.mp hr
        have hmem := hfiled.mem_of_redirect hup.revived hfirst hredirect
        obtain ⟨found, hfound, hfinds⟩ := hfiled.finds_of_existing hbefore hmem
        have hmeets : Meets py (calls ++ [call]) call.resumeId found :=
          ⟨calls, call, [], rfl, rfl, hfinds⟩
        exact ((ih hinj' hbefore hfirst hfound).append [call]).trans _ _ _
          ((Relation.EqvGen.rel _ _ hmeets).symm _ _)
    by_cases howner : owner = targetIdentityId py call (before.identityMatches py call).existing
    · subst howner
      exact (htoCall left hleft).trans _ _ _ ((htoCall right hright).symm _ _)
    · -- the owner took no part in the call
      have hunmoved : ∀ r, index.resumeIdToIdentityId.lookup r = some owner →
          before.resumeIdToIdentityId.lookup r = some owner := by
        intro r hr
        rw [hup.resumes] at hr
        split at hr
        · exact absurd (Option.some.inj hr).symm howner
        · obtain ⟨first, hfirst, hredirect⟩ := Option.map_eq_some_iff.mp hr
          unfold redirect at hredirect
          split at hredirect
          · exact absurd hredirect.symm howner
          · rw [hfirst, hredirect]
      exact (ih hinj' hbefore (hunmoved left hleft) (hunmoved right hright)).append [call]

/-- A call and the resumes that it finds belong to one identity, and stay with one. -/
lemma owner_eq_of_meets (hinj : HashInjectiveOn py calls) (hrun : afterUpserts py calls = .ok index)
    (hmeets : Meets py calls left right) :
    index.resumeIdToIdentityId.lookup left = index.resumeIdToIdentityId.lookup right := by
  obtain ⟨earlier, call, later, rfl, rfl, hfinds⟩ := hmeets
  rw [List.append_cons] at hinj hrun
  have hinj' : HashInjectiveOn py (earlier ++ [call]) := hinj.of_subset fun c hc =>
    List.mem_append_left _ hc
  obtain ⟨before, hbefore, hfiled⟩ := callsFiled_afterUpserts
    (hinj'.of_subset fun c hc => List.mem_append_left _ hc)
  obtain ⟨after, identity, hcall, -, hup, -⟩ := exists_upserted hfiled hinj'
  obtain ⟨owner, howner, hright⟩ := hfiled.owner_of_finds hbefore hfinds
  have hmoved := hup.resume_of_before hfiled.settled hright
  rw [redirect, if_pos howner] at hmoved
  have hfiledCall : after.resumeIdToIdentityId.lookup call.resumeId =
      some (targetIdentityId py call (before.identityMatches py call).existing) := by
    rw [hup.resumes, if_pos rfl]
  have hboth : ∀ r ∈ [call.resumeId, right], after.resumeIdToIdentityId.lookup r =
      some (targetIdentityId py call (before.identityMatches py call).existing) := by
    intro r hr
    rcases List.mem_pair.mp hr with rfl | rfl
    · exact hfiledCall
    · exact hmoved
  obtain ⟨last, -, hlast⟩ := owner_persists later hinj (afterUpserts_concat hbefore hcall) hrun
    (by rw [hup.aliases, if_pos rfl]) hboth
  rw [hlast call.resumeId (by simp), hlast right (by simp)]

/-- Joined resumes belong to one identity. -/
theorem sameOwner_of_joined (hinj : HashInjectiveOn py calls)
    (hrun : afterUpserts py calls = .ok index) (hjoined : Joined py calls left right) :
    index.resumeIdToIdentityId.lookup left = index.resumeIdToIdentityId.lookup right := by
  induction hjoined with
  | rel left right hmeets => exact owner_eq_of_meets hinj hrun hmeets
  | refl resumeId => rfl
  | symm left right _ ih => exact ih.symm
  | trans left middle right _ _ ihLeft ihRight => exact ihLeft.trans ihRight

/-! ## Names -/

/-- Every name of an identity was opened by a call about one of its resumes. -/
theorem opens_of_alias (hinj : HashInjectiveOn py calls) (hrun : afterUpserts py calls = .ok index)
    {x : String} (hx : index.aliasToCanonicalId.lookup x = some owner) :
    ∃ opening, Opens py calls opening ∧ x = stableIdentityId py (opening.primaryKey py) ∧
      index.resumeIdToIdentityId.lookup opening.resumeId = some owner := by
  induction calls using List.reverseRecOn generalizing index x owner with
  | nil =>
    cases hrun
    cases hx
  | append_singleton calls call ih =>
    obtain ⟨hinj', before, hbefore, hfiled, hup⟩ := exists_before hinj hrun
    -- a name that was known names the same identity
    have hearlier : ∀ first, before.aliasToCanonicalId.lookup x = some first →
        redirect (before.identityMatches py call).existing
          (targetIdentityId py call (before.identityMatches py call).existing) first = owner →
        ∃ opening, Opens py (calls ++ [call]) opening ∧
          x = stableIdentityId py (opening.primaryKey py) ∧
          index.resumeIdToIdentityId.lookup opening.resumeId = some owner := by
      rintro first hfirst rfl
      obtain ⟨opening, hopens, hid, hresume⟩ := ih hinj' hbefore hfirst
      exact ⟨opening, hopens.append [call], hid, hup.resume_of_before hfiled.settled hresume⟩
    rw [hup.aliases] at hx
    split at hx
    · rename_i htarget
      have howner := Option.some.inj hx
      by_cases hfound : x ∈ (before.identityMatches py call).existing
      · refine hearlier x ((hfiled.settled.aliases "").self x (hup.existing_live x hfound)) ?_
        rw [redirect, if_pos hfound, howner]
      · have hopening := opens_of_target_not_mem (htarget ▸ hfound)
        refine ⟨call, ⟨calls, [], rfl, hopening.imp id fun hnobody r hfinds => ?_⟩,
          htarget.trans
          (targetIdentityId_of_opens hopening), by rw [hup.resumes, if_pos rfl, howner]⟩
        obtain ⟨other, hother, -⟩ := hfiled.owner_of_finds hbefore hfinds
        rw [hnobody] at hother
        cases hother
    · obtain ⟨first, hfirst, hredirect⟩ := Option.map_eq_some_iff.mp hx
      exact hearlier first hfirst hredirect

/-- What a call opens stays a name of the identity of its resume. -/
theorem alias_of_opens (hinj : HashInjectiveOn py calls) (hrun : afterUpserts py calls = .ok index)
    {opening : CandidateUpsert} (hopens : Opens py calls opening) :
    ∃ owner, index.aliasToCanonicalId.lookup (stableIdentityId py (opening.primaryKey py)) =
      some owner ∧ index.resumeIdToIdentityId.lookup opening.resumeId = some owner := by
  obtain ⟨earlier, later, rfl, hopening⟩ := hopens
  rw [List.append_cons] at hinj hrun
  have hinj' : HashInjectiveOn py (earlier ++ [opening]) :=
    hinj.of_subset fun c hc => List.mem_append_left _ hc
  obtain ⟨before, hbefore, hfiled⟩ := callsFiled_afterUpserts
    (hinj'.of_subset fun c hc => List.mem_append_left _ hc)
  obtain ⟨after, identity, hcall, -, hup, -⟩ := exists_upserted hfiled hinj'
  have htarget : targetIdentityId py opening (before.identityMatches py opening).existing =
      stableIdentityId py (opening.primaryKey py) := by
    refine targetIdentityId_of_opens (hopening.imp id fun hnobody => ?_)
    rw [List.eq_nil_iff_forall_not_mem]
    intro owner howner
    obtain ⟨found, -, hfinds⟩ := hfiled.finds_of_existing hbefore howner
    exact hnobody found hfinds
  rw [htarget] at hup
  obtain ⟨owner, halias, hresumes⟩ :=
    owner_persists later hinj (afterUpserts_concat hbefore hcall) hrun
    (by rw [hup.aliases, if_pos rfl])
    (List.forall_mem_singleton.mpr (by rw [hup.resumes, if_pos rfl]))
  exact ⟨owner, halias, hresumes opening.resumeId (by simp)⟩

/-- After a sequence of calls an id names one identity with all the resumes exactly if the calls
open the id and join the resumes with the one that it was opened for. -/
theorem known_iff_reopens (hinj : HashInjectiveOn py calls)
    (hrun : afterUpserts py calls = .ok index) (identityId : String) (resumeIds : List String) :
    (∃ owner, index.aliasToCanonicalId.lookup identityId = some owner ∧
        ∀ r ∈ resumeIds, index.resumeIdToIdentityId.lookup r = some owner) ↔
      Reopens py calls identityId resumeIds := by
  constructor
  · rintro ⟨owner, halias, hresumes⟩
    obtain ⟨opening, hopens, hid, hopening⟩ := opens_of_alias hinj hrun halias
    exact ⟨opening, hopens, hid, fun r hr => joined_of_sameOwner hinj hrun hopening (hresumes r hr)⟩
  · rintro ⟨opening, hopens, rfl, hjoined⟩
    obtain ⟨owner, halias, hopening⟩ := alias_of_opens hinj hrun hopens
    exact ⟨owner, halias, fun r hr =>
      (sameOwner_of_joined hinj hrun (hjoined r hr)).symm.trans hopening⟩

end SeekTalent.SourceLanes
