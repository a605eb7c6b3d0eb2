import Mathlib.Data.List.Induction
import SeekTalent.Foundation.Links
import SeekTalent.SourceLanes.IndexUpsert

/-!
# The classes of the identity index

Calls that share a contact, a provider's hash, a resume or an evidence row are calls about one
person. `CallsFiled` is what a sequence of calls on the empty index keeps: every call is filed under
one live identity, every alias was named by the primary key of a call, and without visible names
only linked calls end up in one identity.  The id of an identity comes from a hash of sixteen hex
digits, taken to be injective on the primary keys of the calls.
-/

namespace SeekTalent.SourceLanes

open Foundation Dict IdentityFiling RuntimeCandidateIdentityIndex

variable {left : CandidateUpsert} {py : PythonRuntime} {x owner : String}

/-- The key of a call that names its identity. -/
def CandidateUpsert.primaryKey (py : PythonRuntime) (call : CandidateUpsert) : String :=
  primaryIdentityKey py call.signals call.evidenceId

/-- The two calls share a contact hash, the hash of a provider key, the resume or the evidence row.
An empty text is no provider key. -/
def SharesKey (left right : CandidateUpsert) : Prop :=
  (∃ hash ∈ left.signals.protectedContactHashes, hash ∈ right.signals.protectedContactHashes) ∨
    (∃ hash, hash ≠ "" ∧ left.signals.providerCandidateKeyHash = some hash ∧
      right.signals.providerCandidateKeyHash = some hash) ∨
    left.resumeId = right.resumeId ∨ left.evidenceId = right.evidenceId

/-- The hash of sixteen hex digits tells the primary keys of the calls apart. -/
def HashInjectiveOn (py : PythonRuntime) (calls : List CandidateUpsert) : Prop :=
  ∀ left ∈ calls, ∀ right ∈ calls,
    stableIdentityId py (left.primaryKey py) = stableIdentityId py (right.primaryKey py) →
      left.primaryKey py = right.primaryKey py

instance (py : PythonRuntime) (calls : List CandidateUpsert) :
    Decidable (HashInjectiveOn py calls) :=
  inferInstanceAs (Decidable (∀ left ∈ calls, ∀ right ∈ calls, _ → _))

/-- Sharing is symmetric. -/
lemma SharesKey.symm {right : CandidateUpsert} (h : SharesKey left right) :
    SharesKey right left := by
  rcases h with ⟨hash, hleft, hright⟩ | ⟨hash, hne, hleft, hright⟩ | hresume | hevidence
  · exact Or.inl ⟨hash, hright, hleft⟩
  · exact Or.inr (Or.inl ⟨hash, hne, hright, hleft⟩)
  · exact Or.inr (Or.inr (Or.inl hresume.symm))
  · exact Or.inr (Or.inr (Or.inr hevidence.symm))

lemma prefixed_ne {left right : String} {a b : String}
    (hhead : left.toList.head? ≠ right.toList.head?)
    (hleft : left ≠ "") (hright : right ≠ "") : left ++ a ≠ right ++ b := by
  intro heq
  have hlist := congrArg (fun text => text.toList.head?) heq
  simp only [String.toList_append] at hlist
  rw [List.head?_append_of_ne_nil _ (by simpa using hleft),
    List.head?_append_of_ne_nil _ (by simpa using hright)] at hlist
  exact hhead hlist

/-- Without visible names a common key of two calls is something that they share. -/
lemma sharesKey_of_mem {right : CandidateUpsert} {key : String}
    (hleft : ¬ left.signals.VisibleName) (hright : ¬ right.signals.VisibleName)
    (hkeyLeft : key ∈ identityKeys py left.signals left.evidenceId)
    (hkeyRight : key ∈ identityKeys py right.signals right.evidenceId) : SharesKey left right := by
  have hcontactProvider : ∀ a b : String, "contact:" ++ a ≠ "provider:" ++ b :=
    fun a b => prefixed_ne (by decide) (by decide) (by decide)
  have hcontactEvidence : ∀ a b : String, "contact:" ++ a ≠ "evidence:" ++ b :=
    fun a b => prefixed_ne (by decide) (by decide) (by decide)
  have hproviderEvidence : ∀ a b : String, "provider:" ++ a ≠ "evidence:" ++ b :=
    fun a b => prefixed_ne (by decide) (by decide) (by decide)
  rcases mem_identityKeys_of_not_visible py hleft hkeyLeft with hkey | hkey | hkey
  · obtain ⟨hash, hmem, rfl⟩ := mem_contactKeys.mp hkey
    rcases mem_identityKeys_of_not_visible py hright hkeyRight with hkey' | hkey' | hkey'
    · obtain ⟨hash', hmem', heq⟩ := mem_contactKeys.mp hkey'
      obtain rfl : hash = hash' := by simpa using heq
      exact Or.inl ⟨hash, hmem, hmem'⟩
    · obtain ⟨hash', -, -, heq⟩ := mem_providerKeys.mp hkey'
      exact absurd heq (hcontactProvider _ _)
    · exact absurd hkey' (hcontactEvidence _ _)
  · obtain ⟨hash, hsome, hne, rfl⟩ := mem_providerKeys.mp hkey
    rcases mem_identityKeys_of_not_visible py hright hkeyRight with hkey' | hkey' | hkey'
    · obtain ⟨hash', -, heq⟩ := mem_contactKeys.mp hkey'
      exact absurd heq.symm (hcontactProvider _ _)
    · obtain ⟨hash', hsome', -, heq⟩ := mem_providerKeys.mp hkey'
      obtain rfl : hash = hash' := by simpa using heq
      exact Or.inr (Or.inl ⟨hash, hne, hsome, hsome'⟩)
    · exact absurd hkey' (hproviderEvidence _ _)
  · subst hkey
    rcases mem_identityKeys_of_not_visible py hright hkeyRight with hkey' | hkey' | hkey'
    · obtain ⟨hash', -, heq⟩ := mem_contactKeys.mp hkey'
      exact absurd heq.symm (hcontactEvidence _ _)
    · obtain ⟨hash', -, -, heq⟩ := mem_providerKeys.mp hkey'
      exact absurd heq.symm (hproviderEvidence _ _)
    · exact Or.inr (Or.inr (Or.inr (by simpa using hkey')))

/-! ## What a sequence of calls keeps -/

/-- The index after a sequence of calls on the empty index. -/
structure CallsFiled (py : PythonRuntime) (calls : List CandidateUpsert)
    (index : RuntimeCandidateIdentityIndex) : Prop where
  settled : index.Settled
  filed : ∀ call ∈ calls, ∃ owner,
    index.resumeIdToIdentityId.lookup call.resumeId = some owner ∧
      index.evidenceIdToIdentityId.lookup call.evidenceId = some owner ∧
      ∀ key ∈ identityKeys py call.signals call.evidenceId,
        index.keyToIdentityId.lookup key = some owner
  named : ∀ x owner, index.aliasToCanonicalId.lookup x = some owner → ∃ call ∈ calls,
    x = stableIdentityId py (call.primaryKey py) ∧
      index.keyToIdentityId.lookup (call.primaryKey py) = some owner
  resume_seen : ∀ x owner, index.resumeIdToIdentityId.lookup x = some owner →
    ∃ call ∈ calls, call.resumeId = x
  evidence_seen : ∀ x owner, index.evidenceIdToIdentityId.lookup x = some owner →
    ∃ call ∈ calls, call.evidenceId = x
  key_seen : ∀ x owner, index.keyToIdentityId.lookup x = some owner →
    ∃ call ∈ calls, x ∈ identityKeys py call.signals call.evidenceId
  linked : (∀ call ∈ calls, ¬ call.signals.VisibleName) → ∀ left ∈ calls, ∀ right ∈ calls, ∀ owner,
    index.resumeIdToIdentityId.lookup left.resumeId = some owner →
      index.resumeIdToIdentityId.lookup right.resumeId = some owner →
        Linked SharesKey calls left right

/-- The empty index. -/
lemma callsFiled_nil (py : PythonRuntime) : CallsFiled py [] {} := by
  have hsettled : Settled {} := by
    refine ⟨⟨?_, ?_, ?_, ?_⟩, fun target => ⟨?_, ?_, ?_, ?_⟩, ?_, fun target => ?_⟩ <;>
      simp [PointsTo, OwnsResume, OwnsEvidence, OwnsKey, OwnsAlias, BucketsKnown, Presented]
  exact ⟨hsettled, by simp, by simp, by simp, by simp, by simp, by simp⟩

variable {py : PythonRuntime} {calls : List CandidateUpsert} {index : RuntimeCandidateIdentityIndex}
  {call : CandidateUpsert}

/-- The target of a call is among the identities found, or its name is the hash of the primary
key. -/
lemma targetIdentityId_cases (py : PythonRuntime) (call : CandidateUpsert)
    (existing : List String) :
    targetIdentityId py call existing ∈ existing ∨
      targetIdentityId py call existing = stableIdentityId py (call.primaryKey py) := by
  unfold targetIdentityId
  split
  · rename_i first rest _ hsorted
    left
    rw [← mem_sortedTexts, hsorted]
    exact List.mem_cons_self
  · exact Or.inr rfl

/-- A target that the alias map knows stands for something found: its name is the hash of a primary
key that is filed already. -/
lemma CallsFiled.revived (h : CallsFiled py calls index)
    (hinj : HashInjectiveOn py (calls ++ [call]))
    {existing : List String} (hhard : ∀ x ∈ index.existingIdentityIds py call, x ∈ existing)
    (hlive : ∀ x ∈ existing, x ∈ index.identities) (owner : String)
    (howner : index.aliasToCanonicalId.lookup (targetIdentityId py call existing) = some owner) :
    owner ∈ existing := by
  rcases targetIdentityId_cases py call existing with hmem | hname
  · have hself := (h.settled.aliases "").self _ (hlive _ hmem)
    rw [hself] at howner
    exact Option.some.inj howner ▸ hmem
  · obtain ⟨earlier, hearlier, hstable, hkey⟩ := h.named _ owner howner
    have hsame : earlier.primaryKey py = call.primaryKey py := by
      apply hinj earlier (List.mem_append_left _ hearlier) call (by simp)
      rw [← hstable, hname]
    apply hhard
    rw [mem_existingIdentityIds h.settled]
    exact Or.inl
      ⟨earlier.primaryKey py, hsame ▸ primaryIdentityKey_mem py call.signals call.evidenceId, hkey⟩

/-- Who was found through something shared is linked to the call. -/
lemma CallsFiled.linked_of_existing (h : CallsFiled py calls index)
    (hnames : ∀ c ∈ calls ++ [call], ¬ c.signals.VisibleName)
    (hleft : left ∈ calls) (hlookup : index.resumeIdToIdentityId.lookup left.resumeId = some owner)
    (hmem : owner ∈ index.existingIdentityIds py call) :
    Linked SharesKey (calls ++ [call]) left call := by
  have hcalls : ∀ c ∈ calls, ¬ c.signals.VisibleName :=
    fun c hc => hnames c (List.mem_append_left _ hc)
  -- some earlier call of the same identity shares something with this one
  obtain ⟨earlier, hearlier, hresume, hshares⟩ : ∃ earlier ∈ calls,
      index.resumeIdToIdentityId.lookup earlier.resumeId = some owner ∧ SharesKey earlier call := by
    rcases (mem_existingIdentityIds h.settled owner).mp
      hmem with ⟨key, hkey, hfound⟩ | hfound | hfound
    · obtain ⟨earlier, hearlier, hkey'⟩ := h.key_seen key owner hfound
      obtain ⟨owner', hresume, -, hkeys⟩ := h.filed earlier hearlier
      obtain rfl : owner' = owner := Option.some.inj ((hkeys key hkey').symm.trans hfound)
      exact ⟨earlier, hearlier, hresume,
        sharesKey_of_mem (hcalls earlier hearlier) (hnames call (by simp)) hkey' hkey⟩
    · obtain ⟨earlier, hearlier, hsame⟩ := h.resume_seen _ owner hfound
      exact ⟨earlier, hearlier, by rw [hsame, hfound], Or.inr (Or.inr (Or.inl hsame))⟩
    · obtain ⟨earlier, hearlier, hsame⟩ := h.evidence_seen _ owner hfound
      obtain ⟨owner', hresume, hevidence, -⟩ := h.filed earlier hearlier
      rw [hsame, hfound] at hevidence
      obtain rfl := Option.some.inj hevidence
      exact ⟨earlier, hearlier, hresume, Or.inr (Or.inr (Or.inr hsame))⟩
  have hchain : Linked SharesKey calls left earlier :=
    h.linked hcalls left hleft earlier hearlier owner hlookup hresume
  exact (hchain.mono fun w hw => List.mem_append_left _ hw).trans
    (Linked.of_shares (List.mem_append_left _ hearlier) (by simp) hshares)

/-- Whoever is redirected to the target was found. -/
lemma CallsFiled.mem_of_redirect (h : CallsFiled py calls index) {existing : List String}
    {target : String}
    (hrevived : ∀ owner, index.aliasToCanonicalId.lookup target = some owner → owner ∈ existing)
    (hlookup : index.resumeIdToIdentityId.lookup x = some owner)
    (hredirect : redirect existing target owner = target) : owner ∈ existing := by
  by_contra hnot
  rw [redirect, if_neg hnot] at hredirect
  subst hredirect
  obtain ⟨identity, hidentity, -⟩ := (h.settled.members.resumes x owner).mp hlookup
  have hlive : owner ∈ index.identities := AList.lookup_isSome.mp (by rw [hidentity]; rfl)
  exact hnot (hrevived owner ((h.settled.aliases "").self owner hlive))

/-- A call keeps what the calls so far have established. -/
theorem CallsFiled.upsert (h : CallsFiled py calls index)
    (hinj : HashInjectiveOn py (calls ++ [call])) :
    ∃ after identity existing target, index.upsertCandidate py call = .ok (after, identity) ∧
      identity.identityId = target ∧ Upserted py index after call existing target ∧
      CallsFiled py (calls ++ [call]) after := by
  obtain ⟨existing, hexisting⟩ : ∃ existing, existing = (index.identityMatches py call).existing :=
    ⟨_, rfl⟩
  obtain ⟨target, htarget⟩ : ∃ target, target = targetIdentityId py call existing := ⟨_, rfl⟩
  obtain ⟨hmatches, hlive, -⟩ := identityMatches_spec h.settled py call
  rw [← hexisting] at hmatches hlive
  have hhard : ∀ x ∈ index.existingIdentityIds py call, x ∈ existing :=
    fun x hx => (hmatches x).mpr (Or.inl hx)
  have hrevived : ∀ owner, index.aliasToCanonicalId.lookup target = some owner →
      owner ∈ existing := by
    rw [htarget]
    exact h.revived hinj hhard hlive
  obtain ⟨after, identity, hrun, hid, hup⟩ :=
    upsertCandidate_spec h.settled hexisting htarget hrevived
  have hcallResume : after.resumeIdToIdentityId.lookup call.resumeId = some target := by
    rw [hup.resumes, if_pos rfl]
  have hcallKeys : ∀ key ∈ identityKeys py call.signals call.evidenceId,
      after.keyToIdentityId.lookup key = some target := by
    intro key hkey
    rw [hup.keys, if_pos hkey]
  refine ⟨after, identity, existing, target, hrun, hid, hup, ?_⟩
  constructor
  case settled => exact hup.settled
  case filed =>
    intro c hc
    rcases List.mem_append.mp hc with hearlier | hlast
    · obtain ⟨owner, hresume, hevidence, hkeys⟩ := h.filed c hearlier
      exact ⟨redirect existing target owner, hup.resume_of_before h.settled hresume,
        hup.evidence_of_before h.settled hevidence,
        fun key hkey => hup.key_of_before h.settled (hkeys key hkey)⟩
    · rw [List.mem_singleton.mp hlast]
      exact ⟨target, hcallResume, by rw [hup.evidence, if_pos rfl], hcallKeys⟩
  case named =>
    intro x owner hlookup
    rw [hup.aliases] at hlookup
    split at hlookup
    · rename_i hx
      cases hlookup
      subst hx
      rcases targetIdentityId_cases py call existing with hmem | hname
      · rw [← htarget] at hmem
        obtain ⟨c, hc, hstable, hkey⟩ :=
          h.named x x ((h.settled.aliases "").self x (hlive x hmem))
        have hafter := hup.key_of_before h.settled hkey
        rw [redirect, if_pos hmem] at hafter
        exact ⟨c, List.mem_append_left _ hc, hstable, hafter⟩
      · exact ⟨call, by simp, htarget.trans hname,
          hcallKeys _ (primaryIdentityKey_mem py call.signals call.evidenceId)⟩
    · obtain ⟨owner', hbefore, rfl⟩ := Option.map_eq_some_iff.mp hlookup
      obtain ⟨c, hc, hstable, hkey⟩ := h.named x owner' hbefore
      exact ⟨c, List.mem_append_left _ hc, hstable, hup.key_of_before h.settled hkey⟩
  case resume_seen =>
    intro x owner hlookup
    rw [hup.resumes] at hlookup
    split at hlookup
    · rename_i hx
      exact ⟨call, by simp, hx.symm⟩
    · obtain ⟨owner', hbefore, -⟩ := Option.map_eq_some_iff.mp hlookup
      obtain ⟨c, hc, hsame⟩ := h.resume_seen x owner' hbefore
      exact ⟨c, List.mem_append_left _ hc, hsame⟩
  case evidence_seen =>
    intro x owner hlookup
    rw [hup.evidence] at hlookup
    split at hlookup
    · rename_i hx
      exact ⟨call, by simp, hx.symm⟩
    · obtain ⟨owner', hbefore, -⟩ := Option.map_eq_some_iff.mp hlookup
      obtain ⟨c, hc, hsame⟩ := h.evidence_seen x owner' hbefore
      exact ⟨c, List.mem_append_left _ hc, hsame⟩
  case key_seen =>
    intro x owner hlookup
    rw [hup.keys] at hlookup
    split at hlookup
    · rename_i hx
      exact ⟨call, by simp, hx⟩
    · obtain ⟨owner', hbefore, -⟩ := Option.map_eq_some_iff.mp hlookup
      obtain ⟨c, hc, hsame⟩ := h.key_seen x owner' hbefore
      exact ⟨c, List.mem_append_left _ hc, hsame⟩
  case linked =>
    intro hnames
    have hsoft : ∀ x ∈ existing, x ∈ index.existingIdentityIds py call := fun x hx =>
      (hup.soft x hx).resolve_right (fun hvisible => hnames call (by simp) hvisible.1)
    have hcalls : ∀ c ∈ calls, ¬ c.signals.VisibleName :=
      fun c hc => hnames c (List.mem_append_left _ hc)
    -- an earlier call that now belongs to the target is linked to this call
    have htoCall : ∀ c ∈ calls, after.resumeIdToIdentityId.lookup c.resumeId = some target →
        Linked SharesKey (calls ++ [call]) c call := by
      intro c hc hafter
      obtain ⟨owner, hresume, -, -⟩ := h.filed c hc
      rw [hup.resume_of_before h.settled hresume, Option.some.injEq] at hafter
      exact h.linked_of_existing hnames hc hresume
        (hsoft owner (h.mem_of_redirect hrevived hresume hafter))
    intro left hleft right hright owner hleftOwner hrightOwner
    rcases List.mem_append.mp hleft with hleft | hleft <;>
      rcases List.mem_append.mp hright with hright | hright
    · by_cases howner : owner = target
      · subst howner
        exact (htoCall left hleft hleftOwner).trans
          ((htoCall right hright hrightOwner).symm SharesKey.symm)
      · obtain ⟨leftBefore, hleftBefore, -, -⟩ := h.filed left hleft
        obtain ⟨rightBefore, hrightBefore, -, -⟩ := h.filed right hright
        have hunmoved : ∀ before, redirect existing target before = owner → before = owner := by
          intro before hredirect
          unfold redirect at hredirect
          split at hredirect
          · exact absurd hredirect.symm howner
          · exact hredirect
        rw [hup.resume_of_before h.settled hleftBefore, Option.some.injEq] at hleftOwner
        rw [hup.resume_of_before h.settled hrightBefore, Option.some.injEq] at hrightOwner
        rw [hunmoved leftBefore hleftOwner] at hleftBefore
        rw [hunmoved rightBefore hrightOwner] at hrightBefore
        exact (h.linked hcalls left hleft right hright owner hleftBefore hrightBefore).mono
          (fun w hw => List.mem_append_left _ hw)
    · rw [List.mem_singleton.mp hright] at hrightOwner ⊢
      obtain rfl : target = owner := Option.some.inj (hcallResume.symm.trans hrightOwner)
      exact htoCall left hleft hleftOwner
    · rw [List.mem_singleton.mp hleft] at hleftOwner ⊢
      obtain rfl : target = owner := Option.some.inj (hcallResume.symm.trans hleftOwner)
      exact (htoCall right hright hrightOwner).symm SharesKey.symm
    · rw [List.mem_singleton.mp hleft, List.mem_singleton.mp hright]
      exact Relation.ReflTransGen.refl

/-! ## Every sequence of calls -/

lemma HashInjectiveOn.of_subset {seen : List CandidateUpsert} (h : HashInjectiveOn py calls)
    (hsub : ∀ c ∈ seen, c ∈ calls) : HashInjectiveOn py seen :=
  fun left hleft right hright => h left (hsub left hleft) right (hsub right hright)

/-- One more call after a sequence. -/
lemma afterUpserts_concat (hrun : afterUpserts py calls = .ok index)
    {after : RuntimeCandidateIdentityIndex} {identity : RuntimeCandidateIdentity}
    (hcall : index.upsertCandidate py call = .ok (after, identity)) :
    afterUpserts py (calls ++ [call]) = .ok after := by
  have hsplit : afterUpserts py (calls ++ [call]) = afterUpserts py calls >>= fun index =>
      [call].foldlM (fun index call => (index.upsertCandidate py call).map Prod.fst) index :=
    List.foldlM_append
  rw [hsplit, hrun]
  simp only [bind, Except.bind, List.foldlM_cons, List.foldlM_nil, hcall, Except.map]
  rfl

/-- A sequence of calls does not raise and files every call. -/
theorem callsFiled_afterUpserts (hinj : HashInjectiveOn py calls) :
    ∃ index, afterUpserts py calls = .ok index ∧ CallsFiled py calls index := by
  induction calls using List.reverseRecOn with
  | nil => exact ⟨{}, rfl, callsFiled_nil py⟩
  | append_singleton calls call ih =>
    obtain ⟨index, hrun, hfiled⟩ := ih (hinj.of_subset (by simp; tauto))
    obtain ⟨after, identity, _, _, hcall, -, -, hafter⟩ := hfiled.upsert hinj
    exact ⟨after, afterUpserts_concat hrun hcall, hafter⟩

/-- The alias map never forgets, and an alias and resumes of one identity stay with one identity. -/
lemma owner_persists {before after : RuntimeCandidateIdentityIndex} (rest : List CandidateUpsert)
    (hinj : HashInjectiveOn py (calls ++ rest)) (hbefore : afterUpserts py calls = .ok before)
    (hafter : afterUpserts py (calls ++ rest) = .ok after) {x : String} {resumeIds : List String}
    (hx : before.aliasToCanonicalId.lookup x = some owner)
    (hresumes : ∀ r ∈ resumeIds, before.resumeIdToIdentityId.lookup r = some owner) :
    ∃ owner', after.aliasToCanonicalId.lookup x = some owner' ∧
      ∀ r ∈ resumeIds, after.resumeIdToIdentityId.lookup r = some owner' := by
  induction rest using List.reverseRecOn generalizing after with
  | nil =>
    rw [List.append_nil, hbefore] at hafter
    obtain rfl := Except.ok.inj hafter
    exact ⟨owner, hx, hresumes⟩
  | append_singleton rest call ih =>
    rw [← List.append_assoc] at hinj hafter
    have hinj' : HashInjectiveOn py (calls ++ rest) :=
      hinj.of_subset (fun c hc => List.mem_append_left _ hc)
    obtain ⟨between, hbetween, hfiled⟩ := callsFiled_afterUpserts hinj'
    obtain ⟨after', identity, existing, target, hcall, -, hup, -⟩ := hfiled.upsert hinj
    obtain rfl : after' = after :=
      Except.ok.inj ((afterUpserts_concat hbetween hcall).symm.trans hafter)
    obtain ⟨owner', howner', hresumes'⟩ := ih hinj' hbetween
    refine ⟨redirect existing target owner', ?_,
      fun r hr => hup.resume_of_before hfiled.settled (hresumes' r hr)⟩
    rw [hup.aliases]
    split
    · rename_i hxTarget
      rw [redirect, if_pos (hup.revived owner' (hxTarget ▸ howner'))]
    · rw [howner', Option.map_some]

/-- The identity was live after some of the calls: among these are all identities that a call
returned and all that were merged away later. -/
def EverLive (py : PythonRuntime) (calls : List CandidateUpsert) (identityId : String) : Prop :=
  ∃ earlier, earlier <+: calls ∧ ∃ before, afterUpserts py earlier = .ok before ∧
    identityId ∈ before.identities

/-- The identity was returned by one of the calls. -/
def EverReturned (py : PythonRuntime) (calls : List CandidateUpsert) (identityId : String) : Prop :=
  ∃ earlier call, earlier ++ [call] <+: calls ∧ ∃ before after identity,
    afterUpserts py earlier = .ok before ∧
      before.upsertCandidate py call = .ok (after, identity) ∧ identity.identityId = identityId

/-- What holds of the index after a sequence of calls. -/
structure IdentityIndexSound (py : PythonRuntime) (calls : List CandidateUpsert)
    (index : RuntimeCandidateIdentityIndex) : Prop where
  /-- Every resume and evidence row seen belongs to exactly one live identity, the one that
  `identity_for_resume_id` names. -/
  one_owner : ∀ call ∈ calls, ∃ owner, index.identityForResumeId call.resumeId = some owner ∧
    owner ∈ index.identities ∧
    (∀ identityId, index.OwnsResume identityId call.resumeId ↔ identityId = owner) ∧
    ∀ identityId, index.OwnsEvidence identityId call.evidenceId ↔ identityId = owner
  /-- Every id ever returned or merged away resolves in one step to a live identity that lists
  it. -/
  resolves : ∀ x, EverReturned py calls x ∨ EverLive py calls x →
    ∃ owner identity, index.aliasToCanonicalId.lookup x = some owner ∧
      index.identities.lookup owner = some identity ∧ x ∈ index.aliasesFor owner ∧
      x ∈ identity.aliasIdentityIds
  /-- Alias sets of distinct live identities are disjoint. -/
  disjoint : ∀ left ∈ index.identities, ∀ right ∈ index.identities, ∀ x,
    x ∈ index.aliasesFor left → x ∈ index.aliasesFor right → left = right
  /-- Calls that shared something are calls about one identity. -/
  together : ∀ left ∈ calls, ∀ right ∈ calls, SharesKey left right →
    index.identityForResumeId left.resumeId = index.identityForResumeId right.resumeId
  /-- Without visible names, only calls that are linked are calls about one identity. -/
  apart : (∀ call ∈ calls, ¬ call.signals.VisibleName) → ∀ left ∈ calls, ∀ right ∈ calls,
    index.identityForResumeId left.resumeId = index.identityForResumeId right.resumeId →
      Linked SharesKey calls left right

/-- What the readers of a settled index return. -/
lemma identityForResumeId_eq (h : index.Settled) {resumeId : String}
    (hlookup : index.resumeIdToIdentityId.lookup resumeId = some owner) :
    index.identityForResumeId resumeId = some owner := by
  obtain ⟨identity, hidentity, -⟩ := (h.members.resumes resumeId owner).mp hlookup
  have hlive : owner ∈ index.identities := AList.lookup_isSome.mp (by rw [hidentity]; rfl)
  rw [identityForResumeId, hlookup, Option.map_some, (h.aliases "").canonical_eq hlive]

/-- The aliases of a live identity are those that point to it. -/
lemma mem_aliasesFor (h : index.Settled) (hlive : owner ∈ index.identities) :
    x ∈ index.aliasesFor owner ↔ index.aliasToCanonicalId.lookup x = some owner := by
  have hself := (h.aliases "").self owner hlive
  rw [aliasesFor, mem_sortedTexts, (h.aliases "").pointsTo x owner, OwnsAlias]
  obtain ⟨aliases, haliases, hmem⟩ := (h.aliases "").forward owner owner hself
  simp only [haliases, Option.getD_some, List.mem_append, List.mem_singleton, Option.some.injEq,
    exists_eq_left']
  exact ⟨fun hx => hx.elim id (fun heq => heq ▸ hmem), Or.inl⟩

/-- Calls that share something have one owner. -/
lemma CallsFiled.together (h : CallsFiled py calls index) {right : CandidateUpsert}
    (hleft : left ∈ calls) (hright : right ∈ calls) (hshares : SharesKey left right) :
    index.resumeIdToIdentityId.lookup left.resumeId =
      index.resumeIdToIdentityId.lookup right.resumeId := by
  obtain ⟨leftOwner, hleftResume, hleftEvidence, hleftKeys⟩ := h.filed left hleft
  obtain ⟨rightOwner, hrightResume, hrightEvidence, hrightKeys⟩ := h.filed right hright
  rcases hshares with ⟨hash, hl, hr⟩ | ⟨hash, hne, hl, hr⟩ | hresume | hevidence
  · have hkeyLeft := hleftKeys ("contact:" ++ hash) (mem_identityKeys_of_hard py
      (List.mem_append_left _ (mem_contactKeys.mpr ⟨hash, hl, rfl⟩)))
    have hkeyRight := hrightKeys ("contact:" ++ hash) (mem_identityKeys_of_hard py
      (List.mem_append_left _ (mem_contactKeys.mpr ⟨hash, hr, rfl⟩)))
    rw [hleftResume, hrightResume, ← hkeyLeft, ← hkeyRight]
  · have hkeyLeft := hleftKeys ("provider:" ++ hash) (mem_identityKeys_of_hard py
      (List.mem_append_right _ (mem_providerKeys.mpr ⟨hash, hl, hne, rfl⟩)))
    have hkeyRight := hrightKeys ("provider:" ++ hash) (mem_identityKeys_of_hard py
      (List.mem_append_right _ (mem_providerKeys.mpr ⟨hash, hr, hne, rfl⟩)))
    rw [hleftResume, hrightResume, ← hkeyLeft, ← hkeyRight]
  · rw [hresume]
  · rw [hevidence] at hleftEvidence
    rw [hleftResume, hrightResume, ← hleftEvidence, ← hrightEvidence]

/-- A returned identity is live after the call that returned it. -/
lemma everLive_of_everReturned (hinj : HashInjectiveOn py calls)
    (h : EverReturned py calls x) : EverLive py calls x := by
  obtain ⟨earlier, call, hbegins, before, after, identity, hbefore, hcall, hid⟩ := h
  have hinj' : HashInjectiveOn py (earlier ++ [call]) :=
    hinj.of_subset (fun c hc => hbegins.subset hc)
  obtain ⟨index, hindex, hfiled⟩ := callsFiled_afterUpserts
    (hinj'.of_subset (fun c hc => List.mem_append_left _ hc))
  obtain rfl : index = before := Except.ok.inj (hindex.symm.trans hbefore)
  obtain ⟨after', identity', existing, target, hcall', hid', hup, -⟩ := hfiled.upsert hinj'
  obtain ⟨rfl, rfl⟩ := Prod.mk.inj (Except.ok.inj (hcall'.symm.trans hcall))
  exact ⟨earlier ++ [call], hbegins, after', afterUpserts_concat hindex hcall,
    (hup.live x).mpr (Or.inl (hid.symm.trans hid'))⟩

/-- The invariant of the identity index: whatever calls it is given, after every one of them each
resume and evidence row has one owner, old ids resolve in one step, alias sets are disjoint, sharing
joins and, without visible names, only sharing joins. -/
theorem identity_index_sound (py : PythonRuntime) (calls : List CandidateUpsert)
    (hinj : HashInjectiveOn py calls) (seen : List CandidateUpsert) (hseen : seen <+: calls) :
    ∃ index, afterUpserts py seen = .ok index ∧ IdentityIndexSound py seen index := by
  have hinjSeen : HashInjectiveOn py seen := hinj.of_subset (fun c hc => hseen.subset hc)
  obtain ⟨index, hrun, h⟩ := callsFiled_afterUpserts hinjSeen
  refine ⟨index, hrun, ?_, ?_, ?_, ?_, ?_⟩
  · intro call hcall
    obtain ⟨owner, hresume, hevidence, -⟩ := h.filed call hcall
    obtain ⟨identity, hidentity, -⟩ := (h.settled.members.resumes _ owner).mp hresume
    refine ⟨owner, identityForResumeId_eq h.settled hresume,
      AList.lookup_isSome.mp (by rw [hidentity]; rfl), fun identityId => ?_, fun identityId => ?_⟩
    · rw [← h.settled.members.resumes, hresume, Option.some.injEq, eq_comm]
    · rw [← h.settled.members.evidence, hevidence, Option.some.injEq, eq_comm]
  · intro x hx
    have hlive : EverLive py seen x := hx.elim (everLive_of_everReturned hinjSeen) id
    obtain ⟨earlier, ⟨rest, rfl⟩, before, hbefore, hmem⟩ := hlive
    obtain ⟨before', hbefore', hfiled⟩ := callsFiled_afterUpserts
      (hinjSeen.of_subset (fun c hc => List.mem_append_left _ hc))
    obtain rfl : before' = before := Except.ok.inj (hbefore'.symm.trans hbefore)
    have hself := (hfiled.settled.aliases "").self x hmem
    obtain ⟨owner, howner, -⟩ := owner_persists rest hinjSeen hbefore hrun hself
      fun r (hr : r ∈ []) => absurd hr List.not_mem_nil
    have hownerLive := (h.settled.aliases "").live_of_lookup howner
    obtain ⟨identity, hidentity⟩ :=
      Option.isSome_iff_exists.mp (AList.lookup_isSome.mpr hownerLive)
    refine ⟨owner, identity, howner, hidentity, (mem_aliasesFor h.settled hownerLive).mpr howner,
      ?_⟩
    obtain ⟨-, -, hlists⟩ := h.settled.presented (owner ++ "'") owner identity hidentity
    have hne : owner ≠ owner ++ "'" := by
      intro heq
      have hlength := congrArg String.length heq
      simp at hlength
    exact (hlists hne x).mpr ((h.settled.aliases "").forward x owner howner)
  · intro left hleft right hright x hxLeft hxRight
    rw [mem_aliasesFor h.settled hleft] at hxLeft
    rw [mem_aliasesFor h.settled hright] at hxRight
    exact Option.some.inj (hxLeft.symm.trans hxRight)
  · intro left hleft right hright hshares
    rw [identityForResumeId, h.together hleft hright hshares]
    rfl
  · intro hnames left hleft right hright hsame
    obtain ⟨leftOwner, hleftOwner, -⟩ := h.filed left hleft
    obtain ⟨rightOwner, hrightOwner, -⟩ := h.filed right hright
    rw [identityForResumeId_eq h.settled hleftOwner, identityForResumeId_eq h.settled hrightOwner,
      Option.some.injEq] at hsame
    exact h.linked hnames left hleft right hright leftOwner hleftOwner (hsame ▸ hrightOwner)

/-- The digests of the primary keys of `contactAfterProviders`. -/
def contactDigests : PythonRuntime where
  casefold := id
  sha256Hexdigest value :=
    if value = "provider:cts-provider".toUTF8.data.toList then
      "6f4cebf6621b2615f6c6efc6802d16b9dda7e3aadc07465f211d962ba65a8213"
    else if value = "provider:liepin-provider".toUTF8.data.toList then
      "6bebda508fd5214ac2941a4c769b28e4099d05e987a22a02f3d95e91843e777b"
    else "1e67b652dca389a15d21863992ed7b2d6661d5a18f5705e02aaf4859fa244b70"

/-- Two candidates known to their providers, and then a contact under both. -/
def contactAfterProviders : List CandidateUpsert :=
  [⟨"cts-1", "evidence-cts", { providerCandidateKeyHash := some "cts-provider" }⟩,
    ⟨"liepin-1", "evidence-liepin", { providerCandidateKeyHash := some "liepin-provider" }⟩,
    ⟨"liepin-detail-1", "evidence-liepin-detail",
      { providerCandidateKeyHash := some "liepin-provider"
        protectedContactHashes := ["contact-hash-1"] }⟩,
    ⟨"cts-detail-1", "evidence-cts-detail",
      { providerCandidateKeyHash := some "cts-provider"
        protectedContactHashes := ["contact-hash-1"] }⟩]

/-- The index after two candidates turn out to be one. -/
theorem contactAfterProviders_sound : ∃ index,
    afterUpserts contactDigests contactAfterProviders = .ok index ∧
      IdentityIndexSound contactDigests contactAfterProviders index :=
  identity_index_sound contactDigests contactAfterProviders (by decide +kernel)
    contactAfterProviders (List.prefix_refl _)

end SeekTalent.SourceLanes
