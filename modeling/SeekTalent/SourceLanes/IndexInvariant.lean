import SeekTalent.Foundation.Checks
import SeekTalent.SourceLanes.IdentityIndex

/-!
# What the writers of the index keep

The filing of an index is sound when every dictionary agrees with the identities: a resume, an
evidence row and a key point to the one live identity that holds them, and an alias points to the
one live identity that lists it.  Merging hands everything of one identity over to another, and the
alias relation is weaker while a call is under way: a target that was merged away earlier is live
again before the identity that still lists it as an alias has been merged into it.

The main result is `upsertCandidate_spec`: a call never raises, and it redirects the owners that it
found to its target.
-/

namespace SeekTalent.SourceLanes

open Foundation Dict

namespace IdentityFiling

variable (filing : IdentityFiling)
variable {identityId : String}

/-- The identity holds the resume. -/
def OwnsResume (identityId resumeId : String) : Prop :=
  ∃ identity, filing.identities.lookup identityId = some identity ∧ resumeId ∈ identity.resumeIds

/-- The identity holds the evidence. -/
def OwnsEvidence (identityId evidenceId : String) : Prop :=
  ∃ identity, filing.identities.lookup identityId = some identity ∧
    evidenceId ∈ identity.evidenceIds

/-- The identity holds the key. -/
def OwnsKey (identityId key : String) : Prop :=
  ∃ keys, filing.keysByIdentityId.lookup identityId = some keys ∧ key ∈ keys

/-- The identity lists the alias. -/
def OwnsAlias (identityId aliasId : String) : Prop :=
  ∃ aliases, filing.aliasesByCanonicalId.lookup identityId = some aliases ∧ aliasId ∈ aliases

/-- Resumes, evidence and keys point to the live identity that holds them. -/
structure MembersFiled : Prop where
  resumes : PointsTo filing.resumeIdToIdentityId filing.OwnsResume
  evidence : PointsTo filing.evidenceIdToIdentityId filing.OwnsEvidence
  keys : PointsTo filing.keyToIdentityId filing.OwnsKey
  keys_live : ∀ {identityId key}, filing.OwnsKey identityId key → identityId ∈ filing.identities

/-- Aliases point to the live identity that lists them, except that the target may still be listed
by the identities that are yet to be merged into it. -/
structure AliasesFiled (target : String) (pending : List String) : Prop where
  listed : ∀ identityId, identityId ∈ filing.aliasesByCanonicalId ↔ identityId ∈ filing.identities
  self : ∀ identityId ∈ filing.identities, filing.aliasToCanonicalId.lookup identityId =
    some identityId
  forward : ∀ aliasId identityId, filing.aliasToCanonicalId.lookup aliasId = some identityId →
    filing.OwnsAlias identityId aliasId
  backward : ∀ aliasId identityId, filing.OwnsAlias identityId aliasId →
    filing.aliasToCanonicalId.lookup aliasId = some identityId ∨
      (aliasId = target ∧ identityId ∈ pending)

variable {filing} {target : String} {pending : List String}

/-- An identity that lists an alias is live. -/
lemma AliasesFiled.live_of_owns (h : filing.AliasesFiled target pending)
    {aliasId : String}
    (howns : filing.OwnsAlias identityId aliasId) : identityId ∈ filing.identities := by
  obtain ⟨aliases, hlookup, -⟩ := howns
  rw [← h.listed, ← AList.lookup_isSome, hlookup]
  rfl

/-- An alias points to a live identity. -/
lemma AliasesFiled.live_of_lookup (h : filing.AliasesFiled target pending)
    {aliasId : String}
    (hlookup : filing.aliasToCanonicalId.lookup aliasId = some identityId) :
    identityId ∈ filing.identities :=
  h.live_of_owns (h.forward aliasId identityId hlookup)

/-- A live identity is its own canonical id. -/
lemma AliasesFiled.canonical_eq (h : filing.AliasesFiled target pending)
    (hlive : identityId ∈ filing.identities) :
    filing.canonicalIdentityId identityId = identityId := by
  rw [canonicalIdentityId, h.self identityId hlive, Option.getD_some]

/-- With nothing pending the alias map is exactly what the identities list. -/
lemma AliasesFiled.pointsTo (h : filing.AliasesFiled target []) :
    PointsTo filing.aliasToCanonicalId filing.OwnsAlias := by
  intro aliasId identityId
  constructor
  · exact h.forward aliasId identityId
  · intro howns
    rcases h.backward aliasId identityId howns with hlookup | ⟨-, hpending⟩
    · exact hlookup
    · cases hpending

/-- Every identity carries its own id, and lists its aliases, the target excepted. -/
def Presented (filing : IdentityFiling) (target : String) : Prop :=
  ∀ identityId identity, filing.identities.lookup identityId = some identity →
    identity.identityId = identityId ∧ identity.canonicalIdentityId = identityId ∧
      (identityId ≠ target → ∀ x, x ∈ identity.aliasIdentityIds ↔ filing.OwnsAlias identityId x)

/-- The target of settled aliases is irrelevant. -/
lemma AliasesFiled.retarget (h : filing.AliasesFiled target []) (target' : String)
    (pending' : List String) : filing.AliasesFiled target' pending' where
  listed := h.listed
  self := h.self
  forward := h.forward
  backward aliasId identityId howns := Or.inl ((h.pointsTo aliasId identityId).mpr howns)

/-! ## Handing over -/

variable (filing) in
/-- The filing once `updated` stands for the target and for the old identity, whose keys are
`oldKeys`, and lists `aliases`. -/
def takeOver (oldId targetId : String) (updated : RuntimeCandidateIdentity)
    (aliases oldKeys : List String) : IdentityFiling where
  identities := (filing.identities.erase oldId).insert targetId updated
  keyToIdentityId := filing.keyToIdentityId.insertAll oldKeys targetId
  keysByIdentityId := if oldKeys = [] then filing.keysByIdentityId.erase oldId
    else (filing.keysByIdentityId.erase oldId).insert targetId
      (((filing.keysByIdentityId.erase oldId).lookup targetId).getD [] ∪ oldKeys)
  resumeIdToIdentityId := filing.resumeIdToIdentityId.insertAll updated.resumeIds targetId
  evidenceIdToIdentityId := filing.evidenceIdToIdentityId.insertAll updated.evidenceIds targetId
  aliasesByCanonicalId := (filing.aliasesByCanonicalId.erase oldId).insert targetId aliases
  aliasToCanonicalId := filing.aliasToCanonicalId.insertAll aliases targetId

variable (filing) in
/-- The new identity of the target holds what both held. -/
structure TakesOver (oldId targetId : String) (updated : RuntimeCandidateIdentity)
    (aliases oldKeys : List String) : Prop where
  ne : oldId ≠ targetId
  identityId : updated.identityId = targetId ∧ updated.canonicalIdentityId = targetId
  old_live : oldId ∈ filing.identities
  target_live : targetId ∈ filing.identities
  resumes : ∀ x, x ∈ updated.resumeIds ↔ filing.OwnsResume targetId x ∨ filing.OwnsResume oldId x
  evidence : ∀ x, x ∈ updated.evidenceIds ↔
    filing.OwnsEvidence targetId x ∨ filing.OwnsEvidence oldId x
  aliases : ∀ x, x ∈ aliases ↔ filing.OwnsAlias targetId x ∨ filing.OwnsAlias oldId x
  keys : ∀ x, x ∈ oldKeys ↔ filing.OwnsKey oldId x

/-- What handing the identities `olds` over to the target does to the pointers. -/
structure Redirected (before after : IdentityFiling) (olds : List String) (target : String) :
    Prop where
  live : ∀ identityId, identityId ∈ after.identities ↔ identityId ∈ before.identities ∧
    identityId ∉ olds
  resumes : ∀ x, after.resumeIdToIdentityId.lookup x =
    (before.resumeIdToIdentityId.lookup x).map (redirect olds target)
  evidence : ∀ x, after.evidenceIdToIdentityId.lookup x =
    (before.evidenceIdToIdentityId.lookup x).map (redirect olds target)
  keys : ∀ x, after.keyToIdentityId.lookup x =
    (before.keyToIdentityId.lookup x).map (redirect olds target)
  aliases : ∀ x, after.aliasToCanonicalId.lookup x =
    (before.aliasToCanonicalId.lookup x).map (redirect olds target)

/-- Handing over nothing changes nothing. -/
lemma Redirected.refl (filing : IdentityFiling) (target : String) :
    Redirected filing filing [] target where
  live := by simp
  resumes x := by cases filing.resumeIdToIdentityId.lookup x <;> simp [redirect]
  evidence x := by cases filing.evidenceIdToIdentityId.lookup x <;> simp [redirect]
  keys x := by cases filing.keyToIdentityId.lookup x <;> simp [redirect]
  aliases x := by cases filing.aliasToCanonicalId.lookup x <;> simp [redirect]

/-- Handing over one identity and then the rest hands over all of them. -/
lemma Redirected.cons {before between after : IdentityFiling} {old : String} {olds : List String}
    (hfirst : Redirected before between [old] target)
    (hrest : Redirected between after olds target) :
    Redirected before after (old :: olds) target where
  live identityId := by
    rw [hrest.live, hfirst.live, List.mem_singleton, List.mem_cons]
    tauto
  resumes x := by
    rw [hrest.resumes, hfirst.resumes, Option.map_map]
    exact congrArg (Option.map · _) (funext (redirect_cons old olds target))
  evidence x := by
    rw [hrest.evidence, hfirst.evidence, Option.map_map]
    exact congrArg (Option.map · _) (funext (redirect_cons old olds target))
  keys x := by
    rw [hrest.keys, hfirst.keys, Option.map_map]
    exact congrArg (Option.map · _) (funext (redirect_cons old olds target))
  aliases x := by
    rw [hrest.aliases, hfirst.aliases, Option.map_map]
    exact congrArg (Option.map · _) (funext (redirect_cons old olds target))

section TakeOver

variable {oldId targetId : String} {updated : RuntimeCandidateIdentity}
    {aliases oldKeys : List String}

lemma lookup_identities_takeOver (identityId : String) :
    (filing.takeOver oldId targetId updated aliases oldKeys).identities.lookup identityId =
      if identityId = targetId then some updated
      else if identityId = oldId then none else filing.identities.lookup identityId := by
  rw [takeOver, lookup_insert_ite, lookup_erase_ite]

lemma mem_identities_takeOver (h : filing.TakesOver oldId targetId updated aliases oldKeys)
    (identityId : String) :
    identityId ∈ (filing.takeOver oldId targetId updated aliases oldKeys).identities ↔
      identityId ∈ filing.identities ∧ identityId ∉ [oldId] := by
  rw [takeOver, AList.mem_insert, AList.mem_erase, List.mem_singleton]
  constructor
  · rintro (rfl | ⟨hne, hlive⟩)
    · exact ⟨h.target_live, h.ne.symm⟩
    · exact ⟨hlive, hne⟩
  · rintro ⟨hlive, hne⟩
    exact Or.inr ⟨hne, hlive⟩

lemma ownsResume_takeOver (h : filing.TakesOver oldId targetId updated aliases oldKeys)
    (identityId x : String) :
    (filing.takeOver oldId targetId updated aliases oldKeys).OwnsResume identityId x ↔
      (identityId = targetId ∧ (filing.OwnsResume targetId x ∨ filing.OwnsResume oldId x)) ∨
        (identityId ≠ targetId ∧ identityId ≠ oldId ∧ filing.OwnsResume identityId x) := by
  rw [OwnsResume, lookup_identities_takeOver, ← h.resumes]
  by_cases htarget : identityId = targetId
  · simp [htarget]
  · by_cases hold : identityId = oldId <;> simp [htarget, hold, OwnsResume]

lemma ownsEvidence_takeOver (h : filing.TakesOver oldId targetId updated aliases oldKeys)
    (identityId x : String) :
    (filing.takeOver oldId targetId updated aliases oldKeys).OwnsEvidence identityId x ↔
      (identityId = targetId ∧ (filing.OwnsEvidence targetId x ∨ filing.OwnsEvidence oldId x)) ∨
        (identityId ≠ targetId ∧ identityId ≠ oldId ∧ filing.OwnsEvidence identityId x) := by
  rw [OwnsEvidence, lookup_identities_takeOver, ← h.evidence]
  by_cases htarget : identityId = targetId
  · simp [htarget]
  · by_cases hold : identityId = oldId <;> simp [htarget, hold, OwnsEvidence]

lemma ownsKey_takeOver (h : filing.TakesOver oldId targetId updated aliases oldKeys)
    (identityId x : String) :
    (filing.takeOver oldId targetId updated aliases oldKeys).OwnsKey identityId x ↔
      (identityId = targetId ∧ (filing.OwnsKey targetId x ∨ filing.OwnsKey oldId x)) ∨
        (identityId ≠ targetId ∧ identityId ≠ oldId ∧ filing.OwnsKey identityId x) := by
  rw [← h.keys x, OwnsKey, takeOver]
  by_cases hkeys : oldKeys = []
  · subst hkeys
    simp only [if_true, lookup_erase_ite, List.not_mem_nil, or_false]
    by_cases hold : identityId = oldId
    · simp [hold, h.ne]
    · by_cases htarget : identityId = targetId
      · subst htarget
        simp [hold, OwnsKey]
      · simp [hold, htarget, OwnsKey]
  · simp only [hkeys, if_false, lookup_insert_ite, lookup_erase_ite, h.ne.symm]
    by_cases htarget : identityId = targetId
    · cases hstored : filing.keysByIdentityId.lookup targetId <;>
        simp [htarget, OwnsKey, hstored]
    · by_cases hold : identityId = oldId
      · simp [hold, h.ne]
      · simp [htarget, hold, OwnsKey]

lemma ownsAlias_takeOver (h : filing.TakesOver oldId targetId updated aliases oldKeys)
    (identityId x : String) :
    (filing.takeOver oldId targetId updated aliases oldKeys).OwnsAlias identityId x ↔
      (identityId = targetId ∧ (filing.OwnsAlias targetId x ∨ filing.OwnsAlias oldId x)) ∨
        (identityId ≠ targetId ∧ identityId ≠ oldId ∧ filing.OwnsAlias identityId x) := by
  rw [OwnsAlias, takeOver, lookup_insert_ite, lookup_erase_ite, ← h.aliases]
  by_cases htarget : identityId = targetId
  · simp [htarget]
  · by_cases hold : identityId = oldId <;> simp [htarget, hold, OwnsAlias]

/-- Handing over redirects every pointer. -/
lemma takeOver_redirected (hmembers : filing.MembersFiled)
    (haliases : filing.AliasesFiled targetId (oldId :: pending))
    (h : filing.TakesOver oldId targetId updated aliases oldKeys) :
    Redirected filing (filing.takeOver oldId targetId updated aliases oldKeys)
      [oldId] targetId where
  live := mem_identities_takeOver h
  resumes x := by
    apply lookup_insertAll_redirect
    · intro y hy
      rw [hmembers.resumes, hmembers.resumes]
      exact (h.resumes y).mp hy
    · intro hlookup
      exact (h.resumes x).mpr (Or.inr ((hmembers.resumes x oldId).mp hlookup))
  evidence x := by
    apply lookup_insertAll_redirect
    · intro y hy
      rw [hmembers.evidence, hmembers.evidence]
      exact (h.evidence y).mp hy
    · intro hlookup
      exact (h.evidence x).mpr (Or.inr ((hmembers.evidence x oldId).mp hlookup))
  keys x := by
    apply lookup_insertAll_redirect
    · intro y hy
      exact Or.inr ((hmembers.keys y oldId).mpr ((h.keys y).mp hy))
    · intro hlookup
      exact (h.keys x).mpr ((hmembers.keys x oldId).mp hlookup)
  aliases x := by
    have hself := haliases.self targetId h.target_live
    apply lookup_insertAll_redirect
    · intro y hy
      -- the target may still be listed by the old identity, and then it points to itself
      rcases (h.aliases y).mp hy with howns | howns
      · rcases haliases.backward y targetId howns with hlookup | ⟨rfl, -⟩
        · exact Or.inl hlookup
        · exact Or.inl hself
      · rcases haliases.backward y oldId howns with hlookup | ⟨rfl, -⟩
        · exact Or.inr hlookup
        · exact Or.inl hself
    · intro hlookup
      exact (h.aliases x).mpr (Or.inr (haliases.forward x oldId hlookup))

/-- Handing over keeps the members filed. -/
lemma takeOver_membersFiled (hmembers : filing.MembersFiled)
    (haliases : filing.AliasesFiled targetId (oldId :: pending))
    (h : filing.TakesOver oldId targetId updated aliases oldKeys) :
    (filing.takeOver oldId targetId updated aliases oldKeys).MembersFiled where
  resumes := hmembers.resumes.redirect h.ne (takeOver_redirected hmembers haliases h).resumes
    (ownsResume_takeOver h)
  evidence := hmembers.evidence.redirect h.ne (takeOver_redirected hmembers haliases h).evidence
    (ownsEvidence_takeOver h)
  keys := hmembers.keys.redirect h.ne (takeOver_redirected hmembers haliases h).keys
    (ownsKey_takeOver h)
  keys_live := by
    intro identityId key howns
    rw [mem_identities_takeOver h, List.mem_singleton]
    rcases (ownsKey_takeOver h identityId key).mp howns with ⟨rfl, -⟩ | ⟨-, hne, hkey⟩
    · exact ⟨h.target_live, h.ne.symm⟩
    · exact ⟨hmembers.keys_live hkey, hne⟩

/-- Handing over leaves one pending identity fewer. -/
lemma takeOver_aliasesFiled (hmembers : filing.MembersFiled)
    (haliases : filing.AliasesFiled targetId (oldId :: pending))
    (h : filing.TakesOver oldId targetId updated aliases oldKeys) :
    (filing.takeOver oldId targetId updated aliases oldKeys).AliasesFiled targetId pending where
  listed identityId := by
    have hlisted := haliases.listed identityId
    rw [mem_identities_takeOver h, takeOver, AList.mem_insert, AList.mem_erase, hlisted,
      List.mem_singleton]
    constructor
    · rintro (rfl | ⟨hne, hlive⟩)
      · exact ⟨h.target_live, h.ne.symm⟩
      · exact ⟨hlive, hne⟩
    · rintro ⟨hlive, hne⟩
      exact Or.inr ⟨hne, hlive⟩
  self identityId hlive := by
    obtain ⟨hbefore, hne⟩ := (mem_identities_takeOver h identityId).mp hlive
    rw [(takeOver_redirected hmembers haliases h).aliases, haliases.self identityId hbefore]
    simp [redirect, List.mem_singleton.not.mp hne]
  forward aliasId identityId hlookup := by
    rw [(takeOver_redirected hmembers haliases h).aliases, Option.map_eq_some_iff] at hlookup
    obtain ⟨before, hbefore, rfl⟩ := hlookup
    have howns := haliases.forward aliasId before hbefore
    rw [ownsAlias_takeOver h]
    by_cases hold : before = oldId
    · subst hold
      exact Or.inl ⟨by simp [redirect], Or.inr howns⟩
    · by_cases htarget : before = targetId
      · subst htarget
        exact Or.inl ⟨by simp [redirect], Or.inl howns⟩
      · have hkept : redirect [oldId] targetId before = before := by simp [redirect, hold]
        rw [hkept]
        exact Or.inr ⟨htarget, hold, howns⟩
  backward aliasId identityId howns := by
    rw [(takeOver_redirected hmembers haliases h).aliases]
    have hself := haliases.self targetId h.target_live
    rcases (ownsAlias_takeOver h identityId aliasId).mp howns with
      ⟨rfl, htarget | hold⟩ | ⟨htarget, hold, hother⟩
    · left
      rcases haliases.backward aliasId identityId htarget with hlookup | ⟨rfl, -⟩
      · simp [hlookup, redirect]
      · simp [hself, redirect]
    · left
      rcases haliases.backward aliasId oldId hold with hlookup | ⟨rfl, -⟩
      · simp [hlookup, redirect]
      · simp [hself, redirect]
    · rcases haliases.backward aliasId identityId hother with hlookup | ⟨rfl, hpending⟩
      · left
        simp [hlookup, redirect, hold]
      · right
        rcases List.mem_cons.mp hpending with heq | hrest
        · exact absurd heq hold
        · exact ⟨rfl, hrest⟩

/-- Handing over changes no other identity. -/
lemma takeOver_presented (hpresented : filing.Presented targetId)
    (h : filing.TakesOver oldId targetId updated aliases oldKeys) :
    (filing.takeOver oldId targetId updated aliases oldKeys).Presented targetId := by
  intro identityId identity hlookup
  rw [lookup_identities_takeOver] at hlookup
  by_cases htarget : identityId = targetId
  · rw [if_pos htarget] at hlookup
    cases hlookup
    rw [htarget]
    exact ⟨h.identityId.1, h.identityId.2, fun hne => absurd rfl hne⟩
  · by_cases hold : identityId = oldId
    · simp [hold, h.ne] at hlookup
    · rw [if_neg htarget, if_neg hold] at hlookup
      obtain ⟨hid, hcanonical, hlists⟩ := hpresented identityId identity hlookup
      refine ⟨hid, hcanonical, fun _ x => ?_⟩
      rw [hlists htarget, ownsAlias_takeOver h]
      simp [htarget, hold]

end TakeOver

end IdentityFiling

namespace RuntimeCandidateIdentityIndex

open IdentityFiling

variable {index : RuntimeCandidateIdentityIndex}
variable {target identityId : String}
variable {x name targetId : String} {identityIds : List String}

/-! ## Writers that leave the filing alone -/

@[simp] lemma removeIdentitySignals_toIdentityFiling (identityId : String) :
    (index.removeIdentitySignals identityId).toIdentityFiling = index.toIdentityFiling := rfl

@[simp] lemma setIdentitySignals_toIdentityFiling (identityId : String)
    (signals : RuntimeIdentitySignals) :
    (index.setIdentitySignals identityId signals).toIdentityFiling = index.toIdentityFiling := by
  unfold setIdentitySignals
  cases signals.fuzzyBucketName <;> rfl

@[simp] lemma mergeSignals_toIdentityFiling (oldId targetId : String) :
    (index.mergeSignals oldId targetId).toIdentityFiling = index.toIdentityFiling := by
  rw [mergeSignals, setIdentitySignals_toIdentityFiling, removeIdentitySignals_toIdentityFiling]

@[simp] lemma dropResolvedConflicts_toIdentityFiling :
    index.dropResolvedConflicts.toIdentityFiling = index.toIdentityFiling := rfl

/-! ## The buckets of fuzzy matching

Whatever a bucket holds is an id that the alias map knows, so a fuzzy candidate is live. -/

/-- The ids in the buckets are known to the alias map. -/
def BucketsKnown (index : RuntimeCandidateIdentityIndex) : Prop :=
  ∀ name identityIds, index.fuzzyIdentityIdsByName.lookup name = some identityIds →
    ∀ identityId ∈ identityIds, identityId ∈ index.aliasToCanonicalId

lemma bucketsKnown_congr {index' : RuntimeCandidateIdentityIndex}
    (hbuckets : index'.fuzzyIdentityIdsByName = index.fuzzyIdentityIdsByName)
    (haliases : ∀ identityId ∈ index.aliasToCanonicalId, identityId ∈ index'.aliasToCanonicalId)
    (h : index.BucketsKnown) : index'.BucketsKnown := by
  intro name identityIds hlookup identityId hmem
  rw [hbuckets] at hlookup
  exact haliases identityId (h name identityIds hlookup identityId hmem)

/-- Discarding an id from a bucket adds nothing. -/
lemma mem_of_mem_discardFromBucket {bucket : String}
    (hlookup : (index.discardFromBucket bucket identityId).lookup name = some identityIds)
    (hx : x ∈ identityIds) :
    ∃ before, index.fuzzyIdentityIdsByName.lookup name = some before ∧ x ∈ before := by
  unfold discardFromBucket at hlookup
  cases hbucket : index.fuzzyIdentityIdsByName.lookup bucket with
  | none =>
    rw [hbucket] at hlookup
    exact ⟨identityIds, hlookup, hx⟩
  | some stored =>
    simp only [hbucket] at hlookup
    split at hlookup
    · rw [lookup_erase_ite] at hlookup
      split at hlookup
      · cases hlookup
      · exact ⟨identityIds, hlookup, hx⟩
    · rw [lookup_insert_ite] at hlookup
      split at hlookup
      · rename_i hname
        subst hname
        cases hlookup
        exact ⟨stored, hbucket, (List.mem_filter.mp hx).1⟩
      · exact ⟨identityIds, hlookup, hx⟩

lemma BucketsKnown.removeIdentitySignals (h : index.BucketsKnown) (identityId : String) :
    (index.removeIdentitySignals identityId).BucketsKnown := by
  intro name identityIds hlookup x hx
  simp only [RuntimeCandidateIdentityIndex.removeIdentitySignals] at hlookup
  split at hlookup
  · exact h name identityIds hlookup x hx
  · obtain ⟨before, hbefore, hmem⟩ := mem_of_mem_discardFromBucket hlookup hx
    exact h name before hbefore x hmem

lemma BucketsKnown.setIdentitySignals (h : index.BucketsKnown)
    (hknown : index.aliasToCanonicalId.lookup identityId = some identityId)
    (signals : RuntimeIdentitySignals) :
    (index.setIdentitySignals identityId signals).BucketsKnown := by
  have hcanonical : index.canonicalIdentityId identityId = identityId := by
    rw [canonicalIdentityId, hknown, Option.getD_some]
  have hremoved := h.removeIdentitySignals identityId
  intro name identityIds hlookup x hx
  rw [setIdentitySignals_toIdentityFiling]
  unfold RuntimeCandidateIdentityIndex.setIdentitySignals at hlookup
  simp only [hcanonical] at hlookup
  cases hbucket : signals.fuzzyBucketName with
  | none =>
    rw [hbucket] at hlookup
    exact hremoved name identityIds hlookup x hx
  | some bucket =>
    simp only [hbucket, lookup_insert_ite] at hlookup
    split at hlookup
    · cases hlookup
      rcases List.mem_union_iff.mp hx with hstored | hself
      · cases hprevious : (index.removeIdentitySignals identityId).fuzzyIdentityIdsByName.lookup
          bucket with
        | none => rw [hprevious] at hstored; cases hstored
        | some stored =>
          rw [hprevious] at hstored
          exact hremoved bucket stored hprevious x hstored
      · rw [List.mem_singleton.mp hself, ← AList.lookup_isSome, hknown]
        rfl
    · exact hremoved name identityIds hlookup x hx

/-! ## The signals of identities -/

/-- An identity with signals under a visible name is in the bucket of that name. -/
def BucketsComplete (index : RuntimeCandidateIdentityIndex) : Prop :=
  ∀ identityId signals name, index.signalsByIdentityId.lookup identityId = some signals →
    signals.fuzzyBucketName = some name →
      ∃ identityIds, index.fuzzyIdentityIdsByName.lookup name = some identityIds ∧
        identityId ∈ identityIds

/-- From one index to the next the signals of the target become `value`, and nobody else's
change. -/
structure Signed (before after : RuntimeCandidateIdentityIndex) (target : String)
    (value : Option RuntimeIdentitySignals) : Prop where
  others : ∀ identityId, identityId ≠ target →
    after.signalsByIdentityId.lookup identityId = before.signalsByIdentityId.lookup identityId
  target : after.signalsByIdentityId.lookup target = value
  complete : before.BucketsComplete → after.BucketsComplete

/-- The signals are only read through the two dictionaries. -/
lemma Signed.congr_right {before after after' : RuntimeCandidateIdentityIndex}
    {value : Option RuntimeIdentitySignals} (h : Signed before after target value)
    (hsignals : after'.signalsByIdentityId = after.signalsByIdentityId)
    (hbuckets : after'.fuzzyIdentityIdsByName = after.fuzzyIdentityIdsByName) :
    Signed before after' target value where
  others := by rw [hsignals]; exact h.others
  target := by rw [hsignals]; exact h.target
  complete hbefore := by
    have hafter := h.complete hbefore
    unfold BucketsComplete at hafter ⊢
    rw [hsignals, hbuckets]
    exact hafter

/-- Discarding an id from a bucket keeps everybody else there. -/
lemma mem_discardFromBucket {bucket : String}
    (hlookup : index.fuzzyIdentityIdsByName.lookup name = some identityIds) (hx : x ∈ identityIds)
    (hne : x ≠ identityId) :
    ∃ kept, (index.discardFromBucket bucket identityId).lookup name = some kept ∧ x ∈ kept := by
  unfold discardFromBucket
  cases hbucket : index.fuzzyIdentityIdsByName.lookup bucket with
  | none => exact ⟨identityIds, hlookup, hx⟩
  | some stored =>
    dsimp only
    by_cases hname : name = bucket
    · subst hname
      obtain rfl : stored = identityIds := Option.some.inj (hbucket.symm.trans hlookup)
      have hkept : x ∈ stored.filter (· ≠ identityId) := by simp [hx, hne]
      rw [if_neg (List.ne_nil_of_mem hkept), AList.lookup_insert]
      exact ⟨_, rfl, hkept⟩
    · split
      · rw [lookup_erase_ite, if_neg hname]
        exact ⟨identityIds, hlookup, hx⟩
      · rw [lookup_insert_ite, if_neg hname]
        exact ⟨identityIds, hlookup, hx⟩

/-- Removing the signals of a live identity keeps everybody else in the buckets. -/
lemma mem_buckets_removeIdentitySignals (hcanonical : index.canonicalIdentityId target = target)
    (hlookup : index.fuzzyIdentityIdsByName.lookup name = some identityIds) (hx : x ∈ identityIds)
    (hne : x ≠ target) :
    ∃ kept, (index.removeIdentitySignals target).fuzzyIdentityIdsByName.lookup name = some kept ∧
      x ∈ kept := by
  unfold removeIdentitySignals
  rw [hcanonical]
  dsimp only
  cases index.fuzzyNameByIdentityId.lookup target with
  | none => exact ⟨identityIds, hlookup, hx⟩
  | some previous => exact mem_discardFromBucket hlookup hx hne

/-- Setting the signals of a live identity. -/
lemma setIdentitySignals_signed
    (hcanonical : index.canonicalIdentityId target = target) (signals : RuntimeIdentitySignals) :
    Signed index (index.setIdentitySignals target signals) target (some signals) := by
  have hremoved : (index.removeIdentitySignals target).signalsByIdentityId =
      index.signalsByIdentityId.erase target := by
    rw [removeIdentitySignals, hcanonical]
  have hstored : (index.setIdentitySignals target signals).signalsByIdentityId =
      (index.signalsByIdentityId.erase target).insert target signals := by
    rw [← hremoved]
    unfold setIdentitySignals
    rw [hcanonical]
    cases signals.fuzzyBucketName <;> rfl
  refine ⟨fun identityId hne => ?_, ?_, fun hcomplete identityId found name hlookup hname => ?_⟩
  · rw [hstored, lookup_insert_ite, if_neg hne, lookup_erase_ite, if_neg hne]
  · rw [hstored, AList.lookup_insert]
  · rw [hstored, lookup_insert_ite] at hlookup
    by_cases htarget : identityId = target
    · rw [if_pos htarget] at hlookup
      cases hlookup
      unfold setIdentitySignals
      simp only [hcanonical, hname]
      exact ⟨_, AList.lookup_insert _, by simp [htarget]⟩
    · rw [if_neg htarget, lookup_erase_ite, if_neg htarget] at hlookup
      obtain ⟨identityIds, hbucket, hmem⟩ := hcomplete identityId found name hlookup hname
      -- the target alone leaves a bucket
      obtain ⟨kept, hkept, hmemKept⟩ :=
        mem_buckets_removeIdentitySignals hcanonical hbucket hmem htarget
      unfold setIdentitySignals
      simp only [hcanonical]
      cases hnew : signals.fuzzyBucketName with
      | none => exact ⟨kept, hkept, hmemKept⟩
      | some bucket =>
        simp only [lookup_insert_ite]
        by_cases hsame : name = bucket
        · subst hsame
          rw [if_pos rfl, hkept, Option.getD_some]
          exact ⟨_, rfl, List.mem_union_iff.mpr (Or.inl hmemKept)⟩
        · rw [if_neg hsame]
          exact ⟨kept, hkept, hmemKept⟩

/-- Taking over an identity leaves the target with its own signals, or with none that say anything:
those of the old identity are lost. -/
lemma mergeSignals_signed {oldId : String}
    (hold : index.canonicalIdentityId oldId = targetId)
    (htarget : index.canonicalIdentityId targetId = targetId) :
    Signed index (index.mergeSignals oldId targetId) targetId
      (some ((index.signalsByIdentityId.lookup targetId).getD {})) := by
  have hremoved : index.removeIdentitySignals oldId = index.removeIdentitySignals targetId := by
    rw [removeIdentitySignals, removeIdentitySignals, hold, htarget]
  have hvalue : mergeIdentitySignals
      ((index.removeIdentitySignals oldId).signalsByIdentityId.lookup targetId)
      (index.removedIdentitySignals oldId) =
        (index.signalsByIdentityId.lookup targetId).getD {} := by
    rw [hremoved, removedIdentitySignals, hold, removeIdentitySignals, htarget, AList.lookup_erase]
    rfl
  rw [mergeSignals, hvalue, hremoved]
  have hself : (index.removeIdentitySignals targetId).canonicalIdentityId targetId = targetId :=
    htarget
  have hset := setIdentitySignals_signed hself ((index.signalsByIdentityId.lookup targetId).getD {})
  refine ⟨fun identityId hne => ?_, hset.target, fun hcomplete => hset.complete ?_⟩
  · rw [hset.others identityId hne, removeIdentitySignals, htarget, lookup_erase_ite, if_neg hne]
  · intro identityId found name hlookup hname
    rw [removeIdentitySignals, htarget, lookup_erase_ite] at hlookup
    split at hlookup
    · cases hlookup
    · rename_i hne
      obtain ⟨identityIds, hbucket, hmem⟩ := hcomplete identityId found name hlookup hname
      exact mem_buckets_removeIdentitySignals htarget hbucket hmem hne

/-! ## Merging one identity -/

/-- Filing keys under a live identity points them at it. -/
lemma indexIdentityKeys_toIdentityFiling
    (hcanonical : index.canonicalIdentityId identityId = identityId) (keys : List String) :
    (index.indexIdentityKeys identityId keys).toIdentityFiling =
      { index.toIdentityFiling with
        keyToIdentityId := index.keyToIdentityId.insertAll keys identityId
        keysByIdentityId := if keys = [] then index.keysByIdentityId
          else index.keysByIdentityId.insert identityId
            ((index.keysByIdentityId.lookup identityId).getD [] ∪ keys) } := by
  unfold indexIdentityKeys
  rw [hcanonical]
  by_cases hkeys : keys = []
  · subst hkeys
    rfl
  · simp only [hkeys, if_false]

/-- Filing under a live identity points its members and the new keys at it. -/
lemma indexIdentityMembership_toIdentityFiling
    (hcanonical : index.canonicalIdentityId identityId = identityId)
    (identity : RuntimeCandidateIdentity) (keys : List String) :
    (index.indexIdentityMembership identityId identity keys).toIdentityFiling =
      { index.toIdentityFiling with
        resumeIdToIdentityId := index.resumeIdToIdentityId.insertAll identity.resumeIds identityId
        evidenceIdToIdentityId :=
          index.evidenceIdToIdentityId.insertAll identity.evidenceIds identityId
        keyToIdentityId := index.keyToIdentityId.insertAll keys identityId
        keysByIdentityId := if keys = [] then index.keysByIdentityId
          else index.keysByIdentityId.insert identityId
            ((index.keysByIdentityId.lookup identityId).getD [] ∪ keys) } := by
  unfold indexIdentityMembership
  rw [hcanonical, indexIdentityKeys_toIdentityFiling]
  exact hcanonical

/-- Filing does not touch the buckets. -/
lemma indexIdentityMembership_buckets (identityId : String) (identity : RuntimeCandidateIdentity)
    (keys : List String) :
    (index.indexIdentityMembership identityId identity keys).fuzzyIdentityIdsByName =
      index.fuzzyIdentityIdsByName := by
  unfold indexIdentityMembership indexIdentityKeys
  split <;> rfl

/-- Filing does not touch the signals. -/
lemma indexIdentityMembership_signals (identityId : String) (identity : RuntimeCandidateIdentity)
    (keys : List String) :
    (index.indexIdentityMembership identityId identity keys).signalsByIdentityId =
      index.signalsByIdentityId := by
  unfold indexIdentityMembership indexIdentityKeys
  split <;> rfl

/-- An index while a call is merging: `pending` are the identities that are still to be merged into
the target. -/
structure Merging (index : RuntimeCandidateIdentityIndex) (target : String)
    (pending : List String) : Prop where
  members : index.MembersFiled
  aliases : index.AliasesFiled target pending
  buckets : index.BucketsKnown
  presented : index.Presented target
  target_live : target ∈ index.identities

/-- One merge succeeds, and hands the old identity over to the target. -/
theorem mergeIdentity_spec {oldId : String} {pending : List String}
    (h : index.Merging targetId (oldId :: pending)) (hne : oldId ≠ targetId)
    (hlive : oldId ∈ index.identities) :
    ∃ index', index.mergeIdentity oldId targetId = .ok index' ∧ index'.Merging targetId pending ∧
      Redirected index.toIdentityFiling index'.toIdentityFiling [oldId] targetId ∧
      Signed index index' targetId
        (some ((index.signalsByIdentityId.lookup targetId).getD {})) := by
  obtain ⟨oldIdentity, hold⟩ := Option.isSome_iff_exists.mp (AList.lookup_isSome.mpr hlive)
  obtain ⟨targetIdentity, htarget⟩ :=
    Option.isSome_iff_exists.mp (AList.lookup_isSome.mpr h.target_live)
  have hitem : Dict.item (index.identities.erase oldId) targetId = .ok targetIdentity := by
    rw [item_eq_ok, lookup_erase_ite, if_neg hne.symm, htarget]
  obtain ⟨updated, hupdated⟩ : ∃ updated : RuntimeCandidateIdentity, updated = { targetIdentity with
      resumeIds := sortedTexts (targetIdentity.resumeIds ++ oldIdentity.resumeIds)
      evidenceIds := sortedTexts (targetIdentity.evidenceIds ++ oldIdentity.evidenceIds)
      aliasIdentityIds := sortedTexts (index.mergedAliases oldId targetId) } := ⟨_, rfl⟩
  obtain ⟨oldKeys, holdKeys⟩ : ∃ keys, keys = (index.keysByIdentityId.lookup oldId).getD [] :=
    ⟨_, rfl⟩
  have hself : ∀ identityId ∈ index.identities, index.OwnsAlias identityId identityId :=
    fun identityId hid => h.aliases.forward _ _ (h.aliases.self identityId hid)
  have htakes : index.TakesOver oldId targetId updated (index.mergedAliases oldId targetId)
      oldKeys :=
    { ne := hne
      identityId := by
        obtain ⟨hid, hcanonical, -⟩ := h.presented targetId targetIdentity htarget
        simp [hupdated, hid, hcanonical]
      old_live := hlive
      target_live := h.target_live
      resumes := by intro x; simp [hupdated, OwnsResume, hold, htarget]
      evidence := by intro x; simp [hupdated, OwnsEvidence, hold, htarget]
      aliases := by
        intro x
        obtain ⟨targetAliases, htargetAliases, htargetSelf⟩ := hself targetId h.target_live
        obtain ⟨oldAliases, holdAliases, holdSelf⟩ := hself oldId hlive
        simp only [mergedAliases, htargetAliases, holdAliases, Option.getD_some, OwnsAlias,
          List.mem_union_iff, Option.some.injEq, exists_eq_left', List.mem_cons, List.not_mem_nil,
          or_false]
        constructor
        · rintro (hx | rfl | rfl)
          · exact hx
          · exact Or.inr holdSelf
          · exact Or.inl htargetSelf
        · exact Or.inl
      keys := by
        intro x
        rw [holdKeys, OwnsKey]
        cases index.keysByIdentityId.lookup oldId <;> simp }
  obtain ⟨stored, hstored⟩ : ∃ stored : RuntimeCandidateIdentityIndex, stored =
      { index.mergeAliases oldId targetId with
        identities := (index.identities.erase oldId).insert targetId updated
        keysByIdentityId := index.keysByIdentityId.erase oldId } := ⟨_, rfl⟩
  have hrun : index.mergeIdentity oldId targetId =
      .ok ((stored.mergeSignals oldId targetId).indexIdentityMembership targetId updated
        oldKeys).dropResolvedConflicts := by
    simp only [mergeIdentity, hold, hitem, hstored, hupdated, holdKeys]
    rfl
  have hknown : stored.aliasToCanonicalId.lookup targetId = some targetId := by
    rw [hstored]
    exact (lookup_insertAll _ _ _ _).trans
      (if_pos ((htakes.aliases targetId).mpr (Or.inl (hself targetId h.target_live))))
  have hcanonical : (stored.mergeSignals oldId targetId).canonicalIdentityId targetId =
      targetId := by
    rw [mergeSignals_toIdentityFiling, canonicalIdentityId, hknown, Option.getD_some]
  have hfiling : ((stored.mergeSignals oldId targetId).indexIdentityMembership targetId updated
      oldKeys).dropResolvedConflicts.toIdentityFiling =
        index.takeOver oldId targetId updated (index.mergedAliases oldId targetId) oldKeys := by
    rw [dropResolvedConflicts_toIdentityFiling, indexIdentityMembership_toIdentityFiling hcanonical,
      mergeSignals_toIdentityFiling, hstored]
    rfl
  refine ⟨_, hrun, ⟨?_, ?_, ?_, ?_, ?_⟩, ?_, ?_⟩
  · rw [hfiling]
    exact takeOver_membersFiled h.members h.aliases htakes
  · rw [hfiling]
    exact takeOver_aliasesFiled h.members h.aliases htakes
  · have hbuckets : stored.BucketsKnown := by
      have haliases : ∀ x ∈ index.aliasToCanonicalId, x ∈ stored.aliasToCanonicalId := by
        intro x hx
        rw [hstored, ← AList.lookup_isSome]
        rw [← AList.lookup_isSome] at hx
        simp only [mergeAliases, lookup_insertAll]
        split
        · rfl
        · exact hx
      exact bucketsKnown_congr (by rw [hstored]; rfl) haliases h.buckets
    have hmerged : (stored.mergeSignals oldId targetId).BucketsKnown :=
      (hbuckets.removeIdentitySignals oldId).setIdentitySignals hknown _
    refine bucketsKnown_congr (indexIdentityMembership_buckets _ _ _) (fun x hx => ?_) hmerged
    rw [dropResolvedConflicts_toIdentityFiling, indexIdentityMembership_toIdentityFiling hcanonical]
    exact hx
  · rw [hfiling]
    exact takeOver_presented h.presented htakes
  · rw [hfiling, mem_identities_takeOver htakes]
    exact ⟨h.target_live, by simpa using hne.symm⟩
  · rw [hfiling]
    exact takeOver_redirected h.members h.aliases htakes
  · have holdCanonical : stored.canonicalIdentityId oldId = targetId := by
      have hlookup : stored.aliasToCanonicalId.lookup oldId = some targetId := by
        rw [hstored]
        exact (lookup_insertAll _ _ _ _).trans
          (if_pos ((htakes.aliases oldId).mpr (Or.inr (hself oldId hlive))))
      rw [canonicalIdentityId, hlookup, Option.getD_some]
    have htargetCanonical : stored.canonicalIdentityId targetId = targetId := by
      rw [canonicalIdentityId, hknown, Option.getD_some]
    have hsigned := mergeSignals_signed holdCanonical htargetCanonical
    have hsame : stored.signalsByIdentityId = index.signalsByIdentityId := by rw [hstored]; rfl
    rw [← hsame]
    have hbefore : Signed index (stored.mergeSignals oldId targetId) targetId
        (some ((stored.signalsByIdentityId.lookup targetId).getD {})) := by
      refine ⟨fun x hne => ?_, hsigned.target, fun hcomplete => hsigned.complete ?_⟩
      · rw [hsigned.others x hne, hsame]
      · rw [hstored]
        exact hcomplete
    exact hbefore.congr_right (indexIdentityMembership_signals _ _ _)
      (indexIdentityMembership_buckets _ _ _)

/-- Merging one identity after another hands all of them over. -/
theorem mergeAll_spec (olds : List String) :
    ∀ index : RuntimeCandidateIdentityIndex, index.Merging targetId olds → olds.Nodup →
      targetId ∉ olds → (∀ oldId ∈ olds, oldId ∈ index.identities) →
      ∃ index', olds.foldlM (fun index oldId => mergeIdentity index oldId targetId) index =
          .ok index' ∧ index'.Merging targetId [] ∧
        Redirected index.toIdentityFiling index'.toIdentityFiling olds targetId ∧
        Signed index index' targetId (if olds = [] then index.signalsByIdentityId.lookup targetId
          else some ((index.signalsByIdentityId.lookup targetId).getD {})) := by
  induction olds with
  | nil => exact fun index h _ _ _ =>
    ⟨index, rfl, h, Redirected.refl _ _, ⟨fun _ _ => rfl, rfl, id⟩⟩
  | cons oldId rest ih =>
    intro index h hnodup htarget hlive
    have hne : oldId ≠ targetId := fun heq => htarget (heq ▸ List.mem_cons_self)
    obtain ⟨between, hmerge, hbetween, hfirst, hsigned⟩ :=
      mergeIdentity_spec h hne (hlive oldId List.mem_cons_self)
    have hrestLive : ∀ x ∈ rest, x ∈ between.identities := by
      intro x hx
      rw [hfirst.live, List.mem_singleton]
      exact ⟨hlive x (List.mem_cons_of_mem oldId hx),
        fun heq => (List.nodup_cons.mp hnodup).1 (heq ▸ hx)⟩
    obtain ⟨after, hfold, hafter, hrest, hsignedRest⟩ := ih between hbetween
      (List.nodup_cons.mp hnodup).2 (fun hmem => htarget (List.mem_cons_of_mem oldId hmem))
      hrestLive
    refine ⟨after, ?_, hafter, hfirst.cons hrest, fun x hx => ?_, ?_,
      fun hcomplete => hsignedRest.complete (hsigned.complete hcomplete)⟩
    · rw [List.foldlM_cons, hmerge]
      exact hfold
    · rw [hsignedRest.others x hx, hsigned.others x hx]
    · rw [hsignedRest.target, hsigned.target, if_neg (List.cons_ne_nil _ _), Option.getD_some,
        ite_self]

/-! ## Opening the target -/

/-- An index between two calls. -/
structure Settled (index : RuntimeCandidateIdentityIndex) : Prop where
  members : index.MembersFiled
  aliases : ∀ target, index.AliasesFiled target []
  buckets : index.BucketsKnown
  presented : ∀ target, index.Presented target

lemma ownsAlias_ensureIdentity (target : String) (signal : Option String)
    (identityId x : String) :
    (index.ensureIdentity target signal).OwnsAlias identityId x ↔
      index.OwnsAlias identityId x ∨ (identityId = target ∧ x = target) := by
  simp only [OwnsAlias, ensureIdentity, lookup_insert_ite]
  by_cases htarget : identityId = target
  · subst htarget
    cases hstored : index.aliasesByCanonicalId.lookup identityId with
    | none => simp
    | some aliases => simp
  · simp [htarget]

lemma mem_ensureIdentity (target : String) (signal : Option String) (identityId : String) :
    identityId ∈ (index.ensureIdentity target signal).identities ↔
      identityId = target ∨ identityId ∈ index.identities := by
  simp only [ensureIdentity]
  by_cases hlive : target ∈ index.identities
  · rw [if_pos hlive]
    constructor
    · exact Or.inr
    · rintro (rfl | h)
      · exact hlive
      · exact h
  · rw [if_neg hlive, AList.mem_insert]

lemma lookup_ensureIdentity (signal : Option String)
    (hne : identityId ≠ target ∨ target ∈ index.identities) :
    (index.ensureIdentity target signal).identities.lookup identityId =
      index.identities.lookup identityId := by
  simp only [ensureIdentity]
  by_cases hlive : target ∈ index.identities
  · rw [if_pos hlive]
  · rw [if_neg hlive, lookup_insert_ite, if_neg (hne.resolve_right hlive)]

/-- A new identity holds nothing yet. -/
lemma lookup_ensureIdentity_new (signal : Option String) (hnew : target ∉ index.identities) :
    (index.ensureIdentity target signal).identities.lookup target =
      some { identityId := target, canonicalIdentityId := target, strongestSignal := signal } := by
  simp only [ensureIdentity]
  rw [if_neg hnew, AList.lookup_insert]

lemma owns_ensureIdentity {members : RuntimeCandidateIdentity → List String}
    (signal : Option String)
    (hempty : members ⟨target, target, [], [], [], signal⟩ = []) (identityId x : String) :
    (∃ identity, (index.ensureIdentity target signal).identities.lookup identityId = some identity ∧
        x ∈ members identity) ↔
      ∃ identity, index.identities.lookup identityId = some identity ∧ x ∈ members identity := by
  by_cases hsame : identityId ≠ target ∨ target ∈ index.identities
  · rw [lookup_ensureIdentity signal hsame]
  · obtain ⟨rfl, hnew⟩ : identityId = target ∧ target ∉ index.identities := by tauto
    rw [lookup_ensureIdentity_new signal hnew, AList.lookup_eq_none.mpr hnew]
    simp [hempty]

/-- Opening the target of a call: whoever still lists the target is among the identities to be
merged. -/
lemma ensureIdentity_merging (h : index.Settled) {pending : List String} (signal : Option String)
    (hrevived : ∀ identityId, index.aliasToCanonicalId.lookup target = some identityId →
      identityId ≠ target → identityId ∈ pending) :
    (index.ensureIdentity target signal).Merging target pending where
  members :=
    { resumes := fun x owner =>
        (h.members.resumes x owner).trans (owns_ensureIdentity signal rfl owner x).symm
      evidence := fun x owner =>
        (h.members.evidence x owner).trans (owns_ensureIdentity signal rfl owner x).symm
      keys := h.members.keys
      keys_live := fun howns =>
        (mem_ensureIdentity target signal _).mpr (Or.inr (h.members.keys_live howns)) }
  aliases :=
    { listed := by
        intro identityId
        rw [mem_ensureIdentity, ← (h.aliases target).listed, ensureIdentity, AList.mem_insert]
      self := by
        intro identityId hlive
        simp only [ensureIdentity, lookup_insert_ite]
        split
        · rename_i htarget
          rw [htarget]
        · rename_i htarget
          exact (h.aliases target).self identityId
            (((mem_ensureIdentity target signal identityId).mp hlive).resolve_left htarget)
      forward := by
        intro x owner hlookup
        rw [ownsAlias_ensureIdentity]
        simp only [ensureIdentity, lookup_insert_ite] at hlookup
        split at hlookup
        · rename_i htarget
          exact Or.inr ⟨(Option.some.inj hlookup).symm, htarget⟩
        · exact Or.inl ((h.aliases target).forward x owner hlookup)
      backward := by
        intro x owner howns
        simp only [ensureIdentity, lookup_insert_ite]
        rcases (ownsAlias_ensureIdentity target signal owner x).mp howns with hbefore | ⟨rfl, rfl⟩
        · have hlookup := ((h.aliases target).pointsTo x owner).mpr hbefore
          by_cases htarget : x = target
          · subst htarget
            by_cases howner : owner = x
            · exact Or.inl (by rw [if_pos rfl, howner])
            · exact Or.inr ⟨rfl, hrevived owner hlookup howner⟩
          · exact Or.inl (by rw [if_neg htarget, hlookup])
        · exact Or.inl (if_pos rfl) }
  buckets := by
    have hknown : ∀ x ∈ index.aliasToCanonicalId,
        x ∈ (index.ensureIdentity target signal).aliasToCanonicalId := by
      intro x hx
      rw [ensureIdentity, AList.mem_insert]
      exact Or.inr hx
    exact bucketsKnown_congr (by rfl) hknown h.buckets
  presented := by
    intro identityId identity hlookup
    by_cases hsame : identityId ≠ target ∨ target ∈ index.identities
    · rw [lookup_ensureIdentity signal hsame] at hlookup
      obtain ⟨hid, hcanonical, hlists⟩ := h.presented target identityId identity hlookup
      refine ⟨hid, hcanonical, fun hne x => ?_⟩
      rw [hlists hne, ownsAlias_ensureIdentity]
      simp [hne]
    · obtain ⟨rfl, hnew⟩ : identityId = target ∧ target ∉ index.identities := by tauto
      rw [lookup_ensureIdentity_new signal hnew] at hlookup
      cases hlookup
      exact ⟨rfl, rfl, fun hne => absurd rfl hne⟩
  target_live := (mem_ensureIdentity target signal target).mpr (Or.inl rfl)

end RuntimeCandidateIdentityIndex

end SeekTalent.SourceLanes
