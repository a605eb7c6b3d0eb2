import SeekTalent.Foundation.Checks
import SeekTalent.Foundation.Dicts
import SeekTalent.Foundation.FirstClaims
import SeekTalent.Foundation.PrefixCodes
import SeekTalent.Foundation.Sha256
import SeekTalent.RequirementDrafts.RequirementSheet
import SeekTalent.SourcePort.StrictJson

/-!
# What a query is about

`seektalent/retrieval/query_identity.py` and the novelty checks of
`seektalent/runtime/query_identity.py`.  A query is told by the families of its terms: one family
that anchors it, and the families of its other terms.  Its term group key is a hash of the set of
all of them, so that it does not matter in which order or spelling the terms are given.

No two queries of a run may have the same term group, and no two of them may share a family other
than the anchor's.
-/

namespace SeekTalent.QueryPlanning

open Foundation SourcePort RequirementDrafts

variable (py : PythonRuntime)

/-! ## Surfaces -/

/-- `normalize_term` of `query_identity.py`. -/
def QueryIdentity.normalizeTerm (value : String) : String :=
  " ".intercalate (splitText (py.casefold (stripText value)))

/-- `is_primary_anchor_role`. -/
def isPrimaryAnchorRole (role : QueryRetrievalRole) : Bool :=
  role = .primaryRoleAnchor || role = .roleAnchor

/-- `ResolvedQueryIdentity`. -/
structure ResolvedQueryIdentity where
  termGroupKey : String
  primaryAnchorFamilyId : String
  nonAnchorTermFamilyIds : List String
  deriving DecidableEq, Repr

/-- `_ResolvedSemanticSurface`. -/
structure ResolvedSemanticSurface where
  term : String
  familyId : String
  candidate : Option QueryTermCandidate
  deriving DecidableEq

/-- The families that a caller insists on, under the normalised terms. -/
def normalizedOverrides (explicitFamilyOverrides : List (String × String)) :
    Except String (Dict String String) :=
  explicitFamilyOverrides.foldlM (fun overrides entry =>
    let termKey := QueryIdentity.normalizeTerm py entry.1
    let familyKey := QueryIdentity.normalizeTerm py entry.2
    if termKey = "" ∨ familyKey = "" then .error "query_family_override_invalid"
    else .ok (overrides.insert termKey familyKey)) ∅

/-- `{normalize_term(item.term): item for item in query_term_pool}`. -/
def candidatesByTerm (queryTermPool : List QueryTermCandidate) : Dict String QueryTermCandidate :=
  Dict.keyedBy (fun item => QueryIdentity.normalizeTerm py item.term) queryTermPool

/-- The surface of a normalised term. -/
def surfaceOf (overrides : Dict String String) (candidates : Dict String QueryTermCandidate)
    (termKey : String) : ResolvedSemanticSurface where
  term := termKey
  familyId := ((overrides.lookup termKey).filter (· ≠ "")).getD
    (match candidates.lookup termKey with
      | some candidate => QueryIdentity.normalizeTerm py candidate.family
      | none => "term:" ++ termKey)
  candidate := candidates.lookup termKey

/-- The surfaces of terms, those of `seenTerms` being there already. -/
def semanticSurfacesFrom (overrides : Dict String String)
    (candidates : Dict String QueryTermCandidate)
    (seenTerms : List String) : List String → Except String (List ResolvedSemanticSurface)
  | [] => .ok []
  | term :: rest =>
    let termKey := QueryIdentity.normalizeTerm py term
    if termKey = "" ∨
      termKey ∈ seenTerms then semanticSurfacesFrom overrides candidates seenTerms rest
    else if (surfaceOf py overrides candidates termKey).familyId =
      "" then .error "query_family_identity_invalid"
    else
      (semanticSurfacesFrom overrides candidates (termKey :: seenTerms) rest).map
        (surfaceOf py overrides candidates termKey :: ·)

/-- `_semantic_surfaces`. -/
def semanticSurfaces (queryTerms : List String) (queryTermPool : List QueryTermCandidate)
    (explicitFamilyOverrides : List (String × String)) :
    Except String (List ResolvedSemanticSurface) := do
  let overrides ← normalizedOverrides py explicitFamilyOverrides
  let resolved ← semanticSurfacesFrom py overrides (candidatesByTerm py queryTermPool) [] queryTerms
  if resolved = [] then .error "term_group_key_requires_terms" else .ok resolved

/-! ## Term groups -/

/-- `json.dumps({"version": "term-group-v1", "members": members}, sort_keys=True, separators=(",",
":"))`. -/
def termGroupPayload (members : List String) : List Char :=
  "\x7b\"members\":[".toList ++
    ((separated ',' writeAsciiText members ++ [']']) ++ ",\"version\":\"term-group-v1\"\x7d".toList)

/-- `sha256(payload.encode("utf-8")).hexdigest()[:32]`. -/
def shortHash (payload : List Char) : String :=
  String.ofList ((py.sha256Hexdigest (String.ofList payload).toUTF8.data.toList).toList.take 32)

/-- `_term_group_hash`. -/
def termGroupHash (families : List String) : String :=
  shortHash py (termGroupPayload (sortedTexts families))

/-- The families of surfaces, each once. -/
def familiesFrom (seenFamilies : List String) : List ResolvedSemanticSurface → List String
  | [] => []
  | surface :: rest =>
    if surface.familyId ∈ seenFamilies then familiesFrom seenFamilies rest
    else surface.familyId :: familiesFrom (surface.familyId :: seenFamilies) rest

/-- `build_term_group_key`. -/
def buildTermGroupKey (queryTerms : List String) (queryTermPool : List QueryTermCandidate) :
    Except String String := do
  let resolved ← semanticSurfaces py queryTerms queryTermPool []
  .ok (termGroupHash py (familiesFrom [] resolved))

/-! ## Identities -/

/-- `surface.candidate is not None and is_primary_anchor_role(surface.candidate.retrieval_role)`. -/
def ResolvedSemanticSurface.isAnchorSurface (surface : ResolvedSemanticSurface) : Bool :=
  surface.candidate.any fun candidate => isPrimaryAnchorRole candidate.retrievalRole

/-- The families of the surfaces that are no anchors, none of which may be the anchor's or come
twice. -/
def nonAnchorFamiliesFrom (primaryAnchorFamilyId : String) (seenFamilies : List String) :
    List ResolvedSemanticSurface → Except String (List String)
  | [] => .ok []
  | surface :: rest =>
    if surface.familyId = primaryAnchorFamilyId ∧ surface.isAnchorSurface = false then
      .error "query_non_anchor_surface_resolves_to_anchor_family"
    else if surface.familyId ∈ seenFamilies then .error "query_semantic_family_repeated"
    else
      let others :=
        nonAnchorFamiliesFrom primaryAnchorFamilyId (surface.familyId :: seenFamilies) rest
      if surface.isAnchorSurface then others else others.map (surface.familyId :: ·)

/-- The families that anchor a query. -/
def anchorFamilies (resolved : List ResolvedSemanticSurface) : List String :=
  ((resolved.filter ResolvedSemanticSurface.isAnchorSurface).map
    ResolvedSemanticSurface.familyId).dedup

/-- `resolve_query_identity`. -/
def resolveQueryIdentity (queryTerms : List String) (queryTermPool : List QueryTermCandidate)
    (explicitFamilyOverrides : List (String × String) := []) :
    Except String ResolvedQueryIdentity := do
  let resolved ← semanticSurfaces py queryTerms queryTermPool explicitFamilyOverrides
  match anchorFamilies resolved with
  | [primaryAnchorFamilyId] =>
      let nonAnchorFamilies ← nonAnchorFamiliesFrom primaryAnchorFamilyId [] resolved
      if 1 < resolved.length ∧ nonAnchorFamilies = [] then .error "query_non_anchor_family_required"
      else
        .ok
          { termGroupKey := termGroupHash py (resolved.map ResolvedSemanticSurface.familyId)
            primaryAnchorFamilyId
            nonAnchorTermFamilyIds := nonAnchorFamilies }
  | _ => .error "query_primary_anchor_family_required"

/-! ## Novelty -/

/-- `assert_novel_term_group_keys`. -/
def assertNovelTermGroupKeys (usedTermGroupKeys : List String) : List String → Except String Unit
  | [] => .ok ()
  | termGroupKey :: rest =>
    if termGroupKey = "" ∨
      termGroupKey ∈ usedTermGroupKeys then .error "term_group_already_executed"
    else assertNovelTermGroupKeys (termGroupKey :: usedTermGroupKeys) rest

/-- The second half of `assert_novel_query_identities`. -/
def assertNovelFamilies (seenFamilies : List String) : List ResolvedQueryIdentity →
    Except String Unit
  | [] => .ok ()
  | identity :: rest =>
    if ∃ family ∈ identity.nonAnchorTermFamilyIds, family ∈ seenFamilies then
      .error "non_anchor_term_family_already_executed"
    else assertNovelFamilies (seenFamilies ++ identity.nonAnchorTermFamilyIds) rest

/-- `assert_novel_query_identities`. -/
def assertNovelQueryIdentities (identities : List ResolvedQueryIdentity)
    (usedTermGroupKeys consumedNonAnchorFamilyIds : List String) : Except String Unit := do
  assertNovelTermGroupKeys usedTermGroupKeys (identities.map ResolvedQueryIdentity.termGroupKey)
  assertNovelFamilies consumedNonAnchorFamilyIds identities

/-! ## The surfaces of a query -/

/-- The keys that are not known, each once. -/
def keptKeys (known keys : List String) : List String :=
  (firstClaims known (keys.map fun key => ((), key))).map Prod.snd

lemma mem_keptKeys {known keys : List String} {key : String} :
    key ∈ keptKeys known keys ↔ key ∉ known ∧ key ∈ keys := by
  rw [keptKeys, mem_map_firstClaims, List.map_map, List.mem_map]
  simp

lemma nodup_keptKeys (known keys : List String) : (keptKeys known keys).Nodup :=
  nodup_firstClaims known _

lemma keptKeys_cons (known : List String) (key : String) (keys : List String) :
    keptKeys known (key :: keys) =
      if key ∈ known then keptKeys known keys else key :: keptKeys (key :: known) keys := by
  unfold keptKeys
  rw [List.map_cons, firstClaims]
  split <;> rfl

/-- The keys of a query are those of its terms, in another order if the terms are in another
order. -/
lemma keptKeys_perm (known : List String) {keys others : List String} (h : keys.Perm others) :
    (keptKeys known keys).Perm (keptKeys known others) :=
  (List.perm_ext_iff_of_nodup (nodup_keptKeys known keys)
      (nodup_keptKeys known others)).mpr fun key => by
    rw [mem_keptKeys, mem_keptKeys, h.mem_iff]

section Surfaces

variable {py} {overrides : Dict String String} {candidates : Dict String QueryTermCandidate}

/-- There is one surface for each key that is new, and none of them is without a family. -/
lemma semanticSurfacesFrom_eq_ok {seenTerms known : List String}
    (hknown : ∀ key, key ∈ known ↔ key = "" ∨ key ∈ seenTerms)
    {terms : List String} {resolved : List ResolvedSemanticSurface} :
    semanticSurfacesFrom py overrides candidates seenTerms terms = .ok resolved ↔
      resolved = (keptKeys known (terms.map (QueryIdentity.normalizeTerm py))).map
        (surfaceOf py overrides candidates) ∧
        ∀ surface ∈ resolved, surface.familyId ≠ "" := by
  induction terms generalizing seenTerms known resolved with
  | nil =>
    rw [semanticSurfacesFrom, Except.ok.injEq, List.map_nil, keptKeys, List.map_nil, firstClaims]
    constructor
    · rintro rfl
      exact ⟨rfl, fun surface hmem => absurd hmem List.not_mem_nil⟩
    · rintro ⟨rfl, -⟩
      rfl
  | cons term rest ih =>
    rw [semanticSurfacesFrom, List.map_cons, keptKeys_cons]
    by_cases hseen : QueryIdentity.normalizeTerm py term = "" ∨
      QueryIdentity.normalizeTerm py term ∈ seenTerms
    · rw [if_pos hseen, if_pos ((hknown _).mpr hseen), ih hknown]
    · rw [if_neg hseen, if_neg fun hmem => hseen ((hknown _).mp hmem), List.map_cons]
      by_cases hfamily : (surfaceOf py overrides candidates
        (QueryIdentity.normalizeTerm py term)).familyId = ""
      · rw [if_pos hfamily]
        constructor
        · intro herror
          cases herror
        · rintro ⟨rfl, hall⟩
          exact absurd hfamily (hall _ List.mem_cons_self)
      · have hnext : ∀ key, key ∈ QueryIdentity.normalizeTerm py term :: known ↔
            key = "" ∨ key ∈ QueryIdentity.normalizeTerm py term :: seenTerms := fun key => by
          rw [List.mem_cons, List.mem_cons, hknown]
          tauto
        rw [if_neg hfamily, map_eq_ok]
        constructor
        · rintro ⟨later, hlater, rfl⟩
          obtain ⟨rfl, hall⟩ := (ih hnext).mp hlater
          exact ⟨rfl, List.forall_mem_cons.mpr ⟨hfamily, hall⟩⟩
        · rintro ⟨rfl, hall⟩
          exact ⟨_, (ih hnext).mpr ⟨rfl, (List.forall_mem_cons.mp hall).2⟩, rfl⟩

/-- The surfaces of a query, as a list without a rule for its order. -/
structure SurfacesOf (py : PythonRuntime) (overrides : Dict String String)
    (candidates : Dict String QueryTermCandidate)
    (terms : List String) (resolved : List ResolvedSemanticSurface) : Prop where
  keys : resolved.Perm
    ((keptKeys [""] (terms.map (QueryIdentity.normalizeTerm py))).map
      (surfaceOf py overrides candidates))
  families : ∀ surface ∈ resolved, surface.familyId ≠ ""
  some : resolved ≠ []

lemma SurfacesOf.perm {terms others : List String} {resolved left : List ResolvedSemanticSurface}
    (h : SurfacesOf py overrides candidates terms resolved)
    (hterms : (terms.map (QueryIdentity.normalizeTerm py)).Perm
      (others.map (QueryIdentity.normalizeTerm py)))
    (hresolved : resolved.Perm left) : SurfacesOf py overrides candidates others left where
  keys := hresolved.symm.trans (h.keys.trans ((keptKeys_perm [""] hterms).map _))
  families := fun surface hmem => h.families surface (hresolved.mem_iff.mpr hmem)
  some := fun hnil => h.some (List.perm_nil.mp (hnil ▸ hresolved))

/-- What the terms of a query are read as. -/
lemma semanticSurfaces_eq_ok {terms : List String} {pool : List QueryTermCandidate}
    {explicit : List (String × String)} {resolved : List ResolvedSemanticSurface} :
    semanticSurfaces py terms pool explicit = .ok resolved ↔
      ∃ overrides, normalizedOverrides py explicit = .ok overrides ∧
        resolved = (keptKeys [""] (terms.map (QueryIdentity.normalizeTerm py))).map
          (surfaceOf py overrides (candidatesByTerm py pool)) ∧
        SurfacesOf py overrides (candidatesByTerm py pool) terms resolved := by
  have hknown : ∀ key, key ∈ [""] ↔ key = "" ∨ key ∈ ([] : List String) := fun key => by simp
  unfold semanticSurfaces
  simp only [bind_eq_ok]
  constructor
  · rintro ⟨overrides, hoverrides, surfaces, hsurfaces, hresolved⟩
    split at hresolved
    · cases hresolved
    · rename_i hsome
      cases hresolved
      obtain ⟨heq, hfamilies⟩ := (semanticSurfacesFrom_eq_ok hknown).mp hsurfaces
      exact ⟨overrides, hoverrides, heq, by rw [heq], hfamilies, hsome⟩
  · rintro ⟨overrides, hoverrides, heq, hsurfaces⟩
    exact ⟨overrides, hoverrides, resolved, (semanticSurfacesFrom_eq_ok hknown).mpr
      ⟨heq, hsurfaces.families⟩, if_neg hsurfaces.some⟩

end Surfaces

/-! ## What an identity says -/

/-- An identity is that of some surfaces: one of them anchors the query, the families are all
different, and the key is that of all of them. -/
structure Identifies (py : PythonRuntime) (resolved : List ResolvedSemanticSurface)
    (identity : ResolvedQueryIdentity) : Prop where
  anchor : (resolved.filter ResolvedSemanticSurface.isAnchorSurface).map
    ResolvedSemanticSurface.familyId =
    [identity.primaryAnchorFamilyId]
  others : identity.nonAnchorTermFamilyIds =
    (resolved.filter fun surface => !surface.isAnchorSurface).map ResolvedSemanticSurface.familyId
  nodup : (resolved.map ResolvedSemanticSurface.familyId).Nodup
  key : identity.termGroupKey = termGroupHash py (resolved.map ResolvedSemanticSurface.familyId)

variable {py}

variable {resolved : List ResolvedSemanticSurface} {identity : ResolvedQueryIdentity}

/-- The families of an identity are those of its surfaces. -/
lemma Identifies.families (h : Identifies py resolved identity) :
    (identity.primaryAnchorFamilyId :: identity.nonAnchorTermFamilyIds).Perm
      (resolved.map ResolvedSemanticSurface.familyId) := by
  rw [h.others, ← List.singleton_append, ← h.anchor, ← List.map_append]
  exact (List.filter_append_perm _ resolved).map _

/-- The loop over the surfaces accepts different families, the anchor's apart. -/
lemma nonAnchorFamiliesFrom_eq_ok {primary : String} {seenFamilies : List String}
    {others : List String} :
    nonAnchorFamiliesFrom primary seenFamilies resolved = .ok others ↔
      others = (resolved.filter fun surface => !surface.isAnchorSurface).map
        ResolvedSemanticSurface.familyId ∧
      (∀ surface ∈ resolved, surface.isAnchorSurface = false → surface.familyId ≠ primary) ∧
      (resolved.map ResolvedSemanticSurface.familyId).Nodup ∧
      ∀ surface ∈ resolved, surface.familyId ∉ seenFamilies := by
  induction resolved generalizing seenFamilies others with
  | nil =>
    rw [nonAnchorFamiliesFrom, Except.ok.injEq]
    constructor
    · rintro rfl
      exact ⟨rfl, by simp, List.nodup_nil, by simp⟩
    · rintro ⟨rfl, -⟩
      rfl
  | cons surface rest ih =>
    unfold nonAnchorFamiliesFrom
    by_cases hanchor : surface.familyId = primary ∧ surface.isAnchorSurface = false
    · rw [if_pos hanchor]
      constructor
      · intro herror
        cases herror
      · rintro ⟨-, hall, -⟩
        exact absurd hanchor.1 (hall surface List.mem_cons_self hanchor.2)
    · rw [if_neg hanchor]
      by_cases hseen : surface.familyId ∈ seenFamilies
      · rw [if_pos hseen]
        constructor
        · intro herror
          cases herror
        · rintro ⟨-, -, -, hall⟩
          exact absurd hseen (hall surface List.mem_cons_self)
      · rw [if_neg hseen]
        have hfresh : (∀ other ∈ rest, other.familyId ∉ surface.familyId :: seenFamilies) ↔
            (surface.familyId ∉ rest.map ResolvedSemanticSurface.familyId ∧
              ∀ other ∈ rest, other.familyId ∉ seenFamilies) := by
          simp only [List.mem_cons, List.mem_map, not_or, not_exists, not_and]
          exact forall₂_and
        have hapart : (∀ other ∈ surface :: rest, other.isAnchorSurface = false →
          other.familyId ≠ primary) ↔
            ∀ other ∈ rest, other.isAnchorSurface = false → other.familyId ≠ primary := by
          rw [List.forall_mem_cons]
          exact and_iff_right fun hplain heq => hanchor ⟨heq, hplain⟩
        rw [hapart, List.map_cons, List.nodup_cons, List.forall_mem_cons]
        by_cases hkind : surface.isAnchorSurface = true
        · rw [if_pos hkind, List.filter_cons_of_neg (by simpa using hkind), ih, hfresh]
          tauto
        · rw [if_neg hkind, List.filter_cons_of_pos (by simpa using hkind), List.map_cons]
          simp only [map_eq_ok, ih, hfresh]
          constructor
          · rintro ⟨later, ⟨rfl, hrest⟩, rfl⟩
            exact ⟨rfl, by tauto⟩
          · rintro ⟨rfl, hrest⟩
            exact ⟨_, ⟨rfl, by tauto⟩, rfl⟩

/-- A query has an identity if its surfaces have one. -/
lemma resolveQueryIdentity_eq_ok {terms : List String} {pool : List QueryTermCandidate}
    {explicit : List (String × String)} :
    resolveQueryIdentity py terms pool explicit = .ok identity ↔
      ∃ resolved, semanticSurfaces py terms pool explicit = .ok resolved ∧
        Identifies py resolved identity := by
  unfold resolveQueryIdentity
  simp only [bind_eq_ok]
  refine exists_congr fun resolved => and_congr_right fun _ => ?_
  constructor
  · intro h
    split at h
    · rename_i primary hprimary
      obtain ⟨others, hothers, hidentity⟩ := bind_eq_ok.mp h
      obtain ⟨heq, -, hnodup, -⟩ := nonAnchorFamiliesFrom_eq_ok.mp hothers
      split at hidentity
      · cases hidentity
      · cases hidentity
        refine ⟨?_, heq, hnodup, rfl⟩
        rw [← hprimary]
        exact (List.Nodup.dedup (hnodup.sublist (List.filter_sublist.map _))).symm
    · cases h
  · intro h
    have hprimary : anchorFamilies resolved = [identity.primaryAnchorFamilyId] := by
      unfold anchorFamilies
      rw [h.anchor, List.dedup_cons_of_notMem List.not_mem_nil, List.dedup_nil]
    have happart : ∀ surface ∈ resolved, surface.isAnchorSurface = false →
        surface.familyId ≠ identity.primaryAnchorFamilyId := fun surface hmem hplain heq => by
      have hnodup := h.families.nodup_iff.mpr h.nodup
      rw [List.nodup_cons, h.others] at hnodup
      exact hnodup.1 (heq ▸ List.mem_map_of_mem (List.mem_filter.mpr ⟨hmem, by rw [hplain]; rfl⟩))
    have hothers := nonAnchorFamiliesFrom_eq_ok.mpr
      ⟨h.others, happart, h.nodup, fun surface _ => List.not_mem_nil⟩
    have hlength : ¬(1 < resolved.length ∧ identity.nonAnchorTermFamilyIds = []) := fun hempty => by
      have hcount := h.families.length_eq
      rw [hempty.2, List.length_map] at hcount
      exact absurd hempty.1 (by rw [← hcount]; exact Nat.lt_irrefl 1)
    rw [hprimary]
    simp only [hothers]
    refine (if_neg hlength).trans ?_
    rw [← h.key]

/-- Surfaces in another order have an identity that differs only in the order of its families. -/
lemma Identifies.perm {left : List ResolvedSemanticSurface}
    (h : Identifies py resolved identity) (hperm : resolved.Perm left) :
    ∃ other : ResolvedQueryIdentity, Identifies py left other ∧
      other.termGroupKey = identity.termGroupKey ∧
      other.primaryAnchorFamilyId = identity.primaryAnchorFamilyId ∧
      other.nonAnchorTermFamilyIds.Perm identity.nonAnchorTermFamilyIds := by
  refine ⟨⟨identity.termGroupKey, identity.primaryAnchorFamilyId,
    (left.filter fun surface => !surface.isAnchorSurface).map ResolvedSemanticSurface.familyId⟩,
    ⟨?_, rfl, (hperm.map _).nodup_iff.mp h.nodup, ?_⟩, rfl, rfl, ?_⟩
  · have hanchor :=
      (hperm.filter ResolvedSemanticSurface.isAnchorSurface).map ResolvedSemanticSurface.familyId
    rw [h.anchor] at hanchor
    exact List.perm_singleton.mp hanchor.symm
  · rw [h.key]
    exact congrArg (fun families => shortHash py (termGroupPayload families))
      (sortedTexts_congr fun family => (hperm.map _).mem_iff)
  · rw [h.others]
    exact (hperm.symm.filter _).map _

/-- **What a query is about does not depend on how it is written.**  If the terms of two queries are
the same up to spaces, case and order, then they have the same identity up to the order of their
families, or none of them has one. -/
theorem resolveQueryIdentity_perm (terms others : List String) (pool : List QueryTermCandidate)
    (explicit : List (String × String))
    (h : (terms.map (QueryIdentity.normalizeTerm py)).Perm
      (others.map (QueryIdentity.normalizeTerm py)))
    (identity : ResolvedQueryIdentity)
    (hidentity : resolveQueryIdentity py terms pool explicit = .ok identity) :
    ∃ other, resolveQueryIdentity py others pool explicit = .ok other ∧
      other.termGroupKey = identity.termGroupKey ∧
      other.primaryAnchorFamilyId = identity.primaryAnchorFamilyId ∧
      other.nonAnchorTermFamilyIds.Perm identity.nonAnchorTermFamilyIds := by
  obtain ⟨resolved, hresolved, hidentifies⟩ := resolveQueryIdentity_eq_ok.mp hidentity
  obtain ⟨overrides, hoverrides, heq, hsurfaces⟩ := semanticSurfaces_eq_ok.mp hresolved
  have hperm : resolved.Perm ((keptKeys [""] (others.map (QueryIdentity.normalizeTerm py))).map
      (surfaceOf py overrides (candidatesByTerm py pool))) :=
    hsurfaces.keys.trans ((keptKeys_perm [""] h).map _)
  obtain ⟨other, hother, hsame⟩ := hidentifies.perm hperm
  exact ⟨other, resolveQueryIdentity_eq_ok.mpr ⟨_, semanticSurfaces_eq_ok.mpr
    ⟨overrides, hoverrides, rfl, hsurfaces.perm h hperm⟩, hother⟩, hsame⟩

/-- Case folding of texts without cased characters other than the ASCII letters, and SHA-256. -/
def asciiPython : PythonRuntime where
  casefold text := String.ofList (text.toList.map Char.toLower)
  sha256Hexdigest value := hexdigest (sha256 value)

/-- A term of the pool below. -/
def poolTerm (term family : String) (retrievalRole : QueryRetrievalRole) : QueryTermCandidate where
  term
  source := .jd
  category := .tooling
  priority := 1
  evidence := ""
  firstAddedRound := 0
  active := true
  retrievalRole
  queryability := .admitted
  family

/-- A role and two of its tools. -/
def backendPool : List QueryTermCandidate :=
  [poolTerm "Backend Engineer" "role.backendengineer" .primaryRoleAnchor,
    poolTerm "C++" "framework.cpp" .frameworkTool, poolTerm "Python" "framework.python"
    .frameworkTool]

/-- A query that is written in two ways. -/
theorem resolveQueryIdentity_perm_backend :
    ∃ identity other,
      resolveQueryIdentity asciiPython ["Backend Engineer", "C++", "Python"] backendPool =
        .ok identity ∧
      resolveQueryIdentity asciiPython ["python", " BACKEND  engineer", "c++"] backendPool =
        .ok other ∧
      other.termGroupKey = identity.termGroupKey ∧
      other.nonAnchorTermFamilyIds.Perm identity.nonAnchorTermFamilyIds := by
  obtain ⟨identity, hidentity⟩ : ∃ identity,
      resolveQueryIdentity asciiPython ["Backend Engineer", "C++", "Python"] backendPool =
      .ok identity :=
    exists_eq_ok_of_isOk (by decide +kernel)
  obtain ⟨other, hother, hkey, -, hfamilies⟩ := resolveQueryIdentity_perm
    ["Backend Engineer", "C++", "Python"] ["python", " BACKEND  engineer", "c++"] backendPool []
    (by decide +kernel)
    identity hidentity
  exact ⟨identity, other, hidentity, hother, hkey, hfamilies⟩

/-! ## What a key says -/

/-- No quoted text begins with a bracket. -/
lemma neverFirst_writeAsciiText : NeverFirst writeAsciiText ']' := fun text r r' heq =>
  absurd (List.head_eq_of_cons_eq heq) (by decide)

/-- What is hashed determines the families. -/
lemma termGroupPayload_injective :
    Function.Injective termGroupPayload := fun members others heq => by
  unfold termGroupPayload at heq
  exact (prefixCode_writeAsciiText.separated (by decide) neverFirst_writeAsciiText members others _
    _ (List.append_cancel_left heq)).1

/-- The key of an identity is that of its families. -/
lemma key_of_resolved {terms : List String} {pool : List QueryTermCandidate}
    {explicit : List (String × String)}
    (h : resolveQueryIdentity py terms pool explicit = .ok identity) :
    (identity.primaryAnchorFamilyId :: identity.nonAnchorTermFamilyIds).Nodup ∧
      identity.termGroupKey =
        termGroupHash py (identity.primaryAnchorFamilyId :: identity.nonAnchorTermFamilyIds) := by
  obtain ⟨resolved, -, hidentifies⟩ := resolveQueryIdentity_eq_ok.mp h
  refine ⟨hidentifies.families.nodup_iff.mpr hidentifies.nodup, hidentifies.key.trans ?_⟩
  exact congrArg (fun families => shortHash py (termGroupPayload families))
    (sortedTexts_congr fun family => hidentifies.families.symm.mem_iff)

lemma mem_familiesFrom {seenFamilies : List String} {family : String} :
    family ∈ familiesFrom seenFamilies resolved ↔
      family ∉ seenFamilies ∧ family ∈ resolved.map ResolvedSemanticSurface.familyId := by
  induction resolved generalizing seenFamilies with
  | nil => simp [familiesFrom]
  | cons surface rest ih =>
    unfold familiesFrom
    by_cases hseen : surface.familyId ∈ seenFamilies
    · rw [if_pos hseen, ih, List.map_cons, List.mem_cons]
      refine and_congr_right fun hnot => ?_
      refine (or_iff_right fun heq => hnot ?_).symm
      rw [heq]
      exact hseen
    · rw [if_neg hseen, List.mem_cons, ih, List.map_cons, List.mem_cons, List.mem_cons]
      by_cases heq : family = surface.familyId
      · simp [heq, hseen]
      · simp [heq]

/-- **What a term group key says.**  As long as the hash has no collision on the two of them, two
queries have the same key exactly if they have the same families, the anchor's among them, whatever
families were given for some of the terms; and for a query for which none were given
`build_term_group_key` gives the key of the identity. -/
theorem termGroupKey_eq_iff (terms others : List String) (pool otherPool : List QueryTermCandidate)
    (explicit otherExplicit : List (String × String)) (identity other : ResolvedQueryIdentity)
    (hidentity : resolveQueryIdentity py terms pool explicit = .ok identity)
    (hother : resolveQueryIdentity py others otherPool otherExplicit = .ok other)
    (hhash : ∀ members members' : List String,
      members = sortedTexts (identity.primaryAnchorFamilyId :: identity.nonAnchorTermFamilyIds) →
      members' = sortedTexts (other.primaryAnchorFamilyId :: other.nonAnchorTermFamilyIds) →
      shortHash py (termGroupPayload members) = shortHash py (termGroupPayload members') →
      termGroupPayload members = termGroupPayload members') :
    (identity.termGroupKey = other.termGroupKey ↔
      (identity.primaryAnchorFamilyId :: identity.nonAnchorTermFamilyIds).Perm
        (other.primaryAnchorFamilyId :: other.nonAnchorTermFamilyIds)) ∧
    (explicit = [] → buildTermGroupKey py terms pool = .ok identity.termGroupKey) := by
  obtain ⟨hnodup, hkey⟩ := key_of_resolved hidentity
  obtain ⟨hnodup', hkey'⟩ := key_of_resolved hother
  refine ⟨⟨fun heq => ?_, fun hperm => ?_⟩, ?_⟩
  · rw [hkey, hkey'] at heq
    have hsorted := termGroupPayload_injective (hhash _ _ rfl rfl heq)
    refine (List.perm_ext_iff_of_nodup hnodup hnodup').mpr fun family => ?_
    rw [← mem_sortedTexts, hsorted, mem_sortedTexts]
  · rw [hkey, hkey']
    exact congrArg (fun families => shortHash py (termGroupPayload families))
      (sortedTexts_congr fun family => hperm.mem_iff)
  · rintro rfl
    obtain ⟨resolved, hresolved, hidentifies⟩ := resolveQueryIdentity_eq_ok.mp hidentity
    unfold buildTermGroupKey
    rw [hresolved, hidentifies.key]
    refine congrArg (fun families => Except.ok (shortHash py (termGroupPayload families)))
      (sortedTexts_congr fun family => ?_)
    rw [mem_familiesFrom]
    exact and_iff_right List.not_mem_nil

/-- A query and its other spelling have one key. -/
theorem termGroupKey_eq_iff_backend :
    ∃ identity other,
      resolveQueryIdentity asciiPython ["Backend Engineer", "C++", "Python"] backendPool =
        .ok identity ∧
      resolveQueryIdentity asciiPython ["python", " BACKEND  engineer", "c++"] backendPool =
        .ok other ∧
      identity.termGroupKey = other.termGroupKey := by
  have hevaluated :
      (resolveQueryIdentity asciiPython ["Backend Engineer", "C++", "Python"] backendPool).map
          (fun i => (i.primaryAnchorFamilyId, i.nonAnchorTermFamilyIds)) =
        .ok ("role.backendengineer", ["framework.cpp", "framework.python"]) ∧
      (resolveQueryIdentity asciiPython ["python", " BACKEND  engineer", "c++"] backendPool).map
          (fun i => (i.primaryAnchorFamilyId, i.nonAnchorTermFamilyIds)) =
        .ok ("role.backendengineer", ["framework.python", "framework.cpp"]) := by
    decide +kernel
  obtain ⟨identity, hidentity, hfamilies⟩ := map_eq_ok.mp hevaluated.1
  obtain ⟨other, hother, hfamilies'⟩ := map_eq_ok.mp hevaluated.2
  obtain ⟨hprimary, hothers⟩ := Prod.mk.inj hfamilies
  obtain ⟨hprimary', hothers'⟩ := Prod.mk.inj hfamilies'
  have hmembers : ["role.backendengineer", "framework.cpp", "framework.python"].Perm
      ["role.backendengineer", "framework.python", "framework.cpp"] :=
      List.Perm.cons _ (List.Perm.swap _ _ _)
  refine ⟨identity, other, hidentity, hother,
    (termGroupKey_eq_iff _ _ _ _ _ _ _ _ hidentity hother ?_).1.mpr ?_⟩
  · intro members members' hpayload hpayload' _
    rw [hpayload, hpayload', hprimary, hothers, hprimary', hothers']
    exact congrArg termGroupPayload (sortedTexts_congr fun _ => hmembers.mem_iff)
  · rw [hprimary, hothers, hprimary', hothers']
    exact hmembers

/-! ## What novelty says -/

/-- The keys are different, and none of them was used. -/
lemma assertNovelTermGroupKeys_eq_ok {used keys : List String} :
    assertNovelTermGroupKeys used keys = .ok () ↔ keys.Nodup ∧ ∀ key ∈ keys, key ≠ "" ∧
      key ∉ used := by
  induction keys generalizing used with
  | nil => simp [assertNovelTermGroupKeys]
  | cons key rest ih =>
    unfold assertNovelTermGroupKeys
    by_cases hused : key = "" ∨ key ∈ used
    · rw [if_pos hused]
      constructor
      · intro herror
        cases herror
      · rintro ⟨-, hall⟩
        have hkey := hall key List.mem_cons_self
        rcases hused with hempty | hmem
        · exact absurd hempty hkey.1
        · exact absurd hmem hkey.2
    · rw [if_neg hused, ih, List.nodup_cons, List.forall_mem_cons]
      simp only [List.mem_cons, not_or]
      constructor
      · rintro ⟨hnodup, hall⟩
        exact ⟨⟨fun hmem => (hall key hmem).2.1 rfl, hnodup⟩, not_or.mp hused,
          fun other hmem => ⟨(hall other hmem).1, (hall other hmem).2.2⟩⟩
      · rintro ⟨⟨hnot, hnodup⟩, -, hall⟩
        exact ⟨hnodup, fun other hmem =>
          ⟨(hall other hmem).1, fun heq => hnot (heq ▸ hmem), (hall other hmem).2⟩⟩

/-- Two identities have no family in common, apart from that of the anchor. -/
def ResolvedQueryIdentity.Apart (identity other : ResolvedQueryIdentity) : Prop :=
  ∀ family ∈ identity.nonAnchorTermFamilyIds, family ∉ other.nonAnchorTermFamilyIds

lemma ResolvedQueryIdentity.Apart.symm {other : ResolvedQueryIdentity} (h : identity.Apart other) :
    other.Apart identity := fun family hmem hother => h family hother hmem

/-- The identities have no family in common, and none that was consumed. -/
lemma assertNovelFamilies_eq_ok {seen : List String} {identities : List ResolvedQueryIdentity} :
    assertNovelFamilies seen identities = .ok () ↔
      identities.Pairwise ResolvedQueryIdentity.Apart ∧
        ∀ identity ∈ identities, ∀ family ∈ identity.nonAnchorTermFamilyIds, family ∉ seen := by
  induction identities generalizing seen with
  | nil => simp [assertNovelFamilies]
  | cons identity rest ih =>
    unfold assertNovelFamilies
    by_cases hseen : ∃ family ∈ identity.nonAnchorTermFamilyIds, family ∈ seen
    · rw [if_pos hseen]
      obtain ⟨family, hmem, hfamily⟩ := hseen
      constructor
      · intro herror
        cases herror
      · rintro ⟨-, hall⟩
        exact absurd hfamily (hall identity List.mem_cons_self family hmem)
    · rw [if_neg hseen, ih, List.pairwise_cons, List.forall_mem_cons]
      simp only [List.mem_append, not_or]
      constructor
      · rintro ⟨hpairs, hall⟩
        exact ⟨⟨fun other hother family hmem hagain => (hall other hother family hagain).2 hmem,
          hpairs⟩, fun family hmem hfamily => hseen ⟨family, hmem,
          hfamily⟩, fun other hother family hmem => (hall other hother family hmem).1⟩
      · rintro ⟨⟨hapart, hpairs⟩, -, hall⟩
        exact ⟨hpairs, fun other hother family hmem =>
          ⟨hall other hother family hmem, fun hagain => hapart other hother family hagain hmem⟩⟩

end SeekTalent.QueryPlanning
