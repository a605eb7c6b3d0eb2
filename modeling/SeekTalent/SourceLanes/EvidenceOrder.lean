import SeekTalent.SourceLanes.IdentityRebuild

/-!
# Evidence in any order

The evidence of an identity is that of its resumes with every row once.  Which deliveries of a row
come first depends on the order of the resumes, and so may the merged row; what the canonical resume
is chosen by does not: the best level of a resume's evidence, the references it gives, and whether
the deliveries can be merged at all (`identityEvidence_perm`).
-/

namespace SeekTalent.SourceLanes

open Foundation

variable {rt : ObservationRuntime}
variable {left right : RuntimeSourceEvidence} {has : RuntimeSourceEvidence → Prop}
  {sourceOrder : Dict String Int}

/-- Deliveries of one row agree on the fields that identify it. -/
def Mergeable (items : List RuntimeSourceEvidence) : Prop :=
  ∀ left ∈ items, ∀ right ∈ items, left.evidenceId = right.evidenceId →
    left.identityFields = right.identityFields

/-- Some evidence of the resume reaches the level. -/
def ReachesLevel (items : List RuntimeSourceEvidence) (resumeId : String) (level : Nat) : Prop :=
  ∃ e ∈ items, e.candidateResumeId = resumeId ∧ level ≤ e.evidenceLevel.rank

/-- Some evidence of the resume gives the reference. -/
def GivesReference (items : List RuntimeSourceEvidence) (resumeId : String) (r : SourceReference) :
    Prop :=
  ∃ e ∈ items, e.candidateResumeId = resumeId ∧ r ∈ e.sourceReferences

/-- The identifying fields contain the id and the resume. -/
lemma identityFields_eq (h : left.identityFields = right.identityFields) :
    left.evidenceId = right.evidenceId ∧ left.candidateResumeId = right.candidateResumeId := by
  simp only [RuntimeSourceEvidence.identityFields, List.cons.injEq, and_true] at h
  exact ⟨h.1, h.2.2.2.1⟩

lemma richerString_self (value : String) : richerString value value = value := by
  unfold richerString
  split <;> rfl

lemma mem_mergeSourceReferences {left right : List SourceReference} {r : SourceReference} :
    r ∈ mergeSourceReferences left right ↔ r ∈ left ∨ r ∈ right := by
  rw [mergeSourceReferences, (List.perm_insertionSort _ _).mem_iff, List.mem_dedup, List.mem_append]

/-- The payload of two deliveries of one row keeps the identifying fields. -/
lemma mergeEvidencePayload_identityFields (h : left.identityFields = right.identityFields) :
    (mergeEvidencePayload left right).identityFields = left.identityFields := by
  simp only [RuntimeSourceEvidence.identityFields, List.cons.injEq, and_true] at h
  obtain ⟨hid, hsource, hprovider, hresume, hkey⟩ := h
  simp only [RuntimeSourceEvidence.identityFields, mergeEvidencePayload, ← hid, ← hsource,
    ← hprovider, ← hresume, ← hkey, richerString_self]

/-- What two deliveries of a row merge to. -/
lemma mergeRuntimeSourceEvidence_ok {merged : RuntimeSourceEvidence}
    (h : mergeRuntimeSourceEvidence rt left right = .ok merged) :
    left.identityFields = right.identityFields ∧ merged.identityFields = left.identityFields ∧
      (∀ level, level ≤ merged.evidenceLevel.rank ↔
        level ≤ left.evidenceLevel.rank ∨ level ≤ right.evidenceLevel.rank) ∧
      ∀ r, r ∈ merged.sourceReferences ↔ r ∈ left.sourceReferences ∨
        r ∈ right.sourceReferences := by
  simp only [mergeRuntimeSourceEvidence, check_bind_eq_ok, require_eq_ok, Except.ok.injEq] at h
  obtain ⟨hfields, hmerged⟩ := h
  by_cases hrank : runtimeSourceEvidenceRank rt right ≤ runtimeSourceEvidenceRank rt left
  · rw [if_pos hrank] at hmerged
    subst hmerged
    have hlevel : right.evidenceLevel.rank ≤ left.evidenceLevel.rank := by
      rcases Prod.Lex.toLex_le_toLex.mp hrank with hlt | ⟨heq, -⟩
      · exact le_of_lt hlt
      · exact le_of_eq heq
    refine ⟨hfields, mergeEvidencePayload_identityFields hfields, fun level => ?_,
      fun r => mem_mergeSourceReferences⟩
    exact ⟨Or.inl, fun h => h.elim id (fun h => h.trans hlevel)⟩
  · rw [if_neg hrank] at hmerged
    subst hmerged
    have hlevel : left.evidenceLevel.rank ≤ right.evidenceLevel.rank := by
      rcases Prod.Lex.toLex_le_toLex.mp (le_of_lt (not_le.mp hrank)) with hlt | ⟨heq, -⟩
      · exact le_of_lt hlt
      · exact le_of_eq heq
    refine ⟨hfields, (mergeEvidencePayload_identityFields hfields.symm).trans hfields.symm,
      fun level => ?_, fun r => mem_mergeSourceReferences.trans or_comm⟩
    exact ⟨Or.inr, fun h => h.elim (fun h => h.trans hlevel) id⟩

/-- What placing a row keeps of the entries, for each thing that a row and an entry can have and a
merge combines. -/
lemma exists_placeEvidence {evidence : RuntimeSourceEvidence}
    (hmerge : ∀ left right merged, mergeRuntimeSourceEvidence rt left right = .ok merged →
      (has merged ↔ has left ∨ has right)) :
    ∀ {items placed : List RuntimeSourceEvidence}, placeEvidence rt evidence items = .ok placed →
      ((∃ e ∈ placed, has e) ↔ (∃ e ∈ items, has e) ∨ has evidence) := by
  intro items
  induction items with
  | nil =>
    intro placed hplaced
    cases hplaced
    simp
  | cons item rest ih =>
    intro placed hplaced
    unfold placeEvidence at hplaced
    split at hplaced
    · obtain ⟨merged, hmerged, hplaced⟩ := bind_eq_ok.mp hplaced
      cases hplaced
      simp only [List.mem_cons, exists_eq_or_imp, hmerge _ _ _ hmerged]
      exact or_right_comm
    · obtain ⟨placedRest, hrest, hplaced⟩ := bind_eq_ok.mp hplaced
      cases hplaced
      simp only [List.mem_cons, exists_eq_or_imp, ih hrest]
      exact or_assoc.symm

/-- What placing many rows keeps. -/
lemma exists_foldlM_placeEvidence
    (hmerge : ∀ left right merged, mergeRuntimeSourceEvidence rt left right = .ok merged →
      (has merged ↔ has left ∨ has right)) (rows : List RuntimeSourceEvidence) :
    ∀ {items placed : List RuntimeSourceEvidence},
      rows.foldlM (fun unique item => placeEvidence rt item unique) items = .ok placed →
      ((∃ e ∈ placed, has e) ↔ (∃ e ∈ items, has e) ∨ ∃ e ∈ rows, has e) := by
  induction rows with
  | nil =>
    intro items placed hplaced
    cases hplaced
    simp
  | cons row rest ih =>
    intro items placed hplaced
    rw [List.foldlM_cons] at hplaced
    obtain ⟨between, hbetween, hplaced⟩ := bind_eq_ok.mp hplaced
    rw [ih hplaced, exists_placeEvidence hmerge hbetween]
    simp only [List.mem_cons, exists_eq_or_imp]
    exact or_assoc

/-! ## When rows can be merged -/

/-- A row can be placed among entries that agree with each other exactly when it agrees with
them. -/
lemma placeEvidence_ok_iff {evidence : RuntimeSourceEvidence} :
    ∀ {items : List RuntimeSourceEvidence}, Mergeable items →
      ((∃ placed, placeEvidence rt evidence items = .ok placed) ↔
        ∀ item ∈ items, item.evidenceId = evidence.evidenceId →
          item.identityFields = evidence.identityFields) := by
  intro items
  induction items with
  | nil => simp [placeEvidence]
  | cons item rest ih =>
    intro hitems
    have hrest : Mergeable rest := fun left hleft right hright =>
      hitems left (List.mem_cons_of_mem _ hleft) right (List.mem_cons_of_mem _ hright)
    unfold placeEvidence
    by_cases hid : item.evidenceId = evidence.evidenceId
    · rw [if_pos hid]
      constructor
      · rintro ⟨placed, hplaced⟩ other hother hotherId
        obtain ⟨merged, hmerged, -⟩ := bind_eq_ok.mp hplaced
        rw [hitems other hother item List.mem_cons_self (hotherId.trans hid.symm)]
        exact (mergeRuntimeSourceEvidence_ok hmerged).1
      · intro hagree
        have hfields := hagree item List.mem_cons_self hid
        obtain ⟨merged, hmerged⟩ : ∃ merged,
            mergeRuntimeSourceEvidence rt item evidence = .ok merged := by
          simp only [mergeRuntimeSourceEvidence, require, if_pos hfields]
          exact ⟨_, rfl⟩
        exact ⟨merged :: rest, bind_eq_ok.mpr ⟨merged, hmerged, rfl⟩⟩
    · rw [if_neg hid]
      constructor
      · rintro ⟨placed, hplaced⟩ other hother hotherId
        obtain ⟨placedRest, hplacedRest, -⟩ := bind_eq_ok.mp hplaced
        rcases List.mem_cons.mp hother with rfl | hmem
        · exact absurd hotherId hid
        · exact (ih hrest).mp ⟨placedRest, hplacedRest⟩ other hmem hotherId
      · intro hagree
        obtain ⟨placedRest, hplacedRest⟩ := (ih hrest).mpr
          (fun other hother => hagree other (List.mem_cons_of_mem _ hother))
        exact ⟨_, bind_eq_ok.mpr ⟨placedRest, hplacedRest, rfl⟩⟩

/-- A merge has the identifying fields of both deliveries. -/
lemma hasFields_merge (fields : List String) (left right merged : RuntimeSourceEvidence)
    (h : mergeRuntimeSourceEvidence rt left right = .ok merged) :
    (merged.identityFields = fields ↔ left.identityFields = fields ∨
      right.identityFields = fields) := by
  obtain ⟨hfields, hmerged, -, -⟩ := mergeRuntimeSourceEvidence_ok h
  rw [hmerged, hfields]
  simp

/-- Mergeability reads the identifying fields only. -/
lemma mergeable_congr {left right : List RuntimeSourceEvidence}
    (h : ∀ fields, (∃ e ∈ left, e.identityFields = fields) ↔
      ∃ e ∈ right, e.identityFields = fields) :
    Mergeable left ↔ Mergeable right := by
  have hone : ∀ {left right : List RuntimeSourceEvidence},
      (∀ fields, (∃ e ∈ left, e.identityFields = fields) ↔ ∃ e ∈ right, e.identityFields = fields) →
        Mergeable left → Mergeable right := by
    intro left right h hleft x hx y hy hid
    obtain ⟨x', hx', hxFields⟩ := (h x.identityFields).mpr ⟨x, hx, rfl⟩
    obtain ⟨y', hy', hyFields⟩ := (h y.identityFields).mpr ⟨y, hy, rfl⟩
    rw [← hxFields, ← hyFields]
    apply hleft x' hx' y' hy'
    rw [(identityFields_eq hxFields).1, (identityFields_eq hyFields).1, hid]
  exact ⟨hone h, hone (fun fields => (h fields).symm)⟩

/-- Rows can be placed one after another exactly when all of them and the entries agree. -/
lemma foldlM_placeEvidence_ok_iff (rows : List RuntimeSourceEvidence) :
    ∀ {items : List RuntimeSourceEvidence}, Mergeable items →
      ((∃ placed, rows.foldlM (fun unique item => placeEvidence rt item unique) items =
        .ok placed) ↔ Mergeable (items ++ rows)) := by
  induction rows with
  | nil =>
    intro items hitems
    rw [List.append_nil]
    exact ⟨fun _ => hitems, fun _ => ⟨items, rfl⟩⟩
  | cons row rest ih =>
    intro items hitems
    have hswap : Mergeable (items ++ row :: rest) ↔ Mergeable (items ++ [row] ++ rest) := by
      rw [List.append_assoc, List.singleton_append]
    have hstep : ∀ between, placeEvidence rt row items = .ok between →
        ∀ tail, (Mergeable (between ++ tail) ↔ Mergeable (items ++ [row] ++ tail)) := by
      intro between hbetween tail
      apply mergeable_congr
      intro fields
      have hplaced := exists_placeEvidence (hasFields_merge fields) hbetween
      simp only [List.mem_append, List.mem_singleton, or_and_right, exists_or, exists_eq_left]
      rw [hplaced]
    rw [hswap]
    constructor
    · rintro ⟨placed, hplaced⟩
      rw [List.foldlM_cons] at hplaced
      obtain ⟨between, hbetween, hrest⟩ := bind_eq_ok.mp hplaced
      have hagree := (placeEvidence_ok_iff hitems).mp ⟨between, hbetween⟩
      have hwith : Mergeable (items ++ [row]) := by
        intro left hleft right hright hid
        rcases List.mem_append.mp hleft with hleft | hleft <;>
          rcases List.mem_append.mp hright with hright | hright
        · exact hitems left hleft right hright hid
        · rw [List.mem_singleton.mp hright] at hid ⊢
          exact hagree left hleft hid
        · rw [List.mem_singleton.mp hleft] at hid ⊢
          exact (hagree right hright hid.symm).symm
        · rw [List.mem_singleton.mp hleft, List.mem_singleton.mp hright]
      have hbetweenMergeable : Mergeable between := by
        have := (hstep between hbetween []).mpr (by rwa [List.append_nil])
        rwa [List.append_nil] at this
      exact (hstep between hbetween rest).mp ((ih hbetweenMergeable).mp ⟨placed, hrest⟩)
    · intro hall
      have hagree : ∀ item ∈ items, item.evidenceId = row.evidenceId →
          item.identityFields = row.identityFields :=
        fun item hitem => hall item (by simp [hitem]) row (by simp)
      obtain ⟨between, hbetween⟩ : ∃ between, placeEvidence rt row items = .ok between :=
        (placeEvidence_ok_iff hitems).mpr hagree
      have hbetweenAll := (hstep between hbetween rest).mpr hall
      have hbetweenMergeable : Mergeable between := fun left hleft right hright =>
        hbetweenAll left (List.mem_append_left _ hleft) right (List.mem_append_left _ hright)
      obtain ⟨placed, hplaced⟩ := (ih hbetweenMergeable).mpr hbetweenAll
      refine ⟨placed, ?_⟩
      rw [List.foldlM_cons]
      exact bind_eq_ok.mpr ⟨between, hbetween, hplaced⟩

/-! ## The evidence of an identity -/

/-- What the evidence of an identity has is what the rows have. -/
lemma exists_identityEvidence
    (hmerge : ∀ left right merged, mergeRuntimeSourceEvidence rt left right = .ok merged →
      (has merged ↔ has left ∨ has right)) {rows evidence : List RuntimeSourceEvidence}
    (h : identityEvidence rt sourceOrder rows = .ok evidence) :
    (∃ e ∈ evidence, has e) ↔ ∃ e ∈ rows, has e := by
  unfold identityEvidence at h
  cases hplaced : rows.foldlM (fun unique item => placeEvidence rt item unique) [] with
  | error e =>
    rw [hplaced] at h
    cases h
  | ok placed =>
    rw [hplaced] at h
    cases h
    have hrows := exists_foldlM_placeEvidence hmerge rows hplaced
    simp only [List.not_mem_nil, false_and, exists_false, false_or] at hrows
    rw [← hrows]
    simp only [sortEvidence, (List.perm_insertionSort _ _).mem_iff]

/-- The evidence of an identity exists exactly when its rows agree. -/
lemma exists_identityEvidence_iff (rows : List RuntimeSourceEvidence) :
    (∃ evidence, identityEvidence rt sourceOrder rows = .ok evidence) ↔ Mergeable rows := by
  have hnil : Mergeable [] := fun left hleft => absurd hleft List.not_mem_nil
  have hrows : (∃ placed, rows.foldlM (fun unique item => placeEvidence rt item unique) [] =
      .ok placed) ↔ Mergeable ([] ++ rows) := foldlM_placeEvidence_ok_iff rows hnil
  rw [List.nil_append] at hrows
  rw [← hrows]
  unfold identityEvidence
  cases rows.foldlM (fun unique item => placeEvidence rt item unique) [] with
  | error e => simp [Except.map]
  | ok placed => simp [Except.map]

/-- Rows in another order give evidence of the same levels and references, or none. -/
theorem identityEvidence_perm {rows rows' : List RuntimeSourceEvidence}
    (hperm : rows.Perm rows') {evidence : List RuntimeSourceEvidence}
    (h : identityEvidence rt sourceOrder rows = .ok evidence) :
    ∃ evidence', identityEvidence rt sourceOrder rows' = .ok evidence' ∧
      (∀ resumeId level, ReachesLevel evidence resumeId level ↔
        ReachesLevel evidence' resumeId level) ∧
      ∀ resumeId r, GivesReference evidence resumeId r ↔ GivesReference evidence' resumeId r := by
  have hcongr : Mergeable rows ↔ Mergeable rows' :=
    mergeable_congr (fun fields => by simp only [hperm.mem_iff])
  have hmergeable : Mergeable rows' :=
    hcongr.mp ((exists_identityEvidence_iff rows).mp ⟨evidence, h⟩)
  obtain ⟨evidence', h'⟩ : ∃ evidence', identityEvidence rt sourceOrder rows' = .ok evidence' :=
    (exists_identityEvidence_iff rows').mpr hmergeable
  refine ⟨evidence', h', fun resumeId level => ?_, fun resumeId r => ?_⟩
  · have hmerge : ∀ left right merged, mergeRuntimeSourceEvidence rt left right = .ok merged →
        ((merged.candidateResumeId = resumeId ∧ level ≤ merged.evidenceLevel.rank) ↔
          (left.candidateResumeId = resumeId ∧ level ≤ left.evidenceLevel.rank) ∨
            (right.candidateResumeId = resumeId ∧ level ≤ right.evidenceLevel.rank)) := by
      intro left right merged hmerged
      obtain ⟨hfields, hmergedFields, hlevel, -⟩ := mergeRuntimeSourceEvidence_ok hmerged
      rw [hlevel, (identityFields_eq hmergedFields).2, (identityFields_eq hfields).2]
      tauto
    rw [ReachesLevel, exists_identityEvidence hmerge h, ReachesLevel,
      exists_identityEvidence hmerge h']
    simp only [hperm.mem_iff]
  · have hmerge : ∀ left right merged, mergeRuntimeSourceEvidence rt left right = .ok merged →
        ((merged.candidateResumeId = resumeId ∧ r ∈ merged.sourceReferences) ↔
          (left.candidateResumeId = resumeId ∧ r ∈ left.sourceReferences) ∨
            (right.candidateResumeId = resumeId ∧ r ∈ right.sourceReferences)) := by
      intro left right merged hmerged
      obtain ⟨hfields, hmergedFields, -, hreferences⟩ := mergeRuntimeSourceEvidence_ok hmerged
      rw [hreferences, (identityFields_eq hmergedFields).2, (identityFields_eq hfields).2]
      tauto
    rw [GivesReference, exists_identityEvidence hmerge h, GivesReference,
      exists_identityEvidence hmerge h']
    simp only [hperm.mem_iff]

end SeekTalent.SourceLanes
