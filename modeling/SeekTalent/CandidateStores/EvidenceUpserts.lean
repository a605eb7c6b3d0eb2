import SeekTalent.CandidateStores.EvidenceFolding
import SeekTalent.Foundation.Tables

/-!
# Evidence rows under their ids

`append_source_evidence_once` keeps one row of a resume for each evidence id.  Appending a row
changes what is found under its own id and nothing else, so what appending many rows leaves under an
id is what the rows of that id make of it one after another (`upsertedAll_rowOf`); and since the
rows of a resume are sorted by a key that ends in the id, they are determined by what is found under
each id (`evidenceOf_eq`).
-/

namespace SeekTalent.CandidateStores

open Foundation SourceLanes

/-! ## One id -/

/-- What a delivery leaves under its id. -/
def upserted (rt : ObservationRuntime) : Option RuntimeSourceEvidence → RuntimeSourceEvidence →
    Except LaneError RuntimeSourceEvidence
  | none, row => .ok row
  | some stored, row => mergeRuntimeSourceEvidence rt stored row

/-- What some deliveries of one id leave under it. -/
def upsertedAll (rt : ObservationRuntime) (stored : Option RuntimeSourceEvidence)
    (rows : List RuntimeSourceEvidence) : Except LaneError (Option RuntimeSourceEvidence) :=
  rows.foldlM (fun stored row => (upserted rt stored row).map some) stored

namespace RunStores

variable (s : RunStores)

/-- The row of a resume under an id. -/
def rowOf (r i : String) : Option RuntimeSourceEvidence :=
  rowAt RuntimeSourceEvidence.evidenceId (s.evidenceOf r) i

/-- No two rows of a resume have one id. -/
def RowsOnce : Prop :=
  ∀ r, ((s.evidenceOf r).map RuntimeSourceEvidence.evidenceId).Nodup

end RunStores

variable {rt : CandidateRuntime} {sourceOrder : Dict String Int}

/-- A merged row is under the id of both deliveries. -/
lemma evidenceId_merged {rt : ObservationRuntime} {left right merged : RuntimeSourceEvidence}
    (h : mergeRuntimeSourceEvidence rt left right = .ok merged) :
    merged.evidenceId = left.evidenceId :=
  (identityFields_eq (mergeRuntimeSourceEvidence_ok h).2.1).1

/-- Placing a row changes what is found under its id. -/
lemma rowAt_placeEvidence {rt : ObservationRuntime} {row : RuntimeSourceEvidence}
    {rows placed : List RuntimeSourceEvidence} (h : placeEvidence rt row rows = .ok placed) :
    placed.map RuntimeSourceEvidence.evidenceId =
        (if row.evidenceId ∈ rows.map RuntimeSourceEvidence.evidenceId
          then rows.map RuntimeSourceEvidence.evidenceId
          else rows.map RuntimeSourceEvidence.evidenceId ++ [row.evidenceId]) ∧
      ∃ new, upserted rt (rowAt RuntimeSourceEvidence.evidenceId rows row.evidenceId) row =
        .ok new ∧
        ∀ i, rowAt RuntimeSourceEvidence.evidenceId placed i =
          if i = row.evidenceId then some new else rowAt RuntimeSourceEvidence.evidenceId rows
            i := by
  induction rows generalizing placed with
  | nil =>
    obtain rfl := Except.ok.inj h
    refine ⟨rfl, row, rfl, fun i => ?_⟩
    rw [rowAt_cons]
    exact if_congr eq_comm rfl rfl
  | cons item rest ih =>
    unfold placeEvidence at h
    split at h
    · rename_i hid
      obtain ⟨merged, hmerged, hplaced⟩ := bind_eq_ok.mp h
      obtain rfl := Except.ok.inj hplaced
      have hsame := evidenceId_merged hmerged
      refine ⟨?_, merged, ?_, fun i => ?_⟩
      · rw [List.map_cons, List.map_cons, hsame, if_pos (by simp [hid])]
      · rw [rowAt_cons, if_pos hid]
        exact hmerged
      · rw [rowAt_cons, rowAt_cons, hsame, hid]
        by_cases hi : i = row.evidenceId
        · rw [if_pos hi, if_pos hi.symm]
        · rw [if_neg hi, if_neg (Ne.symm hi), if_neg (Ne.symm hi)]
    · rename_i hid
      obtain ⟨more, hmore, hplaced⟩ := bind_eq_ok.mp h
      obtain rfl := Except.ok.inj hplaced
      obtain ⟨hids, new, hnew, hrows⟩ := ih hmore
      refine ⟨?_, new, ?_, fun i => ?_⟩
      · rw [List.map_cons, List.map_cons, hids]
        by_cases hmem : row.evidenceId ∈ rest.map RuntimeSourceEvidence.evidenceId
        · rw [if_pos hmem, if_pos (List.mem_cons_of_mem _ hmem)]
        · rw [if_neg hmem, if_neg (by simp [Ne.symm hid, hmem]), List.cons_append]
      · rw [rowAt_cons, if_neg hid]
        exact hnew
      · rw [rowAt_cons, rowAt_cons, hrows]
        by_cases hi : item.evidenceId = i
        · rw [if_pos hi, if_pos hi, if_neg (fun heq => hid (hi.trans heq))]
        · rw [if_neg hi, if_neg hi]

/-- A row can be placed when it can be put under its id. -/
lemma exists_placeEvidence_of_upserted {rt : ObservationRuntime} {row new : RuntimeSourceEvidence}
    {rows : List RuntimeSourceEvidence}
    (h : upserted rt (rowAt RuntimeSourceEvidence.evidenceId rows row.evidenceId) row = .ok new) :
    ∃ placed, placeEvidence rt row rows = .ok placed := by
  induction rows with
  | nil => exact ⟨_, rfl⟩
  | cons item rest ih =>
    rw [rowAt_cons] at h
    unfold placeEvidence
    by_cases hid : item.evidenceId = row.evidenceId
    · rw [if_pos hid] at h ⊢
      exact ⟨_, bind_eq_ok.mpr ⟨new, h, rfl⟩⟩
    · rw [if_neg hid] at h ⊢
      obtain ⟨placed, hplaced⟩ := ih h
      exact ⟨_, bind_eq_ok.mpr ⟨placed, hplaced, rfl⟩⟩

namespace RunStores

variable {s s' : RunStores} {rows : List RuntimeSourceEvidence}

/-! ## One row -/

/-- The rows of a resume after one more row is appended. -/
lemma evidenceOf_appendEvidence {row : RuntimeSourceEvidence}
    (h : s.appendEvidence rt sourceOrder row = .ok s') : ∃ placed,
      placeEvidence rt.evidence row (s.evidenceOf row.candidateResumeId) = .ok placed ∧
        ∀ r, s'.sourceEvidenceByResumeId.lookup r = if r = row.candidateResumeId
          then some (sortEvidence sourceOrder placed) else s.sourceEvidenceByResumeId.lookup r := by
  obtain ⟨placed, hplaced, hs'⟩ := bind_eq_ok.mp h
  obtain rfl := Except.ok.inj hs'
  exact ⟨placed, hplaced, fun r => Dict.lookup_insert_ite _ _ _ _⟩

/-- Appending a row changes what is found under its id. -/
lemma rowOf_appendEvidence (honce : s.RowsOnce) {row : RuntimeSourceEvidence}
    (h : s.appendEvidence rt sourceOrder row = .ok s') : s'.RowsOnce ∧
      ∃ new, upserted rt.evidence (s.rowOf row.candidateResumeId row.evidenceId) row = .ok new ∧
        ∀ r i, s'.rowOf r i = if r = row.candidateResumeId ∧ i = row.evidenceId then some new
          else s.rowOf r i := by
  obtain ⟨placed, hplaced, hlookup⟩ := evidenceOf_appendEvidence h
  obtain ⟨hids, new, hnew, hrows⟩ := rowAt_placeEvidence hplaced
  have hperm : (sortEvidence sourceOrder placed).Perm placed := List.perm_insertionSort _ _
  have hevidence : ∀ r, s'.evidenceOf r =
      if r = row.candidateResumeId then sortEvidence sourceOrder placed else s.evidenceOf r := by
    intro r
    rw [evidenceOf, hlookup]
    split <;> rfl
  have hnodup : (placed.map RuntimeSourceEvidence.evidenceId).Nodup := by
    rw [hids]
    split
    · exact honce _
    · rename_i hnew
      exact List.nodup_append.mpr ⟨honce _, List.nodup_singleton _, fun a ha b hb heq =>
        hnew (List.mem_singleton.mp hb ▸ heq ▸ ha)⟩
  refine ⟨fun r => ?_, new, hnew, fun r i => ?_⟩
  · rw [hevidence]
    split
    · exact (hperm.map _).nodup_iff.mpr hnodup
    · exact honce r
  · rw [rowOf, hevidence]
    by_cases hr : r = row.candidateResumeId
    · rw [if_pos hr, rowAt_perm hnodup hperm, hrows, rowOf, ← hr]
      exact if_congr (by simp) rfl rfl
    · rw [if_neg hr, if_neg (fun hboth => hr hboth.1)]
      rfl

/-- A row can be appended when it can be put under its id. -/
lemma exists_appendEvidence {row new : RuntimeSourceEvidence}
    (h : upserted rt.evidence (s.rowOf row.candidateResumeId row.evidenceId) row = .ok new) :
    ∃ s', s.appendEvidence rt sourceOrder row = .ok s' := by
  obtain ⟨placed, hplaced⟩ := exists_placeEvidence_of_upserted h
  exact ⟨_, bind_eq_ok.mpr ⟨placed, hplaced, rfl⟩⟩

/-! ## Many rows -/

/-- The deliveries of a resume under an id, in order. -/
def deliveriesOf (rows : List RuntimeSourceEvidence) (r i : String) : List RuntimeSourceEvidence :=
  rows.filter fun row => r = row.candidateResumeId ∧ i = row.evidenceId

/-- What appending many rows leaves under an id is what the deliveries of that id make of it. -/
lemma upsertedAll_rowOf (honce : s.RowsOnce)
    (h : rows.foldlM (appendEvidence rt sourceOrder) s = .ok s') : s'.RowsOnce ∧
      ∀ r i, upsertedAll rt.evidence (s.rowOf r i) (deliveriesOf rows r i) = .ok
        (s'.rowOf r i) := by
  induction rows generalizing s with
  | nil =>
    obtain rfl := Except.ok.inj h
    exact ⟨honce, fun r i => rfl⟩
  | cons row rest ih =>
    obtain ⟨t, ht, hrest⟩ := bind_eq_ok.mp h
    obtain ⟨honce', new, hnew, hrows⟩ := rowOf_appendEvidence honce ht
    obtain ⟨hlast, hall⟩ := ih honce' hrest
    refine ⟨hlast, fun r i => ?_⟩
    rw [← hall r i, hrows, deliveriesOf, List.filter_cons]
    by_cases hkey : r = row.candidateResumeId ∧ i = row.evidenceId
    · rw [if_pos (by simpa using hkey), if_pos hkey, upsertedAll, List.foldlM_cons, hkey.1, hkey.2,
        hnew]
      rfl
    · rw [if_neg (by simpa using hkey), if_neg hkey]
      rfl

/-- Rows can be appended when the deliveries of each id can be put under it. -/
lemma exists_appendAll (honce : s.RowsOnce)
    (h : ∀ r i, ∃ row, upsertedAll rt.evidence (s.rowOf r i) (deliveriesOf rows r i) = .ok row) :
    ∃ s', rows.foldlM (appendEvidence rt sourceOrder) s = .ok s' := by
  induction rows generalizing s with
  | nil => exact ⟨s, rfl⟩
  | cons row rest ih =>
    obtain ⟨last, hlast⟩ := h row.candidateResumeId row.evidenceId
    rw [deliveriesOf, List.filter_cons, if_pos (by simp), upsertedAll, List.foldlM_cons] at hlast
    obtain ⟨first, hfirst, -⟩ := bind_eq_ok.mp hlast
    cases hnew : upserted rt.evidence (s.rowOf row.candidateResumeId row.evidenceId) row with
    | error e =>
      rw [hnew] at hfirst
      cases hfirst
    | ok new =>
      have happend : ∃ t, s.appendEvidence rt sourceOrder row = .ok t := exists_appendEvidence hnew
      obtain ⟨t, ht⟩ := happend
      obtain ⟨honce', new', hnew', hrows⟩ := rowOf_appendEvidence honce ht
      have hrest : ∃ s', rest.foldlM (appendEvidence rt sourceOrder) t = .ok s' := by
        refine ih honce' fun r i => ?_
        obtain ⟨last, hlast⟩ := h r i
        rw [deliveriesOf, List.filter_cons] at hlast
        rw [hrows]
        by_cases hkey : r = row.candidateResumeId ∧ i = row.evidenceId
        · rw [if_pos (by simpa using hkey), upsertedAll, List.foldlM_cons, hkey.1, hkey.2,
            hnew'] at hlast
          rw [if_pos hkey, hkey.1, hkey.2]
          exact ⟨last, hlast⟩
        · rw [if_neg (by simpa using hkey)] at hlast
          rw [if_neg hkey]
          exact ⟨last, hlast⟩
      obtain ⟨s', hs'⟩ := hrest
      exact ⟨s', bind_eq_ok.mpr ⟨t, ht, hs'⟩⟩

/-! ## The rows of a resume -/

/-- The rows of a resume that some deliveries are of are there, and sorted; those of another are as
before. -/
lemma lookup_appendAll (h : rows.foldlM (appendEvidence rt sourceOrder) s = .ok s') (r : String) :
    (∀ row ∈ rows, row.candidateResumeId = r → ∃ placed, s'.sourceEvidenceByResumeId.lookup r =
        some (sortEvidence sourceOrder placed)) ∧
      ((∀ row ∈ rows, row.candidateResumeId ≠ r) →
        s'.sourceEvidenceByResumeId.lookup r = s.sourceEvidenceByResumeId.lookup r) := by
  induction rows generalizing s with
  | nil =>
    obtain rfl := Except.ok.inj h
    exact ⟨fun row hrow => absurd hrow List.not_mem_nil, fun _ => rfl⟩
  | cons row rest ih =>
    obtain ⟨t, ht, hrest⟩ := bind_eq_ok.mp h
    obtain ⟨hsorted, hsame⟩ := ih hrest
    obtain ⟨placed, -, hlookup⟩ := evidenceOf_appendEvidence ht
    refine ⟨fun other hother hr => ?_, fun hnone => ?_⟩
    · by_cases hlater : ∃ later ∈ rest, later.candidateResumeId = r
      · obtain ⟨later, hlater, hr⟩ := hlater
        exact hsorted later hlater hr
      · -- The first row is the last one of the resume.
        obtain rfl | hrest := List.mem_cons.mp hother
        · rw [hsame fun later hmem heq => hlater ⟨later, hmem, heq⟩, hlookup, if_pos hr.symm]
          exact ⟨placed, rfl⟩
        · exact absurd ⟨other, hrest, hr⟩ hlater
    · rw [List.forall_mem_cons] at hnone
      rw [hsame hnone.2, hlookup, if_neg (Ne.symm hnone.1)]

/-- Sorted rows of different ids are determined by what is found under each id. -/
lemma sortEvidence_eq {rows' : List RuntimeSourceEvidence}
    (honce : ((sortEvidence sourceOrder rows).map RuntimeSourceEvidence.evidenceId).Nodup)
    (honce' : ((sortEvidence sourceOrder rows').map RuntimeSourceEvidence.evidenceId).Nodup)
    (h : ∀ i, rowAt RuntimeSourceEvidence.evidenceId (sortEvidence sourceOrder rows) i =
      rowAt RuntimeSourceEvidence.evidenceId (sortEvidence sourceOrder rows') i) :
    sortEvidence sourceOrder rows = sortEvidence sourceOrder rows' := by
  have hmem : ∀ row, row ∈ sortEvidence sourceOrder rows ↔
      row ∈ sortEvidence sourceOrder rows' := by
    intro row
    constructor
    · intro hrow
      exact (mem_of_rowAt ((h row.evidenceId).symm.trans (rowAt_of_mem honce hrow))).1
    · intro hrow
      exact (mem_of_rowAt ((h row.evidenceId).trans (rowAt_of_mem honce' hrow))).1
  have hperm : (sortEvidence sourceOrder rows).Perm (sortEvidence sourceOrder rows') :=
    (List.perm_ext_iff_of_nodup (List.Nodup.of_map _ honce) (List.Nodup.of_map _ honce')).mpr hmem
  have hsorted : ∀ items : List RuntimeSourceEvidence, (sortEvidence sourceOrder items).Pairwise
      fun e e' => evidenceSortKey sourceOrder e ≤ evidenceSortKey sourceOrder e' := by
    intro items
    have : Std.Total fun e e' : RuntimeSourceEvidence =>
        evidenceSortKey sourceOrder e ≤ evidenceSortKey sourceOrder e' :=
      ⟨fun e e' => le_total (evidenceSortKey sourceOrder e) (evidenceSortKey sourceOrder e')⟩
    have : IsTrans RuntimeSourceEvidence fun e e' =>
        evidenceSortKey sourceOrder e ≤ evidenceSortKey sourceOrder e' := ⟨fun e e' e'' => le_trans⟩
    exact List.pairwise_insertionSort _ _
  refine hperm.eq_of_pairwise (fun e e' he he' hle hge => ?_) (hsorted _) (hsorted _)
  -- The sort key ends in the id.
  have hkey := congrArg (fun key => (ofLex (ofLex (ofLex key).2).2).2) (le_antisymm hle hge)
  exact List.inj_on_of_nodup_map honce he ((hmem e').mpr he') hkey

/-- Appending rows again leaves all rows as they are exactly if the deliveries of each id leave the
row under it as it is. -/
theorem appendAll_again_iff {t : RunStores} (honce : s.RowsOnce)
    (hfirst : rows.foldlM (appendEvidence rt sourceOrder) s = .ok t) {t' : RunStores}
    (hrows : t'.sourceEvidenceByResumeId = t.sourceEvidenceByResumeId) :
    (∃ u, rows.foldlM (appendEvidence rt sourceOrder) t' = .ok u ∧
      ∀ r, u.sourceEvidenceByResumeId.lookup r = t.sourceEvidenceByResumeId.lookup r) ↔
      ∀ r i, upsertedAll rt.evidence (t.rowOf r i) (deliveriesOf rows r i) = .ok (t.rowOf r i) := by
  have honceT := (upsertedAll_rowOf honce hfirst).1
  have hevidence : ∀ r, t'.evidenceOf r = t.evidenceOf r := fun r => by rw [evidenceOf, hrows]; rfl
  have honce' : t'.RowsOnce := fun r => by rw [hevidence]; exact honceT r
  have hrowOf : ∀ r i, t'.rowOf r i = t.rowOf r i := fun r i => by rw [rowOf, hevidence]; rfl
  constructor
  · rintro ⟨u, hu, hsame⟩ r i
    have hall := (upsertedAll_rowOf honce' hu).2 r i
    have hlast : u.rowOf r i = t.rowOf r i := by
      rw [rowOf, rowOf, evidenceOf, evidenceOf, hsame]
    rw [hrowOf, hlast] at hall
    exact hall
  · intro h
    have hexists : ∃ u, rows.foldlM (appendEvidence rt sourceOrder) t' = .ok u :=
      exists_appendAll honce' fun r i => ⟨t.rowOf r i, by rw [hrowOf]; exact h r i⟩
    obtain ⟨u, hu⟩ := hexists
    obtain ⟨honceU, hall⟩ := upsertedAll_rowOf honce' hu
    refine ⟨u, hu, fun r => ?_⟩
    by_cases htouched : ∃ row ∈ rows, row.candidateResumeId = r
    · obtain ⟨row, hrow, hr⟩ := htouched
      obtain ⟨placed, hplaced⟩ := (lookup_appendAll hfirst r).1 row hrow hr
      obtain ⟨placed', hplaced'⟩ := (lookup_appendAll hu r).1 row hrow hr
      have ht : t.evidenceOf r = sortEvidence sourceOrder placed := by rw [evidenceOf, hplaced]; rfl
      have hu : u.evidenceOf r =
        sortEvidence sourceOrder placed' := by rw [evidenceOf, hplaced']; rfl
      rw [hplaced, hplaced']
      refine congrArg some (sortEvidence_eq (hu ▸ honceU r) (ht ▸ honceT r) fun i => ?_)
      rw [← hu, ← ht]
      have hlast := (hrowOf r i ▸ hall r i).symm.trans (h r i)
      exact Except.ok.inj hlast
    · have hnone : ∀ row ∈ rows, row.candidateResumeId ≠ r := fun row hrow heq =>
        htouched ⟨row, hrow, heq⟩
      rw [(lookup_appendAll hu r).2 hnone, hrows]

end RunStores

/-! ## Deliveries that come again -/

/-- The deliveries that outrank the row they find when they come again: only those are preferred to
it. -/
def overtaking (rt : ObservationRuntime) :
    RuntimeSourceEvidence → List RuntimeSourceEvidence → List RuntimeSourceEvidence
  | _, [] => []
  | stored, row :: rest =>
    if runtimeSourceEvidenceRank rt row ≤ runtimeSourceEvidenceRank rt stored then
      overtaking rt stored rest
    else row :: overtaking rt (mergeEvidencePayload row stored) rest

/-- The last of some rows that decides a field: that has a value there, where the stored row has
one. -/
def lastDeciding (field : EvidenceField) (stored : RuntimeSourceEvidence)
    (rows : List RuntimeSourceEvidence) : Option RuntimeSourceEvidence :=
  (rows.filter fun row => !(evidenceValue row field).isEmpty ||
    (evidenceValue stored field).isEmpty).getLast?

/-- Deliveries of one id that leave the row under it as it is when they come again: a first and only
one is sorted; and for every field, the last delivery that outranks the row it finds and decides the
field has the value that is stored. -/
structure ComeAgain (rt : ObservationRuntime) (before after : Option RuntimeSourceEvidence)
    (rows : List RuntimeSourceEvidence) : Prop where
  single : before = none → ∀ row, rows = [row] → Sorted row
  values : ∀ stored, after = some stored → ∀ field, field.isCollection = false →
    ∀ row ∈ lastDeciding field stored (overtaking rt stored rows),
      evidenceValue row field = evidenceValue stored field

/-- A row has a value in every field and every element that another has. -/
structure Covers (stored row : RuntimeSourceEvidence) : Prop where
  identity : stored.identityFields = row.identityFields
  values : ∀ field, (evidenceValue row field).isEmpty = false →
    (evidenceValue stored field).isEmpty = false
  hashes : ∀ x ∈ row.protectedContactHashes, x ∈ stored.protectedContactHashes
  codes : ∀ x ∈ row.safeReasonCodes, x ∈ stored.safeReasonCodes
  references : ∀ x ∈ row.sourceReferences, x ∈ stored.sourceReferences

/-- No deliveries come again. -/
lemma comeAgain_nil (rt : ObservationRuntime) (before after : Option RuntimeSourceEvidence) :
    ComeAgain rt before after [] where
  single _ row hrow := by cases hrow
  values stored _ field _ row hrow := by cases hrow

section Again

variable {rt : ObservationRuntime} {stored row other : RuntimeSourceEvidence}
  {rows : List RuntimeSourceEvidence}

lemma Covers.refl (row : RuntimeSourceEvidence) : Covers row row :=
  ⟨rfl, fun _ h => h, fun _ h => h, fun _ h => h, fun _ h => h⟩

lemma Covers.trans (h : Covers stored row) (h' : Covers row other) : Covers stored other :=
  ⟨h.identity.trans h'.identity, fun field hfull => h.values field (h'.values field hfull),
    fun x hx => h.hashes x (h'.hashes x hx), fun x hx => h.codes x (h'.codes x hx),
    fun x hx => h.references x (h'.references x hx)⟩

/-- A merged row covers both of its rows. -/
lemma covers_merge {left right merged : RuntimeSourceEvidence}
    (h : mergeRuntimeSourceEvidence rt left right = .ok merged) :
    Covers merged left ∧ Covers merged right := by
  obtain ⟨hident, hmerged, -⟩ := mergeRuntimeSourceEvidence_ok h
  have hkeeps : KeepsBothRows left right merged := by
    simp only [mergeRuntimeSourceEvidence, check_bind_eq_ok, require_eq_ok, Except.ok.injEq] at h
    obtain ⟨-, rfl⟩ := h
    split
    · exact keepsBothRows_payload left right
    · exact (keepsBothRows_payload right left).swap
  constructor
  · exact ⟨hmerged, fun field hfull => hkeeps.holds field (.inl hfull),
      fun x hx => (hkeeps.contactHashes x).mpr (.inl hx),
      fun x hx => (hkeeps.reasonCodes x).mpr (.inl hx), fun x hx =>
      (hkeeps.references x).mpr (.inl hx)⟩
  · exact ⟨hmerged.trans hident, fun field hfull => hkeeps.holds field (.inr hfull),
      fun x hx => (hkeeps.contactHashes x).mpr (.inr hx),
      fun x hx => (hkeeps.reasonCodes x).mpr (.inr hx), fun x hx =>
      (hkeeps.references x).mpr (.inr hx)⟩

/-- A sorted row that covers another is not changed by filling it up from that. -/
lemma payload_eq_left (hsorted : Sorted stored) (hcovers : Covers stored row) :
    mergeEvidencePayload stored row = stored := by
  refine eq_of_evidenceValue (fun field hfield => ?_) ?_ ?_ ?_
  · rw [evidenceValue_payload _ _ hfield, if_neg]
    rintro ⟨hempty, hfull⟩
    rw [hcovers.values field hfull] at hempty
    cases hempty
  · refine Eq.trans (sortedTexts_congr fun x => ?_) hsorted.hashes.symm
    simp only [List.mem_append]
    exact ⟨fun h => h.elim id (hcovers.hashes x), .inl⟩
  · refine Eq.trans (sortedTexts_congr fun x => ?_) hsorted.codes.symm
    simp only [List.mem_append]
    exact ⟨fun h => h.elim id (hcovers.codes x), .inl⟩
  · refine Eq.trans (mergeSourceReferences_congr fun x => ?_) hsorted.references.symm
    simp only [List.not_mem_nil, or_false]
    exact ⟨fun h => h.elim id (hcovers.references x), .inl⟩

/-- Preferring a row to a sorted one that covers it leaves the lists of that one. -/
lemma lists_of_overtaken (hsorted : Sorted stored) (hcovers : Covers stored row) :
    (mergeEvidencePayload row stored).protectedContactHashes = stored.protectedContactHashes ∧
      (mergeEvidencePayload row stored).safeReasonCodes = stored.safeReasonCodes ∧
      (mergeEvidencePayload row stored).sourceReferences = stored.sourceReferences := by
  refine ⟨?_, ?_, ?_⟩
  · refine Eq.trans (sortedTexts_congr fun x => ?_) hsorted.hashes.symm
    simp only [List.mem_append]
    exact ⟨fun h => h.elim (hcovers.hashes x) id, .inr⟩
  · refine Eq.trans (sortedTexts_congr fun x => ?_) hsorted.codes.symm
    simp only [List.mem_append]
    exact ⟨fun h => h.elim (hcovers.codes x) id, .inr⟩
  · refine Eq.trans (mergeSourceReferences_congr fun x => ?_) hsorted.references.symm
    simp only [List.not_mem_nil, or_false]
    exact ⟨fun h => h.elim (hcovers.references x) id, .inr⟩

/-- A merge of a row that outranks the stored one. -/
lemma merge_overtaken (hident : stored.identityFields = row.identityFields)
    (hrank : ¬runtimeSourceEvidenceRank rt row ≤ runtimeSourceEvidenceRank rt stored) :
    mergeRuntimeSourceEvidence rt stored row = .ok (mergeEvidencePayload row stored) := by
  unfold mergeRuntimeSourceEvidence require
  rw [if_pos hident, if_neg hrank]
  rfl

/-- Preferring a row to one that covers it leaves the fields that have a value. -/
lemma isEmpty_of_overtaken (hcovers : Covers stored row) {field : EvidenceField}
    (hfield : field.isCollection = false) :
    (evidenceValue (mergeEvidencePayload row stored) field).isEmpty =
      (evidenceValue stored field).isEmpty := by
  rw [evidenceValue_payload _ _ hfield]
  cases hempty : (evidenceValue row field).isEmpty with
  | false =>
    rw [if_neg fun h => Bool.false_ne_true h.1, hempty, hcovers.values field hempty]
  | true =>
    cases hfull : (evidenceValue stored field).isEmpty with
    | false => rw [if_pos ⟨rfl, rfl⟩, hfull]
    | true => rw [if_neg fun h => Bool.false_ne_true h.2.symm, hempty]

/-- What deliveries make of a sorted row that covers them: it keeps its lists, and each field has
the value of the last delivery that overtakes the row and decides the field. -/
lemma upsertedAll_covered (hsorted : Sorted stored) (hcovers : ∀ row ∈ rows, Covers stored row) :
    ∃ last, upsertedAll rt (some stored) rows = .ok (some last) ∧
      (last.protectedContactHashes = stored.protectedContactHashes ∧
        last.safeReasonCodes = stored.safeReasonCodes ∧
          last.sourceReferences = stored.sourceReferences) ∧
      ∀ field, field.isCollection = false → evidenceValue last field =
        ((lastDeciding field stored (overtaking rt stored rows)).map (evidenceValue · field)).getD
          (evidenceValue stored field) := by
  induction rows generalizing stored with
  | nil => exact ⟨stored, rfl, ⟨rfl, rfl, rfl⟩, fun _ _ => rfl⟩
  | cons row rest ih =>
    obtain ⟨hrow, hrest⟩ := List.forall_mem_cons.mp hcovers
    by_cases hrank : runtimeSourceEvidenceRank rt row ≤ runtimeSourceEvidenceRank rt stored
    · have hmerge : mergeRuntimeSourceEvidence rt stored row = .ok stored := by
        unfold mergeRuntimeSourceEvidence require
        rw [if_pos hrow.identity, if_pos hrank]
        exact congrArg Except.ok (payload_eq_left hsorted hrow)
      obtain ⟨last, hlast, hlists, hvalues⟩ := ih hsorted hrest
      refine ⟨last, ?_, hlists, fun field hfield => ?_⟩
      · rw [upsertedAll, List.foldlM_cons, upserted, hmerge]
        exact hlast
      · rw [overtaking, if_pos hrank]
        exact hvalues field hfield
    · have hmerge := merge_overtaken hrow.identity hrank
      have hcovers' := (covers_merge hmerge).1
      obtain ⟨hhashes, hcodes, hreferences⟩ := lists_of_overtaken hsorted hrow
      obtain ⟨last, hlast, ⟨hhashes', hcodes', hreferences'⟩, hvalues⟩ :=
        ih (sorted_merge hmerge) fun other hother => hcovers'.trans (hrest other hother)
      refine ⟨last, ?_,
        ⟨hhashes'.trans hhashes, hcodes'.trans hcodes,
          hreferences'.trans hreferences⟩, fun field hfield => ?_⟩
      · rw [upsertedAll, List.foldlM_cons, upserted, hmerge]
        exact hlast
      · rw [hvalues field hfield, overtaking, if_neg hrank, lastDeciding, lastDeciding,
          isEmpty_of_overtaken hrow hfield, evidenceValue_payload _ _ hfield]
        cases hempty : (evidenceValue row field).isEmpty with
        | false =>
          rw [List.filter_cons_of_pos (by simp [hempty]), List.getLast?_cons,
            if_neg fun h => Bool.false_ne_true h.1]
          cases (List.filter _ _).getLast? <;> rfl
        | true =>
          cases hfull : (evidenceValue stored field).isEmpty with
          | false =>
            rw [List.filter_cons_of_neg (by simp [hempty]), if_pos ⟨rfl, rfl⟩]
          | true =>
            -- Neither has a value: the delivery decides what stands for none.
            rw [List.filter_cons_of_pos (by simp), List.getLast?_cons,
              if_neg fun h => Bool.false_ne_true h.2.symm]
            cases (List.filter _ _).getLast? <;> rfl

/-- A sorted row that covers some deliveries is left as it is by them exactly if those that decide a
field have the value that it has. -/
lemma upsertedAll_eq_self_iff (hsorted : Sorted stored)
    (hcovers : ∀ row ∈ rows, Covers stored row) :
    upsertedAll rt (some stored) rows = .ok (some stored) ↔ ∀ field, field.isCollection = false →
      ∀ row ∈ lastDeciding field stored (overtaking rt stored rows),
        evidenceValue row field = evidenceValue stored field := by
  obtain ⟨last, hlast, ⟨hhashes, hcodes, hreferences⟩, hvalues⟩ :=
    @upsertedAll_covered rt _ _ hsorted hcovers
  rw [hlast, Except.ok.injEq, Option.some.injEq]
  constructor
  · rintro rfl field hfield row hrow
    have hvalue := hvalues field hfield
    rw [Option.mem_def.mp hrow] at hvalue
    exact hvalue.symm
  · intro h
    refine eq_of_evidenceValue (fun field hfield => ?_) hhashes hcodes hreferences
    rw [hvalues field hfield]
    cases hdeciding : lastDeciding field stored (overtaking rt stored rows) with
    | none => rfl
    | some row => exact h field hfield row hdeciding

/-- What deliveries make of a row covers it and them, and is sorted if there are any. -/
lemma covers_upsertedAll {old : RuntimeSourceEvidence} {after : Option RuntimeSourceEvidence}
    (h : upsertedAll rt (some old) rows = .ok after) : ∃ stored, after = some stored ∧
      Covers stored old ∧
      (∀ row ∈ rows, Covers stored row) ∧ (Sorted old ∨ rows ≠ [] → Sorted stored) := by
  induction rows generalizing old with
  | nil =>
    obtain rfl := Except.ok.inj h
    exact ⟨old, rfl, Covers.refl _, fun row hrow => absurd hrow List.not_mem_nil,
      fun h => h.elim id (absurd rfl)⟩
  | cons row rest ih =>
    rw [upsertedAll, List.foldlM_cons, upserted] at h
    cases hmerge : mergeRuntimeSourceEvidence rt old row with
    | error e =>
      rw [hmerge] at h
      cases h
    | ok next =>
      rw [hmerge] at h
      obtain ⟨hold, hrow⟩ := covers_merge hmerge
      obtain ⟨stored, rfl, hnext, hrest, hsorted⟩ := ih h
      exact ⟨stored, rfl, hnext.trans hold, List.forall_mem_cons.mpr ⟨hnext.trans hrow, hrest⟩,
        fun _ => hsorted (.inl (sorted_merge hmerge))⟩

/-- What deliveries leave under an id covers them, and is sorted unless it is a single row that is
not. -/
lemma stored_of_upsertedAll {before after : Option RuntimeSourceEvidence}
    (h : upsertedAll rt before (row :: rows) = .ok after) : ∃ stored, after = some stored ∧
      (∀ other ∈ row :: rows, Covers stored other) ∧
        ((before = none → rows = [] → Sorted row) → Sorted stored) := by
  cases before with
  | some old =>
    obtain ⟨stored, rfl, -, hcovers, hsorted⟩ := covers_upsertedAll h
    exact ⟨stored, rfl, hcovers, fun _ => hsorted (.inr (List.cons_ne_nil _ _))⟩
  | none =>
    obtain ⟨stored, rfl, hfirst, hcovers, hsorted⟩ := covers_upsertedAll h
    refine ⟨stored, rfl, List.forall_mem_cons.mpr ⟨hfirst, hcovers⟩, fun hsingle => hsorted ?_⟩
    by_cases hmore : rows = []
    · exact .inl (hsingle rfl hmore)
    · exact .inr hmore

/-- The deliveries of an id leave the row that they have made as it is exactly if they come again as
said. -/
theorem upsertedAll_again_iff {before after : Option RuntimeSourceEvidence}
    (h : upsertedAll rt before rows = .ok after) :
    upsertedAll rt after rows = .ok after ↔ ComeAgain rt before after rows := by
  cases rows with
  | nil => exact iff_of_true rfl (comeAgain_nil rt before after)
  | cons row rest =>
    obtain ⟨stored, rfl, hcovers, hsorted⟩ := stored_of_upsertedAll h
    constructor
    · intro hagain
      have hsingle : before = none → rest = [] → Sorted row := by
        rintro rfl rfl
        obtain rfl := Option.some.inj (Except.ok.inj h)
        obtain ⟨_, ⟨⟩, -, -, hsorted⟩ := covers_upsertedAll hagain
        exact hsorted (.inr (List.cons_ne_nil _ _))
      refine ⟨fun hnone other hother => ?_, ?_⟩
      · obtain ⟨rfl, hrest⟩ := List.cons.inj hother
        exact hsingle hnone hrest
      · rintro _ ⟨⟩
        exact (upsertedAll_eq_self_iff (hsorted hsingle) hcovers).mp hagain
    · rintro ⟨hsingle, hvalues⟩
      refine (upsertedAll_eq_self_iff (hsorted fun hnone hrest => ?_) hcovers).mpr
        (hvalues stored rfl)
      exact hsingle hnone row (hrest ▸ rfl)

end Again

end SeekTalent.CandidateStores
