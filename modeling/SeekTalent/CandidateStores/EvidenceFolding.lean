import SeekTalent.CandidateStores.MergeSymmetry
import SeekTalent.Foundation.MergeTrees

/-!
# Folding evidence rows

`merge_runtime_source_evidence_updates` merges all deliveries of an evidence row.  Which of two rows
gives its values is decided by a rank, and the rank of a row that is itself a merge is computed
anew: it has more leaves and another hash than the deliveries it was merged from.  A delivery that
ranks low can so overtake a better one with the help of a third, and the value that is kept depends
on the order.

The order-free outcome has for every field the value of the best delivery that has one.  A tree of
merges has it in all its rows exactly if in every merge, for every field in which the two rows
differ, the row that wins is the one with the better delivery; and two ways of folding the same
deliveries with such merges give the same tuple.
-/

namespace SeekTalent.CandidateStores

open Foundation SourceLanes

/-! ## Folding -/

/-- The key that rows are merged and sorted by. -/
def evidenceKey (row : RuntimeSourceEvidence) : String ×ₗ String :=
  toLex (row.candidateResumeId, row.evidenceId)

/-- `merge_runtime_source_evidence_updates`. -/
def mergeRuntimeSourceEvidenceUpdates (rt : ObservationRuntime)
    (groups : List (List RuntimeSourceEvidence)) : Except LaneError (List RuntimeSourceEvidence) :=
  mergeByKey evidenceKey (mergeRuntimeSourceEvidence rt) groups.flatten

/-- What `merge_runtime_source_evidence` refuses a row with. -/
def evidenceMismatch : LaneError :=
  .valueError "runtime_source_evidence_identity_mismatch"

/-- Rows of one identity merge to a row of it, and others are refused. -/
lemma guarded_mergeRuntimeSourceEvidence (rt : ObservationRuntime) :
    MergeTree.Guarded (mergeRuntimeSourceEvidence rt) RuntimeSourceEvidence.identityFields
      evidenceMismatch where
  merged left right hident := by
    have hmerged : ∃ merged, mergeRuntimeSourceEvidence rt left right = .ok merged := by
      unfold mergeRuntimeSourceEvidence require
      rw [if_pos hident]
      exact ⟨_, rfl⟩
    obtain ⟨merged, hmerged⟩ := hmerged
    exact ⟨merged, hmerged, (mergeRuntimeSourceEvidence_ok hmerged).2.1⟩
  refused left right hident := by
    unfold mergeRuntimeSourceEvidence require
    rw [if_neg hident]
    rfl

/-- The key is part of the identity. -/
lemma evidenceKey_eq {left right : RuntimeSourceEvidence}
    (h : left.identityFields = right.identityFields) : evidenceKey left = evidenceKey right := by
  rw [evidenceKey, evidenceKey, (identityFields_eq h).1, (identityFields_eq h).2]

/-! ## The value of a field -/

/-- The fields that have all elements of both rows. -/
def EvidenceField.isCollection : EvidenceField → Bool
  | .protectedContactHashes | .safeReasonCodes | .sourceReferences => true
  | _ => false

/-- The other fields have the value of the winner, unless it is empty and that of the loser is
not. -/
lemma evidenceValue_payload (winner loser : RuntimeSourceEvidence) {field : EvidenceField}
    (hfield : field.isCollection = false) :
    evidenceValue (mergeEvidencePayload winner loser) field =
      if (evidenceValue winner field).isEmpty = true ∧
        (evidenceValue loser field).isEmpty = false then
        evidenceValue loser field
      else evidenceValue winner field := by
  have htext : ∀ preferred fallback : Option String, textJson (richerText preferred fallback) =
      if (textJson preferred).isEmpty = true ∧
        (textJson fallback).isEmpty = false then textJson fallback
      else textJson preferred := fun preferred fallback => by
    rw [textJson_richerText]
    exact Json.richer_of_not_obj (.inl fun members h => by cases preferred <;> cases h)
  have hstring : ∀ preferred fallback : String, Json.str (richerString preferred fallback) =
      if (Json.str preferred).isEmpty = true ∧
        (Json.str fallback).isEmpty = false then Json.str fallback
      else Json.str preferred := fun preferred fallback => by
    rw [str_richerString]
    exact Json.richer_of_not_obj (.inl fun members h => by cases h)
  have hnumber : ∀ preferred fallback : Option Int, numberJson (richerNumber preferred fallback) =
      if (numberJson preferred).isEmpty = true ∧
        (numberJson fallback).isEmpty = false then numberJson fallback
      else numberJson preferred := fun preferred fallback => by
    rw [numberJson_richerNumber]
    exact Json.richer_of_not_obj (.inl fun members h => by cases preferred <;> cases h)
  cases field with
  | evidenceId => exact hstring _ _
  | source => exact hstring _ _
  | provider => exact hstring _ _
  | candidateResumeId => exact hstring _ _
  | providerCandidateKeyHash => exact hstring _ _
  | collectedAt => exact hstring _ _
  | providerRank => exact hnumber _ _
  | scoreHint => exact hnumber _ _
  | evidenceLevel =>
    have hlevel : (evidenceValue winner .evidenceLevel).isEmpty = false := by
      show (Json.str (evidenceLevelText winner.evidenceLevel)).isEmpty = false
      cases winner.evidenceLevel <;> decide
    rw [if_neg fun h => absurd h.1 (by rw [hlevel]; decide)]
    rfl
  | protectedContactHashes => cases hfield
  | safeReasonCodes => cases hfield
  | sourceReferences => cases hfield
  | _ => exact htext _ _

/-- A row is determined by its fields. -/
lemma eq_of_evidenceValue {row row' : RuntimeSourceEvidence}
    (hvalues : ∀ field, field.isCollection = false →
      evidenceValue row field = evidenceValue row' field)
    (hhashes : row.protectedContactHashes = row'.protectedContactHashes)
    (hcodes : row.safeReasonCodes = row'.safeReasonCodes)
    (hreferences : row.sourceReferences = row'.sourceReferences) : row = row' := by
  have htext : ∀ {text text' : Option String}, textJson text = textJson text' → text = text' := by
    intro text text' h
    cases text <;> cases text' <;> cases h <;> rfl
  have hstring : ∀ {text text' : String}, Json.str text = .str text' → text = text' := fun h =>
    Json.str.inj h
  have hnumber : ∀ {number number' : Option Int}, numberJson number = numberJson number' →
      number = number' := by
    intro number number' h
    cases number <;> cases number' <;> cases h <;> rfl
  have hlevel : row.evidenceLevel = row'.evidenceLevel := by
    have htexts : evidenceLevelText row.evidenceLevel = evidenceLevelText row'.evidenceLevel :=
      Json.str.inj (hvalues .evidenceLevel rfl)
    generalize row.evidenceLevel = level at htexts
    generalize row'.evidenceLevel = level' at htexts
    revert htexts
    cases level <;> cases level' <;> decide
  rw [RuntimeSourceEvidence.mk.injEq]
  exact ⟨hstring (hvalues .evidenceId rfl), hstring (hvalues .source rfl),
    hstring (hvalues .provider rfl), htext (hvalues .sourcePlanId rfl),
    htext (hvalues .sourceLaneRunId rfl), hlevel, hstring (hvalues .candidateResumeId rfl),
    hstring (hvalues .providerCandidateKeyHash rfl), hhashes, hnumber (hvalues .providerRank rfl),
    htext (hvalues .queryFingerprint rfl), htext (hvalues .providerSnapshotRef rfl),
    htext (hvalues .safeSummaryRef rfl), htext (hvalues .protectedArtifactRef rfl),
    hstring (hvalues .collectedAt rfl), hnumber (hvalues .scoreHint rfl),
    htext (hvalues .reasonCode rfl), hcodes, hreferences⟩

/-! ## The order-free outcome -/

variable (rt : ObservationRuntime)

/-- The rank of a delivery for a field: one that has a value comes before all that have none. -/
def fieldRank (field : EvidenceField) (row : RuntimeSourceEvidence) :
    Bool ×ₗ Nat ×ₗ Nat ×ₗ String ×ₗ String :=
  toLex (!(evidenceValue row field).isEmpty, runtimeSourceEvidenceRank rt row)

/-- The best delivery for a field. -/
def bestDelivery (field : EvidenceField) (t : MergeTree RuntimeSourceEvidence) :
    RuntimeSourceEvidence :=
  t.best (fieldRank rt field)

/-- The row at the root has the values of the best deliveries. -/
def Settled (t : MergeTree RuntimeSourceEvidence) : Prop :=
  ∀ row, t.eval (mergeRuntimeSourceEvidence rt) = .ok row → ∀ field, field.isCollection = false →
    evidenceValue row field = evidenceValue (bestDelivery rt field t) field

/-- Of two rows that differ in a field which both have, or both lack, the one with the better
delivery wins the merge at the root. -/
def Agreeing : MergeTree RuntimeSourceEvidence → Prop
  | .leaf _ => True
  | .node left right => ∀ a b, left.eval (mergeRuntimeSourceEvidence rt) = .ok a →
      right.eval (mergeRuntimeSourceEvidence rt) = .ok b → a.identityFields = b.identityFields →
        ∀ field, field.isCollection = false → evidenceValue a field ≠ evidenceValue b field →
          (evidenceValue a field).isEmpty = (evidenceValue b field).isEmpty →
            (runtimeSourceEvidenceRank rt b ≤ runtimeSourceEvidenceRank rt a ↔
              runtimeSourceEvidenceRank rt (bestDelivery rt field right) ≤
                runtimeSourceEvidenceRank rt (bestDelivery rt field left))

variable {rt}

/-- Of two deliveries one of which has a value that one is the better. -/
lemma fieldRank_le {field : EvidenceField} {a b : RuntimeSourceEvidence} :
    fieldRank rt field b ≤ fieldRank rt field a ↔
      ((evidenceValue a field).isEmpty = false ∧ (evidenceValue b field).isEmpty = true) ∨
        ((evidenceValue a field).isEmpty = (evidenceValue b field).isEmpty ∧
          runtimeSourceEvidenceRank rt b ≤ runtimeSourceEvidenceRank rt a) := by
  rw [fieldRank, fieldRank, Prod.Lex.toLex_le_toLex]
  cases (evidenceValue a field).isEmpty <;> cases (evidenceValue b field).isEmpty <;> simp

/-- A merge of settled rows is settled exactly if the row with the better deliveries wins. -/
lemma settled_node_iff {left right : MergeTree RuntimeSourceEvidence} (hleft : Settled rt left)
    (hright : Settled rt right) : Settled rt (.node left right) ↔ Agreeing rt
    (.node left right) := by
  -- The outcome of the merge, field by field.
  have hstep : ∀ a b merged, left.eval (mergeRuntimeSourceEvidence rt) = .ok a →
      right.eval (mergeRuntimeSourceEvidence rt) = .ok b →
        mergeRuntimeSourceEvidence rt a b = .ok merged →
        ∀ field, field.isCollection = false →
          (evidenceValue merged field = evidenceValue (bestDelivery rt field (.node left right))
            field ↔ (evidenceValue a field ≠ evidenceValue b field →
              (evidenceValue a field).isEmpty = (evidenceValue b field).isEmpty →
                (runtimeSourceEvidenceRank rt b ≤ runtimeSourceEvidenceRank rt a ↔
                  runtimeSourceEvidenceRank rt (bestDelivery rt field right) ≤
                    runtimeSourceEvidenceRank rt (bestDelivery rt field left)))) := by
    intro a b merged ha hb hmerge field hfield
    have hleft := hleft a ha field hfield
    have hright := hright b hb field hfield
    simp only [mergeRuntimeSourceEvidence, check_bind_eq_ok, require_eq_ok,
      Except.ok.injEq] at hmerge
    obtain ⟨-, rfl⟩ := hmerge
    have hbest : evidenceValue (bestDelivery rt field (.node left right)) field =
        if fieldRank rt field (bestDelivery rt field right) ≤
          fieldRank rt field (bestDelivery rt field left) then
          evidenceValue a field
        else evidenceValue b field := by
      rw [hleft, hright, bestDelivery, MergeTree.best]
      exact apply_ite (fun row => evidenceValue row field) _ _ _
    have hmerged : evidenceValue (if runtimeSourceEvidenceRank rt b ≤ runtimeSourceEvidenceRank rt a
          then mergeEvidencePayload a b else mergeEvidencePayload b a) field =
        if runtimeSourceEvidenceRank rt b ≤ runtimeSourceEvidenceRank rt a then
          evidenceValue (mergeEvidencePayload a b) field
        else evidenceValue (mergeEvidencePayload b a) field :=
      apply_ite (fun row => evidenceValue row field) _ _ _
    rw [hbest, hmerged, evidenceValue_payload a b hfield, evidenceValue_payload b a hfield]
    simp only [fieldRank_le, ← hleft, ← hright]
    generalize evidenceValue a field = held, evidenceValue b field = held'
    by_cases hwins : runtimeSourceEvidenceRank rt b ≤ runtimeSourceEvidenceRank rt a <;>
      by_cases hbetter : runtimeSourceEvidenceRank rt (bestDelivery rt field right) ≤
        runtimeSourceEvidenceRank rt (bestDelivery rt field left) <;>
      cases held.isEmpty <;> cases held'.isEmpty <;> simp [hwins, hbetter, eq_comm]
  constructor
  · intro hsettled a b ha hb hident field hfield
    obtain ⟨merged, hmerge, -⟩ := (guarded_mergeRuntimeSourceEvidence rt).merged a b hident
    refine (hstep a b merged ha hb hmerge field hfield).mp (hsettled merged ?_ field hfield)
    simp only [MergeTree.eval, bind_eq_ok]
    exact ⟨a, ha, b, hb, hmerge⟩
  · intro hagreeing merged hmerged field hfield
    simp only [MergeTree.eval, bind_eq_ok] at hmerged
    obtain ⟨a, ha, b, hb, hmerge⟩ := hmerged
    have hident := ((guarded_mergeRuntimeSourceEvidence rt).ident_of_ok hmerge).1
    exact (hstep a b merged ha hb hmerge field hfield).mpr (hagreeing a b ha hb hident field hfield)

/-- A tree of merges is settled in all its rows exactly if in all its merges the row with the better
deliveries wins. -/
theorem every_settled_iff (t : MergeTree RuntimeSourceEvidence) :
    t.Every (Settled rt) ↔ t.Every (Agreeing rt) := by
  induction t with
  | leaf row =>
    refine iff_of_true (fun other hother field _ => ?_) trivial
    obtain rfl := Except.ok.inj hother
    rfl
  | node left right ihleft ihright =>
    constructor
    · rintro ⟨hleft, hright, hself⟩
      exact ⟨ihleft.mp hleft, ihright.mp hright, (settled_node_iff hleft.root hright.root).mp hself⟩
    · rintro ⟨hleft, hright, hself⟩
      have hleft := ihleft.mpr hleft
      have hright := ihright.mpr hright
      exact ⟨hleft, hright, (settled_node_iff hleft.root hright.root).mpr hself⟩

/-! ## The collections -/

/-- The references of a row are determined by which there are. -/
lemma mergeSourceReferences_congr {left right left' right' : List SourceReference}
    (h : ∀ reference, reference ∈ left ∨ reference ∈ right ↔ reference ∈ left' ∨
      reference ∈ right') :
    mergeSourceReferences left right = mergeSourceReferences left' right' := by
  have hinjective : Function.Injective SourceReference.key := by
    intro r s hrs
    cases r
    cases s
    simpa [SourceReference.key] using hrs
  have hnodup : ∀ references : List SourceReference,
      (references.dedup.insertionSort fun r s => r.key ≤ s.key).Nodup := fun references =>
    (List.perm_insertionSort _ _).nodup_iff.mpr references.nodup_dedup
  have hsorted : ∀ references : List SourceReference,
      (references.dedup.insertionSort fun r s => r.key ≤ s.key).Pairwise fun r s =>
      r.key ≤ s.key := by
    intro references
    have : Std.Total fun r s : SourceReference => r.key ≤ s.key := ⟨fun r s => le_total r.key s.key⟩
    have : IsTrans SourceReference fun r s => r.key ≤ s.key := ⟨fun r s t => le_trans⟩
    exact List.pairwise_insertionSort _ _
  have hperm : (mergeSourceReferences left right).Perm (mergeSourceReferences left' right') :=
    (List.perm_ext_iff_of_nodup (hnodup _) (hnodup _)).mpr fun reference =>
      mem_mergeSourceReferences.trans ((h reference).trans mem_mergeSourceReferences.symm)
  exact hperm.eq_of_pairwise (fun r s _ _ hrs hsr => hinjective (le_antisymm hrs hsr)) (hsorted _)
    (hsorted _)

/-- The row has the hashes, codes and references of all deliveries. -/
structure HasAllOf (deliveries : List RuntimeSourceEvidence) (row : RuntimeSourceEvidence) :
    Prop where
  hashes : ∀ x, x ∈ row.protectedContactHashes ↔ ∃ e ∈ deliveries, x ∈ e.protectedContactHashes
  codes : ∀ x, x ∈ row.safeReasonCodes ↔ ∃ e ∈ deliveries, x ∈ e.safeReasonCodes
  references : ∀ x, x ∈ row.sourceReferences ↔ ∃ e ∈ deliveries, x ∈ e.sourceReferences

/-- The hashes, codes and references of a row are sorted. -/
structure Sorted (row : RuntimeSourceEvidence) : Prop where
  hashes : row.protectedContactHashes = sortedTexts row.protectedContactHashes
  codes : row.safeReasonCodes = sortedTexts row.safeReasonCodes
  references : row.sourceReferences = mergeSourceReferences row.sourceReferences []

/-- A merged row is sorted. -/
lemma sorted_merge {left right merged : RuntimeSourceEvidence}
    (h : mergeRuntimeSourceEvidence rt left right = .ok merged) : Sorted merged := by
  have hpayload : ∀ winner loser, Sorted (mergeEvidencePayload winner loser) := fun winner loser =>
    ⟨sortedTexts_congr fun x => mem_sortedTexts.symm, sortedTexts_congr fun x =>
      mem_sortedTexts.symm, mergeSourceReferences_congr fun x => by
        rw [← mem_mergeSourceReferences]
        simp [mergeEvidencePayload]⟩
  simp only [mergeRuntimeSourceEvidence, check_bind_eq_ok, require_eq_ok, Except.ok.injEq] at h
  obtain ⟨-, rfl⟩ := h
  split
  · exact hpayload left right
  · exact hpayload right left

/-- The row at the root has what all deliveries have. -/
lemma hasAllOf_eval {t : MergeTree RuntimeSourceEvidence} {row : RuntimeSourceEvidence}
    (h : t.eval (mergeRuntimeSourceEvidence rt) = .ok row) : HasAllOf t.leaves row := by
  induction t generalizing row with
  | leaf other =>
    obtain rfl := Except.ok.inj h
    constructor <;> simp [MergeTree.leaves]
  | node left right ihleft ihright =>
    simp only [MergeTree.eval, bind_eq_ok] at h
    obtain ⟨a, ha, b, hb, hmerge⟩ := h
    have hleft := ihleft ha
    have hright := ihright hb
    simp only [mergeRuntimeSourceEvidence, check_bind_eq_ok, require_eq_ok,
      Except.ok.injEq] at hmerge
    obtain ⟨-, rfl⟩ := hmerge
    have hboth : KeepsBothRows a b
      (if runtimeSourceEvidenceRank rt b ≤ runtimeSourceEvidenceRank rt a
        then mergeEvidencePayload a b else mergeEvidencePayload b a) := by
      split
      · exact keepsBothRows_payload a b
      · exact (keepsBothRows_payload b a).swap
    rw [MergeTree.leaves]
    constructor
    · intro x
      simp only [hboth.contactHashes, hleft.hashes, hright.hashes, List.mem_append, or_and_right,
        exists_or]
    · intro x
      simp only [hboth.reasonCodes, hleft.codes, hright.codes, List.mem_append, or_and_right,
        exists_or]
    · intro x
      simp only [hboth.references, hleft.references, hright.references, List.mem_append,
        or_and_right, exists_or]

/-! ## Any order -/

/-- Merges of the same deliveries in which the row with the better deliveries wins give the same
row. -/
theorem eval_eq_of_perm {t t' : MergeTree RuntimeSourceEvidence} (hperm : t.leaves.Perm t'.leaves)
    (hhash : ∀ a ∈ t.leaves, ∀ b ∈ t.leaves, rt.evidencePayloadHash a = rt.evidencePayloadHash b →
      a = b)
    (ht : t.Every (Agreeing rt)) (ht' : t'.Every (Agreeing rt)) {row row' : RuntimeSourceEvidence}
    (hrow : t.eval (mergeRuntimeSourceEvidence rt) = .ok row)
    (hrow' : t'.eval (mergeRuntimeSourceEvidence rt) = .ok row') : row = row' := by
  have hvalues : ∀ field, field.isCollection = false →
      evidenceValue row field = evidenceValue row' field := by
    intro field hfield
    have hbest := MergeTree.best_greatest (fieldRank rt field) t
    have hbest' := MergeTree.best_greatest (fieldRank rt field) t'
    have hrank : fieldRank rt field (bestDelivery rt field t) =
        fieldRank rt field (bestDelivery rt field t') :=
      MergeTree.rank_best_of_perm (fieldRank rt field) hperm
    have hlast := congrArg (fun rank => (ofLex (ofLex (ofLex (ofLex rank).2).2).2).2) hrank
    have hsame : bestDelivery rt field t = bestDelivery rt field t' :=
      hhash _ hbest.1 _ (hperm.mem_iff.mpr hbest'.1) hlast
    rw [((every_settled_iff t).mpr ht).root row hrow field hfield,
      ((every_settled_iff t').mpr ht').root row' hrow' field hfield, hsame]
  have hall := hasAllOf_eval hrow
  have hall' := hasAllOf_eval hrow'
  cases t with
  | leaf e =>
    obtain rfl := Except.ok.inj hrow
    have hleaves : t'.leaves = [e] := List.perm_singleton.mp hperm.symm
    cases t' with
    | leaf e' =>
      obtain rfl := Except.ok.inj hrow'
      exact (List.singleton_inj.mp hleaves).symm
    | node left right =>
      have hlength := congrArg List.length hleaves
      exact absurd (MergeTree.two_le_length_leaves left right)
        (by rw [hlength, List.length_singleton]; omega)
  | node left right =>
    cases t' with
    | leaf e' =>
      have hlength : (MergeTree.node left right).leaves.length = 1 := hperm.length_eq
      exact absurd (MergeTree.two_le_length_leaves left right) (by omega)
    | node left' right' =>
      have hsorted : ∀ {left right : MergeTree RuntimeSourceEvidence} {row : RuntimeSourceEvidence},
          (MergeTree.node left right).eval (mergeRuntimeSourceEvidence rt) = .ok row →
          Sorted row := by
        intro left right row h
        simp only [MergeTree.eval, bind_eq_ok] at h
        obtain ⟨a, -, b, -, hmerge⟩ := h
        exact sorted_merge hmerge
      have hrow := hsorted hrow
      have hrow' := hsorted hrow'
      refine eq_of_evidenceValue hvalues ?_ ?_ ?_
      · rw [hrow.hashes, hrow'.hashes]
        refine sortedTexts_congr fun x => ?_
        simp only [hall.hashes, hall'.hashes, hperm.mem_iff]
      · rw [hrow.codes, hrow'.codes]
        refine sortedTexts_congr fun x => ?_
        simp only [hall.codes, hall'.codes, hperm.mem_iff]
      · rw [hrow.references, hrow'.references]
        refine mergeSourceReferences_congr fun x => ?_
        simp only [hall.references, hall'.references, hperm.mem_iff]

/-! ## Calls on calls -/

variable (rt)

/-- What a folding hands over. -/
def foldUpdates (f : Folding RuntimeSourceEvidence) :
    Except LaneError (List RuntimeSourceEvidence) :=
  f.result evidenceKey (mergeRuntimeSourceEvidence rt)

/-- A call on what some foldings hand over. -/
def callOn (groups : List (Folding RuntimeSourceEvidence)) : Folding RuntimeSourceEvidence :=
  .pass (groups.foldr .both (.given []))

/-- All merges of a folding are such that the row with the better deliveries wins. -/
def AgreeingMerges (f : Folding RuntimeSourceEvidence) : Prop :=
  ∀ k, ∀ t ∈ f.trees evidenceKey k, t.Every (Agreeing rt)

/-- A tree of merges of deliveries has the values of the best deliveries in all its rows exactly if
in all its merges the row with the better deliveries wins; and calls with such merges hand over the
same, in whatever order the deliveries come and however they are handed from call to call. -/
theorem foldUpdates_settled (rt : ObservationRuntime) :
    (∀ t : MergeTree RuntimeSourceEvidence, t.Every (Settled rt) ↔ t.Every (Agreeing rt)) ∧
      ∀ groups groups' : List (Folding RuntimeSourceEvidence),
        (callOn groups).rows.Perm (callOn groups').rows →
          (∀ a ∈ (callOn groups).rows, ∀ b ∈ (callOn groups).rows,
            rt.evidencePayloadHash a = rt.evidencePayloadHash b → a = b) →
          AgreeingMerges rt (callOn groups) → AgreeingMerges rt (callOn groups') →
            foldUpdates rt (callOn groups) = foldUpdates rt (callOn groups') := by
  refine ⟨every_settled_iff, fun groups groups' hperm hhash hmerges hmerges' => ?_⟩
  refine Folding.result_eq (guarded_mergeRuntimeSourceEvidence rt) (fun _ _ => evidenceKey_eq)
    hperm ?_
  intro k t ht t' ht' hleaves row row' hrow hrow'
  refine eval_eq_of_perm hleaves (fun a ha b hb => ?_) (hmerges k t ht) (hmerges' k t' ht') hrow
    hrow'
  exact hhash a (Folding.mem_rows_of_mem_leaves ht ha).1 b (Folding.mem_rows_of_mem_leaves ht hb).1

/-! ## Three deliveries -/

/-- The functions of a run, with a hash that tells the deliveries apart. -/
def snapshotRuntime : ObservationRuntime :=
  { RunStores.locationRuntime.evidence with
    evidencePayloadHash := fun row => row.providerSnapshotRef.getD "" }

/-- A delivery of an evidence row. -/
def delivery (snapshot summary : Option String) (rank hint : Option Int) :
    RuntimeSourceEvidence where
  evidenceId := "evidence"
  source := "liepin"
  provider := "liepin"
  evidenceLevel := .card
  candidateResumeId := "resume"
  providerCandidateKeyHash := "key"
  collectedAt := "2026-01-01T00:00:00Z"
  providerRank := rank
  providerSnapshotRef := snapshot
  safeSummaryRef := summary
  scoreHint := hint

/-- Two deliveries with different values, of which the first has a summary in addition, and one with
neither. -/
def deliveries : List RuntimeSourceEvidence :=
  [delivery (some "snapshot-1") (some "summary") none none,
    delivery (some "snapshot-2") none none none, delivery none none (some 1) (some 80)]

/-- The functions of a run, with a hash that tells summaries and snapshots apart. -/
def summaryRuntime : ObservationRuntime :=
  { RunStores.locationRuntime.evidence with
    evidencePayloadHash := fun row =>
      row.providerSnapshotRef.getD "" ++ row.safeSummaryRef.getD "" }

/-- A delivery with a snapshot. -/
def snapped : RuntimeSourceEvidence := delivery (some "snapshot-1") none none none

/-- A delivery with a summary. -/
def summarised : RuntimeSourceEvidence := delivery none (some "summary") none none

/-- A delivery with a rank. -/
def ranked : RuntimeSourceEvidence := delivery none none (some 1) (some 80)

/-- Rows that differ in no field which both have, or both lack, agree. -/
lemma agreeing_of_complementary {rt : ObservationRuntime}
    {left right : MergeTree RuntimeSourceEvidence}
    {a b : RuntimeSourceEvidence} (ha : left.eval (mergeRuntimeSourceEvidence rt) = .ok a)
    (hb : right.eval (mergeRuntimeSourceEvidence rt) = .ok b)
    (h : ∀ field, evidenceValue a field = evidenceValue b field ∨
      (evidenceValue a field).isEmpty ≠ (evidenceValue b field).isEmpty) :
    Agreeing rt (.node left right) := by
  intro a' b' ha' hb' _ field _ hne hsame
  obtain rfl := Except.ok.inj (ha.symm.trans ha')
  obtain rfl := Except.ok.inj (hb.symm.trans hb')
  exact absurd hsame ((h field).resolve_left hne)

/-- Three deliveries that differ in no field which two of them have, in one call and in two. -/
theorem complementary_settled :
    foldUpdates summaryRuntime (callOn [.given [snapped, summarised, ranked]]) =
      foldUpdates summaryRuntime
        (callOn [.given [ranked], callOn [.given [snapped, summarised]]]) := by
  have hkey : ∀ a ∈ [snapped, summarised, ranked], evidenceKey a =
    toLex ("resume", "evidence") := by decide
  have hinner : (MergeTree.node (.leaf snapped) (.leaf summarised)).eval
      (mergeRuntimeSourceEvidence summaryRuntime) =
        .ok (delivery (some "snapshot-1") (some "summary") none none) := by decide +kernel
  have hpair : (MergeTree.node (.leaf snapped) (.leaf summarised)).Every
      (Agreeing summaryRuntime) := by
    refine ⟨trivial, trivial, agreeing_of_complementary rfl rfl fun field => ?_⟩
    cases field <;> first | exact .inl rfl | exact .inr (by decide)
  have hfirst : (MergeTree.node (.node (.leaf snapped) (.leaf summarised)) (.leaf ranked)).Every
      (Agreeing summaryRuntime) := by
    refine ⟨hpair, trivial, agreeing_of_complementary hinner rfl fun field => ?_⟩
    cases field <;> first | exact .inl rfl | exact .inr (by decide)
  have hlast : (MergeTree.node (.leaf ranked) (.node (.leaf snapped) (.leaf summarised))).Every
      (Agreeing summaryRuntime) := by
    refine ⟨trivial, hpair, agreeing_of_complementary rfl hinner fun field => ?_⟩
    cases field <;> first | exact .inl rfl | exact .inr (by decide)
  have hrows : [ranked, snapped, summarised].Perm [snapped, summarised, ranked] :=
    (List.perm_append_singleton ranked [snapped, summarised]).symm
  refine (foldUpdates_settled summaryRuntime).2 _ _ hrows.symm (by decide) ?_ ?_
  · intro k t ht
    obtain ⟨a, ha⟩ := t.exists_mem_leaves
    obtain ⟨hmem, rfl⟩ := Folding.mem_rows_of_mem_leaves ht ha
    rw [hkey a hmem] at ht
    obtain rfl := List.mem_singleton.mp ht
    exact hfirst
  · intro k t ht
    obtain ⟨a, ha⟩ := t.exists_mem_leaves
    obtain ⟨hmem, rfl⟩ := Folding.mem_rows_of_mem_leaves ht ha
    rw [hkey a (hrows.mem_iff.mp hmem)] at ht
    obtain rfl := List.mem_singleton.mp ht
    exact hlast

/-- The better delivery is overtaken by the other one, once that is filled up from the third. -/
theorem deliveries_reversed :
    mergeRuntimeSourceEvidenceUpdates snapshotRuntime [deliveries] ≠
      mergeRuntimeSourceEvidenceUpdates snapshotRuntime [deliveries.reverse] := by
  intro h
  have hfirst : (mergeRuntimeSourceEvidenceUpdates snapshotRuntime [deliveries]).toOption.map
      (List.map RuntimeSourceEvidence.providerSnapshotRef) =
      some [some "snapshot-1"] := by decide +kernel
  have hlast : (mergeRuntimeSourceEvidenceUpdates snapshotRuntime [deliveries.reverse]).toOption.map
      (List.map RuntimeSourceEvidence.providerSnapshotRef) =
      some [some "snapshot-2"] := by decide +kernel
  rw [h, hlast] at hfirst
  exact absurd hfirst (by decide)

end SeekTalent.CandidateStores
