import Mathlib.Data.List.FinRange
import Mathlib.Data.List.Induction
import Mathlib.Data.List.Nodup
import Mathlib.Data.List.Perm.Basic
import Mathlib.Tactic.Choose
import SeekTalent.Foundation.Dicts

/-!
# Matchings by augmenting paths

Rows and columns, some of which fit together.  Every row in turn looks for a column: it takes the
first free one that it fits, or the first one whose owner finds another column in the same way, none
being looked at twice in one search.

No column is looked at twice in a search, so every search ends (`rowsEnd_iff`).  A search that fails
has found a set of rows all whose columns belong to other rows of the set (`Closed`), and no later
search gets anything out of such a set.  At the end the rows outside the closed set and the columns
in it meet all that fits, and there are as many of them as columns that have an owner: no matching
is larger (`Matched.length_le`).
-/

namespace Foundation

namespace Matchings

variable {ι κ : Type*} [DecidableEq ι] [DecidableEq κ]

/-- What a search leaves: whether the row has found a column, the columns that were looked at, and
the owners. -/
abbrev Search (ι κ : Type*) [DecidableEq κ] := Bool × List κ × Dict κ ι

section Search

variable (fits : ι → κ → Bool)

/-- A row looks for one of the columns; `displace` lets an owner look for another one. -/
def tryColumns (displace : ι → List κ → Dict κ ι → Search ι κ) (row : ι) :
    List κ → List κ → Dict κ ι → Search ι κ
  | [], seen, owner => (false, seen, owner)
  | c :: rest, seen, owner =>
    if fits row c = true ∧ c ∉ seen then
      match owner.lookup c with
      | none => (true, c :: seen, owner.insert c row)
      | some previous =>
        match displace previous (c :: seen) owner with
        | (true, seen', owner') => (true, seen', owner'.insert c row)
        | (false, seen', owner') => tryColumns displace row rest seen' owner'
    else tryColumns displace row rest seen owner

variable (columns : List κ)

/-- A row looks for a column; the fuel bounds how many owners are displaced one after another. -/
def augment : Nat → ι → List κ → Dict κ ι → Search ι κ
  | 0, _, seen, owner => (false, seen, owner)
  | fuel + 1, row, seen, owner => tryColumns fits (augment fuel) row columns seen owner

/-- The owners after the search of one more row. -/
def matchRow (owner : Dict κ ι) (row : ι) : Dict κ ι :=
  (augment fits columns (columns.length + 1) row [] owner).2.2

/-- The owners after every row has looked for a column. -/
def matchRows (rows : List ι) : Dict κ ι :=
  rows.foldl (matchRow fits columns) ∅

end Search

variable {fits : ι → κ → Bool} {columns : List κ}

/-! ## One search -/

/-- How many columns a row has. -/
def held (columns : List κ) (owner : Dict κ ι) (row : ι) : Nat :=
  columns.countP fun c => owner.lookup c = some row

/-- How many columns were not looked at. -/
def unseen (columns : List κ) (seen : List κ) : Nat :=
  columns.countP fun c => c ∉ seen

/-- A column that changes its owner is one less for the one and one more for the other. -/
lemma held_insert (hcolumns : columns.Nodup) {c : κ} (hc : c ∈ columns) (owner : Dict κ ι)
    (row r : ι) :
    held columns (owner.insert c row) r + (if owner.lookup c = some r then 1 else 0) =
      held columns owner r + if row = r then 1 else 0 := by
  induction columns with
  | nil => exact absurd hc List.not_mem_nil
  | cons d rest ih =>
    obtain ⟨hd, hrest⟩ := List.nodup_cons.mp hcolumns
    simp only [held, List.countP_cons, decide_eq_true_eq, Dict.lookup_insert_ite]
    by_cases hdc : d = c
    · subst hdc
      have hsame : rest.countP
        (fun c => decide ((if c = d then some row else owner.lookup c) = some r)) =
          rest.countP (fun c => decide (owner.lookup c = some r)) :=
        List.countP_congr fun c hc => by
          have hne : c ≠ d := fun heq => hd (heq ▸ hc)
          rw [if_neg hne]
      rw [hsame, if_pos rfl]
      simp only [Option.some.injEq]
      omega
    · have hc : c ∈ rest := (List.mem_cons.mp hc).resolve_left (Ne.symm hdc)
      have ih := ih hrest hc
      simp only [held, Dict.lookup_insert_ite] at ih
      rw [if_neg hdc]
      omega

/-- Looking at a column leaves fewer that were not looked at. -/
lemma unseen_cons_lt {c : κ} (hc : c ∈ columns) {seen : List κ} (hseen : c ∉ seen) :
    unseen columns (c :: seen) < unseen columns seen := by
  induction columns with
  | nil => exact absurd hc List.not_mem_nil
  | cons d rest ih =>
    have hle : rest.countP (fun d => d ∉ c :: seen) ≤ rest.countP (fun d => d ∉ seen) :=
      List.countP_mono_left fun d _ hd => by
        simp only [decide_eq_true_eq] at hd ⊢
        exact fun hmem => hd (List.mem_cons_of_mem c hmem)
    unfold unseen at ih ⊢
    rw [List.countP_cons, List.countP_cons]
    obtain rfl | hc := List.mem_cons.mp hc
    · rw [if_neg (by simp), if_pos (by simpa using hseen)]
      omega
    · have ih := ih hc
      by_cases hd : d ∈ seen
      · rw [if_neg (by simp [hd]), if_neg (by simp [hd])]
        exact ih
      · rw [if_pos (show decide (d ∉ seen) = true by simpa using hd)]
        split <;> omega

/-- Having looked at more columns leaves no more that were not looked at. -/
lemma unseen_le {seen seen' : List κ} (h : ∀ c ∈ seen, c ∈ seen') :
    unseen columns seen' ≤ unseen columns seen :=
  List.countP_mono_left fun c _ hc => by
    simp only [decide_eq_true_eq] at hc ⊢
    exact fun hmem => hc (h c hmem)

/-- A set of rows and columns such that the rows fit columns of the set only, all of which belong to
rows of the set. -/
structure Closed (fits : ι → κ → Bool) (columns : List κ) (owner : Dict κ ι) (Z : ι → Prop)
    (C : κ → Prop) : Prop where
  owned : ∀ c ∈ columns, C c → ∃ r, owner.lookup c = some r ∧ Z r
  fitting : ∀ r, Z r → ∀ c ∈ columns, fits r c = true → C c

/-- What a search does. -/
structure Searched (fits : ι → κ → Bool) (columns : List κ) (row : ι) (seen : List κ)
    (owner : Dict κ ι) (result : Search ι κ) : Prop where
  seen_subset : ∀ c ∈ seen, c ∈ result.2.1
  kept : result.1 = false → result.2.2 = owner
  settled : ∀ c ∈ seen, result.2.2.lookup c = owner.lookup c
  taken : ∀ c, (owner.lookup c).isSome → (result.2.2.lookup c).isSome
  fitting : ∀ c r, result.2.2.lookup c = some r → owner.lookup c = some r ∨ fits r c = true ∧
    c ∈ columns
  holds : ∀ r, held columns result.2.2 r =
    held columns owner r + if result.1 = true ∧ row = r then 1 else 0

variable {displace : ι → List κ → Dict κ ι → Search ι κ}

/-- What looking for one of some columns does, if displacing an owner does what a search does. -/
lemma searched_tryColumns (hcolumns : columns.Nodup)
    (hdisplace : ∀ r seen owner, Searched fits columns r seen owner (displace r seen owner))
    (row : ι) (todo : List κ) (htodo : ∀ c ∈ todo, c ∈ columns) (seen : List κ) (owner : Dict κ ι) :
    Searched fits columns row seen owner (tryColumns fits displace row todo seen owner) := by
  induction todo generalizing seen owner with
  | nil => exact ⟨fun _ h => h, fun _ => rfl, fun _ _ => rfl, fun _ h => h, fun _ _ h =>
    .inl h, by simp [tryColumns]⟩
  | cons c rest ih =>
    have ih := ih fun d hd => htodo d (List.mem_cons_of_mem c hd)
    have hc := htodo c List.mem_cons_self
    unfold tryColumns
    by_cases hfits : fits row c = true ∧ c ∉ seen
    · rw [if_pos hfits]
      -- What taking the column over does.
      have htake : ∀ (seen' : List κ) (owner' : Dict κ ι), (∀ d ∈ c :: seen, d ∈ seen') →
          (∀ d ∈ c :: seen, owner'.lookup d = owner.lookup d) →
          (∀ d, (owner.lookup d).isSome → (owner'.lookup d).isSome) →
          (∀ d r, owner'.lookup d = some r → owner.lookup d = some r ∨ fits r d = true ∧
            d ∈ columns) →
          (∀ r, held columns owner' r =
            held columns owner r + if owner.lookup c = some r then 1 else 0) →
            Searched fits columns row seen owner (true, seen', owner'.insert c row) := by
        intro seen' owner' hseen hsettled htaken hfitting hheld
        have hne : ∀ d ∈ seen, d ≠ c := fun d hd heq => hfits.2 (heq ▸ hd)
        refine ⟨fun d hd => hseen d (List.mem_cons_of_mem c hd), fun h =>
          absurd h Bool.true_eq_false.mp, ?_, ?_, ?_, ?_⟩
        · intro d hd
          dsimp only
          rw [Dict.lookup_insert_ite, if_neg (hne d hd)]
          exact hsettled d (List.mem_cons_of_mem c hd)
        · intro d hd
          dsimp only
          rw [Dict.lookup_insert_ite]
          split
          · rfl
          · exact htaken d hd
        · intro d r hr
          dsimp only at hr
          rw [Dict.lookup_insert_ite] at hr
          split at hr
          · rename_i heq
            obtain rfl := Option.some.inj hr
            exact .inr ⟨heq ▸ hfits.1, heq ▸ hc⟩
          · exact hfitting d r hr
        · intro r
          have hinsert := held_insert hcolumns hc owner' row r
          have hheld := hheld r
          rw [hsettled c List.mem_cons_self] at hinsert
          simp only [true_and]
          omega
      cases howner : owner.lookup c with
      | none =>
        refine htake (c :: seen) owner (fun _ h => h) (fun _ _ => rfl) (fun _ h => h)
          (fun _ _ h => .inl h) ?_
        intro r
        rw [howner, if_neg (by simp)]
        rfl
      | some previous =>
        dsimp only
        have hprevious := hdisplace previous (c :: seen) owner
        generalize displace previous (c :: seen) owner = result at hprevious ⊢
        obtain ⟨found, seen', owner'⟩ := result
        cases found with
        | true =>
          refine htake seen' owner' hprevious.seen_subset hprevious.settled hprevious.taken
            hprevious.fitting ?_
          intro r
          have hholds := hprevious.holds r
          simpa [howner] using hholds
        | false =>
          have hkept : owner' = owner := hprevious.kept rfl
          subst hkept
          have hrest := ih seen' owner'
          have hsub : ∀ d ∈ seen, d ∈ seen' := fun d hd =>
            hprevious.seen_subset d (List.mem_cons_of_mem c hd)
          exact ⟨fun d hd => hrest.seen_subset d (hsub d hd), hrest.kept,
            fun d hd => hrest.settled d (hsub d hd), hrest.taken, hrest.fitting, hrest.holds⟩
    · rw [if_neg hfits]
      exact ih seen owner

/-- What a search does. -/
theorem searched_augment (hcolumns : columns.Nodup) (fuel : Nat) (row : ι) (seen : List κ)
    (owner : Dict κ ι) :
    Searched fits columns row seen owner (augment fits columns fuel row seen owner) := by
  induction fuel generalizing row seen owner with
  | zero => exact ⟨fun _ h => h, fun _ => rfl, fun _ _ => rfl, fun _ h => h, fun _ _ h =>
    .inl h, by simp [augment]⟩
  | succ fuel ih => exact searched_tryColumns hcolumns ih row columns (fun _ h => h) seen owner

/-! ## The search without a bound on its depth -/

/-- The search as a recursion with no bound on its depth: a row that looks for one of the columns
`todo` returns `result`.  A derivation is a run of the recursion that ends. -/
inductive Ends (fits : ι → κ → Bool) (columns : List κ) :
    ι → List κ → List κ → Dict κ ι → Search ι κ → Prop
  | none (row : ι) (seen : List κ) (owner : Dict κ ι) :
      Ends fits columns row [] seen owner (false, seen, owner)
  | skip {row : ι} {c : κ} {rest seen : List κ} {owner : Dict κ ι} {result : Search ι κ}
      (hskip : ¬(fits row c = true ∧ c ∉ seen))
      (hrest : Ends fits columns row rest seen owner result) :
      Ends fits columns row (c :: rest) seen owner result
  | free {row : ι} {c : κ} {rest seen : List κ} {owner : Dict κ ι}
      (hfits : fits row c = true ∧ c ∉ seen)
      (hfree : owner.lookup c = Option.none) :
      Ends fits columns row (c :: rest) seen owner (true, c :: seen, owner.insert c row)
  | displaced {row previous : ι} {c : κ} {rest seen seen' : List κ} {owner owner' : Dict κ ι}
      (hfits : fits row c = true ∧ c ∉ seen) (howner : owner.lookup c = some previous)
      (hprevious : Ends fits columns previous columns (c :: seen) owner (true, seen', owner')) :
      Ends fits columns row (c :: rest) seen owner (true, seen', owner'.insert c row)
  | kept {row previous : ι} {c : κ} {rest seen seen' : List κ} {owner owner' : Dict κ ι}
      {result : Search ι κ}
      (hfits : fits row c = true ∧ c ∉ seen) (howner : owner.lookup c = some previous)
      (hprevious : Ends fits columns previous columns (c :: seen) owner (false, seen', owner'))
      (hrest : Ends fits columns row rest seen' owner' result) :
      Ends fits columns row (c :: rest) seen owner result

variable {owner : Dict κ ι}

omit [DecidableEq ι] in
/-- The recursion returns one result. -/
lemma Ends.unique {row : ι} {todo seen : List κ} {result other : Search ι κ}
    (h : Ends fits columns row todo seen owner result)
    (h' : Ends fits columns row todo seen owner other) : result = other := by
  induction h generalizing other with
  | none row seen owner =>
    cases h'
    rfl
  | skip hskip hrest ih =>
    cases h' with
    | skip _ hrest' => exact ih hrest'
    | free hfits => exact absurd hfits hskip
    | displaced hfits => exact absurd hfits hskip
    | kept hfits => exact absurd hfits hskip
  | free hfits hfree =>
    cases h' with
    | skip hskip => exact absurd hfits hskip
    | free => rfl
    | displaced _ howner =>
      rw [hfree] at howner
      cases howner
    | kept _ howner =>
      rw [hfree] at howner
      cases howner
  | displaced hfits howner hprevious ih =>
    cases h' with
    | skip hskip => exact absurd hfits hskip
    | free _ hfree =>
      rw [howner] at hfree
      cases hfree
    | displaced _ howner' hprevious' =>
      obtain rfl := Option.some.inj (howner.symm.trans howner')
      cases ih hprevious'
      rfl
    | kept _ howner' hprevious' =>
      obtain rfl := Option.some.inj (howner.symm.trans howner')
      cases ih hprevious'
  | kept hfits howner hprevious hrest ihprevious ihrest =>
    cases h' with
    | skip hskip => exact absurd hfits hskip
    | free _ hfree =>
      rw [howner] at hfree
      cases hfree
    | displaced _ howner' hprevious' =>
      obtain rfl := Option.some.inj (howner.symm.trans howner')
      cases ihprevious hprevious'
    | kept _ howner' hprevious' hrest' =>
      obtain rfl := Option.some.inj (howner.symm.trans howner')
      cases ihprevious hprevious'
      exact ihrest hrest'

/-- Looking for one of some columns is a run that ends, if displacing an owner is one while there
are columns that were not looked at. -/
lemma ends_tryColumns
    (hdisplace : ∀ r seen owner, Searched fits columns r seen owner (displace r seen owner))
    {fuel : Nat} (hends : ∀ r seen owner, unseen columns seen < fuel →
      Ends fits columns r columns seen owner (displace r seen owner)) (row : ι)
    (todo : List κ) (htodo : ∀ c ∈ todo, c ∈ columns) (seen : List κ) (owner : Dict κ ι)
    (hfuel : unseen columns seen < fuel + 1) :
    Ends fits columns row todo seen owner (tryColumns fits displace row todo seen owner) := by
  induction todo generalizing seen owner with
  | nil => exact .none row seen owner
  | cons c rest ih =>
    have ih := ih fun d hd => htodo d (List.mem_cons_of_mem c hd)
    unfold tryColumns
    by_cases hfits : fits row c = true ∧ c ∉ seen
    · rw [if_pos hfits]
      cases howner : owner.lookup c with
      | none => exact .free hfits howner
      | some previous =>
        -- The column is looked at before its owner is displaced, so less is left for the owner.
        have hfewer := unseen_cons_lt (htodo c List.mem_cons_self) hfits.2
        have hprevious := hends previous (c :: seen) owner (by omega)
        have hsearched := hdisplace previous (c :: seen) owner
        dsimp only
        generalize displace previous (c :: seen) owner = result at hprevious hsearched ⊢
        obtain ⟨found, seen', owner'⟩ := result
        cases found with
        | true => exact .displaced hfits howner hprevious
        | false =>
          have hseen : unseen columns seen' ≤ unseen columns (c :: seen) :=
            unseen_le hsearched.seen_subset
          exact .kept hfits howner hprevious (ih seen' owner' (by omega))
    · rw [if_neg hfits]
      exact .skip hfits (ih seen owner hfuel)

/-- A search with fuel for every column that was not looked at is a run that ends. -/
theorem ends_augment (hcolumns : columns.Nodup) (fuel : Nat) (row : ι) (seen : List κ)
    (owner : Dict κ ι) (hfuel : unseen columns seen < fuel) :
    Ends fits columns row columns seen owner (augment fits columns fuel row seen owner) := by
  induction fuel generalizing row seen owner with
  | zero => omega
  | succ fuel ih =>
    exact ends_tryColumns (searched_augment hcolumns fuel) ih row columns (fun _ h => h) seen owner
      hfuel

/-- The searches of some rows end, one after another, each with no column looked at. -/
inductive RowsEnd (fits : ι → κ → Bool) (columns : List κ) : List ι → Dict κ ι → Dict κ ι → Prop
  | nil (owner : Dict κ ι) : RowsEnd fits columns [] owner owner
  | cons {row : ι} {rest : List ι} {owner last : Dict κ ι} {result : Search ι κ}
      (hrow : Ends fits columns row columns [] owner result)
      (hrest : RowsEnd fits columns rest result.2.2 last) :
      RowsEnd fits columns (row :: rest) owner last

/-- The searches of the rows end, and they leave the owners of the matching. -/
theorem rowsEnd_iff (hcolumns : columns.Nodup) (rows : List ι) (owner last : Dict κ ι) :
    RowsEnd fits columns rows owner last ↔ last = rows.foldl (matchRow fits columns) owner := by
  induction rows generalizing owner with
  | nil =>
    constructor
    · intro h
      cases h
      rfl
    · intro h
      rw [h]
      exact .nil owner
  | cons row rest ih =>
    have hends : Ends fits columns row columns [] owner
        (augment fits columns (columns.length + 1) row [] owner) :=
      ends_augment hcolumns (columns.length + 1) row [] owner
        (Nat.lt_succ_of_le List.countP_le_length)
    rw [List.foldl_cons, ← ih]
    constructor
    · intro h
      cases h with
      | cons hrow hrest =>
        rw [hrow.unique hends] at hrest
        exact hrest
    · exact fun hrest => .cons hends hrest

/-! ## A search that fails -/

/-- All columns that the row fits were looked at, and all that the owners of the columns fit that
were. -/
structure Exhausted (fits : ι → κ → Bool) (todo columns : List κ) (row : ι) (seen : List κ)
    (owner : Dict κ ι) (seen' : List κ) : Prop where
  fitting : ∀ c ∈ todo, fits row c = true → c ∈ seen'
  owned : ∀ c ∈ seen', c ∉ seen → ∃ r, owner.lookup c = some r ∧
    ∀ d ∈ columns, fits r d = true → d ∈ seen'

/-- A row that has found none of some columns has exhausted them, if the displaced owners have. -/
lemma exhausted_tryColumns (hcolumns : columns.Nodup)
    (hdisplace : ∀ r seen owner, Searched fits columns r seen owner (displace r seen owner))
    {fuel : Nat}
    (hexhausted : ∀ r seen owner, unseen columns seen < fuel → (displace r seen owner).1 = false →
      Exhausted fits columns columns r seen owner (displace r seen owner).2.1) (row : ι)
    (todo : List κ) (htodo : ∀ c ∈ todo, c ∈ columns) (seen : List κ) (owner : Dict κ ι)
    (hfuel : unseen columns seen < fuel + 1)
    (h : (tryColumns fits displace row todo seen owner).1 = false) :
    Exhausted fits todo columns row seen owner
      (tryColumns fits displace row todo seen owner).2.1 := by
  induction todo generalizing seen owner with
  | nil => exact ⟨fun c hc => absurd hc List.not_mem_nil, fun c hc hseen => absurd hc hseen⟩
  | cons c rest ih =>
    have htodo' : ∀ d ∈ rest, d ∈ columns := fun d hd => htodo d (List.mem_cons_of_mem c hd)
    have ih := ih htodo'
    have hsearched := fun seen owner =>
      searched_tryColumns hcolumns hdisplace row rest htodo' seen owner
    have hc := htodo c List.mem_cons_self
    unfold tryColumns at h ⊢
    by_cases hfits : fits row c = true ∧ c ∉ seen
    · rw [if_pos hfits] at h ⊢
      cases howner : owner.lookup c with
      | none =>
        rw [howner] at h
        cases h
      | some previous =>
        rw [howner] at h
        dsimp only at h ⊢
        have hprevious := hdisplace previous (c :: seen) owner
        have hfewer := unseen_cons_lt hc hfits.2
        have hdisplaced := hexhausted previous (c :: seen) owner (by omega)
        generalize displace previous (c :: seen) owner = result at hprevious hdisplaced h ⊢
        obtain ⟨found, seen', owner'⟩ := result
        cases found with
        | true => cases h
        | false =>
          have hkept : owner' = owner := hprevious.kept rfl
          subst hkept
          have hdisplaced := hdisplaced rfl
          have hsub : ∀ d ∈ c :: seen, d ∈ seen' := hprevious.seen_subset
          have hseen : unseen columns seen' ≤ unseen columns seen :=
            unseen_le fun d hd => hsub d (List.mem_cons_of_mem c hd)
          have hrest := ih seen' owner' (by omega) h
          have hgrow := (hsearched seen' owner').seen_subset
          refine ⟨fun d hd hfit => ?_, fun d hd hnew => ?_⟩
          · obtain rfl | hd := List.mem_cons.mp hd
            · exact hgrow d (hsub d List.mem_cons_self)
            · exact hrest.fitting d hd hfit
          · by_cases hd' : d ∈ seen'
            · by_cases hdc : d = c
              · subst hdc
                exact ⟨previous, howner, fun e he hfit => hgrow e (hdisplaced.fitting e he hfit)⟩
              · obtain ⟨r, hr, hall⟩ := hdisplaced.owned d hd' (by simp [hdc, hnew])
                exact ⟨r, hr, fun e he hfit => hgrow e (hall e he hfit)⟩
            · exact hrest.owned d hd hd'
    · rw [if_neg hfits] at h ⊢
      have hrest := ih seen owner hfuel h
      refine ⟨fun d hd hfit => ?_, hrest.owned⟩
      obtain rfl | hd := List.mem_cons.mp hd
      · have hseen : d ∈ seen := by
          by_contra hnot
          exact hfits ⟨hfit, hnot⟩
        exact (hsearched seen owner).seen_subset d hseen
      · exact hrest.fitting d hd hfit

/-- A search that fails with enough fuel has exhausted the columns. -/
theorem exhausted_augment (hcolumns : columns.Nodup) (fuel : Nat) (row : ι) (seen : List κ)
    (owner : Dict κ ι)
    (hfuel : unseen columns seen < fuel)
    (h : (augment fits columns fuel row seen owner).1 = false) :
    Exhausted fits columns columns row seen owner
      (augment fits columns fuel row seen owner).2.1 := by
  induction fuel generalizing row seen owner with
  | zero => omega
  | succ fuel ih =>
    exact exhausted_tryColumns hcolumns (searched_augment hcolumns fuel) ih row columns
      (fun _ h => h) seen owner hfuel h

/-! ## A closed set -/

/-- A search for a row of a closed set fails, and one for another row leaves the columns of the set
alone. -/
structure Avoids (owner : Dict κ ι) (Z : ι → Prop) (C : κ → Prop) (row : ι) (result : Search ι κ) :
    Prop where
  fails : Z row → result.1 = false
  same : ∀ c, C c → result.2.2.lookup c = owner.lookup c

/-- Looking for one of some columns avoids a closed set, if displacing an owner does. -/
lemma avoids_tryColumns
    (hdisplace : ∀ r seen owner, Searched fits columns r seen owner (displace r seen owner))
    {Z : ι → Prop} {C : κ → Prop} (hclosed : Closed fits columns owner Z C)
    (havoids : ∀ r seen, Avoids owner Z C r (displace r seen owner)) (row : ι) (todo : List κ)
    (htodo : ∀ c ∈ todo, c ∈ columns) (seen : List κ) :
    Avoids owner Z C row (tryColumns fits displace row todo seen owner) := by
  induction todo generalizing seen with
  | nil => exact ⟨fun _ => rfl, fun _ _ => rfl⟩
  | cons c rest ih =>
    have ih := ih fun d hd => htodo d (List.mem_cons_of_mem c hd)
    have hc := htodo c List.mem_cons_self
    unfold tryColumns
    by_cases hfits : fits row c = true ∧ c ∉ seen
    · rw [if_pos hfits]
      -- A column of the set belongs to a row of the set, which finds no other.
      have hset : ∀ (found : Bool) (seen' : List κ) (owner' : Dict κ ι),
          (∀ r, owner.lookup c = some r → Z r → found = false) → found = true →
            (∀ d, C d → owner'.lookup d = owner.lookup d) →
              Avoids owner Z C row (true, seen', owner'.insert c row) := by
        intro found seen' owner' hfails hfound hsame
        have hout : ¬C c := fun hC => by
          obtain ⟨r, hr, hZ⟩ := hclosed.owned c hc hC
          rw [hfails r hr hZ] at hfound
          cases hfound
        refine ⟨fun hZ => absurd (hclosed.fitting row hZ c hc hfits.1) hout, fun d hd => ?_⟩
        dsimp only
        rw [Dict.lookup_insert_ite, if_neg (fun heq => hout (by rwa [heq] at hd))]
        exact hsame d hd
      cases howner : owner.lookup c with
      | none =>
        exact hset true _ owner (fun r hr => by rw [howner] at hr; cases hr) rfl (fun _ _ => rfl)
      | some previous =>
        dsimp only
        have hprevious := hdisplace previous (c :: seen) owner
        have hdisplaced := havoids previous (c :: seen)
        generalize displace previous (c :: seen) owner = result at hprevious hdisplaced ⊢
        obtain ⟨found, seen', owner'⟩ := result
        cases found with
        | true =>
          refine hset true seen' owner' (fun r hr hZ => ?_) rfl hdisplaced.same
          rw [howner] at hr
          obtain rfl := Option.some.inj hr
          exact hdisplaced.fails hZ
        | false =>
          have hkept : owner' = owner := hprevious.kept rfl
          subst hkept
          exact ih seen'
    · rw [if_neg hfits]
      exact ih seen

/-- A search avoids a closed set. -/
theorem avoids_augment (hcolumns : columns.Nodup) {Z : ι → Prop} {C : κ → Prop}
    (hclosed : Closed fits columns owner Z C) (fuel : Nat) (row : ι) (seen : List κ) :
    Avoids owner Z C row (augment fits columns fuel row seen owner) := by
  induction fuel generalizing row seen with
  | zero => exact ⟨fun _ => rfl, fun _ _ => rfl⟩
  | succ fuel ih =>
    exact avoids_tryColumns (searched_augment hcolumns fuel) hclosed ih row columns (fun _ h => h)
      seen

/-! ## All rows -/

/-- What holds after some rows have looked for a column: owners fit their columns, no row has two,
and the rows without a column are in a closed set. -/
structure Matched (fits : ι → κ → Bool) (columns : List κ) (rows : List ι) (owner : Dict κ ι) :
    Prop where
  fitting : ∀ c r, owner.lookup c = some r → fits r c = true ∧ c ∈ columns
  processed : ∀ r, 0 < held columns owner r → r ∈ rows
  once : ∀ r, held columns owner r ≤ 1
  closed : ∃ Z C, Closed fits columns owner Z C ∧ ∀ r ∈ rows, held columns owner r = 0 → Z r

/-- One more row. -/
lemma Matched.matchRow (hcolumns : columns.Nodup) {rows : List ι}
    (h : Matched fits columns rows owner) {row : ι} (hrow : row ∉ rows) :
    Matched fits columns (rows ++ [row]) (matchRow fits columns owner row) := by
  have hsearched : Searched fits columns row [] owner
      (augment fits columns (columns.length + 1) row [] owner) :=
    searched_augment hcolumns (columns.length + 1) row [] owner
  obtain ⟨Z, C, hclosed, hleft⟩ := h.closed
  have havoids := avoids_augment hcolumns hclosed (columns.length + 1) row []
  have hexhausted : (augment fits columns (columns.length + 1) row [] owner).1 = false →
      Exhausted fits columns columns row [] owner
        (augment fits columns (columns.length + 1) row [] owner).2.1 :=
    exhausted_augment hcolumns (columns.length + 1) row [] owner
      (Nat.lt_succ_of_le List.countP_le_length)
  unfold Matchings.matchRow
  generalize augment fits columns (columns.length + 1) row [] owner = result
    at hsearched havoids hexhausted ⊢
  obtain ⟨found, seen, owner'⟩ := result
  have hnone : held columns owner row = 0 := by
    have hnot : ¬0 < held columns owner row := fun hpos => hrow (h.processed row hpos)
    omega
  have hholds := hsearched.holds
  dsimp only at hholds ⊢
  refine ⟨fun c r hr => ?_, fun r hr => ?_, fun r => ?_, ?_⟩
  · exact (hsearched.fitting c r hr).elim (h.fitting c r) id
  · rw [List.mem_append, List.mem_singleton]
    by_cases heq : row = r
    · exact .inr heq.symm
    · have := hholds r
      rw [if_neg (fun hboth => heq hboth.2)] at this
      exact .inl (h.processed r (by omega))
  · have := hholds r
    have hone := h.once r
    by_cases heq : row = r
    · subst heq
      split at this <;> omega
    · rw [if_neg (fun hboth => heq hboth.2)] at this
      omega
  · cases found with
    | true =>
      refine ⟨Z, C, ⟨fun c hc hC => ?_, hclosed.fitting⟩, fun r hr hzero => ?_⟩
      · rw [havoids.same c hC]
        exact hclosed.owned c hc hC
      · have := hholds r
        obtain hr | hr := List.mem_append.mp hr
        · exact hleft r hr (by omega)
        · rw [List.mem_singleton.mp hr] at this hzero
          simp only [true_and] at this
          rw [if_pos trivial] at this
          omega
    | false =>
      have hkept : owner' = owner := hsearched.kept rfl
      subst hkept
      have hexhausted := hexhausted rfl
      refine ⟨fun r => Z r ∨ r = row ∨ ∃ c ∈ seen, owner'.lookup c = some r, fun c => C c ∨
        c ∈ seen, ⟨?_, ?_⟩, ?_⟩
      · rintro c hc (hC | hseen)
        · obtain ⟨r, hr, hZ⟩ := hclosed.owned c hc hC
          exact ⟨r, hr, .inl hZ⟩
        · obtain ⟨r, hr, -⟩ := hexhausted.owned c hseen List.not_mem_nil
          exact ⟨r, hr, .inr (.inr ⟨c, hseen, hr⟩)⟩
      · rintro r (hZ | rfl | ⟨c, hseen, hr⟩) d hd hfit
        · exact .inl (hclosed.fitting r hZ d hd hfit)
        · exact .inr (hexhausted.fitting d hd hfit)
        · obtain ⟨r', hr', hall⟩ := hexhausted.owned c hseen List.not_mem_nil
          obtain rfl := Option.some.inj (hr.symm.trans hr')
          exact .inr (hall d hd hfit)
      · intro r hr hzero
        obtain hr | hr := List.mem_append.mp hr
        · exact .inl (hleft r hr hzero)
        · exact .inr (.inl (List.mem_singleton.mp hr))

/-- What holds after all rows have looked for a column. -/
theorem matched_matchRows (hcolumns : columns.Nodup) {rows : List ι} (hrows : rows.Nodup) :
    Matched fits columns rows (matchRows fits columns rows) := by
  induction rows using List.reverseRecOn with
  | nil =>
    have hempty : ∀ r, held columns (∅ : Dict κ ι) r = 0 := fun r => by
      simp [held, AList.lookup_empty]
    refine ⟨fun c r hr => ?_, fun r hr => ?_, fun r => ?_, fun _ => False, fun _ =>
      False, ?_, fun r hr => ?_⟩
    · cases hr
    · exact absurd hr (by rw [matchRows, List.foldl_nil, hempty]; omega)
    · rw [matchRows, List.foldl_nil, hempty]
      omega
    · exact ⟨fun c _ h => h.elim, fun r h => h.elim⟩
    · exact absurd hr List.not_mem_nil
  | append_singleton rows row ih =>
    obtain ⟨hrows', -, hdisjoint⟩ := List.nodup_append.mp hrows
    have hnot : row ∉ rows := fun hmem => hdisjoint row hmem row (List.mem_singleton_self row) rfl
    have hstep : matchRows fits columns (rows ++ [row]) =
        matchRow fits columns (matchRows fits columns rows) row := by
      rw [matchRows, List.foldl_append]
      rfl
    rw [hstep]
    exact (ih hrows').matchRow hcolumns hnot

section Matched

variable {rows : List ι} {owner : Dict κ ι} (h : Matched fits columns rows owner)

include h

/-- No row has two columns. -/
lemma Matched.injective {c d : κ} {r : ι} (hc : owner.lookup c = some r)
    (hd : owner.lookup d = some r) : c = d := by
  by_contra hne
  have honce := h.once r
  have hsubset : [c, d] ⊆ columns.filter fun e => owner.lookup e = some r := by
    intro e he
    rw [List.mem_filter]
    simp only [List.mem_cons, List.not_mem_nil, or_false] at he
    obtain rfl | rfl := he
    · exact ⟨(h.fitting e r hc).2, decide_eq_true hc⟩
    · exact ⟨(h.fitting e r hd).2, decide_eq_true hd⟩
  have htwo : 2 ≤ (columns.filter fun e => owner.lookup e = some r).length :=
    List.Nodup.length_le_of_subset (by simp [hne]) hsubset
  rw [held, List.countP_eq_length_filter] at honce
  omega

/-- The rows with a column are among the rows. -/
lemma Matched.mem_rows {c : κ} {r : ι} (hc : owner.lookup c = some r) : r ∈ rows := by
  refine h.processed r (List.countP_pos_iff.mpr ⟨c, (h.fitting c r hc).2, ?_⟩)
  exact decide_eq_true hc

/-- No matching is larger: pairs of rows and columns that fit, no row and no column in two of them,
are no more than the columns with an owner. -/
theorem Matched.length_le {pairs : List (ι × κ)} (hrows : ∀ p ∈ pairs, p.1 ∈ rows)
    (hcols : ∀ p ∈ pairs, p.2 ∈ columns) (hfits : ∀ p ∈ pairs, fits p.1 p.2 = true)
    (hfirst : (pairs.map Prod.fst).Nodup) (hsecond : (pairs.map Prod.snd).Nodup) :
    pairs.length ≤ (columns.filter fun c => (owner.lookup c).isSome).length := by
  obtain ⟨Z, C, hclosed, hleft⟩ := h.closed
  -- Every pair has a column with an owner: its own one in the closed set, that of its row outside.
  have hcolumn : ∀ p ∈ pairs, ∃ c ∈ columns, (owner.lookup c).isSome ∧
      (C p.2 ∧ c = p.2 ∨ ¬C c ∧ owner.lookup c = some p.1) := by
    intro p hp
    by_cases hC : C p.2
    · obtain ⟨r, hr, -⟩ := hclosed.owned p.2 (hcols p hp) hC
      exact ⟨p.2, hcols p hp, by rw [hr]; rfl, .inl ⟨hC, rfl⟩⟩
    · have hZ : ¬Z p.1 := fun hZ => hC (hclosed.fitting p.1 hZ p.2 (hcols p hp) (hfits p hp))
      have hpos : 0 < held columns owner p.1 :=
        Nat.pos_of_ne_zero fun hzero => hZ (hleft p.1 (hrows p hp) hzero)
      obtain ⟨c, hc, howner⟩ := List.countP_pos_iff.mp hpos
      have howner : owner.lookup c = some p.1 := of_decide_eq_true howner
      refine ⟨c, hc, by rw [howner]; rfl, .inr ⟨fun hC' => ?_, howner⟩⟩
      obtain ⟨r, hr, hZ'⟩ := hclosed.owned c hc hC'
      rw [howner] at hr
      exact hZ (Option.some.inj hr ▸ hZ')
  cases pairs with
  | nil => exact Nat.zero_le _
  | cons p rest =>
    have : Nonempty κ := ⟨p.2⟩
    choose! column hmem hsome hwhich using hcolumn
    have hinjective : ∀ q ∈ p :: rest, ∀ q' ∈ p :: rest, column q = column q' → q = q' := by
      intro q hq q' hq' heq
      obtain ⟨hC, hown⟩ | ⟨hC, hown⟩ := hwhich q hq
      · obtain ⟨-, hown'⟩ | ⟨hC', -⟩ := hwhich q' hq'
        · exact List.inj_on_of_nodup_map hsecond hq hq' (by rw [← hown, ← hown', heq])
        · rw [← heq, hown] at hC'
          exact absurd hC hC'
      · obtain ⟨hC', hown'⟩ | ⟨-, hown'⟩ := hwhich q' hq'
        · rw [heq, hown'] at hC
          exact absurd hC' hC
        · rw [heq, hown'] at hown
          exact List.inj_on_of_nodup_map hfirst hq hq' (Option.some.inj hown).symm
    have hnodup : ((p :: rest).map column).Nodup :=
      List.Nodup.map_on hinjective (List.Nodup.of_map Prod.fst hfirst)
    have hsubset : (p :: rest).map column ⊆ columns.filter fun c => (owner.lookup c).isSome := by
      intro c hc
      obtain ⟨q, hq, rfl⟩ := List.mem_map.mp hc
      exact List.mem_filter.mpr ⟨hmem q hq, hsome q hq⟩
    have hlength := hnodup.length_le_of_subset hsubset
    rwa [List.length_map] at hlength

end Matched

end Matchings

/-! ## Pairings of two lists -/

/-- Elements of two lists in pairs that fit, and what is left over of both. -/
structure Pairing {α β : Type*} (fits : α → β → Bool) (left : List α) (right : List β) where
  pairs : List (α × β)
  leftOver : List α
  rightOver : List β
  left_perm : (pairs.map Prod.fst ++ leftOver).Perm left
  right_perm : (pairs.map Prod.snd ++ rightOver).Perm right
  pairs_fit : ∀ p ∈ pairs, fits p.1 p.2 = true

namespace Pairing

variable {α β : Type*} {fits : α → β → Bool} {left left' : List α} {right right' : List β}

/-- No pairing of the lists has more pairs. -/
def IsMaximum (p : Pairing fits left right) : Prop :=
  ∀ q : Pairing fits left right, q.pairs.length ≤ p.pairs.length

/-- The pairing seen from the other side. -/
def swap (p : Pairing fits left right) : Pairing (fun r l => fits l r) right left where
  pairs := p.pairs.map Prod.swap
  leftOver := p.rightOver
  rightOver := p.leftOver
  left_perm := by
    rw [List.map_map]
    exact p.right_perm
  right_perm := by
    rw [List.map_map]
    exact p.left_perm
  pairs_fit := by
    intro q hq
    obtain ⟨q', hq', rfl⟩ := List.mem_map.mp hq
    exact p.pairs_fit q' hq'

/-- The pairing of the lists in another order. -/
def ofPerm (p : Pairing fits left right) (hleft : left.Perm left') (hright : right.Perm right') :
    Pairing fits left' right' where
  pairs := p.pairs
  leftOver := p.leftOver
  rightOver := p.rightOver
  left_perm := p.left_perm.trans hleft
  right_perm := p.right_perm.trans hright
  pairs_fit := p.pairs_fit

/-- A maximum pairing is one from the other side. -/
lemma IsMaximum.swap {p : Pairing fits left right} (h : p.IsMaximum) : p.swap.IsMaximum := by
  intro q
  have hle := h (Pairing.swap q)
  simpa [Pairing.swap] using hle

/-- A maximum pairing is one in another order. -/
lemma IsMaximum.ofPerm {p : Pairing fits left right} (h : p.IsMaximum) (hleft : left.Perm left')
    (hright : right.Perm right') : (p.ofPerm hleft hright).IsMaximum :=
  fun q => h (q.ofPerm hleft.symm hright.symm)

end Pairing

/-! ## The pairing of a matching of places -/

section Places

variable {α β : Type*} (fits : α → β → Bool) (left : List α) (right : List β)

/-- Whether the elements at two places fit. -/
def fitsAt (i j : Nat) : Bool :=
  match left[i]?, right[j]? with
  | some l, some r => fits l r
  | _, _ => false

/-- The elements at some places. -/
def elementsAt (places : List Nat) : List α :=
  places.filterMap fun i => left[i]?

/-- The elements at all places. -/
lemma elementsAt_range : elementsAt left (List.range left.length) = left := by
  induction left using List.reverseRecOn with
  | nil => rfl
  | append_singleton left l ih =>
    have hfirst : (List.range left.length).filterMap (fun i => (left ++ [l])[i]?) =
        (List.range left.length).filterMap fun i => left[i]? :=
      List.filterMap_congr fun i hi => List.getElem?_append_left (List.mem_range.mp hi)
    unfold elementsAt at ih ⊢
    rw [List.length_append, List.length_singleton, List.range_succ, List.filterMap_append, hfirst,
      ih]
    simp

/-- All places in another order have the elements in another order. -/
lemma elementsAt_perm {places : List Nat} (h : places.Perm (List.range left.length)) :
    (elementsAt left places).Perm left := by
  have hperm : (elementsAt left places).Perm (elementsAt left (List.range left.length)) :=
    h.filterMap _
  rwa [elementsAt_range] at hperm

/-- The elements at some pairs of places. -/
def pairsAt (places : List (Nat × Nat)) : List (α × β) :=
  places.filterMap fun p => left[p.1]?.bind fun l => right[p.2]?.map fun r => (l, r)

variable {fits left right}

/-- Pairs at places that exist: their sides, and what each of them is. -/
lemma pairsAt_spec {places : List (Nat × Nat)}
    (h : ∀ p ∈ places, ∃ l r, left[p.1]? = some l ∧ right[p.2]? = some r ∧ fits l r = true) :
    (pairsAt left right places).map Prod.fst = elementsAt left (places.map Prod.fst) ∧
      (pairsAt left right places).map Prod.snd = elementsAt right (places.map Prod.snd) ∧
        (pairsAt left right places).length = places.length ∧
          ∀ q ∈ pairsAt left right places, fits q.1 q.2 = true := by
  induction places with
  | nil => exact ⟨rfl, rfl, rfl, fun q hq => absurd hq List.not_mem_nil⟩
  | cons p rest ih =>
    obtain ⟨l, r, hl, hr, hfit⟩ := h p List.mem_cons_self
    obtain ⟨hfirst, hsecond, hlength, hfits⟩ := ih fun q hq => h q (List.mem_cons_of_mem p hq)
    have hcons : pairsAt left right (p :: rest) = (l, r) :: pairsAt left right rest :=
      List.filterMap_cons_some (by rw [hl, hr]; rfl)
    rw [hcons]
    refine ⟨?_, ?_, ?_, fun q hq => ?_⟩
    · rw [List.map_cons, hfirst, List.map_cons, elementsAt, elementsAt, List.filterMap_cons_some hl]
    · rw [List.map_cons, hsecond, List.map_cons, elementsAt, elementsAt,
        List.filterMap_cons_some hr]
    · rw [List.length_cons, hlength, List.length_cons]
    · obtain rfl | hq := List.mem_cons.mp hq
      · exact hfit
      · exact hfits q hq

/-- Elements that are part of a list are at places of their own. -/
lemma exists_places {γ : Type*} {elements chosen rest : List γ}
    (hperm : (chosen ++ rest).Perm elements) :
    ∃ places : List Nat, List.Forall₂ (fun x i => elements[i]? = some x) chosen places ∧
      places.Nodup ∧
      ∀ i ∈ places, i ∈ List.range elements.length := by
  have hall : List.Forall₂ (fun x i => elements[i]? = some x) elements
      (List.range elements.length) :=
    List.forall₂_iff_get.mpr ⟨List.length_range.symm, fun k hk hk' => by
      rw [List.get_eq_getElem, List.get_eq_getElem, List.getElem_range,
        List.getElem?_eq_getElem hk]⟩
  obtain ⟨places, hplaces, hrange⟩ := List.perm_comp_forall₂ hperm hall
  have hnodup : places.Nodup := hrange.nodup_iff.mpr List.nodup_range
  have htake := List.forall₂_take chosen.length hplaces
  rw [List.take_left'  rfl] at htake
  exact ⟨_, htake, hnodup.sublist (List.take_sublist _ _),
    fun i hi => hrange.mem_iff.mp (List.mem_of_mem_take hi)⟩

/-- No pairing has more pairs than there are columns with an owner. -/
lemma length_pairs_le {owner : Dict Nat Nat}
    (h : Matchings.Matched (fitsAt fits left right) (List.range right.length)
      (List.range left.length) owner)
    (p : Pairing fits left right) :
    p.pairs.length ≤
      ((List.range right.length).filter fun j => (owner.lookup j).isSome).length := by
  obtain ⟨rows, hrows, hrowsNodup, hrowsMem⟩ := exists_places p.left_perm
  obtain ⟨columns, hcolumns, hcolumnsNodup, hcolumnsMem⟩ := exists_places p.right_perm
  have hlengthRows : rows.length = p.pairs.length := by
    rw [← hrows.length_eq, List.length_map]
  have hlengthColumns : columns.length = p.pairs.length := by
    rw [← hcolumns.length_eq, List.length_map]
  have hfirst : (rows.zip columns).map Prod.fst = rows := List.map_fst_zip (by omega)
  have hsecond : (rows.zip columns).map Prod.snd = columns := List.map_snd_zip (by omega)
  have hle : (rows.zip columns).length ≤
      ((List.range right.length).filter fun j => (owner.lookup j).isSome).length := by
    refine h.length_le (fun q hq => ?_) (fun q hq => ?_) (fun q hq => ?_) (by rwa [hfirst])
      (by rwa [hsecond])
    · exact hrowsMem _ (List.of_mem_zip hq).1
    · exact hcolumnsMem _ (List.of_mem_zip hq).2
    · obtain ⟨k, hk, rfl⟩ := List.mem_iff_getElem.mp hq
      have hk' : k < p.pairs.length := by
        rw [List.length_zip] at hk
        omega
      have hl := (List.forall₂_iff_get.mp hrows).2 k (by rwa [List.length_map]) (by omega)
      have hr := (List.forall₂_iff_get.mp hcolumns).2 k (by rwa [List.length_map]) (by omega)
      simp only [List.get_eq_getElem, List.getElem_map] at hl hr
      rw [List.getElem_zip, fitsAt, hl, hr]
      exact p.pairs_fit _ (List.getElem_mem hk')
  rwa [List.length_zip, hlengthRows, hlengthColumns, Nat.min_self] at hle

/-- The pairing of a matching of places is maximum. -/
theorem exists_maximum_pairing {owner : Dict Nat Nat}
    (h : Matchings.Matched (fitsAt fits left right) (List.range right.length)
      (List.range left.length) owner) :
    ∃ p : Pairing fits left right, p.IsMaximum ∧
      (∀ l, l ∈ p.leftOver ↔ ∃ i, left[i]? = some l ∧ ∀ j, owner.lookup j ≠ some i) ∧
      (∀ r, r ∈ p.rightOver ↔ ∃ j, right[j]? = some r ∧ owner.lookup j = none) ∧
      (p.pairs = [] ↔ ∀ j, owner.lookup j = none) := by
  obtain ⟨assigned, hassigned⟩ : ∃ assigned, assigned = (List.range right.length).filterMap fun j =>
    (owner.lookup j).map fun i => (i, j) := ⟨_, rfl⟩
  have hmem : ∀ i j, (i, j) ∈ assigned ↔ owner.lookup j = some i := by
    intro i j
    rw [hassigned, List.mem_filterMap]
    constructor
    · rintro ⟨j', -, hj'⟩
      obtain ⟨i', hi', heq⟩ := Option.map_eq_some_iff.mp hj'
      obtain ⟨rfl, rfl⟩ := Prod.mk.inj heq
      exact hi'
    · exact fun howner => ⟨j, (h.fitting j i howner).2, by rw [howner]; rfl⟩
  have hfit : ∀ q ∈ assigned, ∃ l r, left[q.1]? = some l ∧ right[q.2]? = some r ∧
      fits l r = true := by
    intro q hq
    have hfits := (h.fitting q.2 q.1 ((hmem q.1 q.2).mp hq)).1
    unfold fitsAt at hfits
    cases hl : left[q.1]? with
    | none =>
      rw [hl] at hfits
      cases hfits
    | some l =>
      cases hr : right[q.2]? with
      | none =>
        rw [hl, hr] at hfits
        cases hfits
      | some r =>
        rw [hl, hr] at hfits
        exact ⟨l, r, rfl, rfl, hfits⟩
  obtain ⟨hfirst, hsecond, hlength, hfits⟩ := pairsAt_spec hfit
  have hcolumns : assigned.map Prod.snd = (List.range right.length).filter fun j =>
    (owner.lookup j).isSome := by
    rw [hassigned, List.map_filterMap, ← List.filterMap_eq_filter]
    refine List.filterMap_congr fun j _ => ?_
    cases howner : owner.lookup j <;> simp [Option.guard, howner]
  have hrowsNodup : (assigned.map Prod.fst).Nodup := by
    refine List.Nodup.map_on (fun q hq q' hq' heq => ?_) (List.Nodup.of_map Prod.snd ?_)
    · have howner := (hmem q.1 q.2).mp hq
      have howner' := (hmem q'.1 q'.2).mp hq'
      rw [← heq] at howner'
      exact Prod.ext heq (h.injective howner howner')
    · rw [hcolumns]
      exact List.nodup_range.filter _
  obtain ⟨free, hfree⟩ : ∃ free, free = (List.range left.length).filter fun i =>
    i ∉ assigned.map Prod.fst := ⟨_, rfl⟩
  have hrows : (assigned.map Prod.fst ++ free).Perm (List.range left.length) := by
    rw [hfree, List.perm_ext_iff_of_nodup ?_ List.nodup_range]
    · intro i
      rw [List.mem_append, List.mem_filter, decide_eq_true_eq]
      constructor
      · rintro (hi | hi)
        · obtain ⟨q, hq, rfl⟩ := List.mem_map.mp hi
          exact h.mem_rows ((hmem q.1 q.2).mp hq)
        · exact hi.1
      · exact fun hi => (em _).imp id fun hnot => ⟨hi, hnot⟩
    · refine List.nodup_append.mpr
        ⟨hrowsNodup, List.nodup_range.filter _, fun i hi i' hi' heq => ?_⟩
      subst heq
      exact of_decide_eq_true (List.mem_filter.mp hi').2 hi
  have hmatched : (assigned.map Prod.snd ++
      (List.range right.length).filter fun j => !(owner.lookup j).isSome).Perm
        (List.range right.length) := by
    rw [hcolumns]
    exact List.filter_append_perm _ _
  refine ⟨⟨pairsAt left right assigned, elementsAt left free,
    elementsAt right ((List.range right.length).filter fun j => !(owner.lookup j).isSome), ?_, ?_,
    hfits⟩, fun q => ?_, fun l => ?_, fun r => ?_, ?_⟩
  · rw [hfirst, elementsAt, elementsAt, ← List.filterMap_append]
    exact elementsAt_perm left hrows
  · rw [hsecond, elementsAt, elementsAt, ← List.filterMap_append]
    exact elementsAt_perm right hmatched
  · refine (length_pairs_le h q).trans (le_of_eq ?_)
    dsimp only
    rw [hlength, ← hcolumns, List.length_map]
  · dsimp only
    rw [elementsAt, List.mem_filterMap]
    constructor
    · rintro ⟨i, hi, hl⟩
      refine ⟨i, hl, fun j hj => ?_⟩
      rw [hfree, List.mem_filter, decide_eq_true_eq] at hi
      exact hi.2 (List.mem_map.mpr ⟨(i, j), (hmem i j).mpr hj, rfl⟩)
    · rintro ⟨i, hl, hnone⟩
      refine ⟨i, ?_, hl⟩
      rw [hfree, List.mem_filter, decide_eq_true_eq, List.mem_range]
      refine ⟨(List.getElem?_eq_some_iff.mp hl).1, fun hi => ?_⟩
      obtain ⟨q, hq, rfl⟩ := List.mem_map.mp hi
      exact hnone q.2 ((hmem q.1 q.2).mp hq)
  · dsimp only
    rw [elementsAt, List.mem_filterMap]
    constructor
    · rintro ⟨j, hj, hr⟩
      have hnone := (List.mem_filter.mp hj).2
      exact ⟨j, hr, by simpa using hnone⟩
    · rintro ⟨j, hr, hnone⟩
      refine ⟨j, List.mem_filter.mpr ⟨List.mem_range.mpr (List.getElem?_eq_some_iff.mp hr).1, ?_⟩,
        hr⟩
      rw [hnone]
      rfl
  · dsimp only
    rw [← List.length_eq_zero_iff, hlength, List.length_eq_zero_iff, List.eq_nil_iff_forall_not_mem]
    constructor
    · intro hnone j
      cases howner : owner.lookup j with
      | none => rfl
      | some i => exact absurd ((hmem i j).mpr howner) (hnone (i, j))
    · rintro hnone ⟨i, j⟩ hij
      have howner := (hmem i j).mp hij
      rw [hnone j] at howner
      cases howner

end Places

end Foundation
