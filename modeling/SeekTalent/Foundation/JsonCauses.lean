import SeekTalent.Foundation.JsonText

/-!
# How far a JSON document goes

What a scanner comes across before it fails, and how deep a document is.  A scanner fails where a
hook raises an error or where the text is no JSON, so its errors are told apart by the integer that
they were raised on: an error that only `parse_int` raises is raised exactly if the scanner reaches
an integer whose text has it (`jsonLoads_error_iff`).
-/

namespace Foundation

variable {value : Json} {d : JsonDict}

/-! ## Changing the errors of the hooks -/

variable {ε ε' : Type} (hooks : JsonHooks ε) (f : ε → ε')

/-- Hooks that raise other errors at the same places. -/
def JsonHooks.map : JsonHooks ε' where
  parseInteger text := (hooks.parseInteger text).mapError f
  illegalNumber := f hooks.illegalNumber
  duplicateKey := f hooks.duplicateKey
  invalidJson := f hooks.invalidJson

/-- Changing the error of a mapped computation. -/
lemma mapError_map {α β : Type} (x : Except ε α) (g : α → β) :
    (x.map g).mapError f = (x.mapError f).map g := by
  cases x <;> rfl

/-- Scanning a number with hooks that raise other errors. -/
lemma scanNumber_map (text : List Nat) :
    scanNumber (hooks.map f) text = (scanNumber hooks text).mapError f := by
  unfold scanNumber
  cases scanInteger text with
  | none => rfl
  | some scanned =>
    dsimp only
    by_cases hfloat : continuesAsFloat scanned.2
    · rw [if_pos hfloat, if_pos hfloat]
      rfl
    · rw [if_neg hfloat, if_neg hfloat, mapError_map]
      rfl

/-- Scanning an atom with hooks that raise other errors. -/
lemma scanAtom_map (text : List Nat) :
    scanAtom (hooks.map f) text = (scanAtom hooks text).mapError f := by
  unfold scanAtom
  split
  · rfl
  · rfl
  · rfl
  · split
    · rfl
    · exact scanNumber_map hooks f text

/-- Rejecting duplicate keys with hooks that raise other errors. -/
lemma rejectDuplicates_map (members : List (List Nat × JsonText)) :
    rejectDuplicates (hooks.map f) members = (rejectDuplicates hooks members).mapError f := by
  unfold rejectDuplicates
  split <;> rfl

/-- Scanning with hooks that raise other errors; the induction is on the counter of the scanner. -/
theorem scan_map (fuel : Nat) :
    (∀ text, scanValue (hooks.map f) fuel text = (scanValue hooks fuel text).mapError f) ∧
      (∀ text, scanItems (hooks.map f) fuel text = (scanItems hooks fuel text).mapError f) ∧
      ∀ text, scanMembers (hooks.map f) fuel text = (scanMembers hooks fuel text).mapError f := by
  induction fuel with
  | zero => exact ⟨fun _ => by simp only [scanValue]; rfl, fun _ => by simp only [scanItems]; rfl,
      fun _ => by simp only [scanMembers]; rfl⟩
  | succ fuel ih =>
    obtain ⟨hvalue, hitems, hmembers⟩ := ih
    refine ⟨fun text => ?_, fun text => ?_, fun text => ?_⟩
    · by_cases hhead : text.head? = some 123
      · obtain ⟨rest, rfl⟩ := List.head?_eq_some_iff.mp hhead
        simp only [scanValue]
        split
        · rfl
        · rw [hmembers]
          cases scanMembers hooks fuel (skipSpace rest) with
          | error e => rfl
          | ok scanned =>
            dsimp only [Except.mapError]
            rw [rejectDuplicates_map]
            exact (mapError_map f _ _).symm
      · unfold scanValue
        split
        · rename_i h; cases h
        · split <;> rfl
        · simp at hhead
        · rename_i h
          obtain rfl := Nat.succ.inj h
          split
          · rfl
          · rw [hitems, mapError_map]
        · exact scanAtom_map hooks f _
    · simp only [scanItems]
      rw [hvalue]
      cases scanValue hooks fuel text with
      | error e => rfl
      | ok scanned =>
        dsimp only [Except.mapError]
        split
        · rfl
        · rw [hitems]
          exact (mapError_map f _ _).symm
        · rfl
    · unfold scanMembers
      split
      · rename_i h; cases h
      · rename_i h
        obtain rfl := Nat.succ.inj h
        split
        · rfl
        · split
          · rw [hvalue]
            cases scanValue hooks fuel (skipSpace _) with
            | error e => rfl
            | ok scanned =>
              dsimp only [Except.mapError]
              split
              · rfl
              · rw [hmembers]
                exact (mapError_map f _ _).symm
              · rfl
          · rfl
      · rfl

/-- `json.loads` with hooks that raise other errors. -/
theorem jsonLoads_map (text : List Nat) :
    jsonLoads (hooks.map f) text = (jsonLoads hooks text).mapError f := by
  unfold jsonLoads
  rw [(scan_map hooks f _).1]
  cases scanValue hooks (2 * text.length + 1) (skipSpace text) with
  | error e => rfl
  | ok scanned =>
    dsimp only [Except.mapError]
    split <;> rfl

/-! ## The integers of a text -/

/-- Hooks that stop at an integer with an error of their own. -/
def JsonHooks.stopAt (number : List Nat) : JsonHooks (Option ε) where
  parseInteger text :=
    if text = number then .error none else (hooks.parseInteger text).mapError some
  illegalNumber := some hooks.illegalNumber
  duplicateKey := some hooks.duplicateKey
  invalidJson := some hooks.invalidJson

/-- The scanner hands the text of an integer to `parse_int`. -/
def JsonHooks.Reaches (text number : List Nat) : Prop :=
  jsonLoads (hooks.stopAt number) text = .error none

/-- An error and the integer that it was raised on, if it was raised on one. -/
structure JsonHooks.Cause (hooks : JsonHooks ε) where
  reason : ε
  number : Option (List Nat)
  raised : ∀ text ∈ number, hooks.parseInteger text = .error reason
  elsewhere : number = none →
    reason = hooks.illegalNumber ∨ reason = hooks.duplicateKey ∨ reason = hooks.invalidJson

/-- Hooks that raise the causes of their errors. -/
def JsonHooks.traced : JsonHooks hooks.Cause where
  parseInteger text :=
    match h : hooks.parseInteger text with
    | .ok value => .ok value
    | .error reason => .error ⟨reason, some text, by rintro _ ⟨⟩; exact h, nofun⟩
  illegalNumber := ⟨hooks.illegalNumber, none, nofun, fun _ => .inl rfl⟩
  duplicateKey := ⟨hooks.duplicateKey, none, nofun, fun _ => .inr (.inl rfl)⟩
  invalidJson := ⟨hooks.invalidJson, none, nofun, fun _ => .inr (.inr rfl)⟩

/-- An integer on which `parse_int` raises an error stops the scanner with it. -/
lemma map_stopAt {number : List Nat} {e : ε} (h : hooks.parseInteger number = .error e) :
    (hooks.stopAt number).map (·.getD e) = hooks := by
  unfold JsonHooks.map JsonHooks.stopAt
  congr
  funext text
  dsimp only
  split
  · rename_i heq
    rw [heq, h]
    rfl
  · cases hooks.parseInteger text <;> rfl

/-- A cause has the error that the hooks raise. -/
lemma map_traced_reason : hooks.traced.map (·.reason) = hooks := by
  unfold JsonHooks.map JsonHooks.traced
  congr
  funext text
  dsimp only
  split <;> simp_all [Except.mapError]

/-- Stopping at an integer is stopping at the cause of its error. -/
lemma map_traced_stop {number : List Nat} {e : ε} (h : hooks.parseInteger number = .error e) :
    hooks.traced.map (fun cause => if cause.number = some number then none else some cause.reason) =
      hooks.stopAt number := by
  unfold JsonHooks.map JsonHooks.traced JsonHooks.stopAt
  congr
  funext text
  dsimp only
  split
  · rename_i value hvalue
    have hne : text ≠ number := by
      rintro rfl
      exact (nomatch hvalue.symm.trans h)
    rw [if_neg hne, hvalue]
    rfl
  · rename_i reason hreason
    by_cases heq : text = number
    · simp [heq, Except.mapError]
    · simp [heq, hreason, Except.mapError]

/-- An error that only `parse_int` raises was raised on an integer that the scanner reaches. -/
theorem jsonLoads_error_iff {text : List Nat} {e : ε} (hnumber : e ≠ hooks.illegalNumber)
    (hkey : e ≠ hooks.duplicateKey) (hjson : e ≠ hooks.invalidJson) :
    jsonLoads hooks text = .error e ↔
      ∃ number, hooks.Reaches text number ∧ hooks.parseInteger number = .error e := by
  constructor
  · intro h
    have htraced := jsonLoads_map hooks.traced (·.reason) text
    rw [map_traced_reason, h] at htraced
    cases hcause : jsonLoads hooks.traced text with
    | ok value => rw [hcause] at htraced; cases htraced
    | error cause =>
      rw [hcause] at htraced
      obtain rfl : e = cause.reason := Except.error.inj htraced
      cases hat : cause.number with
      | none =>
        obtain hreason | hreason | hreason := cause.elsewhere hat
        · exact absurd hreason hnumber
        · exact absurd hreason hkey
        · exact absurd hreason hjson
      | some number =>
        have hraised := cause.raised number hat
        refine ⟨number, ?_, hraised⟩
        unfold JsonHooks.Reaches
        rw [← map_traced_stop hooks hraised, jsonLoads_map, hcause]
        simp [Except.mapError, hat]
  · rintro ⟨number, hreached, hraised⟩
    have hstop := jsonLoads_map (hooks.stopAt number) (·.getD e) text
    rw [map_stopAt hooks hraised, hreached] at hstop
    exact hstop

/-! ## Depth -/

/-- Arrays and objects lie at most so deep in each other. -/
def Json.Within (depth : Nat) : Json → Prop
  | .arr items =>
    match depth with
    | 0 => False
    | depth + 1 => ∀ item ∈ items, item.Within depth
  | .obj members =>
    match depth with
    | 0 => False
    | depth + 1 => ∀ member ∈ members, member.2.Within depth
  | .null | .bool _ | .int _ | .float _ | .str _ => True

/-- A member of an object is what its key holds. -/
lemma lookup_of_mem {members : List (String × Json)} (hnormal : Json.NormalMembers members)
    {key : String} (h : (key, value) ∈ members) : members.lookup key = some value := by
  induction members with
  | nil => exact absurd h List.not_mem_nil
  | cons head rest ih =>
    obtain ⟨first, held⟩ := head
    obtain ⟨-, hbelow, hrest⟩ := hnormal
    rw [Json.lookup_member]
    obtain heq | hmem := List.mem_cons.mp h
    · obtain ⟨rfl, rfl⟩ := Prod.mk.inj heq
      exact if_pos rfl
    · rw [if_neg (hbelow _ hmem).ne']
      exact ih hrest hmem

/-- A dictionary is one level deeper than the values of its keys. -/
lemma JsonDict.within_of_get? {depth : Nat}
    (h : ∀ key value, d.get? key = some value → value.Within depth) :
    (Json.obj d.members).Within (depth + 1) :=
  fun member hmember => h member.1 member.2 (lookup_of_mem d.normal hmember)

/-- Normalizing makes a document no deeper. -/
lemma Json.Within.normalize {depth : Nat} (h : value.Within depth) :
    value.normalize.Within depth := by
  induction depth generalizing value with
  | zero =>
    cases value with
    | arr items => exact absurd h id
    | obj members => exact absurd h id
    | float number =>
      unfold Json.normalize
      split <;> trivial
    | _ => trivial
  | succ depth ih =>
    cases value with
    | arr items =>
      have hitems : ∀ items : List Json, (∀ item ∈ items, item.Within depth) →
          ∀ item ∈ Json.normalizeItems items, item.Within depth := by
        intro items h
        induction items with
        | nil => simp [Json.normalizeItems]
        | cons item items hrest =>
          obtain ⟨hitem, htail⟩ := List.forall_mem_cons.mp h
          exact List.forall_mem_cons.mpr ⟨ih hitem, hrest htail⟩
      exact hitems items h
    | obj members =>
      have hmembers : ∀ members : List (String × Json),
        (∀ member ∈ members, member.2.Within depth) →
          ∀ member ∈ Json.normalizeMembers members, member.2.Within depth := by
        intro members h
        induction members with
        | nil => simp [Json.normalizeMembers]
        | cons member members hrest =>
          obtain ⟨hmember, htail⟩ := List.forall_mem_cons.mp h
          intro other hother
          obtain rfl | hother := Json.mem_putMember hother
          · exact ih hmember
          · exact hrest htail other hother
      exact hmembers members h
    | float number =>
      unfold Json.normalize
      split <;> trivial
    | _ => trivial

/-- Inserting a value that is less deep than the dictionary makes it no deeper. -/
lemma JsonDict.within_insert {depth : Nat} (h : (Json.obj d.members).Within (depth + 1))
    (key : String) (hvalue : value.Within depth) :
    (Json.obj (d.insert key value).members).Within (depth + 1) := by
  intro member hmember
  obtain rfl | hmember := Json.mem_putMember hmember
  · exact hvalue.normalize
  · exact h member hmember

/-- What a dictionary holds without a key, it holds. -/
lemma JsonDict.get?_of_erase {key other : String}
    (h : (d.erase key).get? other = some value) : other ≠ key ∧ d.get? other = some value := by
  obtain ⟨before, after, hsplit, -⟩ := List.lookup_eq_some_iff.mp h
  have hmem : (other, value) ∈ (d.erase key).members := by simp [hsplit]
  obtain ⟨hheld, hne⟩ := List.mem_filter.mp hmem
  exact ⟨by simpa using hne, lookup_of_mem d.normal hheld⟩

/-- What a key of a dictionary holds is a member, so the key is one of its keys. -/
lemma JsonDict.mem_keys_of_get? {key : String} (h : d.get? key = some value) : key ∈ d.keys := by
  obtain ⟨before, after, hsplit, -⟩ := List.lookup_eq_some_iff.mp h
  have hmem : (key, value) ∈ d.members := by simp [hsplit]
  exact List.mem_map_of_mem hmem

end Foundation
