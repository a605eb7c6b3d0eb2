import SeekTalent.PrivacyErasure.SubjectErasure

/-!
# What the erasure of texts leaves alone in a document

The texts of a person are taken out of a document wherever they occur, in keys as in values. 
`Spared` says that keys other than the person's ids, numbers, and the strings of other people's
entries are as they were and that no two members have become one; `spared_iff_survives` says from
the document and the texts when this is so.
-/

namespace SeekTalent.PrivacyErasure

open Foundation

/-! ## Strings -/

section Strings

variable {tokens : List String}
variable {text token : String}

/-- The texts leave a string alone: none of them occurs in it, or it holds the mark of an erasure
already and comes out of this one as it was. -/
def Untouched (tokens : List String) (text : String) : Prop :=
  (∀ token ∈ tokens, token ≠ "" → occursIn token text = false) ∨
    (occursIn "[erased]" text = true ∧ eraseTokensFromString tokens text = text)

instance (tokens : List String) (text : String) : Decidable (Untouched tokens text) :=
  inferInstanceAs (Decidable (_ ∨ _))

/-- What is replaced leaves what it is replaced by. -/
lemma infix_replaceFrom {old new text : List Char} (hold : old ≠ []) (h : old <:+: text) :
    new <:+: replaceFrom old new 0 text := by
  induction text with
  | nil => exact absurd (List.infix_nil.mp h) hold
  | cons c rest ih =>
    unfold replaceFrom
    split
    · exact (List.prefix_append _ _).isInfix
    · rename_i hprefix
      rcases List.infix_cons_iff.mp h with hhead | htail
      · exact absurd (List.isPrefixOf_iff_prefix.mpr hhead) hprefix
      · exact (ih htail).trans (List.suffix_cons _ _).isInfix

/-- Taking out one text leaves the mark where it occurs, and nothing changes where it does not. -/
lemma occursIn_eraseToken (htoken : token ≠ "") (h : occursIn token text = true) :
    occursIn "[erased]" (eraseToken token text) = true := by
  have hreplaced : (eraseToken token text).toList =
      replaceFrom token.toList "[erased]".toList 0 text.toList := String.toList_ofList
  refine decide_eq_true ?_
  rw [hreplaced]
  exact infix_replaceFrom (fun hnil => htoken (String.toList_eq_nil_iff.mp hnil))
    (of_decide_eq_true h)

/-- One step of `_erase_tokens_from_string`. -/
def eraseStep (cleaned token : String) : String :=
  if token = "" then cleaned else if occursIn token cleaned then eraseToken token
    cleaned else cleaned

/-- A step leaves a string alone in which its text does not occur. -/
lemma eraseStep_of_not_occurs (h : token ≠ "" → occursIn token text = false) :
    eraseStep text token = text := by
  unfold eraseStep
  split
  · rfl
  · rename_i htoken
    rw [h htoken, if_neg Bool.false_ne_true]

/-- The mark stays. -/
lemma mark_eraseStep (h : occursIn "[erased]" text = true) :
    occursIn "[erased]" (eraseStep text token) = true := by
  unfold eraseStep
  split
  · exact h
  · rename_i htoken
    split
    · rename_i hoccurs
      exact occursIn_eraseToken htoken hoccurs
    · exact h

lemma mark_foldl (h : occursIn "[erased]" text = true) (l : List String) :
    occursIn "[erased]" (l.foldl eraseStep text) = true := by
  induction l generalizing text with
  | nil => exact h
  | cons token rest ih => exact ih (mark_eraseStep h)

/-- Where one of the texts occurs, there is the mark afterwards. -/
lemma mark_of_occurs {l : List String} (hmem : token ∈ l) (htoken : token ≠ "")
    (h : occursIn token text = true) : occursIn "[erased]" (l.foldl eraseStep text) = true := by
  induction l with
  | nil => cases hmem
  | cons first rest ih =>
    rw [List.foldl_cons]
    by_cases hfirst : first ≠ "" ∧ occursIn first text = true
    · refine mark_foldl ?_ rest
      unfold eraseStep
      rw [if_neg hfirst.1, if_pos hfirst.2]
      exact occursIn_eraseToken hfirst.1 hfirst.2
    · rw [eraseStep_of_not_occurs fun hne => by simpa using fun hoccurs => hfirst ⟨hne, hoccurs⟩]
      rcases List.mem_cons.mp hmem with rfl | hrest
      · exact absurd ⟨htoken, h⟩ hfirst
      · exact ih hrest

/-- Exactly the strings that are untouched come out as they were. -/
theorem eraseTokensFromString_eq_self_iff (text : String) :
    eraseTokensFromString tokens text = text ↔ Untouched tokens text := by
  constructor
  · intro h
    by_cases hmark : occursIn "[erased]" text = true
    · exact .inr ⟨hmark, h⟩
    · refine .inl fun token hmem htoken => ?_
      by_contra hoccurs
      have hsorted : token ∈ tokens.insertionSort fun a b => b.length ≤ a.length :=
        (List.perm_insertionSort _ tokens).mem_iff.mpr hmem
      exact hmark (h ▸ mark_of_occurs hsorted htoken (by simpa using hoccurs))
  · rintro (hnone | ⟨-, h⟩)
    · show (tokens.insertionSort fun a b => b.length ≤ a.length).foldl eraseStep text = text
      have hsorted : ∀ token ∈ tokens.insertionSort fun a b => b.length ≤ a.length, token ≠ "" →
          occursIn token text = false := fun token hmem =>
        hnone token ((List.perm_insertionSort _ tokens).mem_iff.mp hmem)
      generalize (tokens.insertionSort fun a b => b.length ≤ a.length) = sorted at hsorted ⊢
      induction sorted with
      | nil => rfl
      | cons token rest ih =>
        rw [List.foldl_cons, eraseStep_of_not_occurs (hsorted token List.mem_cons_self)]
        exact ih fun later hlater => hsorted later (List.mem_cons_of_mem token hlater)
    · exact h

end Strings

/-! ## Documents -/

/-- The ids of the person, and those of other people. -/
structure People where
  ids : List String
  others : List String
  deriving DecidableEq, Repr

/-- An object that names another person by a resume or an identity id. -/
def People.ownsEntry (people : People) (members : List (String × Json)) : Bool :=
  members.any fun member =>
    match member with
    | (key, .str id) => (key = "resume_id" ∨ key = "identity_id") ∧ id ∈ people.others
    | _ => false

mutual

/-- What is written instead of a value: the same but for the person's keys and for strings outside
of the entries of other people, `within` saying whether the value is in such an entry. -/
def Spared (people : People) (within : Bool) : Json → Json → Prop
  | .obj members, written => ∃ members', written = .obj members' ∧
      SparedMembers people (within || people.ownsEntry members) members members'
  | .arr items, written => ∃ items', written = .arr items' ∧ SparedItems people within items items'
  | .str text, written =>
    ∃ text', written = .str text' ∧ (within = true ∨ text ∈ people.others → text' = text)
  | .null, written => written = .null
  | .bool value, written => written = .bool value
  | .int value, written => written = .int value
  | .float value, written => written = .float value

def SparedItems (people : People) (within : Bool) : List Json → List Json → Prop
  | [], written => written = []
  | item :: rest, written => ∃ item' rest', written = item' :: rest' ∧
    Spared people within item item' ∧
      SparedItems people within rest rest'

def SparedMembers (people : People) (within : Bool) : List (String × Json) → List (String × Json) →
    Prop
  | [], written => written = []
  | (key, item) :: rest, written => ∃ key' item' rest', written = (key', item') :: rest' ∧
      (key ∉ people.ids → key' = key) ∧ Spared people (within || key ∈ people.others) item item' ∧
      SparedMembers people within rest rest'

end

mutual

/-- The texts leave a document alone as far as it is not the person's: keys that are not the
person's ids and the strings of other people's entries are untouched, and no two keys of a mapping
become the same. -/
def Survives (tokens : List String) (people : People) (within : Bool) : Json → Prop
  | .obj members => (members.map fun member => eraseTokensFromString tokens member.1).Nodup ∧
      SurvivesMembers tokens people (within || people.ownsEntry members) members
  | .arr items => SurvivesItems tokens people within items
  | .str text => within = true ∨ text ∈ people.others → Untouched tokens text
  | .null | .bool _ | .int _ | .float _ => True

def SurvivesItems (tokens : List String) (people : People) (within : Bool) : List Json → Prop
  | [] => True
  | item :: rest => Survives tokens people within item ∧ SurvivesItems tokens people within rest

def SurvivesMembers (tokens : List String) (people : People) (within : Bool) :
    List (String × Json) → Prop
  | [] => True
  | (key, item) :: rest => (key ∉ people.ids → Untouched tokens key) ∧
      Survives tokens people (within || key ∈ people.others) item ∧
        SurvivesMembers tokens people within rest

end

mutual

/-- Whether a document survives can be computed. -/
def decideSurvives (tokens : List String) (people : People) (within : Bool) :
    (value : Json) → Decidable (Survives tokens people within value)
  | .obj members =>
    have := decideSurvivesMembers tokens people (within || people.ownsEntry members) members
    inferInstanceAs (Decidable (_ ∧ _))
  | .arr items => decideSurvivesItems tokens people within items
  | .str _ => inferInstanceAs (Decidable (_ → _))
  | .null | .bool _ | .int _ | .float _ => isTrue trivial

def decideSurvivesItems (tokens : List String) (people : People) (within : Bool) :
    (items : List Json) → Decidable (SurvivesItems tokens people within items)
  | [] => isTrue trivial
  | item :: rest =>
    have := decideSurvives tokens people within item
    have := decideSurvivesItems tokens people within rest
    inferInstanceAs (Decidable (_ ∧ _))

def decideSurvivesMembers (tokens : List String) (people : People) (within : Bool) :
    (members : List (String × Json)) → Decidable (SurvivesMembers tokens people within members)
  | [] => isTrue trivial
  | (key, item) :: rest =>
    have := decideSurvives tokens people (within || key ∈ people.others) item
    have := decideSurvivesMembers tokens people within rest
    inferInstanceAs (Decidable (_ ∧ _ ∧ _))

end

instance (tokens : List String) (people : People) (within : Bool) (value : Json) :
    Decidable (Survives tokens people within value) :=
  decideSurvives tokens people within value

section Documents

variable {tokens : List String} {people : People}

/-- The members after the erasure, if no two keys become the same. -/
lemma eraseTokensFromMembers_of_nodup {cleaned members : List (String × Json)}
    (h : (cleaned.map Prod.fst ++ members.map fun member =>
      eraseTokensFromString tokens member.1).Nodup) :
    eraseTokensFromMembers tokens cleaned members = cleaned ++ members.map fun member =>
      (eraseTokensFromString tokens member.1, eraseTokensFromJsonValue tokens member.2) := by
  induction members generalizing cleaned with
  | nil => simp [eraseTokensFromMembers]
  | cons member rest ih =>
    obtain ⟨key, item⟩ := member
    have hnew : eraseTokensFromString tokens key ∉ cleaned.map Prod.fst := by
      intro hmem
      exact (List.nodup_append.mp h).2.2 _ hmem _ List.mem_cons_self rfl
    unfold eraseTokensFromMembers
    rw [Dict.updateEntry_of_notMem hnew, ih, List.append_assoc]
    · rfl
    · simpa [List.append_assoc] using h

/-- Some member is lost when two keys become the same. -/
lemma length_eraseTokensFromMembers_le (cleaned members : List (String × Json)) :
    (eraseTokensFromMembers tokens cleaned members).length ≤ cleaned.length + members.length := by
  induction members generalizing cleaned with
  | nil => simp [eraseTokensFromMembers]
  | cons member rest ih =>
    obtain ⟨key, item⟩ := member
    unfold eraseTokensFromMembers
    refine (ih _).trans ?_
    rw [Dict.length_updateEntry, List.length_cons]
    split <;> omega

lemma length_eraseTokensFromMembers_lt {cleaned members : List (String × Json)}
    (hcleaned : (cleaned.map Prod.fst).Nodup)
    (h : ¬ (cleaned.map Prod.fst ++ members.map fun member =>
      eraseTokensFromString tokens member.1).Nodup) :
    (eraseTokensFromMembers tokens cleaned members).length < cleaned.length + members.length := by
  induction members generalizing cleaned with
  | nil => exact absurd (by simpa using hcleaned) h
  | cons member rest ih =>
    obtain ⟨key, item⟩ := member
    unfold eraseTokensFromMembers
    by_cases hmem : eraseTokensFromString tokens key ∈ cleaned.map Prod.fst
    · refine (length_eraseTokensFromMembers_le _ _).trans_lt ?_
      rw [Dict.length_updateEntry, if_pos hmem, List.length_cons]
      omega
    · refine (ih (Dict.nodup_keys_updateEntry hcleaned) ?_).trans_le ?_
      · rw [Dict.keys_updateEntry, if_neg hmem, List.append_assoc]
        exact h
      · rw [Dict.length_updateEntry, if_neg hmem, List.length_cons]
        omega

/-- No member is lost where members are spared. -/
lemma SparedMembers.length_eq {within : Bool} {members written : List (String × Json)}
    (h : SparedMembers people within members written) : written.length = members.length := by
  induction members generalizing written with
  | nil =>
    unfold SparedMembers at h
    rw [h]
  | cons member rest ih =>
    unfold SparedMembers at h
    obtain ⟨key', item', rest', rfl, -, -, hrest⟩ := h
    rw [List.length_cons, ih hrest, List.length_cons]

mutual

/-- What is written spares everything that is not the person's if and only if the document
survives. -/
theorem spared_iff_survives (within : Bool) : (value : Json) →
    (Spared people within value (eraseTokensFromJsonValue tokens value) ↔
      Survives tokens people within value)
  | .obj members => by
    unfold Spared Survives eraseTokensFromJsonValue
    by_cases hnodup : (members.map fun member => eraseTokensFromString tokens member.1).Nodup
    · have hmembers : eraseTokensFromMembers tokens [] members = [] ++ members.map fun member =>
          (eraseTokensFromString tokens member.1, eraseTokensFromJsonValue tokens member.2) :=
        eraseTokensFromMembers_of_nodup (by simpa using hnodup)
      rw [hmembers]
      simp only [Json.obj.injEq, exists_eq_left', List.nil_append]
      rw [sparedMembers_iff_survives, and_iff_right hnodup]
    · have hlost : (eraseTokensFromMembers tokens [] members).length < [].length + members.length :=
        length_eraseTokensFromMembers_lt List.nodup_nil (by simpa using hnodup)
      simp only [Json.obj.injEq, exists_eq_left', hnodup, false_and, iff_false]
      intro h
      rw [h.length_eq] at hlost
      simp at hlost
  | .arr items => by
    unfold Spared Survives eraseTokensFromJsonValue
    simp only [Json.arr.injEq, exists_eq_left']
    exact sparedItems_iff_survives within items
  | .str text => by
    unfold Spared Survives eraseTokensFromJsonValue
    simp only [Json.str.injEq, exists_eq_left', eraseTokensFromString_eq_self_iff]
  | .null | .bool _ | .int _ | .float _ => by
    unfold Spared Survives eraseTokensFromJsonValue
    exact iff_true_intro rfl

theorem sparedItems_iff_survives (within : Bool) : (items : List Json) →
    (SparedItems people within items (eraseTokensFromItems tokens items) ↔
      SurvivesItems tokens people within items)
  | [] => by
    unfold SparedItems SurvivesItems eraseTokensFromItems
    exact iff_true_intro rfl
  | item :: rest => by
    unfold SparedItems SurvivesItems eraseTokensFromItems
    rw [← spared_iff_survives within item, ← sparedItems_iff_survives within rest]
    simp

theorem sparedMembers_iff_survives (within : Bool) : (members : List (String × Json)) →
    (SparedMembers people within members (members.map fun member =>
        (eraseTokensFromString tokens member.1, eraseTokensFromJsonValue tokens member.2)) ↔
      SurvivesMembers tokens people within members)
  | [] => by
    unfold SparedMembers SurvivesMembers
    exact iff_true_intro rfl
  | (key, item) :: rest => by
    unfold SparedMembers SurvivesMembers
    rw [← spared_iff_survives (within || key ∈ people.others) item,
      ← sparedMembers_iff_survives within rest, ← eraseTokensFromString_eq_self_iff]
    simp

end

end Documents

end SeekTalent.PrivacyErasure
