import SeekTalent.Foundation.Json

/-!
# Equality of JSON documents, decided

Two trees are compared constructor by constructor, so that what a program makes of a document can be
computed and compared with what it should be.
-/

namespace Foundation.Json

mutual

/-- Two trees are the same. -/
def same : Json → Json → Bool
  | .null, .null => true
  | .bool a, .bool b => a = b
  | .int a, .int b => a = b
  | .float a, .float b => a = b
  | .str a, .str b => a = b
  | .arr a, .arr b => sameItems a b
  | .obj a, .obj b => sameMembers a b
  | _, _ => false

/-- Two arrays have the same items. -/
def sameItems : List Json → List Json → Bool
  | [], [] => true
  | a :: as, b :: bs => same a b && sameItems as bs
  | _, _ => false

/-- Two objects have the same members in the same order. -/
def sameMembers : List (String × Json) → List (String × Json) → Bool
  | [], [] => true
  | (key, a) :: as, (key', b) :: bs => key = key' && same a b && sameMembers as bs
  | _, _ => false

end

mutual

theorem same_iff : (a b : Json) → (same a b = true ↔ a = b)
  | .null, b => by cases b <;> simp [same]
  | .bool _, b => by cases b <;> simp [same]
  | .int _, b => by cases b <;> simp [same]
  | .float _, b => by cases b <;> simp [same]
  | .str _, b => by cases b <;> simp [same]
  | .arr items, b => by
    cases b with
    | arr items' => simp [same, sameItems_iff items items']
    | _ => simp [same]
  | .obj members, b => by
    cases b with
    | obj members' => simp [same, sameMembers_iff members members']
    | _ => simp [same]

theorem sameItems_iff : (as bs : List Json) → (sameItems as bs = true ↔ as = bs)
  | [], bs => by cases bs <;> simp [sameItems]
  | a :: as, bs => by
    cases bs with
    | nil => simp [sameItems]
    | cons b bs => simp [sameItems, same_iff a b, sameItems_iff as bs]

theorem sameMembers_iff : (as bs : List (String × Json)) → (sameMembers as bs = true ↔ as = bs)
  | [], bs => by cases bs <;> simp [sameMembers]
  | (key, a) :: as, bs => by
    cases bs with
    | nil => simp [sameMembers]
    | cons b bs =>
      simp [sameMembers, same_iff a b.2, sameMembers_iff as bs, Prod.ext_iff, and_assoc]

end

instance : DecidableEq Json := fun a b => decidable_of_iff _ (same_iff a b)

end Foundation.Json
