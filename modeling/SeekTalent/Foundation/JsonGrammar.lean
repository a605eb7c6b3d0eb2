import SeekTalent.Foundation.JsonCauses

/-!
# The documents that a scanner accepts

A grammar of JSON texts beside the scanner: a text derives a tree when it is spelled like one, with
whitespace between the lexemes, members whose keys differ and integers that the reader admits. 
There is no rule for a fraction, an exponent or one of the constants `NaN` and `Infinity`.  What the
scanner reads, it reads off a text of the grammar, and `json.loads` reads nothing but whitespace
beside it.
-/

namespace Foundation

/-- Whitespace only. -/
def IsSpace (text : List Nat) : Prop :=
  ∀ point ∈ text, isJsonSpace point = true

/-- An optional minus sign and digits without a leading zero. -/
def IntegerText (text : List Nat) : Prop :=
  ∃ digits, (text = digits ∨ text = 45 :: digits) ∧ digits ≠ [] ∧
    (∀ digit ∈ digits, isDecimalDigit digit = true) ∧ (digits.head? = some 48 → digits = [48])

section Grammar

variable (reads : List Nat → Int → Prop)

mutual

/-- The text spells the value. -/
inductive ValueText : List Nat → JsonText → Prop
  | null : ValueText nullLiteral .null
  | true : ValueText trueLiteral (.bool true)
  | false : ValueText falseLiteral (.bool false)
  | int {text : List Nat} {value : Int} (htext : IntegerText text) (hvalue : reads text value) :
      ValueText text (.int value)
  | str {text rest points : List Nat} (hstring : scanString (text ++ rest) = some (points, rest)) :
      ValueText (34 :: text) (.str points)
  | arr {text : List Nat} {items : List JsonText} (hitems : ItemsText text items) :
      ValueText (91 :: text) (.arr items)
  | obj {text : List Nat} {members : List (List Nat × JsonText)}
      (hmembers : MembersText text members)
      (hkeys : (members.map Prod.fst).Nodup) : ValueText (123 :: text) (.obj members)

/-- The text spells the items of an array up to its closing bracket. -/
inductive ItemsText : List Nat → List JsonText → Prop
  | empty {space : List Nat} (hspace : IsSpace space) : ItemsText (space ++ [93]) []
  | last {space text after : List Nat} {item : JsonText} (hspace : IsSpace space)
      (hitem : ValueText text item) (hafter : IsSpace after) :
      ItemsText (space ++ text ++ after ++ [93]) [item]
  | more {space text after rest : List Nat} {item : JsonText} {items : List JsonText}
      (hspace : IsSpace space) (hitem : ValueText text item) (hafter : IsSpace after)
      (hrest : ItemsText rest items) (hitems : items ≠ []) :
      ItemsText (space ++ text ++ after ++ 44 :: rest) (item :: items)

/-- The text spells the members of an object up to its closing brace. -/
inductive MembersText : List Nat → List (List Nat × JsonText) → Prop
  | empty {space : List Nat} (hspace : IsSpace space) : MembersText (space ++ [125]) []
  | last {space key tail points before between text after : List Nat} {value : JsonText}
      (hspace : IsSpace space) (hkey : scanString (key ++ tail) = some (points, tail))
      (hbefore : IsSpace before) (hbetween : IsSpace between) (hvalue : ValueText text value)
      (hafter : IsSpace after) :
      MembersText (space ++ 34 :: key ++ before ++ 58 :: between ++ text ++ after ++ [125])
        [(points, value)]
  | more {space key tail points before between text after rest : List Nat} {value : JsonText}
      {members : List (List Nat × JsonText)}
      (hspace : IsSpace space) (hkey : scanString (key ++ tail) = some (points, tail))
      (hbefore : IsSpace before) (hbetween : IsSpace between) (hvalue : ValueText text value)
      (hafter : IsSpace after) (hrest : MembersText rest members) (hmembers : members ≠ []) :
      MembersText (space ++ 34 :: key ++ before ++ 58 :: between ++ text ++ after ++ 44 :: rest)
        ((points, value) :: members)

end

/-- The text is a value with nothing but whitespace around it. -/
def DocumentText (text : List Nat) (value : JsonText) : Prop :=
  ∃ before lexeme after, text = before ++ lexeme ++ after ∧ IsSpace before ∧
    ValueText reads lexeme value ∧ IsSpace after

end Grammar

/-! ## Lexemes -/

/-- What is skipped is whitespace. -/
lemma exists_space (text : List Nat) : ∃ space, text = space ++ skipSpace text ∧ IsSpace space :=
  ⟨text.takeWhile isJsonSpace, (List.takeWhile_append_dropWhile).symm,
    fun point hpoint => List.all_eq_true.mp List.all_takeWhile point hpoint⟩

/-- What follows a string is the rest of the text. -/
lemma exists_of_scanString {text points rest : List Nat}
    (h : scanString text = some (points, rest)) : ∃ lexeme, text = lexeme ++ rest := by
  have hcons : ∀ {point : Nat} {scanned : Option (List Nat × List Nat)} {points rest : List Nat},
      consPoint point scanned = some (points, rest) → ∃ tail, scanned = some (tail, rest) := by
    intro point scanned points rest h
    obtain ⟨⟨tail, after⟩, hscanned, heq⟩ := Option.map_eq_some_iff.mp h
    obtain ⟨-, rfl⟩ := Prod.mk.inj heq
    exact ⟨tail, hscanned⟩
  suffices hsuffix : rest <:+ text by
    obtain ⟨lexeme, hlexeme⟩ := hsuffix
    exact ⟨lexeme, hlexeme.symm⟩
  fun_induction scanString text generalizing points with
  | case1 => cases h
  | case2 after =>
    obtain ⟨-, rfl⟩ := Prod.mk.inj (Option.some.inj h)
    exact List.suffix_cons 34 after
  | case3 => cases h
  | case4 => cases h
  | case5 a b c d unit _ _ e f g h' more low _ _ ih =>
    obtain ⟨tail, hscanned⟩ := hcons h
    exact (ih hscanned).trans ⟨[92, 117, a, b, c, d, 92, 117, e, f, g, h'], rfl⟩
  | case6 a b c d unit _ _ e f g h' more low _ _ ih =>
    obtain ⟨tail, hscanned⟩ := hcons h
    exact (ih hscanned).trans ⟨[92, 117, a, b, c, d], rfl⟩
  | case7 a b c d unit _ _ other _ ih =>
    obtain ⟨tail, hscanned⟩ := hcons h
    exact (ih hscanned).trans ⟨[92, 117, a, b, c, d], rfl⟩
  | case8 a b c d after unit _ _ ih =>
    obtain ⟨tail, hscanned⟩ := hcons h
    exact (ih hscanned).trans ⟨[92, 117, a, b, c, d], rfl⟩
  | case9 => cases h
  | case10 escape after _ point _ ih =>
    obtain ⟨tail, hscanned⟩ := hcons h
    exact (ih hscanned).trans ⟨[92, escape], rfl⟩
  | case11 => cases h
  | case12 point after _ _ _ _ ih =>
    obtain ⟨tail, hscanned⟩ := hcons h
    exact (ih hscanned).trans ⟨[point], rfl⟩

/-- A literal is at the head of the text that it is read off. -/
lemma eq_of_afterLiteral {literal text rest : List Nat}
    (h : afterLiteral literal text = some rest) : text = literal ++ rest := by
  fun_induction afterLiteral literal text with
  | case1 text => exact Option.some.inj h
  | case2 => cases h
  | case3 literal point text ih => rw [ih h, List.cons_append]
  | case4 => cases h

/-- The digits of an integer. -/
lemma eq_of_scanDigits {text digits rest : List Nat} (h : scanDigits text = some (digits, rest)) :
    text = digits ++ rest ∧ digits ≠ [] ∧ (∀ digit ∈ digits, isDecimalDigit digit = true) ∧
      (digits.head? = some 48 → digits = [48]) := by
  unfold scanDigits at h
  split at h
  · cases h
  · obtain ⟨rfl, rfl⟩ := Prod.mk.inj (Option.some.inj h)
    exact ⟨rfl, by simp, by decide, fun _ => rfl⟩
  · rename_i first tail hzero
    split at h
    · rename_i hfirst
      obtain ⟨rfl, rfl⟩ := Prod.mk.inj (Option.some.inj h)
      refine ⟨by simp, by simp, ?_, ?_⟩
      · intro digit hdigit
        obtain rfl | hdigit := List.mem_cons.mp hdigit
        · exact hfirst
        · exact List.all_eq_true.mp List.all_takeWhile digit hdigit
      · intro hhead
        obtain rfl : first = 48 := by simpa using hhead
        exact absurd rfl hzero
    · cases h

/-- An integer is at the head of the text that it is read off. -/
lemma eq_of_scanInteger {text number rest : List Nat} (h : scanInteger text = some (number, rest)) :
    text = number ++ rest ∧ IntegerText number := by
  unfold scanInteger at h
  split at h
  · obtain ⟨⟨digits, after⟩, hdigits, heq⟩ := Option.map_eq_some_iff.mp h
    obtain ⟨rfl, rfl⟩ := Prod.mk.inj heq
    obtain ⟨htext, hdigits⟩ := eq_of_scanDigits hdigits
    exact ⟨by rw [htext]; rfl, digits, .inr rfl, hdigits⟩
  · obtain ⟨htext, hdigits⟩ := eq_of_scanDigits h
    exact ⟨htext, number, .inl rfl, hdigits⟩

/-! ## What the scanner reads -/

section Scanner

variable {reads : List Nat → Int → Prop} {ε : Type} {hooks : JsonHooks ε}

/-- Nothing is whitespace. -/
lemma isSpace_nil : IsSpace [] :=
  nofun

/-- Whitespace behind whitespace. -/
lemma IsSpace.append {before after : List Nat} (hbefore : IsSpace before) (hafter : IsSpace after) :
    IsSpace (before ++ after) :=
  fun point hpoint => (List.mem_append.mp hpoint).elim (hbefore point) (hafter point)

/-- Items may have whitespace before them. -/
lemma ItemsText.space {text before : List Nat} {items : List JsonText}
    (h : ItemsText reads text items)
    (hbefore : IsSpace before) : ItemsText reads (before ++ text) items := by
  cases h with
  | empty hspace => simpa using ItemsText.empty (hbefore.append hspace)
  | last hspace hitem hafter => simpa using ItemsText.last (hbefore.append hspace) hitem hafter
  | more hspace hitem hafter hrest hitems =>
    simpa using ItemsText.more (hbefore.append hspace) hitem hafter hrest hitems

/-- Members may have whitespace before them. -/
lemma MembersText.space {text before : List Nat} {members : List (List Nat × JsonText)}
    (h : MembersText reads text members) (hbefore : IsSpace before) :
    MembersText reads (before ++ text) members := by
  cases h with
  | empty hspace => simpa using MembersText.empty (hbefore.append hspace)
  | last hspace hkey hbetween hcolon hvalue hafter =>
    simpa using MembersText.last (hbefore.append hspace) hkey hbetween hcolon hvalue hafter
  | more hspace hkey hbetween hcolon hvalue hafter hrest hmembers =>
    simpa using MembersText.more (hbefore.append hspace) hkey hbetween hcolon hvalue hafter hrest
      hmembers

/-- An atom is read off its text. -/
lemma scanAtom_sound (hreads : ∀ text value, hooks.parseInteger text = .ok value → reads text value)
    {text rest : List Nat} {value : JsonText} (h : scanAtom hooks text = .ok (value, rest)) :
    ∃ lexeme, text = lexeme ++ rest ∧ ValueText reads lexeme value := by
  unfold scanAtom at h
  split at h
  · obtain ⟨rfl, rfl⟩ := Prod.mk.inj (Except.ok.inj h)
    exact ⟨nullLiteral, eq_of_afterLiteral ‹afterLiteral nullLiteral text = some _›, .null⟩
  · obtain ⟨rfl, rfl⟩ := Prod.mk.inj (Except.ok.inj h)
    exact ⟨trueLiteral, eq_of_afterLiteral ‹afterLiteral trueLiteral text = some _›, .true⟩
  · obtain ⟨rfl, rfl⟩ := Prod.mk.inj (Except.ok.inj h)
    exact ⟨falseLiteral, eq_of_afterLiteral ‹afterLiteral falseLiteral text = some _›, .false⟩
  · split at h
    · cases h
    · unfold scanNumber at h
      split at h
      · cases h
      · rename_i digits after hdigits
        split at h
        · cases h
        · cases hparsed : hooks.parseInteger digits with
          | error e =>
            rw [hparsed] at h
            cases h
          | ok number =>
            rw [hparsed] at h
            obtain ⟨rfl, rfl⟩ := Prod.mk.inj (Except.ok.inj h)
            obtain ⟨htext, hinteger⟩ := eq_of_scanInteger hdigits
            exact ⟨digits, htext, .int hinteger (hreads digits number hparsed)⟩

/-- What the scanner reads is spelled by the text that it takes; the induction is on its counter. -/
theorem scan_sound (hreads : ∀ text value, hooks.parseInteger text = .ok value → reads text value)
    (fuel : Nat) :
    (∀ text value rest, scanValue hooks fuel text = .ok (value, rest) →
        ∃ lexeme, text = lexeme ++ rest ∧ ValueText reads lexeme value) ∧
      (∀ text items rest, scanItems hooks fuel text = .ok (items, rest) →
        items ≠ [] ∧ ∃ lexeme, text = lexeme ++ rest ∧ ItemsText reads lexeme items) ∧
      ∀ text members rest, scanMembers hooks fuel text = .ok (members, rest) →
        members ≠ [] ∧ ∃ lexeme, text = lexeme ++ rest ∧ MembersText reads lexeme members := by
  induction fuel with
  | zero =>
    refine ⟨fun text value rest h => ?_, fun text items rest h => ?_, fun text members rest h => ?_⟩
    · simp [scanValue] at h
    · simp [scanItems] at h
    · simp [scanMembers] at h
  | succ fuel ih =>
    obtain ⟨hvalue, hitems, hmembers⟩ := ih
    refine ⟨fun text value rest h => ?_, fun text items rest h => ?_, fun text members rest h => ?_⟩
    · unfold scanValue at h
      split at h
      · cases h
      · rename_i counter tail hcounter
        split at h
        · cases h
        · rename_i points after hstring
          obtain ⟨rfl, rfl⟩ := Prod.mk.inj (Except.ok.inj h)
          obtain ⟨lexeme, rfl⟩ := exists_of_scanString hstring
          exact ⟨34 :: lexeme, rfl, .str hstring⟩
      · rename_i counter tail hcounter
        obtain rfl := Nat.succ.inj hcounter
        obtain ⟨space, htail, hspace⟩ := exists_space tail
        split at h
        · rename_i after hclose
          obtain ⟨rfl, rfl⟩ := Prod.mk.inj (Except.ok.inj h)
          refine ⟨123 :: (space ++ [125]), ?_, .obj (.empty hspace) List.nodup_nil⟩
          rw [htail, hclose]
          simp
        · split at h
          · cases h
          · rename_i members after hscanned
            obtain ⟨-, lexeme, hstart, hspelled⟩ := hmembers _ _ _ hscanned
            unfold rejectDuplicates at h
            split at h
            · rename_i hkeys
              obtain ⟨rfl, rfl⟩ := Prod.mk.inj (Except.ok.inj h)
              refine ⟨123 :: (space ++ lexeme), ?_, .obj (hspelled.space hspace) hkeys⟩
              rw [htail, hstart]
              simp
            · cases h
      · rename_i counter tail hcounter
        obtain rfl := Nat.succ.inj hcounter
        obtain ⟨space, htail, hspace⟩ := exists_space tail
        split at h
        · rename_i after hclose
          obtain ⟨rfl, rfl⟩ := Prod.mk.inj (Except.ok.inj h)
          refine ⟨91 :: (space ++ [93]), ?_, .arr (.empty hspace)⟩
          rw [htail, hclose]
          simp
        · cases hscanned : scanItems hooks fuel (skipSpace tail) with
          | error e =>
            rw [hscanned] at h
            cases h
          | ok scanned =>
            rw [hscanned] at h
            obtain ⟨rfl, rfl⟩ := Prod.mk.inj (Except.ok.inj h)
            obtain ⟨-, lexeme, hstart, hspelled⟩ := hitems _ _ _ hscanned
            refine ⟨91 :: (space ++ lexeme), ?_, .arr (hspelled.space hspace)⟩
            rw [htail, hstart]
            simp
      · exact scanAtom_sound hreads h
    · simp only [scanItems] at h
      cases hitem : scanValue hooks fuel text with
      | error e =>
        rw [hitem] at h
        cases h
      | ok scanned =>
        obtain ⟨item, after⟩ := scanned
        rw [hitem] at h
        dsimp only at h
        obtain ⟨lexeme, htext, hspelled⟩ := hvalue text item after hitem
        obtain ⟨space, hafter, hspace⟩ := exists_space after
        split at h
        · rename_i hclose
          obtain ⟨rfl, rfl⟩ := Prod.mk.inj (Except.ok.inj h)
          refine ⟨by simp, lexeme ++ space ++ [93], ?_, .last isSpace_nil hspelled hspace⟩
          rw [htext, hafter, hclose]
          simp
        · rename_i tail hcomma
          cases hmore : scanItems hooks fuel (skipSpace tail) with
          | error e =>
            rw [hmore] at h
            cases h
          | ok later =>
            rw [hmore] at h
            obtain ⟨rfl, rfl⟩ := Prod.mk.inj (Except.ok.inj h)
            obtain ⟨hsome, others, htail, hothers⟩ := hitems _ _ _ hmore
            obtain ⟨gap, hgap, hgapSpace⟩ := exists_space tail
            refine ⟨by simp, lexeme ++ space ++ 44 :: (gap ++ others), ?_,
              .more isSpace_nil hspelled hspace (hothers.space hgapSpace) hsome⟩
            rw [htext, hafter, hcomma, hgap, htail]
            simp
        · cases h
    · unfold scanMembers at h
      split at h
      · cases h
      · rename_i counter tail hcounter
        obtain rfl := Nat.succ.inj hcounter
        split at h
        · cases h
        · rename_i points after hkey
          obtain ⟨key, rfl⟩ := exists_of_scanString hkey
          obtain ⟨before, hbefore, hbeforeSpace⟩ := exists_space after
          split at h
          · rename_i start hcolon
            obtain ⟨between, hbetween, hbetweenSpace⟩ := exists_space start
            split at h
            · cases h
            · rename_i value later hscanned
              obtain ⟨lexeme, hstart, hspelled⟩ := hvalue _ _ _ hscanned
              obtain ⟨space, hlater, hspace⟩ := exists_space later
              split at h
              · rename_i last hclose
                obtain ⟨rfl, rfl⟩ := Prod.mk.inj (Except.ok.inj h)
                refine ⟨by simp, 34 :: key ++ before ++ 58 :: between ++ lexeme ++ space ++
                  [125], ?_, .last isSpace_nil hkey hbeforeSpace hbetweenSpace hspelled hspace⟩
                rw [hbefore, hcolon, hbetween, hstart, hlater, hclose]
                simp
              · rename_i more hcomma
                cases hrest : scanMembers hooks fuel (skipSpace more) with
                | error e =>
                  rw [hrest] at h
                  cases h
                | ok rest =>
                  rw [hrest] at h
                  obtain ⟨rfl, rfl⟩ := Prod.mk.inj (Except.ok.inj h)
                  obtain ⟨hsome, others, hmore, hothers⟩ := hmembers _ _ _ hrest
                  obtain ⟨gap, hgap, hgapSpace⟩ := exists_space more
                  refine ⟨by simp,
                    34 :: key ++ before ++ 58 :: between ++ lexeme ++ space ++ 44 ::
                    (gap ++ others), ?_, .more isSpace_nil hkey hbeforeSpace hbetweenSpace hspelled
                      hspace
                      (hothers.space hgapSpace) hsome⟩
                  rw [hbefore, hcolon, hbetween, hstart, hlater, hcomma, hgap, hmore]
                  simp
              · cases h
          · cases h
      · cases h

/-- `json.loads` reads documents of the grammar only. -/
theorem jsonLoads_sound
    (hreads : ∀ text value, hooks.parseInteger text = .ok value → reads text value)
    {text : List Nat} {value : JsonText} (h : jsonLoads hooks text = .ok value) :
    DocumentText reads text value := by
  unfold jsonLoads at h
  split at h
  · cases h
  · rename_i scanned after hscanned
    split at h
    · rename_i hend
      obtain rfl := Except.ok.inj h
      obtain ⟨lexeme, hstart, hspelled⟩ := (scan_sound hreads _).1 _ _ _ hscanned
      obtain ⟨before, hbefore, hbeforeSpace⟩ := exists_space text
      obtain ⟨space, hafter, hspace⟩ := exists_space after
      rw [hend, List.append_nil] at hafter
      refine ⟨before, lexeme, after, ?_, hbeforeSpace, hspelled, hafter ▸ hspace⟩
      rw [List.append_assoc, ← hstart, ← hbefore]
    · cases h

end Scanner

end Foundation
