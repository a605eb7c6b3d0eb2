import Mathlib.Data.List.Infix

/-!
# Text patterns

Patterns with words, choices, options and the two anchors, searched anywhere in a text after its
characters are folded.  `points` is the matcher, which lists every point of the text that a match
can end at; `search_word_iff` says what a bare word finds, and `search_of_isAlternativeOf` that a
choice finds what its alternatives find.
-/

namespace Foundation

/-- A pattern over folded characters. -/
inductive Pattern where
  | empty
  | fail
  | char (value : Char)
  /-- The start of the text. -/
  | start
  /-- The end of the text, or the last newline before it. -/
  | stop
  | seq (first second : Pattern)
  | alt (left right : Pattern)
  deriving Repr, DecidableEq

/-- A point of a text: whether it is the start, and the characters behind it. -/
structure TextPoint where
  atStart : Bool
  rest : List Char
  deriving Repr, DecidableEq

namespace Pattern

/-- The characters of a word, in order. -/
def chars : List Char → Pattern
  | [] => empty
  | value :: rest => seq (char value) (chars rest)

/-- A word as it is written. -/
def word (text : String) : Pattern :=
  chars text.toList

/-- A pattern or nothing. -/
def opt (pattern : Pattern) : Pattern :=
  alt pattern empty

/-- Any of the patterns. -/
def choice : List Pattern → Pattern
  | [] => fail
  | pattern :: rest => alt pattern (choice rest)

/-- The patterns one after another. -/
def sequence : List Pattern → Pattern
  | [] => empty
  | pattern :: rest => seq pattern (sequence rest)

variable (fold : Char → Char)

/-- The points at which a match from a point can end. -/
def points : Pattern → TextPoint → List TextPoint
  | empty, point => [point]
  | fail, _ => []
  | char value, point =>
    match point.rest with
    | [] => []
    | next :: rest => if fold next = value then [⟨false, rest⟩] else []
  | start, point => if point.atStart then [point] else []
  | stop, point => if point.rest = [] ∨ point.rest = ['\n'] then [point] else []
  | seq first second, point => (points first point).flatMap (points second)
  | alt left right, point => points left point ++ points right point

/-- Whether the pattern matches at a point. -/
def matchesAt (pattern : Pattern) (point : TextPoint) : Bool :=
  !(points fold pattern point).isEmpty

/-- Whether the pattern matches at the point or behind it. -/
def searchFrom (pattern : Pattern) : Bool → List Char → Bool
  | atStart, [] => matchesAt fold pattern ⟨atStart, []⟩
  | atStart, next :: rest =>
    matchesAt fold pattern ⟨atStart, next :: rest⟩ || searchFrom pattern false rest

/-- Whether the pattern matches anywhere in the text. -/
def search (pattern : Pattern) (text : String) : Bool :=
  searchFrom fold pattern true text.toList

variable {fold}

/-- A word matches at a point exactly when the folded text behind the point starts with it. -/
lemma matchesAt_chars_iff (letters : List Char) (point : TextPoint) :
    matchesAt fold (chars letters) point = true ↔ letters <+: point.rest.map fold := by
  induction letters generalizing point with
  | nil => simp [matchesAt, chars, points]
  | cons value letters ih =>
    obtain ⟨atStart, text⟩ := point
    cases text with
    | nil => simp [matchesAt, chars, points]
    | cons next rest =>
      by_cases hnext : fold next = value
      · have hrest := ih ⟨false, rest⟩
        simpa [matchesAt, chars, points, hnext, List.cons_prefix_cons] using hrest
      · have hother : ¬ (value = fold next) := fun h => hnext h.symm
        simp [matchesAt, chars, points, hnext, List.cons_prefix_cons, hother]

/-- A bare word is found exactly in the texts that contain it. -/
lemma searchFrom_chars_iff (letters : List Char) (atStart : Bool) (text : List Char) :
    searchFrom fold (chars letters) atStart text = true ↔ letters <:+: text.map fold := by
  induction text generalizing atStart with
  | nil =>
    rw [searchFrom, matchesAt_chars_iff]
    simp
  | cons next rest ih =>
    rw [searchFrom, Bool.or_eq_true, matchesAt_chars_iff, ih, List.map_cons, List.infix_cons_iff]

/-- A bare word is found exactly in the texts that contain it. -/
theorem search_word_iff (letters text : String) :
    search fold (word letters) text = true ↔ letters.toList <:+: text.toList.map fold :=
  searchFrom_chars_iff letters.toList true text.toList

/-- A choice of two matches where one of them does. -/
lemma matchesAt_alt (left right : Pattern) (point : TextPoint) :
    matchesAt fold (alt left right) point =
      (matchesAt fold left point || matchesAt fold right point) := by
  unfold matchesAt
  rw [points]
  cases points fold left point <;> simp

/-- A choice of two is found where one of them is. -/
lemma searchFrom_alt (left right : Pattern) (atStart : Bool) (text : List Char) :
    searchFrom fold (alt left right) atStart text =
      (searchFrom fold left atStart text || searchFrom fold right atStart text) := by
  induction text generalizing atStart with
  | nil => rw [searchFrom, matchesAt_alt, searchFrom, searchFrom]
  | cons next rest ih =>
    rw [searchFrom, matchesAt_alt, ih, searchFrom, searchFrom]
    ac_rfl

/-- Whether one pattern is an alternative of another, at any depth of its choices. -/
def isAlternativeOf (pattern : Pattern) : Pattern → Bool
  | alt left right => alt left right = pattern || isAlternativeOf pattern left ||
      isAlternativeOf pattern right
  | other => other = pattern

/-- Where an alternative is found, the pattern is. -/
theorem search_of_isAlternativeOf {pattern whole : Pattern} {text : String}
    (halternative : isAlternativeOf pattern whole = true) (h : search fold pattern text = true) :
    search fold whole text = true := by
  induction whole with
  | alt left right ihleft ihright =>
    rw [isAlternativeOf, Bool.or_eq_true, Bool.or_eq_true, decide_eq_true_eq] at halternative
    unfold search at h ihleft ihright ⊢
    rcases halternative with (rfl | hleft) | hright
    · exact h
    · rw [searchFrom_alt, ihleft hleft, Bool.true_or]
    · rw [searchFrom_alt, ihright hright, Bool.or_true]
  | _ =>
    have heq := of_decide_eq_true halternative
    rwa [heq]

end Pattern

end Foundation
