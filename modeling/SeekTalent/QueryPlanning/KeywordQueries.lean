import SeekTalent.SourcePort.WirePrimitives

/-!
# Keyword queries

`serialize_keyword_query` of `seektalent/retrieval/query_plan.py`: the terms of a query as the one
text that is sent to a provider and goes into the fingerprint of the query.  A term that contains a
blank is put in quotes, with quotes and backslashes escaped; every other term is written as it is.

`readKeywordQuery` reads such a text back, one character after the other.  It returns the terms that
were written, unless a term without a blank begins with a quote: such a term looks like the
beginning of a phrase.
-/

namespace SeekTalent.QueryPlanning

open SourcePort

/-! ## Writing -/

/-- `normalize_term` of `query_plan.py`. -/
def normalizeTerm (term : String) : String :=
  " ".intercalate (splitText (stripText term))

/-- `clean.replace("\\", "\\\\").replace('"', '\\"')`. -/
def escapeTerm (clean : List Char) : List Char :=
  (clean.flatMap fun c => if c = '\\' then ['\\', '\\'] else [c]).flatMap fun c =>
    if c = '"' then ['\\', '"'] else [c]

/-- `" " in clean or "\t" in clean`. -/
def hasBlank (clean : String) : Bool :=
  clean.toList.contains ' ' || clean.toList.contains '\t'

/-- One term of a query, as it is written. -/
def serializeTerm (clean : String) : String :=
  if hasBlank clean then String.ofList ('"' :: escapeTerm clean.toList ++ ['"']) else clean

/-- `serialize_keyword_query`. -/
def serializeKeywordQuery (terms : List String) : String :=
  " ".intercalate (terms.map fun term => serializeTerm (normalizeTerm term))

/-! ## Reading -/

/-- Where a reader is in a query: before a term, in one that is not quoted, in a quoted one, behind
a backslash in a quoted one, or behind its closing quote. -/
inductive ReaderMode
  | before
  | bare (term : List Char)
  | quoted (term : List Char)
  | escaped (term : List Char)
  | closed (term : List Char)
  | refused
  deriving DecidableEq

/-- The terms that are read, and where the reader is. -/
structure QueryReader where
  terms : List String := []
  mode : ReaderMode := .before
  deriving DecidableEq

/-- Read one character. -/
def QueryReader.read (reader : QueryReader) (c : Char) : QueryReader :=
  match reader.mode with
  | .before => { reader with mode := if c = '"' then .quoted [] else .bare [c] }
  | .bare term =>
      if c = ' ' then { terms := reader.terms ++ [String.ofList term] }
      else { reader with mode := .bare (term ++ [c]) }
  | .quoted term =>
      { reader with
        mode := if c = '\\' then .escaped term else if c = '"' then .closed term else .quoted
          (term ++ [c]) }
  | .escaped term => { reader with mode := .quoted (term ++ [c]) }
  | .closed term =>
      if c = ' ' then { terms := reader.terms ++ [String.ofList term] } else { reader with mode :=
        .refused }
  | .refused => reader

/-- The terms of a query that was read to its end. -/
def QueryReader.finish (reader : QueryReader) : Option (List String) :=
  match reader.mode with
  | .before => if reader.terms = [] then some [] else none
  | .bare term => some (reader.terms ++ [String.ofList term])
  | .closed term => some (reader.terms ++ [String.ofList term])
  | _ => none

/-- The terms of a query. -/
def readKeywordQuery (text : String) : Option (List String) :=
  (text.toList.foldl QueryReader.read {}).finish

/-! ## A term -/

/-- Each character of a term is escaped on its own. -/
lemma escapeTerm_cons (c : Char) (clean : List Char) :
    escapeTerm (c :: clean) =
      (if c = '\\' then ['\\', '\\'] else if c = '"' then ['\\', '"'] else [c]) ++
        escapeTerm clean := by
  unfold escapeTerm
  by_cases hslash : c = '\\'
  · subst hslash
    rfl
  · by_cases hquote : c = '"'
    · subst hquote
      rfl
    · simp [hslash, hquote]

/-- Inside the quotes the escaped characters are read back. -/
lemma foldl_read_escapeTerm (terms : List String) (clean : List Char) (before : List Char) :
    (escapeTerm clean).foldl QueryReader.read ⟨terms, .quoted before⟩ =
      ⟨terms, .quoted (before ++ clean)⟩ := by
  induction clean generalizing before with
  | nil => rw [List.append_nil]; rfl
  | cons c clean ih =>
    have hone : (if c = '\\' then ['\\', '\\'] else if c = '"' then ['\\', '"'] else [c]).foldl
      QueryReader.read
        ⟨terms, .quoted before⟩ = ⟨terms, .quoted (before ++ [c])⟩ := by
      by_cases hslash : c = '\\'
      · subst hslash
        rfl
      · by_cases hquote : c = '"'
        · subst hquote
          rfl
        · simp [hslash, hquote, QueryReader.read]
    rw [escapeTerm_cons, List.foldl_append, hone, ih, List.append_assoc, List.singleton_append]

/-- Up to the next blank a term is read as it is written. -/
lemma foldl_read_bare (terms : List String) {clean : List Char} (hblank : ' ' ∉ clean)
    (before : List Char) :
    clean.foldl QueryReader.read ⟨terms, .bare before⟩ = ⟨terms, .bare (before ++ clean)⟩ := by
  induction clean generalizing before with
  | nil => rw [List.append_nil]; rfl
  | cons c clean ih =>
    rw [List.mem_cons, not_or] at hblank
    have hone : QueryReader.read ⟨terms, .bare before⟩ c = ⟨terms, .bare (before ++ [c])⟩ :=
      if_neg (Ne.symm hblank.1)
    rw [List.foldl_cons, hone, ih hblank.2, List.append_assoc, List.singleton_append]

/-- A term that a reader can tell from its neighbours: it is not empty, and if it begins with a
quote then it has a blank, so that it is quoted itself. -/
def Recognisable (clean : String) : Prop :=
  clean ≠ "" ∧ (clean.toList.head? = some '"' → hasBlank clean = true)

instance instDecidableRecognisable (clean : String) : Decidable (Recognisable clean) :=
  inferInstanceAs (Decidable (_ ∧ (_ → _)))

/-- The places at which a term is at its end. -/
def ReaderMode.Holds (mode : ReaderMode) (clean : String) : Prop :=
  mode = .bare clean.toList ∨ mode = .closed clean.toList

/-- A reader that meets a term has it when the term is over. -/
lemma exists_read_term (terms : List String) {clean : String} (h : Recognisable clean) :
    ∃ mode : ReaderMode, mode.Holds clean ∧
      (serializeTerm clean).toList.foldl QueryReader.read ⟨terms, .before⟩ = ⟨terms, mode⟩ := by
  unfold serializeTerm
  by_cases hblank : hasBlank clean = true
  · refine ⟨.closed clean.toList, .inr rfl, ?_⟩
    have hopen : QueryReader.read ⟨terms, .before⟩ '"' = ⟨terms, .quoted []⟩ := rfl
    have hinside : ('"' :: escapeTerm clean.toList).foldl QueryReader.read ⟨terms, .before⟩ =
        ⟨terms, .quoted clean.toList⟩ := by
      rw [List.foldl_cons, hopen, foldl_read_escapeTerm, List.nil_append]
    rw [if_pos hblank, String.toList_ofList, List.foldl_append, hinside]
    rfl
  · refine ⟨.bare clean.toList, .inl rfl, ?_⟩
    rw [if_neg hblank]
    obtain ⟨c, rest, hclean⟩ : ∃ c rest, clean.toList = c :: rest :=
      List.exists_cons_of_ne_nil fun hnil => h.1 (String.toList_eq_nil_iff.mp hnil)
    have hquote : c ≠ '"' := fun hquote => hblank (h.2 (by rw [hclean, hquote, List.head?_cons]))
    have hrest : ' ' ∉ rest := fun hmem => hblank (by
      rw [hasBlank, hclean]
      simp [hmem])
    have hfirst : QueryReader.read ⟨terms, .before⟩ c = ⟨terms, .bare [c]⟩ :=
      congrArg (QueryReader.mk terms) (if_neg hquote)
    rw [hclean, List.foldl_cons, hfirst, foldl_read_bare terms hrest, List.singleton_append]

/-- At the end of a term the reader has it among its terms. -/
lemma finish_of_holds {terms : List String} {mode : ReaderMode} {clean : String}
    (h : mode.Holds clean) : (QueryReader.mk terms mode).finish = some (terms ++ [clean]) := by
  rcases h with rfl | rfl
  · exact congrArg (fun text => some (terms ++ [text])) String.ofList_toList
  · exact congrArg (fun text => some (terms ++ [text])) String.ofList_toList

/-- A blank behind a term takes the reader to the next one. -/
lemma read_blank_of_holds {terms : List String} {mode : ReaderMode} {clean : String}
    (h : mode.Holds clean) : QueryReader.read ⟨terms, mode⟩ ' ' = ⟨terms ++ [clean], .before⟩ := by
  rcases h with rfl | rfl
  · exact congrArg (fun text => QueryReader.mk (terms ++ [text]) .before) String.ofList_toList
  · exact congrArg (fun text => QueryReader.mk (terms ++ [text]) .before) String.ofList_toList

/-! ## A query -/

/-- What is read of written terms, behind the terms that are read already. -/
lemma finish_foldl_read (terms : List String) {first : String} {rest : List String}
    (h : ∀ clean ∈ first :: rest, Recognisable clean) :
    ((List.intercalate [' '] ((first :: rest).map fun clean => (serializeTerm clean).toList)).foldl
      QueryReader.read ⟨terms, .before⟩).finish = some (terms ++ first :: rest) := by
  induction rest generalizing terms first with
  | nil =>
    obtain ⟨mode, hholds, hread⟩ := exists_read_term terms (h first List.mem_cons_self)
    rw [List.map_cons, List.map_nil, List.intercalate_singleton, hread, finish_of_holds hholds]
  | cons second rest ih =>
    obtain ⟨mode, hholds, hread⟩ := exists_read_term terms (h first List.mem_cons_self)
    have hnext := ih (terms ++ [first]) fun clean hclean => h clean (List.mem_cons_of_mem _ hclean)
    rw [List.map_cons] at hnext
    rw [List.map_cons, List.map_cons, List.intercalate_cons_cons, List.foldl_append,
      List.foldl_append, hread, List.foldl_cons, List.foldl_nil, read_blank_of_holds hholds, hnext,
      List.append_assoc, List.singleton_append]

/-- **A keyword query is read back.**  The terms that are read are the normalised terms that were
written, as long as none of them is empty and none without a blank begins with a quote. -/
theorem readKeywordQuery_serialize (terms : List String)
    (h : ∀ term ∈ terms, Recognisable (normalizeTerm term)) :
    readKeywordQuery (serializeKeywordQuery terms) = some (terms.map normalizeTerm) := by
  have hlist : (serializeKeywordQuery terms).toList = List.intercalate [' ']
      ((terms.map normalizeTerm).map fun clean => (serializeTerm clean).toList) := by
    unfold serializeKeywordQuery
    rw [String.toList_intercalate, List.map_map, List.map_map]
    rfl
  unfold readKeywordQuery
  rw [hlist]
  cases hclean : terms.map normalizeTerm with
  | nil => rfl
  | cons first rest =>
    refine finish_foldl_read [] fun clean hmem => ?_
    rw [← hclean, List.mem_map] at hmem
    obtain ⟨term, hterm, rfl⟩ := hmem
    exact h term hterm

/-- A phrase with a quote and a backslash in it, and two words. -/
theorem readKeywordQuery_serialize_phrase :
    serializeKeywordQuery ["数据 \"开发\"", "C++", " a\\b "] = "\"数据 \\\"开发\\\"\" C++ a\\b" ∧
      readKeywordQuery (serializeKeywordQuery ["数据 \"开发\"", "C++", " a\\b "]) =
        some (["数据 \"开发\"", "C++", " a\\b "].map normalizeTerm) :=
  ⟨by decide +kernel, readKeywordQuery_serialize _ (by decide +kernel)⟩

/-- A word that begins with a quote is taken for the beginning of a phrase. -/
example : serializeKeywordQuery ["\"a", "b\""] = serializeKeywordQuery ["a b"] := by decide +kernel

end SeekTalent.QueryPlanning
