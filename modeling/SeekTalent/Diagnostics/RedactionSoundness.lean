import SeekTalent.Diagnostics.RedactionPrivacy
import SeekTalent.Diagnostics.RedactionSpec

/-!
# What a projection holds

A redaction is admissible and has nothing left to omit, so a projection is its own projection
(`projectDiagnostics_again`), and every value that can be reached in it meets the part of the
allowlist it is reached with: its scalars meet their contracts and its keys are allowlisted and not
sensitive (`projectDiagnostics_reaches`).
-/

namespace SeekTalent.Diagnostics

open Foundation

variable {depth : Nat} {path : String} {v : DiagnosticValue}

/-! ## Redacting again -/

/-- Redacting does not make a mapping longer. -/
lemma length_redactMembers_le (a : List (Option String × DiagnosticValue))
    (fields : List (Option String × Allowlist)) : (redactMembers a fields).length ≤ a.length := by
  induction a with
  | nil => exact le_rfl
  | cons member rest ih =>
    obtain ⟨key, v⟩ := member
    cases key with
    | none => exact ih.trans (Nat.le_succ _)
    | some key =>
      rw [redactMembers]
      cases fieldVerdict fields key with
      | omitted rule => exact ih.trans (Nat.le_succ _)
      | kept child => exact Nat.succ_le_succ ih

/-- Redacting keeps the length of a sequence. -/
lemma length_redactItems (a : List DiagnosticValue) (children : List Allowlist) :
    (redactItems a children).length = a.length := by
  induction a with
  | nil => rfl
  | cons v rest ih => rw [redactItems, List.length_cons, List.length_cons, ih]

/-- A contract redacts nothing. -/
lemma redact_contract (v : DiagnosticValue) (contract : ScalarContract) :
    redact v (.contract contract) = v := by
  cases v <;> rfl

/-- A contract omits nothing. -/
lemma omitted_contract (v : DiagnosticValue) (contract : ScalarContract) (path : String) :
    omitted v (.contract contract) path = [] := by
  cases v <;> rfl

/-- What a contract admits. -/
lemma admissible_contract (v : DiagnosticValue) (contract : ScalarContract) (depth : Nat) :
    admissible v (.contract contract) depth = (decide (depth ≤ 3) && meetsContract contract v) := by
  cases v <;> rfl

mutual

/-- A redaction may be projected, is its own redaction and has nothing left to omit. -/
theorem redact_stable : (v : DiagnosticValue) → (allowlist : Allowlist) → (depth : Nat) →
    (path : String) → admissible v allowlist depth = true →
    admissible (redact v allowlist) allowlist depth = true ∧
      redact (redact v allowlist) allowlist = redact v allowlist ∧
      omitted (redact v allowlist) allowlist path = []
  | v, .contract contract, depth, path, h => by
    rw [redact_contract, redact_contract, omitted_contract]
    exact ⟨h, rfl, rfl⟩
  | .mapping a, .mapping fields, depth, path, h => by
    simp only [admissible, Bool.and_eq_true, decide_eq_true_eq] at h
    obtain ⟨⟨hdepth, hsize⟩, hmembers⟩ := h
    obtain ⟨hadm, hredact, homitted⟩ := redactMembers_stable a fields (depth + 1) path hmembers
    have hlength := length_redactMembers_le a fields
    simp only [redact, omitted, admissible, Bool.and_eq_true, decide_eq_true_eq]
    exact ⟨⟨⟨hdepth, hlength.trans hsize⟩, hadm⟩, congrArg DiagnosticValue.mapping hredact,
      homitted⟩
  | .sequence a, .sequence children, depth, path, h => by
    simp only [admissible, Bool.and_eq_true, decide_eq_true_eq] at h
    obtain ⟨⟨hdepth, hsize⟩, hitems⟩ := h
    obtain ⟨hadm, hredact, homitted⟩ :=
      redactItems_stable a children (depth + 1) (path ++ ".<item>") hitems
    simp only [redact, omitted, admissible, Bool.and_eq_true, decide_eq_true_eq, length_redactItems]
    exact ⟨⟨⟨hdepth, hsize⟩, hadm⟩, congrArg DiagnosticValue.sequence hredact, homitted⟩
  | .mapping _, .sequence _, _, _, h => by cases h
  | .mapping _, .other, _, _, h => by cases h
  | .sequence _, .mapping _, _, _, h => by cases h
  | .sequence _, .other, _, _, h => by cases h
  | .boolean _, .mapping _, _, _, h => by cases h
  | .boolean _, .sequence _, _, _, h => by cases h
  | .boolean _, .other, _, _, h => by cases h
  | .integer _, .mapping _, _, _, h => by cases h
  | .integer _, .sequence _, _, _, h => by cases h
  | .integer _, .other, _, _, h => by cases h
  | .text _, .mapping _, _, _, h => by cases h
  | .text _, .sequence _, _, _, h => by cases h
  | .text _, .other, _, _, h => by cases h
  | .other, .mapping _, _, _, h => by cases h
  | .other, .sequence _, _, _, h => by cases h
  | .other, .other, _, _, h => by cases h

/-- The same for members. -/
theorem redactMembers_stable : (a : List (Option String × DiagnosticValue)) →
    (fields : List (Option String × Allowlist)) → (depth : Nat) → (path : String) →
    admissibleMembers a fields depth = true →
    admissibleMembers (redactMembers a fields) fields depth = true ∧
      redactMembers (redactMembers a fields) fields = redactMembers a fields ∧
      omittedMembers (redactMembers a fields) fields path = []
  | [], _, _, _, _ => ⟨rfl, rfl, rfl⟩
  | (none, _) :: _, _, _, _, h => by cases h
  | (some key, v) :: rest, fields, depth, path, h => by
    rw [admissibleMembers, Bool.and_eq_true] at h
    obtain ⟨hadm, hredact, homitted⟩ := redactMembers_stable rest fields depth path h.2
    cases hverdict : fieldVerdict fields key with
    | omitted rule =>
      rw [redactMembers]
      simp only [hverdict]
      exact ⟨hadm, hredact, homitted⟩
    | kept child =>
      rw [hverdict] at h
      obtain ⟨hadm', hredact', homitted'⟩ := redact_stable v child depth (safePath path) h.1
      simp only [redactMembers, omittedMembers, admissibleMembers, hverdict, hadm, hredact,
        homitted, hadm', hredact', homitted', Bool.and_self, List.append_nil, and_self]

/-- The same for items. -/
theorem redactItems_stable : (a : List DiagnosticValue) → (children : List Allowlist) →
    (depth : Nat) → (path : String) → admissibleItems a children depth = true →
    admissibleItems (redactItems a children) children depth = true ∧
      redactItems (redactItems a children) children = redactItems a children ∧
      omittedItems (redactItems a children) children path = []
  | [], _, _, _, _ => ⟨rfl, rfl, rfl⟩
  | _ :: _, [], _, _, h => by cases h
  | v :: rest, child :: more, depth, path, h => by
    rw [admissibleItems, Bool.and_eq_true] at h
    obtain ⟨hadm, hredact, homitted⟩ := redactItems_stable rest (child :: more) depth path h.2
    obtain ⟨hadm', hredact', homitted'⟩ := redact_stable v child depth path h.1
    simp only [redactItems, omittedItems, admissibleItems, List.head?_cons, hadm, hredact, homitted,
      hadm', hredact', homitted', Bool.and_self, List.append_nil, and_self]

end

/-- A projection is projected to itself, with nothing omitted. -/
theorem projectDiagnostics_again {payload : DiagnosticValue} {allowlist : Allowlist}
    {p : DiagnosticsProjection} (h : projectDiagnostics payload allowlist = .ok p) :
    projectDiagnostics p.value allowlist = .ok ⟨p.value, 0, []⟩ := by
  obtain ⟨hfields, hvalid, hadm, hn, hk, hvalue, -, -⟩ :=
    (projectDiagnostics_eq_ok_iff payload allowlist p).mp h
  obtain ⟨hadm', hredact, homitted⟩ := redact_stable payload allowlist 0 "root" hadm
  rw [hvalue, projectDiagnostics_eq_ok_iff]
  unfold fieldCount at hk ⊢
  rw [hredact, homitted]
  exact ⟨hfields, hvalid, hadm', hn, (Nat.add_le_add_left (Nat.zero_le _) _).trans hk, rfl, rfl,
    rfl⟩

theorem projectDiagnostics_again_prompt :
    projectDiagnostics (.mapping [(some "safe_count", .integer 2)])
        (.mapping [(some "safe_count", .contract ⟨.nonNegativeInteger, []⟩)]) =
      .ok ⟨.mapping [(some "safe_count", .integer 2)], 0, []⟩ :=
  @projectDiagnostics_again
    (.mapping [(some "Prompt", .text "Find a VP"), (some "safe_count", .integer 2)])
    (.mapping [(some "safe_count", .contract ⟨.nonNegativeInteger, []⟩)])
    ⟨.mapping [(some "safe_count", .integer 2)], 1,
      [⟨"business_content_field", "root.<redacted-field>", 1⟩]⟩ rfl

/-! ## Sensitive words -/

/-- The words that no key of a projection contains. -/
def sensitiveWords : List String :=
  ["prompt", "resume", "candidate", "company", "school", "observed_provider_account_subject",
    "account_subject", "email", "phone", "dom", "html", "screenshot", "download", "clipboard",
    "ip_address", "ssid", "proxy", "certificate_subject", "hostname", "username", "user_name",
    "absolute_path", "home_path", "workspace_path", "profile_path", "chrome_profile", "sqlite",
    "database", "stdout", "stderr", "raw_log", "exception_detail", "exception_message",
    "process_env", "command_line"]

/-- Each of the words stands by itself in one of the patterns. -/
lemma sensitiveWords_alternative : ∀ word ∈ sensitiveWords,
    ∃ entry ∈ sensitiveKeyPatterns, (Pattern.word word).isAlternativeOf entry.1 = true := by
  decide +kernel

/-- A key that no pattern matches contains none of the words, in any case. -/
lemma word_not_infix_of_sensitiveKeyRule {key word : String} (hkey : sensitiveKeyRule key = none)
    (hword : word ∈ sensitiveWords) : ¬ word.toList <:+: key.toList.map foldCase := by
  intro hinfix
  obtain ⟨entry, hentry, halternative⟩ := sensitiveWords_alternative word hword
  have hfound : entry.1.search foldCase key = true :=
    Pattern.search_of_isAlternativeOf halternative ((Pattern.search_word_iff word key).mpr hinfix)
  rw [sensitiveKeyRule, Option.map_eq_none_iff, List.find?_eq_none] at hkey
  exact hkey entry hentry hfound

/-! ## What can be reached -/

/-- A value inside a value, with the part of the allowlist that it is looked at with. -/
inductive Reaches : DiagnosticValue → Allowlist → DiagnosticValue → Allowlist → Prop
  | whole (v : DiagnosticValue) (allowlist : Allowlist) : Reaches v allowlist v allowlist
  | field {members : List (Option String × DiagnosticValue)}
      {fields : List (Option String × Allowlist)}
      {key : String} {child v : DiagnosticValue} {next allowlist : Allowlist}
      (hmember : (some key, child) ∈ members) (hfield : fields.lookup (some key) = some next)
      (hinner : Reaches child next v allowlist) :
      Reaches (.mapping members) (.mapping fields) v allowlist
  | item {items : List DiagnosticValue} {more : List Allowlist} {child v : DiagnosticValue}
      {next allowlist : Allowlist} (hitem : child ∈ items)
      (hinner : Reaches child next v allowlist) :
      Reaches (.sequence items) (.sequence (next :: more)) v allowlist

/-- A value meets the part of the allowlist it is looked at with: a scalar meets its contract, a
mapping has allowlisted keys that no sensitive-key pattern matches and that contain none of the
words, a sequence stands where one may stand. -/
def Meets (v : DiagnosticValue) : Allowlist → Prop
  | .contract contract => meetsContract contract v = true
  | .mapping fields => ∃ members, v = .mapping members ∧ ∀ member ∈ members, ∃ key next,
      member.1 = some key ∧ fields.lookup (some key) = some next ∧ sensitiveKeyRule key = none ∧
      ∀ word ∈ sensitiveWords, ¬ word.toList <:+: key.toList.map foldCase
  | .sequence _ => ∃ items, v = .sequence items
  | .other => False

/-- What a kept field is. -/
lemma fieldVerdict_eq_kept_iff {fields : List (Option String × Allowlist)} {key : String}
    {child : Allowlist} : fieldVerdict fields key = .kept child ↔
      sensitiveKeyRule key = none ∧ fields.lookup (some key) = some child := by
  unfold fieldVerdict
  cases sensitiveKeyRule key with
  | some rule => simp
  | none => cases fields.lookup (some key) <;> simp

/-- Every member of a mapping with nothing to omit is kept. -/
lemma kept_of_mem {a : List (Option String × DiagnosticValue)}
    {fields : List (Option String × Allowlist)}
    (hadm : admissibleMembers a fields depth = true)
    (homitted : omittedMembers a fields path = []) {member : Option String × DiagnosticValue}
    (hmem : member ∈ a) : ∃ key child, member.1 = some key ∧ fieldVerdict fields key = .kept child ∧
      admissible member.2 child depth = true ∧ omitted member.2 child (safePath path) = [] := by
  induction a with
  | nil => cases hmem
  | cons head rest ih =>
    obtain ⟨key, v⟩ := head
    cases key with
    | none => cases hadm
    | some key =>
      rw [admissibleMembers, Bool.and_eq_true] at hadm
      rw [omittedMembers] at homitted
      cases hverdict : fieldVerdict fields key with
      | omitted rule =>
        rw [hverdict] at homitted
        cases homitted
      | kept child =>
        rw [hverdict] at hadm homitted
        obtain ⟨hinner, hrest⟩ := List.append_eq_nil_iff.mp homitted
        rcases List.mem_cons.mp hmem with rfl | hmem
        · exact ⟨key, child, rfl, hverdict, hadm.1, hinner⟩
        · exact ih hadm.2 hrest hmem

/-- Every item of a sequence with nothing to omit may be projected and has nothing to omit. -/
lemma admissible_of_mem {a : List DiagnosticValue} {child : Allowlist} {more : List Allowlist}
    (hadm : admissibleItems a (child :: more) depth = true)
    (homitted : omittedItems a (child :: more) path = []) (hmem : v ∈ a) :
    admissible v child depth = true ∧ omitted v child path = [] := by
  induction a with
  | nil => cases hmem
  | cons head rest ih =>
    rw [admissibleItems, Bool.and_eq_true] at hadm
    obtain ⟨hinner, hrest⟩ := List.append_eq_nil_iff.mp homitted
    rcases List.mem_cons.mp hmem with rfl | hmem
    · exact ⟨hadm.1, hinner⟩
    · exact ih hadm.2 hrest hmem

/-- A value that may be projected with nothing omitted meets its allowlist. -/
lemma meets_of_admissible {allowlist : Allowlist}
    (hadm : admissible v allowlist depth = true) (homitted : omitted v allowlist path = []) :
    Meets v allowlist := by
  cases allowlist with
  | contract contract =>
    rw [admissible_contract, Bool.and_eq_true] at hadm
    exact hadm.2
  | mapping fields =>
    cases v with
    | mapping members =>
      rw [admissible, Bool.and_eq_true] at hadm
      refine ⟨members, rfl, fun member hmem => ?_⟩
      obtain ⟨key, child, hkey, hverdict, -, -⟩ := kept_of_mem hadm.2 homitted hmem
      obtain ⟨hrule, hlookup⟩ := fieldVerdict_eq_kept_iff.mp hverdict
      exact ⟨key, child, hkey, hlookup, hrule, fun word => word_not_infix_of_sensitiveKeyRule hrule⟩
    | _ => cases hadm
  | sequence children =>
    cases v with
    | sequence items => exact ⟨items, rfl⟩
    | _ => cases hadm
  | other => cases v <;> cases hadm

/-- What can be reached in a value that may be projected with nothing omitted meets its part of the
allowlist. -/
lemma meets_of_reaches {w : DiagnosticValue} {allowlist part : Allowlist}
    (h : Reaches v allowlist w part) : ∀ (depth : Nat) (path : String),
      admissible v allowlist depth = true → omitted v allowlist path = [] → Meets w part := by
  induction h with
  | whole v allowlist => exact fun depth path hadm homitted => meets_of_admissible hadm homitted
  | field hmember hfield hinner ih =>
    intro depth path hadm homitted
    rw [admissible, Bool.and_eq_true] at hadm
    obtain ⟨key, child, hkey, hverdict, hadm', homitted'⟩ := kept_of_mem hadm.2 homitted hmember
    cases hkey
    obtain ⟨-, hlookup⟩ := fieldVerdict_eq_kept_iff.mp hverdict
    obtain rfl := Option.some.inj (hfield.symm.trans hlookup)
    exact ih _ _ hadm' homitted'
  | item hitem hinner ih =>
    intro depth path hadm homitted
    rw [admissible, Bool.and_eq_true] at hadm
    obtain ⟨hadm', homitted'⟩ := admissible_of_mem hadm.2 homitted hitem
    exact ih _ _ hadm' homitted'

/-- Every value that can be reached in a projection meets the part of the allowlist that it is
reached with. -/
theorem projectDiagnostics_reaches {payload v : DiagnosticValue} {allowlist part : Allowlist}
    {p : DiagnosticsProjection} (h : projectDiagnostics payload allowlist = .ok p)
    (hreach : Reaches p.value allowlist v part) : Meets v part := by
  obtain ⟨-, -, hadm, -, -, hvalue, -, -⟩ := (projectDiagnostics_eq_ok_iff payload allowlist p).mp h
  obtain ⟨hadm', -, homitted⟩ := redact_stable payload allowlist 0 "root" hadm
  rw [hvalue] at hreach
  exact meets_of_reaches hreach 0 "root" hadm' homitted

/-- The count of the second entry of a list of lanes, in a projection that omits the prompt of the
first. -/
theorem projectDiagnostics_reaches_prompt :
    Meets (.integer 2) (.contract ⟨.nonNegativeInteger, []⟩) :=
  @projectDiagnostics_reaches
    (.mapping [(some "lanes", .sequence [
      .mapping [(some "Prompt", .text "Find a VP"), (some "safe_count", .integer 1)],
      .mapping [(some "safe_count", .integer 2)]])])
    (.integer 2)
    (.mapping [(some "lanes",
      .sequence [(.mapping [(some "safe_count", .contract ⟨.nonNegativeInteger, []⟩)])])])
    (.contract ⟨.nonNegativeInteger, []⟩)
    ⟨.mapping [(some "lanes", .sequence [.mapping [(some "safe_count", .integer 1)],
      .mapping [(some "safe_count", .integer 2)]])], 1,
      [⟨"business_content_field", "root.<field>.<item>.<redacted-field>", 1⟩]⟩ rfl
    (.field (List.mem_singleton.mpr rfl) rfl
      (.item (List.mem_cons_of_mem _ (List.mem_singleton.mpr rfl))
      (.field (List.mem_singleton.mpr rfl) rfl (.whole _ _))))

end SeekTalent.Diagnostics
