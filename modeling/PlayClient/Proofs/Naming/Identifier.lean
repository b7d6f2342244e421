import PlayClient.Naming.Identifier
import PlayClient.Proofs.Naming.Words

set_option autoImplicit false

namespace PlayClient.Naming

-- Identifiers that need no back quotes. Unlike the test that decides on
-- escaping, the grammar lets no line feed pass after them.
def IsPlainName (name : String) : Prop :=
  ∃ c rest, name.toList = c :: rest ∧ isIdentifierStart c = true ∧ ∀ d ∈ rest, isIdentifierPart d = true

def StartsWithDigit (name : String) : Prop := ∃ c, name.toList.head? = some c ∧ c.isDigit = true

def IsEscaped (text : String) : Prop := ∃ name, text = escaped name

-- What a name in generated code has to be.
def IsEmitted (reserved : List String) (text : String) : Prop :=
  IsPlainName text ∧ text ∉ reserved ∨ IsEscaped text

def isLineBreak (c : Char) : Bool :=
  Text.inRanges [(0xA, 0xD), (0x1C, 0x1E), (0x85, 0x85), (0x2028, 0x2029)] c

theorem word_char_part (c : Char) (word : isWordChar c = true) : isIdentifierPart c = true := by
  rw [isIdentifierPart, show c.isAlphanum = true from word]
  rfl

theorem identifier_part_ascii (c : Char) (part : isIdentifierPart c = true) : c.toNat < 128 := by
  simp only [isIdentifierPart, Bool.or_eq_true, beq_iff_eq] at part
  rcases part with (word | rfl) | rfl
  · exact Text.word_char_ascii c word
  · decide
  · decide

theorem identifier_part_start (c : Char) (part : isIdentifierPart c = true) :
    isIdentifierStart c = true ↔ c.isDigit = false :=
  Text.ascii_forall (fun c => isIdentifierPart c = true → (isIdentifierStart c = true ↔ c.isDigit = false))
    (by decide) c (identifier_part_ascii c part) part

theorem identifier_part_safe (c : Char) (part : isIdentifierPart c = true) :
    c ≠ escapeMark ∧ isLineBreak c = false :=
  Text.ascii_forall (fun c => isIdentifierPart c = true → c ≠ escapeMark ∧ isLineBreak c = false)
    (by decide) c (identifier_part_ascii c part) part

/-! ## Names before they are escaped -/

theorem camel_case_filled (style : NameStyle) (raw : String) (some : ∃ c ∈ raw.toList, isWordChar c = true) :
    camelCase style raw ≠ "" := by
  intro empty
  exact (camel_case_word style raw some).1 (by rw [empty]; rfl)

theorem base_name_camel (style : NameStyle) (raw : String) (some : ∃ c ∈ raw.toList, isWordChar c = true) :
    baseName style raw = camelCase style raw := by
  rw [baseName, if_neg (camel_case_filled style raw some)]

theorem base_name_word (style : NameStyle) (raw : String) (some : ∃ c ∈ raw.toList, isWordChar c = true) :
    IsWord (baseName style raw).toList := by
  rw [base_name_camel style raw some]
  exact camel_case_word style raw some

theorem base_name_empty (style : NameStyle) (raw : String) (none : ∀ c ∈ raw.toList, isWordChar c = false) :
    baseName style raw = emptyName := by
  rw [baseName, camel_case_empty style raw none]
  rfl

theorem empty_name_no_word : ¬ IsWord emptyName.toList := by
  intro word
  have letter := word.2 '_' (by decide)
  exact absurd letter (by decide)

theorem base_name_parts (style : NameStyle) (raw : String) :
    (baseName style raw).toList ≠ [] ∧ ∀ c ∈ (baseName style raw).toList, isIdentifierPart c = true := by
  by_cases some : ∃ c ∈ raw.toList, isWordChar c = true
  · have word := base_name_word style raw some
    exact ⟨word.1, fun c member => word_char_part c (word.2 c member)⟩
  · have none : ∀ c ∈ raw.toList, isWordChar c = false := by simpa using some
    rw [base_name_empty style raw none]
    exact ⟨by decide, List.all_eq_true.mp (by decide)⟩

theorem base_name_empty_iff (style : NameStyle) (raw : String) :
    baseName style raw = emptyName ↔ ∀ c ∈ raw.toList, isWordChar c = false := by
  constructor
  · intro empty c member
    refine Bool.eq_false_iff.mpr (fun letter => empty_name_no_word ?_)
    rw [← empty]
    exact base_name_word style raw ⟨c, member, letter⟩
  · exact base_name_empty style raw

theorem base_name_kinds (style : NameStyle) (raw : String) :
    IsWord (baseName style raw).toList ∨ baseName style raw = emptyName := by
  by_cases empty : baseName style raw = emptyName
  · exact Or.inr empty
  · rw [base_name_empty_iff] at empty
    exact Or.inl (base_name_word style raw (by simpa using empty))

/-! ## Escaping -/

theorem unescape_escaped (name : String) : unescaped (escaped name) = name := by
  have chars : (escaped name).toList = escapeMark :: (name.toList ++ [escapeMark]) := by
    simp [escaped]
  simp [unescaped, chars, unescapeChars]

theorem unescape_bare (name : String) (bare : ∀ c ∈ name.toList, c ≠ escapeMark) : unescaped name = name := by
  have same : unescapeChars name.toList = name.toList := by
    cases chars : name.toList with
    | nil => rfl
    | cons c rest =>
        have first : c ≠ escapeMark := bare c (by simp [chars])
        simp [unescapeChars, first]
  rw [unescaped, same, String.ofList_toList]

theorem is_plain_dropped (name : String) :
    isPlain name = true ↔ IsPlainName (String.ofList (Text.dropFinalLineFeed name.toList)) := by
  rw [isPlain, IsPlainName, String.toList_ofList]
  cases Text.dropFinalLineFeed name.toList with
  | nil => simp
  | cons c rest =>
      rw [Bool.and_eq_true, List.all_eq_true]
      constructor
      · intro plain
        exact ⟨c, rest, rfl, plain⟩
      · intro plain
        obtain ⟨first, others, same, parts⟩ := plain
        cases same
        exact parts

theorem is_plain_line_feed (body : String) : isPlain (body ++ "\n") = true ↔ IsPlainName body := by
  have dropped : Text.dropFinalLineFeed (body ++ "\n").toList = body.toList := by
    simp [Text.dropFinalLineFeed]
  rw [is_plain_dropped, dropped, String.ofList_toList]

-- The test and the grammar differ only on names that end in a line feed.
theorem is_plain_unended (name : String) (unended : ∀ body, name ≠ body ++ "\n") :
    isPlain name = true ↔ IsPlainName name := by
  have kept : Text.dropFinalLineFeed name.toList = name.toList := by
    apply if_neg
    intro last
    obtain ⟨front, whole⟩ := List.getLast?_eq_some_iff.mp last
    apply unended (String.ofList front)
    apply String.toList_inj.mp
    simpa using whole
  rw [is_plain_dropped, kept, String.ofList_toList]

theorem is_plain_iff (name : String) (unbroken : ∀ c ∈ name.toList, isLineBreak c = false) :
    isPlain name = true ↔ IsPlainName name := by
  apply is_plain_unended
  intro body same
  have broken := unbroken '\n' (by simp [same])
  exact absurd broken (by decide)

theorem identifier_part_iff (c : Char) :
    isIdentifierPart c = true ↔ c.isAlpha = true ∨ c.isDigit = true ∨ c = '_' ∨ c = '$' := by
  simp [isIdentifierPart, Char.isAlphanum, or_assoc]

theorem identifier_start_is_part (c : Char) (start : isIdentifierStart c = true) : isIdentifierPart c = true := by
  have letter : c.isAlpha = true ∨ c = '_' ∨ c = '$' := by simpa [isIdentifierStart, or_assoc] using start
  exact (identifier_part_iff c).mpr (letter.imp_right Or.inr)

theorem plain_name_parts (name : String) (plain : IsPlainName name) :
    name.toList ≠ [] ∧ ∀ c ∈ name.toList, isIdentifierPart c = true := by
  obtain ⟨first, rest, chars, start, parts⟩ := plain
  rw [chars, List.forall_mem_cons]
  exact ⟨List.cons_ne_nil first rest, identifier_start_is_part first start, parts⟩

theorem plain_name_iff (name : String) (filled : name.toList ≠ [])
    (parts : ∀ c ∈ name.toList, isIdentifierPart c = true) : IsPlainName name ↔ ¬ StartsWithDigit name := by
  cases chars : name.toList with
  | nil => exact absurd chars filled
  | cons c rest =>
      rw [chars, List.forall_mem_cons] at parts
      have start := identifier_part_start c parts.1
      constructor
      · rintro ⟨first, others, same, plain, -⟩ ⟨d, head, digit⟩
        cases chars.symm.trans same
        have equal : c = d := by simpa [chars] using head
        subst equal
        simp [start.mp plain] at digit
      · intro noDigit
        refine ⟨c, rest, chars, start.mpr ?_, parts.2⟩
        exact Bool.eq_false_iff.mpr (fun digit => noDigit ⟨c, by rw [chars]; rfl, digit⟩)

theorem starts_with_digit_cons (text : String) (c : Char) (rest : List Char) (chars : text.toList = c :: rest) :
    StartsWithDigit text ↔ c.isDigit = true := by
  simp [StartsWithDigit, chars]

theorem word_not_escaped (text : String) (valid : IsWord text.toList) : ¬ IsEscaped text := by
  rintro ⟨name, same⟩
  have mark : escapeMark ∈ text.toList := by simp [same, escaped]
  exact absurd (valid.2 _ mark) (by decide)

theorem word_emitted_iff (reserved : List String) (text : String) (valid : IsWord text.toList) :
    IsEmitted reserved text ↔ ¬ StartsWithDigit text ∧ text ∉ reserved := by
  have parts := fun c member => word_char_part c (valid.2 c member)
  rw [IsEmitted, or_iff_left (word_not_escaped text valid), plain_name_iff text valid.1 parts]

/-! ## The test for plain names -/

-- The grammar, said of the name as a whole.
theorem plain_name_spelled (name : String) :
    IsPlainName name ↔
      name ≠ "" ∧ (∀ c ∈ name.toList, c.isAlpha = true ∨ c.isDigit = true ∨ c = '_' ∨ c = '$') ∧
        ¬StartsWithDigit name := by
  simp only [← identifier_part_iff]
  constructor
  · intro plain
    obtain ⟨filled, parts⟩ := plain_name_parts name plain
    exact ⟨by simpa using filled, parts, (plain_name_iff name filled parts).mp plain⟩
  · intro spelled
    obtain ⟨filled, parts, no_digit⟩ := spelled
    exact (plain_name_iff name (by simpa using filled) parts).mpr no_digit

theorem plain_name_no_line_feed (name body : String) (plain : IsPlainName name) : name ≠ body ++ "\n" := by
  intro same
  have part := (plain_name_parts name plain).2 '\n' (by simp [same])
  exact absurd part (by decide)

-- A name passes with a line feed after it as well, and that is all that the test lets pass
-- beyond the grammar.
theorem plain_test_iff (name : String) :
    (isPlain name = true ↔ IsPlainName name ∨ ∃ body, IsPlainName body ∧ name = body ++ "\n") ∧
      (IsPlainName name ↔
        name ≠ "" ∧ (∀ c ∈ name.toList, c.isAlpha = true ∨ c.isDigit = true ∨ c = '_' ∨ c = '$') ∧
          ¬StartsWithDigit name) ∧
      ((isPlain name = true ↔ IsPlainName name) ↔ ¬∃ body, IsPlainName body ∧ name = body ++ "\n") := by
  have passes : isPlain name = true ↔ IsPlainName name ∨ ∃ body, IsPlainName body ∧ name = body ++ "\n" := by
    by_cases ends : ∃ body, name = body ++ "\n"
    · obtain ⟨body, whole⟩ := ends
      have broken : ¬IsPlainName name := fun plain => plain_name_no_line_feed name body plain whole
      have only (other : String) : name = other ++ "\n" ↔ other = body := by
        rw [whole, String.append_left_inj, eq_comm]
      simp only [or_iff_right broken, only, exists_eq_right]
      rw [whole, is_plain_line_feed]
    · have unended : ∀ body, name ≠ body ++ "\n" := not_exists.mp ends
      have none : ¬∃ body, IsPlainName body ∧ name = body ++ "\n" := fun found => unended _ found.choose_spec.2
      rw [is_plain_unended name unended, or_iff_left none]
  refine ⟨passes, plain_name_spelled name, ?_⟩
  constructor
  · intro exact found
    obtain ⟨body, plain, whole⟩ := found
    exact plain_name_no_line_feed name body (exact.mp (passes.mpr (Or.inr ⟨body, plain, whole⟩))) whole
  · intro none
    rw [passes, or_iff_left none]

-- A name that passes outside the grammar.
theorem final_line_feed_passes : isPlain "a\n" = true ∧ ¬IsPlainName "a\n" :=
  ⟨by decide, fun plain => plain_name_no_line_feed "a\n" "a" plain rfl⟩

/-! ## Normalized names -/

theorem normalize_unescaped (style : NameStyle) (reserved : List String) (raw : String) :
    unescaped (normalize style reserved raw).normalized = baseName style raw := by
  have parts := (base_name_parts style raw).2
  by_cases plain : isPlain (baseName style raw) ∧ baseName style raw ∉ reserved
  · rw [normalize, if_pos plain]
    exact unescape_bare _ (fun c member => (identifier_part_safe c (parts c member)).1)
  · rw [normalize, if_neg plain]
    exact unescape_escaped _

theorem normalize_escapes_iff (style : NameStyle) (reserved : List String) (raw : String) :
    (normalize style reserved raw).isEscaped = true ↔
      ¬ (IsPlainName (baseName style raw) ∧ baseName style raw ∉ reserved) := by
  have parts := (base_name_parts style raw).2
  have decided := is_plain_iff (baseName style raw) (fun c member => (identifier_part_safe c (parts c member)).2)
  by_cases plain : isPlain (baseName style raw) ∧ baseName style raw ∉ reserved
  · rw [← decided, normalize, if_pos plain]
    simp [Identifier.plain, plain]
  · rw [← decided, normalize, if_neg plain]
    simp only [Identifier.quoted, true_iff]
    exact plain

theorem normalize_text (style : NameStyle) (reserved : List String) (raw : String) :
    (normalize style reserved raw).normalized =
      if (normalize style reserved raw).isEscaped then escaped (baseName style raw) else baseName style raw := by
  by_cases plain : isPlain (baseName style raw) ∧ baseName style raw ∉ reserved
  · simp only [normalize, if_pos plain, Identifier.plain, Bool.false_eq_true, if_false]
  · simp only [normalize, if_neg plain, Identifier.quoted, if_true]

theorem normalized_chars (style : NameStyle) (reserved : List String) (raw : String) (c : Char)
    (member : c ∈ (normalize style reserved raw).normalized.toList) :
    isIdentifierPart c = true ∨ c = escapeMark := by
  have parts := (base_name_parts style raw).2
  rw [normalize_text] at member
  cases quoted : (normalize style reserved raw).isEscaped with
  | false =>
      rw [quoted] at member
      exact Or.inl (parts c member)
  | true =>
      rw [quoted, if_pos rfl, escaped, String.toList_ofList] at member
      simp only [List.cons_append, List.mem_cons, List.mem_append, List.not_mem_nil, or_false] at member
      rcases member with mark | inside | mark
      · exact Or.inr mark
      · exact Or.inl (parts c inside)
      · exact Or.inr mark

theorem normalized_eq_iff (style : NameStyle) (reserved : List String) (raw other : String) :
    (normalize style reserved raw).normalized = (normalize style reserved other).normalized ↔
      baseName style raw = baseName style other := by
  constructor
  · intro same
    rw [← normalize_unescaped style reserved raw, same, normalize_unescaped]
  · intro same
    by_cases plain : isPlain (baseName style other) ∧ baseName style other ∉ reserved
    · simp only [normalize, same, if_pos plain, Identifier.plain]
    · simp only [normalize, same, if_neg plain, Identifier.quoted]

-- Back quotes stand around the name if anywhere.
theorem normalized_around (style : NameStyle) (reserved : List String) (raw : String) :
    ∃ marks, (∀ c ∈ marks, c = escapeMark) ∧
      (normalize style reserved raw).normalized.toList = marks ++ (baseName style raw).toList ++ marks := by
  rw [normalize_text]
  by_cases quoted : (normalize style reserved raw).isEscaped = true
  · refine ⟨[escapeMark], by simp, ?_⟩
    rw [if_pos quoted, escaped, String.toList_ofList]
    rfl
  · refine ⟨[], by simp, ?_⟩
    rw [if_neg quoted, List.nil_append, List.append_nil]

-- The name inside is chosen before the reserved words are known: they decide
-- only whether it is escaped.
theorem normalize_shape (style : NameStyle) (raw : String) :
    ∃ name, (IsWord name.toList ∨ name = emptyName) ∧
      (name = emptyName ↔ ∀ c ∈ raw.toList, isWordChar c = false) ∧
      (∀ c ∈ name.toList, c ≠ escapeMark ∧ isLineBreak c = false) ∧
      ∀ reserved, let identifier := normalize style reserved raw
        unescaped identifier.normalized = name ∧
        (identifier.isEscaped = true ↔ StartsWithDigit name ∨ name ∈ reserved) ∧
        identifier.normalized = (if identifier.isEscaped then escaped name else name) ∧
        (identifier.isEscaped = false → IsPlainName identifier.normalized ∧ identifier.normalized ∉ reserved) := by
  obtain ⟨filled, parts⟩ := base_name_parts style raw
  refine ⟨baseName style raw, ?_, base_name_empty_iff style raw,
    fun c member => identifier_part_safe c (parts c member), ?_⟩
  · by_cases some : ∃ c ∈ raw.toList, isWordChar c = true
    · exact Or.inl (base_name_word style raw some)
    · exact Or.inr (base_name_empty style raw (by simpa using some))
  · intro reserved
    have escapes := normalize_escapes_iff style reserved raw
    have text := normalize_text style reserved raw
    refine ⟨normalize_unescaped style reserved raw, ?_, text, ?_⟩
    · rw [escapes, plain_name_iff _ filled parts]
      exact Classical.not_and_iff_not_or_not.trans (or_congr Classical.not_not Classical.not_not)
    · intro kept
      rw [kept] at escapes text
      rw [text]
      exact Classical.not_not.mp (fun bad => Bool.false_ne_true (escapes.mpr bad))

end PlayClient.Naming
