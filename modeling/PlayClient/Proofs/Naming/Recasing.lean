import PlayClient.Proofs.Naming.Identifier
import PlayClient.Proofs.Text.Pieces

set_option autoImplicit false

namespace PlayClient.Naming

-- What a style makes of the letter or digit that starts a name.
def NameStyle.letter : NameStyle → Char → Char
  | .term, c => c.toLower
  | .type, c => c.toUpper

/-! ## First letters -/

theorem recase_letter (style : NameStyle) (c : Char) (rest : List Char) (word : isWordChar c = true) :
    style.recase (c :: rest) = style.letter c :: rest := by
  have small := Text.word_char_ascii c word
  cases style with
  | term => simp [NameStyle.recase, NameStyle.letter, Text.decapitalize, Text.lower, small]
  | type => simp [NameStyle.recase, NameStyle.letter, Text.capitalize, Text.upper, small]

-- The later of two styles decides.
theorem letter_over (style other : NameStyle) (c : Char) (word : isWordChar c = true) :
    style.letter (other.letter c) = style.letter c := by
  have small := Text.word_char_ascii c word
  refine Text.ascii_forall (fun c => style.letter (other.letter c) = style.letter c) ?_ c small
  cases style <;> cases other <;> decide

theorem letter_word_char (style : NameStyle) (c : Char) (word : isWordChar c = true) :
    isWordChar (style.letter c) = true := by
  have small := Text.word_char_ascii c word
  refine Text.ascii_forall (fun c => isWordChar c = true → isWordChar (style.letter c) = true) ?_ c small word
  cases style <;> decide

theorem letter_digit (style : NameStyle) (c : Char) (word : isWordChar c = true) :
    (style.letter c).isDigit = c.isDigit := by
  have small := Text.word_char_ascii c word
  cases style with
  | term => exact Text.ascii_forall (fun c => c.toLower.isDigit = c.isDigit) (by decide) c small
  | type => exact Text.ascii_forall (fun c => c.toUpper.isDigit = c.isDigit) (by decide) c small

/-! ## Words of names -/

theorem words_lone (word : List Char) (valid : IsWord word) : words word = [word] := by
  have whole := Text.pieces_lone (fun c => !isWordChar c) word (fun c member => by simp [valid.2 c member])
  rw [words, whole]
  exact List.filter_cons_of_pos (decide_eq_true valid.1)

theorem words_cut (left right : List Char) (c : Char) (cut : isWordChar c = false) :
    words (left ++ c :: right) = words left ++ words right := by
  rw [words, Text.pieces_append _ left right c (by simp [cut]), List.filter_append]
  rfl

-- A name starts with the first letter or digit of its text, in the case of its style.
theorem camel_case_opens (style : NameStyle) (text : String) (some : ∃ c ∈ text.toList, isWordChar c = true) :
    ∃ c rest, text.toList.find? isWordChar = .some c ∧ isWordChar c = true ∧
      (camelCase style text).toList = style.letter c :: rest := by
  have flat := words_flatten text.toList
  cases parts : words text.toList with
  | nil => exact absurd parts (words_filled _ some)
  | cons first others =>
      have valid := words_are_words text.toList first (by simp [parts])
      cases first with
      | nil => exact absurd rfl valid.1
      | cons c rest =>
          have letter := valid.2 c List.mem_cons_self
          refine ⟨c, rest ++ others.flatMap Text.capitalize, ?_, letter, ?_⟩
          · rw [← List.head?_filter, ← flat, parts]
            rfl
          · rw [camelCase, String.toList_ofList, parts, joinWords, recase_letter style c rest letter]
            rfl

theorem camel_case_of_word (style : NameStyle) (text : String) (valid : IsWord text.toList) :
    camelCase style text = String.ofList (style.recase text.toList) := by
  rw [camelCase, words_lone _ valid, joinWords, List.flatMap_nil, List.append_nil]

theorem recase_joined (style other : NameStyle) (parts : List (List Char)) (valid : ∀ word ∈ parts, IsWord word) :
    style.recase (joinWords other parts) = joinWords style parts := by
  cases parts with
  | nil => cases style <;> rfl
  | cons first others =>
      have word := valid first List.mem_cons_self
      cases first with
      | nil => exact absurd rfl word.1
      | cons c rest =>
          have letter := word.2 c List.mem_cons_self
          rw [joinWords, joinWords, recase_letter other c rest letter, recase_letter style c rest letter, List.cons_append,
            recase_letter style _ _ (letter_word_char other c letter), letter_over style other c letter]
          rfl

theorem camel_case_recased (style other : NameStyle) (text : String) :
    String.ofList (style.recase (camelCase other text).toList) = camelCase style text := by
  rw [camelCase, String.toList_ofList, recase_joined style other _ (words_are_words text.toList)]
  rfl

theorem camel_case_again (style : NameStyle) (text : String) (some : ∃ c ∈ text.toList, isWordChar c = true) :
    camelCase style (camelCase style text) = camelCase style text := by
  rw [camel_case_of_word style _ (camel_case_word style text some), camel_case_recased]

/-! ## Names that are normalized again -/

-- The placeholder is the one name that does not stay: its mark is a separator.
theorem base_name_again_iff (style : NameStyle) (raw : String) :
    baseName style (baseName style raw) = baseName style raw ↔ ∃ c ∈ raw.toList, isWordChar c = true := by
  constructor
  · intro same
    by_contra bare
    have none : ∀ c ∈ raw.toList, isWordChar c = false := by simpa using bare
    rw [base_name_empty style raw none] at same
    have letter := (base_name_empty_iff style emptyName).mp same 'e' (by decide)
    exact absurd letter (by decide)
  · intro some
    have again : ∃ c ∈ (camelCase style raw).toList, isWordChar c = true := by
      obtain ⟨c, rest, -, -, opens⟩ := camel_case_opens style raw some
      have member : style.letter c ∈ (camelCase style raw).toList := by simp [opens]
      exact ⟨_, member, camel_case_chars style raw _ member⟩
    rw [base_name_camel style raw some, base_name_camel style _ again, camel_case_again style raw some]

theorem normalize_again_iff (style : NameStyle) (reserved : List String) (raw : String) :
    (let first := normalize style reserved raw
      let again := normalize style reserved (unescaped first.normalized)
      again.normalized = first.normalized ∧ again.isEscaped = first.isEscaped) ↔
      ∃ c ∈ raw.toList, isWordChar c = true := by
  dsimp only
  rw [normalize_unescaped, normalized_eq_iff, ← base_name_again_iff style raw]
  constructor
  · rintro ⟨same, -⟩
    exact same
  · intro same
    refine ⟨same, ?_⟩
    rw [Bool.eq_iff_iff, normalize_escapes_iff, normalize_escapes_iff, same]

end PlayClient.Naming
