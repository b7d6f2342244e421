import PlayClient.Proofs.Text.Letters

set_option autoImplicit false

namespace PlayClient.Text

theorem push_front_flatten (c : Char) (rest : List (List Char)) :
    (pushFront c rest).flatten = c :: rest.flatten := by
  cases rest <;> rfl

theorem pieces_flatten (isSeparator : Char → Bool) (cs : List Char) :
    (pieces isSeparator cs).flatten = cs.filter (fun c => !isSeparator c) := by
  induction cs with
  | nil => rfl
  | cons c rest ih =>
      by_cases cut : isSeparator c = true
      · simp [pieces, cut, ih]
      · simp [pieces, cut, push_front_flatten, ih]

end PlayClient.Text

namespace PlayClient.Naming

def IsWord (word : List Char) : Prop := word ≠ [] ∧ ∀ c ∈ word, isWordChar c = true

theorem append_word (front back : List Char) (valid : IsWord front) (letters : ∀ c ∈ back, isWordChar c = true) :
    IsWord (front ++ back) :=
  ⟨List.append_ne_nil_of_left_ne_nil valid.1 back, List.forall_mem_append.mpr ⟨valid.2, letters⟩⟩

-- Cutting a text into words loses its separators and nothing else.
theorem words_flatten (cs : List Char) : (words cs).flatten = cs.filter isWordChar := by
  have kept : (fun c => !!isWordChar c) = isWordChar := by
    funext c
    exact Bool.not_not _
  rw [words, List.flatten_filter_ne_nil, Text.pieces_flatten, kept]

theorem words_are_words (cs : List Char) (word : List Char) (member : word ∈ words cs) : IsWord word := by
  obtain ⟨piece, filled⟩ := List.mem_filter.mp member
  refine ⟨of_decide_eq_true filled, ?_⟩
  intro c inside
  have separator := Text.separator_free_of_mem_pieces _ cs word piece c inside
  simpa using separator

theorem words_eq_nil_iff (cs : List Char) : words cs = [] ↔ ∀ c ∈ cs, isWordChar c = false := by
  constructor
  · intro none c member
    have empty : cs.filter isWordChar = [] := by rw [← words_flatten, none, List.flatten_nil]
    simpa using List.filter_eq_nil_iff.mp empty c member
  · intro bare
    have empty : (words cs).flatten = [] := by
      rw [words_flatten, List.filter_eq_nil_iff]
      simpa using bare
    apply List.eq_nil_iff_forall_not_mem.mpr
    intro word member
    exact (words_are_words cs word member).1 (List.flatten_eq_nil_iff.mp empty word member)

theorem words_filled (cs : List Char) (some : ∃ c ∈ cs, isWordChar c = true) : words cs ≠ [] := by
  intro none
  obtain ⟨c, member, letter⟩ := some
  have blank := (words_eq_nil_iff cs).mp none c member
  simp [letter] at blank

theorem head_change_word (change : Char → List Char)
    (keeps : ∀ c, isWordChar c = true → ∃ d, change c = [d] ∧ isWordChar d = true) (c : Char) (rest : List Char)
    (valid : IsWord (c :: rest)) : IsWord (change c ++ rest) := by
  obtain ⟨d, image, letter⟩ := keeps c (valid.2 c List.mem_cons_self)
  rw [image]
  refine ⟨List.cons_ne_nil d rest, ?_⟩
  intro e inside
  rcases List.mem_cons.mp inside with same | later
  · exact same ▸ letter
  · exact valid.2 e (List.mem_cons_of_mem c later)

theorem capitalize_word (word : List Char) (valid : IsWord word) : IsWord (Text.capitalize word) := by
  cases word with
  | nil => exact valid
  | cons c rest => exact head_change_word Text.upper Text.upper_word_char c rest valid

theorem decapitalize_word (word : List Char) (valid : IsWord word) : IsWord (Text.decapitalize word) := by
  cases word with
  | nil => exact valid
  | cons c rest => exact head_change_word Text.lower Text.lower_word_char c rest valid

theorem recase_word (style : NameStyle) (word : List Char) (valid : IsWord word) : IsWord (style.recase word) := by
  cases style with
  | term => exact decapitalize_word word valid
  | type => exact capitalize_word word valid

theorem join_words_word (style : NameStyle) (parts : List (List Char)) (some : parts ≠ [])
    (valid : ∀ word ∈ parts, IsWord word) : IsWord (joinWords style parts) := by
  cases parts with
  | nil => exact absurd rfl some
  | cons first rest =>
      have head := recase_word style first (valid first List.mem_cons_self)
      refine ⟨by simp [joinWords, head.1], ?_⟩
      intro c inside
      rcases List.mem_append.mp inside with early | late
      · exact head.2 c early
      · obtain ⟨word, member, within⟩ := List.mem_flatMap.mp late
        exact (capitalize_word word (valid word (List.mem_cons_of_mem first member))).2 c within

-- A name is one word, or nothing where the text has no letter or digit.
theorem camel_case_word (style : NameStyle) (text : String) (some : ∃ c ∈ text.toList, isWordChar c = true) :
    IsWord (camelCase style text).toList := by
  rw [camelCase, String.toList_ofList]
  exact join_words_word style _ (words_filled _ some) (words_are_words text.toList)

theorem camel_case_empty (style : NameStyle) (text : String) (none : ∀ c ∈ text.toList, isWordChar c = false) :
    camelCase style text = "" := by
  rw [camelCase, (words_eq_nil_iff _).mpr none]
  rfl

theorem camel_case_chars (style : NameStyle) (text : String) (c : Char) (member : c ∈ (camelCase style text).toList) :
    isWordChar c = true := by
  by_cases some : ∃ d ∈ text.toList, isWordChar d = true
  · exact (camel_case_word style text some).2 c member
  · rw [camel_case_empty style text (by simpa using some)] at member
    simp at member

end PlayClient.Naming
