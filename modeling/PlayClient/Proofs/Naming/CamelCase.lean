import PlayClient.Proofs.Naming.Recasing

set_option autoImplicit false

namespace PlayClient.Naming

/-! ## Where words begin and end -/

theorem words_separator (c : Char) (rest : List Char) (separator : isWordChar c = false) :
    words (c :: rest) = words rest :=
  words_cut [] rest c separator

theorem words_letter (c : Char) (rest : List Char) (letter : isWordChar c = true) :
    words (c :: rest) = (c :: rest.takeWhile isWordChar) :: words (rest.dropWhile isWordChar) := by
  have valid : IsWord (c :: rest.takeWhile isWordChar) :=
    ⟨List.cons_ne_nil _ _, List.forall_mem_cons.mpr ⟨letter, fun d member => List.mem_takeWhile_imp member⟩⟩
  have whole : c :: rest = c :: rest.takeWhile isWordChar ++ rest.dropWhile isWordChar := by
    rw [List.cons_append, List.takeWhile_append_dropWhile]
  cases later : rest.dropWhile isWordChar with
  | nil =>
      rw [later, List.append_nil] at whole
      rw [whole, words_lone _ valid]
      rfl
  | cons d others =>
      have separator : isWordChar d = false := by
        have stops := List.head?_dropWhile_not isWordChar rest
        simpa [later] using stops
      rw [later] at whole
      rw [whole, words_cut _ _ d separator, words_lone _ valid, words_separator d others separator]
      rfl

theorem words_after (separators rest : List Char) (bare : ∀ c ∈ separators, isWordChar c = false) :
    words (separators ++ rest) = words rest := by
  induction separators with
  | nil => rfl
  | cons c others ih =>
      obtain ⟨separator, later⟩ := List.forall_mem_cons.mp bare
      rw [List.cons_append, words_separator c _ separator, ih later]

theorem words_between (left separators right : List Char) (filled : separators ≠ [])
    (bare : ∀ c ∈ separators, isWordChar c = false) :
    words (left ++ separators ++ right) = words left ++ words right := by
  cases separators with
  | nil => exact absurd rfl filled
  | cons c others =>
      obtain ⟨separator, later⟩ := List.forall_mem_cons.mp bare
      rw [List.append_assoc, List.cons_append, words_cut left _ c separator, words_after others right later]

theorem join_type_words (parts : List (List Char)) : joinWords .type parts = parts.flatMap Text.capitalize := by
  cases parts <;> rfl

theorem join_words_letter (style : NameStyle) (c : Char) (rest : List Char) (parts : List (List Char))
    (letter : isWordChar c = true) :
    joinWords style ((c :: rest) :: parts) = style.letter c :: (rest ++ joinWords .type parts) := by
  rw [joinWords, recase_letter style c rest letter, List.cons_append, join_type_words]

/-! ## One pass over the characters -/

-- Where a pass stands: before the first letter or digit, behind one, or behind
-- separators that follow one.
inductive Place where
  | opening
  | inside
  | between
  deriving DecidableEq, Repr

def Place.written (style : NameStyle) : Place → Char → Char
  | .opening, c => style.letter c
  | .inside, c => c
  | .between, c => c.toUpper

def Place.separated : Place → Place
  | .opening => .opening
  | .inside => .between
  | .between => .between

def onePass (style : NameStyle) : Place → List Char → List Char
  | _, [] => []
  | place, c :: rest =>
    if isWordChar c then place.written style c :: onePass style .inside rest
    else onePass style place.separated rest

theorem one_pass_letter (style : NameStyle) (place : Place) (c : Char) (rest : List Char) (letter : isWordChar c = true) :
    onePass style place (c :: rest) = place.written style c :: onePass style .inside rest := by
  rw [onePass, if_pos letter]

theorem one_pass_separator (style : NameStyle) (place : Place) (c : Char) (rest : List Char)
    (separator : isWordChar c = false) : onePass style place (c :: rest) = onePass style place.separated rest := by
  rw [onePass, if_neg (by simp [separator])]

-- Behind separators the words to come are capitalized one by one. Inside a word
-- its rest comes first, as it is.
theorem one_pass_words (style : NameStyle) (cs : List Char) :
    onePass style .between cs = joinWords .type (words cs) ∧
      onePass style .inside cs =
        cs.takeWhile isWordChar ++ joinWords .type (words (cs.dropWhile isWordChar)) := by
  induction cs with
  | nil => exact ⟨rfl, rfl⟩
  | cons c rest ih =>
      obtain ⟨between, inside⟩ := ih
      by_cases letter : isWordChar c = true
      · have capital : onePass style .between (c :: rest) = joinWords .type (words (c :: rest)) := by
          rw [one_pass_letter style .between c rest letter, inside, words_letter c rest letter,
            join_words_letter .type c _ _ letter]
          rfl
        refine ⟨capital, ?_⟩
        rw [one_pass_letter style .inside c rest letter, inside, List.takeWhile_cons_of_pos letter,
          List.dropWhile_cons_of_pos letter]
        rfl
      · have separator : isWordChar c = false := by simpa using letter
        have passed : ∀ place : Place, place.separated = .between →
            onePass style place (c :: rest) = joinWords .type (words (c :: rest)) := by
          intro place behind
          rw [one_pass_separator style place c rest separator, behind, between, words_separator c rest separator]
        refine ⟨passed .between rfl, ?_⟩
        rw [passed .inside rfl, List.takeWhile_cons_of_neg letter, List.dropWhile_cons_of_neg letter]
        rfl

theorem one_pass_name (style : NameStyle) (cs : List Char) : onePass style .opening cs = joinWords style (words cs) := by
  induction cs with
  | nil => rfl
  | cons c rest ih =>
      by_cases letter : isWordChar c = true
      · rw [one_pass_letter style .opening c rest letter, (one_pass_words style rest).2, words_letter c rest letter,
          join_words_letter style c _ _ letter]
        rfl
      · have separator : isWordChar c = false := by simpa using letter
        rw [one_pass_separator style .opening c rest separator, words_separator c rest separator]
        exact ih

theorem written_lower (style : NameStyle) (place : Place) (c : Char) (letter : isWordChar c = true) :
    (place.written style c).toLower = c.toLower := by
  cases place with
  | opening => exact letter_over .term style c letter
  | inside => rfl
  | between => exact letter_over .term .type c letter

theorem one_pass_keeps (style : NameStyle) (place : Place) (cs : List Char) :
    (onePass style place cs).map Char.toLower = (cs.filter isWordChar).map Char.toLower := by
  induction cs generalizing place with
  | nil => rfl
  | cons c rest ih =>
      by_cases letter : isWordChar c = true
      · rw [one_pass_letter style place c rest letter, List.filter_cons_of_pos letter, List.map_cons, List.map_cons,
          written_lower style place c letter, ih]
      · rw [one_pass_separator style place c rest (by simpa using letter), List.filter_cons_of_neg letter, ih]

-- A name is written in one pass, which drops the separators and keeps every
-- letter and digit in its place, up to its case.
theorem camel_case_one_pass (style : NameStyle) (text : String) :
    (camelCase style text).toList = onePass style .opening text.toList ∧
      (camelCase style text).toList.map Char.toLower = (text.toList.filter isWordChar).map Char.toLower := by
  have chars : (camelCase style text).toList = onePass style .opening text.toList := by
    rw [camelCase, String.toList_ofList, one_pass_name]
  exact ⟨chars, by rw [chars, one_pass_keeps]⟩

/-! ## Names of joined texts -/

theorem join_words_append (style : NameStyle) (left right : List (List Char)) (filled : left ≠ []) :
    joinWords style (left ++ right) = joinWords style left ++ joinWords .type right := by
  cases left with
  | nil => exact absurd rfl filled
  | cons first others =>
      rw [List.cons_append, joinWords, joinWords, List.flatMap_append, join_type_words, List.append_assoc]

theorem camel_case_joined (style : NameStyle) (left separators right : String) (filled : separators ≠ "")
    (bare : ∀ c ∈ separators.toList, isWordChar c = false) :
    camelCase style (left ++ separators ++ right) =
      if left.toList.any isWordChar then camelCase style left ++ typeName right
      else camelCase style right := by
  have cut := words_between left.toList separators.toList right.toList (by simpa using filled) bare
  have chars : (camelCase style (left ++ separators ++ right)).toList =
      joinWords style (words left.toList ++ words right.toList) := by
    rw [camelCase, String.toList_ofList, String.toList_append, String.toList_append, cut]
  apply String.toList_inj.mp
  rw [chars]
  by_cases letters : left.toList.any isWordChar = true
  · have filled := words_filled _ (List.any_eq_true.mp letters)
    rw [if_pos letters, join_words_append style _ _ filled, String.toList_append, typeName, camelCase, camelCase,
      String.toList_ofList, String.toList_ofList]
  · have none : words left.toList = [] := (words_eq_nil_iff _).mpr (by simpa using letters)
    rw [if_neg letters, none, List.nil_append, camelCase, String.toList_ofList]

theorem camel_case_eq_iff (style other : NameStyle) (text another : String) :
    camelCase style text = camelCase style another ↔ camelCase other text = camelCase other another := by
  constructor
  · intro same
    rw [← camel_case_recased other style text, same, camel_case_recased]
  · intro same
    rw [← camel_case_recased style other text, same, camel_case_recased]

-- The first letter of a type name is made a capital once more.
def recapitalized : NameStyle → String → String
  | .term, name => name
  | .type, name => Text.capitalized name

theorem recapitalized_camel_case (style : NameStyle) (text : String) :
    recapitalized style (camelCase style text) = camelCase style text := by
  cases style with
  | term => rfl
  | type => exact camel_case_recased .type .type text

-- A name is made word by word, and its two forms differ in the first letter alone.
theorem camel_case_laws :
    (∀ style (left separators right : String), separators ≠ "" → (∀ c ∈ separators.toList, isWordChar c = false) →
      camelCase style (left ++ separators ++ right) =
        if left.toList.any isWordChar then camelCase style left ++ typeName right
        else camelCase style right) ∧
      (∀ text, typeName text = Text.capitalized (camelCase .term text)) ∧
      (∀ text, camelCase .term text = Text.decapitalized (typeName text)) ∧
      (∀ text another, camelCase .term text = camelCase .term another ↔ typeName text = typeName another) ∧
      ∀ style reserved text, normalize style reserved text =
        let name := recapitalized style (camelCase style text)
        let name := if name = "" then emptyName else name
        if isPlain name ∧ name ∉ reserved then .plain text name else .quoted text name := by
  refine ⟨camel_case_joined, ?_, ?_, camel_case_eq_iff .term .type, ?_⟩
  · intro text
    exact (camel_case_recased .type .term text).symm
  · intro text
    exact (camel_case_recased .term .type text).symm
  · intro style reserved text
    rw [recapitalized_camel_case]
    rfl

-- The separators may run together with those around them, and a text without a
-- letter or digit leaves the next one to open the name.
theorem separated_names_joined :
    "_ é" ≠ "" ∧ (∀ c ∈ "_ é".toList, isWordChar c = false) ∧
      camelCase .term ("-pet" ++ "_ é" ++ " storeId") = camelCase .term "-pet" ++ typeName " storeId" ∧
      camelCase .term ("-é" ++ "_ é" ++ "Store_id") = camelCase .term "Store_id" := by
  obtain ⟨joined, -⟩ := camel_case_laws
  have filled : "_ é" ≠ "" := by decide
  have none : "_ é".toList.any isWordChar = false := by decide
  have bare : ∀ c ∈ "_ é".toList, isWordChar c = false := by simpa using List.any_eq_false.mp none
  refine ⟨filled, bare, ?_, ?_⟩
  · rw [joined .term _ _ _ filled bare, if_pos (by decide)]
  · rw [joined .term _ _ _ filled bare, if_neg (by decide)]

end PlayClient.Naming
