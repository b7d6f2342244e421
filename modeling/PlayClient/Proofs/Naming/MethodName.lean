import PlayClient.Naming.Method
import PlayClient.Proofs.Naming.Recasing

set_option autoImplicit false

namespace PlayClient.Naming

variable (reserved : List String) (strict : Bool)

-- What a method is called before it is escaped.
def calledName (operationId : String) : String :=
  if camelCase .term operationId ∈ reserved then "call" ++ Text.capitalized (camelCase .term operationId)
  else camelCase .term operationId

-- Why an operation id gives no method.
inductive Refused : Option String → Prop where
  | missing : Refused none
  | unusable (text : String) (bare : ∀ c ∈ text.toList, isWordChar c = false) : Refused (some text)
  | taken (text : String) (strictly : strict = true) (member : camelCase .term text ∈ reserved) :
      Refused (some text)

-- What an operation id that gives a method gives.
structure Calls (operationId : String) (method : MethodName) : Prop where
  raw : method.identifier.raw = operationId
  word : IsWord (calledName reserved operationId).toList
  escapes : method.identifier.isEscaped = true ↔ StartsWithDigit (calledName reserved operationId)
  written : method.identifier.normalized =
    if method.identifier.isEscaped then escaped (calledName reserved operationId)
    else calledName reserved operationId
  notices : method.notices =
    if camelCase .term operationId ∈ reserved then
      [.renamed (camelCase .term operationId) (calledName reserved operationId)]
    else []

/-! ## Names of methods -/

theorem call_word : IsWord "call".toList := ⟨by decide, List.all_eq_true.mp (by decide)⟩

theorem call_chars (name : String) :
    ("call" ++ Text.capitalized name).toList = "call".toList ++ Text.capitalize name.toList := by
  rw [String.toList_append]
  exact congrArg ("call".toList ++ ·) String.toList_ofList

-- The prefix and the name are two words, as its mark separates them.
theorem renamed_method (name : String) (valid : IsWord name.toList) :
    renamedMethod name = "call" ++ Text.capitalized name := by
  have split : ("call_" ++ name).toList = "call".toList ++ '_' :: name.toList := by
    rw [String.toList_append]
    rfl
  have small : Text.decapitalize "call".toList = "call".toList := by decide
  have joined : joinWords .term ["call".toList, name.toList] = "call".toList ++ Text.capitalize name.toList := by
    rw [joinWords, NameStyle.recase, small, List.flatMap_singleton]
  apply String.toList_inj.mp
  rw [renamedMethod, camelCase, split, words_cut _ _ '_' (by decide), words_lone _ call_word, words_lone _ valid,
    call_chars, ← joined]
  exact String.toList_ofList

theorem called_name_word (operationId : String) (some : ∃ c ∈ operationId.toList, isWordChar c = true) :
    IsWord (calledName reserved operationId).toList := by
  have valid := camel_case_word .term operationId some
  by_cases member : camelCase .term operationId ∈ reserved
  · rw [calledName, if_pos member, call_chars]
    exact append_word _ _ call_word (capitalize_word _ valid).2
  · rw [calledName, if_neg member]
    exact valid

theorem method_identifier_of_word (operationId name : String) (valid : IsWord name.toList) :
    let identifier := methodIdentifier operationId name
    identifier.raw = operationId ∧ (identifier.isEscaped = true ↔ StartsWithDigit name) ∧
      identifier.normalized = if identifier.isEscaped then escaped name else name := by
  have parts := fun c member => word_char_part c (valid.2 c member)
  have decided := (is_plain_iff name (fun c member => (identifier_part_safe c (parts c member)).2)).trans
    (plain_name_iff name valid.1 parts)
  by_cases plain : isPlain name = true
  · have kept := decided.mp plain
    simp [methodIdentifier, plain, kept, Identifier.plain]
  · have digit := Classical.not_not.mp (fun letter => plain (decided.mpr letter))
    simp [methodIdentifier, plain, digit, Identifier.quoted]

def calledMethod (operationId : String) : MethodName where
  identifier := methodIdentifier operationId (calledName reserved operationId)
  notices :=
    if camelCase .term operationId ∈ reserved then
      [.renamed (camelCase .term operationId) (calledName reserved operationId)]
    else []

theorem called_method_calls (operationId : String) (some : ∃ c ∈ operationId.toList, isWordChar c = true) :
    Calls reserved operationId (calledMethod reserved operationId) := by
  have valid := called_name_word reserved operationId some
  obtain ⟨raw, escapes, written⟩ := method_identifier_of_word operationId _ valid
  exact ⟨raw, valid, escapes, written, rfl⟩

/-! ## Names that are reserved -/

theorem call_name_no_digit (name : String) : ¬ StartsWithDigit ("call" ++ Text.capitalized name) := by
  rw [starts_with_digit_cons _ 'c' _ (call_chars name)]
  decide

theorem called_reserved_iff (operationId : String) :
    calledName reserved operationId ∈ reserved ↔ camelCase .term operationId ∈ reserved ∧
      "call" ++ Text.capitalized (camelCase .term operationId) ∈ reserved := by
  by_cases taken : camelCase .term operationId ∈ reserved
  · simp [calledName, taken]
  · simp [calledName, taken]

-- What is escaped starts with a digit, so it is never a name that was renamed.
theorem Calls.reserved_iff (operationId : String) (method : MethodName)
    (calls : Calls reserved operationId method) :
    method.identifier.normalized ∈ reserved ∧ ¬ IsEscaped method.identifier.normalized ↔
      camelCase .term operationId ∈ reserved ∧
        "call" ++ Text.capitalized (camelCase .term operationId) ∈ reserved := by
  have written := calls.written
  rw [← called_reserved_iff]
  cases quoted : method.identifier.isEscaped with
  | true =>
      rw [if_pos quoted] at written
      have digit := calls.escapes.mp quoted
      refine ⟨fun both => absurd ⟨_, written⟩ both.2, fun member => ?_⟩
      rw [calledName, if_pos ((called_reserved_iff reserved operationId).mp member).1] at digit
      exact absurd digit (call_name_no_digit _)
  | false =>
      rw [if_neg (by simp [quoted])] at written
      rw [written]
      exact and_iff_left (word_not_escaped _ calls.word)

/-! ## Ids that are refused -/

theorem blank_no_word_char (c : Char) (blank : Text.isBlank c = true) : isWordChar c = false := by
  refine Bool.eq_false_iff.mpr fun word => ?_
  have apart := Text.ascii_forall (fun c => isWordChar c = true → Text.isBlank c = false) (by decide) c
    (Text.word_char_ascii c word) word
  simp [blank] at apart

theorem lettered_not_blank (text : String) (letters : ∃ c ∈ text.toList, isWordChar c = true) :
    Text.allBlank text = false := by
  obtain ⟨c, member, letter⟩ := letters
  refine Bool.eq_false_iff.mpr fun blank => ?_
  have none := blank_no_word_char c (List.all_eq_true.mp blank c member)
  simp [letter] at none

theorem method_name_bare (text : String) (bare : ∀ c ∈ text.toList, isWordChar c = false) :
    methodName reserved strict (some text) = .error (if Text.allBlank text then .blank else .unusable text) := by
  by_cases blank : Text.allBlank text = true
  · simp [methodName, blank]
  · simp [methodName, blank, camel_case_empty .term text bare]

theorem method_name_lettered (text : String) (letters : ∃ c ∈ text.toList, isWordChar c = true) :
    methodName reserved strict (some text) =
      if strict = true ∧ camelCase .term text ∈ reserved then .error (.reserved text)
      else .ok (calledMethod reserved text) := by
  have filled := camel_case_filled .term text letters
  have visible := lettered_not_blank text letters
  by_cases member : camelCase .term text ∈ reserved
  · have named := renamed_method _ (camel_case_word .term text letters)
    cases strict with
    | true => simp [methodName, visible, filled, member]
    | false => simp [methodName, visible, filled, member, calledMethod, calledName, named]
  · simp [methodName, visible, filled, member, calledMethod, calledName]

theorem accepted_iff (text : String) :
    ¬ Refused reserved strict (some text) ↔
      (∃ c ∈ text.toList, isWordChar c = true) ∧ ¬ (strict = true ∧ camelCase .term text ∈ reserved) := by
  constructor
  · intro accepted
    refine ⟨?_, fun both => accepted (.taken text both.1 both.2)⟩
    by_contra bare
    exact accepted (.unusable text (by simpa using bare))
  · rintro ⟨⟨c, member, letter⟩, free⟩ refused
    cases refused with
    | unusable _ bare => simp [bare c member] at letter
    | taken _ strictly taken => exact free ⟨strictly, taken⟩

theorem method_name_ok_iff (operationId : Option String) (method : MethodName) :
    methodName reserved strict operationId = .ok method ↔ ∃ text, operationId = some text ∧
      ¬ Refused reserved strict (some text) ∧ method = calledMethod reserved text := by
  cases operationId with
  | none => simp [methodName]
  | some text =>
      simp only [Option.some.injEq, exists_eq_left', accepted_iff]
      by_cases letters : ∃ c ∈ text.toList, isWordChar c = true
      · rw [method_name_lettered reserved strict text letters]
        by_cases taken : strict = true ∧ camelCase .term text ∈ reserved
        · simp [taken]
        · rw [if_neg taken, Except.ok.injEq]
          exact ⟨fun same => ⟨⟨letters, taken⟩, same.symm⟩, fun both => both.2.symm⟩
      · rw [method_name_bare reserved strict text (by simpa using letters)]
        simp [letters]

theorem method_name_error_iff (operationId : Option String) :
    (∃ error, methodName reserved strict operationId = .error error) ↔ Refused reserved strict operationId := by
  cases done : methodName reserved strict operationId with
  | ok method =>
      obtain ⟨text, same, accepted, -⟩ := (method_name_ok_iff reserved strict operationId method).mp done
      simp [same, accepted]
  | error error =>
      refine ⟨fun _ => ?_, fun _ => ⟨error, rfl⟩⟩
      cases operationId with
      | none => exact .missing
      | some text =>
          by_contra accepted
          rw [(method_name_ok_iff reserved strict _ _).mpr ⟨text, rfl, accepted, rfl⟩] at done
          cases done

theorem refused_strictly (operationId : Option String) (refused : Refused reserved false operationId) :
    Refused reserved true operationId := by
  cases refused with
  | missing => exact .missing
  | unusable text bare => exact .unusable text bare
  | taken text strictly member => exact .taken text rfl member

theorem message_opens (error : MethodNameError) : error = .blank ∨ error.message.toList.head? = some 'O' := by
  have opens : ∀ text rest : String, ("Operation id '" ++ text ++ rest).toList.head? = some 'O' := by
    intro text rest
    rw [String.toList_append, String.toList_append]
    rfl
  cases error with
  | blank => exact .inl rfl
  | unusable text => exact .inr (opens text "' does not contain any usable character")
  | reserved text => exact .inr (opens text "' is a reserved word")

theorem blank_message_iff (error : MethodNameError) :
    error.message = "Empty method name (operationId) not allowed" ↔ error = .blank := by
  refine ⟨fun same => ?_, fun blank => congrArg MethodNameError.message blank⟩
  rcases message_opens error with blank | opens
  · exact blank
  · rw [same] at opens
    exact absurd opens (by decide)

theorem method_name_blank_iff (operationId : Option String) :
    methodName reserved strict operationId = .error .blank ↔
      ∀ text, operationId = some text → ∀ c ∈ text.toList, Text.isBlank c = true := by
  cases operationId with
  | none => simp [methodName]
  | some text =>
      have all : Text.allBlank text = true ↔ ∀ c ∈ text.toList, Text.isBlank c = true := List.all_eq_true
      simp only [Option.some.injEq, forall_eq', ← all]
      by_cases letters : ∃ c ∈ text.toList, isWordChar c = true
      · rw [method_name_lettered reserved strict text letters, lettered_not_blank text letters]
        split <;> simp
      · rw [method_name_bare reserved strict text (by simpa using letters)]
        cases Text.allBlank text <;> simp

/-! ## What becomes of an id -/

-- Strict names refuse more ids and change nothing else.
theorem method_name_outcome (operationId : Option String) :
    (∀ strict,
      ((∃ error, methodName reserved strict operationId = .error error) ↔ Refused reserved strict operationId) ∧
      ((∃ error, methodName reserved strict operationId = .error error ∧
          error.message = "Empty method name (operationId) not allowed") ↔
        ∀ text, operationId = some text → ∀ c ∈ text.toList, Text.isBlank c = true) ∧
      ∀ method, methodName reserved strict operationId = .ok method →
        ∃ text, operationId = some text ∧ Calls reserved text method) ∧
      ((∃ error, methodName reserved true operationId = .error error) ∨
        methodName reserved true operationId = methodName reserved false operationId) := by
  constructor
  · intro strict
    refine ⟨method_name_error_iff reserved strict operationId, ?_, ?_⟩
    · simp only [blank_message_iff, exists_eq_right, method_name_blank_iff]
    · intro method done
      obtain ⟨text, same, accepted, called⟩ := (method_name_ok_iff reserved strict operationId method).mp done
      obtain ⟨letters, -⟩ := (accepted_iff reserved strict text).mp accepted
      exact ⟨text, same, called ▸ called_method_calls reserved text letters⟩
  · cases done : methodName reserved true operationId with
    | error error => exact .inl ⟨error, rfl⟩
    | ok method =>
        obtain ⟨text, same, accepted, called⟩ := (method_name_ok_iff reserved true operationId method).mp done
        have loosely := fun refused => accepted (refused_strictly reserved _ refused)
        exact .inr ((method_name_ok_iff reserved false operationId method).mpr ⟨text, same, loosely, called⟩).symm

theorem type_called_or_refused :
    (∃ error, methodName reservedWords true (some "Type") = .error error) ∧
      ∃ method, methodName reservedWords false (some "Type") = .ok method ∧ Calls reservedWords "Type" method ∧
        calledName reservedWords "Type" = "callType" := by
  obtain ⟨each, -⟩ := method_name_outcome reservedWords (some "Type")
  have done : methodName reservedWords false (some "Type") =
      .ok ⟨.plain "Type" "callType", [.renamed "type" "callType"]⟩ := by decide +kernel
  obtain ⟨text, same, calls⟩ := (each false).2.2 _ done
  cases same
  exact ⟨(each true).1.mpr (.taken "Type" rfl (by decide +kernel)), _, done, calls, by decide +kernel⟩

end PlayClient.Naming
