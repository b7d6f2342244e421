import PlayClient.Proofs.Client.ApiBlocks
import PlayClient.Proofs.Naming.MethodName

set_option autoImplicit false

namespace PlayClient.Client

variable (client : Client)

/-! ## Classes of APIs -/

-- The suffix keeps the keywords away, but no digit that the name starts with.
theorem api_class_not_standard (name : String) : apiClassName name ∉ Naming.reservedWords := by
  have suffixless : ∀ word ∈ Naming.reservedWords, ¬ "Api".toList <:+ word.toList := by decide
  intro member
  exact suffixless _ member ⟨(Naming.typeName name).toList, by rw [apiClassName, String.toList_append]⟩

theorem api_class_digit_iff (name : String) :
    Naming.StartsWithDigit (apiClassName name) ↔
      ∃ c, name.toList.find? Naming.isWordChar = some c ∧ c.isDigit = true := by
  by_cases letters : ∃ c ∈ name.toList, Naming.isWordChar c = true
  · obtain ⟨c, rest, first, letter, opens⟩ := Naming.camel_case_opens .type name letters
    have chars : (apiClassName name).toList = Naming.NameStyle.type.letter c :: (rest ++ "Api".toList) := by
      rw [apiClassName, String.toList_append, Naming.typeName, opens, List.cons_append]
    rw [Naming.starts_with_digit_cons _ _ _ chars, Naming.letter_digit .type c letter, first]
    simp
  · have bare : ∀ c ∈ name.toList, Naming.isWordChar c = false := by simpa using letters
    have none : name.toList.find? Naming.isWordChar = none := List.find?_eq_none.mpr (by simpa using bare)
    have chars : (apiClassName name).toList = 'A' :: "pi".toList := by
      rw [apiClassName, Naming.typeName, Naming.camel_case_empty .type name bare]
      decide
    rw [Naming.starts_with_digit_cons _ _ _ chars, none]
    simp

theorem api_opens (output : Path) (name : String) (operations : List Operation) (files : Files)
    (generated : client.generateApi output name operations = .ok files) :
    ∃ body, files = [(client.apiPath output name, Text.ofLines (client.apiHeader name) ++ body)] := by
  rw [generate_api_text, Outcome.map_ok_iff] at generated
  obtain ⟨blocks, -, same⟩ := generated
  exact ⟨_, by rw [← same, apiText, String.append_assoc]⟩

-- A class is named by the first letter or digit of its API like any other name,
-- but nothing escapes it.
theorem api_class_emitted_iff (name : String) :
    (∀ output operations files, client.generateApi output name operations = .ok files →
      ∃ body, files = [(client.apiPath output name,
        Text.ofLines ["package " ++ client.settings.apiPackage, "",
          "import " ++ client.settings.invokerPackage ++ "._", "",
          "class " ++ apiClassName name ++
            "(apiInvoker: ApiInvoker, credentials: Map[String, Credentials] = Map.empty) \x7b"] ++ body)]) ∧
      (Naming.IsEmitted client.reserved (apiClassName name) ↔
        (∀ c, name.toList.find? Naming.isWordChar = some c → c.isDigit = false) ∧
          apiClassName name ∉ client.settings.extraReservedWords) := by
  refine ⟨fun output => client.api_opens output name, ?_⟩
  rw [Naming.word_emitted_iff _ _ (api_class_name_word name), api_class_digit_iff, reserved, List.mem_append,
    or_iff_right (api_class_not_standard name)]
  simp

theorem pet_store_class_emitted :
    (∃ files body, (ofSettings .standard).generateApi (.ofText "out") "pet-store" [] = .ok files ∧
      files = [((ofSettings .standard).apiPath (.ofText "out") "pet-store",
        Text.ofLines ["package io.swagger.client.api", "", "import io.swagger.client.core._", "",
          "class PetStoreApi(apiInvoker: ApiInvoker, credentials: Map[String, Credentials] = Map.empty) \x7b"] ++ body)]) ∧
      Naming.IsEmitted (ofSettings .standard).reserved "PetStoreApi" := by
  obtain ⟨opens, emitted⟩ := api_class_emitted_iff (ofSettings .standard) "pet-store"
  have named : apiClassName "pet-store" = "PetStoreApi" := by decide +kernel
  obtain ⟨files, generated⟩ := (ofSettings .standard).api_without_methods (.ofText "out") "pet-store"
  obtain ⟨body, same⟩ := opens _ _ _ generated
  rw [named] at emitted same
  refine ⟨⟨files, body, generated, same⟩, emitted.mpr ⟨?_, by decide⟩⟩
  intro c first
  have letter : c = 'p' := by simpa using first.symm.trans (by decide : _ = some 'p')
  rw [letter]
  decide

-- A name may start with a digit, its class may not.
theorem digit_named_class :
    (∃ body, (ofSettings .standard).generateApi (.ofText "out") "2fa" [] =
      .ok [(.ofText "out/src/main/scala/io/swagger/client/api/2faApi.scala",
        Text.ofLines ["package io.swagger.client.api", "", "import io.swagger.client.core._", "",
          "class 2faApi(apiInvoker: ApiInvoker, credentials: Map[String, Credentials] = Map.empty) \x7b"] ++ body)]) ∧
      ¬ Naming.IsEmitted (ofSettings .standard).reserved "2faApi" := by
  refine ⟨⟨"\x7d\n", by decide +kernel⟩, ?_⟩
  have valid : Naming.IsWord "2faApi".toList := ⟨by decide, List.all_eq_true.mp (by decide)⟩
  rw [Naming.word_emitted_iff _ _ valid]
  rintro ⟨letter, -⟩
  exact letter ⟨'2', rfl, rfl⟩

/-! ## Methods -/

theorem method_name_called_iff (operationId : Option String) (text : String) :
    client.methodName operationId = .ok text ↔ ∃ id, operationId = some id ∧
      ¬ Naming.Refused client.reserved client.settings.strictOperationNames (some id) ∧
      (Naming.calledMethod client.reserved id).identifier.normalized = text := by
  simp only [methodName, Outcome.bind_ok_iff, Naming.method_name_ok_iff]
  constructor
  · rintro ⟨method, ⟨id, same, accepted, rfl⟩, written⟩
    exact ⟨id, same, accepted, Except.ok.inj written⟩
  · rintro ⟨id, same, accepted, written⟩
    exact ⟨_, ⟨id, same, accepted, rfl⟩, congrArg Except.ok written⟩

theorem call_name_not_standard (name : String) : "call" ++ Text.capitalized name ∉ Naming.reservedWords := by
  have other : ∀ word ∈ Naming.reservedWords, ¬ "call".toList <+: word.toList := by decide
  intro member
  exact other _ member ⟨Text.capitalize name.toList, (Naming.call_chars name).symm⟩

-- A name is checked against the reserved words before it is renamed, not after: a
-- reserved word comes out unescaped exactly where the new name is one as well.
theorem reserved_method_emitted_iff (operationId : Option String) :
    (∃ text, client.methodName operationId = .ok text ∧ text ∈ client.reserved ∧ ¬ Naming.IsEscaped text) ↔
      client.settings.strictOperationNames = false ∧ ∃ id, operationId = some id ∧
        (∃ c ∈ id.toList, Naming.isWordChar c = true) ∧ Naming.camelCase .term id ∈ client.reserved ∧
        "call" ++ Text.capitalized (Naming.camelCase .term id) ∈ client.settings.extraReservedWords := by
  constructor
  · rintro ⟨text, named, bare⟩
    obtain ⟨id, same, accepted, rfl⟩ := (client.method_name_called_iff operationId text).mp named
    obtain ⟨letters, free⟩ := (Naming.accepted_iff _ _ id).mp accepted
    have calls := Naming.called_method_calls client.reserved id letters
    obtain ⟨taken, again⟩ := (calls.reserved_iff _ _ _).mp bare
    refine ⟨by simpa [taken] using free, id, same, letters, taken, ?_⟩
    exact (List.mem_append.mp again).resolve_left (call_name_not_standard _)
  · rintro ⟨loose, id, same, letters, taken, extra⟩
    have accepted := (Naming.accepted_iff client.reserved client.settings.strictOperationNames id).mpr
      ⟨letters, by simp [loose]⟩
    have calls := Naming.called_method_calls client.reserved id letters
    refine ⟨_, (client.method_name_called_iff operationId _).mpr ⟨id, same, accepted, rfl⟩, ?_⟩
    exact (calls.reserved_iff _ _ _).mpr ⟨taken, List.mem_append_right _ extra⟩

-- The word that `type` is renamed into is reserved too.
def callTypeClient : Client := .ofSettings { Settings.standard with extraReservedWords := ["callType"] }

theorem renamed_into_reserved :
    callTypeClient.methodName (some "type") = .ok "callType" ∧ "callType" ∈ callTypeClient.reserved ∧
      ¬ Naming.IsEscaped "callType" := by
  refine ⟨by decide +kernel, by decide +kernel, ?_⟩
  exact Naming.word_not_escaped _ ⟨by decide, List.all_eq_true.mp (by decide)⟩

end PlayClient.Client
