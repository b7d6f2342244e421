import Mathlib.Data.List.DropRight
import PlayClient.Proofs.Client.Acceptance
import PlayClient.Proofs.Client.Credentials
import PlayClient.Proofs.Client.ModelFiles
import PlayClient.Proofs.Naming.Identifier

set_option autoImplicit false

namespace PlayClient

/-! ## Names read back from the text -/

namespace ClientMethod

def nameOfEntry (entry : String) : String := String.ofList (entry.toList.takeWhile (· != ':'))

def insideArgument (c : Char) : Bool := c != ' ' && c != '('

-- What stands in front of the closing bracket, back to a blank or an opening one.
def lastArgument (line : String) : String := String.ofList (line.toList.dropLast.rtakeWhile insideArgument)

theorem name_of_entry (name rest : String) (bare : ∀ c ∈ name.toList, c ≠ ':') :
    nameOfEntry (name ++ (": " ++ rest)) = name := by
  have whole : (name ++ (": " ++ rest)).toList = name.toList ++ ':' :: ' ' :: rest.toList := by simp
  have kept : ∀ c ∈ name.toList, (c != ':') = true := fun c member => bne_iff_ne.mpr (bare c member)
  rw [nameOfEntry, whole, List.takeWhile_append_of_pos kept, List.takeWhile_cons_of_neg (by decide), List.append_nil,
    String.ofList_toList]

theorem last_argument (line : String) (front : List Char) (opening : Char) (name : String)
    (written : line.toList = front ++ opening :: (name.toList ++ [')'])) (opens : opening = ' ' ∨ opening = '(')
    (bare : ∀ c ∈ name.toList, c ≠ ' ' ∧ c ≠ '(') : lastArgument line = name := by
  have inner : line.toList.dropLast = front ++ opening :: name.toList := by
    rw [written, ← List.cons_append, ← List.append_assoc, List.dropLast_concat]
  have turned : (front ++ opening :: name.toList).reverse = name.toList.reverse ++ opening :: front.reverse := by simp
  have kept : ∀ c ∈ name.toList.reverse, insideArgument c = true := by
    intro c member
    have free := bare c (List.mem_reverse.mp member)
    simp [insideArgument, free.1, free.2]
  have stops : ¬insideArgument opening = true := by
    rcases opens with blank | bracket
    · simp [insideArgument, blank]
    · simp [insideArgument, bracket]
  rw [lastArgument, inner, List.rtakeWhile, turned, List.takeWhile_append_of_pos kept,
    List.takeWhile_cons_of_neg stops, List.append_nil, List.reverse_reverse, String.ofList_toList]

end ClientMethod

namespace Client

variable (client : Client)

theorem term_name_bare (raw : String) (c : Char) (member : c ∈ (client.termName raw).toList) :
    c ≠ ':' ∧ c ≠ ' ' ∧ c ≠ '(' := by
  have apart : ∀ c, (Naming.isIdentifierPart c = true ∨ c = Naming.escapeMark) → c ≠ ':' ∧ c ≠ ' ' ∧ c ≠ '(' := by
    rintro c (part | mark)
    · exact Text.ascii_forall (fun c => Naming.isIdentifierPart c = true → c ≠ ':' ∧ c ≠ ' ' ∧ c ≠ '(') (by decide) c
        (Naming.identifier_part_ascii c part) part
    · rw [mark]
      decide
  exact apart c (Naming.normalized_chars .term client.reserved raw c member)

/-! ## Parameters -/

-- An entry of the signature: the type stands bare for a required parameter alone.
def Signs (parameter : Parameter) (entry : String) : Prop :=
  ∃ type, client.dialect.typeOf parameter.type = .ok type ∧
    (entry = client.termName parameter.baseName ++ (": " ++ type) ↔ parameter.required = true) ∧
    (entry = client.termName parameter.baseName ++ (": " ++ ("Option[" ++ type ++ "] = None")) ↔
      parameter.required = false)

-- The call that passes an argument, up to the argument.
def callFront (parameter : Parameter) : String :=
  if parameter.location = "body" then "      .withBody("
  else "      .with" ++ Text.capitalized parameter.location ++ "Param(\"" ++ Source.withoutQuotes parameter.baseName ++ "\", "

def Passes (parameter : Parameter) (line : String) : Prop :=
  line = callFront parameter ++ client.termName parameter.baseName ++ ")"

theorem option_longer (type : String) : type ≠ "Option[" ++ type ++ "] = None" := by
  intro same
  have lengths := congrArg String.length same
  simp only [String.length_append] at lengths
  have front : "Option[".length = 7 := by decide
  omega

theorem entry_signs (parameter : Parameter) (type : String) (typed : client.dialect.typeOf parameter.type = .ok type) :
    client.Signs parameter (client.termName parameter.baseName ++ (": " ++
      if parameter.required then type else "Option[" ++ type ++ "] = None")) := by
  refine ⟨type, typed, ?_⟩
  simp only [String.append_right_inj]
  cases parameter.required with
  | true => simp [option_longer type]
  | false => simp [(option_longer type).symm]

theorem signs_name (parameter : Parameter) (entry : String) (signs : client.Signs parameter entry) :
    ClientMethod.nameOfEntry entry = client.termName parameter.baseName := by
  obtain ⟨type, -, bare, optional⟩ := signs
  have free : ∀ c ∈ (client.termName parameter.baseName).toList, c ≠ ':' :=
    fun c member => (client.term_name_bare parameter.baseName c member).1
  cases required : parameter.required with
  | true =>
      rw [bare.mpr required]
      exact ClientMethod.name_of_entry _ _ free
  | false =>
      rw [optional.mpr required]
      exact ClientMethod.name_of_entry _ _ free

theorem call_front_opens (parameter : Parameter) :
    ∃ front opening, (callFront parameter).toList = front ++ [opening] ∧ (opening = ' ' ∨ opening = '(') := by
  by_cases body : parameter.location = "body"
  · refine ⟨"      .withBody".toList, '(', ?_, Or.inr rfl⟩
    rw [callFront, if_pos body]
    decide
  · refine ⟨("      .with" ++ Text.capitalized parameter.location ++ "Param(\"" ++
      Source.withoutQuotes parameter.baseName ++ "\",").toList, ' ', ?_, Or.inl rfl⟩
    rw [callFront, if_neg body]
    simp

theorem passes_name (parameter : Parameter) (line : String) (passes : client.Passes parameter line) :
    ClientMethod.lastArgument line = client.termName parameter.baseName := by
  obtain ⟨front, opening, ends, opens⟩ := call_front_opens parameter
  refine ClientMethod.last_argument line front opening _ ?_ opens
    (fun c member => (client.term_name_bare parameter.baseName c member).2)
  rw [passes, String.toList_append, String.toList_append, ends]
  simp

def parameterNames (parameters : List Parameter) : List String :=
  parameters.map fun parameter => client.termName parameter.baseName

theorem signed_names (parameters : List Parameter) (entries : List String)
    (signs : List.Forall₂ client.Signs parameters entries) :
    entries.map ClientMethod.nameOfEntry = client.parameterNames parameters :=
  (Outcome.related_images client.Signs _ _ parameters entries
    (fun parameter entry signs => (client.signs_name parameter entry signs).symm) signs).symm

theorem passed_names (parameters : List Parameter) (lines : List String)
    (passes : List.Forall₂ client.Passes parameters lines) :
    lines.map ClientMethod.lastArgument = client.parameterNames parameters :=
  (Outcome.related_images client.Passes _ _ parameters lines
    (fun parameter line passes => (client.passes_name parameter line passes).symm) passes).symm

theorem parameter_written (parameter : Parameter) (written : MethodParameter)
    (built : client.methodParameter parameter = .ok written) :
    client.Signs parameter written.signature ∧ client.Passes parameter written.passing := by
  obtain ⟨type, typed, same⟩ := (Outcome.bind_ok_iff _ _ _).mp built
  rw [Outcome.map_error_ok_iff] at typed
  cases same
  constructor
  · have signs := client.entry_signs parameter type typed
    simpa [MethodParameter.signature, optionOf, Dialect.applied, String.append_assoc] using signs
  · by_cases body : parameter.location = "body"
    · simp only [Passes, callFront, MethodParameter.passing, if_pos body]
    · simp only [Passes, callFront, MethodParameter.passing, if_neg body]

/-! ## Methods -/

end Client

-- What the lines of a method are made of.
structure MethodParts where
  name : String
  returned : String
  entries : List String
  passing : List String
  declared : List Nat

namespace MethodParts

def request (parts : MethodParts) : String := "ApiRequest[" ++ parts.returned ++ "]"

def lines (client : Client) (operation : Operation) (parts : MethodParts) : List String :=
  "" :: client.docLines operation.summary ++
    ["  def " ++ parts.name ++ "(" ++ ", ".intercalate parts.entries ++ "): " ++ parts.request ++ " =",
     "    " ++ parts.request ++ "(ApiMethods." ++ Text.uppercase operation.httpMethod ++ ", \"" ++
       Source.withoutQuotes operation.path ++ "\", \"" ++
       Source.withoutQuotes (operation.operationId.getD "") ++ "\")"] ++
    parts.passing ++ parts.declared.map (fun status => "      .withSuccessResponse(" ++ toString status ++ ")") ++
    ClientMethod.credentialLines (client.security operation.security)

-- The parts come from the operation alone, those of the parameters one by one.
structure Of (client : Client) (operation : Operation) (parts : MethodParts) : Prop where
  named : client.methodName operation.operationId = .ok parts.name
  returns : client.returnType operation = .ok parts.returned
  signs : List.Forall₂ client.Signs operation.parameters parts.entries
  passes : List.Forall₂ client.Passes operation.parameters parts.passing
  same_names : parts.entries.map ClientMethod.nameOfEntry = parts.passing.map ClientMethod.lastArgument
  declares : ∃ responses, client.successResponses operation = .ok responses ∧
    Client.declaredStatuses responses = .ok parts.declared

end MethodParts

namespace Client

variable (client : Client)

theorem method_declares (operation : Operation) (method : ClientMethod)
    (built : client.clientMethod operation = .ok method) : ∃ declared, method.statuses = .ok declared := by
  have listed := client.client_method_responses operation method built
  obtain ⟨chosen, sorted, -, -, ordered, ranked, related⟩ := client.success_responses_chosen operation _ listed
  obtain ⟨found, traversed, -⟩ := client.statuses_ordered chosen _ ordered ranked related
  exact ⟨found.filterMap id, (Outcome.bind_ok_iff _ _ _).mpr ⟨found, traversed, rfl⟩⟩

theorem method_text_lines (method : ClientMethod) (declared : List Nat) (done : method.statuses = .ok declared) :
    method.text client = .ok (Text.ofLines ("" :: client.docLines method.operation.summary ++ method.signature ++
      method.parameters.map (·.passing) ++ declared.map ClientMethod.statusLine ++
      ClientMethod.credentialLines method.security)) := by
  have blank : Text.ofLines [""] = "\n" := by decide
  have whole : "" :: client.docLines method.operation.summary = [""] ++ client.docLines method.operation.summary := rfl
  rw [ClientMethod.text, done, whole]
  simp only [doc_block_lines, Text.of_lines_append, blank, String.append_assoc]
  rfl

-- What is built can be written: the numbers of the codes were read to sort them.
theorem method_text_total (operation : Operation) (method : ClientMethod)
    (built : client.clientMethod operation = .ok method) : ∃ block, method.text client = .ok block := by
  obtain ⟨declared, done⟩ := client.method_declares operation method built
  exact ⟨_, client.method_text_lines method declared done⟩

theorem method_parts (operation : Operation) (method : ClientMethod) (declared : List Nat)
    (built : client.clientMethod operation = .ok method) (done : method.statuses = .ok declared) :
    MethodParts.Of client operation
      ⟨method.name, method.returnType, method.parameters.map (·.signature), method.parameters.map (·.passing), declared⟩ ∧
      method.operation = operation ∧ method.security = client.security operation.security := by
  have listed := client.client_method_responses operation method built
  obtain ⟨parameters, traversed, built⟩ := (Outcome.bind_ok_iff _ _ _).mp built
  obtain ⟨name, named, built⟩ := (Outcome.bind_ok_iff _ _ _).mp built
  obtain ⟨returned, returns, built⟩ := (Outcome.bind_ok_iff _ _ _).mp built
  obtain ⟨successes, -, built⟩ := (Outcome.bind_ok_iff _ _ _).mp built
  obtain ⟨responses, -, whole⟩ := (Outcome.bind_ok_iff _ _ _).mp built
  cases whole
  rw [Outcome.map_error_ok_iff] at named
  have related := ((Outcome.traverse_ok_iff _ _ _).mp traversed).imp client.parameter_written
  have signs : List.Forall₂ client.Signs operation.parameters (parameters.map (·.signature)) :=
    List.forall₂_map_right_iff.mpr (related.imp fun _ _ both => both.1)
  have passes : List.Forall₂ client.Passes operation.parameters (parameters.map (·.passing)) :=
    List.forall₂_map_right_iff.mpr (related.imp fun _ _ both => both.2)
  refine ⟨⟨named, returns, signs, passes, ?_, successes, listed, done⟩, rfl, rfl⟩
  rw [client.signed_names _ _ signs, client.passed_names _ _ passes]

theorem method_text_parts (operation : Operation) (block : String) (written : client.methodText operation = .ok block) :
    ∃ parts : MethodParts, parts.Of client operation ∧ block = Text.ofLines (parts.lines client operation) := by
  obtain ⟨method, built, written⟩ := (Outcome.bind_ok_iff _ _ _).mp written
  obtain ⟨declared, done⟩ := client.method_declares operation method built
  obtain ⟨parts, same, security⟩ := client.method_parts operation method declared built done
  refine ⟨_, parts, ?_⟩
  rw [client.method_text_lines method declared done] at written
  rw [← Except.ok.inj written]
  apply congrArg Text.ofLines
  simp only [MethodParts.lines, MethodParts.request, ClientMethod.signature, same, security]
  rfl

/-! ## The file -/

def methodTexts (operations : List Operation) : Except GenerationError (List String) :=
  operations.mapM client.methodText

def apiHeader (name : String) : List String :=
  ["package " ++ client.settings.apiPackage, "", "import " ++ client.settings.invokerPackage ++ "._", "",
   "class " ++ apiClassName name ++ "(apiInvoker: ApiInvoker, credentials: Map[String, Credentials] = Map.empty) \x7b"]

def apiText (name : String) (blocks : List String) : String :=
  Text.ofLines (client.apiHeader name) ++ String.join blocks ++ Text.ofLines ["\x7d"]

theorem method_texts_built (operations : List Operation) :
    (operations.mapM client.clientMethod >>= fun methods => methods.mapM (·.text client)) =
      client.methodTexts operations :=
  Outcome.traverse_then client.clientMethod _ operations client.method_text_total

theorem generate_api_text (output : Path) (name : String) (operations : List Operation) :
    client.generateApi output name operations =
      (fun blocks => [(client.apiPath output name, client.apiText name blocks)]) <$> client.methodTexts operations := by
  rw [← method_texts_built, ← api_path_joined]
  simp only [generateApi, apiPage, ApiPage.text, bind_assoc, pure_bind, map_bind]
  rfl

-- A method is written from its operation alone, so the file of a list is put together from
-- the files of its parts; within a method the calls pass what the signature declares.
theorem api_file_blocks (output : Path) (name : String) :
    (∀ operations, client.generateApi output name operations =
      (fun blocks => [(client.apiPath output name, client.apiText name blocks)]) <$> client.methodTexts operations) ∧
      (∀ front back, client.methodTexts (front ++ back) =
        (· ++ ·) <$> client.methodTexts front <*> client.methodTexts back) ∧
      ∀ operations blocks, client.methodTexts operations = .ok blocks →
        List.Forall₂ (fun operation block => client.methodText operation = .ok block ∧
          ∃ parts : MethodParts, parts.Of client operation ∧ block = Text.ofLines (parts.lines client operation))
          operations blocks := by
  refine ⟨client.generate_api_text output name, ?_, ?_⟩
  · intro front back
    rw [methodTexts, List.mapM_append]
    simp only [methodTexts, seq_eq_bind_map, map_eq_pure_bind, bind_assoc, pure_bind]
  · intro operations blocks written
    refine ((Outcome.traverse_ok_iff _ _ _).mp written).imp ?_
    intro operation block here
    exact ⟨here, client.method_text_parts operation block here⟩

def updatePet : Operation :=
  ⟨some "updatePet", "put", "/pets/\x7bpet-id\x7d",
    [⟨"pet-id", .primitive "long", true, "path", none⟩, ⟨"type", .map (.object "pet"), false, "body", none⟩],
    [⟨"201", some (.object "pet"), ""⟩], [⟨"api_key", .apiKey, true⟩], some "Updates a pet."⟩

def updateBlock : String :=
  Text.ofLines ["", "  /**", "   * Updates a pet.", "   */",
    "  def updatePet(petId: Long, \x60type\x60: Option[Map[String, Pet]] = None): ApiRequest[Pet] =",
    "    ApiRequest[Pet](ApiMethods.PUT, \"/pets/\x7bpet-id\x7d\", \"updatePet\")",
    "      .withPathParam(\"pet-id\", petId)",
    "      .withBody(\x60type\x60)",
    "      .withSuccessResponse(201)",
    "      .withCredentials(credentials(\"api_key\"))"]

def removePet : Operation := ⟨some "removePet", "delete", "/pets", [], [], [], none⟩

def removeBlock : String :=
  Text.ofLines ["", "  def removePet(): ApiRequest[Unit] =",
    "    ApiRequest[Unit](ApiMethods.DELETE, \"/pets\", \"removePet\")"]

theorem update_and_remove_blocks :
    (ofSettings .standard).methodTexts ([updatePet] ++ [removePet]) = .ok [updateBlock, removeBlock] ∧
      (ofSettings .standard).generateApi (.ofText "out") "pets" ([updatePet] ++ [removePet]) =
        .ok [(.ofText "out/src/main/scala/io/swagger/client/api/PetsApi.scala",
          (ofSettings .standard).apiText "pets" [updateBlock, removeBlock])] ∧
      ∃ parts : MethodParts, parts.Of (ofSettings .standard) updatePet ∧
        updateBlock = Text.ofLines (parts.lines (ofSettings .standard) updatePet) ∧
        parts.passing.map ClientMethod.lastArgument = parts.entries.map ClientMethod.nameOfEntry := by
  have update : (ofSettings .standard).methodTexts [updatePet] = .ok [updateBlock] := by decide +kernel
  have remove : (ofSettings .standard).methodTexts [removePet] = .ok [removeBlock] := by decide +kernel
  have path : (ofSettings .standard).apiPath (.ofText "out") "pets" =
      .ofText "out/src/main/scala/io/swagger/client/api/PetsApi.scala" := by decide +kernel
  obtain ⟨file, concat, parts⟩ := api_file_blocks (ofSettings .standard) (.ofText "out") "pets"
  have both : (ofSettings .standard).methodTexts ([updatePet] ++ [removePet]) = .ok [updateBlock, removeBlock] := by
    rw [concat, update, remove]
    rfl
  refine ⟨both, ?_, ?_⟩
  · rw [file, both, path]
    rfl
  · cases parts _ _ update with
    | cons here none =>
        obtain ⟨-, parts, of, written⟩ := here
        exact ⟨parts, of, written, of.same_names.symm⟩

end Client

end PlayClient
