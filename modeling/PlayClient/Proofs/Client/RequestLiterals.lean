import PlayClient.Proofs.Client.ApiBlocks
import PlayClient.Proofs.Source.EscapedLiteral

set_option autoImplicit false

namespace PlayClient

/-! ## A method in parts -/

inductive RequestPart where
  | code (text : String)
  -- A text of the operation between two quotes, without quotes of its own.
  | quoted (text : String)
  deriving DecidableEq, Repr

namespace RequestPart

def text : RequestPart → String
  | .code text => text
  | .quoted text => "\"" ++ Source.withoutQuotes text ++ "\""

def written (parts : List RequestPart) : String := String.join (parts.map text)

theorem written_cons (part : RequestPart) (rest : List RequestPart) :
    written (part :: rest) = part.text ++ written rest := by
  rw [written, List.map_cons, String.join_cons, written]

theorem written_append (front back : List RequestPart) : written (front ++ back) = written front ++ written back := by
  rw [written, List.map_append, String.join_append, written, written]

-- The literal ends at its own quote, so that exactly what is written behind it is left.
def Closes (text : String) (after : List Char) : Prop :=
  ∃ meaning, Source.literalAt ((quoted text).text.toList ++ after) = some (meaning, after)

theorem closes_iff (text : String) (after : List Char) :
    Closes text after ↔ Even (Source.trailingEscapes (Source.withoutQuotes text).toList) := by
  have chars : (quoted text).text.toList ++ after = '"' :: ((Source.withoutQuotes text).toList ++ '"' :: after) := by
    simp [RequestPart.text]
  rw [Closes, chars]
  exact Source.closes_iff _ after (Source.without_quotes_quoteless text)

end RequestPart

namespace Client

open RequestPart (written)

variable (client : Client)

def callParts (parameter : Parameter) : List RequestPart :=
  if parameter.location = "body" then [.code ("      .withBody(" ++ client.termName parameter.baseName ++ ")\n")]
  else
    [.code ("      .with" ++ Text.capitalized parameter.location ++ "Param("), .quoted parameter.baseName,
     .code (", " ++ client.termName parameter.baseName ++ ")\n")]

def credentialParts (requirement : SecurityRequirement) : List RequestPart :=
  [.code "credentials(", .quoted requirement.scheme, .code (")" ++ if requirement.isLast then "" else ", ")]

def credentialsParts : List SecurityRequirement → List RequestPart
  | [] => []
  | requirements => .code "      .withCredentials(" :: requirements.flatMap credentialParts ++ [.code ")\n"]

theorem call_written (parameter : Parameter) (line : String) (passes : client.Passes parameter line) :
    written (client.callParts parameter) = line ++ "\n" := by
  have whole : line = callFront parameter ++ client.termName parameter.baseName ++ ")" := passes
  rw [whole]
  by_cases body : parameter.location = "body"
  · rw [callParts, callFront, if_pos body, if_pos body]
    simp [written, RequestPart.text, ← String.toList_inj]
  · rw [callParts, callFront, if_neg body, if_neg body]
    simp [written, RequestPart.text, ← String.toList_inj]

theorem calls_written (parameters : List Parameter) (lines : List String)
    (passes : List.Forall₂ client.Passes parameters lines) :
    written (parameters.flatMap client.callParts) = Text.ofLines lines := by
  induction passes with
  | nil => rfl
  | cons here _ ih =>
      rw [List.flatMap_cons, RequestPart.written_append, ih, client.call_written _ _ here]
      simp [Text.ofLines]

theorem credential_written (requirement : SecurityRequirement) :
    written (credentialParts requirement) = ClientMethod.credential requirement := by
  simp [credentialParts, written, RequestPart.text, ClientMethod.credential, ← String.toList_inj]

theorem credentials_written (requirements : List SecurityRequirement) :
    written (requirements.flatMap credentialParts) = String.join (requirements.map ClientMethod.credential) := by
  induction requirements with
  | nil => rfl
  | cons requirement rest ih =>
      rw [List.flatMap_cons, RequestPart.written_append, ih, credential_written, List.map_cons, String.join_cons]

theorem credential_line_written (security : Option (List SecurityRequirement)) :
    written (credentialsParts (security.getD [])) = Text.ofLines (ClientMethod.credentialLines security) := by
  rw [ClientMethod.credential_lines_text]
  cases listed : security.getD [] with
  | nil => rfl
  | cons first rest =>
      rw [if_neg (List.cons_ne_nil first rest), credentialsParts, List.cons_append, RequestPart.written_cons,
        RequestPart.written_append, credentials_written, String.append_assoc]
      · simp [written, RequestPart.text]
      · exact List.cons_ne_nil first rest

-- The texts of an operation that its method quotes.
inductive Quotes (operation : Operation) : String → Prop
  | path : Quotes operation operation.path
  | operationId : Quotes operation (operation.operationId.getD "")
  | parameter (parameter : Parameter) (declared : parameter ∈ operation.parameters)
      (named : parameter.location ≠ "body") : Quotes operation parameter.baseName
  | scheme (requirement : SecurityRequirement) (listed : requirement ∈ client.listed operation) :
      Quotes operation requirement.scheme

theorem quoted_in_call_iff (parameter : Parameter) (text : String) :
    .quoted text ∈ client.callParts parameter ↔ parameter.location ≠ "body" ∧ text = parameter.baseName := by
  by_cases body : parameter.location = "body" <;> simp [callParts, body]

theorem quoted_in_credentials_iff (requirements : List SecurityRequirement) (text : String) :
    .quoted text ∈ credentialsParts requirements ↔ ∃ requirement ∈ requirements, text = requirement.scheme := by
  cases requirements with
  | nil => simp [credentialsParts]
  | cons first rest => simp [credentialsParts, credentialParts]

end Client

namespace MethodParts

open RequestPart (written)

variable (client : Client) (operation : Operation) (parts : MethodParts)

def requestFront : String := "    " ++ parts.request ++ "(ApiMethods." ++ Text.uppercase operation.httpMethod

def signatureLines : List String :=
  "" :: client.docLines operation.summary ++
    ["  def " ++ parts.name ++ "(" ++ ", ".intercalate parts.entries ++ "): " ++ parts.request ++ " ="]

def requestParts : List RequestPart :=
  [.code (Text.ofLines (parts.signatureLines client operation) ++ (parts.requestFront operation ++ ", ")),
    .quoted operation.path, .code ", ", .quoted (operation.operationId.getD ""), .code ")\n"] ++
    operation.parameters.flatMap client.callParts ++
    [.code (Text.ofLines (parts.declared.map ClientMethod.statusLine))] ++
    Client.credentialsParts (client.listed operation)

theorem request_written (opening front path id : String) :
    written [.code (opening ++ (front ++ ", ")), .quoted path, .code ", ", .quoted id, .code ")\n"] =
      opening ++ Text.ofLines [front ++ ", \"" ++ Source.withoutQuotes path ++ "\", \"" ++
        Source.withoutQuotes id ++ "\")"] := by
  simp [written, RequestPart.text, Text.ofLines, ← String.toList_inj]

theorem lines_written (of : parts.Of client operation) :
    Text.ofLines (parts.lines client operation) = written (parts.requestParts client operation) := by
  have statuses : written [.code (Text.ofLines (parts.declared.map ClientMethod.statusLine))] =
      Text.ofLines (parts.declared.map ClientMethod.statusLine) := by
    simp [written, RequestPart.text]
  rw [requestParts, RequestPart.written_append, RequestPart.written_append, RequestPart.written_append,
    request_written, client.calls_written operation.parameters parts.passing of.passes, statuses, Client.listed,
    Client.credential_line_written, ← Text.of_lines_append, ← Text.of_lines_append, ← Text.of_lines_append,
    ← Text.of_lines_append]
  apply congrArg Text.ofLines
  simp only [lines, signatureLines, requestFront, List.append_assoc, List.cons_append, List.nil_append]
  rfl

theorem quoted_iff (text : String) :
    .quoted text ∈ parts.requestParts client operation ↔ client.Quotes operation text := by
  simp only [requestParts, List.mem_append, List.mem_cons, List.not_mem_nil, or_false, List.mem_flatMap,
    client.quoted_in_call_iff, Client.quoted_in_credentials_iff, RequestPart.quoted.injEq, reduceCtorEq, false_or]
  constructor
  · rintro (((same | same) | ⟨parameter, declared, named, same⟩) | ⟨requirement, listed, same⟩)
    · exact same ▸ .path
    · exact same ▸ .operationId
    · exact same ▸ .parameter parameter declared named
    · exact same ▸ .scheme requirement listed
  · rintro (_ | _ | ⟨parameter, declared, named⟩ | ⟨requirement, listed⟩)
    · exact Or.inl (Or.inl (Or.inl rfl))
    · exact Or.inl (Or.inl (Or.inr rfl))
    · exact Or.inl (Or.inr ⟨parameter, declared, named, rfl⟩)
    · exact Or.inr ⟨requirement, listed, rfl⟩

end MethodParts

namespace Client

open RequestPart (Closes written)

-- Quotes are taken out and backslashes are not, so a literal ends at its own quote exactly when
-- the backslashes in front of it come in pairs; no text behind it has a say.
theorem request_literals_close_iff (text : String) (after : List Char) :
    (Closes text after ↔ Even (Source.trailingEscapes (Source.withoutQuotes text).toList)) ∧
      ∀ (client : Client) operation block, client.methodText operation = .ok block →
        ∃ parts : MethodParts, parts.Of client operation ∧ block = written (parts.requestParts client operation) ∧
          (.quoted text ∈ parts.requestParts client operation ↔ client.Quotes operation text) := by
  refine ⟨RequestPart.closes_iff text after, ?_⟩
  intro client operation block done
  obtain ⟨parts, of, whole⟩ := client.method_text_parts operation block done
  exact ⟨parts, of, whole.trans (parts.lines_written client operation of), parts.quoted_iff client operation text⟩

def pairedUpdate : Operation :=
  { updatePet with path := "/pets\\\\", security := [⟨"key\\", .apiKey, true⟩], summary := none }

def pairedBlock : String :=
  Text.ofLines ["",
    "  def updatePet(petId: Long, \x60type\x60: Option[Map[String, Pet]] = None): ApiRequest[Pet] =",
    "    ApiRequest[Pet](ApiMethods.PUT, \"/pets\\\\\", \"updatePet\")",
    "      .withPathParam(\"pet-id\", petId)",
    "      .withBody(\x60type\x60)",
    "      .withSuccessResponse(201)",
    "      .withCredentials(credentials(\"key\\\"))"]

theorem paired_backslashes_close :
    (ofSettings .standard).methodText pairedUpdate = .ok pairedBlock ∧
      (∃ parts : MethodParts, parts.Of (ofSettings .standard) pairedUpdate ∧
        pairedBlock = written (parts.requestParts (ofSettings .standard) pairedUpdate) ∧
        .quoted "/pets\\\\" ∈ parts.requestParts (ofSettings .standard) pairedUpdate) ∧
      ∀ after, Closes "/pets\\\\" after ∧ ¬Closes "key\\" after := by
  have done : (ofSettings .standard).methodText pairedUpdate = .ok pairedBlock := by decide +kernel
  obtain ⟨parts, of, whole, quoted⟩ := (request_literals_close_iff "/pets\\\\" []).2 _ pairedUpdate pairedBlock done
  have even : Even (Source.trailingEscapes (Source.withoutQuotes "/pets\\\\").toList) := by decide +kernel
  have odd : ¬Even (Source.trailingEscapes (Source.withoutQuotes "key\\").toList) := by decide +kernel
  refine ⟨done, ⟨parts, of, whole, quoted.mpr .path⟩, ?_⟩
  intro after
  exact ⟨(request_literals_close_iff _ after).1.mpr even,
    fun closed => odd ((request_literals_close_iff _ after).1.mp closed)⟩

def backslashListing : Operation := ⟨some "listPets", "GET", "/pets\\", [], [], [], none⟩

-- The backslash at the end of the path keeps the quote behind it, so the literal runs on to
-- the opening quote of the next one.
theorem trailing_backslash_runs_on :
    (ofSettings .standard).methodText backslashListing =
        .ok ("\n  def listPets(): ApiRequest[Unit] =\n    ApiRequest[Unit](ApiMethods.GET, " ++
          "\"/pets\\\", \"listPets\")\n") ∧
      (∀ after, Source.literalAt ("\"/pets\\\", \"listPets\")\n".toList ++ after) =
        some ("/pets\", ".toList, "listPets\")\n".toList ++ after)) ∧
      ¬∀ text after, Closes text after := by
  refine ⟨by decide +kernel, fun after => rfl, ?_⟩
  intro all
  have even := (RequestPart.closes_iff "/pets\\" []).mp (all _ _)
  exact absurd even (by decide +kernel)

end Client

end PlayClient
