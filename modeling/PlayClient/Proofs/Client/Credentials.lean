import PlayClient.Proofs.Api.SecurityMarks
import PlayClient.Proofs.Client.ModelLines

set_option autoImplicit false

namespace PlayClient

namespace ClientMethod

open SecurityRequirement (MarksLast)

def argument (scheme : String) : String := "credentials(\"" ++ Source.withoutQuotes scheme ++ "\")"

-- The arguments as they have to be: one for each scheme, a separator between any two.
def arguments (schemes : List String) : String := ", ".intercalate (schemes.map argument)

theorem arguments_cons (scheme next : String) (others : List String) :
    arguments (scheme :: next :: others) = argument scheme ++ (", " ++ arguments (next :: others)) := by
  rw [arguments, List.map_cons, List.map_cons, String.intercalate_cons_cons, String.append_assoc]
  rfl

theorem credential_split (requirement : SecurityRequirement) :
    credential requirement = argument requirement.scheme ++ if requirement.isLast then "" else ", " := rfl

theorem no_separator (scheme rest others : String) : argument scheme ++ rest ≠ ", " ++ others := by
  intro same
  have heads := congrArg (fun text : String => text.toList.head?) same
  simp [argument] at heads

-- Each mark stands for a separator that is left out, so the marks have to be right one by one.
theorem separated_iff (requirements : List SecurityRequirement) :
    String.join (requirements.map credential) = arguments (requirements.map (·.scheme)) ↔ MarksLast requirements := by
  induction requirements with
  | nil => simp [MarksLast, arguments]
  | cons requirement rest ih =>
      cases rest with
      | nil => cases marked : requirement.isLast <;> simp [MarksLast, arguments, credential_split, marked]
      | cons next others =>
          have later : String.join ((next :: others).map credential) = argument next.scheme ++
              ((if next.isLast then "" else ", ") ++ String.join (others.map credential)) := by
            rw [List.map_cons, String.join_cons, credential_split, String.append_assoc]
          have split : arguments ((requirement :: next :: others).map (·.scheme)) =
              argument requirement.scheme ++ (", " ++ arguments ((next :: others).map (·.scheme))) :=
            arguments_cons requirement.scheme next.scheme (others.map SecurityRequirement.scheme)
          rw [split, List.map_cons, String.join_cons, credential_split, String.append_assoc, String.append_right_inj,
            MarksLast, ← ih]
          cases marked : requirement.isLast with
          | false => simp
          | true =>
              rw [if_pos rfl, String.empty_append, later]
              simp [no_separator]

-- What a method reads above its credentials.
def requestText (client : Client) (method : ClientMethod) : Except GenerationError String := do
  let statuses ← method.statuses.mapError .status
  return "\n" ++ client.docBlock method.operation.summary ++
    Text.ofLines (method.signature ++ method.parameters.map (·.passing) ++ statuses.map statusLine)

theorem text_split (client : Client) (method : ClientMethod) :
    method.text client =
      (· ++ Text.ofLines (credentialLines method.security)) <$> method.requestText client := by
  simp only [text, requestText, map_bind, map_pure, Text.of_lines_append, String.append_assoc]

theorem credential_lines_text (security : Option (List SecurityRequirement)) :
    Text.ofLines (credentialLines security) =
      if security.getD [] = [] then ""
      else "      .withCredentials(" ++ String.join ((security.getD []).map credential) ++ ")\n" := by
  match security with
  | none => rfl
  | some [] => rfl
  | some (first :: rest) => simp [credentialLines, Text.ofLines, String.append_assoc]

end ClientMethod

namespace Client

open SecurityRequirement (kept MarksLast)

variable (client : Client) (operation : Operation)

-- The method of an operation as it is written.
def methodText (client : Client) (operation : Operation) : Except GenerationError String := do
  let method ← client.clientMethod operation
  method.text client

theorem no_security : (client.security []).getD [] = [] := by
  cases mode : client.settings.removeOAuthSecurities <;>
    simp [security, SecurityRequirement.rendered, SecurityRequirement.markLast, mode]

-- The security of an operation shows at the end of its method and nowhere else.
theorem method_text_split :
    client.methodText operation =
      (· ++ Text.ofLines (ClientMethod.credentialLines (client.security operation.security))) <$>
        client.methodText { operation with security := [] } := by
  have bare : Text.ofLines (ClientMethod.credentialLines (client.security [])) = "" := by
    rw [ClientMethod.credential_lines_text, no_security, if_pos rfl]
  simp only [methodText, clientMethod, bind_assoc, pure_bind, map_bind, ClientMethod.text_split, Functor.map_map, bare,
    String.append_empty]
  rfl

-- What the method lists: the requirements that are kept, with the marks that the text goes by.
def listed : List SecurityRequirement := (client.security operation.security).getD []

-- The line is there for any requirement that is kept and lists them in order. Its separators
-- go by the marks, which are set anew only where OAuth is removed.
theorem credentials_rendered :
    (client.listed operation).map (·.scheme) =
        (kept client.settings.removeOAuthSecurities operation.security).map (·.scheme) ∧
      client.methodText operation =
        (· ++ if kept client.settings.removeOAuthSecurities operation.security = [] then ""
          else "      .withCredentials(" ++ String.join ((client.listed operation).map ClientMethod.credential) ++ ")\n") <$>
          client.methodText { operation with security := [] } ∧
      (String.join ((client.listed operation).map ClientMethod.credential) =
          ClientMethod.arguments ((kept client.settings.removeOAuthSecurities operation.security).map (·.scheme)) ↔
        client.settings.removeOAuthSecurities = true ∨ MarksLast operation.security) := by
  have schemes : (client.listed operation).map (·.scheme) =
      (kept client.settings.removeOAuthSecurities operation.security).map (·.scheme) :=
    SecurityRequirement.rendered_schemes _ _
  have none : client.listed operation = [] ↔ kept client.settings.removeOAuthSecurities operation.security = [] := by
    have empty := congrArg (fun names : List String => names = []) schemes
    simpa using empty
  refine ⟨schemes, ?_, ?_⟩
  · rw [method_text_split, ClientMethod.credential_lines_text]
    simp only [← none]
    rfl
  · rw [← schemes, ClientMethod.separated_iff]
    exact SecurityRequirement.rendered_marks_iff _ _

def keepingOAuth : Client := .ofSettings { Settings.standard with removeOAuthSecurities := false }

def unmarkedListing : Operation := ⟨some "listPets", "GET", "/pets", [], [], [⟨"api_key", .apiKey, false⟩], none⟩

-- A lone requirement that is not marked as the last is followed by a separator.
theorem unmarked_credentials_trail :
    ∃ front, keepingOAuth.methodText { unmarkedListing with security := [] } = .ok front ∧
      keepingOAuth.methodText unmarkedListing = .ok (front ++ "      .withCredentials(credentials(\"api_key\"), )\n") ∧
      keepingOAuth.methodText unmarkedListing ≠
        .ok (front ++ "      .withCredentials(" ++ ClientMethod.arguments ["api_key"] ++ ")\n") := by
  refine ⟨"\n  def listPets(): ApiRequest[Unit] =\n    ApiRequest[Unit](ApiMethods.GET, \"/pets\", \"listPets\")\n",
    ?_, ?_, ?_⟩
  all_goals decide +kernel

end Client

end PlayClient
