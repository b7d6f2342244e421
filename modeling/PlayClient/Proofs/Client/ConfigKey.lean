import PlayClient.Proofs.Client.ModelLines
import PlayClient.Proofs.Client.SupportPaths
import PlayClient.Proofs.Source.EscapedLiteral

set_option autoImplicit false

namespace PlayClient

namespace Settings

variable (settings : Settings)

-- The key under which the base URL stands in the configuration of the application.
def baseUrlKey : String := settings.configPath ++ ".api.baseUrl"

def configFile : SupportFile := ⟨.apiConfig, settings.invokerFolder, "ApiConfig.scala"⟩

-- The page of the configuration as far as the argument of its look-up.
def lookupFront : String :=
  Text.ofLines [
    "package " ++ settings.invokerPackage,
    "",
    "import com.typesafe.config.Config",
    "",
    "/**",
    " * Settings read from the `" ++ settings.configPath ++ ".api` section of the configuration.",
    " */",
    "case class ApiConfig(baseUrl: String)",
    "",
    "object ApiConfig \x7b",
    "  def apply(config: Config): ApiConfig = ApiConfig("] ++ "    baseUrl = config.getString("

def lookupBack : String := ")\n  )\n\x7d\n"

theorem config_text_split : SupportPage.apiConfigText settings.supportValues =
    settings.lookupFront ++ (Source.stringLiteral settings.baseUrlKey ++ lookupBack) := by
  have cut : ∀ literal : String, Text.ofLines ["    baseUrl = config.getString(" ++ literal ++ ")", "  )", "\x7d"] =
      "    baseUrl = config.getString(" ++ (literal ++ lookupBack) := by
    intro literal
    simp [Text.ofLines, lookupBack, ← String.toList_inj]
  rw [lookupFront, String.append_assoc, ← cut, ← Text.of_lines_append]
  rfl

theorem config_file_listed : settings.configFile ∈ settings.supportFiles := by
  simp [configFile, supportFiles]

end Settings

namespace Client

theorem config_key_read_back :
    (∀ text, (Source.stringLiteral text).toList =
        '"' :: Source.replaced '"' ['\\', '"'] (Source.replaced '\\' ['\\', '\\'] text.toList) ++ ['"']) ∧
      (∀ text after, Source.literalAt ((Source.stringLiteral text).toList ++ after) = some (text.toList, after)) ∧
      Function.Injective Source.stringLiteral ∧
      ∀ settings output, ∃ page argument,
        List.lookup ((ofSettings settings).supportFile output settings.configFile).1
          ((ofSettings settings).generateSupport output) = some page ∧
        page.toList = settings.lookupFront.toList ++ argument ∧
        Source.literalAt argument = some (settings.baseUrlKey.toList, Settings.lookupBack.toList) := by
  refine ⟨?_, Source.string_literal_read, Source.string_literal_injective, ?_⟩
  · intro text
    rw [Source.stringLiteral, String.toList_ofList, Source.escape_in_passes]
  · intro settings output
    refine ⟨_, (Source.stringLiteral settings.baseUrlKey ++ Settings.lookupBack).toList,
      support_file_lookup settings output settings.configFile settings.config_file_listed, ?_, ?_⟩
    · rw [← String.toList_append, ← settings.config_text_split]
      rfl
    · rw [String.toList_append]
      exact Source.string_literal_read settings.baseUrlKey Settings.lookupBack.toList

end Client

end PlayClient
