import PlayClient.Proofs.Client.InvokerFolder
import PlayClient.Proofs.Client.ModelFiles

set_option autoImplicit false

namespace PlayClient

-- No part of a package begins with a slash, which would discard the folders before it.
def PartsRelative (package : String) : Prop := ∀ part ∈ Text.splitAt '.' package, part.toList.head? ≠ some '/'

instance (package : String) : Decidable (PartsRelative package) :=
  inferInstanceAs (Decidable (∀ part ∈ Text.splitAt '.' package, part.toList.head? ≠ some '/'))

theorem source_parts_joined (source package : String) (relative : source.toList.head? ≠ some '/')
    (parts : PartsRelative package) :
    Path.ofTexts source (Text.splitAt '.' package) =
      ⟨.relative, (Path.ofText source).segments ++ markSegments package⟩ := by
  have anchored : (Path.ofText source).anchor = .relative := (Path.anchor_relative_iff _).mpr relative
  rw [Path.ofTexts, Path.join_texts_relative _ _ parts, anchored, mark_segments_of_parts]

-- A folder written with slashes between its texts is the one that they are joined to.
theorem written_folder (output source package : String) (named : ∃ c ∈ output.toList, c ≠ '/')
    (relative : source.toList.head? ≠ some '/') (parts : PartsRelative package) :
    Path.ofText (output ++ "/" ++ source ++ "/" ++ packageFolder package) =
      (Path.ofText output).join (Path.ofTexts source (Text.splitAt '.' package)) := by
  rw [source_parts_joined source package relative parts, Path.join_relative _ _ rfl, Path.of_text_eq_iff]
  constructor
  · -- The slashes in front end within the output folder.
    have stops : ∃ c ∈ output.toList, (c == '/') = false := by simpa using named
    have same := Path.leading_append (· == '/') output.toList
      ("/" ++ source ++ "/" ++ packageFolder package).toList stops
    rw [← String.toList_append, ← String.append_assoc, ← String.append_assoc, ← String.append_assoc] at same
    rw [Path.ofText, Path.anchor_of_eq_iff, same]
    simp [Path.SameAnchor]
  · rw [Path.segments_slash, Path.segments_slash, package_folder_segments, List.append_assoc]

namespace Client

variable (client : Client)

theorem parent_of_child (folder : Path) (name : String) : (folder.child name).parent = folder := by
  rw [Path.child, Path.parent, List.dropLast_concat]

theorem model_files_parent (output : Path) (models : List Model) (files : Files)
    (generated : client.generateModels output models = .ok files) (file : Path × String) (member : file ∈ files) :
    file.1.parent = client.packagePath output client.settings.modelPackage := by
  have paths := (client.generated_models output models files generated).paths
  have named : file.1 ∈ (models.map (client.modelPath output)).eraseDups := paths ▸ List.mem_map_of_mem member
  obtain ⟨model, -, same⟩ := List.mem_map.mp (List.mem_eraseDups.mp named)
  rw [← same, modelPath, parent_of_child]

theorem api_files_parent (output : Path) (name : String) (operations : List Operation) (files : Files)
    (generated : client.generateApi output name operations = .ok files) (file : Path × String) (member : file ∈ files) :
    file.1.parent = client.packagePath output client.settings.apiPackage := by
  obtain ⟨text, same⟩ := client.generated_api output name operations files generated
  rw [same, List.mem_singleton] at member
  rw [member, apiPath, parent_of_child]

-- What the settings announce as the folders of models and of APIs is where their files
-- go, when the output goes where the settings say.
theorem announced_folders_hold (named : ∃ c ∈ client.settings.outputFolder.toList, c ≠ '/')
    (relative : client.settings.sourceFolder.toList.head? ≠ some '/') :
    (PartsRelative client.settings.modelPackage →
      Path.ofText client.settings.modelFolder =
          (Path.ofText client.settings.outputFolder).join
            (Path.ofTexts client.settings.sourceFolder (Text.splitAt '.' client.settings.modelPackage)) ∧
        ∀ models files, client.generateModels (.ofText client.settings.outputFolder) models = .ok files →
          ∀ file ∈ files, file.1.parent = Path.ofText client.settings.modelFolder) ∧
      (PartsRelative client.settings.apiPackage →
        Path.ofText client.settings.apiFolder =
            (Path.ofText client.settings.outputFolder).join
              (Path.ofTexts client.settings.sourceFolder (Text.splitAt '.' client.settings.apiPackage)) ∧
          ∀ name operations files,
            client.generateApi (.ofText client.settings.outputFolder) name operations = .ok files →
              ∀ file ∈ files, file.1.parent = Path.ofText client.settings.apiFolder) := by
  constructor
  · intro parts
    have folder := written_folder _ _ client.settings.modelPackage named relative parts
    refine ⟨folder, ?_⟩
    intro models files generated file member
    exact (client.model_files_parent _ models files generated file member).trans folder.symm
  · intro parts
    have folder := written_folder _ _ client.settings.apiPackage named relative parts
    refine ⟨folder, ?_⟩
    intro name operations files generated file member
    exact (client.api_files_parent _ name operations files generated file member).trans folder.symm

def nestedClient : Client := .ofSettings {
  Settings.standard with
  outputFolder := "//srv/./client/", sourceFolder := "src//main/scala-2.12/..",
  modelPackage := "io..swagger/v1.model", apiPackage := "io.swagger/.api" }

theorem nested_folders_hold :
    (Path.ofText nestedClient.settings.modelFolder =
        ⟨.doubleSlash, ["srv", "client", "src", "main", "scala-2.12", "..", "io", "swagger", "v1", "model"]⟩ ∧
      ∃ files, nestedClient.generateModels (.ofText "//srv/./client/") [⟨"pet", [], [], none⟩] = .ok files ∧
        files.map Prod.fst = [.ofText "//srv/client/src/main/scala-2.12/../io/swagger/v1/model/Pet.scala"] ∧
        ∀ file ∈ files, file.1.parent = Path.ofText nestedClient.settings.modelFolder) ∧
      Path.ofText nestedClient.settings.apiFolder =
          ⟨.doubleSlash, ["srv", "client", "src", "main", "scala-2.12", "..", "io", "swagger", "api"]⟩ ∧
        ∃ files, nestedClient.generateApi (.ofText "//srv/./client/") "pets" [] = .ok files ∧
          ∀ file ∈ files, file.1.parent = Path.ofText nestedClient.settings.apiFolder := by
  have named : ∃ c ∈ nestedClient.settings.outputFolder.toList, c ≠ '/' := ⟨'s', by decide +kernel, by decide⟩
  have relative : nestedClient.settings.sourceFolder.toList.head? ≠ some '/' := by decide +kernel
  have model_parts : PartsRelative nestedClient.settings.modelPackage := by decide +kernel
  have api_parts : PartsRelative nestedClient.settings.apiPackage := by decide +kernel
  obtain ⟨models, apis⟩ := announced_folders_hold nestedClient named relative
  obtain ⟨model_folder, model_files⟩ := models model_parts
  obtain ⟨api_folder, api_files⟩ := apis api_parts
  have built : ∀ model ∈ [(⟨"pet", [], [], none⟩ : Model)], ∃ page, nestedClient.modelPage model = .ok page := by
    simpa using nestedClient.page_without_fields "pet" [] none
  obtain ⟨files, generated⟩ := (nestedClient.generate_models_total (.ofText "//srv/./client/") _).mpr built
  have paths := (nestedClient.generated_models _ _ files generated).paths
  obtain ⟨others, written⟩ := nestedClient.api_without_methods (.ofText "//srv/./client/") "pets"
  refine ⟨⟨model_folder.trans (by decide +kernel), files, generated, paths.trans (by decide +kernel), ?_⟩,
    api_folder.trans (by decide +kernel), others, written, ?_⟩
  · exact model_files _ files generated
  · exact api_files "pets" [] others written

end Client

end PlayClient
