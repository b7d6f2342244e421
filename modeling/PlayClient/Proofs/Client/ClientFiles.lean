import PlayClient.Proofs.Client.ModelFiles
import PlayClient.Proofs.Client.SupportPaths

set_option autoImplicit false

namespace PlayClient

namespace Files

-- The files at some of the paths.
def restrict (files : Files) (paths : List Path) : Files := files.filter (·.1 ∈ paths)

theorem restrict_apart (files : Files) (paths : List Path) (apart : ∀ file ∈ files, file.1 ∉ paths) :
    files.restrict paths = [] :=
  List.filter_eq_nil_iff.mpr (by simpa using apart)

theorem restrict_part (before part after : Files) (distinct : ((before ++ part ++ after).map Prod.fst).Nodup) :
    (before ++ part ++ after : Files).restrict (part.map Prod.fst) = part := by
  rw [List.map_append, List.map_append] at distinct
  obtain ⟨front, -, later⟩ := List.nodup_append.mp distinct
  obtain ⟨-, -, earlier⟩ := List.nodup_append.mp front
  have none_before : restrict before (part.map Prod.fst) = [] := by
    apply restrict_apart
    intro file member known
    exact earlier file.1 (List.mem_map_of_mem member) file.1 known rfl
  have none_after : restrict after (part.map Prod.fst) = [] := by
    apply restrict_apart
    intro file member known
    exact later file.1 (List.mem_append_right _ known) file.1 (List.mem_map_of_mem member) rfl
  have all : restrict part (part.map Prod.fst) = part := by
    apply List.filter_eq_self.mpr
    intro file member
    exact decide_eq_true (List.mem_map_of_mem member)
  rw [restrict] at none_before none_after all ⊢
  rw [List.filter_append, List.filter_append, none_before, none_after, all, List.nil_append, List.append_nil]

theorem restrict_parts (first second third : Files) (distinct : ((first ++ second ++ third).map Prod.fst).Nodup) :
    (first ++ second ++ third : Files).restrict (first.map Prod.fst) = first ∧
      (first ++ second ++ third : Files).restrict (second.map Prod.fst) = second ∧
      (first ++ second ++ third : Files).restrict (third.map Prod.fst) = third := by
  refine ⟨?_, restrict_part first second third distinct, ?_⟩
  · have front := restrict_part [] first (second ++ third)
    rw [List.nil_append, ← List.append_assoc] at front
    exact front distinct
  · have back := restrict_part (first ++ second) third []
    rw [List.append_nil] at back
    exact back distinct

end Files

/-! ## Groups of files -/

-- The folder that a file is in tells the files of a client apart, the build file left aside.
def Path.group? (path : Path) : Option String :=
  if path.segments.getLast? = some "build.sbt" then none else path.segments.dropLast.getLast?

theorem Path.group_of_child (path folder : Path) (inner name : String)
    (here : path = (folder.child inner).child name) (other : name ≠ "build.sbt") : path.group? = some inner := by
  simp [here, Path.child, Path.group?, other]

theorem split_last (package name : String) (undotted : '.' ∉ name.toList) :
    Text.splitAt '.' (package ++ "." ++ name) = Text.splitAt '.' package ++ [name] := by
  have chars : (package ++ "." ++ name).toList = package.toList ++ '.' :: name.toList := by simp
  rw [Text.splitAt, chars, Text.pieces_append _ _ _ _ rfl, Text.pieces_without '.' _ undotted, List.map_append]
  simp [Text.splitAt]

namespace Client

variable (client : Client) (output : Path)

theorem package_path_inner (package name : String) (undotted : '.' ∉ name.toList) (slashless : '/' ∉ name.toList)
    (counts : Path.isSegment name = true) :
    client.packagePath output (package ++ "." ++ name) = (client.packagePath output package).child name := by
  rw [packagePath, split_last package name undotted, Path.ofTexts, List.foldl_append, ← Path.ofTexts]
  rw [List.foldl_cons, List.foldl_nil, Path.joinText, ← Path.join_assoc, ← Path.joinText,
    Path.join_text_lone _ name slashless counts, packagePath]

theorem source_name_apart (name : String) : name ++ ".scala" ≠ "build.sbt" := by
  intro same
  have last := congrArg (fun text : String => text.toList.getLast?) same
  simp at last

theorem model_path_group (package : String) (placed : client.settings.modelPackage = package ++ "." ++ "model")
    (model : Model) : (client.modelPath output model).group? = some "model" := by
  refine Path.group_of_child _ (client.packagePath output package) "model"
    (stem (client.className model) ++ ".scala") ?_ (source_name_apart _)
  rw [modelPath, placed, package_path_inner _ _ _ _ (by decide) (by decide) (by decide)]

theorem api_path_group (package : String) (placed : client.settings.apiPackage = package ++ "." ++ "api")
    (name : String) : (client.apiPath output name).group? = some "api" := by
  refine Path.group_of_child _ (client.packagePath output package) "api" (apiClassName name ++ ".scala") ?_
    (source_name_apart _)
  rw [apiPath, placed, package_path_inner _ _ _ _ (by decide) (by decide) (by decide)]

end Client

namespace Settings

variable (settings : Settings)

theorem invoker_folder_inner (package : String) (placed : settings.invokerPackage = package ++ "." ++ "core") :
    ∃ front, (Path.ofText settings.invokerFolder).segments = front ++ ["core"] := by
  have folder : settings.invokerFolder = packageFolder (settings.sourceFolder ++ "/" ++ package) ++ "/" ++ "core" := by
    apply String.toList_inj.mp
    rw [invoker_folder_chars, placed]
    simp [packageFolder]
  have core : (Path.ofText "core").segments = ["core"] := by decide
  rw [folder, Path.segments_slash, core]
  exact ⟨_, rfl⟩

theorem support_path_group (folders : settings.DefaultFolders) (package : String)
    (placed : settings.invokerPackage = package ++ "." ++ "core") (output : Path) (file : SupportFile)
    (listed : file ∈ settings.supportFiles) :
    ((Client.ofSettings settings).supportFile output file).1.group? ∈ [none, some "resources", some "core"] := by
  have inner : ∀ front folder, (Path.ofText file.folder).segments = front ++ [folder] → file.name ≠ "build.sbt" →
      (output.join file.below).group? = some folder := by
    intro front folder segments other
    apply Path.group_of_child _ ⟨output.anchor, output.segments ++ front⟩ folder file.name _ other
    simp [SupportFile.below, Path.join, Path.child, segments]
  have resources : (Path.ofText settings.resourcesFolder).segments = ["src", "main"] ++ ["resources"] := by
    rw [folders.resources]
    decide +kernel
  obtain ⟨front, scaffolding⟩ := settings.invoker_folder_inner package placed
  rw [Client.support_file_below settings output folders file listed]
  simp only [supportFiles, List.mem_cons, List.not_mem_nil, or_false] at listed
  rcases listed with same | same | same | same | same | same | same | same
  · simp [same, SupportFile.below, Path.join, Path.group?]
  · rw [inner _ "resources" (by rw [same, resources]) (by simp [same])]
    decide
  all_goals
    rw [inner front "core" (by rw [same, scaffolding]) (by simp [same])]
    decide

-- Settings that follow from a main package alone.
structure FollowsMain (main : String) : Prop where
  folders : settings.DefaultFolders
  invoker : settings.invokerPackage = main ++ "." ++ "core"
  api : settings.apiPackage = main ++ "." ++ "api"
  model : settings.modelPackage = main ++ "." ++ "model"

theorem follows_main (main : String) (given : main ≠ "") :
    ∃ settings, complete { unset with mainPackage := main } = .ok settings ∧ settings.FollowsMain main := by
  refine ⟨derived { unset with mainPackage := main }, by rw [complete, if_neg given], ?_⟩
  have inner : ∀ text, main ++ "." ++ text = main ++ ("." ++ text) := fun text => String.append_assoc
  exact ⟨⟨rfl, rfl⟩, (inner "core").symm, (inner "api").symm, (inner "model").symm⟩

end Settings

namespace Client

theorem generate_ok (client : Client) (output : Path) (models : List Model) (apiName : String)
    (operations : List Operation) (files : Files)
    (generated : client.generate output models apiName operations = .ok files) :
    ∃ modelFiles apiFiles, client.generateModels output models = .ok modelFiles ∧
      (if operations = [] then apiFiles = [] else client.generateApi output apiName operations = .ok apiFiles) ∧
      files = ((client.generateSupport output).merge modelFiles).merge apiFiles := by
  obtain ⟨modelFiles, done, generated⟩ := (Outcome.bind_ok_iff _ _ _).mp generated
  refine ⟨modelFiles, ?_⟩
  cases operations with
  | nil =>
      simp only [List.isEmpty_nil, if_true] at generated
      refine ⟨[], done, by rw [if_pos rfl], ?_⟩
      rw [Files.merge, List.foldl_nil]
      exact (Except.ok.inj generated).symm
  | cons first rest =>
      simp only [List.isEmpty_cons, Bool.false_eq_true, if_false] at generated
      obtain ⟨apiFiles, rendered, same⟩ := (Outcome.bind_ok_iff _ _ _).mp generated
      refine ⟨apiFiles, done, ?_, (Except.ok.inj same).symm⟩
      rw [if_neg (List.cons_ne_nil first rest)]
      exact rendered

section

variable (main : String) (settings : Settings) (follows : settings.FollowsMain main) (output : Path)

include follows

theorem support_group (path : Path) (listed : path ∈ ((ofSettings settings).generateSupport output).map Prod.fst) :
    path.group? ∈ [none, some "resources", some "core"] := by
  rw [generated_support settings output, List.map_map] at listed
  obtain ⟨file, member, same⟩ := List.mem_map.mp listed
  exact same ▸ settings.support_path_group follows.folders main follows.invoker output file member

theorem models_group (models : List Model) (files : Files)
    (generated : (ofSettings settings).generateModels output models = .ok files) (path : Path)
    (listed : path ∈ files.map Prod.fst) : path.group? = some "model" := by
  rw [((ofSettings settings).generated_models output models files generated).paths, List.mem_eraseDups] at listed
  obtain ⟨model, -, same⟩ := List.mem_map.mp listed
  exact same ▸ (ofSettings settings).model_path_group output main follows.model model

theorem api_group (name : String) (operations : List Operation) (files : Files)
    (generated : (ofSettings settings).generateApi output name operations = .ok files) (path : Path)
    (listed : path ∈ files.map Prod.fst) : path.group? = some "api" := by
  obtain ⟨text, same⟩ := (ofSettings settings).generated_api output name operations files generated
  have here : path = (ofSettings settings).apiPath output name := by simpa [same] using listed
  exact here ▸ (ofSettings settings).api_path_group output main follows.api name

theorem groups_distinct (modelFiles apiFiles : Files) (models : List Model) (name : String)
    (operations : List Operation)
    (generated : (ofSettings settings).generateModels output models = .ok modelFiles)
    (rendered : if operations = [] then apiFiles = []
      else (ofSettings settings).generateApi output name operations = .ok apiFiles) :
    (((ofSettings settings).generateSupport output ++ modelFiles ++ apiFiles).map Prod.fst).Nodup := by
  have support := support_group main settings follows output
  have model := models_group main settings follows output models modelFiles generated
  have support_distinct : (((ofSettings settings).generateSupport output).map Prod.fst).Nodup := by
    rw [generated_support settings output]
    exact support_paths_distinct settings output
  have model_distinct : (modelFiles.map Prod.fst).Nodup := by
    rw [((ofSettings settings).generated_models output models modelFiles generated).paths]
    exact Distinct.first_places_nodup _
  have front : (((ofSettings settings).generateSupport output ++ modelFiles).map Prod.fst).Nodup := by
    rw [List.map_append, List.nodup_append]
    refine ⟨support_distinct, model_distinct, ?_⟩
    intro path left other right same
    have kind := support path left
    rw [same, model other right] at kind
    exact absurd kind (by decide)
  by_cases none : operations = []
  · rw [if_pos none] at rendered
    rw [rendered, List.append_nil]
    exact front
  · rw [if_neg none] at rendered
    have api := api_group main settings follows output name operations apiFiles rendered
    obtain ⟨text, lone⟩ := (ofSettings settings).generated_api output name operations apiFiles rendered
    have api_distinct : (apiFiles.map Prod.fst).Nodup := by
      rw [lone]
      exact List.nodup_singleton _
    rw [List.map_append, List.nodup_append]
    refine ⟨front, api_distinct, ?_⟩
    intro path left other right same
    rw [List.map_append, List.mem_append] at left
    cases left with
    | inl listed =>
        have kind := support path listed
        rw [same, api other right] at kind
        exact absurd kind (by decide)
    | inr listed =>
        have kind := model path listed
        rw [same, api other right] at kind
        exact absurd kind (by decide)

omit follows

theorem generated_models_length (client : Client) (models : List Model) (files : Files)
    (generated : client.generateModels output models = .ok files) :
    files.length = (models.map client.className).eraseDups.length := by
  rw [← List.length_map Prod.fst, (client.generated_models output models files generated).paths]
  exact Distinct.first_places_counted _ _ (client.model_path_eq_iff output) models

end

-- The three groups of files stand behind one another as they were generated: none of
-- them touches a file of another, whatever the main package is.
theorem client_files_apart (main : String) (given : main ≠ "") :
    ∃ settings, Settings.complete { Settings.unset with mainPackage := main } = .ok settings ∧
      ∀ output models apiName operations files,
        (ofSettings settings).generate output models apiName operations = .ok files →
        ∃ modelFiles apiFiles,
          (ofSettings settings).generateModels output models = .ok modelFiles ∧
          (if operations = [] then apiFiles = []
            else (ofSettings settings).generateApi output apiName operations = .ok apiFiles) ∧
          files = (ofSettings settings).generateSupport output ++ modelFiles ++ apiFiles ∧
          (files.map Prod.fst).Nodup ∧
          files.length = 8 + (models.map (ofSettings settings).className).eraseDups.length +
            (if operations = [] then 0 else 1) ∧
          files.restrict (((ofSettings settings).generateSupport output).map Prod.fst) =
            (ofSettings settings).generateSupport output ∧
          files.restrict (modelFiles.map Prod.fst) = modelFiles ∧
          files.restrict (apiFiles.map Prod.fst) = apiFiles := by
  obtain ⟨settings, completed, follows⟩ := Settings.follows_main main given
  refine ⟨settings, completed, ?_⟩
  intro output models apiName operations files generated
  obtain ⟨modelFiles, apiFiles, done, rendered, merged⟩ :=
    (ofSettings settings).generate_ok output models apiName operations files generated
  have distinct := groups_distinct main settings follows output modelFiles apiFiles models apiName operations done rendered
  have front : (((ofSettings settings).generateSupport output ++ modelFiles).map Prod.fst).Nodup := by
    rw [List.map_append] at distinct
    exact (List.nodup_append.mp distinct).1
  have whole : files = (ofSettings settings).generateSupport output ++ modelFiles ++ apiFiles := by
    rw [merged, Files.merge_new _ _ front, Files.merge_new _ _ distinct]
  have eight : ((ofSettings settings).generateSupport output).length = 8 := by
    rw [generated_support settings output, List.length_map]
    rfl
  have api_length : apiFiles.length = if operations = [] then 0 else 1 := by
    by_cases none : operations = []
    · rw [if_pos none] at rendered ⊢
      rw [rendered, List.length_nil]
    · rw [if_neg none] at rendered ⊢
      obtain ⟨text, lone⟩ := (ofSettings settings).generated_api output apiName operations apiFiles rendered
      rw [lone, List.length_singleton]
  refine ⟨modelFiles, apiFiles, done, rendered, whole, whole ▸ distinct, ?_, ?_⟩
  · rw [whole, List.length_append, List.length_append, eight, api_length,
      generated_models_length output (ofSettings settings) models modelFiles done]
  · rw [whole]
    exact Files.restrict_parts _ _ _ distinct

def shopSettings : Settings := { Settings.unset with mainPackage := "/acme.shop" }.derived

def listing : Operation := ⟨some "listPets", "GET", "/pets", [], [], [], none⟩

-- The slash in front takes the models and the API out of the folder of the output.
theorem slashed_client_files :
    Settings.complete { Settings.unset with mainPackage := "/acme.shop" } = .ok shopSettings ∧
      ∃ files modelFiles apiFiles,
        (ofSettings shopSettings).generate (.ofText "out") casedPets "store" [listing] = .ok files ∧
        files = (ofSettings shopSettings).generateSupport (.ofText "out") ++ modelFiles ++ apiFiles ∧
        (files.map Prod.fst).Nodup ∧ files.length = 10 ∧
        modelFiles.map Prod.fst = [.ofText "/acme/shop/model/Pet.scala"] ∧
        files.restrict [.ofText "/acme/shop/model/Pet.scala"] = modelFiles := by
  have shop : Settings.complete { Settings.unset with mainPackage := "/acme.shop" } = .ok shopSettings := by
    rw [Settings.complete, if_neg (by decide)]
    rfl
  have total : ((ofSettings shopSettings).generate (.ofText "out") casedPets "store" [listing]).isOk = true := by
    decide +kernel
  have one : (casedPets.map (ofSettings shopSettings).className).eraseDups.length = 1 := by decide +kernel
  obtain ⟨settings, completed, apart⟩ := client_files_apart "/acme.shop" (by decide)
  cases Except.ok.inj (completed.symm.trans shop)
  cases generated : (ofSettings shopSettings).generate (.ofText "out") casedPets "store" [listing] with
  | error fault =>
      rw [generated] at total
      cases total
  | ok files =>
      obtain ⟨modelFiles, apiFiles, done, -, whole, distinct, counted, -, models, -⟩ :=
        apart (.ofText "out") casedPets "store" [listing] files generated
      have paths : modelFiles.map Prod.fst = [.ofText "/acme/shop/model/Pet.scala"] :=
        ((ofSettings shopSettings).generated_models _ _ _ done).paths.trans (by decide +kernel)
      rw [one, if_neg (List.cons_ne_nil _ _)] at counted
      rw [paths] at models
      exact ⟨shop, files, modelFiles, apiFiles, rfl, whole, distinct, counted, paths, models⟩

end Client

end PlayClient
