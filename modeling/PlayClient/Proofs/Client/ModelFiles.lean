import PlayClient.Proofs.Client.FilesByPath
import PlayClient.Proofs.Outcome
import PlayClient.Proofs.Path
import PlayClient.Proofs.Schema.SiblingImports

set_option autoImplicit false

namespace PlayClient.Client

-- A class name without its back quotes.
def stem (className : String) : String := String.ofList (className.toList.filter (· ≠ Naming.escapeMark))

variable (client : Client) (output : Path)

def className (model : Model) : String := client.dialect.modelName model.name

def modelPath (model : Model) : Path :=
  (client.packagePath output client.settings.modelPackage).child (stem (client.className model) ++ ".scala")

/-! ## Names of files -/

theorem source_name_lone (name : String) (slashless : '/' ∉ name.toList) :
    '/' ∉ (name ++ ".scala").toList ∧ Path.isSegment (name ++ ".scala") = true := by
  constructor
  · simp [slashless]
  · have long : ∀ short : String, short.length < 6 → name ++ ".scala" ≠ short := by
      intro short bound same
      have lengths := congrArg String.length same
      rw [String.length_append, show ".scala".length = 6 from rfl] at lengths
      omega
    simp [Path.isSegment, long "" (by decide), long "." (by decide)]

theorem class_name_eq_iff (model other : Model) :
    client.className model = client.className other ↔
      Naming.baseName .type model.name = Naming.baseName .type other.name :=
  Naming.normalized_eq_iff .type client.reserved model.name other.name

-- The reserved words decide on the back quotes, which the file name drops, and on nothing else.
theorem stem_class_name (model : Model) : stem (client.className model) = Naming.baseName .type model.name := by
  obtain ⟨marks, all, chars⟩ := Naming.normalized_around .type client.reserved model.name
  have bare : ∀ c ∈ (Naming.baseName .type model.name).toList, c ≠ Naming.escapeMark := fun c member =>
    (Naming.identifier_part_safe c ((Naming.base_name_parts .type model.name).2 c member)).1
  have inner : (Naming.baseName .type model.name).toList.filter (· ≠ Naming.escapeMark) =
      (Naming.baseName .type model.name).toList := List.filter_eq_self.mpr (by simpa using bare)
  have outer : marks.filter (· ≠ Naming.escapeMark) = [] := List.filter_eq_nil_iff.mpr (by simpa using all)
  apply String.toList_inj.mp
  rw [stem, String.toList_ofList]
  change List.filter _ (Naming.normalize .type client.reserved model.name).normalized.toList = _
  rw [chars, List.filter_append, List.filter_append, inner, outer, List.nil_append, List.append_nil]

theorem file_name_of_class (model : Model) :
    modelFileName (client.className model) = stem (client.className model) ++ ".scala" := by
  obtain ⟨marks, all, chars⟩ := Naming.normalized_around .type client.reserved model.name
  have bare : ∀ c ∈ (Naming.baseName .type model.name).toList, (c == Naming.escapeMark) = false := fun c member =>
    beq_eq_false_iff_ne.mpr
      (Naming.identifier_part_safe c ((Naming.base_name_parts .type model.name).2 c member)).1
  have dropped := Text.drop_at_ends_around (· == Naming.escapeMark) marks _ marks (by simpa using all) bare
    (by simpa using all)
  rw [← chars] at dropped
  rw [stem_class_name, modelFileName]
  change String.ofList (Text.dropAtEnds _ (Naming.normalize .type client.reserved model.name).normalized.toList) ++ _ = _
  rw [dropped, String.ofList_toList]

theorem base_name_slashless (model : Model) : '/' ∉ (Naming.baseName .type model.name).toList := by
  intro slash
  have part := (Naming.base_name_parts .type model.name).2 '/' slash
  exact absurd part (by decide)

theorem model_path_eq_iff (model other : Model) :
    client.modelPath output model = client.modelPath output other ↔ client.className model = client.className other := by
  rw [modelPath, modelPath, Path.child_eq_iff, String.append_left_inj, stem_class_name, stem_class_name,
    class_name_eq_iff]

/-! ## Files of models -/

theorem page_of_model (model : Model) (page : ModelPage) (built : client.modelPage model = .ok page) :
    page.className = client.className model ∧ page.description = model.description := by
  obtain ⟨processed, kept, built⟩ := (Outcome.bind_ok_iff _ _ _).mp built
  obtain ⟨fields, -, same⟩ := (Outcome.bind_ok_iff _ _ _).mp built
  obtain ⟨siblings, -, dropped⟩ := (Outcome.bind_ok_iff _ _ _).mp kept
  cases dropped
  cases same
  refine ⟨?_, rfl⟩
  rw [className]

theorem model_file_ok_iff (model : Model) (file : Path × String) :
    client.modelFile output model = .ok file ↔
      ∃ page, client.modelPage model = .ok page ∧ file = (client.modelPath output model, page.text client) := by
  rw [modelFile, Outcome.bind_ok_iff]
  refine exists_congr fun page => ?_
  rw [Outcome.map_error_ok_iff]
  refine and_congr_right fun built => ?_
  obtain ⟨named, -⟩ := client.page_of_model model page built
  obtain ⟨slashless, counts⟩ := source_name_lone _ (base_name_slashless model)
  rw [← client.stem_class_name] at slashless counts
  rw [named, file_name_of_class]
  dsimp only
  rw [Path.join_text_lone _ _ slashless counts]
  exact ⟨fun same => (Except.ok.inj same).symm, fun same => congrArg Except.ok same.symm⟩

theorem page_without_fields (name : String) (imports : List String) (description : Option String) :
    ∃ page, client.modelPage ⟨name, [], imports, description⟩ = .ok page := ⟨_, rfl⟩

theorem page_declares (model : Model) (page : ModelPage) (built : client.modelPage model = .ok page) :
    page.text client = Text.ofLines page.header ++ client.docBlock model.description ++
      ("case class " ++ client.className model ++ "(\n" ++
        Text.ofLines (Field.lines page.fields ++ [")"] ++ page.companion)) := by
  obtain ⟨named, described⟩ := client.page_of_model model page built
  rw [ModelPage.text, ModelPage.classLines, named, described]
  simp [Text.ofLines, String.append_assoc]

theorem generate_models_ok_iff (models : List Model) (files : Files) :
    client.generateModels output models = .ok files ↔
      ∃ rendered, List.Forall₂ (fun model file => client.modelFile output model = .ok file) models rendered ∧
        files = Files.ofList rendered := by
  rw [generateModels, Outcome.bind_ok_iff]
  refine exists_congr fun rendered => ?_
  rw [Outcome.traverse_ok_iff]
  exact and_congr_right fun _ => ⟨fun same => (Except.ok.inj same).symm, fun same => congrArg Except.ok same.symm⟩

theorem rendered_paths (models : List Model) (rendered : List (Path × String))
    (related : List.Forall₂ (fun model file => client.modelFile output model = .ok file) models rendered) :
    rendered.map Prod.fst = models.map (client.modelPath output) := by
  induction related with
  | nil => rfl
  | cons here _ ih =>
      obtain ⟨page, -, same⟩ := (client.model_file_ok_iff output _ _).mp here
      rw [List.map_cons, List.map_cons, ih, same]

-- What the files of a list of models are, by path: one for each class name.
structure FilesOfModels (models : List Model) (files : Files) : Prop where
  -- Each where the first model of its class name stands.
  paths : files.map Prod.fst = (models.map (client.modelPath output)).eraseDups
  -- Each with the text of the last model of its class name.
  contents : ∀ before model after, models = before ++ model :: after →
    (∀ later ∈ after, client.className later ≠ client.className model) →
    ∃ page, client.modelPage model = .ok page ∧
      List.lookup (client.modelPath output model) files = some (page.text client)

theorem generated_models (models : List Model) (files : Files)
    (generated : client.generateModels output models = .ok files) : client.FilesOfModels output models files := by
  obtain ⟨rendered, related, same⟩ := (client.generate_models_ok_iff output models files).mp generated
  refine ⟨?_, ?_⟩
  · rw [same, Files.of_list_paths, client.rendered_paths output models rendered related]
  · intro before model after split last
    subst split
    obtain ⟨early, file, late, split, here, later⟩ := Outcome.related_around _ before model after rendered related
    obtain ⟨page, built, named⟩ := (client.model_file_ok_iff output model file).mp here
    refine ⟨page, built, ?_⟩
    rw [same, split, named]
    apply Files.of_list_last
    rw [client.rendered_paths output after late later]
    intro again
    obtain ⟨other, member, shared⟩ := List.mem_map.mp again
    exact last other member ((client.model_path_eq_iff output other model).mp shared)

theorem generate_models_total (models : List Model) :
    (∃ files, client.generateModels output models = .ok files) ↔
      ∀ model ∈ models, ∃ page, client.modelPage model = .ok page := by
  constructor
  · intro generated model member
    obtain ⟨files, done⟩ := generated
    obtain ⟨rendered, related, -⟩ := (client.generate_models_ok_iff output models files).mp done
    obtain ⟨file, -, here⟩ := Outcome.related_item _ _ _ related model member
    obtain ⟨page, built, -⟩ := (client.model_file_ok_iff output model file).mp here
    exact ⟨page, built⟩
  · intro built
    have total : ∀ model ∈ models, ∃ file, client.modelFile output model = .ok file := by
      intro model member
      obtain ⟨page, here⟩ := built model member
      exact ⟨_, (client.model_file_ok_iff output model _).mpr ⟨page, here, rfl⟩⟩
    obtain ⟨rendered, traversed⟩ := Outcome.traverse_total _ models total
    have related := (Outcome.traverse_ok_iff _ _ _).mp traversed
    exact ⟨_, (client.generate_models_ok_iff output models _).mpr ⟨rendered, related, rfl⟩⟩

/-! ## The file of an API -/

def apiPath (name : String) : Path :=
  (client.packagePath output client.settings.apiPackage).child (apiClassName name ++ ".scala")

theorem api_class_name_word (name : String) : Naming.IsWord (apiClassName name).toList := by
  rw [apiClassName, String.toList_append]
  have letters : "Api".toList.all Naming.isWordChar = true := by decide
  exact ⟨by simp, List.forall_mem_append.mpr ⟨Naming.camel_case_chars .type name, List.all_eq_true.mp letters⟩⟩

theorem api_path_joined (name : String) :
    (client.packagePath output client.settings.apiPackage).joinText (apiClassName name ++ ".scala") =
      client.apiPath output name := by
  have slashless : '/' ∉ (apiClassName name).toList := by
    intro slash
    exact absurd ((api_class_name_word name).2 '/' slash) (by decide)
  obtain ⟨bare, counts⟩ := source_name_lone _ slashless
  rw [apiPath, Path.join_text_lone _ _ bare counts]

theorem generated_api (name : String) (operations : List Operation) (files : Files)
    (generated : client.generateApi output name operations = .ok files) :
    ∃ text, files = [(client.apiPath output name, text)] := by
  obtain ⟨page, built, generated⟩ := (Outcome.bind_ok_iff _ _ _).mp generated
  obtain ⟨text, -, same⟩ := (Outcome.bind_ok_iff _ _ _).mp generated
  obtain ⟨methods, -, paged⟩ := (Outcome.bind_ok_iff _ _ _).mp built
  cases paged
  cases same
  exact ⟨text, by rw [api_path_joined]⟩

theorem api_without_methods (name : String) : ∃ files, client.generateApi output name [] = .ok files := ⟨_, rfl⟩

-- A name from the description gives one name below the folder of its package, and
-- models share it only with their class name.
theorem generated_paths_named (models : List Model) :
    ((∃ files, client.generateModels output models = .ok files) ↔
        ∀ model ∈ models, ∃ page, client.modelPage model = .ok page) ∧
      (∀ files, client.generateModels output models = .ok files → client.FilesOfModels output models files) ∧
      (∀ model other, client.modelPath output model = client.modelPath output other ↔
        client.className model = client.className other) ∧
      (∀ model,
        (Naming.IsWord (stem (client.className model)).toList ∨ stem (client.className model) = Naming.emptyName) ∧
        client.dialect.typeOf (.object model.name) = .ok (client.className model) ∧
        ∀ page, client.modelPage model = .ok page → ∃ body,
          page.text client = Text.ofLines page.header ++ client.docBlock model.description ++
            ("case class " ++ client.className model ++ "(\n" ++ body)) ∧
      ∀ name operations files, client.generateApi output name operations = .ok files →
        ∃ word text, Naming.IsWord (word ++ "Api").toList ∧
          files = [((client.packagePath output client.settings.apiPackage).child (word ++ "Api" ++ ".scala"), text)] := by
  refine ⟨client.generate_models_total output models, client.generated_models output models,
    client.model_path_eq_iff output, ?_, ?_⟩
  · intro model
    refine ⟨?_, client.dialect.type_of_object model.name, ?_⟩
    · rw [stem_class_name]
      exact Naming.base_name_kinds .type model.name
    · intro page built
      exact ⟨_, client.page_declares model page built⟩
  · intro name operations files generated
    obtain ⟨text, same⟩ := client.generated_api output name operations files generated
    exact ⟨Naming.typeName name, text, api_class_name_word name, same⟩

def ownerClient : Client := .ofSettings { Settings.standard with extraReservedWords := ["Owner"] }

def lastOwner : Model := ⟨"Owner", [], [], some "Keeps pets."⟩

def owners : List Model := [⟨"owner", [], [], none⟩, ⟨"pet-tag", [], [], none⟩, lastOwner]

theorem owner_files_named :
    (∃ files page, ownerClient.generateModels (.ofText "out") owners = .ok files ∧
      ownerClient.modelPage lastOwner = .ok page ∧
      files.map Prod.fst = [.ofText "out/src/main/scala/io/swagger/client/model/Owner.scala",
        .ofText "out/src/main/scala/io/swagger/client/model/PetTag.scala"] ∧
      List.lookup (.ofText "out/src/main/scala/io/swagger/client/model/Owner.scala") files =
        some (page.text ownerClient) ∧
      ∃ body, page.text ownerClient = Text.ofLines page.header ++ ownerClient.docBlock (some "Keeps pets.") ++
        ("case class \x60Owner\x60(\n" ++ body)) ∧
      ∃ files, ownerClient.generateApi (.ofText "out") "pet-store" [] = .ok files ∧ ∃ word text,
        Naming.IsWord (word ++ "Api").toList ∧
        files = [((Path.ofText "out/src/main/scala/io/swagger/client/api").child (word ++ "Api" ++ ".scala"), text)] := by
  obtain ⟨total, each, -, named, apis⟩ := generated_paths_named ownerClient (.ofText "out") owners
  have built : ∀ model ∈ owners, ∃ page, ownerClient.modelPage model = .ok page := by
    simp only [owners, List.forall_mem_cons]
    have page := ownerClient.page_without_fields
    exact ⟨page _ _ _, page _ _ _, page _ _ _, by simp⟩
  have path : ownerClient.modelPath (.ofText "out") lastOwner =
      .ofText "out/src/main/scala/io/swagger/client/model/Owner.scala" := by decide +kernel
  have quoted : ownerClient.className lastOwner = "\x60Owner\x60" := by decide +kernel
  have folder : ownerClient.packagePath (.ofText "out") ownerClient.settings.apiPackage =
      .ofText "out/src/main/scala/io/swagger/client/api" := by decide +kernel
  constructor
  · obtain ⟨files, generated⟩ := total.mpr built
    obtain ⟨paths, contents⟩ := each files generated
    obtain ⟨page, here, found⟩ := contents (owners.take 2) lastOwner [] rfl (by simp)
    obtain ⟨body, text⟩ := (named lastOwner).2.2 page here
    rw [path] at found
    rw [quoted] at text
    exact ⟨files, page, generated, here, paths.trans (by decide +kernel), found, body, text⟩
  · obtain ⟨files, generated⟩ := ownerClient.api_without_methods (.ofText "out") "pet-store"
    obtain ⟨word, text, kind, same⟩ := apis "pet-store" [] files generated
    rw [folder] at same
    exact ⟨files, generated, word, text, kind, same⟩

/-! ## A file for each model -/

def OneFileEach (models : List Model) (files : Files) : Prop :=
  files.length = models.length ∧ ∀ model ∈ models, ∃ file ∈ files, client.modelFile output model = .ok file

-- Names that come out the same lose all models but the last, whatever the settings are.
theorem one_file_each_iff (models : List Model) (files : Files)
    (generated : client.generateModels output models = .ok files) :
    client.OneFileEach output models files ↔ (models.map fun model => Naming.baseName .type model.name).Nodup := by
  obtain ⟨rendered, related, same⟩ := (client.generate_models_ok_iff output models files).mp generated
  have paths := client.rendered_paths output models rendered related
  have apart : (models.map (client.modelPath output)).Nodup ↔
      (models.map fun model => Naming.baseName .type model.name).Nodup := by
    apply Distinct.nodup_agree
    intro model other
    rw [model_path_eq_iff, class_name_eq_iff]
  rw [← apart]
  constructor
  · intro each
    have counted := congrArg List.length (client.generated_models output models files generated).paths
    rw [List.length_map, each.1, ← List.length_map (client.modelPath output)] at counted
    exact (Distinct.first_places_length_iff _).mp counted.symm
  · intro distinct
    rw [← paths] at distinct
    rw [same, Files.of_list_distinct rendered distinct]
    refine ⟨related.length_eq.symm, ?_⟩
    intro model member
    exact Outcome.related_item _ _ _ related model member

def tagAndOwner : List Model := [⟨"pet-tag", [], [], none⟩, ⟨"owner", [], [], some "Keeps pets."⟩]

theorem tag_and_owner_files : ∃ files, ownerClient.generateModels (.ofText "out") tagAndOwner = .ok files ∧
    ownerClient.OneFileEach (.ofText "out") tagAndOwner files := by
  have built : ∀ model ∈ tagAndOwner, ∃ page, ownerClient.modelPage model = .ok page := by
    simp only [tagAndOwner, List.forall_mem_cons]
    exact ⟨ownerClient.page_without_fields _ _ _, ownerClient.page_without_fields _ _ _, by simp⟩
  obtain ⟨files, generated⟩ := (ownerClient.generate_models_total (.ofText "out") tagAndOwner).mpr built
  have distinct : (tagAndOwner.map fun model => Naming.baseName .type model.name).Nodup := by decide +kernel
  exact ⟨files, generated, (one_file_each_iff ownerClient (.ofText "out") tagAndOwner files generated).mpr distinct⟩

def casedPets : List Model := [⟨"pet", [], [], none⟩, ⟨"Pet", [], [], some "For sale."⟩]

-- Two names that differ in the case of their first letter have one file.
theorem cased_names_share_file :
    (casedPets.map (·.name)).Nodup ∧ ∃ files, (ofSettings .standard).generateModels (.ofText "out") casedPets = .ok files ∧
      files.map Prod.fst = [.ofText "out/src/main/scala/io/swagger/client/model/Pet.scala"] ∧
      ¬ (ofSettings .standard).OneFileEach (.ofText "out") casedPets files := by
  have built : ∀ model ∈ casedPets, ∃ page, (ofSettings .standard).modelPage model = .ok page := by
    simp only [casedPets, List.forall_mem_cons]
    exact ⟨page_without_fields _ _ _ _, page_without_fields _ _ _ _, by simp⟩
  obtain ⟨files, generated⟩ := ((ofSettings .standard).generate_models_total (.ofText "out") casedPets).mpr built
  have paths : files.map Prod.fst = [.ofText "out/src/main/scala/io/swagger/client/model/Pet.scala"] :=
    ((ofSettings .standard).generated_models (.ofText "out") casedPets files generated).paths.trans (by decide +kernel)
  refine ⟨by decide +kernel, files, generated, paths, ?_⟩
  intro each
  have one := congrArg List.length paths
  rw [List.length_map, each.1] at one
  exact absurd one (by decide)

end PlayClient.Client
