import PlayClient.Proofs.Client.FilesByPath
import PlayClient.Proofs.Client.InvokerFolder
import PlayClient.Proofs.FileSystem.PlainPaths

set_option autoImplicit false

namespace PlayClient

/-! ## Where support files go -/

theorem placed_relative (folder name : String) (relative : folder.toList.head? ≠ some '/')
    (lone : Path.ofText name = ⟨.relative, [name]⟩) :
    Path.ofText (placedIn folder name) = ⟨.relative, (Path.ofText folder).segments ++ [name]⟩ := by
  have name_relative : name.toList.head? ≠ some '/' := by
    rw [← Path.anchor_relative_iff]
    exact congrArg Path.anchor lone
  by_cases empty : folder = ""
  · rw [placedIn, if_pos empty, lone, empty]
    rfl
  · have single : folder ≠ "//" := by
      intro slashes
      rw [slashes] at relative
      exact relative rfl
    have anchor : (Path.ofText folder).anchor = .relative := (Path.anchor_relative_iff _).mpr relative
    rw [placed_path folder name empty single name_relative, Path.join_text_relative _ name name_relative, anchor, lone]

theorem placed_last (folder name : String) (lone : Path.ofText name = ⟨.relative, [name]⟩) :
    (Path.ofText (placedIn folder name)).segments.getLast? = some name := by
  by_cases empty : folder = ""
  · rw [placedIn, if_pos empty, lone]
    rfl
  · rw [placedIn, if_neg empty, Path.segments_slash, lone, List.getLast?_concat]

namespace Settings

-- The folders of sources and resources that a client has when none are given.
structure DefaultFolders (settings : Settings) : Prop where
  source : settings.sourceFolder = unset.sourceFolder
  resources : settings.resourcesFolder = unset.resourcesFolder

variable (settings : Settings)

theorem support_names :
    settings.supportFiles.map (·.name) =
      ["build.sbt", "reference.conf", "ApiFile.scala", "ApiConfig.scala", "ApiRequest.scala", "ApiResponse.scala",
       "ApiInvoker.scala", "ApiImplicits.scala"] :=
  rfl

theorem support_names_distinct : (settings.supportFiles.map (·.name)).Nodup := by
  rw [support_names]
  decide +kernel

theorem support_name_lone (file : SupportFile) (listed : file ∈ settings.supportFiles) :
    Path.ofText file.name = ⟨.relative, [file.name]⟩ ∧ file.name ≠ ".." := by
  have names : ∀ name ∈ settings.supportFiles.map (·.name),
      '/' ∉ name.toList ∧ Path.isSegment name = true ∧ name ≠ ".." := by
    rw [support_names]
    decide +kernel
  obtain ⟨slashless, counts, apart⟩ := names file.name (List.mem_map_of_mem listed)
  exact ⟨Path.lone_segment file.name slashless counts, apart⟩

-- The points of the invoker package all become slashes, so that none is left to lead up.
theorem invoker_folder_plain (folders : settings.DefaultFolders) :
    settings.invokerFolder.toList.head? ≠ some '/' ∧ ".." ∉ (Path.ofText settings.invokerFolder).segments := by
  have chars := settings.invoker_folder_chars
  rw [folders.source] at chars
  constructor
  · rw [chars]
    simp [unset]
  · intro up
    have undotted : '.' ∉ settings.invokerFolder.toList := by
      rw [chars]
      intro dot
      obtain ⟨c, -, same⟩ := List.mem_map.mp dot
      by_cases point : c = '.' <;> simp [point] at same
    exact undotted_segments _ undotted ".." up (by decide)

theorem support_folders_plain (folders : settings.DefaultFolders) (file : SupportFile)
    (listed : file ∈ settings.supportFiles) :
    file.folder.toList.head? ≠ some '/' ∧ ".." ∉ (Path.ofText file.folder).segments := by
  have rooted : ("" : String).toList.head? ≠ some '/' ∧ ".." ∉ (Path.ofText "").segments := by decide +kernel
  have configured : settings.resourcesFolder.toList.head? ≠ some '/' ∧
      ".." ∉ (Path.ofText settings.resourcesFolder).segments := by
    rw [folders.resources]
    decide +kernel
  have scaffolded := settings.invoker_folder_plain folders
  simp only [supportFiles, List.mem_cons, List.not_mem_nil, or_false] at listed
  rcases listed with same | same | same | same | same | same | same | same
  · exact same ▸ rooted
  · exact same ▸ configured
  all_goals exact same ▸ scaffolded

end Settings

-- Where a support file goes below the folder of the output.
def SupportFile.below (file : SupportFile) : Path := ⟨.relative, (Path.ofText file.folder).segments ++ [file.name]⟩

namespace Client

variable (settings : Settings) (output : Path)

theorem below_plain (folders : settings.DefaultFolders) (file : SupportFile) (listed : file ∈ settings.supportFiles) :
    FileSystem.Plain file.below := by
  refine ⟨rfl, ?_⟩
  rw [SupportFile.below, List.mem_append, List.mem_singleton, not_or]
  exact ⟨(settings.support_folders_plain folders file listed).2, Ne.symm (settings.support_name_lone file listed).2⟩

theorem support_file_below (folders : settings.DefaultFolders) (file : SupportFile)
    (listed : file ∈ settings.supportFiles) :
    ((ofSettings settings).supportFile output file).1 = output.join file.below := by
  obtain ⟨relative, -⟩ := settings.support_folders_plain folders file listed
  obtain ⟨lone, -⟩ := settings.support_name_lone file listed
  rw [supportFile, Path.joinText, SupportFile.destination, placed_relative file.folder file.name relative lone]
  rfl

theorem support_places (folders : settings.DefaultFolders) (system : FileSystem) (file : SupportFile)
    (listed : file ∈ settings.supportFiles) :
    system.place ((ofSettings settings).supportFile output file).1 = system.place output ++ file.below.segments := by
  rw [support_file_below settings output folders file listed]
  exact system.place_join output file.below (below_plain settings folders file listed)

theorem support_above (folders : settings.DefaultFolders) (system : FileSystem) (file : SupportFile)
    (listed : file ∈ settings.supportFiles) :
    FileSystem.Above (system.place ((ofSettings settings).supportFile output file).1) (system.place output) := by
  rw [support_places settings output folders system file listed]
  refine ⟨List.prefix_append _ _, ?_⟩
  simp [SupportFile.below]

-- The last segments tell the files apart, wherever the folders are.
theorem support_places_distinct (folders : settings.DefaultFolders) (system : FileSystem) :
    (settings.supportFiles.map fun file => system.place ((ofSettings settings).supportFile output file).1).Nodup := by
  apply List.Nodup.of_map List.getLast?
  have lasts : ∀ file ∈ settings.supportFiles,
      (system.place ((ofSettings settings).supportFile output file).1).getLast? = some file.name := by
    intro file listed
    rw [support_places settings output folders system file listed, SupportFile.below, ← List.append_assoc,
      List.getLast?_concat]
  have renamed : (settings.supportFiles.map fun file =>
        system.place ((ofSettings settings).supportFile output file).1).map List.getLast? =
      (settings.supportFiles.map (·.name)).map some := by
    rw [List.map_map, List.map_map]
    exact List.map_congr_left lasts
  rw [renamed]
  exact List.Nodup.map (fun _ _ => Option.some.inj) settings.support_names_distinct

theorem support_last (file : SupportFile) (listed : file ∈ settings.supportFiles) :
    ((ofSettings settings).supportFile output file).1.segments.getLast? = some file.name := by
  obtain ⟨lone, -⟩ := settings.support_name_lone file listed
  exact Path.join_last output _ file.name (placed_last file.folder file.name lone)

theorem support_paths_distinct :
    ((settings.supportFiles.map ((ofSettings settings).supportFile output)).map Prod.fst).Nodup := by
  apply List.Nodup.of_map fun path => path.segments.getLast?
  have named : ((settings.supportFiles.map ((ofSettings settings).supportFile output)).map Prod.fst).map
      (fun path => path.segments.getLast?) = (settings.supportFiles.map (·.name)).map some := by
    rw [List.map_map, List.map_map, List.map_map]
    exact List.map_congr_left (support_last settings output)
  rw [named]
  exact List.Nodup.map (fun _ _ => Option.some.inj) settings.support_names_distinct

theorem generated_support :
    (ofSettings settings).generateSupport output = settings.supportFiles.map ((ofSettings settings).supportFile output) :=
  Files.of_list_distinct _ (support_paths_distinct settings output)

theorem support_file_lookup (file : SupportFile) (listed : file ∈ settings.supportFiles) :
    List.lookup ((ofSettings settings).supportFile output file).1 ((ofSettings settings).generateSupport output) =
      some (file.page.text settings.supportValues) := by
  rw [generated_support]
  exact Files.lookup_distinct _ (support_paths_distinct settings output) _ _ (List.mem_map_of_mem listed)

end Client

end PlayClient
