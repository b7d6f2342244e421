import PlayClient.Client.Generation
import PlayClient.Proofs.Path

set_option autoImplicit false

namespace PlayClient

-- The characters that the folder of a package takes for separators.
def isMark (c : Char) : Bool := c == '/' || c == '.'

-- The segments of a text whose points count as slashes.
def markSegments (text : String) : List String :=
  ((Text.pieces isMark text.toList).map String.ofList).filter Path.isSegment

theorem mark_segments_undotted (text segment : String) (member : segment ∈ markSegments text) :
    '.' ∉ segment.toList := by
  obtain ⟨piece, found, same⟩ := List.mem_map.mp (List.mem_filter.mp member).1
  rw [← same, String.toList_ofList]
  exact Text.separator_not_mem_piece isMark '.' rfl text.toList piece found

theorem mark_segments_slash (front back : String) :
    markSegments (front ++ "/" ++ back) = markSegments front ++ markSegments back := by
  have chars : (front ++ "/" ++ back).toList = front.toList ++ '/' :: back.toList := by simp
  rw [markSegments, chars, Text.pieces_append isMark _ _ '/' rfl, List.map_append, List.filter_append]
  rfl

theorem mark_segments_dotted (text : String) : markSegments text = (Text.splitAt '.' text).flatMap markSegments := by
  have both : (fun c => c == '.' || isMark c) = isMark := by
    funext c
    by_cases dot : c = '.' <;> simp [isMark, dot]
  have cut := Text.pieces_refine (· == '.') isMark text.toList
  rw [both] at cut
  rw [markSegments, cut]
  simp [Text.splitAt, markSegments, List.map_flatMap, List.filter_flatMap, List.flatMap_map]

theorem mark_segments_empty_iff (text : String) : markSegments text = [] ↔ ∀ c ∈ text.toList, isMark c = true := by
  rw [← Text.pieces_all_empty]
  simp only [markSegments, List.filter_eq_nil_iff, List.mem_map]
  constructor
  · intro none piece found
    have undotted := Text.separator_not_mem_piece isMark '.' rfl text.toList piece found
    cases (Path.not_segment_iff piece).mp (none _ ⟨piece, found, rfl⟩) with
    | inl empty => exact empty
    | inr point => simp [point] at undotted
  · intro empty segment found
    obtain ⟨piece, member, same⟩ := found
    rw [← same]
    exact (Path.not_segment_iff piece).mpr (.inl (empty piece member))

theorem cut_at_points (parts : List (List Char))
    (undotted : ∀ segment ∈ (parts.map String.ofList).filter Path.isSegment, '.' ∉ segment.toList) :
    ((parts.flatMap (Text.pieces (· == '.'))).map String.ofList).filter Path.isSegment =
      (parts.map String.ofList).filter Path.isSegment := by
  induction parts with
  | nil => rfl
  | cons part rest ih =>
      rw [List.map_cons, List.filter_cons] at undotted
      rw [List.flatMap_cons, List.map_append, List.filter_append, List.map_cons, List.filter_cons]
      by_cases counts : Path.isSegment (String.ofList part) = true
      · rw [if_pos counts] at undotted ⊢
        obtain ⟨here, later⟩ := List.forall_mem_cons.mp undotted
        rw [String.toList_ofList] at here
        rw [ih later, Text.pieces_without '.' part here]
        simp [counts]
      · rw [if_neg counts] at undotted ⊢
        rw [ih undotted]
        cases (Path.not_segment_iff part).mp counts with
        | inl empty =>
            rw [empty]
            rfl
        | inr point =>
            rw [point]
            rfl

-- Points that are cut at are lost, so the two ways of cutting agree only where no
-- segment has any.
theorem mark_segments_eq_iff (text : String) :
    markSegments text = (Path.ofText text).segments ↔
      ∀ segment ∈ (Path.ofText text).segments, '.' ∉ segment.toList := by
  constructor
  · intro same segment member
    rw [← same] at member
    exact mark_segments_undotted text segment member
  · intro undotted
    have cut : Text.pieces isMark text.toList = _ := Text.pieces_refine (· == '/') (· == '.') text.toList
    rw [markSegments, cut]
    exact cut_at_points _ undotted

theorem undotted_segments (text : String) (undotted : '.' ∉ text.toList) :
    ∀ segment ∈ (Path.ofText text).segments, '.' ∉ segment.toList := by
  intro segment member dot
  obtain ⟨piece, found, same⟩ := List.mem_map.mp (List.mem_filter.mp member).1
  rw [← same, String.toList_ofList] at dot
  have inside : '.' ∈ (Text.pieces (· == '/') text.toList).flatten := List.mem_flatten_of_mem found dot
  rw [Text.pieces_flatten] at inside
  exact undotted (List.mem_filter.mp inside).1

theorem mark_segments_of_parts (package : String) :
    markSegments package = (Text.splitAt '.' package).flatMap fun part => (Path.ofText part).segments := by
  rw [mark_segments_dotted]
  apply List.flatMap_congr
  intro part member
  have undotted := Text.separator_not_mem_split '.' package part member
  exact (mark_segments_eq_iff part).mpr (undotted_segments part undotted)

theorem package_folder_segments (package : String) :
    (Path.ofText (packageFolder package)).segments = markSegments package := by
  simp only [Path.ofText, Text.splitAt, packageFolder, String.toList_ofList, markSegments]
  rw [Text.pieces_map (· == '/') isMark]
  · intro c
    by_cases dot : c = '.' <;> simp [isMark, dot]
  · intro c apart
    have other : c ≠ '.' := by
      intro same
      simp [same, isMark] at apart
    simp [other]

theorem placed_path (folder name : String) (present : folder ≠ "") (single : folder ≠ "//")
    (relative : name.toList.head? ≠ some '/') :
    Path.ofText (placedIn folder name) = (Path.ofText folder).joinText name := by
  rw [Path.join_text_relative _ name relative, placedIn, if_neg present, Path.of_text_eq_iff]
  constructor
  · have chars : folder.toList ≠ [] := by simpa using present
    have pair : folder.toList ≠ ['/', '/'] := fun same => single (String.toList_inj.mp same)
    have chars_of : (String.ofList (Text.dropAtEnd (· == '/') folder.toList) ++ "/" ++ name).toList =
        Text.dropAtEnd (· == '/') folder.toList ++ '/' :: name.toList := by simp
    rw [chars_of]
    exact Path.trimmed_anchor folder.toList name.toList chars pair relative
  · rw [Path.segments_slash, Path.segments_trimmed]

namespace Settings

variable (settings : Settings)

theorem invoker_folder_chars :
    settings.invokerFolder.toList =
      (settings.sourceFolder ++ "/" ++ settings.invokerPackage).toList.map fun c => if c = '.' then '/' else c := by
  rw [invokerFolder, packageFolder, String.toList_ofList]

theorem invoker_folder_leading :
    Path.leading (· == '/') settings.invokerFolder.toList =
      Path.leading isMark (settings.sourceFolder ++ "/" ++ settings.invokerPackage).toList := by
  rw [invoker_folder_chars, Path.leading, List.takeWhile_map, List.length_map, Path.leading]
  congr 2
  funext c
  by_cases dot : c = '.' <;> simp [isMark, dot]

theorem invoker_folder_segments :
    (Path.ofText settings.invokerFolder).segments =
      (settings.sourceFolder :: Text.splitAt '.' settings.invokerPackage).flatMap markSegments := by
  rw [invokerFolder, package_folder_segments, mark_segments_slash, mark_segments_dotted settings.invokerPackage,
    List.flatMap_cons]

theorem rooted_segments_iff (before : List String) (root : String) (after : List String)
    (rooted : Path.RootedAt (settings.sourceFolder :: Text.splitAt '.' settings.invokerPackage) before root after) :
    (Path.ofText settings.invokerFolder).segments =
        (Path.ofText root).segments ++ (after.flatMap fun text => (Path.ofText text).segments) ↔
      (∀ text ∈ before, ∀ c ∈ text.toList, isMark c = true) ∧
        ∀ segment ∈ (Path.ofText root).segments, '.' ∉ segment.toList := by
  have undotted : ∀ text ∈ after, '.' ∉ text.toList := by
    intro text member
    have within : text ∈ Text.splitAt '.' settings.invokerPackage := by
      have tails := congrArg List.tail rooted.whole
      rw [List.tail_cons] at tails
      rw [tails]
      cases before <;> simp [member]
    exact Text.separator_not_mem_split '.' settings.invokerPackage text within
  have tails : after.flatMap markSegments = after.flatMap fun text => (Path.ofText text).segments := by
    apply List.flatMap_congr
    intro text member
    exact (mark_segments_eq_iff text).mpr (undotted_segments text (undotted text member))
  rw [invoker_folder_segments, rooted.whole, List.flatMap_append, List.flatMap_cons, tails, ← List.append_assoc,
    List.append_cancel_right_eq, ← mark_segments_eq_iff]
  constructor
  · intro same
    cases before with
    | nil => exact ⟨by simp, same⟩
    | cons first others =>
        have within : root ∈ Text.splitAt '.' settings.invokerPackage := by
          rw [(List.cons.inj rooted.whole).2]
          simp
        have cut := (mark_segments_eq_iff root).mpr
          (undotted_segments root (Text.separator_not_mem_split '.' settings.invokerPackage root within))
        rw [cut, List.append_left_eq_self, List.flatMap_eq_nil_iff] at same
        refine ⟨?_, cut⟩
        intro text member
        exact (mark_segments_empty_iff text).mp (same text member)
  · intro cut
    have none : before.flatMap markSegments = [] := by
      rw [List.flatMap_eq_nil_iff]
      intro text member
      exact (mark_segments_empty_iff text).mpr (cut.1 text member)
    rw [none, cut.2, List.nil_append]

theorem rooted_agrees_iff (before : List String) (root : String) (after : List String)
    (rooted : Path.RootedAt (settings.sourceFolder :: Text.splitAt '.' settings.invokerPackage) before root after) :
    Path.ofText settings.invokerFolder =
        Path.ofTexts settings.sourceFolder (Text.splitAt '.' settings.invokerPackage) ↔
      (∀ text ∈ before, ∀ c ∈ text.toList, isMark c = true) ∧
        (∀ segment ∈ (Path.ofText root).segments, '.' ∉ segment.toList) ∧
        Path.SameAnchor (Path.leading isMark (settings.sourceFolder ++ "/" ++ settings.invokerPackage).toList)
          (Path.leading (· == '/') root.toList) := by
  rw [Path.of_texts_rooted _ _ before root after rooted, ← and_assoc,
    ← settings.rooted_segments_iff before root after rooted, ← settings.invoker_folder_leading,
    ← Path.anchor_of_eq_iff, Path.of_text_eq_iff]
  exact And.comm

theorem root_length_le (before : List String) (root : String) (after : List String)
    (rooted : Path.RootedAt (settings.sourceFolder :: Text.splitAt '.' settings.invokerPackage) before root after) :
    root.toList.length ≤ settings.sourceFolder.toList.length + settings.invokerPackage.toList.length := by
  have member : root ∈ settings.sourceFolder :: Text.splitAt '.' settings.invokerPackage := by
    rw [rooted.whole]
    simp
  cases List.mem_cons.mp member with
  | inl same => simp [same]
  | inr later =>
      obtain ⟨piece, found, same⟩ := List.mem_map.mp later
      have short := Text.length_of_mem_pieces _ _ piece found
      rw [← same, String.toList_ofList]
      omega

-- Two slashes are more than one text of the joined path can begin with.
theorem slashes_disagree (doubled : settings.invokerFolder = "//") :
    Path.ofText settings.invokerFolder ≠
      Path.ofTexts settings.sourceFolder (Text.splitAt '.' settings.invokerPackage) := by
  intro agrees
  obtain ⟨before, root, after, rooted⟩ :=
    Path.rooted_exists settings.sourceFolder (Text.splitAt '.' settings.invokerPackage)
  have anchors := ((settings.rooted_agrees_iff before root after rooted).mp agrees).2.2
  rw [← settings.invoker_folder_leading, doubled] at anchors
  have two : Path.leading (· == '/') root.toList = 2 := anchors.2.mp (by decide)
  have length : settings.sourceFolder.toList.length + settings.invokerPackage.toList.length = 1 := by
    have chars := congrArg List.length settings.invoker_folder_chars
    rw [doubled] at chars
    simp at chars ⊢
    omega
  have short := settings.root_length_le before root after rooted
  have start : Path.leading (· == '/') root.toList ≤ root.toList.length :=
    (List.takeWhile_sublist _).length_le
  omega

theorem invoker_file_names (file : SupportFile) (listed : file ∈ settings.supportFiles) (rooted : file.page ≠ .build)
    (configured : file.page ≠ .reference) :
    file.folder = settings.invokerFolder ∧ file.name.toList.head? = some 'A' := by
  simp only [supportFiles, List.mem_cons, List.not_mem_nil, or_false] at listed
  rcases listed with same | same | same | same | same | same | same | same
  · simp [same] at rooted
  · simp [same] at configured
  all_goals simp [same]

end Settings

namespace Client

theorem support_file_joined (settings : Settings)
    (agrees : Path.ofText settings.invokerFolder =
      Path.ofTexts settings.sourceFolder (Text.splitAt '.' settings.invokerPackage))
    (output : Path) (file : SupportFile) (listed : file ∈ settings.supportFiles) (rooted : file.page ≠ .build)
    (configured : file.page ≠ .reference) :
    ((ofSettings settings).supportFile output file).1 =
      ((ofSettings settings).packagePath output settings.invokerPackage).joinText file.name := by
  obtain ⟨placed, named⟩ := settings.invoker_file_names file listed rooted configured
  have present : settings.invokerFolder ≠ "" := by
    intro empty
    have chars := settings.invoker_folder_chars
    rw [empty] at chars
    simp at chars
  have single : settings.invokerFolder ≠ "//" := fun doubled => settings.slashes_disagree doubled agrees
  have path := placed_path settings.invokerFolder file.name present single (by rw [named]; decide)
  rw [packagePath, ← show settings = (ofSettings settings).settings from rfl, ← agrees, Path.joinText, Path.join_assoc]
  rw [supportFile, SupportFile.destination, placed, Path.joinText, path, Path.joinText]

-- The invoker package keeps to the layout of the other packages exactly where cutting
-- at points as well as slashes leaves the text that the joined path starts from as it is.
theorem invoker_files_joined_iff (settings : Settings) :
    (Path.ofText settings.invokerFolder =
        Path.ofTexts settings.sourceFolder (Text.splitAt '.' settings.invokerPackage) ↔
      ∃ before root after,
        Path.RootedAt (settings.sourceFolder :: Text.splitAt '.' settings.invokerPackage) before root after ∧
        (∀ text ∈ before, ∀ c ∈ text.toList, isMark c = true) ∧
        (∀ segment ∈ (Path.ofText root).segments, '.' ∉ segment.toList) ∧
        Path.SameAnchor (Path.leading isMark (settings.sourceFolder ++ "/" ++ settings.invokerPackage).toList)
          (Path.leading (· == '/') root.toList)) ∧
    (Path.ofText settings.invokerFolder =
        Path.ofTexts settings.sourceFolder (Text.splitAt '.' settings.invokerPackage) →
      ∀ output, ∀ file ∈ settings.supportFiles, file.page ≠ .build → file.page ≠ .reference →
        ((ofSettings settings).supportFile output file).1 =
          ((ofSettings settings).packagePath output settings.invokerPackage).joinText file.name) := by
  constructor
  · constructor
    · intro agrees
      obtain ⟨before, root, after, rooted⟩ :=
        Path.rooted_exists settings.sourceFolder (Text.splitAt '.' settings.invokerPackage)
      exact ⟨before, root, after, rooted, (settings.rooted_agrees_iff before root after rooted).mp agrees⟩
    · intro found
      obtain ⟨before, root, after, rooted, kept⟩ := found
      exact (settings.rooted_agrees_iff before root after rooted).mpr kept
  · intro agrees output file listed rooted configured
    exact support_file_joined settings agrees output file listed rooted configured

def appSettings : Settings := { Settings.standard with sourceFolder := "app", invokerPackage := "com.example.core" }

theorem invoker_files_below_app :
    Path.ofText appSettings.invokerFolder = ⟨.relative, ["app", "com", "example", "core"]⟩ ∧
      ((ofSettings appSettings).supportFile (Path.ofText "client")
          ⟨.apiFile, "app/com/example/core", "ApiFile.scala"⟩).1 =
        ⟨.relative, ["client", "app", "com", "example", "core", "ApiFile.scala"]⟩ := by
  have rooted : Path.RootedAt (appSettings.sourceFolder :: Text.splitAt '.' appSettings.invokerPackage) []
      "app" ["com", "example", "core"] := by
    refine ⟨by decide +kernel, .inl rfl, ?_⟩
    simp
  obtain ⟨agrees_iff, placed⟩ := invoker_files_joined_iff appSettings
  have agrees := agrees_iff.mpr ⟨[], "app", _, rooted, by simp, by decide +kernel, by decide +kernel⟩
  have file := placed agrees (Path.ofText "client") ⟨.apiFile, "app/com/example/core", "ApiFile.scala"⟩
    (by decide +kernel) (by decide) (by decide)
  exact ⟨agrees.trans (by decide +kernel), file.trans (by decide +kernel)⟩

def versionedSettings : Settings := { Settings.standard with sourceFolder := "src/main/scala-2.12" }

-- The version in the name of the source folder is cut in two.
theorem versioned_source_folder_cut :
    Path.ofText versionedSettings.invokerFolder ≠
      Path.ofTexts versionedSettings.sourceFolder (Text.splitAt '.' versionedSettings.invokerPackage) := by
  have cut : Path.ofText versionedSettings.invokerFolder =
      ⟨.relative, ["src", "main", "scala-2", "12", "io", "swagger", "client", "core"]⟩ := by decide +kernel
  have whole : Path.ofTexts versionedSettings.sourceFolder (Text.splitAt '.' versionedSettings.invokerPackage) =
      ⟨.relative, ["src", "main", "scala-2.12", "io", "swagger", "client", "core"]⟩ := by decide +kernel
  rw [cut, whole]
  decide

end Client

end PlayClient
