import PlayClient.Command.Run
import PlayClient.Proofs.Distinct
import PlayClient.Proofs.RelativePath

set_option autoImplicit false

namespace PlayClient.Command

-- What a summary lists of files below the output: each relative path once, in the order
-- of these paths.
def listing (files : List Path) (output : Path) : List Path :=
  (Path.sort files.eraseDups).map (·.relativeTo output)

theorem summary_listing (files : List Path) (output : Path) :
    summary files output =
      "Generated " ++ toString (listing files output).length ++ " files:\n" ++
        Text.ofLines ((listing files output).map fun rest => "  " ++ rest.toText) ++ "\n" ++ successLine output := by
  have count : (Path.sort files.eraseDups).length = files.eraseDups.length := (List.mergeSort_perm _ _).length_eq
  rw [listing, List.length_map, count, List.map_map]
  rfl

theorem mem_sorted_files (files : List Path) (file : Path) : file ∈ Path.sort files.eraseDups ↔ file ∈ files := by
  rw [Path.sort, (List.mergeSort_perm _ _).mem_iff, List.mem_eraseDups]

section

variable (files : List Path) (output : Path)
  (below : ∀ file ∈ files, ∃ rest, rest.anchor = .relative ∧ file = output.join rest)

include below

theorem mem_listing_iff (rest : Path) : rest ∈ listing files output ↔ rest.anchor = .relative ∧ output.join rest ∈ files := by
  rw [listing, List.mem_map]
  constructor
  · intro listed
    obtain ⟨file, member, found⟩ := listed
    have named := (mem_sorted_files files file).mp member
    obtain ⟨inner, relative, joined⟩ := below file named
    rw [joined, Path.relative_to_joined output inner relative] at found
    rw [← found, ← joined]
    exact ⟨relative, named⟩
  · intro named
    obtain ⟨relative, member⟩ := named
    exact ⟨output.join rest, (mem_sorted_files files _).mpr member, Path.relative_to_joined output rest relative⟩

-- The files are sorted with the output in front of them, which has no say in their order.
theorem listing_ordered : (listing files output).Pairwise Path.Before := by
  have distinct : (Path.sort files.eraseDups).Nodup :=
    (List.mergeSort_perm _ _).nodup_iff.mpr (Distinct.first_places_nodup files)
  rw [listing, List.pairwise_map]
  refine ((Path.sort_ordered files.eraseDups).and distinct).imp_of_mem ?_
  intro a b left right stands
  obtain ⟨rest, relative, joined⟩ := below a ((mem_sorted_files files a).mp left)
  obtain ⟨other, relative', joined'⟩ := below b ((mem_sorted_files files b).mp right)
  obtain ⟨le, apart⟩ := stands
  rw [joined, joined'] at le apart ⊢
  rw [Path.joined_precedes output rest other relative relative'] at le
  rw [Path.relative_to_joined output rest relative, Path.relative_to_joined output other relative']
  exact Path.relative_before rest other relative relative' le fun same => apart (by rw [same])

end

theorem relative_read_below (output rest : Path) (relative : rest.anchor = .relative) (text : String)
    (named : Path.ofText text = output.join rest) : Path.ofText rest.toText = rest := by
  apply Path.relative_read_back rest relative
  intro segment member
  apply Path.segments_of_text text
  rw [named, Path.join_relative output rest relative]
  exact List.mem_append_right output.segments member

-- A file below the output is listed as what it is there, which is found again from it, and
-- any other path as it is.
theorem relative_paths_listed :
    (∀ file base : Path,
      (∃ rest, rest.anchor = .relative ∧ file = base.join rest ∧ file.relativeTo base = rest ∧
          ∀ other, other.anchor = .relative → file = base.join other → other = rest) ∨
        (∀ rest, rest.anchor = .relative → file ≠ base.join rest) ∧ file.relativeTo base = file) ∧
      ∀ (output : Path) (files : List Path),
        (∀ file ∈ files, ∃ rest, rest.anchor = .relative ∧ file = output.join rest) →
          ∃ listed : List Path, (∀ rest, rest ∈ listed ↔ rest.anchor = .relative ∧ output.join rest ∈ files) ∧
            listed.Pairwise Path.Before ∧
            (∀ rest ∈ listed, (∃ text, Path.ofText text = output.join rest) → Path.ofText rest.toText = rest) ∧
            summary files output =
              "Generated " ++ toString listed.length ++ " files:\n" ++
                Text.ofLines (listed.map fun rest => "  " ++ rest.toText) ++ "\n" ++ successLine output := by
  constructor
  · intro file base
    by_cases inside : ∃ rest, rest.anchor = .relative ∧ file = base.join rest
    · obtain ⟨rest, relative, joined⟩ := inside
      have found : file.relativeTo base = rest := by rw [joined, Path.relative_to_joined base rest relative]
      refine Or.inl ⟨rest, relative, joined, found, ?_⟩
      intro other relative' joined'
      rw [← found, joined', Path.relative_to_joined base other relative']
    · have apart : ∀ rest, rest.anchor = .relative → file ≠ base.join rest :=
        fun rest relative joined => inside ⟨rest, relative, joined⟩
      exact Or.inr ⟨apart, Path.relative_to_elsewhere file base apart⟩
  · intro output files below
    have members := mem_listing_iff files output below
    refine ⟨listing files output, members, listing_ordered files output below, ?_, summary_listing files output⟩
    intro rest listed named
    obtain ⟨text, same⟩ := named
    exact relative_read_below output rest ((members rest).mp listed).1 text same

def sharedFolder : Path := .ofText "//srv/./client/"

def sharedFiles : List Path :=
  [.ofText "//srv/client/src/b.scala", .ofText "//srv/client/build.sbt", .ofText "//srv//client/src/./b.scala",
   .ofText "//srv/client/src", .ofText "//srv/client"]

theorem shared_files_listed :
    (∀ file ∈ sharedFiles, ∃ rest, rest.anchor = .relative ∧ file = sharedFolder.join rest) ∧
      ∃ listed : List Path, (∀ rest, rest ∈ listed ↔ rest.anchor = .relative ∧ sharedFolder.join rest ∈ sharedFiles) ∧
        listed.Pairwise Path.Before ∧
        summary sharedFiles sharedFolder =
          "Generated " ++ toString listed.length ++ " files:\n" ++
            Text.ofLines (listed.map fun rest => "  " ++ rest.toText) ++ "\n" ++ successLine sharedFolder := by
  have below : ∀ file ∈ sharedFiles, ∃ rest, rest.anchor = .relative ∧ file = sharedFolder.join rest := by
    simp only [sharedFiles, List.forall_mem_cons]
    refine ⟨⟨.ofText "src/b.scala", ?_⟩, ⟨.ofText "build.sbt", ?_⟩, ⟨.ofText "src/b.scala", ?_⟩, ⟨.ofText "src", ?_⟩,
      ⟨.ofText "", ?_⟩, by simp⟩
    all_goals decide +kernel
  obtain ⟨listed, members, ordered, -, text⟩ := relative_paths_listed.2 sharedFolder sharedFiles below
  exact ⟨below, listed, members, ordered, text⟩

end PlayClient.Command
