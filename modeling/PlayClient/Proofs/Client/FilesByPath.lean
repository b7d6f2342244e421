import PlayClient.Client.Generation
import PlayClient.Proofs.Distinct

set_option autoImplicit false

namespace PlayClient.Files

-- A path that is put again keeps its place among the others.
theorem put_paths (files : Files) (path : Path) (content : String) :
    (files.put path content).map Prod.fst =
      if path ∈ files.map Prod.fst then files.map Prod.fst else files.map Prod.fst ++ [path] := by
  induction files with
  | nil => rfl
  | cons file rest ih =>
      obtain ⟨old, kept⟩ := file
      by_cases same : old = path
      · simp [put, same]
      · rw [put, if_neg same, List.map_cons, ih]
        by_cases known : path ∈ rest.map Prod.fst <;> simp [known, Ne.symm same]

theorem lookup_first (file : Path × String) (rest : Files) (path : Path) :
    List.lookup path (file :: rest) = if path = file.1 then some file.2 else List.lookup path rest := by
  rw [List.lookup_cons]
  by_cases hit : path = file.1
  · simp [hit]
  · have missed : (path == file.1) = false := beq_eq_false_iff_ne.mpr hit
    rw [missed, if_neg hit]

-- What it held before is lost.
theorem lookup_put (files : Files) (path other : Path) (content : String) :
    List.lookup other (files.put path content) = if other = path then some content else List.lookup other files := by
  induction files with
  | nil => rw [put, lookup_first]
  | cons file rest ih =>
      obtain ⟨old, kept⟩ := file
      by_cases same : old = path
      · by_cases hit : other = path <;> simp [put, same, lookup_first, hit]
      · rw [put, if_neg same, lookup_first, lookup_first, ih]
        by_cases here : other = old
        · simp [here, same]
        · simp [here]

theorem of_list_concat (files : List (Path × String)) (path : Path) (content : String) :
    ofList (files ++ [(path, content)]) = (ofList files).put path content := by
  rw [ofList, merge, List.foldl_append]
  rfl

theorem of_list_paths (files : List (Path × String)) : (ofList files).map Prod.fst = (files.map Prod.fst).eraseDups := by
  induction files using List.reverseRecOn with
  | nil => rfl
  | append_singleton before file ih =>
      obtain ⟨path, content⟩ := file
      have known : path ∈ (before.map Prod.fst).eraseDups ↔ path ∈ before.map Prod.fst := List.mem_eraseDups
      rw [of_list_concat, put_paths, ih, List.map_append, List.map_cons, List.map_nil, Distinct.first_places_concat]
      simp only [known]

theorem of_list_lookup (files : List (Path × String)) (path : Path) :
    List.lookup path (ofList files) = List.lookup path files.reverse := by
  induction files using List.reverseRecOn with
  | nil => rfl
  | append_singleton before file ih =>
      obtain ⟨last, content⟩ := file
      rw [of_list_concat, lookup_put, ih, List.reverse_append, List.reverse_singleton, List.singleton_append,
        lookup_first]

theorem of_list_last (before after : List (Path × String)) (path : Path) (content : String)
    (last : path ∉ after.map Prod.fst) :
    List.lookup path (ofList (before ++ (path, content) :: after)) = some content := by
  have later : List.lookup path after.reverse = none := by
    apply List.lookup_eq_none_iff.mpr
    intro file member
    have apart : path ≠ file.1 := fun same => last (same ▸ List.mem_map_of_mem (List.mem_reverse.mp member))
    simpa using apart
  rw [of_list_lookup, List.reverse_append, List.reverse_cons, List.append_assoc, List.lookup_append, later,
    List.singleton_append, lookup_first, if_pos rfl]
  rfl

theorem put_new (files : Files) (path : Path) (content : String) (fresh : path ∉ files.map Prod.fst) :
    files.put path content = files ++ [(path, content)] := by
  induction files with
  | nil => rfl
  | cons file rest ih =>
      rw [List.map_cons, List.mem_cons, not_or] at fresh
      rw [put, if_neg (Ne.symm fresh.1), ih fresh.2, List.cons_append]

theorem merge_new (files others : Files) (distinct : ((files ++ others).map Prod.fst).Nodup) :
    files.merge others = files ++ others := by
  induction others generalizing files with
  | nil => rw [List.append_nil]; rfl
  | cons file rest ih =>
      have split : (files ++ file :: rest : Files) = (files ++ [file]) ++ rest := by simp
      have fresh : file.1 ∉ files.map Prod.fst := by
        intro member
        rw [List.map_append, List.map_cons, List.nodup_append] at distinct
        exact distinct.2.2 file.1 member file.1 List.mem_cons_self rfl
      rw [split] at distinct ⊢
      rw [← ih (files ++ [file]) distinct, merge, List.foldl_cons, put_new files file.1 file.2 fresh, merge]

theorem of_list_distinct (files : List (Path × String)) (distinct : (files.map Prod.fst).Nodup) :
    ofList files = files :=
  merge_new [] files distinct

theorem lookup_distinct (files : Files) (distinct : (files.map Prod.fst).Nodup) (path : Path) (content : String)
    (member : (path, content) ∈ files) : List.lookup path files = some content := by
  obtain ⟨before, after, split⟩ := List.append_of_mem member
  refine List.lookup_eq_some_iff.mpr ⟨before, after, split, ?_⟩
  intro file early
  rw [split, List.map_append, List.map_cons, List.nodup_append] at distinct
  exact bne_iff_ne.mpr (Ne.symm (distinct.2.2 file.1 (List.mem_map_of_mem early) path List.mem_cons_self))

end PlayClient.Files
