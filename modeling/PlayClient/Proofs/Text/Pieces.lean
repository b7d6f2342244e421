import Mathlib.Data.List.DropRight
import PlayClient.Proofs.Naming.Words
import PlayClient.Text.Split
import PlayClient.Text.Trim

set_option autoImplicit false

namespace PlayClient.Text

theorem pieces_lone (isSeparator : Char → Bool) (cs : List Char) (free : ∀ c ∈ cs, isSeparator c = false) :
    pieces isSeparator cs = [cs] := by
  induction cs with
  | nil => rfl
  | cons c rest ih =>
      obtain ⟨first, later⟩ := List.forall_mem_cons.mp free
      simp [pieces, first, ih later, pushFront]

theorem separator_not_mem_piece (isSeparator : Char → Bool) (c : Char) (separates : isSeparator c = true)
    (cs piece : List Char) (member : piece ∈ pieces isSeparator cs) : c ∉ piece := by
  intro inside
  have free := separator_free_of_mem_pieces isSeparator cs piece member c inside
  simp [separates] at free

theorem pieces_without (separator : Char) (cs : List Char) (absent : separator ∉ cs) :
    pieces (· == separator) cs = [cs] := by
  apply pieces_lone
  intro c member
  simpa using fun same : c = separator => absent (same ▸ member)

theorem separator_not_mem_split (separator : Char) (text part : String) (member : part ∈ splitAt separator text) :
    separator ∉ part.toList := by
  obtain ⟨piece, found, same⟩ := List.mem_map.mp member
  rw [← same, String.toList_ofList]
  exact separator_not_mem_piece (· == separator) separator (beq_self_eq_true separator) text.toList piece found

theorem length_of_mem_pieces (isSeparator : Char → Bool) (cs piece : List Char)
    (member : piece ∈ pieces isSeparator cs) : piece.length ≤ cs.length := by
  have within := (List.sublist_flatten_of_mem member).length_le
  rw [pieces_flatten] at within
  exact within.trans (List.length_filter_le _ _)

-- Characters that are changed into separators count as separators.
theorem pieces_map (isSeparator isMark : Char → Bool) (change : Char → Char) (cs : List Char)
    (marks : ∀ c, isSeparator (change c) = isMark c) (kept : ∀ c, isMark c = false → change c = c) :
    pieces isSeparator (cs.map change) = pieces isMark cs := by
  induction cs with
  | nil => rfl
  | cons c rest ih =>
      by_cases cut : isMark c = true
      · simp [pieces, marks, cut, ih]
      · have stays := kept c (by simpa using cut)
        have apart : isSeparator c = false := by
          rw [← stays, marks]
          simpa using cut
        simp [pieces, cut, ih, stays, apart]

-- Cutting at two kinds of separators is cutting at the one kind, then each piece
-- at the other.
theorem pieces_refine (first second : Char → Bool) (cs : List Char) :
    pieces (fun c => first c || second c) cs = (pieces first cs).flatMap (pieces second) := by
  induction cs with
  | nil => rfl
  | cons c rest ih =>
      by_cases outer : first c = true
      · simp [pieces, outer, ih]
      · obtain ⟨piece, others, split⟩ := List.exists_cons_of_ne_nil (pieces_ne_nil first rest)
        rw [split, List.flatMap_cons] at ih
        by_cases inner : second c = true
        · simp [pieces, outer, inner, ih, split, pushFront]
        · have pushed : pieces first (c :: rest) = (c :: piece) :: others := by
            simp [pieces, outer, split, pushFront]
          rw [pushed, List.flatMap_cons, pieces, if_neg (by simp [outer, inner]), ih, pieces, if_neg inner]
          exact push_front_append c _ _ (pieces_ne_nil second piece)

theorem pieces_split_on (isSeparator : Char → Bool) (cs : List Char) :
    pieces isSeparator cs = cs.splitOnP isSeparator := by
  induction cs with
  | nil => rfl
  | cons c rest ih =>
      obtain ⟨piece, others, split⟩ := List.exists_cons_of_ne_nil (pieces_ne_nil isSeparator rest)
      rw [List.splitOnP_cons_eq_if_modifyHead, ← ih, pieces, split]
      rfl

theorem split_at_chars (separator : Char) (text : String) :
    (splitAt separator text).map String.toList = text.toList.splitOn separator := by
  have chars : String.toList ∘ String.ofList = id := funext fun _ => String.toList_ofList
  rw [splitAt, pieces_split_on, List.map_map, chars, List.map_id]
  rfl

theorem split_at_joined (separator : Char) (text : String) :
    (String.ofList [separator]).intercalate (splitAt separator text) = text := by
  apply String.toList_inj.mp
  rw [String.toList_intercalate, split_at_chars, String.toList_ofList, List.intercalate_splitOn]

theorem joined_split_at (separator : Char) (texts : List String) (filled : texts ≠ [])
    (free : ∀ text ∈ texts, separator ∉ text.toList) :
    splitAt separator ((String.ofList [separator]).intercalate texts) = texts := by
  apply List.map_injective_iff.mpr fun _ _ => String.toList_inj.mp
  rw [split_at_chars, String.toList_intercalate, String.toList_ofList]
  apply List.splitOn_intercalate
  · simpa using free
  · simpa using filled

theorem pieces_all_empty (isSeparator : Char → Bool) (cs : List Char) :
    (∀ piece ∈ pieces isSeparator cs, piece = []) ↔ ∀ c ∈ cs, isSeparator c = true := by
  have flat := pieces_flatten isSeparator cs
  constructor
  · intro empty
    have none : (pieces isSeparator cs).flatten = [] := List.flatten_eq_nil_iff.mpr empty
    rw [flat, List.filter_eq_nil_iff] at none
    simpa using none
  · intro separators
    have none : cs.filter (fun c => !isSeparator c) = [] := by
      rw [List.filter_eq_nil_iff]
      simpa using separators
    rw [← flat] at none
    exact List.flatten_eq_nil_iff.mp none

theorem drop_at_end_right (isDropped : Char → Bool) (cs : List Char) :
    dropAtEnd isDropped cs = cs.rdropWhile isDropped :=
  rfl

theorem drop_at_ends_around (isDropped : Char → Bool) (front body back : List Char)
    (before : ∀ c ∈ front, isDropped c = true) (kept : ∀ c ∈ body, isDropped c = false)
    (after : ∀ c ∈ back, isDropped c = true) : dropAtEnds isDropped (front ++ body ++ back) = body := by
  rw [dropAtEnds, List.append_assoc, List.dropWhile_append_of_pos before]
  cases body with
  | nil =>
      have none : back.dropWhile isDropped = [] := List.dropWhile_eq_nil_iff.mpr after
      rw [List.nil_append, none]
      rfl
  | cons c rest =>
      have first : ¬isDropped c = true := by simp [kept c List.mem_cons_self]
      have last : (c :: rest).reverse.dropWhile isDropped = (c :: rest).reverse := by
        apply List.dropWhile_eq_self_iff.mpr
        intro filled
        have inside : (c :: rest).reverse[0] ∈ c :: rest := List.mem_reverse.mp (List.getElem_mem filled)
        simp only [kept _ inside, Bool.false_eq_true, not_false_eq_true]
      rw [List.cons_append, List.dropWhile_cons_of_neg first, ← List.cons_append, dropAtEnd, List.reverse_append,
        List.dropWhile_append_of_pos (fun d member => after d (List.mem_reverse.mp member)), last, List.reverse_reverse]

end PlayClient.Text
