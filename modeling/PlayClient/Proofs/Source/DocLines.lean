import PlayClient.Proofs.Source.DocComment
import PlayClient.Proofs.Text.Pieces

set_option autoImplicit false

namespace PlayClient.Source

/-! ## Line breaks -/

-- A carriage return is lost where a line feed follows it, and stays where it stands alone.
def plainBreaks : List Char → List Char
  | [] => []
  | c :: rest => if c = '\r' ∧ rest.head? = some '\n' then plainBreaks rest else c :: plainBreaks rest

def withPlainBreaks (text : String) : String := String.ofList (plainBreaks text.toList)

theorem plain_breaks_around (front back : List Char) :
    plainBreaks (front ++ '\r' :: '\n' :: back) = plainBreaks front ++ '\n' :: plainBreaks back := by
  induction front with
  | nil => simp [plainBreaks]
  | cons c rest ih =>
      -- The break behind the text begins with a carriage return, which no other one is lost to.
      have next : (rest ++ '\r' :: '\n' :: back).head? = some '\n' ↔ rest.head? = some '\n' := by
        cases rest <;> simp
      rw [List.cons_append, plainBreaks, plainBreaks]
      by_cases lost : c = '\r' ∧ rest.head? = some '\n'
      · rw [if_pos lost, if_pos ⟨lost.1, next.mpr lost.2⟩, ih]
      · rw [if_neg lost, if_neg fun both => lost ⟨both.1, next.mp both.2⟩, ih, List.cons_append]

theorem plain_breaks_sublist (cs : List Char) : (plainBreaks cs).Sublist cs := by
  induction cs with
  | nil => exact List.Sublist.slnil
  | cons c rest ih =>
      rw [plainBreaks]
      by_cases lost : c = '\r' ∧ rest.head? = some '\n'
      · rw [if_pos lost]
        exact ih.cons c
      · rw [if_neg lost]
        exact ih.cons_cons c

theorem plain_breaks_id_iff (cs : List Char) : plainBreaks cs = cs ↔ MarkFree '\r' '\n' cs := by
  induction cs with
  | nil => exact iff_of_true rfl .nil
  | cons c rest ih =>
      rw [plainBreaks, mark_free_cons, ← ih]
      by_cases lost : c = '\r' ∧ rest.head? = some '\n'
      · rw [if_pos lost]
        refine iff_of_false ?_ fun kept => kept.1 lost.1 lost.2
        intro same
        have shorter := (plain_breaks_sublist rest).length_le
        rw [same, List.length_cons] at shorter
        omega
      · rw [if_neg lost, List.cons.injEq]
        refine and_congr_left fun _ => iff_of_true rfl ?_
        intro carriage feed
        exact lost ⟨carriage, feed⟩

theorem text_lines_pieces (cs : List Char) : textLines cs = Text.pieces (· == '\n') (plainBreaks cs) := by
  fun_induction textLines cs with
  | case1 => rfl
  | case2 rest ih => simp [plainBreaks, Text.pieces, ih]
  | case3 rest ih => simp [plainBreaks, Text.pieces, ih]
  | case4 c rest pair single ih =>
      have kept : ¬(c = '\r' ∧ rest.head? = some '\n') := by
        intro lost
        obtain ⟨later, feed⟩ := List.head?_eq_some_iff.mp lost.2
        exact pair later lost.1 feed
      have apart : ¬(c == '\n') = true := by simpa using single
      rw [plainBreaks, if_neg kept, Text.pieces, if_neg apart, ih]

/-! ## Reading a comment -/

def lineContent (line : String) : String := String.ofList (line.toList.drop (docLine "").length)

-- What the lines between the first and the last of a comment say.
def docContent (comment : String) : String :=
  "\n".intercalate ((Text.splitAt '\n' comment).tail.dropLast.dropLast.map lineContent)

theorem line_content_of_line (line : String) : lineContent (docLine line) = line := by
  have chars : (docLine line).toList = (docLine "").toList ++ line.toList := by simp [docLine]
  rw [lineContent, chars, List.drop_left' String.length_toList, String.ofList_toList]

theorem doc_comment_lines (text : String) :
    docComment text =
      Text.ofLines (docOpening :: (Text.splitAt '\n' (withPlainBreaks text)).map docLine ++ [docClosing]) := by
  rw [docComment, text_lines_pieces, Text.splitAt, withPlainBreaks, String.toList_ofList, List.map_map]

theorem split_of_lines (lines : List String) (free : ∀ line ∈ lines, '\n' ∉ line.toList) :
    Text.splitAt '\n' (Text.ofLines lines) = lines ++ [""] := by
  induction lines with
  | nil => rfl
  | cons line rest ih =>
      obtain ⟨here, later⟩ := List.forall_mem_cons.mp free
      rw [Text.splitAt, of_lines_cons, Text.pieces_append _ _ _ _ rfl, Text.pieces_without _ _ here, List.map_append]
      simpa [Text.splitAt] using ih later

theorem doc_lines_unbroken (text : String) :
    ∀ line ∈ docOpening :: (Text.splitAt '\n' text).map docLine ++ [docClosing], '\n' ∉ line.toList := by
  have inner : ∀ line ∈ (Text.splitAt '\n' text).map docLine, '\n' ∉ line.toList := by
    intro line member
    obtain ⟨content, among, written⟩ := List.mem_map.mp member
    rw [← written]
    simpa [docLine] using Text.separator_not_mem_split '\n' text content among
  rw [List.forall_mem_append, List.forall_mem_cons]
  exact ⟨⟨by decide, inner⟩, by decide⟩

theorem doc_comment_split (text : String) :
    Text.splitAt '\n' (docComment text) =
      docOpening :: (Text.splitAt '\n' (withPlainBreaks text)).map docLine ++ [docClosing, ""] := by
  rw [doc_comment_lines, split_of_lines _ (doc_lines_unbroken _), List.append_assoc]
  rfl

theorem doc_content_read (text : String) : docContent (docComment text) = withPlainBreaks text := by
  have inner (lines : List String) :
      (docOpening :: lines ++ [docClosing, ""]).tail.dropLast.dropLast = lines := by
    rw [List.cons_append, List.tail_cons, List.dropLast_append_of_ne_nil (List.cons_ne_nil _ _)]
    exact List.dropLast_concat
  have stripped : lineContent ∘ docLine = id := funext line_content_of_line
  rw [docContent, doc_comment_split, inner, List.map_map, stripped, List.map_id]
  exact Text.split_at_joined '\n' (withPlainBreaks text)

-- A comment says its text line by line, and tells no more of the line breaks in it than where
-- they are.
theorem doc_comment_read_back (text other : String) :
    Text.splitAt '\n' (docComment text) =
        docOpening :: (Text.splitAt '\n' (withPlainBreaks text)).map docLine ++ [docClosing, ""] ∧
      docContent (docComment text) = withPlainBreaks text ∧
      (docComment text = docComment other ↔ withPlainBreaks text = withPlainBreaks other) ∧
      (withPlainBreaks text = text ↔ ∀ before, ¬MarkAfter "\r\n" text before) ∧
      withPlainBreaks (text ++ "\r\n" ++ other) = withPlainBreaks text ++ "\n" ++ withPlainBreaks other := by
  refine ⟨doc_comment_split text, doc_content_read text, ?_, ?_, ?_⟩
  · constructor
    · intro same
      rw [← doc_content_read text, ← doc_content_read other, same]
    · intro same
      rw [doc_comment_lines text, doc_comment_lines other, same]
  · have fixed : withPlainBreaks text = text ↔ plainBreaks text.toList = text.toList := by
      rw [← String.toList_inj, withPlainBreaks, String.toList_ofList]
    rw [fixed, plain_breaks_id_iff, ← mark_nowhere_iff]
  · apply String.toList_inj.mp
    simpa [withPlainBreaks] using plain_breaks_around text.toList other.toList

example : docContent (docComment "a\r\r\n\r\n\rb") = "a\r\n\n\rb" := by decide +kernel

end PlayClient.Source
