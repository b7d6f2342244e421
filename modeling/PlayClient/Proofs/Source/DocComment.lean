import Mathlib.Data.List.Chain
import PlayClient.Source.DocComment

set_option autoImplicit false

namespace PlayClient.Source

/-! ## Marks of two characters -/

-- The mark stands in the text right after what is before it.
def MarkAfter (mark text before : String) : Prop := ∃ after, text = before ++ mark ++ after

def MarkFree (first second : Char) (cs : List Char) : Prop :=
  cs.IsChain fun a b => ¬(a = first ∧ b = second)

theorem mark_free_iff (first second : Char) (cs : List Char) :
    MarkFree first second cs ↔ ∀ before after, cs ≠ before ++ first :: second :: after := by
  rw [MarkFree, List.isChain_iff_forall_rel_of_append_cons_cons]
  constructor
  · intro free before after same
    exact free same ⟨rfl, rfl⟩
  · intro absent a b before after same pair
    apply absent before after
    rw [same, pair.1, pair.2]

instance (first second : Char) (cs : List Char) : Decidable (MarkFree first second cs) :=
  inferInstanceAs (Decidable (cs.IsChain _))

-- A character that is in no mark keeps what is around it apart.
theorem mark_free_around (first second c : Char) (front back : List Char) (apart : c ≠ first) (other : c ≠ second) :
    MarkFree first second (front ++ c :: back) ↔ MarkFree first second front ∧ MarkFree first second back := by
  rw [MarkFree, MarkFree, MarkFree, List.isChain_append, List.isChain_cons]
  simp [apart, other]

theorem mark_after_iff (mark text before : String) :
    MarkAfter mark text before ↔ ∃ after, text.toList = before.toList ++ (mark.toList ++ after) := by
  constructor
  · rintro ⟨after, same⟩
    exact ⟨after.toList, by simp [same]⟩
  · rintro ⟨after, same⟩
    refine ⟨String.ofList after, String.toList_inj.mp ?_⟩
    simp [same]

theorem mark_nowhere_iff (first second : Char) (text : String) :
    (∀ before, ¬MarkAfter (String.ofList [first, second]) text before) ↔ MarkFree first second text.toList := by
  simp only [mark_after_iff, mark_free_iff, String.toList_ofList, not_exists]
  constructor
  · intro absent before after same
    exact absent (String.ofList before) after (by simpa using same)
  · intro absent before after same
    exact absent before.toList after (by simpa using same)

-- Where neither side holds the mark, it stands at the seam alone.
theorem mark_at_seam (first second : Char) (front back before after : List Char) (apart : first ≠ second)
    (free_front : MarkFree first second front) (free_back : MarkFree first second back)
    (same : front ++ first :: second :: back = before ++ first :: second :: after) : before = front := by
  rcases List.append_eq_append_iff.mp same with ⟨between, longer, tail⟩ | ⟨between, shorter, tail⟩
  · match between with
    | [] => simpa using longer
    | [c] =>
        simp only [List.cons_append, List.nil_append, List.cons.injEq] at tail
        exact absurd tail.2.1.symm apart
    | c :: d :: more =>
        simp only [List.cons_append, List.cons.injEq] at tail
        exact absurd tail.2.2 ((mark_free_iff first second back).mp free_back more after)
  · match between with
    | [] => simpa using shorter.symm
    | [c] =>
        simp only [List.cons_append, List.nil_append, List.cons.injEq] at tail
        exact absurd tail.2.1.symm apart
    | c :: d :: more =>
        simp only [List.cons_append, List.cons.injEq] at tail
        refine absurd ?_ ((mark_free_iff first second front).mp free_front before more)
        rw [shorter, tail.1, tail.2.1]

theorem mark_once (first second : Char) (text front back : String) (apart : first ≠ second)
    (whole : text = front ++ String.ofList [first, second] ++ back)
    (free_front : MarkFree first second front.toList) (free_back : MarkFree first second back.toList)
    (before : String) : MarkAfter (String.ofList [first, second]) text before ↔ before = front := by
  constructor
  · rw [mark_after_iff]
    rintro ⟨after, same⟩
    rw [whole] at same
    simp only [String.toList_append, String.toList_ofList, List.append_assoc, List.cons_append,
      List.nil_append] at same
    exact String.toList_inj.mp (mark_at_seam first second _ _ _ _ apart free_front free_back same)
  · intro same
    exact ⟨back, by rw [same, whole]⟩

/-! ## Breaking marks -/

theorem mark_free_cons (first second c : Char) (cs : List Char) :
    MarkFree first second (c :: cs) ↔ (c = first → cs.head? ≠ some second) ∧ MarkFree first second cs := by
  rw [MarkFree, List.isChain_cons, ← MarkFree]
  refine and_congr_left fun _ => ?_
  constructor
  · intro apart same next
    exact apart second next ⟨same, rfl⟩
  · intro apart next found pair
    exact apart pair.1 (pair.2 ▸ found)

theorem break_mark_head (first second : Char) (cs : List Char) : (breakMark first second cs).head? = cs.head? := by
  fun_cases breakMark first second cs <;> simp

theorem break_mark_free (first second : Char) (cs : List Char) (distinct : first ≠ second)
    (apart : '_' ≠ first) (other : '_' ≠ second) : MarkFree first second (breakMark first second cs) := by
  induction cs using breakMark.induct first second with
  | case1 a b rest marked ih =>
      rw [breakMark, if_pos marked, mark_free_cons, mark_free_cons, mark_free_cons, marked.2]
      simp [apart, other, distinct.symm, ih]
  | case2 a b rest plain ih =>
      rw [breakMark, if_neg plain, mark_free_cons, break_mark_head]
      refine ⟨?_, ih⟩
      intro here next
      exact plain ⟨here, by simpa using next⟩
  | case3 cs short =>
      match cs with
      | [] => exact .nil
      | [c] => exact .singleton c
      | a :: b :: rest => exact absurd rfl (short a b rest)

-- What is put in between is in no mark, so breaking one mark makes no other.
theorem break_mark_keeps (first second start next : Char) (cs : List Char) (apart : '_' ≠ start) (other : '_' ≠ next)
    (free : MarkFree start next cs) : MarkFree start next (breakMark first second cs) := by
  induction cs using breakMark.induct first second with
  | case1 a b rest marked ih =>
      obtain ⟨-, later⟩ := (mark_free_cons start next a _).mp free
      obtain ⟨here, last⟩ := (mark_free_cons start next b _).mp later
      rw [breakMark, if_pos marked, mark_free_cons, mark_free_cons, mark_free_cons, break_mark_head]
      exact ⟨by simp [other], fun same => absurd same apart, here, ih last⟩
  | case2 a b rest plain ih =>
      obtain ⟨here, later⟩ := (mark_free_cons start next a _).mp free
      rw [breakMark, if_neg plain, mark_free_cons, break_mark_head]
      exact ⟨here, ih later⟩
  | case3 cs short =>
      match cs with
      | [] => exact free
      | [c] => exact free
      | a :: b :: rest => exact absurd rfl (short a b rest)

theorem break_mark_id (first second : Char) (cs : List Char) (free : MarkFree first second cs) :
    breakMark first second cs = cs := by
  induction cs using breakMark.induct first second with
  | case1 a b rest marked ih =>
      obtain ⟨here, -⟩ := (mark_free_cons first second a _).mp free
      exact absurd (by simp [marked.2]) (here marked.1)
  | case2 a b rest plain ih =>
      rw [breakMark, if_neg plain, ih ((mark_free_cons first second a _).mp free).2]
  | case3 cs short =>
      match cs with
      | [] => rfl
      | [c] => rfl
      | a :: b :: rest => exact absurd rfl (short a b rest)

theorem comment_safe_free (text : String) :
    MarkFree '*' '/' (commentSafe text).toList ∧ MarkFree '/' '*' (commentSafe text).toList := by
  rw [commentSafe, String.toList_ofList]
  constructor
  · apply break_mark_keeps _ _ _ _ _ (by decide) (by decide)
    exact break_mark_free '*' '/' _ (by decide) (by decide) (by decide)
  · exact break_mark_free '/' '*' _ (by decide) (by decide) (by decide)

theorem comment_safe_id_iff (text : String) :
    commentSafe text = text ↔ MarkFree '*' '/' text.toList ∧ MarkFree '/' '*' text.toList := by
  constructor
  · intro same
    rw [← same]
    exact comment_safe_free text
  · rintro ⟨closing, opening⟩
    rw [commentSafe, break_mark_id '*' '/' _ closing, break_mark_id '/' '*' _ opening, String.ofList_toList]

/-! ## Lines -/

-- The first line starts the text, and the others stand inside it.
theorem text_lines_inside (cs : List Char) :
    ∃ first others, textLines cs = first :: others ∧ first <+: cs ∧ ∀ line ∈ others, line <:+: cs := by
  have within : ∀ (front rest first : List Char) (others : List (List Char)),
      first <+: rest → (∀ line ∈ others, line <:+: rest) → ∀ line ∈ first :: others, line <:+: front ++ rest := by
    intro front rest first others start inside line member
    have inner : line <:+: rest := by
      rcases List.mem_cons.mp member with same | later
      · exact same ▸ start.isInfix
      · exact inside line later
    exact inner.trans (List.suffix_append front rest).isInfix
  fun_induction textLines cs with
  | case1 => exact ⟨[], [], rfl, List.prefix_rfl, by simp⟩
  | case2 rest ih =>
      obtain ⟨first, others, lines, start, inside⟩ := ih
      exact ⟨[], first :: others, by rw [lines], List.nil_prefix, within ['\r', '\n'] rest first others start inside⟩
  | case3 rest ih =>
      obtain ⟨first, others, lines, start, inside⟩ := ih
      exact ⟨[], first :: others, by rw [lines], List.nil_prefix, within ['\n'] rest first others start inside⟩
  | case4 c rest pair single ih =>
      obtain ⟨first, others, lines, start, inside⟩ := ih
      refine ⟨c :: first, others, by rw [lines, Text.pushFront], List.cons_prefix_cons.mpr ⟨rfl, start⟩, ?_⟩
      intro line member
      exact (inside line member).trans (List.suffix_cons c rest).isInfix

theorem text_lines_free (first second : Char) (cs : List Char) (free : MarkFree first second cs) :
    ∀ line ∈ textLines cs, MarkFree first second line := by
  obtain ⟨start, others, lines, front, inside⟩ := text_lines_inside cs
  rw [lines]
  intro line member
  rcases List.mem_cons.mp member with same | later
  · exact same ▸ List.IsChain.infix free front.isInfix
  · exact List.IsChain.infix free (inside line later)

theorem of_lines_cons (line : String) (rest : List String) :
    (Text.ofLines (line :: rest)).toList = line.toList ++ '\n' :: (Text.ofLines rest).toList := by
  simp [Text.ofLines]

theorem of_lines_free (first second : Char) (lines : List String) (apart : '\n' ≠ first) (other : '\n' ≠ second)
    (free : ∀ line ∈ lines, MarkFree first second line.toList) :
    MarkFree first second (Text.ofLines lines).toList := by
  induction lines with
  | nil => exact .nil
  | cons line rest ih =>
      obtain ⟨here, later⟩ := List.forall_mem_cons.mp free
      rw [of_lines_cons, mark_free_around first second '\n' _ _ apart other]
      exact ⟨here, ih later⟩

/-! ## The comment -/

def docBody (text : String) : List String := (textLines text.toList).map (docLine ∘ String.ofList)

theorem doc_body_free (first second : Char) (text : String) (spaced : ' ' ≠ first) (other : ' ' ≠ second)
    (star : MarkFree first second "   *".toList) (free : MarkFree first second text.toList) :
    ∀ line ∈ docBody text, MarkFree first second line.toList := by
  intro line member
  obtain ⟨content, among, written⟩ := List.mem_map.mp member
  have shape : line.toList = "   *".toList ++ ' ' :: content := by
    rw [← written, Function.comp, docLine]
    simp
  rw [shape, mark_free_around first second ' ' _ _ spaced other]
  exact ⟨star, text_lines_free first second _ free content among⟩

theorem doc_comment_opened (text : String) :
    docComment text = "  " ++ "/*" ++ ("*\n" ++ Text.ofLines (docBody text ++ [docClosing])) := by
  apply String.toList_inj.mp
  rw [docComment, List.cons_append, of_lines_cons]
  simp [docBody, docOpening]

theorem doc_comment_closed (text : String) :
    docComment text = Text.ofLines (docOpening :: docBody text) ++ "   " ++ "*/" ++ "\n" := by
  simp [docComment, docBody, Text.ofLines, docClosing, String.append_assoc]

theorem opening_once (text before : String) (free : MarkFree '/' '*' text.toList) :
    MarkAfter "/*" (docComment text) before ↔ before = "  " := by
  apply mark_once '/' '*' _ _ _ (by decide) (doc_comment_opened text) (by decide)
  have lines : ∀ line ∈ docBody text ++ [docClosing], MarkFree '/' '*' line.toList := by
    rw [List.forall_mem_append]
    exact ⟨doc_body_free '/' '*' text (by decide) (by decide) (by decide) free, by decide⟩
  have rest := of_lines_free '/' '*' _ (by decide) (by decide) lines
  rw [String.toList_append]
  exact (mark_free_around '/' '*' '\n' ['*'] _ (by decide) (by decide)).mpr ⟨by decide, rest⟩

theorem closing_once (text before : String) (free : MarkFree '*' '/' text.toList) :
    MarkAfter "*/" (docComment text) before ↔ before = Text.ofLines (docOpening :: docBody text) ++ "   " := by
  refine mark_once '*' '/' _ _ _ (by decide) (doc_comment_closed text) ?_ (by decide) before
  have lines : ∀ line ∈ docOpening :: docBody text, MarkFree '*' '/' line.toList := by
    rw [List.forall_mem_cons]
    exact ⟨by decide, doc_body_free '*' '/' text (by decide) (by decide) (by decide) free⟩
  have front := of_lines_free '*' '/' _ (by decide) (by decide) lines
  rw [String.toList_append]
  exact (mark_free_around '*' '/' ' ' _ [' ', ' '] (by decide) (by decide)).mpr ⟨front, by decide⟩

-- Documentation neither closes its comment early nor opens one inside: the opening
-- mark stands in the first line alone, and the closing mark ends the last.
theorem safe_comment_marks (text : String) :
    (∃ contents : List String,
      docComment (commentSafe text) = Text.ofLines (docOpening :: contents.map docLine ++ [docClosing]) ∧
        (∀ before, MarkAfter "/*" (docComment (commentSafe text)) before ↔ before = "  ") ∧
        ∀ before, MarkAfter "*/" (docComment (commentSafe text)) before ↔
          before = Text.ofLines (docOpening :: contents.map docLine) ++ "   ") ∧
      (commentSafe text = text ↔ (∀ before, ¬MarkAfter "*/" text before) ∧ ∀ before, ¬MarkAfter "/*" text before) ∧
      commentSafe (commentSafe text) = commentSafe text := by
  obtain ⟨no_closing, no_opening⟩ := comment_safe_free text
  have body : ((textLines (commentSafe text).toList).map String.ofList).map docLine = docBody (commentSafe text) :=
    List.map_map
  refine ⟨⟨(textLines (commentSafe text).toList).map String.ofList, ?_⟩, ?_, ?_⟩
  · rw [body]
    exact ⟨rfl, fun before => opening_once _ before no_opening, fun before => closing_once _ before no_closing⟩
  · rw [comment_safe_id_iff, ← mark_nowhere_iff, ← mark_nowhere_iff]
  · exact (comment_safe_id_iff _).mpr ⟨no_closing, no_opening⟩

end PlayClient.Source
