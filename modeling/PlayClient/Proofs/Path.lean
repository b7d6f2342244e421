import PlayClient.Path
import PlayClient.Proofs.Text.Pieces

set_option autoImplicit false

namespace PlayClient.Path

/-! ## Anchors -/

def leading (isLead : Char → Bool) (cs : List Char) : Nat := (cs.takeWhile isLead).length

-- Two slashes in front are an anchor of their own; any other number is one,
-- apart from none.
def SameAnchor (count other : Nat) : Prop := (count = 0 ↔ other = 0) ∧ (count = 2 ↔ other = 2)

instance (count other : Nat) : Decidable (SameAnchor count other) :=
  inferInstanceAs (Decidable ((count = 0 ↔ other = 0) ∧ (count = 2 ↔ other = 2)))

theorem anchor_counted (cs : List Char) :
    (anchorOf cs = .relative ↔ leading (· == '/') cs = 0) ∧ (anchorOf cs = .doubleSlash ↔ leading (· == '/') cs = 2) := by
  rw [anchorOf, leading]
  split
  case h_1 none => simp [none]
  case h_2 two => simp [two]
  case h_3 not_none not_two => exact ⟨iff_of_false (by decide) not_none, iff_of_false (by decide) not_two⟩

theorem anchor_eq_iff (anchor other : Anchor) :
    anchor = other ↔ (anchor = .relative ↔ other = .relative) ∧ (anchor = .doubleSlash ↔ other = .doubleSlash) := by
  cases anchor <;> cases other <;> decide

theorem anchor_of_eq_iff (cs others : List Char) :
    anchorOf cs = anchorOf others ↔ SameAnchor (leading (· == '/') cs) (leading (· == '/') others) := by
  rw [anchor_eq_iff, (anchor_counted cs).1, (anchor_counted cs).2, (anchor_counted others).1, (anchor_counted others).2]
  rfl

theorem anchor_relative_iff (cs : List Char) : anchorOf cs = .relative ↔ cs.head? ≠ some '/' := by
  rw [show Anchor.relative = anchorOf [] from rfl, anchor_of_eq_iff]
  cases cs with
  | nil => simp [SameAnchor]
  | cons c rest => by_cases slash : c = '/' <;> simp [SameAnchor, leading, slash]

theorem leading_append (isLead : Char → Bool) (front back : List Char) (stops : ∃ c ∈ front, isLead c = false) :
    leading isLead (front ++ back) = leading isLead front := by
  obtain ⟨c, member, stop⟩ := stops
  induction front with
  | nil => simp at member
  | cons first rest ih =>
      by_cases lead : isLead first = true
      · have later : c ∈ rest := by
          rcases List.mem_cons.mp member with same | later
          · simp [same, lead] at stop
          · exact later
        simpa [leading, lead] using ih later
      · simp [leading, lead]

theorem leading_all (isLead : Char → Bool) (cs : List Char) (all : ∀ c ∈ cs, isLead c = true) :
    leading isLead cs = cs.length := by
  rw [leading, List.takeWhile_eq_self_iff.mpr all]

/-! ## Segments -/

theorem of_text_eq_iff (text : String) (anchor : Anchor) (segments : List String) :
    ofText text = ⟨anchor, segments⟩ ↔ anchorOf text.toList = anchor ∧ (ofText text).segments = segments := by
  rw [ofText, Path.mk.injEq]

theorem not_segment_iff (cs : List Char) : ¬isSegment (String.ofList cs) = true ↔ cs = [] ∨ cs = ['.'] := by
  have empty : String.ofList cs = "" ↔ cs = [] := by simp [← String.toList_inj]
  have point : String.ofList cs = "." ↔ cs = ['.'] := by simp [← String.toList_inj]
  simp [isSegment, empty, point]
  tauto

theorem segments_slash (front back : String) :
    (ofText (front ++ "/" ++ back)).segments = (ofText front).segments ++ (ofText back).segments := by
  have chars : (front ++ "/" ++ back).toList = front.toList ++ '/' :: back.toList := by simp
  simp only [ofText, Text.splitAt, chars]
  rw [Text.pieces_append _ _ _ _ rfl, List.map_append, List.filter_append]

theorem segments_of_slashes (text : String) (slashes : ∀ c ∈ text.toList, c = '/') : (ofText text).segments = [] := by
  have empty : ∀ piece ∈ Text.pieces (· == '/') text.toList, piece = [] :=
    (Text.pieces_all_empty _ _).mpr (by simpa using slashes)
  simp only [ofText, Text.splitAt, List.filter_eq_nil_iff, List.mem_map]
  intro segment found
  obtain ⟨piece, member, same⟩ := found
  rw [← same, empty piece member]
  decide

theorem lone_segment (name : String) (slashless : '/' ∉ name.toList) (counts : isSegment name = true) :
    ofText name = ⟨.relative, [name]⟩ := by
  rw [of_text_eq_iff, anchor_relative_iff]
  constructor
  · intro slash
    exact slashless (List.mem_of_mem_head? slash)
  · simp [ofText, Text.splitAt, Text.pieces_without '/' name.toList slashless, counts]

/-! ## Trailing slashes -/

theorem trimmed_split (cs : List Char) :
    ∃ slashes, cs = Text.dropAtEnd (· == '/') cs ++ slashes ∧ ∀ c ∈ slashes, c = '/' := by
  refine ⟨cs.rtakeWhile (· == '/'), ?_, ?_⟩
  · rw [Text.drop_at_end_right, List.rdropWhile_append_rtakeWhile]
  · intro c member
    simpa using List.mem_rtakeWhile_imp member

theorem segments_trimmed (text : String) :
    (ofText (String.ofList (Text.dropAtEnd (· == '/') text.toList))).segments = (ofText text).segments := by
  obtain ⟨slashes, whole, all⟩ := trimmed_split text.toList
  generalize Text.dropAtEnd (· == '/') text.toList = body at whole ⊢
  have written : text = String.ofList (body ++ slashes) := by rw [← whole, String.ofList_toList]
  cases slashes with
  | nil => rw [written, List.append_nil]
  | cons first rest =>
      obtain ⟨slash, others⟩ := List.forall_mem_cons.mp all
      have cut : text = String.ofList body ++ "/" ++ String.ofList rest := by
        rw [written, slash]
        apply String.toList_inj.mp
        simp
      rw [cut, segments_slash, segments_of_slashes (String.ofList rest) (by simpa using others), List.append_nil]

-- A folder of two slashes alone loses one of them.
theorem trimmed_anchor (cs name : List Char) (present : cs ≠ []) (single : cs ≠ ['/', '/'])
    (relative : name.head? ≠ some '/') :
    anchorOf (Text.dropAtEnd (· == '/') cs ++ '/' :: name) = anchorOf cs := by
  obtain ⟨slashes, whole, all⟩ := trimmed_split cs
  rw [anchor_of_eq_iff]
  by_cases empty : Text.dropAtEnd (· == '/') cs = []
  · rw [empty, List.nil_append] at whole ⊢
    have named : leading (· == '/') ('/' :: name) = 1 := by
      cases name with
      | nil => rfl
      | cons c rest =>
          have apart : c ≠ '/' := by simpa using relative
          simp [leading, apart]
    have whole_length : leading (· == '/') cs = cs.length := by
      apply leading_all
      simpa [whole] using all
    have some_slash : cs.length ≠ 0 := by simpa using present
    have not_two : cs.length ≠ 2 := by
      intro two
      obtain ⟨first, second, pair⟩ := List.length_eq_two.mp two
      have slashed : ∀ c ∈ cs, c = '/' := by simpa [whole] using all
      apply single
      simp [pair] at slashed ⊢
      exact slashed
    rw [named, whole_length, SameAnchor]
    omega
  · have stops : ∃ c ∈ Text.dropAtEnd (· == '/') cs, (c == '/') = false := by
      have last : ¬((Text.dropAtEnd (· == '/') cs).getLast empty == '/') = true :=
        List.rdropWhile_last_not (· == '/') cs empty
      exact ⟨_, List.getLast_mem empty, by simpa using last⟩
    have front := leading_append (· == '/') _ ('/' :: name) stops
    have back := leading_append (· == '/') _ slashes stops
    rw [← whole] at back
    rw [front, back]
    simp [SameAnchor]

/-! ## Joining -/

theorem join_assoc (base path other : Path) : (base.join path).join other = base.join (path.join other) := by
  obtain ⟨anchor, segments⟩ := other
  obtain ⟨anchor', segments'⟩ := path
  cases anchor with
  | relative => cases anchor' <;> simp [join]
  | slash => simp [join]
  | doubleSlash => simp [join]

theorem join_relative (base path : Path) (relative : path.anchor = .relative) :
    base.join path = ⟨base.anchor, base.segments ++ path.segments⟩ := by
  rw [join, relative]

theorem join_text_relative (base : Path) (text : String) (relative : text.toList.head? ≠ some '/') :
    base.joinText text = ⟨base.anchor, base.segments ++ (ofText text).segments⟩ :=
  join_relative base (ofText text) ((anchor_relative_iff _).mpr relative)

theorem join_text_absolute (base : Path) (text : String) (absolute : text.toList.head? = some '/') :
    base.joinText text = ofText text := by
  have anchor : (ofText text).anchor ≠ .relative := fun relative => (anchor_relative_iff _).mp relative absolute
  rw [joinText, join]
  cases here : (ofText text).anchor with
  | relative => exact absurd here anchor
  | slash => rfl
  | doubleSlash => rfl

theorem join_last (base path : Path) (last : String) (ends : path.segments.getLast? = some last) :
    (base.join path).segments.getLast? = some last := by
  rw [join]
  split
  · rw [List.getLast?_append, ends]
    rfl
  · exact ends

theorem join_texts_relative (base : Path) (texts : List String)
    (relative : ∀ text ∈ texts, text.toList.head? ≠ some '/') :
    texts.foldl joinText base = ⟨base.anchor, base.segments ++ texts.flatMap fun text => (ofText text).segments⟩ := by
  induction texts generalizing base with
  | nil => simp
  | cons text rest ih =>
      obtain ⟨here, later⟩ := List.forall_mem_cons.mp relative
      rw [List.foldl_cons, ih _ later, join_text_relative base text here]
      simp

-- A folder with one name more.
def child (folder : Path) (name : String) : Path := ⟨folder.anchor, folder.segments ++ [name]⟩

theorem child_eq_iff (folder : Path) (name other : String) : folder.child name = folder.child other ↔ name = other := by
  simp [child]

theorem join_text_lone (folder : Path) (name : String) (slashless : '/' ∉ name.toList)
    (counts : isSegment name = true) : folder.joinText name = folder.child name := by
  rw [joinText, lone_segment name slashless counts, join, child]

-- Where a path that is joined from texts starts: at the last of them that has a
-- slash in front, or else at the first.
structure RootedAt (texts before : List String) (root : String) (after : List String) : Prop where
  whole : texts = before ++ root :: after
  rooted : before = [] ∨ root.toList.head? = some '/'
  relative : ∀ text ∈ after, text.toList.head? ≠ some '/'

theorem rooted_exists (first : String) (rest : List String) :
    ∃ before root after, RootedAt (first :: rest) before root after := by
  induction rest generalizing first with
  | nil => exact ⟨[], first, [], rfl, .inl rfl, by simp⟩
  | cons next others ih =>
      by_cases absolute : ∃ text ∈ next :: others, text.toList.head? = some '/'
      · obtain ⟨before, root, after, whole, rooted, relative⟩ := ih next
        refine ⟨first :: before, root, after, by rw [whole]; rfl, .inr ?_, relative⟩
        cases rooted with
        | inr here => exact here
        | inl none =>
            obtain ⟨text, member, slash⟩ := absolute
            rw [whole, none, List.nil_append] at member
            rcases List.mem_cons.mp member with same | later
            · exact same ▸ slash
            · exact absurd slash (relative text later)
      · refine ⟨[], first, next :: others, rfl, .inl rfl, ?_⟩
        intro text member slash
        exact absolute ⟨text, member, slash⟩

theorem of_texts_rooted (first : String) (rest before : List String) (root : String) (after : List String)
    (rooted : RootedAt (first :: rest) before root after) :
    ofTexts first rest =
      ⟨anchorOf root.toList, (ofText root).segments ++ after.flatMap fun text => (ofText text).segments⟩ := by
  obtain ⟨whole, start, relative⟩ := rooted
  cases before with
  | nil =>
      obtain ⟨same, others⟩ := List.cons.inj whole
      rw [ofTexts, same, others, join_texts_relative _ after relative]
      rfl
  | cons head others =>
      have absolute : root.toList.head? = some '/' := by simpa using start
      have tail : rest = others ++ root :: after := (List.cons.inj whole).2
      rw [ofTexts, tail, List.foldl_append, List.foldl_cons, join_text_absolute _ root absolute,
        join_texts_relative _ after relative]
      rfl

end PlayClient.Path
