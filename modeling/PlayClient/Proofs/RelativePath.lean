import PlayClient.Proofs.Path

set_option autoImplicit false

namespace PlayClient.Path

/-! ## Below a base -/

theorem rest_iff (base segments rest : List String) :
    rest? base segments = some rest ↔ segments = base ++ rest := by
  constructor
  · exact eq_append_of_rest base segments rest
  · intro same
    rw [same, rest_append]

theorem relative_to_iff (path base rest : Path) :
    path.relativeTo? base = some rest ↔ rest.anchor = .relative ∧ path = base.join rest := by
  obtain ⟨anchor, segments⟩ := path
  obtain ⟨anchor', segments'⟩ := base
  obtain ⟨anchor'', segments''⟩ := rest
  rw [relativeTo?]
  by_cases same : anchor = anchor'
  · rw [if_pos same, Option.map_eq_some_iff]
    simp only [rest_iff, Path.mk.injEq]
    constructor
    · intro found
      obtain ⟨rest, split, relative, equal⟩ := found
      rw [← relative, join_relative _ _ rfl, Path.mk.injEq, ← equal]
      exact ⟨rfl, same, split⟩
    · intro joined
      obtain ⟨relative, equal⟩ := joined
      rw [join_relative _ _ relative, Path.mk.injEq] at equal
      exact ⟨segments'', equal.2, relative.symm, rfl⟩
  · rw [if_neg same]
    constructor
    · intro found
      cases found
    · intro joined
      rw [join_relative _ _ joined.1, Path.mk.injEq] at joined
      exact absurd joined.2.1 same

theorem relative_to_joined (base rest : Path) (relative : rest.anchor = .relative) :
    (base.join rest).relativeTo base = rest := by
  rw [relativeTo, (relative_to_iff _ base rest).mpr ⟨relative, rfl⟩, Option.getD_some]

theorem relative_to_elsewhere (path base : Path) (apart : ∀ rest, rest.anchor = .relative → path ≠ base.join rest) :
    path.relativeTo base = path := by
  have none : path.relativeTo? base = none := by
    rw [Option.eq_none_iff_forall_ne_some]
    intro rest found
    obtain ⟨relative, joined⟩ := (relative_to_iff path base rest).mp found
    exact apart rest relative joined
  rw [relativeTo, none, Option.getD_none]

/-! ## The order of paths -/

-- The first place where the keys differ decides, and a key that ends there comes first.
def Before (a b : Path) : Prop := List.Lex (· < ·) a.key b.key

theorem key_precedes_iff (as bs : List String) :
    keyPrecedes as bs = true ↔ List.Lex (· < ·) as bs ∨ as = bs := by
  induction as generalizing bs with
  | nil => cases bs <;> simp [keyPrecedes]
  | cons a rest ih =>
      cases bs with
      | nil => simp [keyPrecedes]
      | cons b others =>
          rw [keyPrecedes, List.cons_lex_cons_iff, List.cons.injEq]
          by_cases same : a = b
          · rw [if_pos same, ih]
            have never : ¬a < b := same ▸ String.lt_irrefl a
            exact or_congr (by rw [or_iff_right never, and_iff_right same]) (and_iff_right same).symm
          · simp [same, Std.le_iff_lt_or_eq]

theorem precedes_iff (a b : Path) : a.precedes b = true ↔ Before a b ∨ a.key = b.key := key_precedes_iff a.key b.key

theorem precedes_trans (a b c : Path) (left : a.precedes b = true) (right : b.precedes c = true) :
    a.precedes c = true := by
  rw [precedes_iff] at left right ⊢
  cases left with
  | inl less =>
      cases right with
      | inl later => exact Or.inl (List.lex_trans String.lt_trans less later)
      | inr same =>
          rw [Before, ← same]
          exact Or.inl less
  | inr same =>
      rw [Before, same]
      exact right

theorem key_precedes_total (as bs : List String) : keyPrecedes as bs = true ∨ keyPrecedes bs as = true := by
  induction as generalizing bs with
  | nil => exact Or.inl rfl
  | cons a rest ih =>
      cases bs with
      | nil => exact Or.inr rfl
      | cons b others =>
          by_cases same : a = b
          · simpa [keyPrecedes, same] using ih others
          · simpa [keyPrecedes, same, Ne.symm same] using String.le_total a b

theorem sort_ordered (paths : List Path) : (sort paths).Pairwise fun a b => a.precedes b = true := by
  apply List.pairwise_mergeSort precedes_trans
  intro a b
  rw [Bool.or_eq_true]
  exact key_precedes_total a.key b.key

theorem key_of_relative (path : Path) (relative : path.anchor = .relative) : path.key = path.segments := by
  rw [key, relative]

theorem key_of_joined (base rest : Path) (relative : rest.anchor = .relative) :
    (base.join rest).key = base.key ++ rest.segments := by
  rw [join_relative base rest relative]
  cases anchor : base.anchor <;> simp [key, anchor]

theorem key_precedes_append (front as bs : List String) :
    keyPrecedes (front ++ as) (front ++ bs) = keyPrecedes as bs := by
  induction front with
  | nil => rfl
  | cons first rest ih => simpa [keyPrecedes] using ih

-- A base in front of two paths has no say in their order.
theorem joined_precedes (base a b : Path) (left : a.anchor = .relative) (right : b.anchor = .relative) :
    (base.join a).precedes (base.join b) = a.precedes b := by
  rw [precedes, key_of_joined base a left, key_of_joined base b right, key_precedes_append, precedes,
    key_of_relative a left, key_of_relative b right]

theorem relative_before (a b : Path) (left : a.anchor = .relative) (right : b.anchor = .relative)
    (le : a.precedes b = true) (apart : a ≠ b) : Before a b := by
  refine ((precedes_iff a b).mp le).resolve_right ?_
  intro same
  rw [key_of_relative a left, key_of_relative b right] at same
  obtain ⟨anchor, segments⟩ := a
  obtain ⟨anchor', segments'⟩ := b
  apply apart
  rw [Path.mk.injEq]
  exact ⟨left.trans right.symm, same⟩

/-! ## Relative paths in writing -/

theorem segments_of_text (text : String) :
    ∀ segment ∈ (ofText text).segments, isSegment segment = true ∧ '/' ∉ segment.toList := by
  intro segment member
  obtain ⟨among, counts⟩ := List.mem_filter.mp member
  exact ⟨counts, Text.separator_not_mem_split '/' text segment among⟩

theorem relative_read_back (path : Path) (relative : path.anchor = .relative)
    (spelled : ∀ segment ∈ path.segments, isSegment segment = true ∧ '/' ∉ segment.toList) :
    ofText path.toText = path := by
  obtain ⟨anchor, segments⟩ := path
  subst relative
  cases segments with
  | nil => rfl
  | cons first others =>
      have written : toText ⟨.relative, first :: others⟩ = "/".intercalate (first :: others) := String.empty_append
      have split : Text.splitAt '/' ("/".intercalate (first :: others)) = first :: others :=
        Text.joined_split_at '/' (first :: others) (List.cons_ne_nil _ _) fun segment member => (spelled segment member).2
      rw [written, of_text_eq_iff, anchor_relative_iff]
      constructor
      · intro slash
        obtain ⟨rest, chars⟩ := List.head?_eq_some_iff.mp slash
        rw [Text.splitAt, chars, Text.pieces, if_pos (beq_self_eq_true '/'), List.map_cons] at split
        have empty : first = "" := (List.cons.inj split).1.symm
        have counts := (spelled first List.mem_cons_self).1
        rw [empty] at counts
        exact absurd counts (by decide)
      · rw [ofText, split, List.filter_eq_self]
        exact fun segment member => (spelled segment member).1

end PlayClient.Path
