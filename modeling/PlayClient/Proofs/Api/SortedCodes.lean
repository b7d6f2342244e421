import Mathlib.Data.String.Basic
import PlayClient.Proofs.Api.CodePlaces

set_option autoImplicit false

namespace PlayClient.StatusCode

open PlayClient.Sort (DirectlyBefore)

/-! ## The base of a range -/

def atBase (c : Char) : Char := if c = 'x' ∨ c = 'X' then '0' else c

-- A character that counts as digits at the base is a digit or a wildcard itself.
theorem based_char (c : Char)
    (digits : ∀ d ∈ Text.upper c, Text.isDigit (if d = 'X' then '0' else d) = true) :
    (Text.upper c).map (fun d => if d = 'X' then '0' else d) = [atBase c] := by
  have made : ∀ d ∈ Text.upper c, Text.isDigit d = true ∨ d = 'X' := by
    intro d member
    by_cases wildcard : d = 'X'
    · exact Or.inr wildcard
    · have digit := digits d member
      rw [if_neg wildcard] at digit
      exact Or.inl digit
  rcases Text.upper_digit_or_x c made with digit | small | large
  · have plain : c ≠ 'x' ∧ c ≠ 'X' := by
      have others : Text.isDigit 'x' = false ∧ Text.isDigit 'X' = false := by decide +kernel
      constructor
      · rintro rfl
        rw [others.1] at digit
        cases digit
      · rintro rfl
        rw [others.2] at digit
        cases digit
    rw [Text.upper_digit c digit]
    simp [atBase, plain]
  · rw [small]
    decide +kernel
  · rw [large]
    decide +kernel

theorem base_chars (code : String) (digits : allDigits (rangeBase code) = true) :
    (rangeBase code).toList = code.toList.map atBase := by
  have whole : (rangeBase code).toList =
      code.toList.flatMap fun c => (Text.upper c).map fun d => if d = 'X' then '0' else d := by
    rw [rangeBase, String.toList_ofList, Text.uppercase, String.toList_ofList, List.map_flatMap]
  have inside := ((all_digits_iff _).mp digits).2
  rw [whole] at inside ⊢
  have single : ∀ c ∈ code.toList, (Text.upper c).map (fun d => if d = 'X' then '0' else d) = [atBase c] := by
    intro c member
    apply based_char
    intro d among
    exact inside _ (List.mem_flatMap.mpr ⟨c, member, List.mem_map_of_mem among⟩)
  rw [List.flatMap_congr single, List.map_eq_flatMap]

theorem at_base_le (c : Char) : atBase c ≤ c := by
  by_cases wildcard : c = 'x' ∨ c = 'X'
  · rw [atBase, if_pos wildcard]
    rcases wildcard with small | large
    · rw [small]
      decide
    · rw [large]
      decide
  · rw [atBase, if_neg wildcard]

theorem chars_at_base (cs : List Char) : cs.map atBase = cs ∨ cs.map atBase < cs := by
  induction cs with
  | nil => exact Or.inl rfl
  | cons c rest ih =>
      rw [List.map_cons, List.cons_lt_cons_iff, List.cons.injEq]
      rcases (at_base_le c).lt_or_eq with less | same
      · exact Or.inr (Or.inl less)
      · rcases ih with kept | lower
        · exact Or.inl ⟨same, kept⟩
        · exact Or.inr (Or.inr ⟨same, lower⟩)

theorem base_le (code : String) (n : Nat) (spells : Spells code n) : rangeBase code ≤ code := by
  have chars := base_chars code (spells_digits code n spells)
  rcases chars_at_base code.toList with same | less
  · exact le_of_eq (String.toList_inj.mp (chars.trans same))
  · apply le_of_lt
    rw [String.lt_iff_toList_lt, chars]
    exact less

theorem base_spells (code : String) (n : Nat) (spells : Spells code n) : Spells (rangeBase code) n := by
  have digits := (all_digits_iff _).mp (spells_digits code n spells)
  rw [Spells, range_base_digits _ digits.2]
  exact spells

/-! ## Places in a sorted list -/

-- Numbers stand in their order, each in the order of its spellings, and those below the rank
-- of names in front of all names. A base and its range meet unless a code of their rank comes
-- between them: another spelling of the number or, at the rank of names alone, a name.
structure Arranged (codes sorted : List String) : Prop where
  perm : sorted.Perm codes
  numbers : sorted.Pairwise fun a b => ∀ m n, Spells a m → Spells b n → m ≤ n ∧ (m = n → a ≤ b)
  names : sorted.Pairwise fun a b => Named a → ∀ n, Spells b n → nameRank ≤ n
  bases : ∀ code ∈ codes, ∀ n, Spells code n → rangeBase code ∈ codes → rangeBase code ≠ code →
    Spells (rangeBase code) n ∧ rangeBase code < code ∧
      (DirectlyBefore (rangeBase code) code sorted ↔
        ¬∃ other ∈ codes, (Spells other n ∨ Named other ∧ nameRank = n) ∧
          rangeBase code < other ∧ other < code)

theorem precedes_numbers (a b : String) (before : Precedes a b) (m n : Nat) (left : Spells a m) (right : Spells b n) :
    m ≤ n ∧ (m = n → a ≤ b) := by
  obtain ⟨low, high, rankLow, rankHigh, order⟩ := before
  rw [(rank_ok_iff a m).mpr (Or.inl left)] at rankLow
  rw [(rank_ok_iff b n).mpr (Or.inl right)] at rankHigh
  cases rankLow
  cases rankHigh
  rcases order with less | ⟨same, le⟩
  · exact ⟨Nat.le_of_lt less, fun same => absurd same (Nat.ne_of_lt less)⟩
  · exact ⟨Nat.le_of_eq same, fun _ => le⟩

theorem precedes_names (a b : String) (before : Precedes a b) (named : Named a) (n : Nat) (spells : Spells b n) :
    nameRank ≤ n := by
  obtain ⟨low, high, rankLow, rankHigh, order⟩ := before
  rw [(rank_ok_iff a nameRank).mpr (Or.inr ⟨named, rfl⟩)] at rankLow
  rw [(rank_ok_iff b n).mpr (Or.inl spells)] at rankHigh
  cases rankLow
  cases rankHigh
  omega

theorem between_iff (a b c : String) (n : Nat) (rankA : rank a = .ok n) (rankB : rank b = .ok n) :
    Precedes a c ∧ Precedes c b ↔ rank c = .ok n ∧ a ≤ c ∧ c ≤ b := by
  constructor
  · rintro ⟨⟨m, k, rankA', rankC, above⟩, k', m', rankC', rankB', below⟩
    cases rankA.symm.trans rankA'
    cases rankB.symm.trans rankB'
    cases rankC.symm.trans rankC'
    have same : k = n := by omega
    subst same
    exact ⟨rankC, by simpa using above, by simpa using below⟩
  · rintro ⟨rankC, above, below⟩
    exact ⟨⟨n, n, rankA, rankC, Or.inr ⟨rfl, above⟩⟩, n, n, rankC, rankB, Or.inr ⟨rfl, below⟩⟩

theorem base_meets_range_iff (codes sorted : List String) (sort : IsSortOf id codes sorted) (code : String)
    (n : Nat) (spells : Spells code n) (member : code ∈ codes) (based : rangeBase code ∈ codes)
    (range : rangeBase code ≠ code) :
    DirectlyBefore (rangeBase code) code sorted ↔
      ¬∃ other ∈ codes, (Spells other n ∨ Named other ∧ nameRank = n) ∧
        rangeBase code < other ∧ other < code := by
  have rankBase := (rank_ok_iff _ n).mpr (Or.inl (base_spells code n spells))
  have rankCode := (rank_ok_iff code n).mpr (Or.inl spells)
  have less : Precedes (rangeBase code) code := ⟨n, n, rankBase, rankCode, Or.inr ⟨rfl, base_le code n spells⟩⟩
  rw [Sort.directly_before_iff Precedes precedes_antisymm sorted sort.ordered (rangeBase code) code
    (sort.perm.mem_iff.mpr based) (sort.perm.mem_iff.mpr member) less range]
  constructor
  · rintro alone ⟨other, among, ranked, above, below⟩
    have between := (between_iff _ _ other n rankBase rankCode).mpr
      ⟨(rank_ok_iff other n).mpr ranked, le_of_lt above, le_of_lt below⟩
    rcases alone other (sort.perm.mem_iff.mpr among) between.1 between.2 with same | same
    · exact absurd same.symm (ne_of_lt above)
    · exact absurd same (ne_of_lt below)
  · intro free other among above below
    obtain ⟨ranked, above, below⟩ := (between_iff _ _ other n rankBase rankCode).mp ⟨above, below⟩
    by_contra apart
    rw [not_or] at apart
    exact free ⟨other, sort.perm.mem_iff.mp among, (rank_ok_iff other n).mp ranked,
      lt_of_le_of_ne above (Ne.symm apart.1), lt_of_le_of_ne below apart.2⟩

theorem sorted_arranged (codes sorted : List String) (sort : IsSortOf id codes sorted) : Arranged codes sorted where
  perm := sort.perm
  numbers := sort.ordered.imp (precedes_numbers _ _)
  names := sort.ordered.imp (precedes_names _ _)
  bases := fun code member n spells based range =>
    ⟨base_spells code n spells, lt_of_le_of_ne (base_le code n spells) range,
      base_meets_range_iff codes sorted sort code n spells member based range⟩

/-! ## Sorting forgets the order of codes -/

theorem sort_by_places (codes : List String) :
    sort codes = (fun placed => (placed.mergeSort fun a b => precedes a.1 b.1).map (·.2)) <$>
      codes.mapM fun code => (·, code) <$> place code := by
  simp only [sort, sortBy, place, id, map_eq_pure_bind, bind_assoc, pure_bind]

theorem sort_reordered (codes others sorted : List String) (perm : others.Perm codes)
    (done : sort codes = .ok sorted) : sort others = .ok sorted :=
  sort_by_same_classes id codes others sorted perm.symm (Sort.perm_same_classes codes others perm.symm) done

theorem codes_arranged (codes : List String) (placed : ∀ code ∈ codes, ∃ key, place code = .ok key) :
    (sort codes = (fun placed => (placed.mergeSort fun a b => precedes a.1 b.1).map (·.2)) <$>
      codes.mapM fun code => (·, code) <$> place code) ∧
      ∃ sorted, (∀ others, others.Perm codes → sort others = .ok sorted) ∧ Arranged codes sorted := by
  obtain ⟨sorted, done⟩ := sort_by_total id codes fun code member => by
    obtain ⟨key, here⟩ := placed code member
    exact ⟨key.1, ((place_ok_iff code key).mp here).1⟩
  exact ⟨sort_by_places codes, sorted, fun others perm => sort_reordered codes others sorted perm done,
    sorted_arranged codes sorted (sort_by_spec id codes sorted done)⟩

def mixedSpellings : List String := ["default", "2xX", "404", "0200", "200", "2XX", "201"]

def spellingsSorted : List String := ["0200", "200", "2XX", "2xX", "201", "404", "default"]

theorem mixed_spellings_arranged :
    (∀ code ∈ mixedSpellings, ∃ key, place code = .ok key) ∧
      sort mixedSpellings.reverse = .ok spellingsSorted ∧ DirectlyBefore "200" "2XX" spellingsSorted := by
  have placed : ∀ code ∈ mixedSpellings, ∃ key, place code = .ok key := by
    simp only [mixedSpellings, List.forall_mem_cons]
    exact ⟨⟨(1000, "default"), by decide +kernel⟩, ⟨(200, "2xX"), by decide +kernel⟩,
      ⟨(404, "404"), by decide +kernel⟩, ⟨(200, "0200"), by decide +kernel⟩, ⟨(200, "200"), by decide +kernel⟩,
      ⟨(200, "2XX"), by decide +kernel⟩, ⟨(201, "201"), by decide +kernel⟩, by simp⟩
  obtain ⟨-, sorted, same, arranged⟩ := codes_arranged mixedSpellings placed
  have listed : sort mixedSpellings = .ok spellingsSorted := by
    refine (sort_by_ok_iff id _ _).mpr
      ⟨[((1000, "default"), "default"), ((200, "2xX"), "2xX"), ((404, "404"), "404"), ((200, "0200"), "0200"),
        ((200, "200"), "200"), ((200, "2XX"), "2XX"), ((201, "201"), "201")], ?_, ?_⟩
    · decide +kernel
    · simp [List.mergeSort, precedes, spellingsSorted]
  cases listed.symm.trans (same mixedSpellings (List.Perm.refl _))
  have base : rangeBase "2XX" = "200" := by decide +kernel
  have known : rangeBase "2XX" ∈ mixedSpellings ∧ rangeBase "2XX" ≠ "2XX" ∧ Spells "2XX" 200 := by decide +kernel
  obtain ⟨-, -, meets⟩ := arranged.bases "2XX" (by decide) 200 known.2.2 known.1 known.2.1
  refine ⟨placed, same _ (List.reverse_perm _), ?_⟩
  rw [base] at meets
  apply meets.mpr
  decide +kernel

end PlayClient.StatusCode
