import PlayClient.Api.StatusCode
import PlayClient.Proofs.Outcome
import PlayClient.Proofs.Sort
import PlayClient.Proofs.Text.Letters

set_option autoImplicit false

namespace PlayClient.StatusCode

open PlayClient.Text (NumeralError)

-- By rank, and codes of equal rank by their code points. Codes without a
-- rank stand in no order.
def Precedes (a b : String) : Prop :=
  ∃ m n, rank a = .ok m ∧ rank b = .ok n ∧ (m < n ∨ m = n ∧ a ≤ b)

structure IsSortOf {α : Type} (code : α → String) (items sorted : List α) : Prop where
  perm : sorted.Perm items
  ordered : sorted.Pairwise (fun a b => Precedes (code a) (code b))
  stable : Sort.SameClasses code sorted items

-- The first of the least code: nothing precedes it, and no item of its own
-- code stands before it.
def IsLowest {α : Type} (code : α → String) (items : List α) (item : α) : Prop :=
  ∃ earlier later, items = earlier ++ item :: later ∧
    (∀ other ∈ earlier, Precedes (code item) (code other) ∧ code other ≠ code item) ∧
    ∀ other ∈ later, Precedes (code item) (code other)

/-! ## The order of codes -/

theorem precedes_antisymm (a b : String) (left : Precedes a b) (right : Precedes b a) : a = b := by
  obtain ⟨m, n, rankA, rankB, below⟩ := left
  obtain ⟨n', m', rankB', rankA', above⟩ := right
  cases rankA.symm.trans rankA'
  cases rankB.symm.trans rankB'
  rcases below with less | ⟨equal, le⟩
  · rcases above with greater | ⟨equal, -⟩ <;> omega
  · rcases above with greater | ⟨-, ge⟩
    · omega
    · exact String.le_antisymm le ge

theorem precedes_self (code : String) (n : Nat) (ranked : rank code = .ok n) : Precedes code code :=
  ⟨n, n, ranked, ranked, Or.inr ⟨rfl, String.le_refl code⟩⟩

theorem pair_precedes_iff (a b : Nat × String) : precedes a b = true ↔ a.1 < b.1 ∨ a.1 = b.1 ∧ a.2 ≤ b.2 := by
  simp [precedes]

theorem pair_precedes_trans (a b c : Nat × String) (left : precedes a b = true) (right : precedes b c = true) :
    precedes a c = true := by
  rw [pair_precedes_iff] at left right ⊢
  rcases left with less | ⟨equal, le⟩
  · exact Or.inl (by omega)
  · rcases right with less | ⟨same, ge⟩
    · exact Or.inl (by omega)
    · exact Or.inr ⟨equal.trans same, String.le_trans le ge⟩

theorem pair_precedes_total (a b : Nat × String) : (precedes a b || precedes b a) = true := by
  rw [Bool.or_eq_true, pair_precedes_iff, pair_precedes_iff]
  rcases Nat.lt_trichotomy a.1 b.1 with less | equal | greater
  · exact Or.inl (Or.inl less)
  · rcases String.le_total a.2 b.2 with le | ge
    · exact Or.inl (Or.inr ⟨equal, le⟩)
    · exact Or.inr (Or.inr ⟨equal.symm, ge⟩)
  · exact Or.inr (Or.inl greater)

/-! ## Sorting by code -/

section Sorting

variable {α : Type} (code : α → String)

def ranking (item : α) : Except NumeralError ((Nat × String) × α) := do
  return ((← rank (code item), code item), item)

theorem ranking_ok_iff (item : α) (entry : (Nat × String) × α) :
    ranking code item = .ok entry ↔ rank (code item) = .ok entry.1.1 ∧ entry.1.2 = code item ∧ entry.2 = item := by
  rw [ranking, Outcome.bind_ok_iff]
  constructor
  · rintro ⟨n, ranked, same⟩
    cases same
    exact ⟨ranked, rfl, rfl⟩
  · rintro ⟨ranked, text, same⟩
    exact ⟨entry.1.1, ranked, by rw [← text, ← same]; rfl⟩

theorem sort_by_ok_iff (items sorted : List α) :
    sortBy code items = .ok sorted ↔ ∃ entries, items.mapM (ranking code) = .ok entries ∧
      (entries.mergeSort fun a b => precedes a.1 b.1).map (·.2) = sorted := by
  rw [sortBy, Outcome.bind_ok_iff]
  simp only [pure, Except.pure, Except.ok.injEq]
  rfl

theorem ranking_entries (items : List α) (entries : List ((Nat × String) × α))
    (ranked : items.mapM (ranking code) = .ok entries) :
    entries.map (·.2) = items ∧ ∀ entry ∈ entries, rank (code entry.2) = .ok entry.1.1 ∧ entry.1.2 = code entry.2 := by
  have related := (Outcome.traverse_ok_iff _ _ _).mp ranked
  constructor
  · clear ranked
    induction related with
    | nil => rfl
    | cons here _ ih => rw [List.map_cons, ih, ((ranking_ok_iff code _ _).mp here).2.2]
  · intro entry member
    obtain ⟨item, -, here⟩ := Outcome.related_result _ _ _ related entry member
    obtain ⟨rankItem, text, same⟩ := (ranking_ok_iff code _ _).mp here
    exact ⟨same ▸ rankItem, same ▸ text⟩

theorem sort_by_spec (items sorted : List α) (done : sortBy code items = .ok sorted) : IsSortOf code items sorted := by
  obtain ⟨entries, ranked, same⟩ := (sort_by_ok_iff code items sorted).mp done
  obtain ⟨images, facts⟩ := ranking_entries code items entries ranked
  have perm := List.mergeSort_perm entries (fun a b => precedes a.1 b.1)
  subst same
  refine ⟨images ▸ perm.map (·.2), ?_, ?_⟩
  · have ordered : (entries.mergeSort (fun a b => precedes a.1 b.1)).Pairwise (fun a b => precedes a.1 b.1) :=
      List.pairwise_mergeSort (fun a b c => pair_precedes_trans a.1 b.1 c.1)
        (fun a b => pair_precedes_total a.1 b.1) entries
    rw [List.pairwise_map]
    refine ordered.imp_of_mem ?_
    intro a b left right before
    obtain ⟨rankA, textA⟩ := facts a (perm.mem_iff.mp left)
    obtain ⟨rankB, textB⟩ := facts b (perm.mem_iff.mp right)
    rw [pair_precedes_iff, textA, textB] at before
    exact ⟨_, _, rankA, rankB, before⟩
  · intro text
    rw [← images, List.filter_map, List.filter_map]
    congr 1
    refine Sort.merge_sort_filter _ (fun a b c => pair_precedes_trans a.1 b.1 c.1)
      (fun a b => pair_precedes_total a.1 b.1) _ entries ?_
    intro a memberA b memberB classA classB
    have same : code a.2 = code b.2 := (eq_of_beq classA).trans (eq_of_beq classB).symm
    obtain ⟨rankA, textA⟩ := facts a memberA
    obtain ⟨rankB, textB⟩ := facts b memberB
    rw [same] at rankA textA
    have ranks : a.1.1 = b.1.1 := Except.ok.inj (rankA.symm.trans rankB)
    have texts : a.1.2 = b.1.2 := textA.trans textB.symm
    exact (pair_precedes_iff _ _).mpr (Or.inr ⟨ranks, texts ▸ String.le_refl _⟩)

theorem sort_by_total (items : List α) (ranked : ∀ item ∈ items, ∃ n, rank (code item) = .ok n) :
    ∃ sorted, sortBy code items = .ok sorted := by
  obtain ⟨entries, traversed⟩ := Outcome.traverse_total (ranking code) items (by
    intro item member
    obtain ⟨n, found⟩ := ranked item member
    exact ⟨((n, code item), item), (ranking_ok_iff code _ _).mpr ⟨found, rfl, rfl⟩⟩)
  exact ⟨_, (sort_by_ok_iff code items _).mpr ⟨entries, traversed, rfl⟩⟩

theorem sort_by_ranked (items sorted : List α) (done : sortBy code items = .ok sorted) (item : α)
    (member : item ∈ items) : ∃ n, rank (code item) = .ok n := by
  obtain ⟨entries, ranked, -⟩ := (sort_by_ok_iff code items sorted).mp done
  obtain ⟨entry, -, here⟩ := Outcome.related_item _ _ _ ((Outcome.traverse_ok_iff _ _ _).mp ranked) item member
  exact ⟨entry.1.1, ((ranking_ok_iff code _ _).mp here).1⟩

theorem is_sort_unique (items left right : List α) (leftSort : IsSortOf code items left)
    (rightSort : IsSortOf code items right) : left = right :=
  Sort.sorted_unique code Precedes precedes_antisymm left right leftSort.ordered rightSort.ordered
    (fun text => (leftSort.stable text).trans (rightSort.stable text).symm)

-- What the order of the items is beyond that of equal codes, a sort forgets.
theorem sort_by_same_classes (items others sorted : List α) (perm : items.Perm others)
    (same : Sort.SameClasses code items others) (done : sortBy code items = .ok sorted) :
    sortBy code others = .ok sorted := by
  obtain ⟨found, other⟩ := sort_by_total code others (fun item member =>
    sort_by_ranked code items sorted done item (perm.mem_iff.mpr member))
  have spec := sort_by_spec code items sorted done
  have moved : IsSortOf code others sorted :=
    ⟨spec.perm.trans perm, spec.ordered, fun text => (spec.stable text).trans (same text)⟩
  rw [other, is_sort_unique code others found sorted (sort_by_spec code others found other) moved]

-- With distinct codes nothing is left of the order in which the items come.
theorem sort_by_reordered (items others : List α) (perm : items.Perm others) (distinct : (items.map code).Nodup)
    (ranked : ∀ item ∈ items, ∃ n, rank (code item) = .ok n) :
    ∃ sorted, sortBy code items = .ok sorted ∧ sortBy code others = .ok sorted := by
  obtain ⟨sorted, done⟩ := sort_by_total code items ranked
  have same := Sort.distinct_same_classes code items others perm distinct
  exact ⟨sorted, done, sort_by_same_classes code items others sorted perm same done⟩

theorem is_sort_filter (items sorted : List α) (sort : IsSortOf code items sorted) (kept : α → Bool) :
    IsSortOf code (items.filter kept) (sorted.filter kept) := by
  refine ⟨sort.perm.filter kept, sort.ordered.filter kept, ?_⟩
  intro text
  rw [List.filter_comm, sort.stable text, List.filter_comm]

-- Sorting what is kept is keeping what is sorted.
theorem sort_by_filter (items sorted : List α) (done : sortBy code items = .ok sorted) (kept : α → Bool) :
    sortBy code (items.filter kept) = .ok (sorted.filter kept) := by
  obtain ⟨chosen, found⟩ := sort_by_total code (items.filter kept) (by
    intro item member
    exact sort_by_ranked code items sorted done item (List.mem_filter.mp member).1)
  have expected := is_sort_filter code items sorted (sort_by_spec code items sorted done) kept
  rw [found, is_sort_unique code _ _ _ (sort_by_spec code _ _ found) expected]

theorem head_is_lowest (items rest : List α) (item : α) (n : Nat) (ranked : rank (code item) = .ok n)
    (sort : IsSortOf code items (item :: rest)) : IsLowest code items item := by
  have least : ∀ other ∈ items, Precedes (code item) (code other) := by
    intro other member
    rcases List.mem_cons.mp (sort.perm.mem_iff.mpr member) with same | later
    · rw [same]
      exact precedes_self _ n ranked
    · exact (List.pairwise_cons.mp sort.ordered).1 other later
  have heads : items.filter (fun other => code other == code item) =
      item :: rest.filter (fun other => code other == code item) := by
    rw [← sort.stable (code item)]
    exact List.filter_cons_of_pos (beq_self_eq_true (code item))
  obtain ⟨earlier, later, split, others, -, -⟩ := List.filter_eq_cons_iff.mp heads
  refine ⟨earlier, later, split, ?_, ?_⟩
  · intro other member
    exact ⟨least other (split ▸ List.mem_append_left _ member), fun same => others other member (by simp [same])⟩
  · intro other member
    exact least other (split ▸ List.mem_append_right _ (List.mem_cons_of_mem item member))

end Sorting

/-! ## Numbers of codes -/

theorem all_digits_iff (code : String) :
    allDigits code = true ↔ code.toList ≠ [] ∧ ∀ c ∈ code.toList, Text.isDigit c = true := by
  simp [allDigits]

theorem uppercase_digits (code : String) (digits : ∀ c ∈ code.toList, Text.isDigit c = true) :
    Text.uppercase code = code := by
  have kept : code.toList.flatMap Text.upper = code.toList.flatMap (fun c => [c]) :=
    List.flatMap_congr (fun c member => Text.upper_digit c (digits c member))
  rw [Text.uppercase, kept, List.flatMap_singleton', String.ofList_toList]

-- Digits have no case and are no wildcards, so a numeral is its own base.
theorem range_base_digits (code : String) (digits : ∀ c ∈ code.toList, Text.isDigit c = true) :
    rangeBase code = code := by
  have kept : (code.toList.map fun c => if c = 'X' then '0' else c) = code.toList.map id := by
    apply List.map_congr_left
    intro c member
    apply if_neg
    intro wildcard
    have digit := digits c member
    rw [wildcard] at digit
    exact absurd digit (by decide +kernel)
  rw [rangeBase, uppercase_digits code digits, kept, List.map_id, String.ofList_toList]

theorem rank_of_digits (code : String) (digits : allDigits code = true) : rank code = Text.readNumeral code := by
  have base := range_base_digits code ((all_digits_iff code).mp digits).2
  rw [rank, base, if_pos digits]

theorem number_rank (code : String) (n : Nat) (number : number? code = .ok (some n)) : rank code = .ok n := by
  by_cases digits : allDigits code = true
  · rw [number?, if_pos digits, Outcome.map_ok_iff] at number
    obtain ⟨value, read, same⟩ := number
    rw [rank_of_digits code digits, read, Option.some.inj same]
  · simp [number?, digits] at number

theorem ranked_number (code : String) (n : Nat) (ranked : rank code = .ok n) :
    ∃ found, number? code = .ok found := by
  by_cases digits : allDigits code = true
  · rw [rank_of_digits code digits] at ranked
    exact ⟨some n, by simp [number?, digits, ranked, Functor.map, Except.map]⟩
  · exact ⟨none, by simp [number?, digits]⟩

theorem numbers_ordered (codes : List String) (found : List (Option Nat))
    (numbers : List.Forall₂ (fun code number => number? code = .ok number) codes found)
    (ordered : codes.Pairwise Precedes) : (found.filterMap id).Pairwise (· ≤ ·) := by
  induction numbers with
  | nil => exact List.Pairwise.nil
  | @cons code number codes found here rest ih =>
      rw [List.pairwise_cons] at ordered
      cases number with
      | none => exact ih ordered.2
      | some n =>
          refine List.pairwise_cons.mpr ⟨?_, ih ordered.2⟩
          intro m member
          obtain ⟨later, inside, same⟩ := List.mem_filterMap.mp member
          obtain ⟨other, among, there⟩ := Outcome.related_result _ _ _ rest later inside
          obtain ⟨low, high, rankLow, rankHigh, before⟩ := ordered.1 other among
          rw [show later = some m from same] at there
          cases (number_rank code n here).symm.trans rankLow
          cases (number_rank other m there).symm.trans rankHigh
          omega

end PlayClient.StatusCode
