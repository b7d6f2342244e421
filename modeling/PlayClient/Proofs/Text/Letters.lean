import PlayClient.Naming.Words
import PlayClient.Text.Digit

set_option autoImplicit false

namespace PlayClient.Text

open PlayClient.Naming (isWordChar)

theorem ascii_forall (holds : Char → Prop) (all : ∀ n < 128, holds (Char.ofNat n)) (c : Char)
    (small : c.toNat < 128) : holds c := by
  simpa only [Char.ofNat_toNat] using all c.toNat small

theorem below_ascii (c top : Char) (bound : c.val ≤ top.val) (ascii : top.toNat < 128) : c.toNat < 128 :=
  Nat.lt_of_le_of_lt (UInt32.le_iff_toNat_le.mp bound) ascii

theorem word_char_ascii (c : Char) (word : isWordChar c = true) : c.toNat < 128 := by
  have kinds : (c.isUpper || c.isLower || c.isDigit) = true := word
  rw [Bool.or_eq_true, Bool.or_eq_true] at kinds
  rcases kinds with (capital | letter) | digit
  · have range : c.val ≥ 'A'.val ∧ c.val ≤ 'Z'.val := of_decide_eq_true capital
    exact below_ascii c 'Z' range.2 (by decide)
  · have range : (decide (c.val ≥ 'a'.val) && decide (c.val ≤ 'z'.val)) = true := letter
    rw [Bool.and_eq_true, decide_eq_true_iff, decide_eq_true_iff] at range
    exact below_ascii c 'z' range.2 (by decide)
  · have range : (decide (c.val ≥ '0'.val) && decide (c.val ≤ '9'.val)) = true := digit
    rw [Bool.and_eq_true, decide_eq_true_iff, decide_eq_true_iff] at range
    exact below_ascii c '9' range.2 (by decide)

-- On words the case maps give one letter for one letter, and stay inside words.
theorem upper_word_char (c : Char) (word : isWordChar c = true) :
    ∃ d, upper c = [d] ∧ isWordChar d = true := by
  have small := word_char_ascii c word
  refine ⟨c.toUpper, by simp [upper, small], ?_⟩
  exact ascii_forall (fun c => isWordChar c = true → isWordChar c.toUpper = true) (by decide) c small word

theorem lower_word_char (c : Char) (word : isWordChar c = true) :
    ∃ d, lower c = [d] ∧ isWordChar d = true := by
  have small := word_char_ascii c word
  refine ⟨c.toLower, by simp [lower, small], ?_⟩
  exact ascii_forall (fun c => isWordChar c = true → isWordChar c.toLower = true) (by decide) c small word

/-! ## Digits have no case -/

def digitRanges : List (Nat × Nat) := decimalZeros.map (fun start => (start, start + 9)) ++ ornamentalDigits

theorem digit_in_ranges (c : Char) (digit : isDigit c = true) :
    ∃ range ∈ digitRanges, range.1 ≤ c.toNat ∧ c.toNat ≤ range.2 := by
  rcases Bool.or_eq_true_iff.mp digit with decimal | ornamental
  · simp only [isDecimal, digitValue?, Option.isSome_map, List.find?_isSome, Bool.and_eq_true,
      decide_eq_true_eq] at decimal
    obtain ⟨start, member, low, high⟩ := decimal
    refine ⟨(start, start + 9), List.mem_append_left _ (List.mem_map_of_mem member), low, ?_⟩
    show c.toNat ≤ start + 9
    omega
  · simp only [inRanges, List.any_eq_true, inRange, Bool.and_eq_true, decide_eq_true_eq] at ornamental
    obtain ⟨range, member, low, high⟩ := ornamental
    exact ⟨range, List.mem_append_right _ member, low, high⟩

-- The small letters and the two tables of the upper case pass over every range of digits.
theorem digit_ranges_apart :
    (digitRanges.all fun range =>
      (Nat.blt range.2 'a'.toNat || Nat.blt 'z'.toNat range.1) &&
        (upperRuns.all fun run => Nat.blt run.last range.1 || Nat.blt range.2 run.first) &&
        upperSequences.all fun entry => Nat.blt entry.1 range.1 || Nat.blt range.2 entry.1) = true := by
  decide +kernel

theorem upper_digit (c : Char) (digit : isDigit c = true) : upper c = [c] := by
  obtain ⟨range, member, low, high⟩ := digit_in_ranges c digit
  have apart := List.all_eq_true.mp digit_ranges_apart range member
  simp only [Bool.and_eq_true, List.all_eq_true, Bool.or_eq_true, Nat.blt_eq] at apart
  obtain ⟨⟨letters, runs⟩, sequences⟩ := apart
  by_cases small : c.toNat < 128
  · have noLetter : ¬ ('a'.val ≤ c.val ∧ c.val ≤ 'z'.val) := by
      intro letter
      have above : 'a'.toNat ≤ c.toNat := UInt32.le_iff_toNat_le.mp letter.1
      have below : c.toNat ≤ 'z'.toNat := UInt32.le_iff_toNat_le.mp letter.2
      omega
    have kept : c.toUpper = c := dif_neg noLetter
    simp [upper, small, kept]
  · have noSequence : upperSequences.lookup c.toNat = none := by
      apply List.lookup_eq_none_iff.mpr
      intro entry inside
      have outside := sequences entry inside
      simp only [ne_eq, bne_iff_ne]
      omega
    have noRun : upperRuns.findSome? (·.map? c) = none := by
      apply List.findSome?_eq_none_iff.mpr
      intro run inside
      have outside := runs run inside
      simp only [CaseRun.map?, ite_eq_right_iff, reduceCtorEq, imp_false]
      omega
    simp [upper, small, recased, noSequence, noRun]

/-! ## No other letter becomes a digit or an `X` -/

theorem upper_images_apart :
    (upperRuns.all fun run => (('X'.toNat, 'X'.toNat) :: digitRanges).all fun range =>
      Nat.blt 0 range.1 &&
        (Nat.blt (run.image + (run.last - run.first)) range.1 || Nat.blt range.2 run.image)) = true := by
  decide +kernel

theorem upper_sequences_apart :
    (upperSequences.all fun entry => entry.2.any fun n => !isDigit (Char.ofNat n) && Char.ofNat n != 'X') = true := by
  decide +kernel

theorem digit_or_x_in_ranges (c : Char) (made : isDigit c = true ∨ c = 'X') :
    ∃ range ∈ ('X'.toNat, 'X'.toNat) :: digitRanges, range.1 ≤ c.toNat ∧ c.toNat ≤ range.2 := by
  rcases made with digit | wildcard
  · obtain ⟨range, member, bounds⟩ := digit_in_ranges c digit
    exact ⟨range, List.mem_cons_of_mem _ member, bounds⟩
  · exact ⟨_, List.mem_cons_self, Nat.le_of_eq (congrArg Char.toNat wildcard.symm),
      Nat.le_of_eq (congrArg Char.toNat wildcard)⟩

theorem run_image_apart (run : CaseRun) (inside : run ∈ upperRuns) (c d : Char) (mapped : run.map? c = some d) :
    ¬(isDigit d = true ∨ d = 'X') := by
  intro made
  obtain ⟨range, member, low, high⟩ := digit_or_x_in_ranges d made
  have apart := List.all_eq_true.mp (List.all_eq_true.mp upper_images_apart run inside) range member
  simp only [Bool.and_eq_true, Bool.or_eq_true, Nat.blt_eq] at apart
  obtain ⟨positive, apart⟩ := apart
  simp only [CaseRun.map?, Option.ite_none_right_eq_some, Option.some.injEq] at mapped
  obtain ⟨⟨first, last, -⟩, image⟩ := mapped
  have value : d.toNat = run.image + (c.toNat - run.first) ∨ d.toNat = 0 := by
    rw [← image, Char.ofNat]
    by_cases valid : (run.image + (c.toNat - run.first)).isValidChar
    · rw [dif_pos valid]
      exact Or.inl rfl
    · rw [dif_neg valid]
      exact Or.inr rfl
  omega

-- So what reads as digits and wildcards in upper case was written with them.
theorem upper_digit_or_x (c : Char) (made : ∀ d ∈ upper c, isDigit d = true ∨ d = 'X') :
    isDigit c = true ∨ c = 'x' ∨ c = 'X' := by
  by_cases small : c.toNat < 128
  · have here := made c.toUpper (by simp [upper, small])
    exact ascii_forall
      (fun c => isDigit c.toUpper = true ∨ c.toUpper = 'X' → isDigit c = true ∨ c = 'x' ∨ c = 'X')
      (by decide +kernel) c small here
  · rw [upper, if_neg small, recased] at made
    cases found : upperSequences.lookup c.toNat with
    | some image =>
        obtain ⟨front, back, split, -⟩ := List.lookup_eq_some_iff.mp found
        have entry : (c.toNat, image) ∈ upperSequences := by simp [split]
        obtain ⟨n, member, other⟩ := List.any_eq_true.mp (List.all_eq_true.mp upper_sequences_apart _ entry)
        have apart : isDigit (Char.ofNat n) = false ∧ Char.ofNat n ≠ 'X' := by simpa using other
        simp only [found] at made
        rcases made _ (List.mem_map_of_mem member) with digit | wildcard
        · rw [apart.1] at digit
          cases digit
        · exact absurd wildcard apart.2
    | none =>
        simp only [found, List.mem_singleton, forall_eq] at made
        cases mapped : upperRuns.findSome? (·.map? c) with
        | some d =>
            obtain ⟨run, inside, image⟩ := List.exists_of_findSome?_eq_some mapped
            rw [mapped, Option.getD_some] at made
            exact absurd made (run_image_apart run inside c d image)
        | none =>
            rw [mapped, Option.getD_none] at made
            exact made.imp id Or.inr

end PlayClient.Text
