import Mathlib.Data.List.Basic
import Mathlib.Data.List.TakeWhile
import PlayClient.Proofs.Text.Letters
import PlayClient.Text.Numeral

set_option autoImplicit false

namespace PlayClient.Text

theorem read_numeral_decimals (text : String) (filled : text.toList ≠ [])
    (decimal : ∀ c ∈ text.toList, isDecimal c = true) (short : text.toList.length ≤ digitLimit) :
    readNumeral text = .ok (numeralValue text.toList) := by
  have whole : text.toList.takeWhile isDecimal = text.toList := List.takeWhile_eq_self_iff.mpr decimal
  rw [readNumeral, whole, if_neg (Nat.not_lt.mpr short), if_neg]
  rintro (empty | differ)
  · exact filled empty
  · exact differ rfl

theorem read_numeral_ok_iff (text : String) (n : Nat) :
    readNumeral text = .ok n ↔
      (text.toList ≠ [] ∧ (∀ c ∈ text.toList, isDecimal c = true) ∧ text.toList.length ≤ digitLimit) ∧
        n = numeralValue text.toList := by
  constructor
  · intro read
    rw [readNumeral] at read
    split at read
    · cases read
    · next short =>
        split at read
        · cases read
        · next plain =>
            rw [not_or, not_not] at plain
            obtain ⟨filled, whole⟩ := plain
            rw [whole] at filled short read
            exact ⟨⟨filled, List.takeWhile_eq_self_iff.mp whole, Nat.not_lt.mp short⟩, (Except.ok.inj read).symm⟩
  · rintro ⟨⟨filled, decimal, short⟩, same⟩
    rw [same]
    exact read_numeral_decimals text filled decimal short

-- A text that is not empty is no numeral for one of two reasons.
theorem read_numeral_error_iff (text : String) (filled : text.toList ≠ []) :
    (∃ error, readNumeral text = .error error) ↔
      (∃ c ∈ text.toList, isDecimal c = false) ∨ digitLimit < text.toList.length := by
  constructor
  · rintro ⟨error, failed⟩
    by_contra clean
    simp only [not_or, not_exists, not_and, Bool.not_eq_false, Nat.not_lt] at clean
    rw [read_numeral_decimals text filled clean.1 clean.2] at failed
    cases failed
  · intro faulty
    cases read : readNumeral text with
    | error error => exact ⟨error, rfl⟩
    | ok n =>
        obtain ⟨⟨-, decimal, short⟩, -⟩ := (read_numeral_ok_iff text n).mp read
        rcases faulty with ⟨c, member, other⟩ | long
        · rw [decimal c member] at other
          cases other
        · exact absurd short (Nat.not_le.mpr long)

theorem digit_value_ascii (c : Char) (digit : c.isDigit = true) : digitValue? c = some (c.toNat - '0'.toNat) := by
  have small : c.toNat < 128 := word_char_ascii c (by simp [PlayClient.Naming.isWordChar, Char.isAlphanum, digit])
  exact ascii_forall (fun c => c.isDigit = true → digitValue? c = some (c.toNat - '0'.toNat)) (by decide) c small digit

theorem numeral_value_ascii (digits : List Char) (ascii : ∀ c ∈ digits, c.isDigit = true) :
    numeralValue digits = Nat.ofDigitChars 10 digits 0 := by
  rw [numeralValue, Nat.ofDigitChars_eq_foldl]
  apply List.foldl_ext
  intro value c member
  rw [digit_value_ascii c (ascii c member), Option.getD_some]

theorem decimal_text (n : Nat) : (toString n).toList = Nat.toDigits 10 n := by
  rw [Nat.toString_eq_repr, Nat.toList_repr]

theorem decimal_text_ascii (n : Nat) : ∀ c ∈ (toString n).toList, c.isDigit = true := by
  intro c member
  rw [decimal_text] at member
  exact Nat.isDigit_of_mem_toDigits (by decide) (by decide) member

-- A number written in decimal is read back, up to the limit on its length.
theorem read_numeral_repr (n : Nat) (short : (toString n).toList.length ≤ digitLimit) :
    readNumeral (toString n) = .ok n := by
  have ascii := decimal_text_ascii n
  have decimal : ∀ c ∈ (toString n).toList, isDecimal c = true := by
    intro c member
    rw [isDecimal, digit_value_ascii c (ascii c member)]
    rfl
  have filled : (toString n).toList ≠ [] := by
    rw [decimal_text]
    exact Nat.toDigits_ne_nil
  rw [read_numeral_decimals _ filled decimal short, numeral_value_ascii _ ascii, decimal_text,
    Nat.ofDigitChars_ten_toDigits]

end PlayClient.Text
