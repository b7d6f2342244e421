import PlayClient.Api.Response
import PlayClient.Proofs.Api.StatusOrder
import PlayClient.Proofs.Text.Numeral

set_option autoImplicit false

namespace PlayClient.StatusCode

open PlayClient.Text (NumeralError)

-- What a code is sorted by.
def place (code : String) : Except NumeralError (Nat × String) := (·, code) <$> rank code

-- The number that is left of a code in upper case with zeros for its wildcards.
def Spells (code : String) (n : Nat) : Prop := Text.readNumeral (rangeBase code) = .ok n

def Named (code : String) : Prop := allDigits (rangeBase code) = false

instance (code : String) (n : Nat) : Decidable (Spells code n) := inferInstanceAs (Decidable (_ = _))

instance (code : String) : Decidable (Named code) := inferInstanceAs (Decidable (_ = _))

-- Digits that make no numeral: one of them has no place in a numeral, or they are too many.
def Ornamented (digits : String) : Prop := ∃ c ∈ digits.toList, Text.isDecimal c = false

def Overlong (digits : String) : Prop := Text.digitLimit < digits.toList.length

/-! ## Numbers and names -/

theorem spells_digits (code : String) (n : Nat) (spells : Spells code n) : allDigits (rangeBase code) = true := by
  obtain ⟨⟨filled, decimal, -⟩, -⟩ := (Text.read_numeral_ok_iff _ n).mp spells
  refine (all_digits_iff _).mpr ⟨filled, ?_⟩
  intro c member
  rw [Text.isDigit, decimal c member, Bool.true_or]

theorem rank_ok_iff (code : String) (n : Nat) : rank code = .ok n ↔ Spells code n ∨ Named code ∧ nameRank = n := by
  by_cases digits : allDigits (rangeBase code) = true
  · rw [rank, if_pos digits]
    simp [Spells, Named, digits]
  · have unspelled : ¬Spells code n := fun spells => digits (spells_digits code n spells)
    rw [rank, if_neg digits]
    simp [Named, digits, unspelled]

theorem rank_error_iff (code : String) (error : NumeralError) :
    rank code = .error error ↔
      allDigits (rangeBase code) = true ∧ Text.readNumeral (rangeBase code) = .error error := by
  by_cases digits : allDigits (rangeBase code) = true
  · rw [rank, if_pos digits]
    simp [digits]
  · rw [rank, if_neg digits]
    simp [digits]

theorem place_ok_iff (code : String) (key : Nat × String) :
    place code = .ok key ↔ rank code = .ok key.1 ∧ code = key.2 := by
  rw [place, Outcome.map_ok_iff]
  constructor
  · rintro ⟨n, ranked, same⟩
    rw [← same]
    exact ⟨ranked, rfl⟩
  · rintro ⟨ranked, same⟩
    exact ⟨key.1, ranked, Prod.ext rfl same⟩

theorem place_error_iff (code : String) (error : NumeralError) :
    place code = .error error ↔ rank code = .error error := by
  cases ranked : rank code <;> simp [place, ranked, Functor.map, Except.map]

-- A code has no place exactly when its base looks like a number and is none.
theorem unplaced_iff (code : String) :
    (∃ error, place code = .error error) ↔
      allDigits (rangeBase code) = true ∧ (Ornamented (rangeBase code) ∨ Overlong (rangeBase code)) := by
  simp only [place_error_iff, rank_error_iff, exists_and_left]
  refine and_congr_right fun digits => ?_
  exact Text.read_numeral_error_iff _ ((all_digits_iff _).mp digits).1

/-! ## The number of a code and its place -/

theorem number_of_digits (code : String) (digits : allDigits code = true) :
    number? code = some <$> Text.readNumeral code ∧ place code = (·, code) <$> Text.readNumeral code := by
  rw [number?, if_pos digits, place, rank_of_digits code digits]
  exact ⟨rfl, rfl⟩

-- Digits are read once for the status and once, as their own base, for the order: both
-- readings give one number or fail in one way.
theorem status_and_place_agree (response : ResolvedResponse) :
    (allDigits response.code = true →
      response.status = .ok (some (Text.numeralValue response.code.toList)) ∧
          place response.code = .ok (Text.numeralValue response.code.toList, response.code) ∨
        ∃ error, response.status = .error error ∧ place response.code = .error error) ∧
      (allDigits response.code = false → response.status = .ok none) ∧
      ((∃ error, place response.code = .error error) ↔
        allDigits (rangeBase response.code) = true ∧
          (Ornamented (rangeBase response.code) ∨ Overlong (rangeBase response.code))) := by
  refine ⟨?_, ?_, unplaced_iff response.code⟩
  · intro digits
    obtain ⟨status, placed⟩ := number_of_digits response.code digits
    rw [ResolvedResponse.status, status, placed]
    cases read : Text.readNumeral response.code with
    | ok n =>
        obtain ⟨-, same⟩ := (Text.read_numeral_ok_iff _ n).mp read
        exact Or.inl ⟨congrArg (Except.ok ∘ some) same, congrArg (fun n => Except.ok (n, response.code)) same⟩
    | error error => exact Or.inr ⟨error, rfl, rfl⟩
  · intro other
    rw [ResolvedResponse.status, number?, other]
    rfl

-- A superscript two looks like a digit and ends both readings; the range beside it has no
-- status, but its base has the same fault.
theorem superscript_status_and_place :
    (allDigits "20²" = true ∧ ∃ error, ResolvedResponse.status ⟨"20²", "", none, false⟩ = .error error ∧
        place "20²" = .error error) ∧
      (allDigits "2x²" = false ∧ ResolvedResponse.status ⟨"2x²", "", none, false⟩ = .ok none ∧
        ∃ error, place "2x²" = .error error) := by
  obtain ⟨same, -, -⟩ := status_and_place_agree ⟨"20²", "", none, false⟩
  obtain ⟨-, none, fails⟩ := status_and_place_agree ⟨"2x²", "", none, false⟩
  have digits : allDigits "20²" = true := by decide +kernel
  have range : allDigits "2x²" = false := by decide +kernel
  refine ⟨⟨digits, ?_⟩, range, none range, ?_⟩
  · rcases same digits with ⟨-, placed⟩ | both
    · have unplaced : place "20²" ≠ .ok (Text.numeralValue "20²".toList, "20²") := by decide +kernel
      exact absurd placed unplaced
    · exact both
  · have based : allDigits (rangeBase "2x²") = true := by decide +kernel
    have ornament : '²' ∈ (rangeBase "2x²").toList ∧ Text.isDecimal '²' = false := by decide +kernel
    exact fails.mpr ⟨based, Or.inl ⟨'²', ornament⟩⟩

end PlayClient.StatusCode
