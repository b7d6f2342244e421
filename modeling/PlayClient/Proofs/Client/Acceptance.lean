import PlayClient.Client.ApiPage
import PlayClient.Proofs.Client.Success
import PlayClient.Proofs.Text.Numeral

set_option autoImplicit false

namespace PlayClient.Client

-- The code is the status in decimal, with X in place of some of the digits.
def Covers (code : String) (status : Nat) : Prop :=
  List.Forall₂ (fun c digit => c = 'X' ∨ c = digit) code.toList (toString status).toList

def CoversAsRange (code : String) (status : Nat) : Prop := Covers code status ∧ 'X' ∈ code.toList

-- What a request takes for a success at run time, by the statuses it declares.
def Accepts (declared : List Nat) (status : Nat) : Prop :=
  if declared = [] then 200 ≤ status ∧ status < 300 else status ∈ declared

-- The numbers among the codes of the responses, as a method declares them.
def declaredStatuses (responses : List ResolvedResponse) : Except Text.NumeralError (List Nat) := do
  let found ← responses.mapM (·.status)
  return found.filterMap id

def AcceptsCovered (responses : List ResolvedResponse) (declared : List Nat) : Prop :=
  ∀ status, 200 ≤ status → status < 300 → (∃ response ∈ responses, Covers response.code status) →
    Accepts declared status

def NoneNumbered (responses : List ResolvedResponse) : Prop :=
  ∀ response ∈ responses, response.status = .ok none

-- Every success inside a range is also there under its own number.
def RangesNumbered (responses : List ResolvedResponse) : Prop :=
  ∀ status, 200 ≤ status → status < 300 → (∃ response ∈ responses, CoversAsRange response.code status) →
    ∃ response ∈ responses, response.status = .ok (some status)

/-! ## Codes with and without wildcards -/

theorem range_no_number (code : String) (wild : 'X' ∈ code.toList) : StatusCode.number? code = .ok none := by
  have digits : ¬ StatusCode.allDigits code = true := by
    intro digits
    have digit := ((StatusCode.all_digits_iff code).mp digits).2 'X' wild
    exact absurd digit (by decide +kernel)
  rw [StatusCode.number?, if_neg digits]

theorem exact_code (pattern digits : List Char)
    (covers : List.Forall₂ (fun c digit => c = 'X' ∨ c = digit) pattern digits)
    (exact : 'X' ∉ pattern) : pattern = digits := by
  induction covers with
  | nil => rfl
  | @cons c digit _ _ here _ ih =>
      rw [List.mem_cons, not_or] at exact
      rcases here with wild | same
      · exact absurd wild.symm exact.1
      · rw [same, ih exact.2]

theorem decimal_number (n : Nat) (short : (toString n).toList.length ≤ Text.digitLimit) :
    StatusCode.number? (toString n) = .ok (some n) := by
  have digits : StatusCode.allDigits (toString n) = true := by
    refine (StatusCode.all_digits_iff _).mpr ⟨?_, ?_⟩
    · rw [Text.decimal_text]
      exact Nat.toDigits_ne_nil
    · intro c member
      rw [Text.isDigit, Text.isDecimal, Text.digit_value_ascii c (Text.decimal_text_ascii n c member)]
      rfl
  rw [StatusCode.number?, if_pos digits, Text.read_numeral_repr n short]
  rfl

-- A code that covers a status stands for it exactly, or is a range around it.
theorem covers_cases (code : String) (status : Nat) (covers : Covers code status) :
    code = toString status ∨ CoversAsRange code status := by
  by_cases wild : 'X' ∈ code.toList
  · exact Or.inr ⟨covers, wild⟩
  · exact Or.inl (String.toList_inj.mp (exact_code _ _ covers wild))

theorem exact_status (response : ResolvedResponse) (status : Nat) (high : status < 300)
    (exact : response.code = toString status) : response.status = .ok (some status) := by
  have short : (toString status).toList.length ≤ Text.digitLimit := by
    rw [Text.decimal_text, Nat.length_toDigits_le_iff (by decide) (by decide)]
    exact Nat.lt_of_lt_of_le high (by decide +kernel)
  rw [ResolvedResponse.status, exact]
  exact decimal_number status short

theorem range_status (response : ResolvedResponse) (status : Nat) (range : CoversAsRange response.code status) :
    response.status = .ok none := by
  rw [ResolvedResponse.status]
  exact range_no_number response.code range.2

/-! ## What a request accepts -/

theorem declared_statuses_mem (responses : List ResolvedResponse) (declared : List Nat)
    (done : declaredStatuses responses = .ok declared) (status : Nat) :
    status ∈ declared ↔ ∃ response ∈ responses, response.status = .ok (some status) := by
  obtain ⟨found, traversed, same⟩ := (Outcome.bind_ok_iff _ _ _).mp done
  cases same
  have related := (Outcome.traverse_ok_iff _ _ _).mp traversed
  rw [List.mem_filterMap]
  constructor
  · rintro ⟨number, member, here⟩
    obtain ⟨response, among, numbered⟩ := Outcome.related_result _ _ _ related number member
    exact ⟨response, among, numbered.trans (congrArg Except.ok here)⟩
  · rintro ⟨response, among, here⟩
    obtain ⟨number, member, numbered⟩ := Outcome.related_item _ _ _ related response among
    exact ⟨number, member, Except.ok.inj (numbered.symm.trans here)⟩

theorem declared_statuses_none (responses : List ResolvedResponse) (declared : List Nat)
    (done : declaredStatuses responses = .ok declared) : declared = [] ↔ NoneNumbered responses := by
  have numbered := declared_statuses_mem responses declared done
  constructor
  · intro empty response member
    obtain ⟨found, traversed, -⟩ := (Outcome.bind_ok_iff _ _ _).mp done
    have related := (Outcome.traverse_ok_iff _ _ _).mp traversed
    obtain ⟨number, -, here⟩ := Outcome.related_item _ _ _ related response member
    cases number with
    | none => exact here
    | some status =>
        have inside := (numbered status).mpr ⟨response, member, here⟩
        rw [empty] at inside
        exact absurd inside List.not_mem_nil
  · intro none
    rw [List.eq_nil_iff_forall_not_mem]
    intro status inside
    obtain ⟨response, member, here⟩ := (numbered status).mp inside
    rw [none response member] at here
    cases here

theorem accepts_undeclared (status : Nat) (low : 200 ≤ status) (high : status < 300) : Accepts [] status := by
  rw [Accepts, if_pos rfl]
  exact ⟨low, high⟩

theorem accepts_declared (declared : List Nat) (status : Nat) (member : status ∈ declared) :
    Accepts declared status := by
  rw [Accepts, if_neg (List.ne_nil_of_mem member)]
  exact member

theorem accepts_covered_iff (responses : List ResolvedResponse) (declared : List Nat)
    (done : declaredStatuses responses = .ok declared) :
    AcceptsCovered responses declared ↔ NoneNumbered responses ∨ RangesNumbered responses := by
  have numbered := declared_statuses_mem responses declared done
  constructor
  · intro accepted
    by_cases empty : declared = []
    · exact Or.inl ((declared_statuses_none responses declared done).mp empty)
    · refine Or.inr ?_
      rintro status low high ⟨response, member, covers, -⟩
      have here := accepted status low high ⟨response, member, covers⟩
      rw [Accepts, if_neg empty] at here
      exact (numbered status).mp here
  · rintro (none | ranges) status low high ⟨response, member, covers⟩
    · rw [(declared_statuses_none responses declared done).mpr none]
      exact accepts_undeclared status low high
    · apply accepts_declared
      rw [numbered]
      rcases covers_cases response.code status covers with exact | range
      · exact ⟨response, member, exact_status response status high exact⟩
      · exact ranges status low high ⟨response, member, range⟩

-- A response on its own is a number or a range, so the two rules cannot clash.
theorem lone_response_accepted (responses : List ResolvedResponse) (declared : List Nat)
    (done : declaredStatuses responses = .ok declared) (lone : responses.length ≤ 1) :
    AcceptsCovered responses declared := by
  refine (accepts_covered_iff responses declared done).mpr ?_
  by_cases range : ∃ response ∈ responses, ∃ status, CoversAsRange response.code status
  · obtain ⟨response, member, status, range⟩ := range
    refine Or.inl ?_
    intro other among
    have same : other = response := by
      match responses, lone with
      | [only], _ => exact (List.mem_singleton.mp among).trans (List.mem_singleton.mp member).symm
    rw [same]
    exact range_status response status range
  · refine Or.inr ?_
    rintro status - - ⟨response, member, covers⟩
    exact absurd ⟨response, member, status, covers⟩ range

theorem client_method_responses (client : Client) (operation : Operation) (method : ClientMethod)
    (built : client.clientMethod operation = .ok method) :
    client.successResponses operation = .ok method.successResponses := by
  obtain ⟨parameters, -, built⟩ := (Outcome.bind_ok_iff _ _ _).mp built
  obtain ⟨name, -, built⟩ := (Outcome.bind_ok_iff _ _ _).mp built
  obtain ⟨returned, -, built⟩ := (Outcome.bind_ok_iff _ _ _).mp built
  obtain ⟨successes, listed, built⟩ := (Outcome.bind_ok_iff _ _ _).mp built
  obtain ⟨responses, -, same⟩ := (Outcome.bind_ok_iff _ _ _).mp built
  cases same
  exact listed

-- A range declares nothing, and the request falls back to every 2xx status only
-- when nothing is declared. So the two rules fit exactly when no code is a number
-- or the numbers fill the ranges; for the lowest success alone they always do.
theorem request_accepts_covered_iff (client : Client) (operation : Operation) (responses : List ResolvedResponse)
    (listed : client.successResponses operation = .ok responses) :
    ∃ declared, declaredStatuses responses = .ok declared ∧
      (∀ method, client.clientMethod operation = .ok method → method.statuses = .ok declared) ∧
      (AcceptsCovered responses declared ↔ NoneNumbered responses ∨ RangesNumbered responses) ∧
      (client.settings.onlyOneSuccess = true → AcceptsCovered responses declared) := by
  obtain ⟨chosen, sorted, done, head, ordered, ranked, related⟩ :=
    success_responses_chosen client operation responses listed
  obtain ⟨found, traversed, -⟩ := statuses_ordered client chosen responses ordered ranked related
  have declared : declaredStatuses responses = .ok (found.filterMap id) := by
    rw [declaredStatuses, traversed]
    rfl
  refine ⟨found.filterMap id, declared, ?_, accepts_covered_iff responses _ declared, ?_⟩
  · intro method built
    have same := client_method_responses client operation method built
    rw [listed] at same
    cases same
    exact declared
  · intro one
    have short := (lowest_success_only client operation responses one listed).1
    exact lone_response_accepted responses _ declared short

theorem request_of_range_beside_code :
    listingAll.successResponses rangeBesideCode = .ok codeThenRange ∧
      ∃ declared, declaredStatuses codeThenRange = .ok declared ∧
        (∀ method, listingAll.clientMethod rangeBesideCode = .ok method → method.statuses = .ok declared) ∧
        (AcceptsCovered codeThenRange declared ↔ NoneNumbered codeThenRange ∨ RangesNumbered codeThenRange) := by
  obtain ⟨declared, done, same, fits, -⟩ :=
    request_accepts_covered_iff listingAll rangeBesideCode _ range_beside_code_listed
  exact ⟨range_beside_code_listed, declared, done, same, fits⟩

-- 201 lies in the range, but the request declares 200 and refuses it.
theorem range_beside_code_refused :
    listingAll.successResponses rangeBesideCode = .ok codeThenRange ∧
      declaredStatuses codeThenRange = .ok [200] ∧ ¬ AcceptsCovered codeThenRange [200] := by
  refine ⟨range_beside_code_listed, by decide +kernel, ?_⟩
  intro accepted
  have covers : Covers "2XX" 201 := by
    have digits : (toString 201).toList = ['2', '0', '1'] := by decide +kernel
    rw [Covers, digits]
    exact .cons (.inr rfl) (.cons (.inl rfl) (.cons (.inl rfl) .nil))
  have here := accepted 201 (by decide) (by decide)
    ⟨⟨"2XX", "", some "Seq[Pet]", false⟩, List.mem_cons_of_mem _ List.mem_cons_self, covers⟩
  rw [Accepts] at here
  exact absurd here (by decide)

end PlayClient.Client
