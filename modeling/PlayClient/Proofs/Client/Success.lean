import PlayClient.Client.Basic
import PlayClient.Proofs.Api.StatusOrder

set_option autoImplicit false

namespace PlayClient.Client

variable (client : Client) (operation : Operation)

def Resolves (response : Response) (resolved : ResolvedResponse) : Prop :=
  client.resolveResponse response = .ok resolved

theorem resolves_content (response : Response) (resolved : ResolvedResponse)
    (done : client.Resolves response resolved) : resolved.code = response.code ∧
      match response.type with
      | none => resolved.dataType = none
      | some type => ∃ name, client.dialect.typeOf type = .ok name ∧ resolved.dataType = some name := by
  rw [Resolves, resolveResponse, Outcome.map_error_ok_iff, Dialect.resolveResponse] at done
  cases content : response.type with
  | none =>
      rw [content] at done
      cases done
      exact ⟨rfl, rfl⟩
  | some type =>
      rw [content, Outcome.bind_ok_iff] at done
      obtain ⟨name, typed, same⟩ := done
      cases same
      exact ⟨rfl, name, typed, rfl⟩

theorem resolves_success (response : Response) (resolved : ResolvedResponse)
    (done : client.Resolves response resolved) : response.isSuccess = resolved.isSuccess := by
  rw [Response.isSuccess, ResolvedResponse.isSuccess, (resolves_content client response resolved done).1]

/-! ## The two lists of success responses -/

theorem sorted_successes_ok_iff (sorted : List Response) :
    sortedSuccesses operation = .ok sorted ↔
      StatusCode.sortBy Response.code (operation.responses.filter (·.isSuccess)) = .ok sorted :=
  Outcome.map_error_ok_iff _ _ _

theorem lowest_success_listed (responses : List ResolvedResponse) (one : client.settings.onlyOneSuccess = true)
    (listed : client.successResponses operation = .ok responses) :
    ∃ sorted, sortedSuccesses operation = .ok sorted ∧
      List.Forall₂ client.Resolves (sorted.take 1) responses := by
  rw [successResponses, if_pos one, Outcome.bind_ok_iff] at listed
  obtain ⟨sorted, done, resolved⟩ := listed
  exact ⟨sorted, done, (Outcome.traverse_ok_iff _ _ _).mp resolved⟩

theorem all_responses_listed (responses : List ResolvedResponse) (all : client.settings.onlyOneSuccess = false)
    (listed : client.successResponses operation = .ok responses) :
    ∃ sorted, StatusCode.sortBy Response.code operation.responses = .ok sorted ∧
      List.Forall₂ client.Resolves sorted responses := by
  rw [successResponses, if_neg (by simp [all]), Outcome.bind_ok_iff] at listed
  obtain ⟨sorted, found, resolved⟩ := listed
  exact ⟨sorted, (Outcome.map_error_ok_iff _ _ _).mp found, (Outcome.traverse_ok_iff _ _ _).mp resolved⟩

-- What the two lists share: they are in order, and the lowest success is the
-- first success in them.
theorem success_responses_chosen (responses : List ResolvedResponse)
    (listed : client.successResponses operation = .ok responses) :
    ∃ chosen sorted, sortedSuccesses operation = .ok sorted ∧ sorted.head? = chosen.find? (·.isSuccess) ∧
      chosen.Pairwise (fun a b => StatusCode.Precedes a.code b.code) ∧
      (∀ response ∈ chosen, ∃ n, StatusCode.rank response.code = .ok n) ∧
      List.Forall₂ client.Resolves chosen responses := by
  cases mode : client.settings.onlyOneSuccess with
  | true =>
      obtain ⟨sorted, done, related⟩ := lowest_success_listed client operation responses mode listed
      have sort := (sorted_successes_ok_iff operation sorted).mp done
      have spec := StatusCode.sort_by_spec _ _ _ sort
      refine ⟨sorted.take 1, sorted, done, ?_, spec.ordered.sublist (List.take_sublist 1 sorted), ?_, related⟩
      · cases sorted with
        | nil => rfl
        | cons lowest rest =>
            have member := spec.perm.mem_iff.mp (List.mem_cons_self (a := lowest) (l := rest))
            simp [(List.mem_filter.mp member).2]
      · intro response member
        have among := spec.perm.mem_iff.mp (List.mem_of_mem_take member)
        exact StatusCode.sort_by_ranked _ _ _ sort response among
  | false =>
      obtain ⟨sorted, sort, related⟩ := all_responses_listed client operation responses mode listed
      have spec := StatusCode.sort_by_spec _ _ _ sort
      have successes := StatusCode.sort_by_filter _ _ _ sort (·.isSuccess)
      refine ⟨sorted, _, (sorted_successes_ok_iff operation _).mpr successes, List.head?_filter, spec.ordered, ?_,
        related⟩
      intro response member
      exact StatusCode.sort_by_ranked _ _ _ sort response (spec.perm.mem_iff.mp member)

theorem return_type_of_lowest (sorted : List Response) (lowest : Option ResolvedResponse)
    (done : sortedSuccesses operation = .ok sorted) (related : Option.Rel client.Resolves sorted.head? lowest) :
    client.returnType operation = .ok ((lowest.bind (·.dataType)).getD unitType) := by
  refine (Outcome.bind_ok_iff _ _ _).mpr ⟨sorted, done, ?_⟩
  generalize sorted.head? = head at related
  cases related with
  | none => rfl
  | @some response resolved found =>
      have content := (resolves_content client response resolved found).2
      rw [Option.bind_some]
      cases type : response.type with
      | none =>
          rw [type] at content
          rw [Option.bind_some, content]
          rfl
      | some type' =>
          rw [type] at content
          obtain ⟨name, typed, named⟩ := content
          rw [Option.bind_some, named]
          exact (Outcome.map_error_ok_iff _ _ _).mpr typed

theorem lowest_success_only (responses : List ResolvedResponse) (one : client.settings.onlyOneSuccess = true)
    (listed : client.successResponses operation = .ok responses) :
    responses.length ≤ 1 ∧ (responses = [] ↔ ∀ response ∈ operation.responses, response.isSuccess = false) ∧
      ∀ resolved ∈ responses, ∃ lowest,
        StatusCode.IsLowest Response.code (operation.responses.filter (·.isSuccess)) lowest ∧
        client.Resolves lowest resolved := by
  obtain ⟨sorted, done, related⟩ := lowest_success_listed client operation responses one listed
  have sort := (sorted_successes_ok_iff operation sorted).mp done
  have spec := StatusCode.sort_by_spec _ _ _ sort
  cases sorted with
  | nil =>
      cases related
      have empty := spec.perm.nil_eq.symm
      refine ⟨Nat.zero_le 1, ?_, by simp⟩
      simpa using List.filter_eq_nil_iff.mp empty
  | cons lowest rest =>
      cases related with
      | @cons _ resolved _ _ here none =>
          cases none
          have member := spec.perm.mem_iff.mp List.mem_cons_self
          obtain ⟨n, rank⟩ := StatusCode.sort_by_ranked _ _ _ sort lowest member
          obtain ⟨declared, success⟩ := List.mem_filter.mp member
          refine ⟨Nat.le_refl 1, ?_, ?_⟩
          · constructor
            · intro empty
              cases empty
            · intro failures
              exact absurd (failures lowest declared) (by simp [success])
          · intro other inside
            rw [List.mem_singleton.mp inside]
            exact ⟨lowest, StatusCode.head_is_lowest _ _ rest lowest n rank spec, here⟩

theorem resolved_codes (chosen : List Response) (responses : List ResolvedResponse)
    (related : List.Forall₂ client.Resolves chosen responses) :
    responses.map (·.code) = chosen.map (·.code) := by
  have agree : ∀ response resolved, client.Resolves response resolved → response.code = resolved.code :=
    fun response resolved here => (resolves_content client response resolved here).1.symm
  exact (Outcome.related_images client.Resolves _ _ chosen responses agree related).symm

theorem statuses_ordered (chosen : List Response) (responses : List ResolvedResponse)
    (ordered : chosen.Pairwise (fun a b => StatusCode.Precedes a.code b.code))
    (ranked : ∀ response ∈ chosen, ∃ n, StatusCode.rank response.code = .ok n)
    (related : List.Forall₂ client.Resolves chosen responses) :
    ∃ found, responses.mapM (·.status) = .ok found ∧ (found.filterMap id).Pairwise (· ≤ ·) := by
  have codes := resolved_codes client chosen responses related
  have numbered : ∀ resolved ∈ responses, ∃ number, resolved.status = .ok number := by
    intro resolved member
    obtain ⟨response, among, here⟩ := Outcome.related_result _ _ _ related resolved member
    obtain ⟨n, rank⟩ := ranked response among
    rw [ResolvedResponse.status, (resolves_content client response resolved here).1]
    exact StatusCode.ranked_number response.code n rank
  obtain ⟨found, traversed⟩ := Outcome.traverse_total _ responses numbered
  refine ⟨found, traversed, StatusCode.numbers_ordered (responses.map (·.code)) found ?_ ?_⟩
  · rw [List.forall₂_map_left_iff]
    exact (Outcome.traverse_ok_iff _ _ _).mp traversed
  · rw [codes, List.pairwise_map]
    exact ordered

-- The return type is read off the success responses in either mode, and
-- always exists when they do.
theorem return_type_of_success_responses (responses : List ResolvedResponse)
    (listed : client.successResponses operation = .ok responses) :
    client.returnType operation =
        .ok (((responses.find? (·.isSuccess)).bind (·.dataType)).getD unitType) ∧
      (client.settings.onlyOneSuccess = true →
        responses.length ≤ 1 ∧ (responses = [] ↔ ∀ response ∈ operation.responses, response.isSuccess = false) ∧
        ∀ resolved ∈ responses, ∃ lowest,
          StatusCode.IsLowest Response.code (operation.responses.filter (·.isSuccess)) lowest ∧
          client.resolveResponse lowest = .ok resolved) ∧
      (client.settings.onlyOneSuccess = false →
        ∃ sorted, StatusCode.IsSortOf Response.code operation.responses sorted ∧
          List.Forall₂ (fun response resolved => client.resolveResponse response = .ok resolved) sorted responses) ∧
      ∃ found, responses.mapM (·.status) = .ok found ∧ (found.filterMap id).Pairwise (· ≤ ·) := by
  obtain ⟨chosen, sorted, done, head, ordered, ranked, related⟩ :=
    success_responses_chosen client operation responses listed
  refine ⟨?_, ?_, ?_, ?_⟩
  · apply return_type_of_lowest client operation sorted _ done
    rw [head]
    exact Outcome.find_related _ chosen responses _ _ (resolves_success client) related
  · exact fun one => lowest_success_only client operation responses one listed
  · intro all
    obtain ⟨sorted, sort, related⟩ := all_responses_listed client operation responses all listed
    exact ⟨sorted, StatusCode.sort_by_spec _ _ _ sort, related⟩
  · exact statuses_ordered client chosen responses ordered ranked related

-- A range beside one of its codes, declared out of order, and how they resolve.
def rangeBesideCode : Operation :=
  ⟨some "listPets", "GET", "/pets", [],
    [⟨"2XX", some (.array (.object "Pet")), ""⟩, ⟨"200", some (.object "Pet"), ""⟩], [], none⟩

def codeThenRange : List ResolvedResponse := [⟨"200", "", some "Pet", false⟩, ⟨"2XX", "", some "Seq[Pet]", false⟩]

def listingAll : Client := .ofSettings { Settings.standard with onlyOneSuccess := false }

theorem range_beside_code_listed : listingAll.successResponses rangeBesideCode = .ok codeThenRange := by
  have sorted : StatusCode.sortBy Response.code rangeBesideCode.responses =
      .ok [⟨"200", some (.object "Pet"), ""⟩, ⟨"2XX", some (.array (.object "Pet")), ""⟩] := by
    refine (StatusCode.sort_by_ok_iff _ _ _).mpr
      ⟨[((200, "2XX"), ⟨"2XX", some (.array (.object "Pet")), ""⟩),
        ((200, "200"), ⟨"200", some (.object "Pet"), ""⟩)], ?_, ?_⟩
    · decide +kernel
    · simp [List.mergeSort, StatusCode.precedes]
  refine (Outcome.bind_ok_iff _ _ _).mpr ⟨_, (Outcome.map_error_ok_iff _ _ _).mpr sorted, ?_⟩
  decide +kernel

theorem return_type_of_range_beside_code :
    listingAll.successResponses rangeBesideCode = .ok codeThenRange ∧
      listingAll.returnType rangeBesideCode = .ok "Pet" := by
  have agreed := return_type_of_success_responses listingAll rangeBesideCode _ range_beside_code_listed
  exact ⟨range_beside_code_listed, agreed.1⟩

end PlayClient.Client
