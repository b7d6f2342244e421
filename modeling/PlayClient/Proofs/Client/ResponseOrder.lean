import PlayClient.Proofs.Client.ApiBlocks

set_option autoImplicit false

namespace PlayClient.Client

open SchemaType

variable (client : Client) (operation : Operation) (responses : List Response)

def Resolvable (given : List Response) : Prop :=
  ∀ response ∈ given, ∃ resolved, client.resolveResponse response = .ok resolved

def Ranked (given : List Response) : Prop := ∀ response ∈ given, ∃ n, StatusCode.rank response.code = .ok n

theorem resolve_response_total (settings : Settings) (response : Response)
    (supported : ∀ type, response.type = some type → Supported type) :
    ∃ resolved, (ofSettings settings).resolveResponse response = .ok resolved := by
  simp only [resolveResponse, Outcome.map_error_ok_iff]
  cases content : response.type with
  | none => exact ⟨_, by rw [Dialect.resolveResponse, content]⟩
  | some type =>
      obtain ⟨name, typed⟩ :=
        (ofSettings settings).dialect.type_of_total settings.invokerPackage rfl type (supported type content)
      refine ⟨⟨response.code, response.message, some name, (ofSettings settings).dialect.isPrimitive type⟩, ?_⟩
      rw [Dialect.resolveResponse, content]
      exact (Outcome.bind_ok_iff _ _ _).mpr ⟨name, typed, rfl⟩

/-! ## Two orders of the same responses -/

theorem successes_reordered (reordered : operation.responses.Perm responses)
    (distinct : (operation.responses.map (·.code)).Nodup) (ranked : Ranked operation.responses) :
    ∃ sorted, sorted.Perm (operation.responses.filter (·.isSuccess)) ∧ sortedSuccesses operation = .ok sorted ∧
      sortedSuccesses { operation with responses := responses } = .ok sorted := by
  have fewer : ((operation.responses.filter (·.isSuccess)).map (·.code)).Nodup :=
    distinct.sublist (List.filter_sublist.map _)
  obtain ⟨sorted, done, same⟩ := StatusCode.sort_by_reordered Response.code _ _ (reordered.filter _) fewer
    (fun response member => ranked response (List.mem_filter.mp member).1)
  refine ⟨sorted, (StatusCode.sort_by_spec _ _ _ done).perm, ?_, ?_⟩
  · exact (Outcome.map_error_ok_iff _ _ _).mpr done
  · exact (Outcome.map_error_ok_iff _ _ _).mpr same

theorem chosen_reordered (reordered : operation.responses.Perm responses)
    (distinct : (operation.responses.map (·.code)).Nodup) (ranked : Ranked operation.responses) :
    ∃ chosen : List Response, (∀ response ∈ chosen, response ∈ operation.responses) ∧
      client.successResponses operation = chosen.mapM client.resolveResponse ∧
      client.successResponses { operation with responses := responses } = chosen.mapM client.resolveResponse := by
  cases mode : client.settings.onlyOneSuccess with
  | true =>
      obtain ⟨sorted, perm, done, same⟩ := successes_reordered operation responses reordered distinct ranked
      refine ⟨sorted.take 1, ?_, ?_, ?_⟩
      · intro response member
        exact (List.mem_filter.mp (perm.mem_iff.mp (List.mem_of_mem_take member))).1
      · rw [successResponses, if_pos mode, done]
        rfl
      · rw [successResponses, if_pos mode, same]
        rfl
  | false =>
      obtain ⟨sorted, done, same⟩ :=
        StatusCode.sort_by_reordered Response.code _ _ reordered distinct ranked
      refine ⟨sorted, ?_, ?_, ?_⟩
      · intro response member
        exact (StatusCode.sort_by_spec _ _ _ done).perm.mem_iff.mp member
      · rw [successResponses, if_neg (by simp [mode]), done]
        rfl
      · rw [successResponses, if_neg (by simp [mode]), same]
        rfl

-- What a method reads of its responses besides the two lists: that all of them resolve.
theorem method_text_agrees (other : List Response) (resolvable : client.Resolvable operation.responses)
    (otherResolvable : client.Resolvable other)
    (returned : client.returnType { operation with responses := other } = client.returnType operation)
    (listed : client.successResponses { operation with responses := other } = client.successResponses operation) :
    client.methodText { operation with responses := other } = client.methodText operation := by
  obtain ⟨resolved, done⟩ := Outcome.traverse_total client.resolveResponse operation.responses resolvable
  obtain ⟨otherResolved, otherDone⟩ := Outcome.traverse_total client.resolveResponse other otherResolvable
  simp only [methodText, clientMethod, bind_assoc, pure_bind, returned, listed, done, otherDone]
  rfl

theorem return_type_total (sorted : List Response) (done : sortedSuccesses operation = .ok sorted)
    (resolvable : client.Resolvable sorted) : ∃ type, client.returnType operation = .ok type := by
  cases head : sorted.head? with
  | none =>
      exact ⟨_, client.return_type_of_lowest operation sorted none done (head ▸ Option.Rel.none)⟩
  | some lowest =>
      obtain ⟨resolved, found⟩ := resolvable lowest (List.mem_of_head? head)
      exact ⟨_, client.return_type_of_lowest operation sorted (some resolved) done (head ▸ Option.Rel.some found)⟩

-- Codes that differ are never tied, not even a range and its base code, so nothing of what
-- is written depends on the order in which the responses are declared.
theorem response_order_forgotten (settings : Settings) (reordered : operation.responses.Perm responses)
    (distinct : (operation.responses.map (·.code)).Nodup) (ranked : Ranked operation.responses)
    (supported : ∀ response ∈ operation.responses, ∀ type, response.type = some type → Supported type) :
    (∃ listed, (ofSettings settings).successResponses operation = .ok listed ∧
        (ofSettings settings).successResponses { operation with responses := responses } = .ok listed) ∧
      (∃ type, (ofSettings settings).returnType operation = .ok type ∧
        (ofSettings settings).returnType { operation with responses := responses } = .ok type) ∧
      ∀ output name front back,
        (ofSettings settings).generateApi output name (front ++ { operation with responses := responses } :: back) =
          (ofSettings settings).generateApi output name (front ++ operation :: back) := by
  have resolvable : (ofSettings settings).Resolvable operation.responses :=
    fun response member => resolve_response_total settings response (supported response member)
  have otherResolvable : (ofSettings settings).Resolvable responses :=
    fun response member => resolvable response (reordered.mem_iff.mpr member)
  obtain ⟨sorted, perm, done, same⟩ := successes_reordered operation responses reordered distinct ranked
  have lowest : (ofSettings settings).Resolvable sorted :=
    fun response member => resolvable response (List.mem_filter.mp (perm.mem_iff.mp member)).1
  obtain ⟨type, returns⟩ := (ofSettings settings).return_type_total operation sorted done lowest
  have returned : (ofSettings settings).returnType { operation with responses := responses } =
      (ofSettings settings).returnType operation := by
    rw [returnType, same, returnType, done]
  obtain ⟨chosen, among, here, there⟩ :=
    (ofSettings settings).chosen_reordered operation responses reordered distinct ranked
  obtain ⟨listed, resolved⟩ := Outcome.traverse_total (ofSettings settings).resolveResponse chosen
    (fun response member => resolvable response (among response member))
  refine ⟨⟨listed, here.trans resolved, there.trans resolved⟩, ⟨type, returns, returned.trans returns⟩, ?_⟩
  intro output name front back
  have text := (ofSettings settings).method_text_agrees operation responses resolvable otherResolvable returned
    (there.trans here.symm)
  simp only [generate_api_text, methodTexts, List.mapM_append, List.mapM_cons, text]

def mixedCodes : Operation :=
  ⟨some "findPets", "GET", "/pets", [],
    [⟨"default", some (.object "Error"), ""⟩, ⟨"2XX", some (.array (.object "Pet")), ""⟩, ⟨"0200", none, ""⟩,
      ⟨"200", some (.object "Pet"), ""⟩, ⟨"404", none, ""⟩], [], none⟩

theorem mixed_codes_reversed :
    ((mixedCodes.responses.map (·.code)).Nodup ∧ Ranked mixedCodes.responses) ∧
      (∃ listed, listingAll.successResponses mixedCodes = .ok listed ∧
        listingAll.successResponses { mixedCodes with responses := mixedCodes.responses.reverse } = .ok listed) ∧
      (∃ type, listingAll.returnType mixedCodes = .ok type ∧
        listingAll.returnType { mixedCodes with responses := mixedCodes.responses.reverse } = .ok type) ∧
      listingAll.generateApi (.ofText "out") "pets" [{ mixedCodes with responses := mixedCodes.responses.reverse }] =
        listingAll.generateApi (.ofText "out") "pets" [mixedCodes] := by
  have distinct : (mixedCodes.responses.map (·.code)).Nodup := by decide
  have ranked : Ranked mixedCodes.responses := by
    simp only [Ranked, mixedCodes, List.forall_mem_cons]
    exact ⟨⟨1000, by decide +kernel⟩, ⟨200, by decide +kernel⟩, ⟨200, by decide +kernel⟩, ⟨200, by decide +kernel⟩,
      ⟨404, by decide +kernel⟩, by simp⟩
  have supported : ∀ response ∈ mixedCodes.responses, ∀ type, response.type = some type → Supported type := by
    simp [mixedCodes, supported_iff, innermost]
  obtain ⟨listed, returned, text⟩ := response_order_forgotten mixedCodes mixedCodes.responses.reverse
    { Settings.standard with onlyOneSuccess := false } (List.reverse_perm _).symm distinct ranked supported
  exact ⟨⟨distinct, ranked⟩, listed, returned, text (.ofText "out") "pets" [] []⟩

end PlayClient.Client
