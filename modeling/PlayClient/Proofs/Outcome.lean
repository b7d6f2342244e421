import Mathlib.Data.List.Forall2

set_option autoImplicit false

namespace PlayClient.Outcome

variable {ε δ α β γ : Type}

theorem bind_ok_iff (first : Except ε α) (next : α → Except ε β) (result : β) :
    first >>= next = .ok result ↔ ∃ value, first = .ok value ∧ next value = .ok result := by
  cases first with
  | error fault => simp [bind, Except.bind]
  | ok value => simp [bind, Except.bind]

theorem bind_error_iff (first : Except ε α) (next : α → Except ε β) (error : ε) :
    first >>= next = .error error ↔
      first = .error error ∨ ∃ value, first = .ok value ∧ next value = .error error := by
  cases first with
  | error fault => simp [bind, Except.bind]
  | ok value => simp [bind, Except.bind]

theorem returns_iff (outcome : Except ε α) : (∃ value, outcome = .ok value) ↔ ∀ error, outcome ≠ .error error := by
  cases outcome <;> simp

theorem map_ok_iff (change : α → β) (outcome : Except ε α) (result : β) :
    change <$> outcome = .ok result ↔ ∃ value, outcome = .ok value ∧ change value = result := by
  cases outcome with
  | error fault => simp [Functor.map, Except.map]
  | ok value => simp [Functor.map, Except.map]

theorem map_error_ok_iff (rename : ε → δ) (outcome : Except ε α) (result : α) :
    outcome.mapError rename = .ok result ↔ outcome = .ok result := by
  cases outcome <;> simp [Except.mapError]

-- A traversal returns exactly when every item does, with the results in place.
theorem traverse_ok_iff (step : α → Except ε β) (items : List α) (results : List β) :
    items.mapM step = .ok results ↔ List.Forall₂ (fun item result => step item = .ok result) items results := by
  induction items generalizing results with
  | nil => cases results <;> simp [pure, Except.pure]
  | cons item rest ih =>
      rw [List.mapM_cons, bind_ok_iff]
      constructor
      · rintro ⟨result, stepped, remaining⟩
        obtain ⟨others, traversed, same⟩ := (bind_ok_iff _ _ _).mp remaining
        cases same
        exact .cons stepped ((ih others).mp traversed)
      · intro related
        cases related with
        | cons stepped remaining =>
            exact ⟨_, stepped, (bind_ok_iff _ _ _).mpr ⟨_, (ih _).mpr remaining, rfl⟩⟩

theorem traverse_total (step : α → Except ε β) (items : List α)
    (total : ∀ item ∈ items, ∃ result, step item = .ok result) : ∃ results, items.mapM step = .ok results := by
  induction items with
  | nil => exact ⟨[], rfl⟩
  | cons item rest ih =>
      obtain ⟨result, stepped⟩ := total item List.mem_cons_self
      obtain ⟨results, traversed⟩ := ih (fun other member => total other (List.mem_cons_of_mem item member))
      refine ⟨result :: results, (traverse_ok_iff _ _ _).mpr ?_⟩
      exact .cons stepped ((traverse_ok_iff _ _ _).mp traversed)

-- Two traversals behind one another are one, where the second cannot fail on
-- what the first gives: no error of the second comes before one of the first.
theorem traverse_then (first : α → Except ε β) (second : β → Except ε γ) (items : List α)
    (total : ∀ item value, first item = .ok value → ∃ result, second value = .ok result) :
    (items.mapM first >>= fun values => values.mapM second) = items.mapM (fun item => first item >>= second) := by
  induction items with
  | nil => rfl
  | cons item rest ih =>
      rw [List.mapM_cons, List.mapM_cons, ← ih]
      cases done : first item with
      | error fault => rfl
      | ok value =>
          obtain ⟨result, followed⟩ := total item value done
          have step : (Except.ok value >>= second : Except ε γ) = .ok result := followed
          rw [step]
          cases later : rest.mapM first with
          | error fault => rfl
          | ok values =>
              show (value :: values).mapM second = _
              rw [List.mapM_cons, followed]
              rfl

-- What every step keeps, a whole run keeps.
theorem fold_kept (holds : β → Prop) (step : β → α → Except ε β) (items : List α) (start result : β)
    (kept : ∀ item ∈ items, ∀ before after, holds before → step before item = .ok after → holds after)
    (first : holds start) (folded : items.foldlM step start = .ok result) : holds result := by
  induction items generalizing start with
  | nil => exact Except.ok.inj folded ▸ first
  | cons item rest ih =>
      obtain ⟨here, later⟩ := List.forall_mem_cons.mp kept
      rw [List.foldlM_cons, bind_ok_iff] at folded
      obtain ⟨next, stepped, remaining⟩ := folded
      exact ih next later (here start next first stepped) remaining

-- Where the state has no say in the faults, the first faulty item decides the error.
theorem fold_error_iff (step : β → α → Except ε β) (fault : α → ε → Prop) (items : List α) (start : β) (error : ε)
    (faulty : ∀ item ∈ items, ∀ state error, step state item = .error error ↔ fault item error) :
    items.foldlM step start = .error error ↔ ∃ before item after, items = before ++ item :: after ∧
      (∀ other ∈ before, ∀ error, ¬ fault other error) ∧ fault item error := by
  induction items generalizing start with
  | nil => simp [pure, Except.pure]
  | cons item rest ih =>
      obtain ⟨here, later⟩ := List.forall_mem_cons.mp faulty
      rw [List.foldlM_cons]
      cases stepped : step start item with
      | error first =>
          have fails := (here start first).mp stepped
          constructor
          · intro same
            cases same
            exact ⟨[], item, rest, rfl, by simp, fails⟩
          · rintro ⟨before, other, after, split, free, found⟩
            cases before with
            | nil =>
                cases split
                exact stepped.symm.trans ((here start error).mpr found)
            | cons early more =>
                cases split
                exact absurd fails (free item List.mem_cons_self first)
      | ok next =>
          have free : ∀ error, ¬ fault item error := by
            intro error fails
            rw [(here start error).mpr fails] at stepped
            cases stepped
          rw [show (Except.ok next >>= fun state => rest.foldlM step state) = rest.foldlM step next from rfl,
            ih next later]
          constructor
          · rintro ⟨before, other, after, split, clean, found⟩
            exact ⟨item :: before, other, after, by rw [split]; rfl, List.forall_mem_cons.mpr ⟨free, clean⟩, found⟩
          · rintro ⟨before, other, after, split, clean, found⟩
            cases before with
            | nil =>
                cases split
                exact absurd found (free error)
            | cons early more =>
                cases split
                exact ⟨more, other, after, rfl, (List.forall_mem_cons.mp clean).2, found⟩

theorem fold_ok_iff (step : β → α → Except ε β) (fault : α → ε → Prop) (items : List α) (start : β)
    (faulty : ∀ item ∈ items, ∀ state error, step state item = .error error ↔ fault item error) :
    (∃ result, items.foldlM step start = .ok result) ↔ ∀ item ∈ items, ∀ error, ¬ fault item error := by
  classical
  have errors := fun error => fold_error_iff step fault items start error faulty
  constructor
  · rintro ⟨result, done⟩ item member error fails
    cases search : items.find? (fun other => decide (∃ error, fault other error)) with
    | none =>
        have clean := List.find?_eq_none.mp search item member
        exact absurd (decide_eq_true ⟨error, fails⟩) clean
    | some first =>
        obtain ⟨found, before, after, split, clean⟩ := List.find?_eq_some_iff_append.mp search
        obtain ⟨early, failed⟩ := of_decide_eq_true found
        have stopped := (errors early).mpr ⟨before, first, after, split, by simpa using clean, failed⟩
        rw [done] at stopped
        cases stopped
  · intro clean
    cases outcome : items.foldlM step start with
    | ok result => exact ⟨result, rfl⟩
    | error error =>
        obtain ⟨before, item, after, split, -, fails⟩ := (errors error).mp outcome
        exact absurd fails (clean item (by simp [split]) error)

theorem related_item (relation : α → β → Prop) (items : List α) (results : List β)
    (related : List.Forall₂ relation items results) (item : α) (member : item ∈ items) :
    ∃ result ∈ results, relation item result := by
  induction related with
  | nil => simp at member
  | cons here _ ih =>
      rcases List.mem_cons.mp member with same | later
      · exact ⟨_, List.mem_cons_self, same ▸ here⟩
      · obtain ⟨result, inside, found⟩ := ih later
        exact ⟨result, List.mem_cons_of_mem _ inside, found⟩

theorem related_result (relation : α → β → Prop) (items : List α) (results : List β)
    (related : List.Forall₂ relation items results) (result : β) (member : result ∈ results) :
    ∃ item ∈ items, relation item result :=
  related_item (fun a b => relation b a) results items related.flip result member

theorem related_images (relation : α → β → Prop) (left : α → γ) (right : β → γ) (items : List α) (results : List β)
    (agree : ∀ item result, relation item result → left item = right result)
    (related : List.Forall₂ relation items results) : items.map left = results.map right := by
  rw [← List.forall₂_eq_eq_eq, List.forall₂_map_left_iff, List.forall₂_map_right_iff]
  exact related.imp agree

theorem related_at (relation : α → β → Prop) (items : List α) (results : List β)
    (related : List.Forall₂ relation items results) (i : Nat) (item : α) (found : items[i]? = some item) :
    ∃ result, results[i]? = some result ∧ relation item result := by
  induction related generalizing i with
  | nil => simp at found
  | @cons first result _ _ here _ ih =>
      cases i with
      | zero =>
          have same : first = item := by simpa using found
          exact ⟨result, rfl, same ▸ here⟩
      | succ n => exact ih n (by simpa using found)

theorem related_around (relation : α → β → Prop) (before : List α) (item : α) (after : List α) (results : List β)
    (related : List.Forall₂ relation (before ++ item :: after) results) :
    ∃ early result late, results = early ++ result :: late ∧ relation item result ∧
      List.Forall₂ relation after late := by
  induction before generalizing results with
  | nil =>
      cases related with
      | cons here later => exact ⟨[], _, _, rfl, here, later⟩
  | cons first rest ih =>
      cases related with
      | @cons _ head _ tail _ others =>
          obtain ⟨early, result, late, split, here, later⟩ := ih tail others
          exact ⟨head :: early, result, late, by rw [split]; rfl, here, later⟩

-- A search on both sides by matching tests stops at the same place.
theorem find_related (relation : α → β → Prop) (items : List α) (results : List β)
    (left : α → Bool) (right : β → Bool) (agree : ∀ item result, relation item result → left item = right result)
    (related : List.Forall₂ relation items results) :
    Option.Rel relation (items.find? left) (results.find? right) := by
  induction related with
  | nil => exact .none
  | @cons item result _ _ here _ ih =>
      have same := agree item result here
      cases hit : left item with
      | true => simpa [List.find?_cons, hit, same ▸ hit] using Option.Rel.some here
      | false => simpa [List.find?_cons, hit, same ▸ hit] using ih

end PlayClient.Outcome
