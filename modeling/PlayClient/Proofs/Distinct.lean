import Mathlib.Data.List.Induction
import Mathlib.Data.List.Nodup

set_option autoImplicit false

namespace PlayClient.Distinct

variable {α β γ : Type} [BEq α] [LawfulBEq α]

-- An item that was there before adds nothing, so each keeps its first place.
theorem first_places_concat (items : List α) (item : α) :
    (items ++ [item]).eraseDups = if item ∈ items then items.eraseDups else items.eraseDups ++ [item] := by
  rw [List.eraseDups_append]
  by_cases known : item ∈ items <;> simp [List.removeAll, List.eraseDups_cons, known]

theorem first_places_nodup (items : List α) : items.eraseDups.Nodup := by
  induction items using List.reverseRecOn with
  | nil => simp
  | append_singleton before item ih =>
      rw [first_places_concat]
      by_cases known : item ∈ before
      · rw [if_pos known]
        exact ih
      · rw [if_neg known, List.nodup_append]
        refine ⟨ih, List.nodup_singleton item, ?_⟩
        intro other earlier last member same
        rw [List.mem_singleton.mp member] at same
        exact known (same ▸ List.mem_eraseDups.mp earlier)

theorem first_places_sublist (items : List α) : items.eraseDups.Sublist items := by
  induction items using List.reverseRecOn with
  | nil => simp
  | append_singleton before item ih =>
      rw [first_places_concat]
      by_cases known : item ∈ before
      · rw [if_pos known]
        exact ih.trans (List.sublist_append_left before [item])
      · rw [if_neg known]
        exact ih.append_right [item]

theorem first_places_of_nodup (items : List α) (distinct : items.Nodup) : items.eraseDups = items := by
  induction items using List.reverseRecOn with
  | nil => simp
  | append_singleton before item ih =>
      have parts := List.nodup_append.mp distinct
      have fresh : item ∉ before := fun known => parts.2.2 item known item (by simp) rfl
      rw [first_places_concat, if_neg fresh, ih parts.1]

theorem first_places_length_iff (items : List α) : items.eraseDups.length = items.length ↔ items.Nodup := by
  constructor
  · intro full
    have whole := (first_places_sublist items).eq_of_length full
    rw [← whole]
    exact first_places_nodup items
  · intro distinct
    rw [first_places_of_nodup items distinct]

variable [BEq β] [LawfulBEq β] (first : γ → α) (second : γ → β)

-- Two namings that tell the same items apart have the same number of names.
theorem first_places_counted (agree : ∀ a b, first a = first b ↔ second a = second b) (items : List γ) :
    (items.map first).eraseDups.length = (items.map second).eraseDups.length := by
  induction items using List.reverseRecOn with
  | nil => simp
  | append_singleton before item ih =>
      have known : first item ∈ before.map first ↔ second item ∈ before.map second := by
        simp only [List.mem_map, agree]
      simp only [List.map_append, List.map_cons, List.map_nil, first_places_concat, known]
      by_cases there : second item ∈ before.map second
      · rw [if_pos there, if_pos there, ih]
      · rw [if_neg there, if_neg there, List.length_append, List.length_append, ih]
        rfl

omit [BEq α] [LawfulBEq α] [BEq β] [LawfulBEq β] in
theorem nodup_agree (agree : ∀ a b, first a = first b ↔ second a = second b) (items : List γ) :
    (items.map first).Nodup ↔ (items.map second).Nodup := by
  rw [List.Nodup, List.Nodup, List.pairwise_map, List.pairwise_map]
  exact List.Pairwise.iff fun {a b} => not_congr (agree a b)

end PlayClient.Distinct
