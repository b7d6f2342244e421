import PlayClient.Api.Security

set_option autoImplicit false

namespace PlayClient.SecurityRequirement

-- The last requirement is marked as the last, and no other is.
def MarksLast : List SecurityRequirement → Prop
  | [] => True
  | requirement :: rest => (requirement.isLast = true ↔ rest = []) ∧ MarksLast rest

theorem mark_last_cons (requirement : SecurityRequirement) (rest : List SecurityRequirement) :
    markLast (requirement :: rest) = { requirement with isLast := rest.isEmpty } :: markLast rest := by
  cases rest <;> rfl

theorem mark_last_marks (requirements : List SecurityRequirement) : MarksLast (markLast requirements) := by
  induction requirements with
  | nil => trivial
  | cons requirement rest ih =>
      have empty : markLast rest = [] ↔ rest = [] := by
        rw [← List.length_eq_zero_iff, length_mark_last, List.length_eq_zero_iff]
      rw [mark_last_cons, MarksLast, empty, List.isEmpty_iff]
      exact ⟨Iff.rfl, ih⟩

-- All that a requirement says apart from its mark.
def named (requirement : SecurityRequirement) : String × SecurityCategory :=
  (requirement.scheme, requirement.category)

theorem mark_last_names (requirements : List SecurityRequirement) :
    (markLast requirements).map named = requirements.map named := by
  induction requirements with
  | nil => rfl
  | cons requirement rest ih =>
      rw [mark_last_cons, List.map_cons, List.map_cons, ih]
      rfl

theorem mark_last_schemes (requirements : List SecurityRequirement) :
    (markLast requirements).map (·.scheme) = requirements.map (·.scheme) := by
  have names := congrArg (List.map Prod.fst) (mark_last_names requirements)
  rwa [List.map_map, List.map_map] at names

-- Marks that are right follow from what is marked.
theorem marks_unique (left right : List SecurityRequirement) (marked : MarksLast left) (marked' : MarksLast right)
    (same : left.map named = right.map named) : left = right := by
  induction left generalizing right with
  | nil => exact (List.map_eq_nil_iff.mp same.symm).symm
  | cons requirement rest ih =>
      cases right with
      | nil => cases same
      | cons other others =>
          obtain ⟨heads, tails⟩ := List.cons_eq_cons.mp same
          have later := ih others marked.2 marked'.2 tails
          subst later
          have marks : requirement.isLast = other.isLast := Bool.eq_iff_iff.mpr (marked.1.trans marked'.1.symm)
          obtain ⟨scheme, category, mark⟩ := requirement
          cases heads
          cases marks
          rfl

theorem marks_split (requirements : List SecurityRequirement) (marked : MarksLast requirements)
    (filled : requirements ≠ []) :
    ∃ front last, requirements = front ++ [last] ∧ last.isLast = true ∧
      ∀ requirement ∈ front, requirement.isLast = false := by
  induction requirements with
  | nil => exact absurd rfl filled
  | cons requirement rest ih =>
      cases rest with
      | nil => exact ⟨[], requirement, rfl, marked.1.mpr rfl, by simp⟩
      | cons next others =>
          have more := List.cons_ne_nil next others
          obtain ⟨front, last, split, ends, before⟩ := ih marked.2 more
          have unmarked : requirement.isLast = false := Bool.eq_false_iff.mpr (fun mark => more (marked.1.mp mark))
          exact ⟨requirement :: front, last, by rw [split]; rfl, ends, List.forall_mem_cons.mpr ⟨unmarked, before⟩⟩

/-! ## Requirements without OAuth -/

-- The requirements that are left when OAuth is taken out.
def remaining (requirements : List SecurityRequirement) : List SecurityRequirement :=
  markLast (requirements.filter (!·.isOAuth))

theorem remaining_names (requirements : List SecurityRequirement) :
    (remaining requirements).map named = (requirements.map named).filter (fun entry => entry.2 ≠ .oauth) := by
  have agree : (fun requirement : SecurityRequirement => !requirement.isOAuth) =
      (fun entry : String × SecurityCategory => decide (entry.2 ≠ .oauth)) ∘ named := by
    funext requirement
    cases kind : requirement.category <;> simp [isOAuth, named, kind]
  rw [remaining, mark_last_names, agree, List.filter_map]

theorem remaining_same (requirements others : List SecurityRequirement)
    (same : requirements.map named = others.map named) : remaining requirements = remaining others := by
  apply marks_unique _ _ (mark_last_marks _) (mark_last_marks _)
  exact (remaining_names requirements).trans (same ▸ (remaining_names others).symm)

theorem remaining_again (requirements : List SecurityRequirement) :
    remaining (remaining requirements) = remaining requirements := by
  apply marks_unique _ _ (mark_last_marks _) (mark_last_marks _)
  show (remaining (remaining requirements)).map named = (remaining requirements).map named
  rw [remaining_names, remaining_names, List.filter_filter]
  simp only [Bool.and_self]

theorem remaining_empty_iff (requirements : List SecurityRequirement) :
    remaining requirements = [] ↔ ∀ requirement ∈ requirements, requirement.category = .oauth := by
  have names := congrArg (· = []) (remaining_names requirements)
  simpa [named] using names

theorem rendered_remaining (requirements : List SecurityRequirement) :
    rendered true requirements = if remaining requirements = [] then none else some (remaining requirements) := by
  cases left : markLast (requirements.filter (!·.isOAuth)) <;> simp [rendered, remaining, left]

/-! ## Requirements that are rendered -/

-- The requirements that stay, in their order.
def kept (removeOAuth : Bool) (requirements : List SecurityRequirement) : List SecurityRequirement :=
  if removeOAuth then requirements.filter (!·.isOAuth) else requirements

theorem rendered_kept (removeOAuth : Bool) (requirements : List SecurityRequirement) :
    (rendered removeOAuth requirements).getD [] =
      if removeOAuth then markLast (kept removeOAuth requirements) else kept removeOAuth requirements := by
  cases removeOAuth with
  | false => rfl
  | true =>
      rw [rendered_remaining]
      by_cases none : remaining requirements = []
      · rw [if_pos none]
        exact none.symm
      · rw [if_neg none]
        rfl

theorem rendered_schemes (removeOAuth : Bool) (requirements : List SecurityRequirement) :
    ((rendered removeOAuth requirements).getD []).map (·.scheme) = (kept removeOAuth requirements).map (·.scheme) := by
  rw [rendered_kept]
  cases removeOAuth with
  | false => rfl
  | true => exact mark_last_schemes _

-- Only where the OAuth requirements are taken out are the others marked anew.
theorem rendered_marks_iff (removeOAuth : Bool) (requirements : List SecurityRequirement) :
    MarksLast ((rendered removeOAuth requirements).getD []) ↔ removeOAuth = true ∨ MarksLast requirements := by
  rw [rendered_kept]
  cases removeOAuth with
  | false => simp [kept]
  | true => simpa using mark_last_marks _

-- What is left is told by names and categories alone and is marked as a list of its own.
theorem security_filtered (requirements : List SecurityRequirement) :
    (rendered true requirements = none ↔ ∀ requirement ∈ requirements, requirement.category = .oauth) ∧
      (∀ result, rendered true requirements = some result →
        result.map named = (requirements.map named).filter (fun entry => entry.2 ≠ .oauth) ∧
          (∃ front last, result = front ++ [last] ∧ last.isLast = true ∧
            ∀ requirement ∈ front, requirement.isLast = false) ∧
          rendered true result = some result) ∧
      (∀ others, others.map named = requirements.map named → rendered true others = rendered true requirements) ∧
      rendered false requirements = some requirements := by
  refine ⟨?_, ?_, ?_, rfl⟩
  · simp [rendered_remaining, ← remaining_empty_iff]
  · intro result done
    rw [rendered_remaining] at done
    split at done
    · cases done
    · rename_i filled
      cases done
      refine ⟨remaining_names requirements, marks_split _ (mark_last_marks _) filled, ?_⟩
      rw [rendered_remaining, remaining_again, if_neg filled]
  · intro others same
    rw [rendered_remaining, rendered_remaining, remaining_same others requirements same]

def mixedSecurity : List SecurityRequirement :=
  [⟨"api_key", .apiKey, true⟩, ⟨"petstore", .oauth, false⟩, ⟨"login", .basic, false⟩, ⟨"admin", .oauth, true⟩]

-- The mark moves off the first requirement and on to the last that is left.
theorem mixed_security_filtered :
    rendered true mixedSecurity = some [⟨"api_key", .apiKey, false⟩, ⟨"login", .basic, true⟩] ∧
      rendered true [⟨"api_key", .apiKey, false⟩, ⟨"login", .basic, true⟩] =
        some [⟨"api_key", .apiKey, false⟩, ⟨"login", .basic, true⟩] ∧
      (mixedSecurity.map fun requirement => { requirement with isLast := false }).map named =
        mixedSecurity.map named ∧
      rendered true (mixedSecurity.map fun requirement => { requirement with isLast := false }) =
        rendered true mixedSecurity := by
  obtain ⟨-, results, marks, -⟩ := security_filtered mixedSecurity
  have done : rendered true mixedSecurity = some [⟨"api_key", .apiKey, false⟩, ⟨"login", .basic, true⟩] := rfl
  exact ⟨done, (results _ done).2.2, rfl, marks _ rfl⟩

end PlayClient.SecurityRequirement
