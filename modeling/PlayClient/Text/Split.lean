/-!
Cutting a text at separators, and texts made of lines.
-/

set_option autoImplicit false

namespace PlayClient.Text

def pushFront (c : Char) : List (List Char) → List (List Char)
  | [] => [[c]]
  | piece :: rest => (c :: piece) :: rest

-- The pieces between separators, empty ones included: there is one more than separators.
def pieces (isSeparator : Char → Bool) : List Char → List (List Char)
  | [] => [[]]
  | c :: rest => if isSeparator c then [] :: pieces isSeparator rest else pushFront c (pieces isSeparator rest)

theorem push_front_ne_nil (c : Char) (rest : List (List Char)) : pushFront c rest ≠ [] := by
  cases rest <;> simp [pushFront]

theorem pieces_ne_nil (isSeparator : Char → Bool) (cs : List Char) : pieces isSeparator cs ≠ [] := by
  cases cs with
  | nil => simp [pieces]
  | cons c rest =>
      by_cases cut : isSeparator c = true
      · simp [pieces, cut]
      · simpa [pieces, cut] using push_front_ne_nil c (pieces isSeparator rest)

theorem mem_push_front (c d : Char) (rest : List (List Char)) (piece : List Char)
    (mem : piece ∈ pushFront c rest) (inside : d ∈ piece) : d = c ∨ ∃ old ∈ rest, d ∈ old := by
  cases rest with
  | nil =>
      have same : piece = [c] := by simpa [pushFront] using mem
      subst same
      exact Or.inl (by simpa using inside)
  | cons first others =>
      rcases List.mem_cons.mp mem with same | other
      · subst same
        rcases List.mem_cons.mp inside with new | old
        · exact Or.inl new
        · exact Or.inr ⟨first, List.mem_cons_self, old⟩
      · exact Or.inr ⟨piece, List.mem_cons_of_mem first other, inside⟩

theorem separator_free_of_mem_pieces (isSeparator : Char → Bool) (cs : List Char) (piece : List Char)
    (mem : piece ∈ pieces isSeparator cs) (c : Char) (inside : c ∈ piece) : isSeparator c = false := by
  induction cs generalizing piece c with
  | nil =>
      have empty : piece = [] := by simpa [pieces] using mem
      subst empty
      exact absurd inside List.not_mem_nil
  | cons first rest ih =>
      by_cases cut : isSeparator first = true
      · rw [pieces, if_pos cut] at mem
        rcases List.mem_cons.mp mem with same | other
        · subst same
          exact absurd inside List.not_mem_nil
        · exact ih piece other c inside
      · rw [pieces, if_neg cut] at mem
        rcases mem_push_front first c _ piece mem inside with same | ⟨old, oldMem, oldInside⟩
        · subst same
          simpa using cut
        · exact ih old oldMem c oldInside

theorem push_front_append (c : Char) (left right : List (List Char)) (some : left ≠ []) :
    pushFront c (left ++ right) = pushFront c left ++ right := by
  cases left with
  | nil => exact absurd rfl some
  | cons first others => rfl

theorem pieces_append (isSeparator : Char → Bool) (left right : List Char) (c : Char)
    (cut : isSeparator c = true) :
    pieces isSeparator (left ++ c :: right) = pieces isSeparator left ++ pieces isSeparator right := by
  induction left with
  | nil => simp [pieces, cut]
  | cons first rest ih =>
      by_cases early : isSeparator first = true
      · simp [pieces, early, ih]
      · rw [List.cons_append, pieces, if_neg early, ih, pieces, if_neg early]
        exact push_front_append first _ _ (pieces_ne_nil isSeparator rest)

def splitAt (separator : Char) (text : String) : List String :=
  (pieces (· == separator) text.toList).map String.ofList

def ofLines (lines : List String) : String := String.join (lines.map (· ++ "\n"))

end PlayClient.Text
