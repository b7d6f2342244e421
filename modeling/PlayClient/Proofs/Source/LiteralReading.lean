set_option autoImplicit false

namespace PlayClient.Source

/-! ## One literal -/

-- What a literal stands for and what follows it, read from behind its opening quote: a
-- backslash keeps the next character as it is, and a quote on its own closes.
def readLiteral : List Char → Option (List Char × List Char)
  | [] => none
  | '"' :: rest => some ([], rest)
  | '\\' :: [] => none
  | '\\' :: kept :: rest => (readLiteral rest).map (Prod.map (kept :: ·) id)
  | c :: rest => (readLiteral rest).map (Prod.map (c :: ·) id)

theorem read_close (rest : List Char) : readLiteral ('"' :: rest) = some ([], rest) := rfl

theorem read_escaped (kept : Char) (rest : List Char) :
    readLiteral ('\\' :: kept :: rest) = (readLiteral rest).map (Prod.map (kept :: ·) id) := rfl

theorem read_kept (c : Char) (rest : List Char) (quote : c ≠ '"') (escape : c ≠ '\\') :
    readLiteral (c :: rest) = (readLiteral rest).map (Prod.map (c :: ·) id) := by
  simp [readLiteral, escape]

theorem map_cons_eq_iff (c : Char) (read : Option (List Char × List Char)) (text after : List Char) :
    read.map (Prod.map (c :: ·) id) = some (text, after) ↔ ∃ rest, text = c :: rest ∧ read = some (rest, after) := by
  cases read with
  | none => simp
  | some pair =>
      obtain ⟨rest, behind⟩ := pair
      simp only [Option.map_some, Prod.map, id, Option.some.injEq, Prod.mk.injEq]
      constructor
      · rintro ⟨rfl, rfl⟩
        exact ⟨rest, rfl, rfl, rfl⟩
      · rintro ⟨_, rfl, rfl, rfl⟩
        exact ⟨rfl, rfl⟩

-- What a character can do in a literal: close it, keep the next one, or stand for itself.
theorem read_cases (c : Char) (rest text after : List Char) (read : readLiteral (c :: rest) = some (text, after)) :
    (c = '"' ∧ text = [] ∧ after = rest) ∨
      (c = '\\' ∧ ∃ kept behind more, rest = kept :: behind ∧ text = kept :: more ∧
        readLiteral behind = some (more, after)) ∨
      (c ≠ '"' ∧ c ≠ '\\') ∧ ∃ more, text = c :: more ∧ readLiteral rest = some (more, after) := by
  by_cases quote : c = '"'
  · rw [quote, read_close] at read
    cases read
    exact .inl ⟨quote, rfl, rfl⟩
  · by_cases escape : c = '\\'
    · rw [escape] at read
      cases rest with
      | nil => cases read
      | cons kept behind =>
          rw [read_escaped, map_cons_eq_iff] at read
          obtain ⟨more, same, later⟩ := read
          exact .inr (.inl ⟨escape, kept, behind, more, rfl, same, later⟩)
    · rw [read_kept c rest quote escape, map_cons_eq_iff] at read
      exact .inr (.inr ⟨⟨quote, escape⟩, read⟩)

theorem read_shorter (cs text after : List Char) (read : readLiteral cs = some (text, after)) :
    after.length < cs.length := by
  match cs with
  | [] => cases read
  | c :: rest =>
      rcases read_cases c rest text after read with
        ⟨-, -, rfl⟩ | ⟨-, kept, behind, more, rfl, -, later⟩ | ⟨-, more, -, later⟩
      · exact Nat.lt_succ_self _
      · have shorter := read_shorter behind more after later
        simp only [List.length_cons]
        omega
      · have shorter := read_shorter rest more after later
        simp only [List.length_cons]
        omega

/-! ## Texts that stand for themselves -/

def Verbatim (text : List Char) : Prop := '"' ∉ text ∧ '\\' ∉ text

instance (text : List Char) : Decidable (Verbatim text) := inferInstanceAs (Decidable (_ ∧ _))

theorem verbatim_cons (c : Char) (rest : List Char) :
    Verbatim (c :: rest) ↔ (c ≠ '"' ∧ c ≠ '\\') ∧ Verbatim rest := by
  simp only [Verbatim, List.mem_cons, not_or, ne_comm (a := c)]
  exact and_and_and_comm

theorem read_verbatim (text after : List Char) (verbatim : Verbatim text) :
    readLiteral (text ++ '"' :: after) = some (text, after) := by
  induction text with
  | nil => rfl
  | cons c rest ih =>
      obtain ⟨⟨quote, escape⟩, later⟩ := (verbatim_cons c rest).mp verbatim
      rw [List.cons_append, read_kept c _ quote escape, ih later]
      rfl

-- A run of backslashes is read as one that is half as long, so that a text is never read
-- with more of them in front than it has.
theorem read_no_more_escapes (text after other : List Char) (n : Nat) :
    readLiteral (text ++ '"' :: after) ≠ some (List.replicate (n + 1) '\\' ++ text, other) := by
  intro read
  match text with
  | [] => simp [read_close, List.replicate_succ] at read
  | c :: rest =>
      rcases read_cases c _ _ other read with
        ⟨-, empty, -⟩ | ⟨rfl, kept, behind, more, tail, same, later⟩ | ⟨⟨-, escape⟩, more, same, -⟩
      · simp [List.replicate_succ] at empty
      · obtain ⟨rfl, longer⟩ := List.cons.inj same
        match rest with
        | [] => exact absurd (List.cons.inj tail).1 (by decide)
        | first :: others =>
            obtain ⟨rfl, rfl⟩ := List.cons.inj tail
            have run : more = List.replicate (n + 1 + 1) '\\' ++ others := by
              rw [← longer, List.replicate_succ', List.replicate_succ']
              simp
            exact read_no_more_escapes others after other (n + 1) (run ▸ later)
      · exact absurd (List.cons.inj same).1.symm escape

theorem verbatim_of_read (text after other : List Char)
    (read : readLiteral (text ++ '"' :: after) = some (text, other)) : Verbatim text := by
  induction text with
  | nil => exact ⟨List.not_mem_nil, List.not_mem_nil⟩
  | cons c rest ih =>
      rcases read_cases c _ _ other read with
        ⟨-, empty, -⟩ | ⟨rfl, kept, behind, more, tail, same, later⟩ | ⟨bare, more, same, later⟩
      · cases empty
      · obtain ⟨rfl, rfl⟩ := List.cons.inj same
        cases rest with
        | nil => exact absurd (List.cons.inj tail).1 (by decide)
        | cons first others =>
            obtain ⟨rfl, rfl⟩ := List.cons.inj tail
            exact absurd later (read_no_more_escapes others after other 0)
      · obtain ⟨-, rfl⟩ := List.cons.inj same
        exact (verbatim_cons c rest).mpr ⟨bare, ih later⟩

theorem read_back_iff (text after : List Char) :
    readLiteral (text ++ '"' :: after) = some (text, after) ↔ Verbatim text :=
  ⟨verbatim_of_read text after after, read_verbatim text after⟩

/-! ## All literals of a page -/

-- What the literals of a page stand for, in order; nothing when the last one is left open.
def literals : List Char → Option (List (List Char))
  | [] => some []
  | c :: rest =>
    if c = '"' then
      match read : readLiteral rest with
      | none => none
      | some (text, after) =>
        have : after.length < rest.length := read_shorter rest text after read
        (literals after).map (text :: ·)
    else literals rest
termination_by page => page.length

theorem literals_code (code page : List Char) (quoteless : '"' ∉ code) : literals (code ++ page) = literals page := by
  induction code with
  | nil => rfl
  | cons c rest ih =>
      rw [List.mem_cons, not_or] at quoteless
      rw [List.cons_append, literals, if_neg (Ne.symm quoteless.1), ih quoteless.2]

theorem literals_quoted (text page : List Char) (texts : List (List Char)) :
    literals ('"' :: (text ++ '"' :: page)) = some (text :: texts) ↔ Verbatim text ∧ literals page = some texts := by
  rw [literals, if_pos rfl]
  split
  · next unread =>
      constructor
      · intro none
        cases none
      · rintro ⟨verbatim, -⟩
        rw [read_verbatim text page verbatim] at unread
        cases unread
  · next first after read =>
      constructor
      · intro listed
        obtain ⟨later, remaining, same⟩ := Option.map_eq_some_iff.mp listed
        obtain ⟨rfl, rfl⟩ := List.cons.inj same
        have verbatim := verbatim_of_read first page after read
        rw [read_verbatim first page verbatim] at read
        cases read
        exact ⟨verbatim, remaining⟩
      · rintro ⟨verbatim, remaining⟩
        rw [read_verbatim text page verbatim] at read
        cases read
        rw [remaining]
        rfl

end PlayClient.Source
