import Mathlib.Algebra.Group.Nat.Even
import Mathlib.Data.List.DropRight
import PlayClient.Proofs.Source.LiteralReading
import PlayClient.Source.Literal

set_option autoImplicit false

namespace PlayClient.Source

-- The literal that a page begins with: what it stands for and what follows it.
def literalAt : List Char → Option (List Char × List Char)
  | '"' :: rest => readLiteral rest
  | _ => none

/-! ## Escaped texts -/

def replaced (c : Char) (image : List Char) (text : List Char) : List Char :=
  text.flatMap fun d => if d = c then image else [d]

-- Backslashes are doubled first, so that those put in front of quotes stay single.
theorem escape_in_passes (text : List Char) :
    escapeLiteral text = replaced '"' ['\\', '"'] (replaced '\\' ['\\', '\\'] text) := by
  induction text with
  | nil => rfl
  | cons c rest ih =>
      rw [escapeLiteral, replaced, replaced, List.flatMap_cons, List.flatMap_append, ih]
      by_cases quote : c = '"'
      · rw [quote]
        rfl
      · by_cases escape : c = '\\'
        · rw [escape]
          rfl
        · simp [quote, escape, replaced]

theorem read_escape_literal (text after : List Char) :
    readLiteral (escapeLiteral text ++ '"' :: after) = some (text, after) := by
  induction text with
  | nil => rfl
  | cons c rest ih =>
      rw [escapeLiteral]
      by_cases special : c = '"' ∨ c = '\\'
      · rw [if_pos special, List.cons_append, List.cons_append, read_escaped, ih]
        rfl
      · rw [if_neg special, List.cons_append]
        rw [not_or] at special
        rw [read_kept c _ special.1 special.2, ih]
        rfl

theorem string_literal_read (text : String) (after : List Char) :
    literalAt ((stringLiteral text).toList ++ after) = some (text.toList, after) := by
  have chars : (stringLiteral text).toList ++ after = '"' :: (escapeLiteral text.toList ++ '"' :: after) := by
    simp [stringLiteral]
  rw [chars, literalAt, read_escape_literal]

theorem string_literal_injective : Function.Injective stringLiteral := by
  intro left right same
  have read := string_literal_read left []
  rw [same, string_literal_read right []] at read
  exact String.toList_inj.mp (Prod.mk.inj (Option.some.inj read)).1.symm

/-! ## Texts that keep their backslashes -/

-- The backslashes at the end of a text, right in front of the quote that is to close it.
def trailingEscapes (text : List Char) : Nat := (text.rtakeWhile (· == '\\')).length

theorem trailing_escapes_le (text : List Char) : trailingEscapes text ≤ text.length :=
  (List.rtakeWhile_suffix _ text).length_le

theorem trailing_escapes_cons (c : Char) (rest : List Char) :
    trailingEscapes (c :: rest) =
      if trailingEscapes rest = rest.length ∧ c = '\\' then rest.length + 1 else trailingEscapes rest := by
  simp only [trailingEscapes, List.rtakeWhile, List.reverse_cons, List.length_reverse, List.takeWhile_append]
  by_cases whole : (rest.reverse.takeWhile (· == '\\')).length = rest.length
  · by_cases escape : c = '\\' <;> simp [whole, escape]
  · simp [whole]

-- An escape and what it keeps go together, and neither changes whether the rest is even.
theorem trailing_escapes_escaped (kept : Char) (rest : List Char) :
    Even (trailingEscapes ('\\' :: kept :: rest)) ↔ Even (trailingEscapes rest) := by
  have bound := trailing_escapes_le rest
  rw [trailing_escapes_cons, trailing_escapes_cons]
  by_cases run : trailingEscapes rest = rest.length ∧ kept = '\\'
  · rw [if_pos run, List.length_cons, if_pos ⟨rfl, rfl⟩, run.1]
    simp [Nat.even_add_one]
  · rw [if_neg run, List.length_cons, if_neg (by omega)]

theorem map_cons_ends_iff (c : Char) (read : Option (List Char × List Char)) (after : List Char) :
    (∃ meaning, read.map (Prod.map (c :: ·) id) = some (meaning, after)) ↔
      ∃ meaning, read = some (meaning, after) := by
  simp only [map_cons_eq_iff]
  constructor
  · rintro ⟨_, more, -, found⟩
    exact ⟨more, found⟩
  · rintro ⟨more, found⟩
    exact ⟨c :: more, more, rfl, found⟩

-- The quote behind a text without quotes closes it unless the last backslash in front of it
-- keeps it: then every closing quote is further on, and less is left.
theorem closes_iff (text after : List Char) (quoteless : '"' ∉ text) :
    (∃ meaning, readLiteral (text ++ '"' :: after) = some (meaning, after)) ↔ Even (trailingEscapes text) := by
  match text with
  | [] => simp [read_close, trailingEscapes]
  | c :: rest =>
      rw [List.mem_cons, not_or] at quoteless
      obtain ⟨quote, later⟩ := quoteless
      by_cases escape : c = '\\'
      · rw [escape]
        match rest with
        | [] =>
            have odd : ¬Even (trailingEscapes ['\\']) := by decide
            refine iff_of_false ?_ odd
            rintro ⟨meaning, read⟩
            rw [List.singleton_append, read_escaped, map_cons_eq_iff] at read
            obtain ⟨more, -, remaining⟩ := read
            exact Nat.lt_irrefl _ (read_shorter after more after remaining)
        | kept :: others =>
            rw [List.mem_cons, not_or] at later
            rw [List.cons_append, List.cons_append, read_escaped, map_cons_ends_iff, trailing_escapes_escaped]
            exact closes_iff others after later.2
      · have same : trailingEscapes (c :: rest) = trailingEscapes rest := by
          rw [trailing_escapes_cons, if_neg (fun both => escape both.2)]
        rw [List.cons_append, read_kept c _ (Ne.symm quote) escape, map_cons_ends_iff, same]
        exact closes_iff rest after later

theorem without_quotes_quoteless (text : String) : '"' ∉ (withoutQuotes text).toList := by
  simp [withoutQuotes]

end PlayClient.Source
