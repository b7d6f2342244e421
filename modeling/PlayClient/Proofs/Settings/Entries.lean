import Mathlib.Data.List.Nodup
import PlayClient.Proofs.Outcome
import PlayClient.Settings

set_option autoImplicit false

namespace PlayClient

-- A flag, or a word for it in any case and between blanks.
def Value.Means (value : Value) (on : Bool) : Prop :=
  value = .flag on ∨
    ∃ text, value = .text text ∧ Text.lowercase (Text.trimmed text) ∈ if on then trueWords else falseWords

theorem words_apart (word : String) (positive : word ∈ trueWords) : word ∉ falseWords := by
  have apart : ∀ word ∈ trueWords, word ∉ falseWords := by decide
  exact apart word positive

theorem as_flag_iff (value : Value) (on : Bool) : value.asFlag? = some on ↔ value.Means on := by
  cases value with
  | flag given => simp [Value.asFlag?, Value.Means]
  | text text =>
      have apart := words_apart (Text.lowercase (Text.trimmed text))
      by_cases positive : Text.lowercase (Text.trimmed text) ∈ trueWords
      · cases on <;> simp [Value.asFlag?, Value.Means, positive, apart positive]
      · cases on <;> simp [Value.asFlag?, Value.Means, positive]
  | _ => simp [Value.asFlag?, Value.Means]

theorem means_unique (value : Value) (on other : Bool) (first : value.Means on) (second : value.Means other) :
    on = other :=
  Option.some.inj (((as_flag_iff value on).mpr first).symm.trans ((as_flag_iff value other).mpr second))

theorem means_given (value : Value) (on : Bool) (means : value.Means on) : value ≠ .null := by
  rintro rfl
  rcases means with same | ⟨text, same, -⟩
  · cases same
  · cases same

/-! ## Options by name -/

theorem find_named {α : Type} (name : α → String) (all : List α) (complete : ∀ item, item ∈ all)
    (distinct : (all.map name).Nodup) (text : String) (item : α) :
    all.find? (fun other => name other == text) = some item ↔ name item = text := by
  constructor
  · intro found
    simpa using List.find?_some found
  · intro same
    cases search : all.find? (fun other => name other == text) with
    | none =>
        have missing := List.find?_eq_none.mp search item (complete item)
        simp [same] at missing
    | some other =>
        have hit : name other = text := by simpa using List.find?_some search
        exact congrArg some (List.inj_on_of_nodup_map distinct (complete other) (complete item) (hit.trans same.symm))

theorem text_option_all (option : TextOption) : option ∈ TextOption.all := by
  cases option <;> decide

theorem flag_option_all (option : FlagOption) : option ∈ FlagOption.all := by
  cases option <;> decide

theorem option_names_distinct : optionNames.Nodup := by decide

theorem text_option_found (text : String) (option : TextOption) :
    TextOption.ofName? text = some option ↔ option.name = text :=
  find_named TextOption.name TextOption.all text_option_all
    (List.nodup_append.mp option_names_distinct).1 text option

theorem flag_option_found (text : String) (option : FlagOption) :
    FlagOption.ofName? text = some option ↔ option.name = text :=
  find_named FlagOption.name FlagOption.all flag_option_all
    (List.nodup_append.mp option_names_distinct).2.1 text option

theorem text_option_name_inj {option other : TextOption} (same : option.name = other.name) : option = other :=
  Option.some.inj (((text_option_found _ option).mpr rfl).symm.trans ((text_option_found _ other).mpr same.symm))

theorem flag_option_name_inj {option other : FlagOption} (same : option.name = other.name) : option = other :=
  Option.some.inj (((flag_option_found _ option).mpr rfl).symm.trans ((flag_option_found _ other).mpr same.symm))

theorem text_option_listed (option : TextOption) : option.name ∈ TextOption.all.map (·.name) :=
  List.mem_map_of_mem (text_option_all option)

theorem flag_option_listed (option : FlagOption) : option.name ∈ FlagOption.all.map (·.name) :=
  List.mem_map_of_mem (flag_option_all option)

theorem option_names_apart (option : TextOption) (other : FlagOption) : option.name ≠ other.name :=
  (List.nodup_append.mp option_names_distinct).2.2 _ (text_option_listed option) _ (flag_option_listed other)

theorem flag_option_no_text (option : FlagOption) : TextOption.ofName? option.name = none := by
  rw [Option.eq_none_iff_forall_ne_some]
  intro other found
  exact option_names_apart other option ((text_option_found _ _).mp found)

theorem option_unlisted_iff (name : String) :
    name ∉ optionNames ↔ TextOption.ofName? name = none ∧ FlagOption.ofName? name = none := by
  rw [optionNames, List.mem_append, not_or, Option.eq_none_iff_forall_ne_some, Option.eq_none_iff_forall_ne_some]
  constructor
  · rintro ⟨noText, noFlag⟩
    constructor
    · intro option found
      exact noText ((text_option_found name option).mp found ▸ text_option_listed option)
    · intro option found
      exact noFlag ((flag_option_found name option).mp found ▸ flag_option_listed option)
  · rintro ⟨noText, noFlag⟩
    constructor
    · intro listed
      obtain ⟨option, -, same⟩ := List.mem_map.mp listed
      exact noText option ((text_option_found name option).mpr same)
    · intro listed
      obtain ⟨option, -, same⟩ := List.mem_map.mp listed
      exact noFlag option ((flag_option_found name option).mpr same)

/-! ## One entry -/

-- Text options are given texts, or nothing; flags may be given anything.
def WellTyped (entry : String × Value) : Prop :=
  ∀ option : TextOption, entry.1 = option.name → entry.2 = .null ∨ ∃ text, entry.2 = .text text

inductive Offends : String × Value → SettingsError → Prop
  | unknown (name : String) (value : Value) (given : value ≠ .null) (unlisted : name ∉ optionNames) :
      Offends (name, value) (.unknownOption name)
  | notFlag (option : FlagOption) (value : Value) (given : value ≠ .null) (meaningless : ∀ on, ¬ value.Means on) :
      Offends (option.name, value) (.notFlag option.name value)

namespace Settings

-- What an entry does, by its kind.
inductive Assigns (settings : Settings) : String × Value → Except SettingsError Settings → Prop
  | absent (name : String) : Assigns settings (name, .null) (.ok settings)
  | text (option : TextOption) (given : String) :
      Assigns settings (option.name, .text given) (.ok (settings.setText given option))
  | flag (option : FlagOption) (value : Value) (on : Bool) (means : value.Means on) :
      Assigns settings (option.name, value) (.ok (settings.setFlag on option))
  | fault (entry : String × Value) (error : SettingsError) (offends : Offends entry error) :
      Assigns settings entry (.error error)

variable (settings : Settings)

theorem assign_text (option : TextOption) (given : String) :
    settings.assign (option.name, .text given) = .ok (settings.setText given option) := by
  simp only [assign, (text_option_found option.name option).mpr rfl]

theorem assign_flag (option : FlagOption) (value : Value) (on : Bool) (means : value.Means on) :
    settings.assign (option.name, value) = .ok (settings.setFlag on option) := by
  have given := means_given value on means
  have read := (as_flag_iff value on).mpr means
  have named := (flag_option_found option.name option).mpr rfl
  cases value with
  | null => exact absurd rfl given
  | _ => simp only [assign, flag_option_no_text, named, read]

theorem assign_not_flag (option : FlagOption) (value : Value) (given : value ≠ .null)
    (meaningless : ∀ on, ¬ value.Means on) :
    settings.assign (option.name, value) = .error (.notFlag option.name value) := by
  have read : value.asFlag? = none := by
    rw [Option.eq_none_iff_forall_ne_some]
    intro on found
    exact meaningless on ((as_flag_iff value on).mp found)
  have named := (flag_option_found option.name option).mpr rfl
  cases value with
  | null => exact absurd rfl given
  | _ => simp only [assign, flag_option_no_text, named, read]

theorem assign_unlisted (name : String) (value : Value) (given : value ≠ .null) (unlisted : name ∉ optionNames) :
    settings.assign (name, value) = .error (.unknownOption name) := by
  obtain ⟨noText, noFlag⟩ := (option_unlisted_iff name).mp unlisted
  cases value with
  | null => exact absurd rfl given
  | _ => simp only [assign, noText, noFlag]

theorem assign_assigns (entry : String × Value) (typed : WellTyped entry) :
    settings.Assigns entry (settings.assign entry) := by
  obtain ⟨name, value⟩ := entry
  by_cases given : value = .null
  · rw [given]
    exact .absent name
  · cases found : TextOption.ofName? name with
    | some option =>
        obtain rfl := (text_option_found name option).mp found
        obtain null | ⟨text, rfl⟩ := typed option rfl
        · exact absurd null given
        · rw [assign_text]
          exact .text option text
    | none =>
        cases flagged : FlagOption.ofName? name with
        | some option =>
            obtain rfl := (flag_option_found name option).mp flagged
            by_cases meaning : ∃ on, value.Means on
            · obtain ⟨on, means⟩ := meaning
              rw [assign_flag settings option value on means]
              exact .flag option value on means
            · have meaningless : ∀ on, ¬ value.Means on := not_exists.mp meaning
              rw [assign_not_flag settings option value given meaningless]
              exact .fault _ _ (.notFlag option value given meaningless)
        | none =>
            have unlisted := (option_unlisted_iff name).mpr ⟨found, flagged⟩
            rw [assign_unlisted settings name value given unlisted]
            exact .fault _ _ (.unknown name value given unlisted)

theorem assign_error_iff (entry : String × Value) (typed : WellTyped entry) (error : SettingsError) :
    settings.assign entry = .error error ↔ Offends entry error := by
  constructor
  · intro failed
    have assigns := settings.assign_assigns entry typed
    rw [failed] at assigns
    cases assigns with
    | fault _ _ offends => exact offends
  · intro offends
    cases offends with
    | unknown name value given unlisted => exact assign_unlisted settings name value given unlisted
    | notFlag option value given meaningless => exact assign_not_flag settings option value given meaningless

end Settings

end PlayClient
