import PlayClient.Proofs.Settings.Entries

set_option autoImplicit false

namespace PlayClient.Settings

theorem settings_ext (left right : Settings) (texts : ∀ option, left.text option = right.text option)
    (flags : ∀ option, left.flag option = right.flag option)
    (words : left.extraReservedWords = right.extraReservedWords) : left = right := by
  rw [Settings.mk.injEq]
  exact ⟨texts .mainPackage, texts .invokerPackage, texts .apiPackage, texts .modelPackage, texts .configPath,
    texts .sourceFolder, texts .resourcesFolder, texts .outputFolder, texts .projectOrganization, texts .projectName,
    texts .projectVersion, texts .scalaVersion, texts .playVersion, flags .renderJavadoc,
    flags .removeOAuthSecurities, flags .onlyOneSuccess, flags .strictOperationNames, words⟩

/-! ## What entries leave -/

-- Given options have their values, and the others keep those they start with.
structure Reads (start result : Settings) (options : List (String × Value)) : Prop where
  texts : ∀ (option : TextOption) given, (option.name, .text given) ∈ options → result.text option = given
  otherTexts : ∀ option : TextOption, (∀ given, (option.name, .text given) ∉ options) →
    result.text option = start.text option
  flags : ∀ (option : FlagOption) value on, (option.name, value) ∈ options → value.Means on → result.flag option = on
  otherFlags : ∀ option : FlagOption, (∀ value on, (option.name, value) ∈ options → ¬ value.Means on) →
    result.flag option = start.flag option
  words : result.extraReservedWords = start.extraReservedWords

theorem reads_absent (settings : Settings) (name : String) : Reads settings settings [(name, .null)] where
  texts := by simp
  otherTexts := fun _ _ => rfl
  flags := by
    intro option value on member means
    have same : (option.name, value) = (name, Value.null) := List.mem_singleton.mp member
    exact absurd (Prod.mk.inj same).2 (means_given value on means)
  otherFlags := fun _ _ => rfl
  words := rfl

theorem reads_text (settings : Settings) (option : TextOption) (given : String) :
    Reads settings (settings.setText given option) [(option.name, .text given)] where
  texts := by
    intro other text member
    have same : (other.name, Value.text text) = (option.name, .text given) := List.mem_singleton.mp member
    obtain ⟨names, values⟩ := Prod.mk.inj same
    rw [text_set_text, if_pos (text_option_name_inj names), Value.text.inj values]
  otherTexts := by
    intro other absent
    have apart : other ≠ option := by
      rintro rfl
      exact absent given List.mem_cons_self
    rw [text_set_text, if_neg apart]
  flags := by
    intro other value on member means
    have same : (other.name, value) = (option.name, Value.text given) := List.mem_singleton.mp member
    exact absurd (Prod.mk.inj same).1.symm (option_names_apart option other)
  otherFlags := fun other _ => flag_set_text settings given option other
  words := by cases option <;> rfl

theorem reads_flag (settings : Settings) (option : FlagOption) (value : Value) (on : Bool) (means : value.Means on) :
    Reads settings (settings.setFlag on option) [(option.name, value)] where
  texts := by
    intro other text member
    have same : (other.name, Value.text text) = (option.name, value) := List.mem_singleton.mp member
    exact absurd (Prod.mk.inj same).1 (option_names_apart other option)
  otherTexts := fun other _ => text_set_flag settings on option other
  flags := by
    intro other given meant member meaning
    have same : (other.name, given) = (option.name, value) := List.mem_singleton.mp member
    obtain ⟨names, values⟩ := Prod.mk.inj same
    rw [flag_set_flag, if_pos (flag_option_name_inj names)]
    exact means_unique value on meant means (values ▸ meaning)
  otherFlags := by
    intro other absent
    have apart : other ≠ option := by
      rintro rfl
      exact absent value on List.mem_cons_self means
    rw [flag_set_flag, if_neg apart]
  words := by cases option <;> rfl

theorem assign_reads (settings next : Settings) (entry : String × Value) (typed : WellTyped entry)
    (done : settings.assign entry = .ok next) : Reads settings next [entry] := by
  have assigns := settings.assign_assigns entry typed
  rw [done] at assigns
  cases assigns with
  | absent name => exact reads_absent settings name
  | text option given => exact reads_text settings option given
  | flag option value on means => exact reads_flag settings option value on means

-- An entry behind another one of a different name takes nothing of it back.
theorem reads_cons (start next result : Settings) (entry : String × Value) (rest : List (String × Value))
    (fresh : entry.1 ∉ rest.map Prod.fst) (first : Reads start next [entry]) (later : Reads next result rest) :
    Reads start result (entry :: rest) where
  texts := by
    intro option given member
    rcases List.mem_cons.mp member with same | listed
    · have name : option.name = entry.1 := congrArg Prod.fst same
      have absent : ∀ text, (option.name, Value.text text) ∉ rest := by
        intro text inside
        exact fresh (List.mem_map.mpr ⟨(option.name, Value.text text), inside, name⟩)
      rw [later.otherTexts option absent]
      exact first.texts option given (List.mem_singleton.mpr same)
    · exact later.texts option given listed
  otherTexts := by
    intro option absent
    have none : ∀ given, (option.name, Value.text given) ∉ rest :=
      fun given inside => absent given (List.mem_cons_of_mem entry inside)
    have alone : ∀ given, (option.name, Value.text given) ∉ [entry] :=
      fun given inside => absent given (List.mem_singleton.mp inside ▸ List.mem_cons_self)
    exact (later.otherTexts option none).trans (first.otherTexts option alone)
  flags := by
    intro option value on member means
    rcases List.mem_cons.mp member with same | listed
    · have name : option.name = entry.1 := congrArg Prod.fst same
      have absent : ∀ other meant, (option.name, other) ∈ rest → ¬ other.Means meant := by
        intro other meant inside
        exact absurd (List.mem_map.mpr ⟨(option.name, other), inside, name⟩) fresh
      rw [later.otherFlags option absent]
      exact first.flags option value on (List.mem_singleton.mpr same) means
    · exact later.flags option value on listed means
  otherFlags := by
    intro option absent
    have none : ∀ value on, (option.name, value) ∈ rest → ¬ value.Means on :=
      fun value on inside => absent value on (List.mem_cons_of_mem entry inside)
    have alone : ∀ value on, (option.name, value) ∈ [entry] → ¬ value.Means on :=
      fun value on inside => absent value on (List.mem_singleton.mp inside ▸ List.mem_cons_self)
    exact (later.otherFlags option none).trans (first.otherFlags option alone)
  words := later.words.trans first.words

theorem entries_read (options : List (String × Value)) (distinct : (options.map Prod.fst).Nodup)
    (typed : ∀ entry ∈ options, WellTyped entry) (start result : Settings)
    (done : options.foldlM assign start = .ok result) : Reads start result options := by
  induction options generalizing start with
  | nil =>
      cases done
      exact ⟨by simp, fun _ _ => rfl, by simp, fun _ _ => rfl, rfl⟩
  | cons entry rest ih =>
      obtain ⟨here, others⟩ := List.forall_mem_cons.mp typed
      obtain ⟨fresh, apart⟩ := List.nodup_cons.mp distinct
      rw [List.foldlM_cons, Outcome.bind_ok_iff] at done
      obtain ⟨next, assigned, remaining⟩ := done
      exact reads_cons start next result entry rest fresh (assign_reads start next entry here assigned)
        (ih apart others next remaining)

-- The entries decide what is read, in whatever order they come.
theorem reads_unique (start left right : Settings) (options others : List (String × Value))
    (same : ∀ entry, entry ∈ options ↔ entry ∈ others) (first : Reads start left options)
    (second : Reads start right others) : left = right := by
  apply settings_ext
  · intro option
    by_cases given : ∃ text, (option.name, Value.text text) ∈ options
    · obtain ⟨text, listed⟩ := given
      rw [first.texts option text listed, second.texts option text ((same _).mp listed)]
    · rw [not_exists] at given
      rw [first.otherTexts option given, second.otherTexts option fun text listed => given text ((same _).mpr listed)]
  · intro option
    by_cases given : ∃ value on, (option.name, value) ∈ options ∧ value.Means on
    · obtain ⟨value, on, listed, means⟩ := given
      rw [first.flags option value on listed means, second.flags option value on ((same _).mp listed) means]
    · have absent : ∀ value on, (option.name, value) ∈ options → ¬ value.Means on :=
        fun value on listed means => given ⟨value, on, listed, means⟩
      rw [first.otherFlags option absent,
        second.otherFlags option fun value on listed => absent value on ((same _).mpr listed)]
  · rw [first.words, second.words]

/-! ## Derived texts -/

theorem or_else_given (given other : String) (filled : given ≠ "") : orElse given other = given := if_neg filled

theorem or_else_filled (given other : String) (filled : other ≠ "") : orElse given other ≠ "" := by
  by_cases empty : given = ""
  · rw [orElse, if_pos empty]
    exact filled
  · rw [or_else_given given other empty]
    exact empty

-- The texts that follow the main package, none of them missing.
structure Filled (settings : Settings) : Prop where
  invokerPackage : settings.invokerPackage ≠ ""
  apiPackage : settings.apiPackage ≠ ""
  modelPackage : settings.modelPackage ≠ ""
  configPath : settings.configPath ≠ ""

theorem derived_filled (settings : Settings) (main : settings.mainPackage ≠ "") : Filled settings.derived where
  invokerPackage := or_else_filled _ _ (by simp)
  apiPackage := or_else_filled _ _ (by simp)
  modelPackage := or_else_filled _ _ (by simp)
  configPath := or_else_filled _ _ main

theorem derived_text (settings : Settings) (option : TextOption) (given : settings.text option ≠ "") :
    settings.derived.text option = settings.text option := by
  cases option with
  | invokerPackage | apiPackage | modelPackage | configPath => exact or_else_given _ _ given
  | _ => rfl

theorem derived_flag (settings : Settings) (option : FlagOption) : settings.derived.flag option = settings.flag option := by
  cases option <;> rfl

theorem derived_same (settings : Settings) (filled : Filled settings) : settings.derived = settings := by
  apply settings_ext
  · intro option
    cases option with
    | invokerPackage => exact or_else_given _ _ filled.invokerPackage
    | apiPackage => exact or_else_given _ _ filled.apiPackage
    | modelPackage => exact or_else_given _ _ filled.modelPackage
    | configPath => exact or_else_given _ _ filled.configPath
    | _ => rfl
  · exact derived_flag settings
  · rfl

/-! ## All options -/

-- The first entry at fault is reported; the main package is looked at only when there is none.
inductive Refuses (options : List (String × Value)) : SettingsError → Prop
  | entry (before : List (String × Value)) (first : String × Value) (after : List (String × Value))
      (error : SettingsError) (split : options = before ++ first :: after)
      (clean : ∀ other ∈ before, ∀ error, ¬ Offends other error) (offends : Offends first error) : Refuses options error
  | mainPackage (clean : ∀ entry ∈ options, ∀ error, ¬ Offends entry error)
      (empty : (TextOption.mainPackage.name, .text "") ∈ options) : Refuses options .emptyMainPackage

section

variable (options : List (String × Value)) (distinct : (options.map Prod.fst).Nodup)
  (typed : ∀ entry ∈ options, WellTyped entry)

include typed in
theorem entries_error_iff (error : SettingsError) :
    options.foldlM assign unset = .error error ↔ ∃ before entry after, options = before ++ entry :: after ∧
      (∀ other ∈ before, ∀ error, ¬ Offends other error) ∧ Offends entry error :=
  Outcome.fold_error_iff assign Offends options unset error
    fun entry member settings error => assign_error_iff settings entry (typed entry member) error

include typed in
theorem entries_ok_iff :
    (∃ filled, options.foldlM assign unset = .ok filled) ↔ ∀ entry ∈ options, ∀ error, ¬ Offends entry error :=
  Outcome.fold_ok_iff assign Offends options unset
    fun entry member settings error => assign_error_iff settings entry (typed entry member) error

theorem main_package_empty_iff (filled : Settings) (read : Reads unset filled options) :
    filled.mainPackage = "" ↔ (TextOption.mainPackage.name, .text "") ∈ options := by
  constructor
  · intro empty
    by_cases given : ∃ text, (TextOption.mainPackage.name, Value.text text) ∈ options
    · obtain ⟨text, listed⟩ := given
      have same : filled.mainPackage = text := read.texts .mainPackage text listed
      rw [empty] at same
      exact same ▸ listed
    · have kept : filled.mainPackage = unset.mainPackage := read.otherTexts .mainPackage (not_exists.mp given)
      rw [empty] at kept
      exact absurd kept (by decide)
  · exact read.texts .mainPackage ""

include distinct typed in
theorem of_options_error_iff (error : SettingsError) : ofOptions options = .error error ↔ Refuses options error := by
  cases outcome : options.foldlM assign unset with
  | error fault =>
      have stopped : ofOptions options = .error fault := by rw [ofOptions, outcome]; rfl
      obtain ⟨before, first, after, split, clean, offends⟩ := (entries_error_iff options typed fault).mp outcome
      constructor
      · intro failed
        cases stopped.symm.trans failed
        exact .entry before first after error split clean offends
      · rintro (⟨early, found, late, _, split, free, fails⟩ | ⟨free, -⟩)
        · have same := (entries_error_iff options typed error).mpr ⟨early, found, late, split, free, fails⟩
          cases outcome.symm.trans same
          exact stopped
        · exact absurd offends (free first (by simp [split]) fault)
  | ok filled =>
      have passed : ofOptions options = filled.complete := by rw [ofOptions, outcome]; rfl
      have clean := (entries_ok_iff options typed).mp ⟨filled, outcome⟩
      have empty := main_package_empty_iff options filled (entries_read options distinct typed unset filled outcome)
      rw [passed, complete]
      constructor
      · intro failed
        split at failed
        · next main =>
            cases failed
            exact .mainPackage clean (empty.mp main)
        · cases failed
      · rintro (⟨early, found, late, _, split, -, fails⟩ | ⟨-, listed⟩)
        · exact absurd fails (clean found (by simp [split]) error)
        · rw [if_pos (empty.mpr listed)]

theorem of_options_ok_iff (settings : Settings) : ofOptions options = .ok settings ↔
    ∃ filled, options.foldlM assign unset = .ok filled ∧ filled.mainPackage ≠ "" ∧ filled.derived = settings := by
  rw [ofOptions, Outcome.bind_ok_iff]
  apply exists_congr
  intro filled
  apply and_congr_right
  intro _
  by_cases empty : filled.mainPackage = ""
  · simp [complete, empty]
  · simp [complete, empty]

include distinct typed in
theorem of_options_fails_iff : (∃ error, ofOptions options = .error error) ↔
    (∃ entry ∈ options, ∃ error, Offends entry error) ∨ (TextOption.mainPackage.name, .text "") ∈ options := by
  constructor
  · rintro ⟨error, failed⟩
    rcases (of_options_error_iff options distinct typed error).mp failed with
      ⟨before, first, after, _, split, -, offends⟩ | ⟨-, empty⟩
    · exact .inl ⟨first, by simp [split], error, offends⟩
    · exact .inr empty
  · intro wrong
    cases outcome : ofOptions options with
    | error error => exact ⟨error, rfl⟩
    | ok settings =>
        obtain ⟨filled, done, main, -⟩ := (of_options_ok_iff options settings).mp outcome
        rcases wrong with ⟨entry, member, error, offends⟩ | empty
        · exact absurd offends ((entries_ok_iff options typed).mp ⟨filled, done⟩ entry member error)
        · have read := entries_read options distinct typed unset filled done
          exact absurd ((main_package_empty_iff options filled read).mpr empty) main

include distinct typed in
theorem of_options_reordered (settings : Settings) (accepted : ofOptions options = .ok settings)
    (others : List (String × Value)) (reordered : others.Perm options) : ofOptions others = .ok settings := by
  obtain ⟨filled, done, main, derived⟩ := (of_options_ok_iff options settings).mp accepted
  have othersTyped : ∀ entry ∈ others, WellTyped entry := fun entry member => typed entry (reordered.mem_iff.mp member)
  have clean := (entries_ok_iff options typed).mp ⟨filled, done⟩
  obtain ⟨result, finished⟩ := (entries_ok_iff others othersTyped).mpr
    fun entry member => clean entry (reordered.mem_iff.mp member)
  have read := entries_read options distinct typed unset filled done
  have othersRead := entries_read others ((reordered.map Prod.fst).nodup_iff.mpr distinct) othersTyped unset result
    finished
  obtain rfl : result = filled :=
    reads_unique unset result filled others options (fun _ => reordered.mem_iff) othersRead read
  exact (of_options_ok_iff others settings).mpr ⟨result, finished, main, derived⟩

end

/-! ## Options of settings -/

theorem to_options_mem (settings : Settings) (entry : String × Value) : entry ∈ settings.toOptions ↔
    (∃ option : TextOption, entry = (option.name, .text (settings.text option))) ∨
      ∃ option : FlagOption, entry = (option.name, .flag (settings.flag option)) := by
  simp only [toOptions, List.mem_append, List.mem_map, text_option_all, flag_option_all, true_and, eq_comm]

theorem to_options_distinct (settings : Settings) : (settings.toOptions.map Prod.fst).Nodup := by
  have names : settings.toOptions.map Prod.fst = optionNames := by
    simp only [toOptions, optionNames, List.map_append, List.map_map, Function.comp_def]
  exact names ▸ option_names_distinct

theorem to_options_typed (settings : Settings) : ∀ entry ∈ settings.toOptions, WellTyped entry := by
  intro entry member
  rcases (to_options_mem settings entry).mp member with ⟨option, rfl⟩ | ⟨option, rfl⟩
  · exact fun _ _ => .inr ⟨settings.text option, rfl⟩
  · intro other same
    exact absurd same.symm (option_names_apart other option)

theorem to_options_clean (settings : Settings) : ∀ entry ∈ settings.toOptions, ∀ error, ¬ Offends entry error := by
  intro entry member error offends
  cases offends with
  | unknown name value given unlisted =>
      rcases (to_options_mem settings _).mp member with ⟨option, same⟩ | ⟨option, same⟩
      · cases same
        exact unlisted (List.mem_append_left _ (text_option_listed option))
      · cases same
        exact unlisted (List.mem_append_right _ (flag_option_listed option))
  | notFlag option value given meaningless =>
      rcases (to_options_mem settings _).mp member with ⟨other, same⟩ | ⟨other, same⟩
      · exact absurd (congrArg Prod.fst same).symm (option_names_apart other option)
      · have meant : value = .flag (settings.flag other) := congrArg Prod.snd same
        exact meaningless (settings.flag other) (.inl meant)

theorem to_options_read (settings : Settings) (words : settings.extraReservedWords = []) :
    Reads unset settings settings.toOptions where
  texts := by
    intro option given member
    rcases (to_options_mem settings _).mp member with ⟨other, same⟩ | ⟨other, same⟩
    · obtain ⟨names, values⟩ := Prod.mk.inj same
      rw [text_option_name_inj names]
      exact (Value.text.inj values).symm
    · exact absurd (congrArg Prod.fst same) (option_names_apart option other)
  otherTexts := by
    intro option absent
    exact absurd ((to_options_mem settings _).mpr (.inl ⟨option, rfl⟩)) (absent (settings.text option))
  flags := by
    intro option value on member means
    rcases (to_options_mem settings _).mp member with ⟨other, same⟩ | ⟨other, same⟩
    · exact absurd (congrArg Prod.fst same).symm (option_names_apart other option)
    · obtain ⟨names, values⟩ := Prod.mk.inj same
      rw [flag_option_name_inj names]
      exact means_unique value _ on (.inl values) means
  otherFlags := by
    intro option absent
    exact absurd (.inl rfl)
      (absent _ (settings.flag option) ((to_options_mem settings _).mpr (.inr ⟨option, rfl⟩)))
  words := words

theorem to_options_read_back (settings : Settings) (words : settings.extraReservedWords = [])
    (main : settings.mainPackage ≠ "") (filled : Filled settings) : ofOptions settings.toOptions = .ok settings := by
  obtain ⟨result, done⟩ :=
    (entries_ok_iff settings.toOptions (to_options_typed settings)).mpr (to_options_clean settings)
  have read := entries_read settings.toOptions (to_options_distinct settings) (to_options_typed settings) unset result done
  have same : result = settings :=
    reads_unique unset result settings _ _ (fun _ => Iff.rfl) read (to_options_read settings words)
  rw [same] at done
  exact (of_options_ok_iff _ _).mpr ⟨settings, done, main, derived_same settings filled⟩

-- Accepted options are read alike in any order, and so are those that the settings give back.
theorem settings_of_options (options : List (String × Value)) (distinct : (options.map Prod.fst).Nodup)
    (typed : ∀ entry ∈ options, WellTyped entry) :
    ((∃ error, ofOptions options = .error error) ↔ (∃ entry ∈ options, ∃ error, Offends entry error) ∨
      (TextOption.mainPackage.name, .text "") ∈ options) ∧
    (∀ error, ofOptions options = .error error ↔ Refuses options error) ∧
    ∀ settings, ofOptions options = .ok settings →
      (∀ others, others.Perm options → ofOptions others = .ok settings) ∧
      Filled settings ∧
      (∀ (option : TextOption) given, (option.name, .text given) ∈ options → given ≠ "" →
        settings.text option = given) ∧
      (∀ (option : FlagOption) value on, (option.name, value) ∈ options → value.Means on →
        settings.flag option = on) ∧
      ofOptions settings.toOptions = .ok settings := by
  refine ⟨of_options_fails_iff options distinct typed, of_options_error_iff options distinct typed, ?_⟩
  intro settings accepted
  have reordered := of_options_reordered options distinct typed settings accepted
  obtain ⟨filled, done, main, rfl⟩ := (of_options_ok_iff options settings).mp accepted
  have read := entries_read options distinct typed unset filled done
  have complete := derived_filled filled main
  refine ⟨reordered, complete, ?_, ?_, to_options_read_back filled.derived read.words main complete⟩
  · intro option given listed nonempty
    have kept := read.texts option given listed
    rw [derived_text filled option (kept ▸ nonempty), kept]
  · intro option value on listed means
    rw [derived_flag, read.flags option value on listed means]

def mixedOptions : List (String × Value) :=
  [("renderJavadoc", .text " No\t"), ("mainPackage", .text "com.example"), ("projectVersion", .null),
    ("apiPackage", .text ""), ("onlyOneSuccess", .flag false), ("projectName", .text "pets")]

theorem mixed_options_read : (mixedOptions.map Prod.fst).Nodup ∧ (∀ entry ∈ mixedOptions, WellTyped entry) ∧
    ∃ settings, ofOptions mixedOptions = .ok settings ∧ ofOptions mixedOptions.reverse = .ok settings ∧
      Filled settings ∧ settings.text .projectName = "pets" ∧ settings.flag .renderJavadoc = false ∧
      ofOptions settings.toOptions = .ok settings := by
  have distinct : (mixedOptions.map Prod.fst).Nodup := by decide
  have typed : ∀ entry ∈ mixedOptions, WellTyped entry := by
    have flag : WellTyped ("onlyOneSuccess", .flag false) :=
      fun option same => absurd same.symm (option_names_apart option .onlyOneSuccess)
    simp only [mixedOptions, List.forall_mem_cons]
    exact ⟨fun _ _ => .inr ⟨_, rfl⟩, fun _ _ => .inr ⟨_, rfl⟩, fun _ _ => .inl rfl, fun _ _ => .inr ⟨_, rfl⟩, flag,
      fun _ _ => .inr ⟨_, rfl⟩, by simp⟩
  obtain ⟨settings, accepted⟩ : ∃ settings, ofOptions mixedOptions = .ok settings := ⟨_, rfl⟩
  obtain ⟨reordered, filled, texts, flags, back⟩ := (settings_of_options mixedOptions distinct typed).2.2 settings accepted
  refine ⟨distinct, typed, settings, accepted, reordered _ (List.reverse_perm _), filled, ?_, ?_, back⟩
  · exact texts .projectName "pets" (by simp [mixedOptions, TextOption.name]) (by decide)
  · exact flags .renderJavadoc (.text " No\t") false (by simp [mixedOptions, FlagOption.name]) (.inr ⟨_, rfl, by decide +kernel⟩)

end PlayClient.Settings
