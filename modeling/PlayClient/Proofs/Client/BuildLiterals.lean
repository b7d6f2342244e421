import PlayClient.Proofs.Client.SupportPaths
import PlayClient.Proofs.Source.LiteralReading

set_option autoImplicit false

namespace PlayClient

/-! ## The build file in parts -/

inductive BuildPart where
  | code (text : String)
  | literal (text : String)
  -- An option's value between two quotes.
  | quoted (option : TextOption)
  deriving DecidableEq, Repr

namespace BuildPart

def text (settings : Settings) : BuildPart → String
  | .code text => text
  | .literal text => "\"" ++ text ++ "\""
  | .quoted option => "\"" ++ settings.text option ++ "\""

-- What is the same for all settings neither opens a literal nor closes one too early.
def Sound : BuildPart → Prop
  | .code text => '"' ∉ text.toList
  | .literal text => Source.Verbatim text.toList
  | .quoted _ => True

instance (part : BuildPart) : Decidable part.Sound :=
  match part with
  | .code text => inferInstanceAs (Decidable ('"' ∉ text.toList))
  | .literal text => inferInstanceAs (Decidable (Source.Verbatim text.toList))
  | .quoted _ => inferInstanceAs (Decidable True)

end BuildPart

def playLine (module : String) : List BuildPart :=
  [.code "  ", .literal "com.typesafe.play", .code " %% ", .literal module, .code " % ", .quoted .playVersion, .code ","]

def buildLines : List (List BuildPart) :=
  [[.code "version := ", .quoted .projectVersion],
   [],
   [.code "name := ", .quoted .projectName],
   [],
   [.code "organization := ", .quoted .projectOrganization],
   [],
   [.code "scalaVersion := ", .quoted .scalaVersion],
   [],
   [.code "libraryDependencies ++= Seq("],
   playLine "play-ws",
   playLine "play-ahc-ws",
   playLine "play-json",
   [.code "  ", .literal "org.scalatest", .code " %% ", .literal "scalatest", .code " % ", .literal "3.0.4",
    .code " % Test"],
   [.code ")"],
   [],
   [.code "scalacOptions := Seq("],
   [.code "  ", .literal "-unchecked", .code ","],
   [.code "  ", .literal "-deprecation", .code ","],
   [.code "  ", .literal "-feature"],
   [.code ")"]]

def buildParts : List BuildPart := buildLines.flatMap (· ++ [.code "\n"])

namespace Settings

variable (settings : Settings)

def written : List BuildPart → String
  | [] => ""
  | part :: rest => part.text settings ++ written rest

-- What the literals among the parts are to stand for.
def meanings : List BuildPart → List (List Char)
  | [] => []
  | .code _ :: rest => meanings rest
  | .literal text :: rest => text.toList :: meanings rest
  | .quoted option :: rest => (settings.text option).toList :: meanings rest

theorem written_append (front back : List BuildPart) :
    settings.written (front ++ back) = settings.written front ++ settings.written back := by
  induction front with
  | nil => simp [written]
  | cons part rest ih => rw [List.cons_append, written, written, ih, String.append_assoc]

theorem written_lines (lines : List (List BuildPart)) :
    settings.written (lines.flatMap (· ++ [.code "\n"])) = Text.ofLines (lines.map settings.written) := by
  induction lines with
  | nil => rfl
  | cons line rest ih =>
      rw [List.flatMap_cons, written_append, written_append, ih]
      simp [Text.ofLines, written, BuildPart.text]

theorem written_play_line (module : String) : settings.written (playLine module) =
    "  \"com.typesafe.play\" %% \"" ++ module ++ "\" % \"" ++ settings.playVersion ++ "\"," := by
  apply String.toList_inj.mp
  simp [playLine, written, BuildPart.text, text]

theorem build_text_written : SupportPage.buildText settings.supportValues = settings.written buildParts := by
  rw [buildParts, written_lines, SupportPage.buildText]
  apply congrArg Text.ofLines
  simp only [buildLines, List.map_cons, List.map_nil, written_play_line, List.cons.injEq, and_true]
  simp [← String.toList_inj, written, BuildPart.text, supportValues, text]

/-! ## Its literals -/

theorem literals_verbatim (text page : String) (texts : List (List Char)) :
    Source.literals ("\"" ++ text ++ "\"" ++ page).toList = some (text.toList :: texts) ↔
      Source.Verbatim text.toList ∧ Source.literals page.toList = some texts := by
  have chars : ("\"" ++ text ++ "\"" ++ page).toList = '"' :: (text.toList ++ '"' :: page.toList) := by simp
  rw [chars, Source.literals_quoted]

-- One part after another: what stands behind a literal is read on from its closing quote
-- exactly when nothing in it closes it earlier or keeps it open.
theorem literals_written (parts : List BuildPart) (sound : ∀ part ∈ parts, part.Sound) :
    Source.literals (settings.written parts).toList = some (settings.meanings parts) ↔
      ∀ option, .quoted option ∈ parts → Source.Verbatim (settings.text option).toList := by
  induction parts with
  | nil => simp [written, meanings, Source.literals]
  | cons part rest ih =>
      obtain ⟨here, later⟩ := List.forall_mem_cons.mp sound
      rw [written]
      cases part with
      | code text =>
          rw [BuildPart.text, String.toList_append, Source.literals_code _ _ here, meanings, ih later]
          simp
      | literal text =>
          have verbatim : Source.Verbatim text.toList := here
          rw [BuildPart.text, meanings, literals_verbatim, ih later]
          simp [verbatim]
      | quoted option =>
          rw [BuildPart.text, meanings, literals_verbatim, ih later]
          simp

-- The value stands in the build file, and wherever it does, what is read from the quote in
-- front of it ends at the quote behind it and is the value.
structure InLiterals (option : TextOption) : Prop where
  present : .quoted option ∈ buildParts
  closes : ∀ before after, buildParts = before ++ .quoted option :: after →
    Source.readLiteral ((settings.text option).toList ++ '"' :: (settings.written after).toList) =
      some ((settings.text option).toList, (settings.written after).toList)

end Settings

def projectOptions : List TextOption :=
  [.projectVersion, .projectName, .projectOrganization, .scalaVersion, .playVersion]

theorem build_parts_sound : ∀ part ∈ buildParts, part.Sound := by decide +kernel

theorem quoted_project_iff (option : TextOption) : .quoted option ∈ buildParts ↔ option ∈ projectOptions := by
  cases option <;> decide +kernel

namespace Client

variable (settings : Settings) (output : Path)

theorem build_file_lookup : List.lookup (output.joinText "build.sbt") ((ofSettings settings).generateSupport output) =
    some (settings.written buildParts) := by
  have found := support_file_lookup settings output ⟨.build, "", "build.sbt"⟩ List.mem_cons_self
  rw [← settings.build_text_written]
  exact found

-- Values are written as they are, so their literals are read back, one by one and over the
-- whole file, exactly when no value has a quote or a backslash.
theorem build_literals_iff :
    List.lookup (output.joinText "build.sbt") ((ofSettings settings).generateSupport output) =
        some (settings.written buildParts) ∧
      (∀ option ∈ projectOptions, settings.InLiterals option ↔ Source.Verbatim (settings.text option).toList) ∧
      (Source.literals (settings.written buildParts).toList = some (settings.meanings buildParts) ↔
        ∀ option ∈ projectOptions, Source.Verbatim (settings.text option).toList) := by
  refine ⟨build_file_lookup settings output, ?_, ?_⟩
  · intro option listed
    have present := (quoted_project_iff option).mpr listed
    constructor
    · intro inLiterals
      obtain ⟨before, after, split⟩ := List.append_of_mem present
      exact (Source.read_back_iff _ _).mp (inLiterals.closes before after split)
    · intro verbatim
      exact ⟨present, fun _ _ _ => (Source.read_back_iff _ _).mpr verbatim⟩
  · rw [settings.literals_written buildParts build_parts_sound]
    simp only [quoted_project_iff]

theorem standard_build_literals :
    (.projectName ∈ projectOptions ∧ Settings.standard.InLiterals .projectName) ∧
      Source.literals (Settings.standard.written buildParts).toList = some (Settings.standard.meanings buildParts) := by
  have verbatim : ∀ option ∈ projectOptions, Source.Verbatim (Settings.standard.text option).toList := by
    decide +kernel
  have listed : .projectName ∈ projectOptions := by decide
  obtain ⟨-, each, whole⟩ := build_literals_iff .standard (.ofText "out")
  exact ⟨⟨listed, (each .projectName listed).mpr (verbatim .projectName listed)⟩, whole.mpr verbatim⟩

-- The literal of such a name ends inside the name.
theorem quoted_name_leaks :
    ∃ settings, Settings.ofOptions [("projectName", .text "pet \"store\"")] = .ok settings ∧
      (∀ rest, Source.readLiteral ((settings.text .projectName).toList ++ '"' :: rest) =
        some ("pet ".toList, "store\"".toList ++ '"' :: rest)) ∧
      ¬∀ option ∈ projectOptions, settings.InLiterals option := by
  refine ⟨_, rfl, fun rest => rfl, ?_⟩
  intro all
  have inLiterals := all .projectName (by decide)
  obtain ⟨before, after, split⟩ := List.append_of_mem inLiterals.present
  have verbatim := Source.verbatim_of_read _ _ _ (inLiterals.closes before after split)
  exact absurd verbatim (by decide +kernel)

end Client

end PlayClient
