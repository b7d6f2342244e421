import PlayClient.Command.Flag
import PlayClient.Path
import PlayClient.Text.Digit
import PlayClient.Text.Trim

/-!
Reading the arguments of a command line. Every argument is classified first: a flag by its name
or an unambiguous start of it, with or without an attached argument; an operand; or unknown.
Flags then take effect in order.
-/

set_option autoImplicit false

namespace PlayClient.Command

inductive UsageError where
  | ambiguous (text : String) (names : List String)
  | argumentMissing (flag : Flag)
  | argumentRefused (flag : Flag) (text : String)
  | unrecognized (arguments : List String)
  deriving DecidableEq, Repr

def UsageError.message : UsageError → String
  | .ambiguous text names => "ambiguous option: " ++ text ++ " could match " ++ ", ".intercalate names
  | .argumentMissing flag => "argument " ++ flag.title ++ ": expected one argument"
  | .argumentRefused flag text =>
      "argument " ++ flag.title ++ ": ignored explicit argument " ++ Text.quoted text
  | .unrecognized arguments => "unrecognized arguments: " ++ " ".intercalate arguments

inductive Token where
  | operand (text : String)
  | endMark
  | flag (flag : Flag) (name : String) (attached : Option String)
  | unknown (text : String)
  deriving DecidableEq, Repr

def endMarkText : String := "--"

-- The text before the first equals sign, and the text after it.
def splitAssignment (text : String) : String × Option String :=
  let name := text.toList.takeWhile (· ≠ '=')
  match text.toList.drop name.length with
  | [] => (text, none)
  | _ :: rest => (String.ofList name, some (String.ofList rest))

-- The flags whose names a text can stand for, and what is attached in each reading. Long names
-- may be cut short; after a short name all that follows is attached.
def readings (text : String) : List (String × Flag × Option String) :=
  if text.startsWith "--" then
    let (start, attached) := splitAssignment text
    (spellings.filter fun (name, _) => name.startsWith start).map fun (name, flag) => (name, flag, attached)
  else
    let short := String.ofList (text.toList.take 2)
    let attached := String.ofList (text.toList.drop 2)
    (spellings.filter fun (name, _) => name == short).map fun (name, flag) => (name, flag, some attached)

-- Digits after a minus sign, with a point among or before them; they are no flags.
def isNegativeNumber (text : String) : Bool :=
  match Text.dropFinalLineFeed text.toList with
  | '-' :: rest =>
    let fraction := rest.dropWhile Text.isDecimal
    match fraction with
    | [] => !rest.isEmpty
    | '.' :: digits => !digits.isEmpty && digits.all Text.isDecimal
    | _ => false
  | _ => false

def classify (text : String) : Except UsageError Token :=
  if !text.startsWith "-" then .ok (.operand text)
  else
    match spellings.lookup text with
    | some flag => .ok (.flag flag text none)
    | none =>
      if text = "-" then .ok (.operand text)
      else
        let (name, attached) := splitAssignment text
        match attached, spellings.lookup name with
        | some value, some flag => .ok (.flag flag name (some value))
        | _, _ =>
          match readings text with
          | [(name, flag, attached)] => .ok (.flag flag name attached)
          | [] =>
            if isNegativeNumber text || text.toList.contains ' ' then .ok (.operand text)
            else .ok (.unknown text)
          | several => .error (.ambiguous text (several.map (·.1)))

-- After the end mark everything is an operand.
def tokens : List String → Except UsageError (List Token)
  | [] => .ok []
  | text :: rest =>
    if text = endMarkText then .ok (.endMark :: rest.map .operand)
    else do
      let token ← classify text
      let others ← tokens rest
      return token :: others

abbrev Uses := List (Flag × Option String)

-- What a flag and the text attached to it mean: its argument, or further short flags.
def attachedUses (isShort : Bool) (flag : Flag) (attached : List Char) : Except UsageError Uses :=
  if flag.takesArgument then .ok [(flag, some (String.ofList attached))]
  else
    match attached with
    | [] => .error (.argumentRefused flag "")
    | c :: rest =>
      match isShort, spellings.lookup (String.ofList ['-', c]) with
      | true, some next =>
        if rest = [] then .ok [(flag, none), (next, none)]
        else do
          let others ← attachedUses true next rest
          return (flag, none) :: others
      | _, _ => .error (.argumentRefused flag (String.ofList attached))

def uses (flag : Flag) (name : String) : Option String → Except UsageError Uses
  | none => .ok [(flag, none)]
  | some attached => attachedUses (!name.startsWith "--") flag attached.toList

-- What a flag gives an option. There is no text where the end mark stands in its place.
inductive Assignment where
  | text (option : TextOption) (given : Option String)
  | flag (option : FlagOption) (value : Bool)
  deriving DecidableEq, Repr

-- An option without a text is empty. What the build file prints is written as an empty list.
def withoutText : TextOption → String
  | .projectOrganization | .projectName | .projectVersion | .scalaVersion | .playVersion => "[]"
  | _ => ""

def Assignment.settle (settings : Settings) : Assignment → Settings
  | .text option given => settings.setText (given.getD (withoutText option)) option
  | .flag option value => settings.setFlag value option

structure Arguments where
  -- There is no output folder either where the end mark stands in its place.
  output : Option Path
  assignments : List Assignment
  verbose : Bool
  deriving DecidableEq, Repr

namespace Arguments

def standard : Arguments := ⟨some (Path.ofText defaultOutput), [], false⟩

def assign (arguments : Arguments) (assignment : Assignment) : Arguments :=
  { arguments with assignments := arguments.assignments ++ [assignment] }

-- The later of two assignments to an option holds.
def settings (arguments : Arguments) : Settings := arguments.assignments.foldl Assignment.settle .unset

theorem settings_assign (arguments : Arguments) (assignment : Assignment) :
    (arguments.assign assignment).settings = assignment.settle arguments.settings := by
  simp [settings, assign]

end Arguments

inductive Halt where
  | help
  | refused (error : UsageError)
  deriving DecidableEq, Repr

def given? (argument : String) : Option String := if argument = endMarkText then none else some argument

def Arguments.apply (arguments : Arguments) (argument : String) : Effect → Except Halt Arguments
  | .help => .error .help
  | .output => .ok { arguments with output := (given? argument).map Path.ofText }
  | .setText option => .ok (arguments.assign (.text option (given? argument)))
  | .setFlag option value => .ok (arguments.assign (.flag option value))
  | .verbose => .ok { arguments with verbose := true }

def Arguments.applyUses (arguments : Arguments) (operand : String) (uses : Uses) : Except Halt Arguments :=
  uses.foldlM (fun arguments use => arguments.apply (use.2.getD operand) use.1.effect) arguments

def Uses.open? (uses : Uses) : Option Flag :=
  match uses.getLast? with
  | some (flag, none) => if flag.takesArgument then some flag else none
  | _ => none

def readTokens (arguments : Arguments) (extras : List String) : List Token → Except Halt Arguments
  | [] => if extras = [] then .ok arguments else .error (.refused (.unrecognized extras))
  | .operand text :: rest => readTokens arguments (extras ++ [text]) rest
  | .endMark :: rest => readTokens arguments (extras ++ [endMarkText]) rest
  | .unknown text :: rest => readTokens arguments (extras ++ [text]) rest
  | .flag flag name attached :: rest => do
    let uses ← (uses flag name attached).mapError .refused
    match uses.open? with
    | none =>
      let arguments ← arguments.applyUses "" uses
      readTokens arguments extras rest
    | some flag =>
      match rest with
      | .operand text :: later =>
        let arguments ← arguments.applyUses text uses
        readTokens arguments extras later
      | _ => .error (.refused (.argumentMissing flag))

def Arguments.ofTexts (texts : List String) : Except Halt Arguments := do
  let tokens ← (tokens texts).mapError .refused
  readTokens .standard [] tokens

end PlayClient.Command
