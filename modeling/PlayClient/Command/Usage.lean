import PlayClient.Command.Flag
import PlayClient.Text.Split

/-!
The usage and the help of the command line, laid out for a terminal of 80 columns.
-/

set_option autoImplicit false

namespace PlayClient.Command

def programName : String := "scala-oas-generator"

def lineWidth : Nat := 78

def helpColumn : Nat := 24

def spaces (count : Nat) : String := String.ofList (List.replicate count ' ')

-- Fills lines with words while they fit, after a first line that holds something already.
def fill (width : Nat) (indent : String) : String → List String → List String
  | line, [] => [line]
  | line, word :: rest =>
    if line = indent then fill width indent (line ++ word) rest
    else if line.length + 1 + word.length ≤ width then fill width indent (line ++ " " ++ word) rest
    else line :: fill width indent (indent ++ word) rest

def Flag.spelled (flag : Flag) (name : String) : String :=
  match flag.effect.argument? with
  | some argument => name ++ " " ++ argument
  | none => name

def Flag.usage (flag : Flag) : String := "[" ++ flag.spelled (flag.names.headD "") ++ "]"

def usage : String :=
  let start := "usage: " ++ programName
  Text.ofLines (fill lineWidth (spaces (start.length + 1)) start (flags.map (·.usage)))

-- The flag and its explanation, side by side if there is room.
def Flag.helpLines (flag : Flag) : List String :=
  let heading := "  " ++ ", ".intercalate (flag.names.map flag.spelled)
  let margin := spaces helpColumn
  let explanation := fill lineWidth margin margin (Text.splitAt ' ' flag.help)
  if heading.length + 2 ≤ helpColumn then
    match explanation with
    | [] => [heading]
    | first :: rest =>
      (heading ++ String.ofList (first.toList.drop heading.length)) :: rest
  else heading :: explanation

def examples : List String :=
  ["Examples:",
   "  " ++ programName ++ " --output ./client",
   "  " ++ programName ++
     " --output ./client --main-package com.example.client --project-name example-client",
   "  " ++ programName ++ " --output ./client --keep-oauth --verbose",
   spaces 8]

def helpText : String :=
  usage ++ Text.ofLines
    (["", "Generate the support files of a Play-Scala API client", "", "options:"] ++
      flags.flatMap (·.helpLines) ++ [""] ++ examples)

end PlayClient.Command
