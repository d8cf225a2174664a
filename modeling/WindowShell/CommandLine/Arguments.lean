/-
**Arguments of the replay command.**

The command takes the path of a scenario and, behind an option, the path of a settings file. Arguments
are read from left to right, and the first thing that is wrong, or a call for help, ends the reading.
-/

namespace WindowShell

/-- What is wrong with the arguments. -/
inductive ArgumentFault
  /-- There is no scenario. -/
  | missingScenario
  /-- The option for settings is the last argument. -/
  | missingSettingsPath
  /-- There is a second scenario. -/
  | unexpected (argument : String)
deriving DecidableEq, Repr

/-- The wording of what is wrong. -/
def ArgumentFault.message : ArgumentFault → String
  | missingScenario => "missing scenario file"
  | missingSettingsPath => "--config needs a path"
  | unexpected argument => s!"unexpected argument: {argument}"

/-- What the command is asked to do. -/
inductive Command
  /-- To say how it is used. -/
  | help
  /-- To replay a scenario, perhaps with settings from a file. -/
  | replay (scenario : String) (settings : Option String)
deriving DecidableEq, Repr

namespace Command

/-- Whether an argument announces the path of a settings file. -/
def isSettingsOption (argument : String) : Bool := argument = "--config" || argument = "-c"

/-- Whether an argument calls for help. -/
def isHelpOption (argument : String) : Bool := argument = "--help" || argument = "-h"

/-- Reads arguments, given the paths found so far. The last settings file counts. -/
def readFrom (scenario settings : Option String) : List String → Except ArgumentFault Command
  | [] =>
    match scenario with
    | none => .error .missingScenario
    | some scenario => .ok (.replay scenario settings)
  | argument :: rest =>
    if isSettingsOption argument then
      match rest with
      | [] => .error .missingSettingsPath
      | path :: rest => readFrom scenario (some path) rest
    else if isHelpOption argument then .ok .help
    else
      match scenario with
      | none => readFrom (some argument) settings rest
      | some _ => .error (.unexpected argument)

/-- Reads the arguments of the command. -/
def ofArguments (arguments : List String) : Except ArgumentFault Command :=
  readFrom none none arguments

end Command

end WindowShell
