/-
**The replay command.**

The command reads a scenario, then its settings, and hands the steps to a player one by one until
there are no more. It ends with what it has to print and with a code: zero if all went well, one if
something could not be read, two if steps were rejected.
-/

import WindowShell.CommandLine.Arguments
import WindowShell.Scenario
import WindowShell.Settings.File

namespace WindowShell

/-- What a player is handed: a step, or the news that there are no more. -/
inductive Feed
  | step (step : Step)
  /-- There are no more steps. -/
  | closed
deriving DecidableEq

/-- Carries out the steps it is handed. -/
structure Player where
  shell : Shell
  /-- The place of the next step. -/
  next : Nat := 0
  /-- The steps rejected so far, in order. -/
  errors : List StepError := []
  /-- Whether there are no more steps. -/
  done : Bool := false

namespace Player

/-- Carries out one step and notes whether it was rejected. -/
def play (player : Player) (step : Step) : Player :=
  let reply := player.shell.apply step
  { player with
    shell := reply.shell
    next := player.next + 1
    errors :=
      match reply.fault with
      | none => player.errors
      | some fault => player.errors ++ [{ step := player.next, fault }] }

/-- Takes what it is handed. -/
def take (player : Player) : Feed → Player
  | .step step => player.play step
  | .closed => { player with done := true }

/-- Takes what it is handed until there are no more steps. -/
def follow (player : Player) : List Feed → Player
  | [] => player
  | feed :: feeds =>
    let player := player.take feed
    if player.done then player else player.follow feeds

/-- The report on what was played. -/
def report (player : Player) : Report := .of player.shell player.errors

end Player

/-- Plays a scenario to its end. -/
def Scenario.play (scenario : Scenario) (settings : Settings) : Report :=
  let player : Player := { shell := scenario.start settings }
  (player.follow (scenario.steps.map Feed.step ++ [.closed])).report

/-- Why the command cannot play a scenario. -/
inductive CommandFailure
  /-- The arguments are wrong. -/
  | arguments (fault : ArgumentFault)
  /-- The scenario is no file of text. -/
  | reading (path : String)
  /-- The text of the scenario describes none. -/
  | parsing (path : String)
  /-- The settings cannot be used. -/
  | loading (path : String)
deriving DecidableEq, Repr

/-- The wording of a failure. -/
def CommandFailure.message : CommandFailure → String
  | arguments fault => s!"Error: {fault.message}"
  | reading path => s!"Error: reading {path}"
  | parsing path => s!"Error: parsing {path}"
  | loading path => s!"Error: loading {path}"

/-- How the command ends. -/
inductive Outcome
  /-- It says how it is used. -/
  | usage
  /-- It cannot play the scenario. -/
  | failed (failure : CommandFailure)
  /-- It has played the scenario. -/
  | played (report : Report)
deriving DecidableEq

namespace Outcome

/-- How the command is used. -/
def usageText : String := "usage: rootshell-replay <scenario.toml> [--config <path>]\n"

/-- The code the command ends with. -/
def exitCode : Outcome → UInt32
  | usage => 0
  | failed _ => 1
  | played report => if report.errors.isEmpty then 0 else 2

end Outcome

namespace Command

/-- The settings for a replay: those of the named file, or those found without one. -/
def settings (environment : Environment) (files : Files) :
    Option String → Except CommandFailure Settings
  | none => .ok (Settings.load environment files)
  | some path => (Settings.ofFile (files path)).mapError fun _ => .loading path

/-- Plays the scenario of a file. -/
def playFile (environment : Environment) (files : Files) (path : String)
    (settingsPath : Option String) : Except CommandFailure Report := do
  let text ← (files.text? path).elim (.error (.reading path)) .ok
  let scenario ← (Scenario.ofToml text).mapError fun _ => .parsing path
  return scenario.play (← settings environment files settingsPath)

/-- Runs the command. -/
def run (environment : Environment) (files : Files) (arguments : List String) : Outcome :=
  match ofArguments arguments with
  | .error fault => .failed (.arguments fault)
  | .ok .help => .usage
  | .ok (.replay path settingsPath) =>
    match playFile environment files path settingsPath with
    | .error failure => .failed failure
    | .ok report => .played report

end Command

end WindowShell
