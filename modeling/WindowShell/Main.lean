/-
**The replay program.**

Reads its arguments, its environment and its files, plays the scenario, and prints the report.
-/

import WindowShell.CommandLine.Run
import WindowShell.JsonText

namespace WindowShell

/-- The files among some paths, read from disk. -/
def readFiles (paths : List String) : IO Files := do
  let mut known : List (String × ByteArray) := []
  for path in paths do
    try
      known := (path, ← IO.FS.readBinFile path) :: known
    catch _ => pure ()
  return fun path => known.lookup path

end WindowShell

open WindowShell in
/-- Runs the command and ends with its code. -/
def main (arguments : List String) : IO UInt32 := do
  let environment : Environment :=
    { configHome := ← IO.getEnv "XDG_CONFIG_HOME", home := ← IO.getEnv "HOME" }
  let files ← readFiles (arguments ++ Settings.candidates environment)
  let outcome := Command.run environment files arguments
  match outcome with
  | .usage => IO.print Outcome.usageText
  | .failed failure => IO.eprintln failure.message
  | .played report => IO.println (JsonText.ofValue report.toValue)
  return outcome.exitCode
