/-
**Scenarios and their replay.**

A scenario lists the seats of a desktop and the steps that a client and the desktop take. Replaying it
carries out all steps in order, whether or not earlier ones were rejected, and reports how things
stand in the end.
-/

import WindowShell.Scenario.Report
import WindowShell.Toml.ReadError

namespace WindowShell

/-- A seat of the desktop. -/
structure Seat where
  id : SeatId
  /-- What the seat is doing at first. -/
  mode : SeatMode := .passthrough
deriving DecidableEq, Repr

/-- A scenario. -/
structure Scenario where
  /-- The seats; of several with one number the last one counts. -/
  seats : List Seat := []
  steps : List Step := []
deriving DecidableEq

/-- The seat that fields describe. -/
def Seat.ofFields? (fields : List (String × Value)) : Option Seat := do
  return {
    id := ← Value.required? fields "id"
    mode := ← Value.optional? fields "mode" .passthrough }

/-- A seat is written as a record. It is read from a list of its parts as well, of which only the
first has to be there and any further ones are ignored. -/
instance : Codec Seat where
  encode seat := .record [("id", encode seat.id), ("mode", encode seat.mode)]
  decode?
    | .record fields => Seat.ofFields? fields
    | .list items => Seat.ofFields? (["id", "mode"].zip items)
    | _ => none

namespace Scenario

/-- The scenario that fields describe. -/
def ofFields? (fields : List (String × Value)) : Option Scenario := do
  return {
    seats := ← Value.optional? fields "seats" []
    steps := ← Value.optional? fields "steps" [] }

/-- The scenario a text describes. -/
def ofToml (text : String) : Except Toml.ReadError Scenario := Toml.readAs ofFields? text

/-- A scenario as a value. -/
def toValue (scenario : Scenario) : Value :=
  .record [("seats", encode scenario.seats), ("steps", encode scenario.steps)]

/-- A desktop with the given seats. -/
def desktopWith (seats : List Seat) : Desktop :=
  { seats := Table.ofList (seats.map fun seat => (seat.id, seat.mode)) }

/-- The shell before the first step. -/
def start (scenario : Scenario) (settings : Settings) : Shell :=
  { settings, desktop := desktopWith scenario.seats }

end Scenario

/-- Carries out steps in order, counting them from a number. Returns the shell in the end and the
steps that were rejected. -/
def Shell.runFrom (shell : Shell) (index : Nat) : List Step → Shell × List StepError
  | [] => (shell, [])
  | step :: steps =>
    let reply := shell.apply step
    let (final, errors) := reply.shell.runFrom (index + 1) steps
    match reply.fault with
    | none => (final, errors)
    | some fault => (final, { step := index, fault } :: errors)

/-- Replays a scenario. -/
def Scenario.replay (scenario : Scenario) (settings : Settings) : Report :=
  let (shell, errors) := (scenario.start settings).runFrom 0 scenario.steps
  .of shell errors

end WindowShell
