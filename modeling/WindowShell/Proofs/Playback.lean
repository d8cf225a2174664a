/-
**The command plays what a replay carries out.**

A replay carries out the steps of a scenario and numbers them as it goes. The command hands the same steps
to a player, which counts them and collects the rejected ones on its own, and an event loop in between may
hand over any number of steps in one turn and looks only between turns whether there are more. If it hands
them over in order and then says that there are no more, both reports are the same:

* `Player.follow_steps`: how a player ends that is handed some steps;
* `Player.attend_eq_follow`: the turns in which the steps are handed over do not matter;
* `Command.run_reports_replay`: the command prints the report of the replay, and its code says whether
  steps were rejected.
-/

import WindowShell.CommandLine.Run

namespace WindowShell

namespace Player

variable {player : Player}

theorem follow_step (ongoing : player.done = false) (step : Step) (feeds : List Feed) :
    player.follow (.step step :: feeds) = (player.play step).follow feeds := by
  have onward : ¬ (player.play step).done := by
    show ¬ player.done
    rw [ongoing]
    exact Bool.false_ne_true
  exact if_neg onward

theorem follow_closed (player : Player) (feeds : List Feed) :
    player.follow (.closed :: feeds) = { player with done := true } :=
  rfl

/-- A player that is handed some steps and then no more has carried them out like a replay, from the
number where it was. -/
theorem follow_steps (ongoing : player.done = false) (steps : List Step) :
    player.follow (steps.map Feed.step ++ [.closed]) =
      { shell := (player.shell.runFrom player.next steps).1
        next := player.next + steps.length
        errors := player.errors ++ (player.shell.runFrom player.next steps).2
        done := true } := by
  induction steps generalizing player with
  | nil =>
    rw [List.map_nil, List.nil_append, follow_closed]
    simp [Shell.runFrom]
  | cons step steps ih =>
    have onward : (player.play step).done = false := ongoing
    rw [List.map_cons, List.cons_append, follow_step ongoing, ih onward]
    cases fault : (player.shell.apply step).fault <;>
      simp [play, Shell.runFrom, fault, Nat.add_assoc, Nat.add_comm 1]

/-! ### Turns of an event loop -/

/-- What an event loop leaves of a player that it hands something in every turn. Between two turns it
looks whether there is more to come. -/
def attend (player : Player) : List (List Feed) → Player
  | [] => player
  | turn :: turns =>
    let player := turn.foldl take player
    if player.done then player else player.attend turns

/-- The steps of a turn are followed like any others. -/
theorem follow_turn (ongoing : player.done = false) (steps : List Step) (feeds : List Feed) :
    ((steps.map Feed.step).foldl take player).done = false ∧
      player.follow (steps.map Feed.step ++ feeds) =
        ((steps.map Feed.step).foldl take player).follow feeds := by
  induction steps generalizing player with
  | nil => exact ⟨ongoing, rfl⟩
  | cons step steps ih =>
    have onward : (player.play step).done = false := ongoing
    obtain ⟨still, follows⟩ := ih onward
    refine ⟨still, ?_⟩
    rw [List.map_cons, List.cons_append, follow_step ongoing, follows]
    rfl

/-- **The turns do not matter.** However steps are spread over the turns of an event loop, in order and
followed by the news that there are no more, the player ends as if they came one by one. -/
theorem attend_eq_follow (ongoing : player.done = false) {turns : List (List Feed)}
    {steps : List Step} (delivered : turns.flatten = steps.map Feed.step ++ [.closed]) :
    player.attend turns = player.follow (steps.map Feed.step ++ [.closed]) := by
  induction turns generalizing player steps with
  | nil => simp at delivered
  | cons turn turns ih =>
    show (if (turn.foldl take player).done then _ else _) = _
    rcases List.append_eq_append_iff.mp (delivered : turn ++ turns.flatten = _) with
      ⟨rest, later, now⟩ | ⟨extra, all, rest⟩
    · -- the turn ends before the news
      obtain ⟨front, back, rfl, rfl, rfl⟩ := List.map_eq_append_iff.mp later
      obtain ⟨still, follows⟩ := follow_turn ongoing front (back.map Feed.step ++ [.closed])
      rw [still, if_neg Bool.false_ne_true, ih still now, List.map_append, List.append_assoc, follows]
    · -- the news comes in this turn, or nothing does and it comes in a later one
      cases extra with
      | nil =>
        obtain ⟨still, follows⟩ := follow_turn ongoing steps [.closed]
        rw [List.append_nil] at all
        have later : turns.flatten = ([] : List Step).map Feed.step ++ [.closed] := rest.symm
        rw [all, still, if_neg Bool.false_ne_true, ih still later, follows]
        rfl
      | cons last extra =>
        obtain ⟨rfl, none⟩ := List.cons.inj rest
        obtain ⟨rfl, -⟩ := List.append_eq_nil_iff.mp none.symm
        obtain ⟨-, follows⟩ := follow_turn ongoing steps [.closed]
        rw [all, follows, List.foldl_append]
        exact (if_pos rfl).trans (follow_closed _ _).symm

end Player

/-- The player of the command reports what the replay does. -/
theorem Scenario.play_eq_replay (scenario : Scenario) (settings : Settings) :
    scenario.play settings = scenario.replay settings := by
  simp only [play, replay, Player.follow_steps, Player.report, List.nil_append]

namespace Command

/-- Only a failure is worded. -/
theorem mapError_ok {ε δ α : Type} (word : ε → δ) (value : α) :
    Except.mapError word (.ok value) = .ok value := rfl

/-- A command whose arguments name a readable scenario and usable settings plays that scenario. -/
theorem run_of_readable {environment : Environment} {files : Files} {arguments : List String}
    {path text : String} {settingsPath : Option String} {scenario : Scenario} {settings : Settings}
    (named : ofArguments arguments = .ok (.replay path settingsPath))
    (readable : files.text? path = some text) (parsed : Scenario.ofToml text = .ok scenario)
    (usable : Command.settings environment files settingsPath = .ok settings) :
    run environment files arguments = .played (scenario.play settings) := by
  have played : playFile environment files path settingsPath = .ok (scenario.play settings) := by
    simp only [playFile, readable, Option.elim_some, parsed, usable, bind, Except.bind, mapError_ok]
    rfl
  simp only [run, named, played]

/-- **The command reports what the replay does.** Whenever the arguments name a file with the text of a
scenario, and settings that can be used, the command prints the report of the replay of that scenario
with these settings, rejected steps included, and ends with two if there are any and with zero
otherwise. The report is the same in whatever turns the steps are handed over. -/
theorem run_reports_replay {environment : Environment} {files : Files} {arguments : List String}
    {path text : String} {settingsPath : Option String} {scenario : Scenario} {settings : Settings}
    (named : ofArguments arguments = .ok (.replay path settingsPath))
    (readable : files.text? path = some text) (parsed : Scenario.ofToml text = .ok scenario)
    (usable : Command.settings environment files settingsPath = .ok settings) :
    run environment files arguments = .played (scenario.replay settings) ∧
      (run environment files arguments).exitCode =
        (if (scenario.replay settings).errors = [] then 0 else 2) ∧
      ∀ turns : List (List Feed), turns.flatten = scenario.steps.map Feed.step ++ [.closed] →
        (({ shell := scenario.start settings } : Player).attend turns).report =
          scenario.replay settings := by
  have played := run_of_readable named readable parsed usable
  rw [scenario.play_eq_replay] at played
  refine ⟨played, ?_, fun turns delivered => ?_⟩
  · rw [played]
    simp only [Outcome.exitCode, List.isEmpty_iff]
  · rw [Player.attend_eq_follow rfl delivered]
    exact scenario.play_eq_replay settings

/-- The text of settings that leave out the ping of a new window. -/
def quietText : String := "ping_on_create = false"

/-- The text of a scenario whose client acknowledges a configure before one is sent. -/
def hastyText : String :=
  "[[steps]]\nop = 'new_toplevel'\nsurface = 1\n[[steps]]\nop = 'ack'\nsurface = 1\n"

/-- The files with these texts. -/
def hastyFiles : Files := fun path =>
  if path = "hasty.toml" then some hastyText.toUTF8
  else if path = "quiet.toml" then some quietText.toUTF8
  else none

/-- The scenario of that client. -/
def hastyScenario : Scenario := { steps := [.newToplevel ⟨1⟩, .ack ⟨1⟩ none] }

/-- A result is known by what it holds. -/
theorem ok_of_toOption {ε α : Type} {result : Except ε α} {value : α}
    (holds : result.toOption = some value) : result = .ok value := by
  cases result with
  | error cause => cases holds
  | ok found => exact congrArg Except.ok (Option.some.inj holds)

theorem fromUTF8?_toUTF8 (text : String) : String.fromUTF8? text.toUTF8 = some text :=
  dif_pos text.isValidUTF8

theorem quietText_usable :
    Command.settings {} hastyFiles (some "quiet.toml") = .ok { pingOnCreate := false } := by
  have file : hastyFiles "quiet.toml" = some quietText.toUTF8 := by simp [hastyFiles]
  have parsed : Settings.ofToml quietText = .ok { pingOnCreate := false } :=
    ok_of_toOption (by decide +kernel)
  simp only [Command.settings, file, Settings.ofFile, fromUTF8?_toUTF8, parsed, mapError_ok]

/-- The command reports the second step, as the replay does, and ends with two. -/
theorem run_reports_replay_hastyClient :
    run {} hastyFiles ["--config", "quiet.toml", "hasty.toml"] =
        .played (hastyScenario.replay { pingOnCreate := false }) ∧
      (hastyScenario.replay { pingOnCreate := false }).errors =
        [{ step := 1, fault := .refused ⟨1⟩ (.invalidSerial 0) }] ∧
      (run {} hastyFiles ["--config", "quiet.toml", "hasty.toml"]).exitCode = 2 := by
  have readable : hastyFiles.text? "hasty.toml" = some hastyText := by
    have file : hastyFiles "hasty.toml" = some hastyText.toUTF8 := by simp [hastyFiles]
    rw [Files.text?, file, Option.bind_some, fromUTF8?_toUTF8]
  have parsed : Scenario.ofToml hastyText = .ok hastyScenario := ok_of_toOption (by decide +kernel)
  obtain ⟨played, code, -⟩ := run_reports_replay
    (show ofArguments ["--config", "quiet.toml", "hasty.toml"] =
      .ok (.replay "hasty.toml" (some "quiet.toml")) from rfl) readable parsed quietText_usable
  have errors : (hastyScenario.replay { pingOnCreate := false }).errors =
      [{ step := 1, fault := .refused ⟨1⟩ (.invalidSerial 0) }] := by decide
  refine ⟨played, errors, ?_⟩
  rw [code, errors]
  exact if_neg (List.cons_ne_nil _ _)

end Command

end WindowShell
