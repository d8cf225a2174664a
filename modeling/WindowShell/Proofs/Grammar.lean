/-
**The grammar of the arguments.**

Arguments are read from left to right as items: an option for settings together with the argument behind
it, whatever that is, a call for help, or any other argument, which is positional. So what looks like an
option may be a path, and what looks like an unknown option may be a scenario. A call for help, a second
positional argument and an option with nothing behind it end the reading, and the first of these in the
order of the items decides; if there is none, one positional argument is what it takes:

* `exists_itemized`, `Itemized.unique`: every list of arguments has items, and no others;
* `Itemized.verdict_from`: the reading that has passed over quiet items ends as they and the items ahead say;
* `Verdict.unique`: the items say only one thing;
* `arguments_follow_their_grammar`: so the arguments are answered exactly as their items say, and the
  place of the positional one among the settings does not matter.
-/

import Mathlib.Data.List.Induction
import WindowShell.CommandLine.Run

namespace WindowShell

namespace Command

/-! ### Items -/

/-- The options that announce the path of a settings file. -/
def settingsOptions : List String := ["--config", "-c"]

/-- The options that call for help. -/
def helpOptions : List String := ["--help", "-h"]

/-- One item of the arguments. -/
inductive Item
  /-- An option for settings and the argument behind it. -/
  | settings (option path : String)
  /-- A call for help. -/
  | help (option : String)
  /-- Any other argument. -/
  | positional (argument : String)
  /-- An option for settings that is the last argument. -/
  | cut (option : String)
deriving DecidableEq, Repr

namespace Item

/-- The arguments of an item. -/
def texts : Item → List String
  | settings option path => [option, path]
  | help option => [option]
  | positional argument => [argument]
  | cut option => [option]

/-- The path of a settings file. -/
def path? : Item → Option String
  | settings _ path => some path
  | _ => none

/-- The positional argument. -/
def positional? : Item → Option String
  | positional argument => some argument
  | _ => none

end Item

/-- The paths of settings files, in order. -/
def paths (items : List Item) : List String := items.filterMap Item.path?

/-- The positional arguments, in order. -/
def positionals (items : List Item) : List String := items.filterMap Item.positional?

section Words

variable (option path argument : String) (items first second : List Item)

@[simp]
theorem positionals_nil : positionals [] = [] := rfl

@[simp]
theorem positionals_settings : positionals (.settings option path :: items) = positionals items := rfl

@[simp]
theorem positionals_positional :
    positionals (.positional argument :: items) = argument :: positionals items := rfl

@[simp]
theorem positionals_append :
    positionals (first ++ second) = positionals first ++ positionals second :=
  List.filterMap_append

@[simp]
theorem paths_nil : paths [] = [] := rfl

@[simp]
theorem paths_settings : paths (.settings option path :: items) = path :: paths items := rfl

@[simp]
theorem paths_positional : paths (.positional argument :: items) = paths items := rfl

@[simp]
theorem paths_append : paths (first ++ second) = paths first ++ paths second :=
  List.filterMap_append

end Words

/-- **The items of some arguments**, from left to right. -/
inductive Itemized : List String → List Item → Prop
  | nil : Itemized [] []
  | settings {option : String} {rest : List String} {items : List Item}
      (known : option ∈ settingsOptions) (path : String) (behind : Itemized rest items) :
      Itemized (option :: path :: rest) (.settings option path :: items)
  | cut {option : String} (known : option ∈ settingsOptions) : Itemized [option] [.cut option]
  | help {option : String} {rest : List String} {items : List Item}
      (known : option ∈ helpOptions) (behind : Itemized rest items) :
      Itemized (option :: rest) (.help option :: items)
  | positional {argument : String} {rest : List String} {items : List Item}
      (plain : argument ∉ settingsOptions ++ helpOptions) (behind : Itemized rest items) :
      Itemized (argument :: rest) (.positional argument :: items)

section Items

variable {option argument path : String} {arguments rest : List String} {items : List Item}

theorem not_help_of_settings (known : option ∈ settingsOptions) : option ∉ helpOptions := by
  simp only [settingsOptions, List.mem_cons, List.not_mem_nil, or_false] at known
  rcases known with rfl | rfl <;> decide

theorem not_plain_of_settings (known : option ∈ settingsOptions) :
    ¬ option ∉ settingsOptions ++ helpOptions :=
  not_not_intro (List.mem_append_left _ known)

theorem not_plain_of_help (known : option ∈ helpOptions) :
    ¬ option ∉ settingsOptions ++ helpOptions :=
  not_not_intro (List.mem_append_right _ known)

namespace Itemized

theorem of_settings (itemized : Itemized (option :: path :: rest) items)
    (known : option ∈ settingsOptions) :
    ∃ others, items = .settings option path :: others ∧ Itemized rest others := by
  cases itemized with
  | settings _ _ behind => exact ⟨_, rfl, behind⟩
  | help called _ => exact absurd called (not_help_of_settings known)
  | positional plain _ => exact absurd plain (not_plain_of_settings known)

theorem of_cut (itemized : Itemized [option] items) (known : option ∈ settingsOptions) :
    items = [.cut option] := by
  cases itemized with
  | cut _ => rfl
  | help called _ => exact absurd called (not_help_of_settings known)
  | positional plain _ => exact absurd plain (not_plain_of_settings known)

theorem of_help (itemized : Itemized (option :: rest) items) (called : option ∈ helpOptions) :
    ∃ others, items = .help option :: others ∧ Itemized rest others := by
  cases itemized with
  | settings known _ _ => exact absurd called (not_help_of_settings known)
  | cut known => exact absurd called (not_help_of_settings known)
  | help _ behind => exact ⟨_, rfl, behind⟩
  | positional plain _ => exact absurd plain (not_plain_of_help called)

theorem of_positional (itemized : Itemized (argument :: rest) items)
    (plain : argument ∉ settingsOptions ++ helpOptions) :
    ∃ others, items = .positional argument :: others ∧ Itemized rest others := by
  cases itemized with
  | settings known _ _ => exact absurd plain (not_plain_of_settings known)
  | cut known => exact absurd plain (not_plain_of_settings known)
  | help called _ => exact absurd plain (not_plain_of_help called)
  | positional _ behind => exact ⟨_, rfl, behind⟩

/-- Items are read in order, and nothing is left out. -/
theorem flatMap_texts (itemized : Itemized arguments items) : items.flatMap Item.texts = arguments := by
  induction itemized with
  | nil => rfl
  | cut _ => rfl
  | settings _ _ _ ih | help _ _ ih | positional _ _ ih =>
    rw [List.flatMap_cons, ih]
    rfl

/-- **The grammar is unambiguous.** -/
theorem unique (itemized : Itemized arguments items) {others : List Item}
    (besides : Itemized arguments others) : others = items := by
  induction itemized generalizing others with
  | nil =>
    cases besides
    rfl
  | settings known path _ ih =>
    obtain ⟨_, rfl, behind⟩ := besides.of_settings known
    rw [ih behind]
  | cut known => exact besides.of_cut known
  | help called _ ih =>
    obtain ⟨_, rfl, behind⟩ := besides.of_help called
    rw [ih behind]
  | positional plain _ ih =>
    obtain ⟨_, rfl, behind⟩ := besides.of_positional plain
    rw [ih behind]

end Itemized

/-- **Every list of arguments has items.** An option for settings takes two arguments at a time. -/
theorem exists_itemized (arguments : List String) : ∃ items, Itemized arguments items := by
  induction arguments using List.twoStepInduction with
  | nil => exact ⟨[], .nil⟩
  | singleton argument =>
    by_cases known : argument ∈ settingsOptions
    · exact ⟨_, .cut known⟩
    · by_cases called : argument ∈ helpOptions
      · exact ⟨_, .help called .nil⟩
      · exact ⟨_, .positional (by simp [known, called]) .nil⟩
  | cons_cons argument second rest next nextButOne =>
    by_cases known : argument ∈ settingsOptions
    · obtain ⟨_, behind⟩ := next
      exact ⟨_, .settings known second behind⟩
    · obtain ⟨_, behind⟩ := nextButOne second
      by_cases called : argument ∈ helpOptions
      · exact ⟨_, .help called behind⟩
      · exact ⟨_, .positional (by simp [known, called]) behind⟩

end Items

/-! ### What the items say -/

/-- **None of these items ends the reading**: there is no call for help, every option for settings has
an argument behind it, and no positional argument comes second. -/
structure Quiet (items : List Item) : Prop where
  uncalled : ∀ option, .help option ∉ items
  complete : ∀ option, .cut option ∉ items
  single : (positionals items).length ≤ 1

/-- How an item ends the reading, behind others that do not. -/
inductive Ends (before : List Item) : Item → Except ArgumentFault Command → Prop
  | help (option : String) : Ends before (.help option) (.ok .help)
  | unexpected {argument : String} (second : positionals before ≠ []) :
      Ends before (.positional argument) (.error (.unexpected argument))
  | cut (option : String) : Ends before (.cut option) (.error .missingSettingsPath)

/-- **What the items say.** The first item that ends the reading decides. If there is none, the positional
argument is the scenario, and the last path is that of the settings. -/
inductive Verdict (items : List Item) : Except ArgumentFault Command → Prop
  | accepted {scenario : String} (quiet : Quiet items) (one : positionals items = [scenario]) :
      Verdict items (.ok (.replay scenario (paths items).getLast?))
  | missing (quiet : Quiet items) (absent : positionals items = []) :
      Verdict items (.error .missingScenario)
  | ended {before : List Item} {item : Item} {after : List Item}
      {answer : Except ArgumentFault Command} (split : items = before ++ item :: after)
      (quiet : Quiet before) (ends : Ends before item answer) : Verdict items answer

section Verdicts

variable {items before after : List Item} {item : Item} {answer other : Except ArgumentFault Command}

theorem quiet_nil : Quiet [] := ⟨by simp, by simp, Nat.zero_le 1⟩

theorem Quiet.of_prefix (quiet : Quiet items) (front : before <+: items) : Quiet before := by
  obtain ⟨after, rfl⟩ := front
  have single := quiet.single
  rw [positionals_append, List.length_append] at single
  exact ⟨fun option member => quiet.uncalled option (List.mem_append_left _ member),
    fun option member => quiet.complete option (List.mem_append_left _ member), by omega⟩

theorem Quiet.settings (quiet : Quiet before) (option path : String) :
    Quiet (before ++ [.settings option path]) where
  uncalled option := by simp [quiet.uncalled]
  complete option := by simp [quiet.complete]
  single := by simpa using quiet.single

theorem Quiet.positional (quiet : Quiet before) (absent : positionals before = [])
    (argument : String) : Quiet (before ++ [.positional argument]) where
  uncalled option := by simp [quiet.uncalled]
  complete option := by simp [quiet.complete]
  single := by simp [absent]

theorem Ends.not_quiet (ends : Ends before item answer) : ¬ Quiet (before ++ [item]) := by
  intro quiet
  cases ends with
  | help option => exact quiet.uncalled option (by simp)
  | unexpected second =>
    have single := quiet.single
    have earlier := List.length_pos_iff.mpr second
    rw [positionals_append, List.length_append, positionals_positional, List.length_cons] at single
    omega
  | cut option => exact quiet.complete option (by simp)

theorem Ends.unique (ends : Ends before item answer) (also : Ends before item other) :
    answer = other := by
  cases ends <;> cases also <;> rfl

theorem Ends.not_quiet_of_split (ends : Ends before item answer)
    (split : items = before ++ item :: after) : ¬ Quiet items := by
  intro quiet
  rw [split, List.append_cons] at quiet
  exact ends.not_quiet (quiet.of_prefix (List.prefix_append _ _))

/-- Quiet items in front do not reach beyond one that ends the reading. -/
theorem Ends.length_le (ends : Ends before item answer) {front rest : List Item} (quiet : Quiet front)
    (same : before ++ item :: after = front ++ rest) : front.length ≤ before.length := by
  by_contra beyond
  have inside : before ++ [item] <+: front ++ rest := by
    rw [← same, List.append_cons before item after]
    exact List.prefix_append _ _
  have among : before ++ [item] <+: front :=
    List.prefix_of_prefix_length_le inside (List.prefix_append _ _) (by simp; omega)
  exact ends.not_quiet (quiet.of_prefix among)

/-- Only one item is the first that ends the reading. -/
theorem Ends.first_unique (ends : Ends before item answer) (quiet : Quiet before)
    {before' after' : List Item} {item' : Item} (also : Ends before' item' other)
    (quiet' : Quiet before') (same : before ++ item :: after = before' ++ item' :: after') :
    answer = other := by
  have length := Nat.le_antisymm (also.length_le quiet same.symm) (ends.length_le quiet' same)
  obtain ⟨rfl, tail⟩ := List.append_inj same length
  obtain ⟨rfl, -⟩ := List.cons.inj tail
  exact ends.unique also

/-- **The items say only one thing.** -/
theorem Verdict.unique (verdict : Verdict items answer) (also : Verdict items other) :
    answer = other := by
  cases verdict with
  | accepted quiet one =>
    cases also with
    | accepted _ one' =>
      obtain ⟨rfl, -⟩ := List.cons.inj (one.symm.trans one')
      rfl
    | missing _ absent => exact absurd (one.symm.trans absent) (List.cons_ne_nil _ _)
    | ended split _ ends => exact absurd quiet (ends.not_quiet_of_split split)
  | missing quiet absent =>
    cases also with
    | accepted _ one => exact absurd (one.symm.trans absent) (List.cons_ne_nil _ _)
    | missing => rfl
    | ended split _ ends => exact absurd quiet (ends.not_quiet_of_split split)
  | ended split quiet ends =>
    cases also with
    | accepted quiet' => exact absurd quiet' (ends.not_quiet_of_split split)
    | missing quiet' => exact absurd quiet' (ends.not_quiet_of_split split)
    | ended split' quiet' also => exact ends.first_unique quiet also quiet' (split.symm.trans split')

end Verdicts

/-! ### Reading -/

section Reading

variable {option argument path : String} {scenario settings : Option String} {rest : List String}

theorem isSettingsOption_iff : isSettingsOption argument = true ↔ argument ∈ settingsOptions := by
  simp [isSettingsOption, settingsOptions]

theorem isHelpOption_iff : isHelpOption argument = true ↔ argument ∈ helpOptions := by
  simp [isHelpOption, helpOptions]

theorem readFrom_settings (known : option ∈ settingsOptions) :
    readFrom scenario settings (option :: path :: rest) = readFrom scenario (some path) rest := by
  rw [readFrom.eq_def]
  exact if_pos (isSettingsOption_iff.mpr known)

theorem readFrom_cut (known : option ∈ settingsOptions) :
    readFrom scenario settings [option] = .error .missingSettingsPath := by
  rw [readFrom.eq_def]
  exact if_pos (isSettingsOption_iff.mpr known)

theorem readFrom_help (called : option ∈ helpOptions) :
    readFrom scenario settings (option :: rest) = .ok .help := by
  have other : ¬ isSettingsOption option := fun known =>
    not_help_of_settings (isSettingsOption_iff.mp known) called
  rw [readFrom.eq_def]
  exact (if_neg other).trans (if_pos (isHelpOption_iff.mpr called))

theorem readFrom_plain (plain : argument ∉ settingsOptions ++ helpOptions) :
    readFrom scenario settings (argument :: rest) =
      match scenario with
      | none => readFrom (some argument) settings rest
      | some _ => .error (.unexpected argument) := by
  rw [List.mem_append, not_or] at plain
  rw [readFrom.eq_def]
  exact (if_neg (mt isSettingsOption_iff.mp plain.1)).trans
    (if_neg (mt isHelpOption_iff.mp plain.2))

/-- **The reading ends as the items say**, those it has passed over and those ahead. By induction on the
items ahead: of the quiet items behind it, the reading has kept the positional one and the last path. -/
theorem Itemized.verdict_from {arguments : List String} {items : List Item}
    (itemized : Itemized arguments items) {before : List Item} (quiet : Quiet before) :
    Verdict (before ++ items)
      (readFrom (positionals before).head? (paths before).getLast? arguments) := by
  induction itemized generalizing before with
  | nil =>
    rw [List.append_nil]
    cases found : positionals before with
    | nil => exact .missing quiet found
    | cons scenario others =>
      have single := quiet.single
      rw [found, List.length_cons] at single
      obtain rfl : others = [] := List.length_eq_zero_iff.mp (by omega)
      exact .accepted quiet found
  | @settings option rest items known path behind ih =>
    have verdict := ih (quiet.settings option path)
    rw [readFrom_settings known]
    simpa using verdict
  | @cut option known =>
    rw [readFrom_cut known]
    exact .ended rfl quiet (.cut option)
  | @help option rest items called behind ih =>
    rw [readFrom_help called]
    exact .ended rfl quiet (.help option)
  | @positional argument rest items plain behind ih =>
    rw [readFrom_plain plain]
    cases found : positionals before with
    | nil =>
      have verdict := ih (quiet.positional found argument)
      simpa [found] using verdict
    | cons scenario others =>
      exact .ended rfl quiet (.unexpected (found ▸ List.cons_ne_nil _ _))

/-- Arguments are answered exactly as their items say. -/
theorem Itemized.answer_iff {arguments : List String} {items : List Item}
    (itemized : Itemized arguments items) (answer : Except ArgumentFault Command) :
    ofArguments arguments = answer ↔ Verdict items answer := by
  have verdict : Verdict items (ofArguments arguments) := itemized.verdict_from quiet_nil
  exact ⟨fun same => same ▸ verdict, verdict.unique⟩

end Reading

/-! ### The place of the scenario -/

/-- How an item is spelled. -/
def Item.Spelled : Item → Prop
  | settings option _ => option ∈ settingsOptions
  | help option => option ∈ helpOptions
  | positional argument => argument ∉ settingsOptions ++ helpOptions
  | cut option => option ∈ settingsOptions

section Placing

variable {items before after : List Item} {scenario : String}

theorem Itemized.spelled {arguments : List String} (itemized : Itemized arguments items) :
    ∀ item ∈ items, item.Spelled := by
  induction itemized with
  | nil => exact fun _ member => by cases member
  | settings known path _ ih => exact List.forall_mem_cons.mpr ⟨known, ih⟩
  | cut known => exact List.forall_mem_singleton.mpr known
  | help called _ ih => exact List.forall_mem_cons.mpr ⟨called, ih⟩
  | positional plain _ ih => exact List.forall_mem_cons.mpr ⟨plain, ih⟩

/-- Items that are spelled right are those of their texts, if no option is cut off. -/
theorem itemized_texts (spelled : ∀ item ∈ items, item.Spelled)
    (complete : ∀ option, .cut option ∉ items) : Itemized (items.flatMap Item.texts) items := by
  induction items with
  | nil => exact .nil
  | cons item items ih =>
    obtain ⟨here, later⟩ := List.forall_mem_cons.mp spelled
    have behind := ih later fun option member => complete option (List.mem_cons_of_mem _ member)
    cases item with
    | settings option path => exact .settings here path behind
    | help option => exact .help here behind
    | positional argument => exact .positional here behind
    | cut option => exact absurd List.mem_cons_self (complete option)

theorem positionals_of_settings (settings : ∀ item ∈ items, item.path? ≠ none) :
    positionals items = [] := by
  refine List.filterMap_eq_nil_iff.mpr fun item member => ?_
  cases item with
  | settings option path => rfl
  | _ => exact absurd rfl (settings _ member)

/-- A positional argument among settings is the only one, and nothing ends the reading. -/
theorem quiet_among_settings (scenario : String)
    (settings : ∀ item ∈ before ++ after, item.path? ≠ none) :
    Quiet (before ++ .positional scenario :: after) ∧
      positionals (before ++ .positional scenario :: after) = [scenario] := by
  have silent := positionals_of_settings settings
  rw [positionals_append, List.append_eq_nil_iff] at silent
  have one : positionals (before ++ .positional scenario :: after) = [scenario] := by
    rw [positionals_append, positionals_positional, silent.1, silent.2, List.nil_append]
  have pathless : ∀ item ∈ before ++ .positional scenario :: after, item.path? = none →
      item = .positional scenario := by
    intro item member none
    rcases List.mem_cons.mp (List.perm_middle.mem_iff.mp member) with same | among
    · exact same
    · exact absurd none (settings item among)
  refine ⟨⟨fun option member => ?_, fun option member => ?_,
    Nat.le_of_eq (congrArg List.length one)⟩, one⟩
  · cases pathless _ member rfl
  · cases pathless _ member rfl

/-- **The place of the scenario among the settings does not matter.** -/
theorem Itemized.moved {arguments : List String}
    (itemized : Itemized arguments (before ++ .positional scenario :: after))
    (settings : ∀ item ∈ before ++ after, item.path? ≠ none) {earlier later : List Item}
    (same : earlier ++ later = before ++ after) :
    ofArguments ((earlier ++ .positional scenario :: later).flatMap Item.texts) =
      ofArguments arguments := by
  obtain ⟨quiet, one⟩ := quiet_among_settings scenario settings
  obtain ⟨quiet', one'⟩ := quiet_among_settings scenario (same ▸ settings)
  have spelled : ∀ item ∈ earlier ++ .positional scenario :: later, item.Spelled := by
    intro item member
    have among : item ∈ .positional scenario :: (earlier ++ later) :=
      List.perm_middle.mem_iff.mp member
    rw [same] at among
    exact itemized.spelled item (List.perm_middle.mem_iff.mpr among)
  have paths : paths (earlier ++ .positional scenario :: later) =
      paths (before ++ .positional scenario :: after) := by
    rw [paths_append, paths_positional, ← paths_append, same, paths_append, paths_append,
      paths_positional]
  have answer := (itemized.answer_iff _).mpr (.accepted quiet one)
  have answer' := ((itemized_texts spelled quiet'.complete).answer_iff _).mpr (.accepted quiet' one')
  rw [answer, answer', paths]

/-- Arguments are accepted if nothing in them ends the reading and there is a scenario. -/
theorem Itemized.accepted_iff {arguments : List String} (itemized : Itemized arguments items) :
    (∃ scenario settings, ofArguments arguments = .ok (.replay scenario settings)) ↔
      (∀ option, .help option ∉ items) ∧ (∀ option, .cut option ∉ items) ∧
        (positionals items).length = 1 := by
  constructor
  · rintro ⟨scenario, settings, answer⟩
    cases (itemized.answer_iff _).mp answer with
    | accepted quiet one => exact ⟨quiet.uncalled, quiet.complete, congrArg List.length one⟩
    | ended _ _ ends => cases ends
  · rintro ⟨uncalled, complete, single⟩
    obtain ⟨scenario, one⟩ := List.length_eq_one_iff.mp single
    exact ⟨scenario, (paths items).getLast?,
      (itemized.answer_iff _).mpr (.accepted ⟨uncalled, complete, Nat.le_of_eq single⟩ one)⟩

end Placing

/-! ### What the command makes of it -/

section Running

variable (environment : Environment) (files : Files) {arguments : List String}

theorem settings_blameless (settingsPath : Option String) (fault : ArgumentFault) :
    settings environment files settingsPath ≠ .error (.arguments fault) := by
  cases settingsPath with
  | none => exact fun loaded => by cases loaded
  | some path =>
    cases loaded : Settings.ofFile (files path) <;> simp [settings, loaded, Except.mapError]

/-- A scenario that cannot be played is no fault of the arguments. -/
theorem playFile_blameless (path : String) (settingsPath : Option String) (fault : ArgumentFault) :
    playFile environment files path settingsPath ≠ .error (.arguments fault) := by
  have blameless := settings_blameless environment files settingsPath fault
  unfold playFile
  cases files.text? path with
  | none => simp [bind, Except.bind]
  | some text =>
    cases parsed : Scenario.ofToml text with
    | error cause => simp [parsed, Except.mapError, bind, Except.bind]
    | ok scenario =>
      cases chosen : settings environment files settingsPath with
      | error failure =>
        rw [chosen] at blameless
        simpa [parsed, Except.mapError, bind, Except.bind] using blameless
      | ok settings => simp [parsed, Except.mapError, bind, Except.bind, pure, Except.pure]

theorem run_usage_iff : run environment files arguments = .usage ↔ ofArguments arguments = .ok .help := by
  unfold run
  split
  · next fault answer => simp [answer]
  · next answer => simp [answer]
  · next path settingsPath answer =>
    cases playFile environment files path settingsPath <;> simp [answer]

theorem run_refused_iff (fault : ArgumentFault) :
    run environment files arguments = .failed (.arguments fault) ↔
      ofArguments arguments = .error fault := by
  unfold run
  split
  · next cause answer => simp [answer]
  · next answer => simp [answer]
  · next path settingsPath answer =>
    have blameless := playFile_blameless environment files path settingsPath fault
    cases played : playFile environment files path settingsPath with
    | error failure =>
      rw [played] at blameless
      simpa [answer] using blameless
    | ok report => simp [answer]

theorem unexpected_message (argument : String) :
    (CommandFailure.arguments (.unexpected argument)).message =
      "Error: unexpected argument: " ++ argument := by
  unfold CommandFailure.message ArgumentFault.message
  have joined : "Error: unexpected argument: " = "Error: " ++ "unexpected argument: " := by decide
  rw [joined, String.append_assoc]
  rfl

/-- **What the command makes of the items**: it says how it is used, or names what is wrong, or goes on to
read the files. -/
structure Heeds (outcome : Outcome) (items : List Item) : Prop where
  usage_iff : outcome = .usage ↔ Verdict items (.ok .help)
  refused_iff : ∀ fault, outcome = .failed (.arguments fault) ↔ Verdict items (.error fault)
  /-- A call for help that decides is no failure. -/
  fine : Verdict items (.ok .help) → outcome.exitCode = 0
  wrong : ∀ fault, Verdict items (.error fault) → outcome.exitCode = 1
  /-- A second positional argument is named. -/
  named : ∀ argument, Verdict items (.error (.unexpected argument)) →
    ∃ failure, outcome = .failed failure ∧ failure.message = "Error: unexpected argument: " ++ argument

theorem Itemized.heeds {items : List Item} (itemized : Itemized arguments items) :
    Heeds (run environment files arguments) items := by
  have usage := (run_usage_iff environment files).trans (itemized.answer_iff _)
  have refused := fun fault =>
    (run_refused_iff environment files fault).trans (itemized.answer_iff _)
  refine ⟨usage, refused, fun verdict => ?_, fun fault verdict => ?_, fun argument verdict =>
    ⟨_, (refused _).mpr verdict, unexpected_message argument⟩⟩
  · rw [usage.mpr verdict]
    rfl
  · rw [(refused fault).mpr verdict]
    rfl

end Running

/-- **Arguments follow their grammar.** Every list of arguments has items, and no others. It is accepted
if and only if there is no call for help among them, every option for settings has an argument behind it,
and there is exactly one positional argument; then that is the scenario, and the last path is that of
the settings, wherever among them the scenario stands. Otherwise the first item decides that calls for
help, is a second positional argument, or is an option with nothing behind it; and only if there is none,
the scenario is missing. The command says how it is used, or fails on its arguments, exactly if the items
say so. -/
theorem arguments_follow_their_grammar (arguments : List String) :
    ∃ items, Itemized arguments items ∧ items.flatMap Item.texts = arguments ∧
      (∀ others, Itemized arguments others → others = items) ∧
      ((∃ scenario settings, ofArguments arguments = .ok (.replay scenario settings)) ↔
        (∀ option, .help option ∉ items) ∧ (∀ option, .cut option ∉ items) ∧
          (positionals items).length = 1) ∧
      (∀ answer, ofArguments arguments = answer ↔ Verdict items answer) ∧
      (∀ before scenario after earlier later, items = before ++ .positional scenario :: after →
        (∀ item ∈ before ++ after, item.path? ≠ none) → earlier ++ later = before ++ after →
        ofArguments ((earlier ++ .positional scenario :: later).flatMap Item.texts) =
          ofArguments arguments) ∧
      ∀ environment files, Heeds (run environment files arguments) items := by
  obtain ⟨items, itemized⟩ := exists_itemized arguments
  refine ⟨items, itemized, itemized.flatMap_texts, fun _ => itemized.unique, itemized.accepted_iff,
    itemized.answer_iff, ?_, itemized.heeds⟩
  rintro before scenario after earlier later rfl settings same
  exact itemized.moved settings same

/-- A path may look like a call for help, and a scenario like an option. The second positional argument
decides before a call for help behind it. -/
theorem arguments_follow_their_grammar_lookalikes :
    ofArguments ["-c", "--help", "-x", "--config", "-c"] = .ok (.replay "-x" (some "-c")) ∧
      ofArguments ["-x", "-c", "--help", "--config", "-c"] = .ok (.replay "-x" (some "-c")) ∧
      ofArguments ["-x", "-c", "-h", "--version", "--help", "-c"] =
        .error (.unexpected "--version") := by
  obtain ⟨items, -, -, unique, -, answers, moved, -⟩ :=
    arguments_follow_their_grammar ["-c", "--help", "-x", "--config", "-c"]
  obtain rfl : [.settings "-c" "--help", .positional "-x", .settings "--config" "-c"] = items :=
    unique _ (.settings (by decide) _ (.positional (by decide) (.settings (by decide) _ .nil)))
  have accepted := (answers _).mpr (.accepted ⟨by simp, by simp, Nat.le_refl 1⟩ rfl)
  have again := moved [.settings "-c" "--help"] "-x" [.settings "--config" "-c"] []
    [.settings "-c" "--help", .settings "--config" "-c"] rfl (by simp [Item.path?]) rfl
  obtain ⟨others, -, -, unique', -, answers', -⟩ :=
    arguments_follow_their_grammar ["-x", "-c", "-h", "--version", "--help", "-c"]
  obtain rfl : [.positional "-x", .settings "-c" "-h", .positional "--version", .help "--help",
      .cut "-c"] = others :=
    unique' _ (.positional (by decide) (.settings (by decide) _ (.positional (by decide)
      (.help (by decide) (.cut (by decide))))))
  have quiet : Quiet [.positional "-x", .settings "-c" "-h"] := ⟨by simp, by simp, Nat.le_refl 1⟩
  exact ⟨accepted, again.trans accepted,
    (answers' _).mpr (.ended rfl quiet (.unexpected (List.cons_ne_nil _ _)))⟩

end Command

end WindowShell
