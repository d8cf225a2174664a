/-
**Written settings are read back.**

Each setting has a line of its own. Lines may be left out, they may stand in any order, and the last one
may go without a line feed: what is written is read as it was, and what is left out has its default. Limits
are read as far as the integers of a document go.

* `Setting`, `Setting.line`: the settings, one by one, and their lines;
* `Settings.only`: settings of which all but some are the defaults;
* `Setting.valid`, `written_lines`, `written_separated`: the lines make a document;
* `ofFields?_chosen`: what the fields of such a document describe;
* `written_settings_read_back`: so settings are read back, in whole and in part.
-/

import Mathlib.Data.List.Nodup
import WindowShell.Proofs.Reading
import WindowShell.Settings.Document

namespace WindowShell

/-- A setting. -/
inductive Setting
  | maxViews
  | maxPopupsPerView
  | pingOnCreate
deriving DecidableEq

/-- The settings of which only the chosen ones are kept, and the others are the defaults. -/
def Settings.only (settings : Settings) (chosen : List Setting) : Settings where
  maxViews := if .maxViews ∈ chosen then settings.maxViews else ({} : Settings).maxViews
  maxPopupsPerView :=
    if .maxPopupsPerView ∈ chosen then settings.maxPopupsPerView else ({} : Settings).maxPopupsPerView
  pingOnCreate := if .pingOnCreate ∈ chosen then settings.pingOnCreate else ({} : Settings).pingOnCreate

namespace Setting

open Toml

/-- The line of a setting, without a line feed. -/
def line (settings : Settings) : Setting → String
  | maxViews => s!"max_views = {settings.maxViews}"
  | maxPopupsPerView => s!"max_popups_per_view = {settings.maxPopupsPerView}"
  | pingOnCreate => s!"ping_on_create = {settings.pingOnCreate}"

def name : Setting → String
  | maxViews => "max_views"
  | maxPopupsPerView => "max_popups_per_view"
  | pingOnCreate => "ping_on_create"

/-- The value of a setting, as it is written. -/
def text (settings : Settings) : Setting → String
  | maxViews => toString settings.maxViews
  | maxPopupsPerView => toString settings.maxPopupsPerView
  | pingOnCreate => toString settings.pingOnCreate

def found (settings : Settings) : Setting → Value
  | maxViews => encode settings.maxViews
  | maxPopupsPerView => encode settings.maxPopupsPerView
  | pingOnCreate => encode settings.pingOnCreate

/-- The line of a setting, taken apart. -/
def parts (settings : Settings) (setting : Setting) : Line :=
  { name := setting.name, text := (setting.text settings).toList, found := setting.found settings }

section Lines

variable {settings : Settings}

theorem name_injective : Function.Injective name := by
  intro first second same
  cases first <;> cases second <;> simp [name] at same ⊢

theorem toList_line (settings : Settings) (setting : Setting) :
    (setting.line settings).toList = (setting.parts settings).chars := by
  have split : ∀ front name text : String, front.toList = name.toList ++ [' ', '=', ' '] →
      (front ++ text).toList = name.toList ++ ' ' :: '=' :: ' ' :: text.toList := by
    intro front name text same
    rw [String.toList_append, same, List.append_assoc]
    rfl
  cases setting with
  | maxViews => exact split "max_views = " "max_views" _ (by decide)
  | maxPopupsPerView => exact split "max_popups_per_view = " "max_popups_per_view" _ (by decide)
  | pingOnCreate => exact split "ping_on_create = " "ping_on_create" _ (by decide)

theorem bare_name (setting : Setting) : Bare setting.name.toList := by
  cases setting <;> exact ⟨by decide, List.all_eq_true.mp (by decide)⟩

theorem valid_natural {name : String} (bare : Bare name.toList) {limit : Nat}
    (fits : limit ≤ 2 ^ 63 - 1) :
    Line.Valid { name, text := (toString limit).toList, found := .int limit } := by
  have digits : (toString limit).toList = Numeral.digits 10 limit := String.toList_ofList
  rw [digits]
  exact ⟨bare, Nat.toDigits_ne_nil, fun c member => (decimal_digits limit).solid c
    (List.mem_of_mem_head? member), fun rest ends => reads_natural fits ends⟩

theorem valid_truth {name : String} (bare : Bare name.toList) (value : Bool) :
    Line.Valid { name, text := (toString value).toList, found := .bool value } := by
  have filled : (toString value).toList ≠ [] := by cases value <;> decide
  have solid : ∀ c ∈ (toString value).toList.head?, isGap c = false := by
    intro c member
    cases value <;> exact Option.some.inj member ▸ rfl
  exact ⟨bare, filled, solid, fun rest _ => reads_truth value rest⟩

/-- **The line of a setting is well written**, if its limit is an integer of a document. -/
theorem valid (views : settings.maxViews ≤ 2 ^ 63 - 1) (popups : settings.maxPopupsPerView ≤ 2 ^ 63 - 1)
    (setting : Setting) : (setting.parts settings).Valid := by
  cases setting with
  | maxViews => exact valid_natural (bare_name _) views
  | maxPopupsPerView => exact valid_natural (bare_name _) popups
  | pingOnCreate => exact valid_truth (bare_name _) _

theorem written_lines (settings : Settings) (chosen : List Setting) :
    Written (chosen.map (parts settings))
      (String.join (chosen.map fun setting => setting.line settings ++ "\n")).toList := by
  rw [String.toList_join]
  induction chosen with
  | nil => exact .nil
  | cons setting chosen ih =>
    rw [List.map_cons, List.map_cons, List.flatMap_cons, String.toList_append, toList_line,
      List.append_assoc]
    exact .cons _ ih

theorem written_separated (settings : Settings) (chosen : List Setting) :
    Written (chosen.map (parts settings))
      ("\n".intercalate (chosen.map fun setting => setting.line settings)).toList := by
  induction chosen with
  | nil => exact .nil
  | cons setting chosen ih =>
    cases chosen with
    | nil =>
      rw [List.map_cons, List.map_nil, List.map_cons, List.map_nil, String.intercalate_singleton,
        toList_line]
      exact .last _
    | cons other chosen =>
      simp only [List.map_cons] at ih ⊢
      rw [String.intercalate_cons_cons, String.toList_append, String.toList_append, toList_line,
        List.append_assoc]
      exact .cons _ ih

/-! ### Fields -/

/-- A setting is among the fields if it was chosen. -/
theorem lookup_fields (settings : Settings) (chosen : List Setting) (setting : Setting) :
    (chosen.map fun setting => (setting.name, setting.found settings)).lookup setting.name =
      if setting ∈ chosen then some (setting.found settings) else none := by
  induction chosen with
  | nil => rfl
  | cons first chosen ih =>
    rw [List.map_cons, List.lookup_cons, ih]
    by_cases same : setting = first
    · simp [same]
    · have differs : (setting.name == first.name) = false :=
        beq_false_of_ne fun equal => same (name_injective equal)
      simp [differs, same]

theorem optional?_fields {α : Type} [Codec α] (chosen : List Setting) (setting : Setting) {value : α}
    (default : α) (reads : decode? (setting.found settings) = some value) :
    Value.optional? (chosen.map fun setting => (setting.name, setting.found settings)) setting.name
      default = some (if setting ∈ chosen then value else default) := by
  rw [Value.optional?, lookup_fields]
  by_cases member : setting ∈ chosen
  · simp only [if_pos member, reads]
  · simp only [if_neg member]

theorem decode?_limit {limit : Nat} (fits : limit ≤ 2 ^ 63 - 1) :
    decode? (encode limit) = some limit := by
  simp only [encode, decode?, Value.intWithin?]
  rw [if_pos (by omega)]
  simp

/-- **What the fields of chosen settings describe**: those settings, and the defaults. -/
theorem ofFields?_chosen (views : settings.maxViews ≤ 2 ^ 63 - 1)
    (popups : settings.maxPopupsPerView ≤ 2 ^ 63 - 1) (chosen : List Setting) :
    Settings.ofFields? (chosen.map fun setting => (setting.name, setting.found settings)) =
      some (settings.only chosen) := by
  have first := optional?_fields chosen .maxViews ({} : Settings).maxViews (decode?_limit views)
  have second := optional?_fields chosen .maxPopupsPerView ({} : Settings).maxPopupsPerView
    (decode?_limit popups)
  have third := optional?_fields chosen .pingOnCreate ({} : Settings).pingOnCreate
    (LawfulCodec.decode?_encode settings.pingOnCreate)
  rw [show name .maxViews = "max_views" from rfl] at first
  rw [show name .maxPopupsPerView = "max_popups_per_view" from rfl] at second
  rw [show name .pingOnCreate = "ping_on_create" from rfl] at third
  rw [Settings.ofFields?]
  simp only [first, second, third, Option.bind_eq_bind, Option.bind_some, Option.pure_def, Settings.only]

/-- A document of the lines of chosen settings describes those settings, and the defaults. -/
theorem ofToml_of_written (views : settings.maxViews ≤ 2 ^ 63 - 1)
    (popups : settings.maxPopupsPerView ≤ 2 ^ 63 - 1) {chosen : List Setting} (distinct : chosen.Nodup)
    {text : String} (written : Written (chosen.map (parts settings)) text.toList) :
    Settings.ofToml text = .ok (settings.only chosen) := by
  have valid : ∀ line ∈ chosen.map (parts settings), line.Valid := by
    rintro line member
    obtain ⟨setting, -, rfl⟩ := List.mem_map.mp member
    exact setting.valid views popups
  have apart : ((chosen.map (parts settings)).map Line.name).Nodup := by
    rw [List.map_map]
    exact distinct.map name_injective
  have fields := written.fields_read valid apart
  rw [String.ofList_toList, List.map_map] at fields
  rw [Settings.ofToml, readAs, fields]
  have described := ofFields?_chosen views popups chosen
  simp only [Function.comp_def, parts, described]

end Lines

end Setting

namespace Settings

/-- All settings make up the settings. -/
theorem only_all (settings : Settings) :
    settings.only [.maxViews, .maxPopupsPerView, .pingOnCreate] = settings := by
  simp [only]

theorem toToml_eq_join (settings : Settings) :
    settings.toToml = String.join (([.maxViews, .maxPopupsPerView, .pingOnCreate] : List Setting).map
      fun setting => setting.line settings ++ "\n") :=
  rfl

/-- **Written settings are read back**, in whole or in part. Settings with limits that are integers of a
document are what their written form describes. Any of the lines, in any order, describe the settings that
they name, with the defaults for the others. -/
theorem written_settings_read_back (settings : Settings) (views : settings.maxViews ≤ 2 ^ 63 - 1)
    (popups : settings.maxPopupsPerView ≤ 2 ^ 63 - 1) :
    ofToml settings.toToml = .ok settings ∧
      ∀ chosen : List Setting, chosen.Nodup →
        ofToml (String.join (chosen.map fun setting => setting.line settings ++ "\n")) =
            .ok (settings.only chosen) ∧
          ofToml ("\n".intercalate (chosen.map fun setting => setting.line settings)) =
            .ok (settings.only chosen) := by
  have lines : ∀ chosen : List Setting, chosen.Nodup →
      ofToml (String.join (chosen.map fun setting => setting.line settings ++ "\n")) =
        .ok (settings.only chosen) := fun chosen distinct =>
    Setting.ofToml_of_written views popups distinct (Setting.written_lines settings chosen)
  refine ⟨?_, fun chosen distinct => ⟨lines chosen distinct, ?_⟩⟩
  · rw [toToml_eq_join, lines _ (by decide), only_all]
  · exact Setting.ofToml_of_written views popups distinct (Setting.written_separated settings chosen)

/-- Settings with the greatest limit. -/
def greatest : Settings where
  maxViews := 9223372036854775807
  maxPopupsPerView := 3
  pingOnCreate := false

/-- They are read from all lines, and two of them from two lines in another order. -/
theorem written_settings_read_back_greatest :
    ofToml greatest.toToml = .ok greatest ∧
      ofToml "ping_on_create = false\nmax_views = 9223372036854775807" =
        .ok { greatest with maxPopupsPerView := 0 } := by
  obtain ⟨whole, part⟩ := written_settings_read_back greatest (by decide) (by decide)
  have text : "\n".intercalate (([.pingOnCreate, .maxViews] : List Setting).map fun setting =>
      setting.line greatest) = "ping_on_create = false\nmax_views = 9223372036854775807" := by
    decide +kernel
  exact ⟨whole, text ▸ (part [.pingOnCreate, .maxViews] (by decide)).2⟩

end Settings

end WindowShell
