/-
**Settings as a TOML document.**

Each setting is a field of its own and may be left out; fields with other names are ignored. The
written form has one line for each setting.
-/

import WindowShell.Settings
import WindowShell.Toml.ReadError

namespace WindowShell.Settings

/-- The settings that fields describe. -/
def ofFields? (fields : List (String × Value)) : Option Settings := do
  let defaults : Settings := {}
  return {
    maxViews := ← Value.optional? fields "max_views" defaults.maxViews
    maxPopupsPerView := ← Value.optional? fields "max_popups_per_view" defaults.maxPopupsPerView
    pingOnCreate := ← Value.optional? fields "ping_on_create" defaults.pingOnCreate }

/-- The settings a text describes. -/
def ofToml (text : String) : Except Toml.ReadError Settings := Toml.readAs ofFields? text

/-- The lines of the written form. -/
def lines (settings : Settings) : List String :=
  [ s!"max_views = {settings.maxViews}\n",
    s!"max_popups_per_view = {settings.maxPopupsPerView}\n",
    s!"ping_on_create = {settings.pingOnCreate}\n" ]

/-- The settings written as a document. -/
def toToml (settings : Settings) : String := String.join settings.lines

instance : Codec Settings where
  encode settings :=
    .record
      [ ("max_views", encode settings.maxViews),
        ("max_popups_per_view", encode settings.maxPopupsPerView),
        ("ping_on_create", encode settings.pingOnCreate) ]
  decode? value := value.fields?.bind ofFields?

end WindowShell.Settings
