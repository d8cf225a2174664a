/-
**Settings from files.**

A settings file must exist, be text, and describe settings. When no file is named, the user's own file
is tried and then the one of the system, and a file that cannot be used is passed over.
-/

import WindowShell.Settings.Document

namespace WindowShell

/-- Why a settings file cannot be used. -/
inductive SettingsFileError
  | missing
  /-- The file is not text in UTF-8. -/
  | notText
  /-- The text describes no settings. -/
  | unreadable (error : Toml.ReadError)
deriving DecidableEq, Repr

/-- The wording of a file that cannot be read at all. -/
def SettingsFileError.message? : SettingsFileError → Option String
  | missing => some "failed to read config: No such file or directory (os error 2)"
  | notText => some "failed to read config: stream did not contain valid UTF-8"
  | unreadable _ => none

/-- The contents of files by their paths; a path without a file has none. -/
abbrev Files := String → Option ByteArray

/-- The text of a file. -/
def Files.text? (files : Files) (path : String) : Option String :=
  (files path).bind String.fromUTF8?

/-- The environment variables that say where a user keeps settings. -/
structure Environment where
  configHome : Option String := none
  home : Option String := none
deriving Repr

namespace Settings

/-- The settings in the contents of a file. -/
def ofFile (content : Option ByteArray) : Except SettingsFileError Settings :=
  match content with
  | none => .error .missing
  | some bytes =>
    match String.fromUTF8? bytes with
    | none => .error .notText
    | some text => (ofToml text).mapError .unreadable

/-- A path below a directory. -/
def join (directory path : String) : String :=
  if directory.isEmpty || directory.endsWith "/" then directory ++ path
  else directory ++ "/" ++ path

/-- The directory in which the user keeps settings: the one that is set, else a hidden one in the home
directory. -/
def userDirectory? (environment : Environment) : Option String :=
  environment.configHome.or (environment.home.map (join · ".config"))

/-- The files in which settings are looked for, in order. -/
def candidates (environment : Environment) : List String :=
  ((userDirectory? environment).map (join · "rootshell/config.toml")).toList ++
    ["/etc/rootshell/config.toml"]

/-- The settings of the first file that can be used, or the defaults. -/
def load (environment : Environment) (files : Files) : Settings :=
  ((candidates environment).findSome? fun path => (ofFile (files path)).toOption).getD {}

end Settings

end WindowShell
