/-
**Messages and events as values.**

A message to the client and an event of the desktop are written as records that name their kind, with
one field for each part.
-/

import WindowShell.Scenario.StepFormat

namespace WindowShell

instance : Codec Serial where
  encode serial := encode serial.val
  decode? value := (decode? value).bind Serial.ofRaw?

namespace ToplevelState

/-- The fields of a window state. -/
def fields (state : ToplevelState) : List (String × Value) :=
  [ ("width", encode state.size.width), ("height", encode state.size.height),
    ("maximized", encode state.maximized), ("fullscreen", encode state.fullscreen),
    ("activated", encode state.activated) ]

/-- A window state as a value. -/
def toValue (state : ToplevelState) : Value := .record state.fields

end ToplevelState

/-- What a configure proposes, as a value. -/
def Payload.toValue : Payload → Value
  | toplevel state => .record (("role", .text "toplevel") :: state.fields)
  | popup geometry =>
    .record
      [ ("role", .text "popup"), ("x", encode geometry.origin.x), ("y", encode geometry.origin.y),
        ("width", encode geometry.size.width), ("height", encode geometry.size.height) ]

/-- A configure as a value. -/
def Configure.toValue (configure : Configure) : Value :=
  .record [("serial", encode configure.serial), ("payload", configure.payload.toValue)]

/-- A message to the client as a value. -/
def Message.toValue : Message → Value
  | configure surface sent =>
    .record
      [ ("message", .text "configure"), ("surface", encode surface),
        ("configure", sent.toValue) ]
  | close surface => .record [("message", .text "close"), ("surface", encode surface)]
  | popupDone surface => .record [("message", .text "popup_done"), ("surface", encode surface)]
  | ping surface serial =>
    .record
      [("message", .text "ping"), ("surface", encode surface), ("serial", encode serial)]

/-- An event of the desktop as a value. -/
def Event.toValue : Event → Value
  | viewCreated view => .record [("event", .text "view_created"), ("view", encode view)]
  | beginMove seat view =>
    .record [("event", .text "begin_move"), ("seat", encode seat), ("view", encode view)]
  | beginResize seat view edges =>
    .record
      [ ("event", .text "begin_resize"), ("seat", encode seat), ("view", encode view),
        ("edges", encode edges) ]
  | damaged view => .record [("event", .text "damaged"), ("view", encode view)]
  | fullyDamaged view => .record [("event", .text "fully_damaged"), ("view", encode view)]
  | mapped view size =>
    .record
      [ ("event", .text "mapped"), ("view", encode view), ("width", encode size.width),
        ("height", encode size.height) ]
  | unmapped view => .record [("event", .text "unmapped"), ("view", encode view)]
  | destroyed view => .record [("event", .text "destroyed"), ("view", encode view)]
  | moved view position =>
    .record
      [ ("event", .text "moved"), ("view", encode view), ("x", encode position.x),
        ("y", encode position.y) ]
  | resized view size =>
    .record
      [ ("event", .text "resized"), ("view", encode view), ("width", encode size.width),
        ("height", encode size.height) ]
  | maximizeRequested view maximized =>
    .record
      [ ("event", .text "maximize_requested"), ("view", encode view),
        ("maximized", encode maximized) ]
  | fullscreenRequested view fullscreen output =>
    .record
      [ ("event", .text "fullscreen_requested"), ("view", encode view),
        ("fullscreen", encode fullscreen), ("output", encode output) ]

/-- The word for how far a popup has come. -/
def PopupState.name : PopupState → String
  | created => "created"
  | mapped => "mapped"
  | unmapped => "unmapped"

end WindowShell
