/-
**Steps as values.**

A step is written as a record: its kind under `op`, and one field for each of its parts. Some parts
may be left out and then have a default, and fields of other names are ignored. A list that begins with
the kind and goes on with the parts in order describes a step too; parts with a default may be missing
at its end.
-/

import WindowShell.Edges
import WindowShell.Scenario.Step
import WindowShell.Value

namespace WindowShell

instance : Codec Edges where
  encode edges := .text edges.text
  decode?
    | .text text => Edges.ofText? text
    | _ => none

namespace SeatMode

/-- The word for what a seat is doing. -/
def name : SeatMode → String
  | passthrough => "passthrough"
  | move => "move"
  | resize => "resize"
  | rotate => "rotate"

/-- What a word says a seat is doing. -/
def ofName? (word : String) : Option SeatMode :=
  [passthrough, move, resize, rotate].find? fun mode => mode.name = word

end SeatMode

/-- A mode is written as its word; a record whose only field has that name and an empty content is
read as well. -/
instance : Codec SeatMode where
  encode mode := .text mode.name
  decode?
    | .text word => SeatMode.ofName? word
    | .record [(word, .record [])] | .record [(word, .list [])] => SeatMode.ofName? word
    | _ => none

namespace Step

/-- The fields of two lengths. -/
def sizeFields (size : Extent) : List (String × Value) :=
  [("width", encode size.width), ("height", encode size.height)]

/-- Two lengths from their fields. -/
def size? (fields : List (String × Value)) : Option Extent := do
  return {
    width := ← Value.required? fields "width"
    height := ← Value.required? fields "height" }

/-- A position from its fields. -/
def position? (fields : List (String × Value)) : Option Point := do
  return { x := ← Value.required? fields "x", y := ← Value.required? fields "y" }

/-- The word for the kind of a step. -/
def op : Step → String
  | newToplevel _ => "new_toplevel"
  | newPopup _ _ _ => "new_popup"
  | setMinSize _ _ => "set_min_size"
  | setMaxSize _ _ => "set_max_size"
  | ack _ _ => "ack"
  | commit _ _ _ _ => "commit"
  | requestMove _ _ => "request_move"
  | requestResize _ _ _ => "request_resize"
  | requestMaximize _ _ => "request_maximize"
  | requestFullscreen _ _ _ => "request_fullscreen"
  | destroy _ => "destroy"
  | activate _ _ => "activate"
  | resize _ _ => "resize"
  | moveResize _ _ _ => "move_resize"
  | maximize _ _ => "maximize"
  | fullscreen _ _ => "fullscreen"
  | close _ => "close"
  | destroyView _ => "destroy_view"

/-- The fields of the parts of a step, besides its surface. -/
def partFields : Step → List (String × Value)
  | newToplevel _ | destroy _ | close _ | destroyView _ => []
  | newPopup _ parent geometry => [("parent", encode parent), ("geometry", encode geometry)]
  | setMinSize _ size | setMaxSize _ size | resize _ size => sizeFields size
  | ack _ serial => [("serial", encode serial)]
  | commit _ buffer removeBuffer geometry =>
    [ ("buffer", encode buffer), ("remove_buffer", encode removeBuffer),
      ("geometry", encode geometry) ]
  | requestMove _ seat => [("seat", encode seat)]
  | requestResize _ seat edges => [("seat", encode seat), ("edges", encode edges)]
  | requestMaximize _ maximized | maximize _ maximized => [("maximized", encode maximized)]
  | requestFullscreen _ entered output =>
    [("fullscreen", encode entered), ("output", encode output)]
  | activate _ active => [("active", encode active)]
  | moveResize _ position size =>
    [("x", encode position.x), ("y", encode position.y)] ++ sizeFields size
  | fullscreen _ entered => [("fullscreen", encode entered)]

/-- The fields of a step. -/
def fields (step : Step) : List (String × Value) :=
  [("op", .text step.op), ("surface", encode step.surface)] ++ step.partFields

/-- The step that fields describe. -/
def ofFields? (fields : List (String × Value)) : Option Step := do
  let op : String ← Value.required? fields "op"
  let surface : SurfaceId ← Value.required? fields "surface"
  match op with
  | "new_toplevel" => return newToplevel surface
  | "new_popup" =>
    return newPopup surface (← Value.required? fields "parent")
      (← Value.optional? fields "geometry" {})
  | "set_min_size" => return setMinSize surface (← size? fields)
  | "set_max_size" => return setMaxSize surface (← size? fields)
  | "ack" => return ack surface (← Value.nullable? fields "serial")
  | "commit" =>
    return commit surface (← Value.nullable? fields "buffer")
      (← Value.optional? fields "remove_buffer" false) (← Value.nullable? fields "geometry")
  | "request_move" => return requestMove surface (← Value.required? fields "seat")
  | "request_resize" =>
    return requestResize surface (← Value.required? fields "seat")
      (← Value.optional? fields "edges" {})
  | "request_maximize" => return requestMaximize surface (← Value.required? fields "maximized")
  | "request_fullscreen" =>
    return requestFullscreen surface (← Value.required? fields "fullscreen")
      (← Value.nullable? fields "output")
  | "destroy" => return destroy surface
  | "activate" => return activate surface (← Value.required? fields "active")
  | "resize" => return resize surface (← size? fields)
  | "move_resize" => return moveResize surface (← position? fields) (← size? fields)
  | "maximize" => return maximize surface (← Value.required? fields "maximized")
  | "fullscreen" => return fullscreen surface (← Value.required? fields "fullscreen")
  | "close" => return close surface
  | "destroy_view" => return destroyView surface
  | _ => none

/-- The names of the parts of a step of some kind, in order. -/
def partNames : String → List String
  | "new_popup" => ["parent", "geometry"]
  | "set_min_size" | "set_max_size" | "resize" => ["width", "height"]
  | "ack" => ["serial"]
  | "commit" => ["buffer", "remove_buffer", "geometry"]
  | "request_move" => ["seat"]
  | "request_resize" => ["seat", "edges"]
  | "request_maximize" | "maximize" => ["maximized"]
  | "request_fullscreen" => ["fullscreen", "output"]
  | "activate" => ["active"]
  | "move_resize" => ["x", "y", "width", "height"]
  | "fullscreen" => ["fullscreen"]
  | _ => []

/-- The step that a list describes: its kind, its surface, and its parts in order. -/
def ofList? : List Value → Option Step
  | .text op :: items =>
    let names := "surface" :: partNames op
    if items.length ≤ names.length then ofFields? (("op", .text op) :: names.zip items) else none
  | _ => none

end Step

instance : Codec Step where
  encode step := .record step.fields
  decode?
    | .record fields => Step.ofFields? fields
    | .list items => Step.ofList? items
    | _ => none

end WindowShell
