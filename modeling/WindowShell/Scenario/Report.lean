/-
**Reports.**

A report says how a replay ended: the views with their popups, all messages to the client, all events
of the desktop, the steps that were rejected, and how many listeners were left. A view should hold one
listener for each signal a view listens to, and likewise a popup, which gives the number of listeners
to expect.
-/

import WindowShell.Scenario.LogFormat

namespace WindowShell

/-- A step that was rejected. -/
structure StepError where
  /-- The place of the step, counted from zero. -/
  step : Nat
  fault : Fault
deriving DecidableEq

/-- How a popup ended. -/
structure PopupReport where
  popup : PopupId
  surface : SurfaceId
  /-- How far it has come. -/
  state : PopupState
deriving DecidableEq

/-- How a view ended. -/
structure ViewReport where
  view : ViewId
  surface : SurfaceId
  position : Point
  size : Size
  mapped : Bool
  /-- The serial whose commit it waits for. -/
  awaited : Option Serial
  /-- Its popups, oldest first. -/
  popups : List PopupReport
deriving DecidableEq

/-- How a replay ended. -/
structure Report where
  /-- The views, oldest first. -/
  views : List ViewReport
  /-- The messages to the client, oldest first. -/
  messages : List Message
  /-- The events of the desktop, oldest first. -/
  events : List Event
  /-- The rejected steps, in order. -/
  errors : List StepError
  /-- How many listeners are live. -/
  listeners : Nat
deriving DecidableEq

/-- The report on a popup, if there is such a popup. -/
def PopupReport.of? (shell : Shell) (popup : PopupId) : Option PopupReport :=
  (shell.popups.get? popup).map fun record =>
    { popup, surface := record.surface, state := record.state }

/-- The report on a view. -/
def ViewReport.of (shell : Shell) (view : ViewId) (record : View) : ViewReport where
  view
  surface := record.surface
  position := record.position
  size := record.size
  mapped := record.mapped
  awaited := record.negotiation.awaited
  popups := record.popups.filterMap (PopupReport.of? shell)

namespace Report

/-- The report on a shell and the steps that it rejected. -/
def of (shell : Shell) (errors : List StepError) : Report where
  views := shell.views.entries.map fun entry => ViewReport.of shell entry.1 entry.2
  messages := shell.outbox
  events := shell.desktop.events
  errors
  listeners := shell.registry.size

/-- How many listeners the views and popups of a report should hold. -/
def expectedListeners (report : Report) : Nat :=
  report.views.length * viewSignals.length +
    (report.views.flatMap fun view => view.popups).length * popupSignals.length

end Report

/-- A rejected step as a value. -/
def StepError.toValue (error : StepError) : Value :=
  .record [("step", .int error.step), ("error", .text error.fault.report)]

/-- The report on a popup as a value. -/
def PopupReport.toValue (report : PopupReport) : Value :=
  .record
    [ ("popup", encode report.popup), ("surface", encode report.surface),
      ("state", .text report.state.name) ]

/-- The report on a view as a value. -/
def ViewReport.toValue (report : ViewReport) : Value :=
  .record
    [ ("view", encode report.view), ("surface", encode report.surface),
      ("x", encode report.position.x), ("y", encode report.position.y),
      ("width", encode report.size.width), ("height", encode report.size.height),
      ("mapped", encode report.mapped), ("awaiting_serial", encode report.awaited),
      ("popups", .list (report.popups.map PopupReport.toValue)) ]

/-- A report as a value. -/
def Report.toValue (report : Report) : Value :=
  .record
    [ ("views", .list (report.views.map ViewReport.toValue)),
      ("messages", .list (report.messages.map Message.toValue)),
      ("desktop", .list (report.events.map Event.toValue)),
      ("errors", .list (report.errors.map StepError.toValue)),
      ("listeners", .int report.listeners) ]

end WindowShell
