/-
**Clients to start from.**

Shells that have come some way already: with seats, with a window that is visible, with a window that
declared a least size, and with a window that has popups. Pings are off, and what the way there left in
the outbox and in the log is cleared.
-/

import WindowShell.Client

namespace WindowShell.Client

/-- The seat that is idle. -/
def idleSeat : SeatId := ⟨0⟩

/-- The seat that is moving something. -/
def busySeat : SeatId := ⟨1⟩

/-- A shell with one idle and one busy seat. -/
def withSeats : Client :=
  (withSettings { pingOnCreate := false }).after <|
    changeDesktop fun desktop =>
      (desktop.setSeatMode idleSeat .passthrough).setSeatMode busySeat .move

/-- The window of the fixtures. -/
def window : SurfaceId := ⟨1⟩

/-- A shell with one visible window of 800 by 600. -/
def withWindow : Client :=
  withSeats.after do
    let _ ← mapToplevel { width := 800, height := 600 }
    let _ ← takeEvents
    let _ ← takeMessages

/-- A shell whose visible window has declared a least size and committed it. -/
def withBounds (min : Extent) : Client :=
  withWindow.after do
    request (.setMinSize window min)
    request (.commit window {})
    let _ ← takeEvents

/-- The place of a popup in a row of popups. -/
def popupPlace (index : Nat) : Rectangle :=
  { origin := { x := Int32.ofNat (10 * index), y := 10 }, size := { width := 100, height := 80 } }

/-- A shell whose visible window has so many visible popups. -/
def withPopups (count : Nat) : Client :=
  withWindow.after do
    for index in List.range count do
      let popup ← createPopup window (popupPlace index)
      mapSurface popup { width := 100, height := 80 }
    let _ ← takeEvents
    let _ ← takeMessages

end WindowShell.Client
