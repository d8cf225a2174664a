/-
**Settings of the shell.**

How many views and popups there may be, and whether new windows are pinged. A limit of zero is no
limit.
-/

namespace WindowShell

/-- The settings; without any, there are no limits and new windows are pinged. -/
structure Settings where
  /-- The greatest number of views; zero is no limit. -/
  maxViews : Nat := 0
  /-- The greatest number of popups on one view; zero is no limit. -/
  maxPopupsPerView : Nat := 0
  /-- Whether a new window is pinged. -/
  pingOnCreate : Bool := true
deriving DecidableEq, Repr

namespace Settings

/-- Whether one more fits below a limit. -/
def fits (limit count : Nat) : Bool := limit = 0 || count < limit

/-- Whether one more view fits. -/
def viewFits (settings : Settings) (count : Nat) : Bool := fits settings.maxViews count

/-- Whether one more popup fits on a view. -/
def popupFits (settings : Settings) (count : Nat) : Bool := fits settings.maxPopupsPerView count

end Settings

end WindowShell
