/-
**Rejected client requests.**

A request is rejected because a surface it names does not exist, or because the surface refuses it.
A fault says which, and `Fault.message` is its one wording.
-/

import WindowShell.Surface

namespace WindowShell

/-- Why the shell rejects a client request. -/
inductive Fault
  | unknownSurface (surface : SurfaceId)
  /-- A popup was asked for below a surface that does not exist. -/
  | unknownParent (surface parent : SurfaceId)
  | refused (surface : SurfaceId) (cause : Refusal)
deriving DecidableEq

/-- The wording of a refusal. -/
def Refusal.message (surface : SurfaceId) : Refusal → String
  | roleAlreadyAssigned => s!"surface {surface.label} already has a role"
  | noRole => s!"surface {surface.label} has no role"
  | notToplevel => s!"surface {surface.label} is not a toplevel"
  | invalidSerial serial =>
    s!"surface {surface.label} acked unknown configure serial {serial.toNat}"
  | unconfiguredBuffer =>
    s!"surface {surface.label} attached a buffer before acknowledging a configure"

namespace Fault

/-- The wording of a fault. -/
def message : Fault → String
  | unknownSurface surface => s!"unknown surface {surface.label}"
  | unknownParent surface parent =>
    s!"popup parent {parent.label} of surface {surface.label} does not exist"
  | refused surface cause => cause.message surface

/-- The wording of a fault where faults of other kinds may stand beside it. -/
def report (fault : Fault) : String := "protocol error: " ++ fault.message

end Fault

end WindowShell
