/-
**Owners of listeners.**

Whoever registers a listener holds it, alone or in a set, and giving it up releases the registration.
A holder keeps single listeners and sets under names; a name that is used again gives up what it held
before, once the new listener is in place. The registry itself may go away first, and then giving up
a listener does nothing.
-/

import WindowShell.Registry

namespace WindowShell

/-- Named listeners and named sets of listeners, and the registry they are registered with while
there is one. -/
structure Handles where
  /-- The registry, until it is dropped. -/
  registry : Option Registry := some {}
  /-- The listeners that are held alone. -/
  single : Table String ListenerId := .empty
  /-- The sets of listeners. -/
  sets : Table String (List ListenerId) := .empty
deriving DecidableEq

/-- Something a holder of listeners may do. -/
inductive HandleOp
  /-- Registers a listener and holds it under a name. -/
  | subscribe (name : String) (registration : Registration)
  /-- Gives up the listener of a name. -/
  | drop (name : String)
  /-- Registers one listener for each kind of signal and holds them as the set of a name. -/
  | install (name : String) (surface : SurfaceId) (target : ListenerTarget)
    (kinds : List SignalKind)
  /-- Moves the listener of a name into a set, which is made if there is none. -/
  | push (set : String) (listener : String)
  /-- Gives up all listeners of a set and keeps the set. -/
  | release (set : String)
  /-- Gives up a set. -/
  | dropSet (set : String)
  /-- Drops the registry. -/
  | dropRegistry
deriving DecidableEq

namespace Handles

/-- Releases registrations, if the registry is still there. -/
def giveUp (handles : Handles) (ids : List ListenerId) : Handles :=
  { handles with registry := handles.registry.map (·.releaseAll ids) }

/-- The listener held alone under a name. -/
def held (handles : Handles) (name : String) : List ListenerId :=
  (handles.single.get? name).toList

/-- The listeners of a set; an unknown set has none. -/
def members (handles : Handles) (set : String) : List ListenerId :=
  (handles.sets.get? set).getD []

/-- Every listener that is held, alone or in a set. -/
def allHeld (handles : Handles) : List ListenerId :=
  handles.single.values ++ handles.sets.values.flatten

/-- Performs one operation. Without a registry nothing can be registered, and without a listener
nothing is given up or moved. -/
def step (handles : Handles) : HandleOp → Handles
  | .subscribe name registration =>
    match handles.registry with
    | none => handles
    | some registry =>
      let (registry, id) := registry.subscribe registration
      giveUp { handles with registry, single := handles.single.insert name id } (handles.held name)
  | .drop name =>
    giveUp { handles with single := handles.single.erase name } (handles.held name)
  | .install name surface target kinds =>
    match handles.registry with
    | none => handles
    | some registry =>
      let (registry, ids) := registry.install surface target kinds
      giveUp { handles with registry, sets := handles.sets.insert name ids } (handles.members name)
  | .push set listener =>
    match handles.single.get? listener with
    | none => handles
    | some id =>
      { handles with
        single := handles.single.erase listener
        sets := handles.sets.insert set (handles.members set ++ [id]) }
  | .release set =>
    giveUp { handles with sets := handles.sets.modify set fun _ => [] } (handles.members set)
  | .dropSet set =>
    giveUp { handles with sets := handles.sets.erase set } (handles.members set)
  | .dropRegistry => { handles with registry := none }

/-- Performs operations one after the other. -/
def run (handles : Handles) (operations : List HandleOp) : Handles := operations.foldl step handles

end Handles

end WindowShell
