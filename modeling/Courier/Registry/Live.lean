import Courier.Registry
/-!
Registries in use. Every change that is accepted publishes a new table and leaves the ones published
before as they are, so that a snapshot shows the table that was current when it was taken.
-/
namespace Courier.Registry

inductive Change where
  | add (entry : Authentication)
  | remove (key : String)
  | replaceAll (entries : List Authentication)
  deriving DecidableEq, Repr

inductive Reply where
  | accepted
  /-- The entry that was taken out, if there was one. -/
  | removed (entry : Option Authentication)
  | refused (error : ConfigurationError)
  deriving DecidableEq, Repr

def accepting : Except ConfigurationError Registry → Reply × Option Registry
  | .ok after => (.accepted, some after)
  | .error error => (.refused error, none)

def apply (registry : Registry) : Change → Reply × Option Registry
  | .add entry => accepting (registry.add entry)
  | .remove key =>
    let (entry, after) := registry.remove key
    (.removed entry, some after)
  | .replaceAll entries => accepting (ofEntries entries)

/-- A registry and all its tables: those that were published before, in order, and the current one. -/
structure Live where
  past : List Registry := []
  current : Registry
  deriving DecidableEq, Repr

namespace Live

def publish (live : Live) (table : Registry) : Live where
  past := live.past ++ [live.current]
  current := table

def change (live : Live) (change : Change) : Reply × Live :=
  match live.current.apply change with
  | (reply, some table) => (reply, live.publish table)
  | (reply, none) => (reply, live)

def snapshot (live : Live) : Nat := live.past.length

def table? (live : Live) (number : Nat) : Option Registry := (live.past ++ [live.current])[number]?

end Live
end Courier.Registry
