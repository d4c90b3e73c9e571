import Courier.Authentication
import Courier.Failure
/-!
The registry of authentications. Keys are not blank and no two are equal; a change that would break
this is refused and leaves the registry as it is. Looking up is by the exact key.
-/
namespace Courier

structure Registry where
  entries : List Authentication := []
  deriving DecidableEq, Repr

namespace Registry

def keyErrorAfter? (seen : List String) : List Authentication → Option ConfigurationError
  | [] => none
  | entry :: rest =>
    if isBlankText entry.key then some .emptyKey
    else if seen.contains entry.key then some (.duplicateKey entry.key)
    else keyErrorAfter? (entry.key :: seen) rest

def keyError? (entries : List Authentication) : Option ConfigurationError := keyErrorAfter? [] entries

def ofEntries (entries : List Authentication) : Except ConfigurationError Registry :=
  match keyError? entries with
  | some error => .error error
  | none => .ok { entries }

def readEntries (text : String) : Except DecodeError (List Authentication) :=
  decodeText (fun _ => Decode.list (Authentication.decode 1)) text

def ofText (text : String) : Except ConfigurationError Registry :=
  match readEntries text with
  | .error error => .error (.invalidRegistry error)
  | .ok entries => ofEntries entries

def lookup? (registry : Registry) (key : String) : Option Authentication :=
  registry.entries.find? fun entry => entry.key == key

def add (registry : Registry) (entry : Authentication) : Except ConfigurationError Registry :=
  ofEntries (registry.entries ++ [entry])

def remove (registry : Registry) (key : String) : Option Authentication × Registry :=
  (registry.lookup? key, { entries := registry.entries.eraseP fun entry => entry.key == key })

def keys (registry : Registry) : List String := registry.entries.map Authentication.key

def toJson (registry : Registry) : Json := .array (registry.entries.map Authentication.toJson)

end Registry
end Courier
