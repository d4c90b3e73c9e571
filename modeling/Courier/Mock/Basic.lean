import Courier.Transport.Destination
/-!
The mock server's requests, answers and state. The server counts the requests it has handled and
remembers the sessions it has handed out.
-/
namespace Courier.Mock

structure Incoming where
  method : String
  /-- The path as it is written, without decoding. -/
  path : String
  query : Option String
  headers : List Header
  body : List UInt8
  deriving DecidableEq, Repr

def cutUri (uri : String) : String × Option String :=
  match uri.toList with
  | '/' :: rest =>
    let (path, query) := Destination.cutTarget ('/' :: rest)
    (String.ofList path, query.map String.ofList)
  | _ =>
    match Destination.ofText? uri with
    | some destination => (destination.path, destination.query)
    | none => ("", none)

structure Answer where
  status : Nat
  headers : List Header
  body : List UInt8
  /-- Whether the end of the body is ever sent. -/
  ended : Bool := true
  /-- Seconds before the answer begins. -/
  waited : Nat := 0
  deriving DecidableEq, Repr

structure Server where
  hits : UInt64 := 0
  /-- The sessions handed out, in order. -/
  sessions : List String := []
  deriving DecidableEq, Repr

end Courier.Mock
