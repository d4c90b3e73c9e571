import Courier.Capture
import Courier.Media
import Courier.Transport.Destination
/-!
The other side of the wire. To a network that cannot be reached no connection can be made; one that
follows a script gives each request the next reply of a list, and closes connections when the list
is used up. What arrives is recorded.
-/
namespace Courier

structure Response where
  status : Nat
  headers : List Header
  delivery : Delivery
  deriving DecidableEq, Repr

inductive Reply where
  | answer (response : Response)
  /-- The request arrives and the connection is closed. -/
  | close
  /-- The connection is refused before the request can arrive. -/
  | refuse
  /-- The request arrives and nothing ever comes back. -/
  | stall
  deriving DecidableEq, Repr

inductive Network where
  | unreachable
  | scripted (replies : List Reply)
  deriving DecidableEq, Repr

def Network.next? : Network → Option (Reply × Network)
  | .unreachable => none
  | .scripted [] => some (.close, .scripted [])
  | .scripted (reply :: rest) => some (reply, .scripted rest)

structure Arrival where
  method : Method
  destination : Destination
  headers : List Header
  body : String
  deriving DecidableEq, Repr

inductive Trace where
  | arrived (arrival : Arrival)
  | refused (destination : Destination)
  deriving DecidableEq, Repr

structure Wire where
  network : Network
  jar : Jar := {}
  /-- In the order of arrival. -/
  traces : List Trace := []
  deriving DecidableEq, Repr

end Courier
