import Courier.Transport.Network
/-!
Sending one message and following redirects. Each hop takes one reply and leaves one trace; cookies
of every response go into the jar, and credentials are never taken along to another hop. At most
ten redirects are followed.
-/
namespace Courier

structure Message where
  method : Method
  headers : List Header
  body : Option String
  deriving DecidableEq, Repr

namespace Message

def authorizationName : String := "authorization"

def hasAuthorization (message : Message) : Bool :=
  !(Header.values authorizationName message.headers).isEmpty

def withoutAuthorization (message : Message) : Message :=
  { message with
    headers := message.headers.filter fun header => !sameIgnoringCase header.1 authorizationName }

def addressed (message : Message) (destination : Destination) : Message :=
  match destination.authorization? with
  | some authorization =>
    if message.hasAuthorization then message
    else { message with headers := message.headers ++ [(authorizationName, authorization)] }
  | none => message

def withCookies (message : Message) (jar : Jar) (destination : Destination) : Message :=
  match jar.header? destination.cookiePlace with
  | some cookies => { message with headers := message.headers ++ [("cookie", cookies)] }
  | none => message

/-- The order of cookies within a field says nothing, so they are put in that of their text. -/
def sortCookies (value : String) : String :=
  joinTexts "; " (((splitAt ';' value.toList).map fun piece => String.ofList (trim piece)).mergeSort
    fun left right => left ≤ right)

def arrivingHeader (header : Header) : Header :=
  let name := asciiLowerText header.1
  let value := String.ofList (trim header.2.toList)
  (name, if name = "cookie" then sortCookies value else value)

def arrival (message : Message) (destination : Destination) : Arrival where
  method := message.method
  destination
  headers := Header.sorted (message.headers.map arrivingHeader)
  body := message.body.getD ""

def redirected? (message : Message) (status : Nat) : Option Message :=
  let kept := message.withoutAuthorization
  if status = 307 ∨ status = 308 then
    match message.method with
    | .post | .put | .patch | .delete => none
    | _ => some kept
  else
    match message.method with
    | .head => some kept
    | _ => some { kept with method := .get, body := none }

end Message

namespace Response

def isRedirect (response : Response) : Bool :=
  300 ≤ response.status && response.status < 400 && response.status ≠ 304

def hasBody (response : Response) (method : Method) : Bool :=
  method ≠ .head && response.status ≠ 204 && response.status ≠ 304

/-- The response as the client sees it: names in lower case, values without blanks around them, and
an empty body where there is none. -/
def received (response : Response) (method : Method) : Response :=
  { response with
    headers := response.headers.map fun header =>
      (asciiLowerText header.1, String.ofList (trim header.2.toList))
    delivery := if response.hasBody method then response.delivery else .whole [] }

end Response

namespace Wire

def hop (now : Int) (wire : Wire) (destination : Destination) (message : Message) :
    Except Interruption Response × Wire :=
  let message := (message.addressed destination).withCookies wire.jar destination
  match wire.network.next? with
  | none => (.error (.fault .unreachable), wire)
  | some (reply, network) =>
    if (Header.values Message.authorizationName message.headers).any (!Header.isReadable ·) then
      (.error (.fault .unreadableAuthorization), wire)
    else
      let arrived := wire.traces ++ [.arrived (message.arrival destination)]
      match reply with
      | .refuse =>
        (.error (.fault .refused), { wire with
          network
          traces := wire.traces ++ [.refused destination] })
      | .close => (.error (.fault .disconnected), { wire with network, traces := arrived })
      | .stall => (.error .timeout, { wire with network, traces := arrived })
      | .answer response =>
        let response := response.received message.method
        (.ok response, {
          network
          jar := wire.jar.receiveAll now destination.cookiePlace response.headers
          traces := arrived })

def next (destination : Destination) (message : Message) (response : Response) :
    Except RequestFault (Destination × Message) :=
  match Header.value? "location" response.headers with
  | none => .error .missingLocation
  | some location =>
    match message.redirected? response.status with
    | none => .error .redirectFailed
    | some message =>
      match destination.redirect? location with
      | none => .error (.unreadableLocation location)
      | some destination => .ok (destination, message)

def follow (now : Int) (wire : Wire) (destination : Destination) (message : Message) :
    (redirects : Nat) → Except Interruption Response × Wire
  | 0 =>
    match wire.hop now destination message with
    | (.ok response, wire) =>
      if response.isRedirect then (.error (.fault .tooManyRedirects), wire) else (.ok response, wire)
    | other => other
  | redirects + 1 =>
    match wire.hop now destination message with
    | (.ok response, wire) =>
      if response.isRedirect then
        match next destination message response with
        | .ok (destination, message) => follow now wire destination message redirects
        | .error fault => (.error (.fault fault), wire)
      else (.ok response, wire)
    | other => other

def greatestRedirects : Nat := 10

def exchange (now : Int) (wire : Wire) (destination : Destination) (message : Message) :
    Except Interruption Response × Wire := follow now wire destination message greatestRedirects

end Wire
end Courier
