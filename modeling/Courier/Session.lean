import Courier.Digest.Challenge
import Courier.Error
import Courier.Registry
import Courier.Request
import Courier.Transport.Exchange
/-!
Sessions. A session keeps the cookies and credentials of one job and shares them with no other.
Credentials belong to one host and port: requests to these carry them from the start, and a digest
challenge to such a request is answered once. A login by form sends its steps in order and stops at
the first that does not succeed.
-/
namespace Courier

/-- What a session takes from its surroundings: the time in seconds since the start of 1970, and the
nonce that answers to challenges use. -/
structure Surroundings where
  now : Int
  clientNonce : String
  deriving DecidableEq, Repr

structure Credentials where
  host : String
  port : Option Nat
  username : String
  password : String
  deriving DecidableEq, Repr

namespace Credentials

def appliesTo (credentials : Credentials) (url : Url) : Bool :=
  url.hostText? == some credentials.host && url.effectivePort? == credentials.port

def basic (credentials : Credentials) : String :=
  "Basic " ++ String.ofList
    (Base64.encode (Utf8.bytes (credentials.username ++ ":" ++ credentials.password)))

end Credentials

structure Session where
  /-- Milliseconds to wait for a response. -/
  timeout : Nat
  wire : Wire
  credentials : Option Credentials := none
  deriving DecidableEq, Repr

namespace Session

def start (timeout : Nat) (network : Network) : Session := { timeout, wire := { network } }

def install (session : Session) (target : Url) (username password : String) : Session :=
  { session with
    credentials := some {
      host := target.hostText?.getD ""
      port := target.effectivePort?
      username
      password } }

def message (request : Request) (authorization : Option String) : Except UrlReason Message :=
  let headers := request.headers ++ (authorization.map fun value => ("Authorization", value)).toList
  match Strict.check request.url with
  | .error fault => .error (.unsendable fault)
  | .ok () =>
    match headers.findSome? Header.fault? with
    | some fault => .error (.header fault)
    | none => .ok { method := request.method, headers, body := request.body }

def interrupted (session : Session) (url : String) : Interruption → TransportError :=
  .ofInterruption url session.timeout

def run (around : Surroundings) (session : Session) (request : Request)
    (authorization : Option String) : Except Error Response × Session :=
  match message request authorization with
  | .error reason => (.error (.configuration (.invalidUrl request.url reason)), session)
  | .ok message =>
    match Destination.ofText? request.url with
    | none => (.error (.transport (.request request.url (.missingScheme request.url))), session)
    | some destination =>
      match session.wire.exchange around.now destination message with
      | (.ok response, wire) => (.ok response, { session with wire })
      | (.error interruption, wire) =>
        (.error (.transport (session.interrupted request.url interruption)), { session with wire })

/-- The credentials for a request: those of its host and port, unless it has some of its own. -/
def credentialsFor (session : Session) (url : Url) (request : Request) : Option Credentials :=
  session.credentials.filter fun credentials =>
    credentials.appliesTo url && (Header.values "authorization" request.headers).isEmpty

def challenge? (response : Response) : Option Digest.Challenge :=
  ((Header.values "www-authenticate" response.headers).filter Header.isReadable).findSome?
    Digest.Challenge.parse?

def answer? (around : Surroundings) (credentials : Credentials) (url : Url) (request : Request)
    (response : Response) : Option String :=
  if response.status = 401 then
    (challenge? response).map fun challenge =>
      challenge.authorization request.method.name url.target credentials.username
        credentials.password around.clientNonce
  else none

/-- Sends a request; when credentials for it are refused with a challenge, sends it once more with
the answer. -/
def send (around : Surroundings) (session : Session) (request : Request) :
    Except Error Response × Session :=
  match Request.parseUrl request.url with
  | .error error => (.error (.configuration error), session)
  | .ok url =>
    let credentials := session.credentialsFor url request
    match session.run around request (credentials.map Credentials.basic) with
    | (.error error, session) => (.error error, session)
    | (.ok response, session) =>
      match credentials.bind fun known => answer? around known url request response with
      | none => (.ok response, session)
      | some authorization => session.run around request (some authorization)

def isSuccess (status : Nat) : Bool := 200 ≤ status && status < 300

def sendSteps (around : Surroundings) (key : String) (session : Session) :
    (number : Nat) → List Request → Except Error Unit × Session
  | _, [] => (.ok (), session)
  | number, request :: rest =>
    match session.send around request with
    | (.error error, session) => (.error error, session)
    | (.ok response, session) =>
      if isSuccess response.status then sendSteps around key session (number + 1) rest
      else
        (.error (.stepFailed {
          key
          step := number
          method := request.method.name
          url := request.url
          status := response.status }), session)

/-- Logs in by form. Every step is built before the first is sent. -/
def logIn (around : Surroundings) (session : Session) (key : String) (steps : List LoginStep) :
    Except Error Unit × Session :=
  match steps.mapM Request.ofStep with
  | .error error => (.error (.configuration error), session)
  | .ok requests => session.sendSteps around key 1 requests

def prepare (around : Surroundings) (session : Session) (target : Url) :
    Option Authentication → Except Error Unit × Session
  | none => (.ok (), session)
  | some (.password _ username password) => (.ok (), session.install target username password)
  | some (.form key steps) => session.logIn around key steps

inductive Step where
  | install (target : Url) (username password : String)
  | prepare (target : Url) (entry : Option Authentication)
  | send (request : Request)
  deriving DecidableEq, Repr

/-- What comes of a step, with the response if it has one, and the session after it. A session goes
on after an error. -/
def step (around : Surroundings) (session : Session) :
    Step → Except Error (Option Response) × Session
  | .install target username password => (.ok none, session.install target username password)
  | .prepare target entry =>
    let (outcome, session) := session.prepare around target entry
    (outcome.map fun _ => none, session)
  | .send request =>
    let (outcome, session) := session.send around request
    (outcome.map some, session)

end Session
end Courier
