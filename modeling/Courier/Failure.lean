import Courier.Header
import Courier.Json.Mismatch
import Courier.Status.Range
import Courier.Url.Basic
import Courier.Url.Strict
/-!
What can go wrong, by cause. A configuration error is found before a request of its own can be
sent; a transport error comes from sending a request or reading its response; a validation error
says why a response does not count as success. Each type has its wording in one place.
-/
namespace Courier

inductive UrlReason where
  | unreadable (error : UrlError)
  | unsupportedScheme (scheme : String)
  | missingHost
  | unsendable (fault : Strict.Fault)
  | header (fault : Header.Fault)
  deriving DecidableEq, Repr

def UrlReason.message : UrlReason → String
  | .unreadable error => error.message
  | .unsupportedScheme scheme => "unsupported scheme '" ++ scheme ++ "'"
  | .missingHost => "missing host"
  | .unsendable fault => fault.message
  | .header fault => fault.message

inductive ConfigurationError where
  | unknownAuthentication (key : String)
  | duplicateKey (key : String)
  | emptyKey
  | invalidRange (error : RangeError)
  | invalidUrl (url : String) (reason : UrlReason)
  | invalidHeader (name : String) (fault : Header.Fault)
  | invalidRegistry (error : DecodeError)
  deriving DecidableEq, Repr

/-- The wording of a decoding error; a flawed text has none of its own. -/
def DecodeError.message : DecodeError → String
  | .flaw .ended => "the text ends too early"
  | .flaw .malformed => "the text is not JSON"
  | .mismatch cause => cause.message

def ConfigurationError.message : ConfigurationError → String
  | .unknownAuthentication key => "authentication '" ++ key ++ "' doesn't exist"
  | .duplicateKey key => "authentication key name '" ++ key ++ "' must be unique"
  | .emptyKey => "authentication key name must not be empty"
  | .invalidRange error => error.message
  | .invalidUrl url reason => "invalid URL '" ++ url ++ "': " ++ reason.message
  | .invalidHeader name fault => "invalid header '" ++ name ++ "': " ++ fault.message
  | .invalidRegistry error => "invalid authentication registry: " ++ error.message

inductive RequestFault where
  /-- No connection can be made at all. -/
  | unreachable
  /-- The other side closed the connection before it said everything. -/
  | disconnected
  /-- The way to the other side was refused. -/
  | refused
  | tooManyRedirects
  /-- A redirect asks for a request to be repeated that cannot be. -/
  | redirectFailed
  | missingLocation
  | unreadableAuthorization
  | missingScheme (url : String)
  | unreadableLocation (location : String)
  deriving DecidableEq, Repr

def RequestFault.message : RequestFault → String
  | .unreachable => "io: Network is unreachable (os error 101)"
  | .disconnected => "io: Peer disconnected"
  | .refused => "CONNECT proxy failed: proxy server responded 503/503"
  | .tooManyRedirects => "too many redirects"
  | .redirectFailed => "redirect failed"
  | .missingLocation => "protocol: missing a location header"
  | .unreadableAuthorization => "protocol: authorization header is not a string"
  | .missingScheme url => "bad uri: " ++ url ++ " is missing scheme"
  | .unreadableLocation location => "protocol: location header is malformed: " ++ location

inductive Interruption where
  | timeout
  | exceedsLimit (limit : Nat)
  | fault (fault : RequestFault)
  deriving DecidableEq, Repr

inductive TransportError where
  | timeout (url : String) (milliseconds : Nat)
  | bodyTooLarge (url : String) (limit : Nat)
  | request (url : String) (fault : RequestFault)
  deriving DecidableEq, Repr

/-- What an interruption becomes for whoever sent the request to that URL and waited so long. -/
def TransportError.ofInterruption (url : String) (milliseconds : Nat) :
    Interruption → TransportError
  | .timeout => .timeout url milliseconds
  | .exceedsLimit limit => .bodyTooLarge url limit
  | .fault fault => .request url fault

/-- Times are told in whole seconds. -/
def TransportError.message : TransportError → String
  | .timeout url milliseconds =>
    "request to " ++ url ++ " timed out after " ++ toString (milliseconds / 1000) ++ "s"
  | .bodyTooLarge url limit =>
    "response body from " ++ url ++ " exceeds " ++ toString limit ++ " bytes"
  | .request url fault => "request to " ++ url ++ " failed: " ++ fault.message

def TransportError.isTimeout : TransportError → Bool
  | .timeout .. => true
  | _ => false

structure StepFailure where
  key : String
  /-- Steps are counted from one. -/
  step : Nat
  method : String
  url : String
  status : Nat
  deriving DecidableEq, Repr

def StepFailure.message (failure : StepFailure) : String :=
  "authentication '" ++ failure.key ++ "' step " ++ toString failure.step ++ " (" ++
    failure.method ++ " " ++ failure.url ++ ") returned status " ++ toString failure.status

inductive ValidationError where
  | status (status : Nat) (accepted : RangeSet)
  | content (length : Nat) (required : String)
  deriving DecidableEq, Repr

def ValidationError.message : ValidationError → String
  | .status code accepted =>
    "Fail: the returned code " ++ toString code ++ " is not in the accepted range: " ++ accepted.text
  | .content length required =>
    "Fail: Response with length " ++ toString length ++ " doesn't contain '" ++ required ++ "'"

end Courier
