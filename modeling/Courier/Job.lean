import Courier.Media
import Courier.Text.Blank
/-!
Job definitions: what request to send, how to log in for it, what response counts as success and
what to do with its body. Everything but the URL has a default.
-/
namespace Courier

structure Pair where
  name : String
  value : String
  deriving DecidableEq, Repr

structure LoginStep where
  url : String
  method : Method := .get
  params : List Pair := []
  deriving DecidableEq, Repr

def defaultAcceptedCodes : String := "100:399"

structure Job where
  url : String
  method : Method := .get
  contentType : MediaType := .notSet
  acceptType : MediaType := .notSet
  headers : List Pair := []
  params : List Pair := []
  /-- Zero stands for the default. -/
  timeoutSeconds : Nat := 0
  authenticationKey : Option String := none
  acceptedCodes : String := defaultAcceptedCodes
  requiredContent : Option String := none
  logBody : Bool := false
  captureBody : Bool := true
  outputFile : Option String := none
  /-- Zero stands for the default. -/
  maxBodyBytes : Nat := 0
  deriving DecidableEq, Repr

namespace Job

/-- Seconds to wait for a response. -/
def timeout (job : Job) : Nat := if job.timeoutSeconds = 0 then 60 else job.timeoutSeconds

/-- The most bytes of a response body that are read. -/
def bodyLimit (job : Job) : Nat :=
  if job.maxBodyBytes = 0 then 256 * 1024 * 1024 else job.maxBodyBytes

/-- The authentication asked for; a blank key asks for none. -/
def authentication? (job : Job) : Option String :=
  job.authenticationKey.filter fun key => !isBlankText key

inductive Edit where
  | method (method : Method)
  | contentType (media : MediaType)
  | acceptType (media : MediaType)
  | header (name value : String)
  | param (name value : String)
  | timeoutSeconds (seconds : Nat)
  | authentication (key : String)
  | acceptedCodes (codes : String)
  | requiredContent (content : String)
  | logBody (enabled : Bool)
  | captureBody (enabled : Bool)
  | outputFile (path : String)
  | maxBodyBytes (limit : Nat)
  deriving DecidableEq, Repr

/-- Headers and parameters are added at the end; every other edit replaces what was there. -/
def edit (job : Job) : Edit → Job
  | .method method => { job with method }
  | .contentType media => { job with contentType := media }
  | .acceptType media => { job with acceptType := media }
  | .header name value => { job with headers := job.headers ++ [⟨name, value⟩] }
  | .param name value => { job with params := job.params ++ [⟨name, value⟩] }
  | .timeoutSeconds seconds => { job with timeoutSeconds := seconds }
  | .authentication key => { job with authenticationKey := some key }
  | .acceptedCodes codes => { job with acceptedCodes := codes }
  | .requiredContent content => { job with requiredContent := some content }
  | .logBody enabled => { job with logBody := enabled }
  | .captureBody enabled => { job with captureBody := enabled }
  | .outputFile path => { job with outputFile := some path }
  | .maxBodyBytes limit => { job with maxBodyBytes := limit }

def build (url : String) (edits : List Edit) : Job := edits.foldl edit { url }

end Job
end Courier
