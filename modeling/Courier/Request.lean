import Courier.Failure
import Courier.Form
import Courier.Job
import Courier.Url.Parser
/-!
Requests built from job definitions. Parameters travel in the body for methods that send one and
are appended to the query otherwise. The headers are the content type, the accepted type and then
the job's own headers, in order and unchanged.
-/
namespace Courier

structure Request where
  method : Method
  url : String
  headers : List Header := []
  body : Option String := none
  deriving DecidableEq, Repr

namespace Request

def parseUrl (raw : String) : Except ConfigurationError Url :=
  match Url.parse (String.ofList (trim raw.toList)) with
  | .error error => .error (.invalidUrl raw (.unreadable error))
  | .ok url =>
    if url.scheme ≠ "http" ∧ url.scheme ≠ "https" then
      .error (.invalidUrl raw (.unsupportedScheme url.scheme))
    else if url.host.isNone then .error (.invalidUrl raw .missingHost)
    else .ok url

/-- Parameters as they stand: a single one without a name is the whole body. -/
def verbatim (params : List Pair) : String :=
  match params with
  | [only] => if only.name.isEmpty then only.value else only.name ++ "=" ++ only.value
  | _ => joinTexts "&" (params.map fun pair => pair.name ++ "=" ++ pair.value)

def bodyOf (contentType : MediaType) (params : List Pair) : Option String :=
  if params.isEmpty then none
  else
    match contentType with
    | .notSet | .form => some (Form.text params)
    | _ => some (verbatim params)

def withQuery (url : Url) (params : List Pair) : Url :=
  if params.isEmpty then url
  else { url with query := some (String.ofList (Form.append (url.query.getD "").toList params)) }

def encode (method : Method) (raw : String) (params : List Pair) (contentType : MediaType) :
    Except ConfigurationError Request := do
  let url ← parseUrl raw
  if method.sendsBody then
    let named := contentType = .notSet && !params.isEmpty
    return {
      method
      url := url.text
      headers := if named then [("Content-Type", (MediaType.form.value?).getD "")] else []
      body := bodyOf contentType params }
  else return { method, url := (withQuery url params).text }

def headerError? (headers : List Pair) : Option ConfigurationError :=
  headers.findSome? fun header =>
    (Header.fault? (header.name, header.value)).map (.invalidHeader header.name ·)

def mediaHeader (name : String) (media : MediaType) : List Header :=
  match media.value? with
  | some value => [(name, value)]
  | none => []

def ofJob (job : Job) : Except ConfigurationError Request := do
  let request ← encode job.method job.url job.params job.contentType
  match headerError? job.headers with
  | some error => .error error
  | none =>
    return { request with
      headers := mediaHeader "Content-Type" job.contentType ++ request.headers ++
        mediaHeader "Accept" job.acceptType ++
        job.headers.map fun header => (header.name, header.value) }

def ofStep (step : LoginStep) : Except ConfigurationError Request :=
  encode step.method step.url step.params .notSet

end Request
end Courier
