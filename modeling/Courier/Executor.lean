import Courier.Console
import Courier.Session
import Courier.Validation
/-!
Running jobs. Every run has a session of its own, so nothing but the script of the network and the
files goes from one run to the next. What can be found wrong with a job is found before anything is
sent; what the console is told depends on how far the run gets.
-/
namespace Courier

structure Executor where
  registry : Registry
  around : Surroundings
  deriving DecidableEq, Repr

structure Report where
  outcome : Except Error Capture
  lines : List String
  traces : List Trace
  network : Network

namespace Executor

variable [BodyReader] {Files : Type} [FileSystem Files]

def authentication (registry : Registry) (job : Job) :
    Except ConfigurationError (Option Authentication) :=
  match job.authentication? with
  | none => .ok none
  | some key =>
    match registry.lookup? key with
    | some entry => .ok (some entry)
    | none => .error (.unknownAuthentication key)

structure Plan where
  entry : Option Authentication
  request : Request
  target : Url
  deriving DecidableEq, Repr

def plan (registry : Registry) (job : Job) : Except ConfigurationError Plan := do
  let entry ← authentication registry job
  let request ← Request.ofJob job
  let target ← Request.parseUrl request.url
  return { entry, request, target }

def openingLines (job : Job) : List String :=
  ["HttpMode: " ++ job.method.name, "URL: " ++ job.url]

def mediaLine (name : String) (media : MediaType) : List String :=
  match media.value? with
  | some value => [name ++ ": " ++ value]
  | none => []

def planLines (job : Job) (plan : Plan) : List String :=
  mediaLine "Content-type" job.contentType ++ mediaLine "Accept" job.acceptType ++
    (job.headers.map fun header => header.name ++ ": " ++ header.value) ++
    (plan.entry.map fun entry => "Using authentication: " ++ entry.key).toList

def sendPlan (around : Surroundings) (session : Session) (plan : Plan) :
    Except Error Response × Session :=
  match session.prepare around plan.target plan.entry with
  | (.error error, session) => (.error error, session)
  | (.ok (), session) => session.send around plan.request

def capture (job : Job) (request : Request) (response : Response) : Except TransportError Capture :=
  Capture.ofResponse response.status response.headers {
    delivery := response.delivery
    url := request.url
    timeout := job.timeout * 1000
    limit := job.bodyLimit } job.captureBody

def runPlan (executor : Executor) (network : Network) (job : Job) (plan : Plan) :
    Except Error Capture × Session :=
  match sendPlan executor.around (Session.start (job.timeout * 1000) network) plan with
  | (.error error, session) => (.error error, session)
  | (.ok response, session) =>
    ((capture job plan.request response).mapError Error.transport, session)

def execute (executor : Executor) (network : Network) (job : Job) : Report :=
  match plan executor.registry job with
  | .error error =>
    { outcome := .error (.configuration error), lines := openingLines job, traces := [], network }
  | .ok plan =>
    let (outcome, session) := executor.runPlan network job plan
    {
      outcome
      lines := openingLines job ++ planLines job plan
      traces := session.wire.traces
      network := session.wire.network }

def needsBody (job : Job) : Bool :=
  job.logBody || job.outputFile.isSome || (Validation.requirement? job.requiredContent).isSome

def readBody (job : Job) (capture : Capture) : Except TransportError Unit × Capture :=
  if needsBody job then
    match capture.load with
    | (.ok _, after) => (.ok (), after)
    | (.error error, after) => (.error error, after)
  else (.ok (), capture)

def bodyLines (job : Job) (payload : Option Payload) : List String :=
  (if job.logBody then ["Response: \n" ++ payload.elim "null" Payload.content] else []) ++
    (match job.outputFile, payload with
     | some path, some _ => ["Saving response to " ++ path]
     | _, _ => [])

def save (job : Job) (payload : Option Payload) (files : Files) : Except Error Unit × Files :=
  match job.outputFile, payload with
  | some path, some payload =>
    let (outcome, files) := FileSystem.write files path payload.bytes
    (outcome.mapError (Error.output path), files)
  | _, _ => (.ok (), files)

/-- The verdict on a capture: the range that accepts its status, if one does, and what else is wrong
with it. -/
def verdict (job : Job) (accepted : RangeSet) (status : Nat) (payload : Option Payload) :
    Option StatusRange × Except ValidationError Unit :=
  match Validation.checkStatus accepted status with
  | .error error => (none, .error error)
  | .ok range =>
    (some range, Validation.checkContent job.requiredContent (payload.elim "" Payload.content))

def verdictLines (range : Option StatusRange) : List String :=
  (range.map fun range => "Success code from " ++ range.text).toList

def conclude (job : Job) (accepted : RangeSet) (capture : Capture) (files : Files) :
    Except Error Capture × List String × Files :=
  match readBody job capture with
  | (.error error, _) => (.error (.transport error), [], files)
  | (.ok (), capture) =>
    -- a body that nothing asks for is left unread, and none of the steps below looks at it
    let payload := if needsBody job then capture.loadQuietly.1 else none
    let lines := bodyLines job payload
    match save job payload files with
    | (.error error, files) => (.error error, lines, files)
    | (.ok (), files) =>
      match verdict job accepted capture.status payload with
      | (range, .error error) =>
        (.error (.validation error capture), lines ++ verdictLines range, files)
      | (range, .ok ()) => (.ok capture, lines ++ verdictLines range, files)

/-- Runs a job and judges its response by status and content; gives the files after that too. The
accepted ranges are read before anything else. -/
def perform (executor : Executor) (network : Network) (files : Files) (job : Job) :
    Report × Files :=
  match RangeSet.parse (some job.acceptedCodes) with
  | .error error =>
    ({ outcome := .error (.configuration (.invalidRange error)), lines := [], traces := [], network },
      files)
  | .ok accepted =>
    let report := executor.execute network job
    match report.outcome with
    | .error _ => (report, files)
    | .ok capture =>
      let (outcome, lines, files) := conclude job accepted capture files
      ({ report with outcome, lines := report.lines ++ lines }, files)

inductive Call where
  | execute (job : Job)
  | perform (job : Job)
  deriving DecidableEq, Repr

def call (executor : Executor) (network : Network) (files : Files) : Call → Report × Files
  | .execute job => (executor.execute network job, files)
  | .perform job => executor.perform network files job

/-- What comes of calls one after another, each in surroundings of its own; each goes on with what
the one before it left of the network's script and of the files. -/
def callAll (registry : Registry) (network : Network) (files : Files) :
    List (Surroundings × Call) → List (Report × Files)
  | [] => []
  | (around, next) :: rest =>
    let done := Executor.call { registry, around } network files next
    done :: callAll registry done.1.network done.2 rest

end Executor
end Courier
