import Courier.Proofs.Executor.Verdict
/-! When bodies are read. A job that asks for the body of its response comes to the same whether the
body is read as soon as the response is there or only when the job comes to it. -/

namespace Courier.Executor

def withCapture (job : Job) (eager : Bool) : Job := { job with captureBody := eager }

section

variable [BodyReader] {Files : Type} [FileSystem Files]

section

variable {executor : Executor} {network : Network} {files : Files} (job : Job) {plan : Plan}
  {accepted : RangeSet}

/-! ### The capture -/

def onItsWay (job : Job) (request : Request) (response : Response) : PendingBody where
  delivery := response.delivery
  url := request.url
  timeout := job.timeout * 1000
  limit := job.bodyLimit

def captureWith (response : Response) (body : CapturedBody) : Capture where
  status := response.status
  headers := response.headers.filter fun header => Header.isReadable header.2
  body := body

theorem capture_eager (request : Request) (response : Response) :
    capture (withCapture job true) request response =
      (onItsWay job request response).read.map fun payload =>
        captureWith response (.present payload) := by
  change ((onItsWay job request response).read.bind fun payload =>
    .ok (captureWith response (.present payload))) = _
  cases (onItsWay job request response).read <;> rfl

theorem capture_deferred (request : Request) (response : Response) :
    capture (withCapture job false) request response =
      .ok (captureWith response (.deferred (onItsWay job request response))) := rfl

section

variable {response : Response} {session : Session}
  (planned : Executor.plan executor.registry job = .ok plan)
  (sent : sendPlan executor.around (Session.start (job.timeout * 1000) network) plan =
    (.ok response, session))

include planned sent

theorem execute_eager : executor.execute network (withCapture job true) = {
    outcome := ((onItsWay job plan.request response).read.map fun payload =>
      captureWith response (.present payload)).mapError Error.transport
    lines := openingLines job ++ planLines job plan
    traces := session.wire.traces
    network := session.wire.network } := by
  rw [execute_of_answered (withCapture job true) planned sent, capture_eager]
  rfl

theorem execute_deferred : executor.execute network (withCapture job false) = {
    outcome := .ok (captureWith response (.deferred (onItsWay job plan.request response)))
    lines := openingLines job ++ planLines job plan
    traces := session.wire.traces
    network := session.wire.network } := by
  rw [execute_of_answered (withCapture job false) planned sent, capture_deferred]
  rfl

end

theorem load_deferred {pending : PendingBody} {payload : Payload} (response : Response)
    (read : pending.read = .ok payload) :
    (captureWith response (.deferred pending)).load =
      (.ok (some payload), captureWith response (.present payload)) := by
  simp only [captureWith, Capture.load, read]

/-! ### The verdict -/

/-- A verdict on a body that is asked for is the same before and after the body is read. -/
theorem conclude_of_load {before after : Capture} {payload : Option Payload}
    (needed : needsBody job = true) (loaded : before.load = (.ok payload, after)) :
    conclude job accepted before files = conclude job accepted after files := by
  have again := Capture.load_of_load_ok loaded
  have first : readBody job before = (.ok (), after) := by
    simp only [readBody, needed, ↓reduceIte, loaded]
  have second : readBody job after = (.ok (), after) := by
    simp only [readBody, needed, ↓reduceIte, again]
  rw [conclude, conclude, first, second]

/-! ### The run -/

/-- Before there is a response nothing depends on when its body is read. -/
theorem perform_withCapture_of_fetched
    (same : executor.execute network (withCapture job true) =
      executor.execute network (withCapture job false)) :
    executor.perform network files (withCapture job true) =
      executor.perform network files (withCapture job false) := by
  have judged (accepted : RangeSet) (capture : Capture) :
      conclude (withCapture job true) accepted capture files =
        conclude (withCapture job false) accepted capture files := rfl
  have codes : (withCapture job true).acceptedCodes = (withCapture job false).acceptedCodes := rfl
  simp only [perform, same, judged, codes]

/-- When there is a response, a body that cannot be read ends the job in the same way, and one that
can be is the same for the verdict. -/
theorem perform_withCapture_of_answered {response : Response} {session : Session}
    (needed : needsBody job = true)
    (ranged : RangeSet.parse (some job.acceptedCodes) = .ok accepted)
    (planned : Executor.plan executor.registry job = .ok plan)
    (sent : sendPlan executor.around (Session.start (job.timeout * 1000) network) plan =
      (.ok response, session)) :
    executor.perform network files (withCapture job true) =
      executor.perform network files (withCapture job false) := by
  have eager := execute_eager job planned sent
  have deferred := execute_deferred job planned sent
  have later := perform_of_captured files (withCapture job false) ranged
    (congrArg Report.outcome deferred)
  rw [later, deferred]
  cases read : (onItsWay job plan.request response).read with
  | error error =>
    rw [read] at eager
    have unread : Unread (withCapture job false)
        (captureWith response (.deferred (onItsWay job plan.request response))) error :=
      ⟨(needsBody_iff job).mp needed, _, rfl, read⟩
    rw [perform_of_failed files (withCapture job true) ranged (congrArg Report.outcome eager),
      eager, conclude_of_unread unread, List.append_nil]
    rfl
  | ok payload =>
    rw [read] at eager
    rw [perform_of_captured files (withCapture job true) ranged (congrArg Report.outcome eager),
      eager, conclude_of_load (withCapture job false) needed (load_deferred response read)]
    rfl

end

/-- A job that asks for the body of its response reports the same and leaves the same files, whether
the body is read at once or only then; later reads of the capture cannot tell the two apart. -/
theorem perform_same_when_deferred (executor : Executor) (network : Network) (files : Files)
    (job : Job) (asks : AsksForBody job) :
    executor.perform network files (withCapture job true) =
      executor.perform network files (withCapture job false) := by
  cases ranged : RangeSet.parse (some job.acceptedCodes) with
  | error error =>
    rw [perform_of_unranged files (withCapture job true) ranged,
      perform_of_unranged files (withCapture job false) ranged]
  | ok accepted =>
    cases planned : Executor.plan executor.registry job with
    | error error =>
      apply perform_withCapture_of_fetched
      rw [execute_of_unplanned (withCapture job true) planned,
        execute_of_unplanned (withCapture job false) planned]
      rfl
    | ok plan =>
      rcases sent : sendPlan executor.around (Session.start (job.timeout * 1000) network) plan with
        ⟨error | response, session⟩
      · apply perform_withCapture_of_fetched
        rw [execute_of_unanswered (withCapture job true) planned sent,
          execute_of_unanswered (withCapture job false) planned sent]
        rfl
      · exact perform_withCapture_of_answered job ((needsBody_iff job).mpr asks) ranged planned sent

end

attribute [local instance] BodyReader.strict

def recital : Job where
  url := "http://[::1]/"
  logBody := true

/-- A response that comes to a halt is reported in the same way, whenever it is read. -/
theorem recital_comes_to_halt :
    let network := Network.scripted [.answer ⟨200, [], .stalled [0x68, 0x65]⟩]
    AsksForBody recital ∧
      Executor.perform ⟨{}, ⟨0, "c"⟩⟩ network ({} : Folder) (withCapture recital true) =
        Executor.perform ⟨{}, ⟨0, "c"⟩⟩ network {} (withCapture recital false) ∧
      (Executor.perform ⟨{}, ⟨0, "c"⟩⟩ network ({} : Folder) (withCapture recital false)).1.outcome =
        .error (.transport (.timeout "http://[::1]/" 60000)) := by
  have asks : AsksForBody recital := Or.inl rfl
  exact ⟨asks, perform_same_when_deferred _ _ _ recital asks, by decide +kernel⟩

end Courier.Executor
