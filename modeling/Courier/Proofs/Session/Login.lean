import Courier.Executor
import Courier.Proofs.Session.Run
/-! Logging in by form. The steps are sent in order, each from the session that the one before it
left, up to the first that fails or is answered with something else than success. The job's own
request is sent only after all of them, from the session that they left. -/

namespace Courier.Session

inductive Sends (around : Surroundings) :
    Session → List (Request × Except Error Response) → Session → Prop where
  | nil (session : Session) : Sends around session [] session
  | cons {session between after : Session} {request : Request} {outcome : Except Error Response}
      {rest : List (Request × Except Error Response)}
      (first : session.send around request = (outcome, between))
      (others : Sends around between rest after) :
      Sends around session ((request, outcome) :: rest) after

def Succeeds (outcome : Except Error Response) : Prop :=
  ∃ response, outcome = .ok response ∧ 200 ≤ response.status ∧ response.status ≤ 299

inductive StepFails (key : String) (number : Nat) (request : Request) :
    Except Error Response → Error → Prop where
  | unanswered (error : Error) : StepFails key number request (.error error) error
  | refused (response : Response) (outside : ¬(200 ≤ response.status ∧ response.status ≤ 299)) :
      StepFails key number request (.ok response) (.stepFailed {
        key
        step := number
        method := request.method.name
        url := request.url
        status := response.status })

theorem isSuccess_iff (status : Nat) : isSuccess status = true ↔ 200 ≤ status ∧ status ≤ 299 := by
  simp only [isSuccess, Bool.and_eq_true, decide_eq_true_eq]
  omega

/-- One step lets the login go on from the session it left, or ends it there. -/
theorem sendSteps_cons {around : Surroundings} {session between : Session} {request : Request}
    {outcome : Except Error Response}
    (sent : session.send around request = (outcome, between)) (key : String) (number : Nat)
    (rest : List Request) :
    (Succeeds outcome ∧ session.sendSteps around key number (request :: rest) =
        between.sendSteps around key (number + 1) rest) ∨
      ∃ error, StepFails key number request outcome error ∧
        session.sendSteps around key number (request :: rest) = (.error error, between) := by
  rw [sendSteps, sent]
  rcases outcome with error | response
  · exact Or.inr ⟨error, .unanswered error, rfl⟩
  · by_cases good : isSuccess response.status = true
    · simp only [good, ↓reduceIte, and_true]
      exact Or.inl ⟨response, rfl, (isSuccess_iff _).mp good⟩
    · simp only [good, Bool.false_eq_true, ↓reduceIte]
      exact Or.inr ⟨_, .refused response (mt (isSuccess_iff _).mpr good), rfl⟩

/-- How a login ends whose first step has that number, after these were sent: with all of its steps,
or with the first that fails. -/
inductive LoginEnds (key : String) (number : Nat) (requests : List Request) :
    List (Request × Except Error Response) → Except Error Unit → Prop where
  | through {sends : List (Request × Except Error Response)} (all : sends.map Prod.fst = requests)
      (good : ∀ sent ∈ sends, Succeeds sent.2) : LoginEnds key number requests sends (.ok ())
  | stopped (before : List (Request × Except Error Response)) {request : Request}
      {outcome : Except Error Response} {error : Error} {later : List Request}
      (split : requests = before.map Prod.fst ++ request :: later)
      (good : ∀ sent ∈ before, Succeeds sent.2)
      (fails : StepFails key (number + before.length) request outcome error) :
      LoginEnds key number requests (before ++ [(request, outcome)]) (.error error)

theorem LoginEnds.cons {key : String} {number : Nat} {requests : List Request}
    {sends : List (Request × Except Error Response)} {result : Except Error Unit}
    {request : Request} {outcome : Except Error Response} (good : Succeeds outcome)
    (ends : LoginEnds key (number + 1) requests sends result) :
    LoginEnds key number (request :: requests) ((request, outcome) :: sends) result := by
  cases ends with
  | through all goods =>
    exact .through (by rw [List.map_cons, all]) (List.forall_mem_cons.mpr ⟨good, goods⟩)
  | stopped before split goods fails =>
    have number_eq : number + 1 + before.length =
        number + ((request, outcome) :: before).length := by
      rw [List.length_cons]
      omega
    rw [number_eq] at fails
    exact .stopped ((request, outcome) :: before) (by rw [split, List.map_cons, List.cons_append])
      (List.forall_mem_cons.mpr ⟨good, goods⟩) fails

/-- The steps that were sent are those up to the first that failed, or all of them. -/
theorem sendSteps_ends (around : Surroundings) (key : String) (requests : List Request)
    (session : Session) (number : Nat) :
    ∃ sends, Sends around session sends (session.sendSteps around key number requests).2 ∧
      LoginEnds key number requests sends (session.sendSteps around key number requests).1 := by
  -- Each step starts from the session of the one before it, under the next number.
  induction requests generalizing session number with
  | nil => exact ⟨[], .nil session, .through rfl (by simp)⟩
  | cons request rest ih =>
    rcases given : session.send around request with ⟨outcome, between⟩
    rcases sendSteps_cons given key number rest with ⟨good, next⟩ | ⟨error, fails, stop⟩
    · obtain ⟨sends, sent, ends⟩ := ih between (number + 1)
      rw [next]
      exact ⟨(request, outcome) :: sends, .cons given sent, ends.cons good⟩
    · rw [stop]
      exact ⟨[(request, outcome)], .cons given (.nil between),
        .stopped [] rfl (by simp) fails⟩

theorem logIn_of_flawed (around : Surroundings) (session : Session) (key : String)
    {steps : List LoginStep} {error : ConfigurationError}
    (flawed : steps.mapM Request.ofStep = .error error) :
    session.logIn around key steps = (.error (.configuration error), session) := by
  simp only [logIn, flawed]

theorem logIn_of_built (around : Surroundings) (session : Session) (key : String)
    {steps : List LoginStep} {requests : List Request}
    (built : steps.mapM Request.ofStep = .ok requests) :
    session.logIn around key steps = session.sendSteps around key 1 requests := by
  simp only [logIn, built]

end Courier.Session

namespace Courier.Executor

open Session

section

variable [BodyReader]

theorem execute_of_plan (executor : Executor) (network : Network) {job : Job} {plan : Plan}
    (planned : Executor.plan executor.registry job = .ok plan) :
    (executor.execute network job).outcome = (executor.runPlan network job plan).1 ∧
      (executor.execute network job).traces = (executor.runPlan network job plan).2.wire.traces ∧
      (executor.execute network job).network = (executor.runPlan network job plan).2.wire.network := by
  simp only [execute, planned, and_self]

def captured (job : Job) (request : Request) : Except Error Response → Except Error Capture
  | .error error => .error error
  | .ok response => (capture job request response).mapError Error.transport

theorem runPlan_of_prepared (executor : Executor) (network : Network) (job : Job) (plan : Plan)
    {session after : Session} {outcome : Except Error Response}
    (prepared : (Session.start (job.timeout * 1000) network).prepare executor.around plan.target
      plan.entry = (.ok (), session))
    (sent : session.send executor.around plan.request = (outcome, after)) :
    executor.runPlan network job plan = (captured job plan.request outcome, after) := by
  simp only [runPlan, sendPlan, prepared, sent]
  cases outcome <;> rfl

theorem runPlan_of_unprepared (executor : Executor) (network : Network) (job : Job) (plan : Plan)
    {session : Session} {error : Error}
    (unprepared : (Session.start (job.timeout * 1000) network).prepare executor.around plan.target
      plan.entry = (.error error, session)) :
    executor.runPlan network job plan = (.error error, session) := by
  simp only [runPlan, sendPlan, unprepared]

/-- What a job that logs in with these requests comes to, and the session that it leaves. -/
inductive RunsLogin (around : Surroundings) (start : Session) (key : String)
    (requests : List Request) (job : Job) (request : Request) :
    Except Error Capture → Session → Prop where
  /-- The job's own request is never sent. -/
  | stopped {sends : List (Request × Except Error Response)} {after : Session} {error : Error}
      (sent : Sends around start sends after)
      (ends : LoginEnds key 1 requests sends (.error error)) :
      RunsLogin around start key requests job request (.error error) after
  /-- The job's own request is sent once, from the session that the steps left. -/
  | through {sends : List (Request × Except Error Response)} {ready after : Session}
      {outcome : Except Error Response} (sent : Sends around start sends ready)
      (ends : LoginEnds key 1 requests sends (.ok ()))
      (last : ready.send around request = (outcome, after)) :
      RunsLogin around start key requests job request (captured job request outcome) after

section

variable (executor : Executor) (network : Network) {job : Job} {plan : Plan} {key : String}
  {steps : List LoginStep}

omit [BodyReader] in
theorem prepare_of_login (login : plan.entry = some (.form key steps)) (session : Session) :
    session.prepare executor.around plan.target plan.entry =
      session.logIn executor.around key steps := by
  rw [login]
  rfl

theorem runPlan_of_flawed {error : ConfigurationError}
    (login : plan.entry = some (.form key steps))
    (flawed : steps.mapM Request.ofStep = .error error) :
    executor.runPlan network job plan =
      (.error (.configuration error), Session.start (job.timeout * 1000) network) := by
  apply runPlan_of_unprepared
  rw [prepare_of_login executor login, logIn_of_flawed executor.around _ key flawed]

/-- A login whose steps can be built sends them in order, and then the job's own request. -/
theorem runPlan_of_built {requests : List Request}
    (login : plan.entry = some (.form key steps))
    (built : steps.mapM Request.ofStep = .ok requests) :
    RunsLogin executor.around (Session.start (job.timeout * 1000) network) key requests job
      plan.request (executor.runPlan network job plan).1 (executor.runPlan network job plan).2 := by
  let start := Session.start (job.timeout * 1000) network
  have prepared : start.prepare executor.around plan.target plan.entry =
      start.sendSteps executor.around key 1 requests := by
    rw [prepare_of_login executor login, logIn_of_built executor.around start key built]
  obtain ⟨sends, sent, ends⟩ := sendSteps_ends executor.around key requests start 1
  rcases done : start.sendSteps executor.around key 1 requests with ⟨result, ready⟩
  rw [done] at prepared sent ends
  cases result with
  | error error =>
    rw [runPlan_of_unprepared executor network job plan prepared]
    exact .stopped sent ends
  | ok _ =>
    rcases last : ready.send executor.around plan.request with ⟨outcome, after⟩
    rw [runPlan_of_prepared executor network job plan prepared last]
    exact .through sent ends last

end

/-- A login whose steps cannot all be built sends nothing and blames the first of those. Otherwise
the steps are sent in order up to the first that fails, which ends the job; the job's own request is
sent once, and only after all of them. -/
theorem login_stops_at_first_failure (executor : Executor) (network : Network) (job : Job)
    (plan : Plan) (key : String) (steps : List LoginStep)
    (planned : Executor.plan executor.registry job = .ok plan)
    (login : plan.entry = some (.form key steps)) :
    (∀ before flawed later error, steps = before ++ flawed :: later →
      (∀ step ∈ before, ∃ request, Request.ofStep step = .ok request) →
      Request.ofStep flawed = .error error →
      (executor.execute network job).outcome = .error (.configuration error) ∧
        (executor.execute network job).traces = [] ∧
        (executor.execute network job).network = network) ∧
    (∀ requests, List.Forall₂ (fun step request => Request.ofStep step = .ok request) steps requests →
      ∃ after, RunsLogin executor.around (Session.start (job.timeout * 1000) network) key requests job
          plan.request (executor.execute network job).outcome after ∧
        (executor.execute network job).traces = after.wire.traces ∧
        (executor.execute network job).network = after.wire.network) := by
  obtain ⟨outcome, traces, left⟩ := execute_of_plan executor network planned
  rw [outcome, traces, left]
  constructor
  · intro before flawed later error split sound unsound
    have fails : steps.mapM Request.ofStep = .error error := by
      rw [split]
      exact Outcome.mapM_first_error sound unsound
    rw [runPlan_of_flawed executor network login fails]
    exact ⟨rfl, rfl, rfl⟩
  · intro requests built
    have all := (Outcome.mapM_eq_ok_iff Request.ofStep steps requests).mpr built
    exact ⟨_, runPlan_of_built executor network login all, rfl, rfl⟩

end

attribute [local instance] BodyReader.strict

def clerks : Registry where
  entries := [.form "desk" [⟨"http://[::1]/", .get, []⟩, ⟨"http://[::1]/", .post, []⟩]]

def errand : Job where
  url := "http://[::1]/"
  authenticationKey := some "desk"

theorem errand_stops_at_second_step :
    let network := Network.scripted [.answer ⟨200, [], .whole []⟩, .answer ⟨403, [], .whole []⟩]
    let report := Executor.execute ⟨clerks, ⟨0, "c"⟩⟩ network errand
    (∃ after, RunsLogin ⟨0, "c"⟩ (Session.start 60000 network) "desk"
        [⟨.get, "http://[::1]/", [], none⟩, ⟨.post, "http://[::1]/", [], none⟩] errand
        ⟨.get, "http://[::1]/", [], none⟩ report.outcome after ∧
      report.traces = after.wire.traces ∧ report.network = after.wire.network) ∧
    report.traces.length = 2 := by
  intro network report
  have planned : Executor.plan clerks errand = .ok
      ⟨clerks.entries.head?, ⟨.get, "http://[::1]/", [], none⟩, loopback⟩ :=
    Outcome.eq_ok_of_toOption (by decide +kernel)
  refine ⟨?_, by decide +kernel⟩
  apply (login_stops_at_first_failure ⟨clerks, ⟨0, "c"⟩⟩ network errand _ "desk" _ planned rfl).2
  refine .cons ?_ (.cons ?_ .nil)
  · exact Outcome.eq_ok_of_toOption (by decide +kernel)
  · exact Outcome.eq_ok_of_toOption (by decide +kernel)

end Courier.Executor
