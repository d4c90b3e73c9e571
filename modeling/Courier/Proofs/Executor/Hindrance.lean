import Courier.Proofs.Executor.Precedence
/-! What can keep a run from a response. A run that has a plan fails only for an address, on its way,
or at a step of a login, and so none of its errors holds a response. -/

namespace Courier

inductive Hindrance : Error → Prop where
  | address (raw : String) (reason : UrlReason) :
      Hindrance (.configuration (.invalidUrl raw reason))
  | way (error : TransportError) : Hindrance (.transport error)
  | step (failure : StepFailure) : Hindrance (.stepFailed failure)

theorem Hindrance.response? {error : Error} (hindrance : Hindrance error) :
    error.response? = none := by
  cases hindrance <;> rfl

namespace Session

variable {around : Surroundings} {session : Session} {error : Error}

theorem hindrance_of_run {request : Request} {authorization : Option String}
    (failed : (session.run around request authorization).1 = .error error) : Hindrance error := by
  cases made : message request authorization with
  | error reason =>
    rw [run_of_unfit around session request made] at failed
    cases failed
    exact .address _ _
  | ok text =>
    cases placed : Destination.ofText? request.url with
    | none =>
      rw [run_of_unplaced around session request made placed] at failed
      cases failed
      exact .way _
    | some destination =>
      rw [run_of_placed around session request made placed] at failed
      cases answered : (session.wire.exchange around.now destination text).1 with
      | error interruption =>
        rw [answered] at failed
        cases failed
        exact .way _
      | ok response =>
        rw [answered] at failed
        cases failed

theorem hindrance_of_send {request : Request}
    (failed : (session.send around request).1 = .error error) : Hindrance error := by
  cases read : Request.parseUrl request.url with
  | error unread =>
    obtain ⟨reason, rfl⟩ := Request.parseUrl_quotes read
    rw [send_of_unreadable around session request read] at failed
    cases failed
    exact .address _ _
  | ok url =>
    rw [send_of_readable around session request read] at failed
    dsimp only at failed
    split at failed <;> exact hindrance_of_run failed

theorem hindrance_of_sendSteps {key : String} {number : Nat} {requests : List Request}
    (failed : (session.sendSteps around key number requests).1 = .error error) :
    Hindrance error := by
  induction requests generalizing session number with
  | nil => cases failed
  | cons request rest ih =>
    rw [sendSteps] at failed
    rcases sent : session.send around request with ⟨other | response, after⟩
    · rw [sent] at failed
      obtain rfl := Except.error.inj failed
      exact hindrance_of_send (by rw [sent])
    · rw [sent] at failed
      dsimp only at failed
      split at failed
      · exact ih failed
      · cases failed
        exact .step _

theorem hindrance_of_prepare {target : Url} {entry : Option Authentication}
    (failed : (session.prepare around target entry).1 = .error error) : Hindrance error := by
  match entry with
  | none => cases failed
  | some (.password _ username password) => cases failed
  | some (.form key steps) =>
    change (session.logIn around key steps).1 = .error error at failed
    cases built : steps.mapM Request.ofStep with
    | error unbuilt =>
      obtain ⟨_, step, _, _, _, flawed⟩ := Outcome.exists_first_error built
      obtain ⟨reason, _, rfl⟩ := (Executor.ofStep_eq_error_iff step unbuilt).mp flawed
      rw [logIn_of_flawed around session key built] at failed
      cases failed
      exact .address _ _
    | ok requests =>
      rw [logIn_of_built around session key built] at failed
      exact hindrance_of_sendSteps failed

end Session

namespace Executor

variable [BodyReader] {executor : Executor} {network : Network} {job : Job} {error : Error}

theorem hindrance_of_runPlan {plan : Plan}
    (failed : (executor.runPlan network job plan).1 = .error error) : Hindrance error := by
  let start := Session.start (job.timeout * 1000) network
  rcases prepared : start.prepare executor.around plan.target plan.entry with ⟨other | _, session⟩
  · rw [runPlan_of_unprepared executor network job plan prepared] at failed
    obtain rfl := Except.error.inj failed
    exact Session.hindrance_of_prepare (congrArg Prod.fst prepared)
  · rcases sent : session.send executor.around plan.request with ⟨other | response, after⟩
    · rw [runPlan_of_prepared executor network job plan prepared sent] at failed
      obtain rfl := Except.error.inj failed
      exact Session.hindrance_of_send (congrArg Prod.fst sent)
    · rw [runPlan_of_prepared executor network job plan prepared sent] at failed
      simp only [captured] at failed
      cases made : capture job plan.request response with
      | error unread =>
        rw [made] at failed
        cases failed
        exact .way _
      | ok kept =>
        rw [made] at failed
        cases failed

theorem response?_of_execute (failed : (executor.execute network job).outcome = .error error) :
    error.response? = none := by
  cases planned : Executor.plan executor.registry job with
  | error flaw =>
    rw [execute_of_unplanned job planned] at failed
    cases failed
    rfl
  | ok plan =>
    rw [(execute_of_plan executor network planned).1] at failed
    exact (hindrance_of_runPlan failed).response?

end Executor
end Courier
