import Courier.Proofs.Session.Illegal
/-! When the configuration is blamed too late. A plan finds most of what can be wrong with a job before
anything is sent. Two things escape it: an address that can be read but not sent, behind login steps
that were sent already, and a user name that the answer to a challenge cannot hold. -/

namespace Courier

/-- Whether a report blames the configuration although something was sent. -/
def Report.BlamesLate (report : Report) : Prop := Blames report.outcome ∧ report.traces ≠ []

namespace Executor

open Session
open Header (isValue)

/-- Whether some network can have the configuration of a job blamed when something was sent. -/
inductive MayBlameLate (registry : Registry) (job : Job) : Prop where
  /-- The user name cannot be part of an answer to a challenge, and a challenge can come. -/
  | name {plan : Plan} {key username password : String}
      (planned : Executor.plan registry job = .ok plan)
      (entry : plan.entry = some (.password key username password))
      (illegal : isValue username = false) (ownless : Header.Bare plan.request.headers)
      (deliverable : plan.request.IsDeliverable)
  /-- The address of a login step or of the job itself cannot be sent, and there is a first step that
  can be, with all others before that address. -/
  | address {plan : Plan} {key : String} {steps : List LoginStep} {requests : List Request}
      {before : List Request} {refused : Request} {later : List Request}
      (planned : Executor.plan registry job = .ok plan)
      (entry : plan.entry = some (.form key steps))
      (built : steps.mapM Request.ofStep = .ok requests)
      (split : requests ++ [plan.request] = before ++ refused :: later) (some_first : before ≠ [])
      (deliverable : ∀ request ∈ before, request.IsDeliverable) (refuses : refused.IsRefused)

/-! ### Plans -/

theorem plan_eq_ok_iff (registry : Registry) (job : Job) (plan : Plan) :
    Executor.plan registry job = .ok plan ↔
      authentication registry job = .ok plan.entry ∧ Request.ofJob job = .ok plan.request ∧
        Request.parseUrl plan.request.url = .ok plan.target := by
  simp only [Executor.plan, Outcome.bind_eq_ok_iff]
  constructor
  · rintro ⟨entry, known, request, made, target, read, same⟩
    obtain rfl := Except.ok.inj same
    exact ⟨known, made, read⟩
  · rintro ⟨known, made, read⟩
    exact ⟨_, known, _, made, _, read, rfl⟩

theorem sound_of_plan {registry : Registry} {job : Job} {plan : Plan}
    (planned : Executor.plan registry job = .ok plan) : plan.request.Sound :=
  Request.sound_ofJob ((plan_eq_ok_iff registry job plan).mp planned).2.1

theorem inScope_install (session : Session) {request : Request} {target : Url}
    (username password : String) (read : Request.parseUrl request.url = .ok target)
    (ownless : Header.Bare request.headers) :
    InScope (session.install target username password) target request
      ⟨target.hostText?.getD "", target.effectivePort?, username, password⟩ := by
  obtain ⟨_, _, host, shown⟩ := (Request.parseUrl_eq_ok_iff _ _).mp read
  have text : target.hostText? = some host.text := by
    rw [Url.hostText?, shown]
    rfl
  exact ⟨rfl, by rw [text]; rfl, rfl, ownless⟩

section

variable [BodyReader] {Files : Type} [FileSystem Files]

theorem blames_of_captured {job : Job} {request : Request} {outcome : Except Error Response}
    (blames : Blames (captured job request outcome)) : Blames outcome := by
  obtain ⟨error, blamed⟩ := blames
  cases outcome with
  | error other =>
    obtain rfl := Except.error.inj blamed
    exact ⟨error, rfl⟩
  | ok response =>
    simp only [captured] at blamed
    cases made : capture job request response with
    | error fault =>
      rw [made] at blamed
      cases blamed
    | ok capture =>
      rw [made] at blamed
      cases blamed

theorem captured_of_blames {job : Job} {request : Request} {outcome : Except Error Response}
    (blames : Blames outcome) : Blames (captured job request outcome) := by
  obtain ⟨error, rfl⟩ := blames
  exact ⟨error, rfl⟩

/-! ### Only these -/

section

variable {executor : Executor} {network : Network} {job : Job} {plan : Plan}

theorem not_late_of_plain (planned : Executor.plan executor.registry job = .ok plan)
    (entry : plan.entry = none) (blames : Blames (executor.runPlan network job plan).1) :
    (executor.runPlan network job plan).2.wire.traces = [] := by
  let start := Session.start (job.timeout * 1000) network
  have sound := sound_of_plan planned
  have prepared : start.prepare executor.around plan.target plan.entry = (.ok (), start) := by
    rw [entry]
    rfl
  rcases sent : start.send executor.around plan.request with ⟨outcome, after⟩
  rw [runPlan_of_prepared executor network job plan prepared sent] at blames ⊢
  by_contra late
  exact (refused_after_sends (.nil start) (by simp) sent (blames_of_captured blames) sound late).1 rfl

theorem mayBlameLate_of_password {key username password : String}
    (planned : Executor.plan executor.registry job = .ok plan)
    (nonce : isValue executor.around.clientNonce = true)
    (entry : plan.entry = some (.password key username password))
    (blames : Blames (executor.runPlan network job plan).1)
    (late : (executor.runPlan network job plan).2.wire.traces ≠ []) :
    MayBlameLate executor.registry job := by
  let session := (Session.start (job.timeout * 1000) network).install plan.target username password
  have sound := sound_of_plan planned
  have prepared : (Session.start (job.timeout * 1000) network).prepare executor.around plan.target
      plan.entry = (.ok (), session) := by
    rw [entry]
    rfl
  rcases sent : session.send executor.around plan.request with ⟨outcome, after⟩
  rw [runPlan_of_prepared executor network job plan prepared sent] at blames late
  have blamed : Blames (session.send executor.around plan.request).1 := by
    rw [sent]
    exact blames_of_captured blames
  have traces : (session.send executor.around plan.request).2.wire.traces ≠ [] := by
    rw [sent]
    exact late
  obtain ⟨url, credentials, scope, illegal, deliverable⟩ :=
    illegal_of_blames sound nonce rfl blamed traces
  have named : username = credentials.username :=
    congrArg Credentials.username (Option.some.inj scope.installed)
  exact .name planned entry (named ▸ illegal) scope.ownless deliverable

theorem mayBlameLate_of_login {key : String} {steps : List LoginStep}
    (planned : Executor.plan executor.registry job = .ok plan)
    (entry : plan.entry = some (.form key steps))
    (blames : Blames (executor.runPlan network job plan).1)
    (late : (executor.runPlan network job plan).2.wire.traces ≠ []) :
    MayBlameLate executor.registry job := by
  cases built : steps.mapM Request.ofStep with
  | error error =>
    rw [runPlan_of_flawed executor network entry built] at late
    exact absurd rfl late
  | ok requests =>
    have step_sound : ∀ request ∈ requests, request.Sound := by
      intro request member
      obtain ⟨step, _, made⟩ := Outcome.exists_of_mem_mapM built request member
      exact Request.sound_ofStep made
    have runs : RunsLogin executor.around (Session.start (job.timeout * 1000) network) key requests
        job plan.request _ _ := runPlan_of_built executor network entry built
    generalize (executor.runPlan network job plan).1 = outcome at runs blames
    generalize (executor.runPlan network job plan).2 = after at runs late
    cases runs with
    | stopped sent ends =>
      cases ends with
      | @stopped before refused last error later split good fails =>
        obtain ⟨ready, early, sending⟩ := sent.split_last
        obtain ⟨cause, same⟩ := blames
        obtain rfl := Except.error.inj same
        -- A step with an answer fails by its status, and that does not blame the configuration.
        cases fails with
        | unanswered error =>
          have sound := step_sound refused (by rw [split]; simp)
          obtain ⟨some_first, deliverable, refuses⟩ :=
            refused_after_sends early good sending ⟨cause, rfl⟩ sound late
          have parts : requests ++ [plan.request] =
              before.map Prod.fst ++ refused :: (later ++ [plan.request]) := by
            rw [split, List.append_assoc, List.cons_append]
          exact .address planned entry built parts (by simpa using some_first)
            (by simpa using deliverable) refuses
    | @through sends ready after outcome sent ends last =>
      cases ends with
      | through all good =>
        have sound := sound_of_plan planned
        obtain ⟨some_first, deliverable, refuses⟩ :=
          refused_after_sends sent good last (blames_of_captured blames) sound late
        have parts : requests ++ [plan.request] = sends.map Prod.fst ++ plan.request :: [] := by
          rw [all]
        exact .address planned entry built parts (by simpa using some_first)
          (by simpa using deliverable) refuses

/-! ### Each of these -/

/-- A refusal brings the name to light. -/
theorem late_of_name {key username password : String}
    (planned : Executor.plan executor.registry job = .ok plan)
    (nonce : isValue executor.around.clientNonce = true)
    (entry : plan.entry = some (.password key username password))
    (illegal : isValue username = false) (ownless : Header.Bare plan.request.headers)
    (deliverable : plan.request.IsDeliverable) :
    (executor.execute (.scripted [.answer refusal]) job).BlamesLate := by
  let start := Session.start (job.timeout * 1000) (.scripted [.answer refusal])
  obtain ⟨_, _, read⟩ := (plan_eq_ok_iff _ _ _).mp planned
  have prepared : start.prepare executor.around plan.target plan.entry =
      (.ok (), start.install plan.target username password) := by
    rw [entry]
    rfl
  have shown : (start.install plan.target username password).wire.network =
      .scripted (.answer refusal :: []) := rfl
  obtain ⟨blames, late⟩ := blames_of_illegal
    (inScope_install start username password read ownless) (sound_of_plan planned) nonce
    illegal read deliverable shown
  obtain ⟨outcome, traces, _⟩ := execute_of_plan executor (.scripted [.answer refusal]) planned
  rcases sent : (start.install plan.target username password).send executor.around plan.request
    with ⟨result, after⟩
  rw [sent] at blames late
  rw [runPlan_of_prepared executor _ job plan prepared sent] at outcome traces
  rw [Report.BlamesLate, outcome, traces]
  exact ⟨captured_of_blames blames, late⟩

variable (executor) in
/-- Welcoming the login steps before it brings the address to light. -/
theorem late_of_address {key : String} {steps : List LoginStep} {requests before later : List Request}
    {refused : Request} (planned : Executor.plan executor.registry job = .ok plan)
    (entry : plan.entry = some (.form key steps)) (built : steps.mapM Request.ofStep = .ok requests)
    (split : requests ++ [plan.request] = before ++ refused :: later) (some_first : before ≠ [])
    (deliverable : ∀ request ∈ before, request.IsDeliverable) (refuses : refused.IsRefused) :
    (executor.execute (.scripted (before.map fun _ => .answer welcome)) job).BlamesLate := by
  let network := Network.scripted (before.map fun _ => .answer welcome)
  let start := Session.start (job.timeout * 1000) network
  obtain ⟨outcome, traces, _⟩ := execute_of_plan executor network planned
  have logs_in : start.prepare executor.around plan.target plan.entry =
      start.sendSteps executor.around key 1 requests := by
    rw [prepare_of_login executor entry, logIn_of_built executor.around start key built]
  have fit : ∀ request ∈ requests, request.Sound ∧ Header.Bare request.headers := by
    intro request member
    obtain ⟨step, _, made⟩ := Outcome.exists_of_mem_mapM built request member
    exact ⟨Request.sound_ofStep made, Request.bare_ofStep made⟩
  have fine (inside : ∀ request ∈ before, request ∈ requests) : ∀ request ∈ before,
      request.Sound ∧ Header.Bare request.headers ∧ request.IsDeliverable := fun request member =>
    ⟨(fit request (inside request member)).1, (fit request (inside request member)).2,
      deliverable request member⟩
  -- The address is that of the job if nothing comes after it, and that of a login step otherwise.
  rcases List.eq_nil_or_concat later with rfl | ⟨more, last, rfl⟩
  · obtain ⟨rfl, same⟩ := List.append_inj' split rfl
    obtain rfl : plan.request = refused := List.singleton_inj.mp same
    obtain ⟨ready, sent, unknown, reached⟩ := sendSteps_of_deliverable executor.around key requests []
      (fine fun _ member => member) start 1 rfl rfl
    rw [List.append_nil] at sent
    have prepared : start.prepare executor.around plan.target plan.entry = (.ok (), ready) := by
      rw [logs_in, sent]
      rfl
    obtain ⟨error, stays⟩ := send_of_refused executor.around unknown refuses
    rw [runPlan_of_prepared executor network job plan prepared stays] at outcome traces
    rw [Report.BlamesLate, outcome, traces]
    exact ⟨⟨error, rfl⟩, reached (Or.inl some_first)⟩
  · have parts : requests ++ [plan.request] = (before ++ refused :: more) ++ [last] := by
      rw [split, List.append_assoc, List.cons_append, List.concat_eq_append]
    obtain ⟨rfl, _⟩ := List.append_inj' parts rfl
    obtain ⟨ready, sent, unknown, reached⟩ := sendSteps_of_deliverable executor.around key before
      (refused :: more) (fine fun _ member => List.mem_append_left _ member) start 1 rfl rfl
    obtain ⟨error, stays⟩ := send_of_refused executor.around unknown refuses
    have unprepared : start.prepare executor.around plan.target plan.entry =
        (.error (.configuration error), ready) := by
      rw [logs_in, sent, sendSteps, stays]
    rw [runPlan_of_unprepared executor network job plan unprepared] at outcome traces
    rw [Report.BlamesLate, outcome, traces]
    exact ⟨⟨error, rfl⟩, reached (Or.inl some_first)⟩

end

/-- What a report of a job blames when something was sent, its plan does not. -/
theorem mayBlameLate_of_execute {executor : Executor} {network : Network} {job : Job}
    (nonce : isValue executor.around.clientNonce = true)
    (blamed : (executor.execute network job).BlamesLate) : MayBlameLate executor.registry job := by
  obtain ⟨blames, late⟩ := blamed
  cases planned : Executor.plan executor.registry job with
  | error error =>
    simp only [execute, planned] at late
    exact absurd rfl late
  | ok plan =>
    obtain ⟨outcome, traces, _⟩ := execute_of_plan executor network planned
    rw [outcome] at blames
    rw [traces] at late
    cases entry : plan.entry with
    | none => exact absurd (not_late_of_plain planned entry blames) late
    | some known =>
      cases known with
      | password key username password =>
        exact mayBlameLate_of_password planned nonce entry blames late
      | form key steps => exact mayBlameLate_of_login planned entry blames late

theorem execute_of_mayBlameLate {executor : Executor} {job : Job}
    (nonce : isValue executor.around.clientNonce = true)
    (may : MayBlameLate executor.registry job) :
    ∃ network, (executor.execute network job).BlamesLate := by
  cases may with
  | name planned entry illegal ownless deliverable =>
    exact ⟨_, late_of_name planned nonce entry illegal ownless deliverable⟩
  | address planned entry built split some_first deliverable refuses =>
    exact ⟨_, late_of_address executor planned entry built split some_first deliverable refuses⟩

/-! ### Jobs that are judged too -/

theorem not_blames_conclude (job : Job) (accepted : RangeSet) (capture : Capture) (files : Files) :
    ¬Blames (conclude job accepted capture files).1 := by
  rintro ⟨error, blamed⟩
  unfold conclude at blamed
  split at blamed
  · cases blamed
  next read after _ =>
    dsimp only at blamed
    split at blamed
    next fault left saving =>
      obtain rfl := Except.error.inj blamed
      unfold save at saving
      split at saving
      next path payload _ _ =>
        dsimp only at saving
        cases written : (FileSystem.write files path payload.bytes).1 with
        | error reason =>
          rw [written] at saving
          cases saving
        | ok _ =>
          rw [written] at saving
          cases saving
      next => cases saving
    next =>
      split at blamed
      · cases blamed
      · cases blamed

theorem perform_blamesLate_iff (executor : Executor) (network : Network) (files : Files)
    (job : Job) :
    (executor.perform network files job).1.BlamesLate ↔
      (∃ accepted, RangeSet.parse (some job.acceptedCodes) = .ok accepted) ∧
        (executor.execute network job).BlamesLate := by
  cases ranged : RangeSet.parse (some job.acceptedCodes) with
  | error error => simp [perform, ranged, Report.BlamesLate]
  | ok accepted =>
    simp only [Except.ok.injEq, exists_eq', true_and]
    cases outcome : (executor.execute network job).outcome with
    | error error => simp only [perform, ranged, outcome]
    | ok capture =>
      simp only [perform, ranged, outcome, Report.BlamesLate]
      constructor
      · rintro ⟨blames, _⟩
        exact absurd blames (not_blames_conclude job accepted capture files)
      · rintro ⟨⟨error, blamed⟩, _⟩
        cases blamed

/-- The configuration of a job can be blamed too late exactly when its plan leaves one of the two
things unseen, whether the response is judged or only fetched. -/
theorem blamesLate_iff (executor : Executor) (files : Files) (job : Job)
    (nonce : isValue executor.around.clientNonce = true) :
    ((∃ network, (executor.execute network job).BlamesLate) ↔
        MayBlameLate executor.registry job) ∧
      ((∃ network, (executor.perform network files job).1.BlamesLate) ↔
        (∃ accepted, RangeSet.parse (some job.acceptedCodes) = .ok accepted) ∧
          MayBlameLate executor.registry job) := by
  simp only [perform_blamesLate_iff]
  refine ⟨⟨?_, execute_of_mayBlameLate nonce⟩, ?_, ?_⟩
  · rintro ⟨network, blamed⟩
    exact mayBlameLate_of_execute nonce blamed
  · rintro ⟨network, ranged, blamed⟩
    exact ⟨ranged, mayBlameLate_of_execute nonce blamed⟩
  · rintro ⟨ranged, may⟩
    obtain ⟨network, blamed⟩ := execute_of_mayBlameLate nonce may
    exact ⟨network, ranged, blamed⟩

end

attribute [local instance] BodyReader.strict

def hall : Registry where
  entries := [.form "hall" [⟨"http://[::1]/", .post, []⟩]]

def detour : Job where
  url := "http://a\"b/"
  authenticationKey := some "hall"

def detourTarget : Url where
  scheme := "http"
  host := some (.domain "a\"b")
  path := .rooted [""]

theorem plan_detour : Executor.plan hall detour =
    .ok ⟨hall.entries.head?, ⟨.get, "http://a\"b/", [], none⟩, detourTarget⟩ := by
  have read : Request.parseUrl "http://a\"b/" = .ok detourTarget :=
    Outcome.eq_ok_of_toOption (by decide +kernel)
  have text : detourTarget.text = "http://a\"b/" := by decide +kernel
  have encoded : Request.encode .get "http://a\"b/" [] .notSet =
      .ok ⟨.get, "http://a\"b/", [], none⟩ :=
    (Outcome.bind_eq_ok_iff _ _ _).mpr ⟨detourTarget, read, by rw [← text]; rfl⟩
  have made : Request.ofJob detour = .ok ⟨.get, "http://a\"b/", [], none⟩ :=
    (Outcome.bind_eq_ok_iff _ _ _).mpr ⟨_, encoded, rfl⟩
  exact (plan_eq_ok_iff _ _ _).mpr ⟨Outcome.eq_ok_of_toOption (by decide +kernel), made, read⟩

theorem built_hall : [LoginStep.mk "http://[::1]/" .post []].mapM Request.ofStep =
    .ok [⟨.post, "http://[::1]/", [], none⟩] := Outcome.eq_ok_of_toOption (by decide +kernel)

theorem parts_hall : [Request.mk .post "http://[::1]/" [] none] ++
      [⟨.get, "http://a\"b/", [], none⟩] =
    [⟨.post, "http://[::1]/", [], none⟩] ++ ⟨.get, "http://a\"b/", [], none⟩ :: [] := rfl

theorem deliverable_hall : ∀ request ∈ [Request.mk .post "http://[::1]/" [] none],
    request.IsDeliverable := by
  intro request member
  obtain rfl := List.mem_singleton.mp member
  exact ⟨⟨loopback, parseUrl_loopback⟩, Outcome.eq_ok_of_toOption (by decide +kernel),
    ⟨⟨false, none, "[::1]", 80, "/", none⟩, by decide +kernel⟩⟩

theorem isRefused_detour : Request.IsRefused ⟨.get, "http://a\"b/", [], none⟩ := by
  right
  intro sendable
  exact absurd (congrArg Except.toOption sendable) (by decide +kernel)

/-- A login step arrives before the host of the job is found unfit. -/
theorem detour_blamed_late :
    (Executor.execute ⟨hall, ⟨0, "c"⟩⟩ (.scripted [.answer welcome]) detour).BlamesLate := by
  have late := late_of_address ⟨hall, ⟨0, "c"⟩⟩ plan_detour rfl built_hall parts_hall (by simp)
    deliverable_hall isRefused_detour
  exact late

theorem detour_blamed_late_by_some_network :
    (∃ network, (Executor.execute ⟨hall, ⟨0, "c"⟩⟩ network detour).BlamesLate) ∧
      ∃ network, (Executor.perform ⟨hall, ⟨0, "c"⟩⟩ network ({} : Folder) detour).1.BlamesLate := by
  have ranged : RangeSet.parse (some detour.acceptedCodes) = .ok ⟨[⟨100, 399, by decide⟩]⟩ :=
    Outcome.eq_ok_of_toOption (by decide +kernel)
  have may : MayBlameLate hall detour :=
    .address plan_detour rfl built_hall parts_hall (by simp) deliverable_hall isRefused_detour
  have both := blamesLate_iff ⟨hall, ⟨0, "c"⟩⟩ ({} : Folder) detour (by decide)
  exact ⟨both.1.mpr may, both.2.mpr ⟨⟨_, ranged⟩, may⟩⟩

end Executor
end Courier
