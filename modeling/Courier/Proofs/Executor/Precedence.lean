import Courier.Proofs.Executor.Deferral
import Courier.Proofs.Executor.LateBlame
import Courier.Proofs.Registry.Keys
import Courier.Proofs.Url.Ideographs
/-! What is blamed first. The configuration of a job is checked in a fixed order: its key, its URL,
its headers, the length of its host, and the steps of its login. The first check that fails decides,
whatever comes after it, and nothing was sent or written by then. -/

namespace Courier.Executor

/-! ### The checks -/

def AsksForUnknown (registry : Registry) (job : Job) (error : ConfigurationError) : Prop :=
  ∃ key, job.authenticationKey = some key ∧ isBlankText key = false ∧
    (∀ entry ∈ registry.entries, entry.key ≠ key) ∧ error = .unknownAuthentication key

def Unreadable (raw : String) (error : ConfigurationError) : Prop :=
  ∃ reason, Request.parseUrl raw = .error (.invalidUrl raw reason) ∧ error = .invalidUrl raw reason

def HasIllegalHeader (job : Job) (error : ConfigurationError) : Prop :=
  ∃ before header after fault, job.headers = before ++ header :: after ∧
    (∀ earlier ∈ before, Header.fault? (earlier.name, earlier.value) = none) ∧
    Header.fault? (header.name, header.value) = some fault ∧ error = .invalidHeader header.name fault

/-- The URL of the job can be read, but its host has a label that became too long. The error quotes
the URL that was built. -/
def HasOverlongHost (job : Job) (error : ConfigurationError) : Prop :=
  ∃ url, Request.parseUrl job.url = .ok url ∧ url.IsOverlong ∧
    error = .invalidUrl (Request.addressed job.method url job.params).text
      (.unreadable .invalidDomain)

def AsksForLogin (registry : Registry) (job : Job) (steps : List LoginStep) : Prop :=
  ∃ key name, job.authenticationKey = some key ∧ isBlankText key = false ∧
    registry.lookup? key = some (.form name steps)

def HasUnreadableStep (registry : Registry) (job : Job) (error : ConfigurationError) : Prop :=
  ∃ before step after, AsksForLogin registry job (before ++ step :: after) ∧
    (∀ earlier ∈ before, ∀ other, ¬Unreadable earlier.url other) ∧ Unreadable step.url error

/-- What is blamed of a job: each check counts only if the ones before it pass. -/
inductive FirstProblem (registry : Registry) (job : Job) (error : ConfigurationError) : Prop where
  | key (unknown : AsksForUnknown registry job error)
  | url (known : ∀ other, ¬AsksForUnknown registry job other) (unreadable : Unreadable job.url error)
  | header (known : ∀ other, ¬AsksForUnknown registry job other)
      (readable : ∀ other, ¬Unreadable job.url other) (illegal : HasIllegalHeader job error)
  | host (known : ∀ other, ¬AsksForUnknown registry job other)
      (legal : ∀ other, ¬HasIllegalHeader job other) (overlong : HasOverlongHost job error)
  | step (known : ∀ other, ¬AsksForUnknown registry job other)
      (readable : ∀ other, ¬Unreadable job.url other) (legal : ∀ other, ¬HasIllegalHeader job other)
      (short : ∀ other, ¬HasOverlongHost job other)
      (unreadable : HasUnreadableStep registry job error)

def IsCleared (registry : Registry) (job : Job) : Prop :=
  ∃ plan, Executor.plan registry job = .ok plan ∧ ∀ key steps, plan.entry = some (.form key steps) →
    ∃ requests, steps.mapM Request.ofStep = .ok requests

/-- The run came to this error before anything was sent. -/
def StopsAt (report : Report) (network : Network) (error : ConfigurationError) : Prop :=
  report.outcome = .error (.configuration error) ∧ report.traces = [] ∧ report.network = network

/-! ### Each check on its own -/

theorem parseUrl_eq_error_iff (raw : String) (error : ConfigurationError) :
    Request.parseUrl raw = .error error ↔ Unreadable raw error := by
  constructor
  · intro refused
    obtain ⟨reason, rfl⟩ := Request.parseUrl_quotes refused
    exact ⟨reason, refused, rfl⟩
  · rintro ⟨reason, refused, rfl⟩
    exact refused

theorem exists_parseUrl_of_readable {raw : String} (readable : ∀ error, ¬Unreadable raw error) :
    ∃ url, Request.parseUrl raw = .ok url := by
  cases read : Request.parseUrl raw with
  | error error => exact absurd ((parseUrl_eq_error_iff raw error).mp read) (readable error)
  | ok url => exact ⟨url, rfl⟩

theorem ofStep_eq_error_iff (step : LoginStep) (error : ConfigurationError) :
    Request.ofStep step = .error error ↔ Unreadable step.url error := by
  rw [← parseUrl_eq_error_iff]
  cases read : Request.parseUrl step.url with
  | error other => rw [Request.ofStep, Request.encode_of_unread read]; simp
  | ok url =>
    obtain ⟨request, made, _⟩ := Request.encode_of_read read step.method step.params .notSet
    rw [Request.ofStep, made]
    simp

theorem exists_ofStep_of_readable {step : LoginStep}
    (readable : ∀ error, ¬Unreadable step.url error) : ∃ request, Request.ofStep step = .ok request := by
  cases made : Request.ofStep step with
  | error error => exact absurd ((ofStep_eq_error_iff step error).mp made) (readable error)
  | ok request => exact ⟨request, rfl⟩

section

variable {registry : Registry} {job : Job}

theorem authentication?_eq_some_iff (key : String) :
    job.authentication? = some key ↔
      job.authenticationKey = some key ∧ isBlankText key = false := by
  simp [Job.authentication?, Option.filter_eq_some_iff]

theorem authentication_eq_error_iff (error : ConfigurationError) :
    authentication registry job = .error error ↔ AsksForUnknown registry job error := by
  have asks : AsksForUnknown registry job error ↔ ∃ key, job.authentication? = some key ∧
      registry.lookup? key = none ∧ error = .unknownAuthentication key := by
    simp only [AsksForUnknown, authentication?_eq_some_iff, Registry.lookup?_eq_none_iff, and_assoc]
  rw [asks, authentication]
  cases job.authentication? with
  | none => simp
  | some key =>
    cases shown : registry.lookup? key with
    | none => simp [shown, eq_comm]
    | some entry => simp [shown]

theorem authentication_eq_form_iff (steps : List LoginStep) :
    (∃ name, authentication registry job = .ok (some (.form name steps))) ↔
      AsksForLogin registry job steps := by
  have asks : AsksForLogin registry job steps ↔ ∃ key name, job.authentication? = some key ∧
      registry.lookup? key = some (.form name steps) := by
    simp only [AsksForLogin, authentication?_eq_some_iff, and_assoc]
  rw [asks, authentication]
  cases job.authentication? with
  | none => simp
  | some key =>
    cases shown : registry.lookup? key with
    | none => simp [shown]
    | some entry => simp [shown]

theorem exists_authentication_of_known (known : ∀ error, ¬AsksForUnknown registry job error) :
    ∃ entry, authentication registry job = .ok entry := by
  cases asked : authentication registry job with
  | error error => exact absurd ((authentication_eq_error_iff error).mp asked) (known error)
  | ok entry => exact ⟨entry, rfl⟩

theorem ofJob_of_legal {url : Url} (read : Request.parseUrl job.url = .ok url)
    (legal : ∀ error, ¬HasIllegalHeader job error) :
    ∃ request, Request.ofJob job = .ok request ∧
      request.url = (Request.addressed job.method url job.params).text := by
  have fine : Request.headerError? job.headers = none := by
    cases found : Request.headerError? job.headers with
    | none => rfl
    | some error => exact absurd ((Request.headerError?_eq_some_iff _ error).mp found) (legal error)
  obtain ⟨request, made, goes⟩ :=
    Request.encode_of_read read job.method job.params job.contentType
  rw [Request.ofJob, made]
  simp only [bind, Except.bind, fine]
  exact ⟨_, rfl, goes⟩

theorem ofJob_of_illegal {error : ConfigurationError} (readable : ∀ other, ¬Unreadable job.url other)
    (illegal : HasIllegalHeader job error) : Request.ofJob job = .error error := by
  obtain ⟨url, read⟩ := exists_parseUrl_of_readable readable
  obtain ⟨request, made, _⟩ := Request.encode_of_read read job.method job.params job.contentType
  rw [Request.ofJob, made]
  simp only [bind, Except.bind, (Request.headerError?_eq_some_iff _ error).mpr illegal]

/-! ### One after another -/

/-- Jobs that pass all checks of their own have a plan. -/
theorem exists_plan_of_short (known : ∀ error, ¬AsksForUnknown registry job error)
    (readable : ∀ error, ¬Unreadable job.url error)
    (legal : ∀ error, ¬HasIllegalHeader job error)
    (short : ∀ error, ¬HasOverlongHost job error) :
    ∃ plan, Executor.plan registry job = .ok plan := by
  obtain ⟨entry, asked⟩ := exists_authentication_of_known known
  obtain ⟨url, read⟩ := exists_parseUrl_of_readable readable
  obtain ⟨request, made, goes⟩ := ofJob_of_legal read legal
  have fine : ¬(Request.addressed job.method url job.params).IsOverlong := fun overlong =>
    short _ ⟨url, read, (Request.isOverlong_addressed _ _ _).mp overlong, rfl⟩
  have again := (Request.parseUrl_text (Request.isRead_addressed read job.method job.params)).1 fine
  rw [← goes] at again
  exact ⟨⟨entry, request, _⟩, (plan_eq_ok_iff _ _ _).mpr ⟨asked, made, again⟩⟩

theorem entry_of_asksForLogin {steps : List LoginStep} {plan : Plan}
    (planned : Executor.plan registry job = .ok plan) :
    (∃ name, plan.entry = some (.form name steps)) ↔ AsksForLogin registry job steps := by
  rw [← authentication_eq_form_iff, ((plan_eq_ok_iff _ _ _).mp planned).1]
  simp

/-- A problem of the job itself leaves it without a plan; one of a step leaves its login unbuilt. -/
theorem plan_of_firstProblem {error : ConfigurationError}
    (problem : FirstProblem registry job error) :
    Executor.plan registry job = .error error ∨
      ∃ plan name steps, Executor.plan registry job = .ok plan ∧
        plan.entry = some (.form name steps) ∧ steps.mapM Request.ofStep = .error error := by
  cases problem with
  | key unknown =>
    left
    rw [Executor.plan, (authentication_eq_error_iff error).mpr unknown]
    rfl
  | url known unreadable =>
    left
    obtain ⟨entry, asked⟩ := exists_authentication_of_known known
    have refused := (parseUrl_eq_error_iff _ _).mpr unreadable
    rw [Executor.plan, asked, Request.ofJob, Request.encode_of_unread refused]
    rfl
  | header known readable illegal =>
    left
    obtain ⟨entry, asked⟩ := exists_authentication_of_known known
    rw [Executor.plan, asked, ofJob_of_illegal readable illegal]
    rfl
  | host known legal overlong =>
    left
    obtain ⟨entry, asked⟩ := exists_authentication_of_known known
    obtain ⟨url, read, overlong, rfl⟩ := overlong
    obtain ⟨request, made, goes⟩ := ofJob_of_legal read legal
    have refused := (Request.parseUrl_text (Request.isRead_addressed read job.method job.params)).2
      ((Request.isOverlong_addressed job.method url job.params).mpr overlong)
    rw [← goes] at refused ⊢
    simp only [Executor.plan, asked, made, refused, bind, Except.bind]
  | step known readable legal short unreadable =>
    right
    obtain ⟨plan, planned⟩ := exists_plan_of_short known readable legal short
    obtain ⟨before, step, after, asks, earlier, refused⟩ := unreadable
    obtain ⟨name, entry⟩ := (entry_of_asksForLogin planned).mpr asks
    refine ⟨plan, name, _, planned, entry, ?_⟩
    exact Outcome.mapM_first_error
      (fun other member => exists_ofStep_of_readable (earlier other member))
      ((ofStep_eq_error_iff _ _).mpr refused)

end

/-- Nothing else is left to check. -/
theorem isCleared_of_no_problem {registry : Registry} {job : Job}
    (none_found : ∀ error, ¬FirstProblem registry job error) : IsCleared registry job := by
  have known : ∀ error, ¬AsksForUnknown registry job error :=
    fun error unknown => none_found error (.key unknown)
  have readable : ∀ error, ¬Unreadable job.url error :=
    fun error unreadable => none_found error (.url known unreadable)
  have legal : ∀ error, ¬HasIllegalHeader job error :=
    fun error illegal => none_found error (.header known readable illegal)
  have short : ∀ error, ¬HasOverlongHost job error :=
    fun error overlong => none_found error (.host known legal overlong)
  obtain ⟨plan, planned⟩ := exists_plan_of_short known readable legal short
  refine ⟨plan, planned, fun key steps entry => ?_⟩
  cases built : steps.mapM Request.ofStep with
  | ok requests => exact ⟨requests, rfl⟩
  | error error =>
    obtain ⟨before, step, after, rfl, succeed, refused⟩ := Outcome.exists_first_error built
    have asks := (entry_of_asksForLogin planned).mp ⟨key, entry⟩
    have earlier : ∀ earlier ∈ before, ∀ other, ¬Unreadable earlier.url other := by
      intro earlier member other unreadable
      obtain ⟨request, made⟩ := succeed earlier member
      rw [(ofStep_eq_error_iff _ _).mpr unreadable] at made
      cases made
    exact absurd (.step known readable legal short ⟨before, step, after, asks, earlier,
      (ofStep_eq_error_iff _ _).mp refused⟩) (none_found error)

section

variable [BodyReader] {Files : Type} [FileSystem Files]

theorem execute_of_firstProblem (executor : Executor) (network : Network) {job : Job}
    {error : ConfigurationError} (problem : FirstProblem executor.registry job error) :
    StopsAt (executor.execute network job) network error := by
  rcases plan_of_firstProblem problem with unplanned | ⟨plan, name, steps, planned, entry, flawed⟩
  · rw [execute_of_unplanned job unplanned]
    exact ⟨rfl, rfl, rfl⟩
  · obtain ⟨outcome, traces, left⟩ := execute_of_plan executor network planned
    rw [StopsAt, outcome, traces, left, runPlan_of_flawed executor network entry flawed]
    exact ⟨rfl, rfl, rfl⟩

/-- A judged job fails first for its accepted codes, and then no line is written. Otherwise it fails,
as a fetched job does, for the first problem of its configuration. Nothing is sent or written in any
of these cases, and in no other is the configuration without a plan. -/
theorem perform_blames_first_problem (executor : Executor) (network : Network) (files : Files)
    (job : Job) :
    (∀ error, RangeSet.parse (some job.acceptedCodes) = .error error →
      executor.perform network files job =
        ({ outcome := .error (.configuration (.invalidRange error)), lines := [], traces := [],
            network }, files)) ∧
    (∀ error, FirstProblem executor.registry job error →
      StopsAt (executor.execute network job) network error ∧
      ((∃ accepted, RangeSet.parse (some job.acceptedCodes) = .ok accepted) →
        executor.perform network files job = (executor.execute network job, files))) ∧
    ((∀ error, ¬FirstProblem executor.registry job error) → IsCleared executor.registry job) := by
  refine ⟨fun error unranged => perform_of_unranged files job unranged, fun error problem => ?_,
    isCleared_of_no_problem⟩
  have stops := execute_of_firstProblem executor network problem
  exact ⟨stops, fun ⟨accepted, ranged⟩ => perform_of_failed files job ranged stops.1⟩

end

attribute [local instance] BodyReader.strict

def maze : Registry where
  entries := [.form "hall" [⟨"http://[::1]/", .post, []⟩, ⟨"nowhere", .post, []⟩]]

theorem unreadable_nowhere :
    Unreadable "nowhere" (.invalidUrl "nowhere" (.unreadable .relativeWithoutBase)) :=
  ⟨_, by decide +kernel, rfl⟩

theorem hasUnreadableStep_maze {job : Job} (asks : job.authenticationKey = some "hall") :
    HasUnreadableStep maze job (.invalidUrl "nowhere" (.unreadable .relativeWithoutBase)) := by
  refine ⟨[⟨"http://[::1]/", .post, []⟩], ⟨"nowhere", .post, []⟩, [], ?_, ?_, unreadable_nowhere⟩
  · exact ⟨"hall", "hall", asks, by decide +kernel, by decide +kernel⟩
  · intro earlier member other unreadable
    rw [List.mem_singleton.mp member, ← parseUrl_eq_error_iff, Session.parseUrl_loopback] at unreadable
    cases unreadable

theorem known_maze {job : Job} (asks : job.authenticationKey = some "hall")
    (error : ConfigurationError) : ¬AsksForUnknown maze job error := by
  rintro ⟨key, given, _, unknown, _⟩
  obtain rfl := Option.some.inj (asks.symm.trans given)
  exact unknown (.form "hall" [⟨"http://[::1]/", .post, []⟩, ⟨"nowhere", .post, []⟩])
    (by simp [maze]) rfl

def scrawl : Job where
  url := "http://[::1]/"
  headers := [⟨"Ink", "black"⟩, ⟨"Red ink", "red"⟩]
  authenticationKey := some "hall"

theorem scrawl_blamed_for_header :
    let executor : Executor := ⟨maze, ⟨0, "c"⟩⟩
    let network := Network.scripted [.answer welcome]
    HasUnreadableStep maze scrawl (.invalidUrl "nowhere" (.unreadable .relativeWithoutBase)) ∧
      StopsAt (executor.execute network scrawl) network (.invalidHeader "Red ink" .name) ∧
      executor.perform network ({} : Folder) scrawl = (executor.execute network scrawl, {}) ∧
      executor.perform network ({} : Folder) { scrawl with acceptedCodes := "high" } =
        ({ outcome := .error (.configuration (.invalidRange (.malformed "high"))), lines := [],
            traces := [], network }, {}) ∧
      IsCleared maze { url := "http://[::1]/" } := by
  intro executor network
  have legal : Header.fault? ("Ink", "black") = none := by decide +kernel
  have illegal : HasIllegalHeader scrawl (.invalidHeader "Red ink" .name) := by
    refine ⟨[⟨"Ink", "black"⟩], ⟨"Red ink", "red"⟩, [], .name, rfl, ?_, by decide +kernel, rfl⟩
    exact fun earlier member => List.mem_singleton.mp member ▸ legal
  have readable : ∀ error, ¬Unreadable "http://[::1]/" error := by
    intro error unreadable
    rw [← parseUrl_eq_error_iff, Session.parseUrl_loopback] at unreadable
    cases unreadable
  have ranged : RangeSet.parse (some scrawl.acceptedCodes) = .ok ⟨[⟨100, 399, by decide⟩]⟩ :=
    Outcome.eq_ok_of_toOption (by decide +kernel)
  have unranged : RangeSet.parse (some "high") = .error (.malformed "high") := by decide +kernel
  have blamed := (perform_blames_first_problem executor network ({} : Folder) scrawl).2.1 _
    (.header (known_maze rfl) readable illegal)
  have refused := (perform_blames_first_problem executor network ({} : Folder)
    { scrawl with acceptedCodes := "high" }).1 _ unranged
  have cleared := (perform_blames_first_problem executor network ({} : Folder) { url := "http://[::1]/" }).2.2
  refine ⟨hasUnreadableStep_maze rfl, blamed.1, blamed.2 ⟨_, ranged⟩, refused, cleared ?_⟩
  rintro error (⟨_, given, _⟩ | ⟨_, unreadable⟩ | ⟨_, _, before, header, after, fault, given, _⟩ |
    ⟨_, _, url, read, overlong, _⟩ | ⟨_, _, _, _, _, _, _, ⟨_, _, given, _⟩, _⟩)
  · cases given
  · exact readable error unreadable
  · exact absurd given.symm (by simp)
  · obtain rfl := Except.ok.inj (Session.parseUrl_loopback.symm.trans read)
    obtain ⟨host, hosted, name, rfl, _⟩ := overlong
    cases hosted
  · cases given

def winding : Job where
  url := String.ofList (Url.shown (Url.ladder 800))
  authenticationKey := some "hall"

/-- The host is blamed before the login, although the key is known, the URL can be read and there are
no headers. -/
theorem winding_blamed_for_host :
    let executor : Executor := ⟨maze, ⟨0, "c"⟩⟩
    let network := Network.scripted [.answer welcome]
    let built := (Url.ofLabel (Url.ladder 800)).text
    (∀ error, ¬AsksForUnknown maze winding error) ∧ (∀ error, ¬Unreadable winding.url error) ∧
      (∀ error, ¬HasIllegalHeader winding error) ∧
      HasUnreadableStep maze winding (.invalidUrl "nowhere" (.unreadable .relativeWithoutBase)) ∧
      (executor.execute network winding).outcome =
        .error (.configuration (.invalidUrl built (.unreadable .invalidDomain))) ∧
      (executor.perform network ({} : Folder) winding).1.outcome =
        .error (.configuration (.invalidUrl built (.unreadable .invalidDomain))) ∧
      ¬StopsAt (executor.execute network winding) network
        (.invalidUrl "nowhere" (.unreadable .relativeWithoutBase)) := by
  intro executor network built
  obtain ⟨read, overlong⟩ := Url.isOverlong_ladder (show 800 ≤ 800 by omega) (by omega)
  have readable : ∀ error, ¬Unreadable winding.url error := by
    intro error unreadable
    rw [← parseUrl_eq_error_iff, winding, read] at unreadable
    cases unreadable
  have legal : ∀ error, ¬HasIllegalHeader winding error := by
    rintro error ⟨before, header, after, fault, given, _⟩
    exact absurd given.symm (by simp [winding])
  have ranged : RangeSet.parse (some winding.acceptedCodes) = .ok ⟨[⟨100, 399, by decide⟩]⟩ :=
    Outcome.eq_ok_of_toOption (by decide +kernel)
  have blamed := execute_of_firstProblem executor network
    (.host (known_maze rfl) legal ⟨_, read, overlong, rfl⟩)
  refine ⟨known_maze rfl, readable, legal, hasUnreadableStep_maze rfl, blamed.1, ?_, ?_⟩
  · rw [perform_of_failed _ _ ranged blamed.1]
    exact blamed.1
  · rintro ⟨outcome, _⟩
    have errors := Error.configuration.inj (Except.error.inj (blamed.1.symm.trans outcome))
    cases (ConfigurationError.invalidUrl.inj errors).2

end Courier.Executor
