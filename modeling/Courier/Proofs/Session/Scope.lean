import Courier.Proofs.Session.Challenge
import Courier.Proofs.Session.Login
import Courier.Proofs.Transport.Arrivals
import Courier.Proofs.Url.Place
/-! Credentials stay with their host and port. Whatever steps a session takes and whatever answers it
gets, an authorization arrives only at the place of the credentials that were installed last, as long
as no request brings one of its own and no address names a user. -/

namespace Courier

open Header (Bare)

/-- Whether a destination is the host and the port of credentials. A destination has its host as it
stands in the text of a URL, credentials have it as it is read. -/
def Destination.GoesTo (destination : Destination) (credentials : Credentials) : Prop :=
  (∃ host, Url.readHost destination.host.toList = .ok host ∧ host.text = credentials.host) ∧
    credentials.port = some destination.port

/-- A request without an authorization of its own, to an address that names no user. -/
structure Request.Plain (request : Request) : Prop where
  bare : Bare request.headers
  userless : ∀ destination, Destination.ofText? request.url = some destination →
    destination.userinfo = none

namespace Session

def Step.MaySend : Step → Request → Prop
  | .prepare _ (some (.form _ steps)), request => ∃ step ∈ steps, Request.ofStep step = .ok request
  | .send own, request => request = own
  | _, _ => False

def Step.installs? : Step → Option Credentials
  | .install target username password
  | .prepare target (some (.password _ username password)) =>
    some ⟨target.hostText?.getD "", target.effectivePort?, username, password⟩
  | _ => none

def after (session : Session) (history : List (Surroundings × Step)) : Session :=
  history.foldl (fun session entry => (session.step entry.1 entry.2).2) session

def lastInstalled? (history : List (Surroundings × Step)) : Option Credentials :=
  history.reverse.findSome? fun entry => entry.2.installs?

theorem after_concat (session : Session) (history : List (Surroundings × Step))
    (around : Surroundings) (step : Step) :
    session.after (history ++ [(around, step)]) = ((session.after history).step around step).2 := by
  simp only [after, List.foldl_append, List.foldl_cons, List.foldl_nil]

theorem lastInstalled?_concat (history : List (Surroundings × Step)) (around : Surroundings)
    (step : Step) :
    lastInstalled? (history ++ [(around, step)]) = (step.installs? <|> lastInstalled? history) := by
  simp only [lastInstalled?, List.reverse_append, List.reverse_singleton, List.singleton_append,
    List.findSome?_cons]
  cases step.installs? <;> rfl

theorem isSome_lastInstalled?_iff (history : List (Surroundings × Step)) :
    (lastInstalled? history).isSome = true ↔ ∃ entry ∈ history, entry.2.installs? ≠ none := by
  simp only [lastInstalled?, List.isSome_findSome?, List.any_eq_true, List.mem_reverse,
    Option.isSome_iff_ne_none]

/-! ### Credentials -/

theorem sendSteps_credentials (around : Surroundings) (key : String) (requests : List Request)
    (session : Session) (number : Nat) :
    (session.sendSteps around key number requests).2.credentials = session.credentials := by
  induction requests generalizing session number with
  | nil => rfl
  | cons request rest ih =>
    rcases sent : session.send around request with ⟨outcome, between⟩
    have kept : between.credentials = session.credentials := by
      rw [← send_credentials around session request, sent]
    rcases sendSteps_cons sent key number rest with ⟨_, next⟩ | ⟨error, _, stop⟩
    · rw [next, ih between (number + 1), kept]
    · rw [stop, kept]

theorem logIn_credentials (around : Surroundings) (session : Session) (key : String)
    (steps : List LoginStep) :
    (session.logIn around key steps).2.credentials = session.credentials := by
  cases built : steps.mapM Request.ofStep with
  | error error => rw [logIn_of_flawed around session key built]
  | ok requests => rw [logIn_of_built around session key built, sendSteps_credentials]

theorem step_send_snd (around : Surroundings) (session : Session) (request : Request) :
    (session.step around (.send request)).2 = (session.send around request).2 := by
  rcases sent : session.send around request with ⟨outcome, left⟩
  simp only [step, sent]

theorem step_logIn_snd (around : Surroundings) (session : Session) (target : Url) (key : String)
    (steps : List LoginStep) :
    (session.step around (.prepare target (some (.form key steps)))).2 =
      (session.logIn around key steps).2 := by
  rcases sent : session.logIn around key steps with ⟨outcome, left⟩
  simp only [step, prepare, sent]

/-- A step changes credentials only by installing some, whether it fails or not. -/
theorem step_credentials (around : Surroundings) (session : Session) (step : Step) :
    (session.step around step).2.credentials = (step.installs? <|> session.credentials) := by
  cases step with
  | install target username password => rfl
  | send request => rw [step_send_snd, send_credentials]; rfl
  | prepare target entry =>
    cases entry with
    | none => rfl
    | some entry =>
      cases entry with
      | password key username password => rfl
      | form key steps => rw [step_logIn_snd, logIn_credentials]; rfl

theorem after_credentials (timeout : Nat) (network : Network)
    (history : List (Surroundings × Step)) :
    ((start timeout network).after history).credentials = lastInstalled? history := by
  induction history using List.reverseRecOn with
  | nil => rfl
  | append_singleton history entry ih =>
    rw [after_concat, step_credentials, ih, lastInstalled?_concat]

/-! ### Authorizations -/

def IsHome (credentials? : Option Credentials) (destination : Destination) : Prop :=
  ∃ credentials, credentials? = some credentials ∧ destination.GoesTo credentials

/-- Running a request reveals at most the authorization it is run with, and to its own place. -/
theorem run_reveals (around : Surroundings) (session : Session) (request : Request)
    (authorization : Option String) (plain : request.Plain)
    (quiet : session.wire.network.Userless) :
    Reveals (fun place => authorization ≠ none ∧ Strict.check request.url = .ok () ∧
        Destination.ofText? request.url = some place) session.wire
      (session.run around request authorization).2.wire := by
  rcases run_hands_over around session request authorization with
    ⟨same, _⟩ | ⟨destination, placed, fit, ran⟩
  · rw [same]
    exact .refl _ _
  · rw [ran]
    have checked := ((message_eq_ok_iff request authorization _).mp fit).1
    have revealed := Wire.follow_reveals around.now Wire.greatestRedirects session.wire destination
      (handed request authorization) quiet (plain.userless destination placed)
    refine revealed.mono fun place allowed => ⟨?_, checked, by rw [allowed.1, placed]⟩
    rintro rfl
    exact allowed.2 ((headers_handed_none request).symm ▸ plain.bare)

theorem goesTo_of_inScope {session : Session} {url : Url} {request : Request}
    {credentials : Credentials} {destination : Destination}
    (scope : InScope session url request credentials)
    (readable : Request.parseUrl request.url = .ok url) (plain : request.Plain)
    (checked : Strict.check request.url = .ok ())
    (placed : Destination.ofText? request.url = some destination) :
    destination.GoesTo credentials := by
  obtain ⟨⟨host, read, known⟩, port⟩ :=
    parseUrl_eq_ok_of_placed readable checked placed (plain.userless destination placed)
  have text : url.hostText? = some host.text := by rw [Url.hostText?, known]; rfl
  exact ⟨⟨host, read, Option.some.inj (text.symm.trans scope.host)⟩, scope.port.symm.trans port⟩

theorem send_reveals (around : Surroundings) (session : Session) (request : Request)
    (plain : request.Plain) (quiet : session.wire.network.Userless) :
    Reveals (IsHome session.credentials) session.wire (session.send around request).2.wire := by
  cases readable : Request.parseUrl request.url with
  | error error =>
    rw [send_of_unreadable around session request readable]
    exact .refl _ _
  | ok url =>
    -- Both runs are for one address, so one fact about its place serves them both.
    have home : ∀ credentials, session.credentialsFor url request = some credentials →
        ∀ place, Strict.check request.url = .ok () → Destination.ofText? request.url = some place →
          IsHome session.credentials place := by
      intro credentials applies place checked placed
      have scope := (credentialsFor_eq_some_iff session url request credentials).mp applies
      exact ⟨credentials, scope.installed, goesTo_of_inScope scope readable plain checked placed⟩
    have first := run_reveals around session request
      ((session.credentialsFor url request).map Credentials.basic) plain quiet
    have first_home : Reveals (IsHome session.credentials) session.wire
        (session.run around request ((session.credentialsFor url request).map Credentials.basic)).2.wire := by
      refine first.mono fun place allowed => ?_
      obtain ⟨credentials, applies⟩ := Option.ne_none_iff_exists'.mp
        (mt Option.map_eq_none_iff.mpr allowed.1)
      exact home credentials applies place allowed.2.1 allowed.2.2
    rw [send_of_readable around session request readable]
    dsimp only
    split
    next => exact first_home
    next authorization replied =>
      have again := run_reveals around
        (session.run around request ((session.credentialsFor url request).map Credentials.basic)).2
        request (some authorization) plain (first.userless quiet)
      obtain ⟨credentials, _, _, scope, _⟩ :=
        (reply?_eq_some_iff around session request url _ authorization).mp replied
      have applies := (credentialsFor_eq_some_iff session url request credentials).mpr scope
      exact first_home.trans (again.mono fun place allowed =>
        home credentials applies place allowed.2.1 allowed.2.2)

theorem sendSteps_reveals (around : Surroundings) (key : String) (requests : List Request)
    (plain : ∀ request ∈ requests, request.Plain) (session : Session) (number : Nat)
    (quiet : session.wire.network.Userless) :
    Reveals (IsHome session.credentials) session.wire
      (session.sendSteps around key number requests).2.wire := by
  induction requests generalizing session number with
  | nil => exact .refl _ _
  | cons request rest ih =>
    obtain ⟨here, others⟩ := List.forall_mem_cons.mp plain
    have first := send_reveals around session request here quiet
    have kept := send_credentials around session request
    rcases sent : session.send around request with ⟨outcome, between⟩
    rw [sent] at first kept
    rcases sendSteps_cons sent key number rest with ⟨_, next⟩ | ⟨error, _, stop⟩
    · rw [next]
      have more := ih others between (number + 1) (first.userless quiet)
      rw [kept] at more
      exact first.trans more
    · rw [stop]
      exact first

/-- One step reveals an authorization only to the place of the credentials before it. -/
theorem step_reveals (around : Surroundings) (session : Session) (step : Step)
    (plain : ∀ request, step.MaySend request → request.Plain)
    (quiet : session.wire.network.Userless) :
    Reveals (IsHome session.credentials) session.wire (session.step around step).2.wire := by
  cases step with
  | install target username password => exact .refl _ _
  | send request =>
    rw [step_send_snd]
    exact send_reveals around session request (plain request rfl) quiet
  | prepare target entry =>
    cases entry with
    | none => exact .refl _ _
    | some entry =>
      cases entry with
      | password key username password => exact .refl _ _
      | form key steps =>
        rw [step_logIn_snd]
        cases built : steps.mapM Request.ofStep with
        | error error =>
          rw [logIn_of_flawed around session key built]
          exact .refl _ _
        | ok requests =>
          rw [logIn_of_built around session key built]
          apply sendSteps_reveals around key requests _ session 1 quiet
          intro request member
          exact plain request (Outcome.exists_of_mem_mapM built request member)

/-- What holds of a session between the steps `earlier` and one more step. -/
structure Confines (before : Session) (earlier : List (Surroundings × Step))
    (around : Surroundings) (step : Step) : Prop where
  /-- Only a step that installs credentials changes them. -/
  kept : step.installs? = none → (before.step around step).2.credentials = before.credentials
  /-- Each authorization that arrives goes to the place of the credentials installed last. -/
  traces : ∃ added, (before.step around step).2.wire.traces = before.wire.traces ++ added ∧
    ∀ arrival, .arrived arrival ∈ added → arrival.HasAuthorization →
      ∃ credentials, lastInstalled? earlier = some credentials ∧
        arrival.destination.GoesTo credentials

theorem after_userless {timeout : Nat} {network : Network} (quiet : network.Userless)
    {history : List (Surroundings × Step)}
    (plain : ∀ entry ∈ history, ∀ request, entry.2.MaySend request → request.Plain) :
    ((start timeout network).after history).wire.network.Userless := by
  induction history using List.reverseRecOn with
  | nil => exact quiet
  | append_singleton history entry ih =>
    have before := ih fun other member => plain other (List.mem_append_left _ member)
    rw [after_concat]
    exact (step_reveals entry.1 _ entry.2 (plain entry (by simp)) before).userless before

/-- Credentials never leave their host and port, and only installing some changes which they are. -/
theorem credentials_stay_home (timeout : Nat) (network : Network)
    (history : List (Surroundings × Step)) (quiet : network.Userless)
    (plain : ∀ entry ∈ history, ∀ request, entry.2.MaySend request → request.Plain) :
    (∀ done todo, history = done ++ todo →
      ((start timeout network).after done).credentials = lastInstalled? done ∧
        (((start timeout network).after done).credentials.isSome = true ↔
          ∃ entry ∈ done, entry.2.installs? ≠ none)) ∧
    ∀ earlier around step later, history = earlier ++ (around, step) :: later →
      Confines ((start timeout network).after earlier) earlier around step := by
  constructor
  · intro done todo _
    rw [after_credentials]
    exact ⟨rfl, isSome_lastInstalled?_iff done⟩
  · rintro earlier around step later rfl
    have early : ∀ entry ∈ earlier, ∀ request, entry.2.MaySend request → request.Plain :=
      fun entry member => plain entry (List.mem_append_left _ member)
    constructor
    case kept =>
      intro installs
      rw [step_credentials, installs]
      rfl
    case traces =>
      have reveals := step_reveals around ((start timeout network).after earlier) step
        (plain (around, step) (by simp)) (after_userless quiet early)
      obtain ⟨added, traces, home⟩ := reveals.traces
      refine ⟨added, traces, fun arrival member carries => ?_⟩
      obtain ⟨credentials, known, goes⟩ := home arrival member carries
      exact ⟨credentials, (after_credentials timeout network earlier).symm.trans known, goes⟩

def visit : List (Surroundings × Step) :=
  [(⟨0, "c"⟩, .install loopback "ann" "open"), (⟨0, "c"⟩, .send ⟨.get, "http://[::1]/", [], none⟩)]

theorem visit_stays_home :
    let network := Network.scripted [.answer ⟨200, [], .whole []⟩]
    Confines ((start 1000 network).after (visit.take 1)) (visit.take 1) ⟨0, "c"⟩
        (.send ⟨.get, "http://[::1]/", [], none⟩) ∧
      ∃ arrival, ((start 1000 network).after visit).wire.traces = [.arrived arrival] ∧
        arrival.HasAuthorization := by
  intro network
  have quiet : network.Userless := by
    intro replies same response member header own
    obtain rfl := Network.scripted.inj same
    simp only [List.mem_singleton, Reply.answer.injEq] at member
    simp [member] at own
  have placed : Destination.ofText? "http://[::1]/" =
      some ⟨false, none, "[::1]", 80, "/", none⟩ := by decide +kernel
  have plain : ∀ entry ∈ visit, ∀ request, entry.2.MaySend request → request.Plain := by
    intro entry member request sends
    simp only [visit, List.mem_cons, List.not_mem_nil, or_false] at member
    rcases member with rfl | rfl
    · cases sends
    · obtain rfl := sends
      refine ⟨by simp [Bare], fun destination known => ?_⟩
      rw [placed] at known
      exact congrArg Destination.userinfo (Option.some.inj known).symm
  refine ⟨(credentials_stay_home 1000 network visit quiet plain).2 (visit.take 1) _ _ [] rfl, ?_⟩
  refine ⟨⟨.get, ⟨false, none, "[::1]", 80, "/", none⟩,
    [("authorization", "Basic YW5uOm9wZW4=")], ""⟩, by decide +kernel, ?_⟩
  exact ⟨_, List.mem_singleton_self _, by decide⟩

end Session
end Courier
