import Courier.Proofs.Session.Challenge
import Courier.Proofs.Session.Login
import Courier.Proofs.Transport.Origins
/-! Where the requests of a session come from. Each stems from one of the requests that were to be
sent; what a session adds to it is the token of its credentials, or their answer to a challenge in a
response that it received itself. -/

namespace Courier.Session

/-- How a session with these credentials comes to an authorization for a request, after what was
seen. -/
inductive Authorizes (script : Network) (around : Surroundings) (credentials? : Option Credentials)
    (seen : List Trace) (request : Request) : Option String → Prop where
  | bare : Authorizes script around credentials? seen request none
  | told {credentials : Credentials} (own : credentials? = some credentials) :
      Authorizes script around credentials? seen request (some credentials.basic)
  | answer {credentials : Credentials} {url : Url} {arrival : Arrival} {response : Response}
      {challenge : Digest.Challenge} (own : credentials? = some credentials)
      (readable : Request.parseUrl request.url = .ok url)
      (answered : script.Answered seen arrival response) (refused : response.status = 401)
      (first : IsFirstChallenge (Header.values "www-authenticate" response.headers) challenge) :
      Authorizes script around credentials? seen request (some (challenge.authorization
        request.method.name url.target credentials.username credentials.password
        around.clientNonce))

def Explains (script : Network) (around : Surroundings) (credentials? : Option Credentials)
    (may : Request → Prop) (seen : List Trace) (arrival : Arrival) : Prop :=
  ∃ request first authorization, may request ∧ Destination.ofText? request.url = some first ∧
    Authorizes script around credentials? seen request authorization ∧
    arrival.Stems script around.now seen (handed request authorization) first

section

variable {script : Network} {around : Surroundings} {credentials? : Option Credentials}
  {may : Request → Prop}

theorem Authorizes.mono {seen more : List Trace} (grown : seen <+: more) {request : Request}
    {authorization : Option String}
    (authorizes : Authorizes script around credentials? seen request authorization) :
    Authorizes script around credentials? more request authorization := by
  cases authorizes with
  | bare => exact .bare
  | told own => exact .told own
  | answer own readable answered refused first =>
    exact .answer own readable (answered.mono grown) refused first

variable {session : Session}
  (follows : session.wire.Follows script around.now (Explains script around credentials? may))
include follows

theorem run_advances {request : Request} (allowed : may request) {authorization : Option String}
    (authorizes : Authorizes script around credentials? session.wire.traces request authorization) :
    session.wire.Advances script around.now (Explains script around credentials? may)
      (session.run around request authorization).1
      (session.run around request authorization).2.wire := by
  cases made : message request authorization with
  | error reason =>
    rw [run_of_unfit around session request made]
    exact .of_error follows _
  | ok text =>
    obtain ⟨_, _, rfl⟩ := (message_eq_ok_iff request authorization text).mp made
    cases placed : Destination.ofText? request.url with
    | none =>
      rw [run_of_unplaced around session request made placed]
      exact .of_error follows _
    | some destination =>
      have sent := Wire.follow_advances Wire.greatestRedirects follows
        (Message.isPart_refl (handed request authorization)) (.inl rfl)
        fun seen arrival grown stems => ⟨request, destination, authorization, allowed, placed,
          authorizes.mono grown, stems⟩
      rw [run_of_placed around session request made placed]
      refine ⟨sent.follows, sent.grown, fun response given => ?_⟩
      exact sent.answered response ((Outcome.mapError_eq_ok_iff _ _ _).mp given)

theorem send_advances (own : session.credentials = credentials?) {request : Request}
    (allowed : may request) :
    session.wire.Advances script around.now (Explains script around credentials? may)
      (session.send around request).1 (session.send around request).2.wire := by
  cases readable : Request.parseUrl request.url with
  | error error =>
    rw [send_of_unreadable around session request readable]
    exact .of_error follows _
  | ok url =>
    have told : Authorizes script around credentials? session.wire.traces request
        ((session.credentialsFor url request).map Credentials.basic) := by
      cases applies : session.credentialsFor url request with
      | none => exact .bare
      | some credentials =>
        have scope := (credentialsFor_eq_some_iff session url request credentials).mp applies
        exact .told (own.symm.trans scope.installed)
    have first := run_advances follows allowed told
    rw [send_of_readable around session request readable]
    dsimp only
    split
    next => exact first
    next authorization replied =>
      -- The challenge is one that the first run was answered with, so it was seen before the second.
      obtain ⟨credentials, response, challenge, scope, given, refused, challenges, rfl⟩ :=
        (reply?_eq_some_iff around session request url _ authorization).mp replied
      obtain ⟨arrival, answered⟩ := first.answered response given
      exact first.trans (run_advances first.follows allowed
        (.answer (own.symm.trans scope.installed) readable answered refused challenges))

theorem sendSteps_follows (own : session.credentials = credentials?) (key : String)
    (requests : List Request) (allowed : ∀ request ∈ requests, may request) (number : Nat) :
    (session.sendSteps around key number requests).2.wire.Follows script around.now
      (Explains script around credentials? may) := by
  induction requests generalizing session number with
  | nil => exact follows
  | cons request rest ih =>
    obtain ⟨here, others⟩ := List.forall_mem_cons.mp allowed
    have first := send_advances follows own here
    have kept := send_credentials around session request
    rcases sent : session.send around request with ⟨outcome, between⟩
    rw [sent] at first kept
    rcases sendSteps_cons sent key number rest with ⟨_, next⟩ | ⟨error, _, stop⟩
    · rw [next]
      exact ih first.follows (kept.trans own) others (number + 1)
    · rw [stop]
      exact first.follows

theorem logIn_follows (own : session.credentials = credentials?) (key : String)
    {steps : List LoginStep}
    (allowed : ∀ step ∈ steps, ∀ request, Request.ofStep step = .ok request → may request) :
    (session.logIn around key steps).2.wire.Follows script around.now
      (Explains script around credentials? may) := by
  cases built : steps.mapM Request.ofStep with
  | error error =>
    rw [logIn_of_flawed around session key built]
    exact follows
  | ok requests =>
    rw [logIn_of_built around session key built]
    apply sendSteps_follows follows own
    intro request member
    obtain ⟨step, listed, made⟩ := Outcome.exists_of_mem_mapM built request member
    exact allowed step listed request made

end

end Courier.Session
