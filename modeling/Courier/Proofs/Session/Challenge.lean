import Courier.Proofs.Header
import Courier.Proofs.Session.Run
/-! How sending a request uses credentials and challenges. A request is run once, with the
credentials told outright if they are meant for its host and port and it has none of its own. It is
run a second time exactly when such a first run is refused with a challenge, and then never again. -/

namespace Courier.Session

structure Attempt where
  before : Session
  authorization : Option String
  outcome : Except Error Response
  after : Session

def Attempt.IsRun (around : Surroundings) (request : Request) (attempt : Attempt) : Prop :=
  attempt.before.run around request attempt.authorization = (attempt.outcome, attempt.after)

/-- Whether an attempt failed and left the session alone, or handed one message to the wire: the method,
the fields and the body of the request, with the authorization as one more field. -/
def Attempt.HandsOver (around : Surroundings) (request : Request) (attempt : Attempt) : Prop :=
  (attempt.after = attempt.before ∧ ∃ error, attempt.outcome = .error error) ∨
    ∃ destination, Destination.ofText? request.url = some destination ∧
      attempt.after = { attempt.before with
        wire := (attempt.before.wire.exchange around.now destination {
          method := request.method
          headers := request.headers ++
            (attempt.authorization.map fun value => ("Authorization", value)).toList
          body := request.body }).2 }

structure InScope (session : Session) (url : Url) (request : Request)
    (credentials : Credentials) : Prop where
  installed : session.credentials = some credentials
  host : url.hostText? = some credentials.host
  port : url.effectivePort? = credentials.port
  ownless : Header.Bare request.headers

/-- Whether a challenge is that of the first readable value that holds one. -/
def IsFirstChallenge (values : List String) (challenge : Digest.Challenge) : Prop :=
  ∃ before value after, values = before ++ value :: after ∧ Header.isReadable value ∧
    Digest.Challenge.parse? value = some challenge ∧
    ∀ earlier ∈ before, Header.isReadable earlier → Digest.Challenge.parse? earlier = none

theorem credentialsFor_eq_some_iff (session : Session) (url : Url) (request : Request)
    (credentials : Credentials) :
    session.credentialsFor url request = some credentials ↔
      InScope session url request credentials := by
  have lower : asciiLowerText "authorization" = "authorization" := by decide
  simp only [credentialsFor, Option.filter_eq_some_iff, Bool.and_eq_true, Credentials.appliesTo,
    beq_iff_eq, List.isEmpty_iff, Header.values_eq_nil_iff, lower]
  constructor
  · rintro ⟨installed, ⟨host, port⟩, ownless⟩
    exact ⟨installed, host, port, ownless⟩
  · intro scope
    exact ⟨scope.installed, ⟨scope.host, scope.port⟩, scope.ownless⟩

theorem challenge?_eq_some_iff (response : Response) (challenge : Digest.Challenge) :
    challenge? response = some challenge ↔
      IsFirstChallenge (Header.values "www-authenticate" response.headers) challenge := by
  generalize given : Header.values "www-authenticate" response.headers = values
  have search : challenge? response = values.findSome? fun value =>
      if Header.isReadable value then Digest.Challenge.parse? value else none := by
    rw [challenge?, given, ← List.head?_filterMap, List.filterMap_filter, List.head?_filterMap]
  rw [search, List.findSome?_eq_some_iff]
  constructor
  · rintro ⟨before, value, after, split, found, missed⟩
    obtain ⟨readable, parsed⟩ := Option.ite_none_right_eq_some.mp found
    refine ⟨before, value, after, split, readable, parsed, fun earlier member shown => ?_⟩
    simpa only [shown, ↓reduceIte] using missed earlier member
  · rintro ⟨before, value, after, split, readable, parsed, missed⟩
    refine ⟨before, value, after, split, by simp only [readable, ↓reduceIte, parsed], ?_⟩
    intro earlier member
    split
    next shown => exact missed earlier member shown
    next => rfl

/-- What answers the first run: the reply to the first challenge of a refusal, if credentials apply. -/
theorem reply?_eq_some_iff (around : Surroundings) (session : Session) (request : Request) (url : Url)
    (outcome : Except Error Response) (authorization : String) :
    session.reply? around request url outcome = some authorization ↔
      ∃ credentials response challenge, InScope session url request credentials ∧
        outcome = .ok response ∧ response.status = 401 ∧
        IsFirstChallenge (Header.values "www-authenticate" response.headers) challenge ∧
        authorization = challenge.authorization request.method.name url.target
          credentials.username credentials.password around.clientNonce := by
  cases outcome with
  | error error => simp [reply?]
  | ok response =>
    simp only [reply?, Option.bind_eq_some_iff, credentialsFor_eq_some_iff, answer?,
      Option.ite_none_right_eq_some, Option.map_eq_some_iff, challenge?_eq_some_iff]
    constructor
    · rintro ⟨credentials, scope, refused, challenge, first, same⟩
      exact ⟨credentials, response, challenge, scope, rfl, refused, first, same.symm⟩
    · rintro ⟨credentials, given, challenge, scope, same, refused, first, answer⟩
      cases same
      exact ⟨credentials, scope, refused, challenge, first, answer.symm⟩

theorem handsOver_of_isRun {around : Surroundings} {request : Request} {attempt : Attempt}
    (ran : attempt.IsRun around request) : attempt.HandsOver around request := by
  have handed := run_hands_over around attempt.before request attempt.authorization
  rw [ran] at handed
  rcases handed with alone | ⟨destination, placed, _, after⟩
  · exact Or.inl alone
  · exact Or.inr ⟨destination, placed, after⟩

theorem target_eq (url : Url) : url.target = url.pathText ++ url.query.elim "" ("?" ++ ·) := by
  cases shown : url.query <;> simp [Url.target, shown, String.append_assoc]

/-- What the runs of a request are when it is sent: a first one, and perhaps a second one. -/
structure Answering (around : Surroundings) (session : Session) (request : Request) (url : Url)
    (first : Attempt) (second? : Option Attempt) : Prop where
  starts : first.IsRun around request ∧ first.before = session
  goesOn : ∀ second ∈ second?, second.IsRun around request ∧ second.before = first.after
  handsOver : ∀ attempt ∈ first :: second?.toList, attempt.HandsOver around request
  /-- The last run has the last word. -/
  result : session.send around request =
    ((second?.getD first).outcome, (second?.getD first).after)
  /-- The first run tells the credentials outright exactly when they are in scope. -/
  told : ∀ authorization, first.authorization = some authorization ↔
    ∃ credentials, InScope session url request credentials ∧
      authorization = "Basic " ++ String.ofList (Base64.encode (Utf8.bytes
        (credentials.username ++ ":" ++ credentials.password)))
  /-- There is a second run exactly when the first is refused with a challenge, and it carries the
  answer to the first challenge that can be read. -/
  answered : ∀ authorization, second?.map Attempt.authorization = some (some authorization) ↔
    ∃ credentials response challenge, InScope session url request credentials ∧
      first.outcome = .ok response ∧ response.status = 401 ∧
      IsFirstChallenge (Header.values "www-authenticate" response.headers) challenge ∧
      authorization = challenge.authorization request.method.name
        (url.pathText ++ url.query.elim "" ("?" ++ ·))
        credentials.username credentials.password around.clientNonce
  neverBare : second?.map Attempt.authorization ≠ some none

/-- Sending a request makes one run of it or two, and answers at most one challenge. -/
theorem send_answers_one_challenge (around : Surroundings) (session : Session) (request : Request)
    (url : Url) (readable : Request.parseUrl request.url = .ok url) :
    ∃ first second?, Answering around session request url first second? := by
  let basic := (session.credentialsFor url request).map Credentials.basic
  let ran := session.run around request basic
  let first : Attempt := ⟨session, basic, ran.1, ran.2⟩
  let again := fun authorization : String => ran.2.run around request (some authorization)
  let second := fun authorization : String =>
    (⟨ran.2, some authorization, (again authorization).1, (again authorization).2⟩ : Attempt)
  let replied := session.reply? around request url ran.1
  refine ⟨first, replied.map second, ?_⟩
  constructor
  case starts => exact ⟨rfl, rfl⟩
  case goesOn =>
    intro attempt member
    obtain ⟨authorization, _, rfl⟩ := Option.map_eq_some_iff.mp member
    exact ⟨rfl, rfl⟩
  case handsOver =>
    intro attempt member
    apply handsOver_of_isRun
    rcases List.mem_cons.mp member with rfl | later
    · rfl
    · obtain ⟨authorization, _, rfl⟩ := Option.map_eq_some_iff.mp (Option.mem_toList.mp later)
      rfl
  case result =>
    rw [send_of_readable around session request readable]
    dsimp only
    split
    next quiet =>
      have stops : replied = none := quiet
      rw [stops]
      rfl
    next authorization called =>
      have answers : replied = some authorization := called
      rw [answers]
      rfl
  case told =>
    intro authorization
    simp only [first, basic, Option.map_eq_some_iff, credentialsFor_eq_some_iff, Credentials.basic]
    exact exists_congr fun credentials => and_congr_right fun _ => eq_comm
  case answered =>
    intro authorization
    rw [← target_eq, ← reply?_eq_some_iff around session request url ran.1 authorization]
    change _ ↔ replied = some authorization
    cases replied <;> simp [second]
  case neverBare => cases replied <;> simp [second]

def guarded : Session where
  timeout := 1000
  wire := { network := .scripted [
    .answer ⟨401, [("www-authenticate", "Basic"), ("www-authenticate", "Digest realm=r, nonce=n")],
      .whole []⟩,
    .answer ⟨200, [], .whole []⟩] }
  credentials := some ⟨"[::1]", some 80, "ann", "open"⟩

theorem guarded_answers_one_challenge :
    ∃ first second?, Answering ⟨0, "c"⟩ guarded ⟨.get, "http://[::1]/", [], none⟩ loopback first
      second? ∧ second?.isSome = true := by
  obtain ⟨first, second?, answering⟩ :=
    send_answers_one_challenge ⟨0, "c"⟩ guarded ⟨.get, "http://[::1]/", [], none⟩ loopback
      parseUrl_loopback
  have scope : InScope guarded loopback ⟨.get, "http://[::1]/", [], none⟩
      ⟨"[::1]", some 80, "ann", "open"⟩ := ⟨rfl, by decide +kernel, by decide, List.forall_mem_nil _⟩
  have starts : guarded.run ⟨0, "c"⟩ ⟨.get, "http://[::1]/", [], none⟩
      first.authorization = (first.outcome, first.after) :=
    answering.starts.2 ▸ answering.starts.1
  rw [(answering.told _).mpr ⟨_, scope, rfl⟩] at starts
  have refused : first.outcome = .ok ⟨401,
      [("www-authenticate", "Basic"), ("www-authenticate", "Digest realm=r, nonce=n")],
      .whole []⟩ :=
    (congrArg Prod.fst starts).symm.trans (Outcome.eq_ok_of_toOption (by decide +kernel))
  have challenged : IsFirstChallenge ["Basic", "Digest realm=r, nonce=n"]
      ⟨"r", "n", none, .md5, false⟩ :=
    ⟨["Basic"], _, [], rfl, by decide +kernel, by decide +kernel, by decide +kernel⟩
  have again := (answering.answered _).mpr ⟨_, _, _, scope, refused, rfl, challenged, rfl⟩
  refine ⟨first, second?, answering, ?_⟩
  cases second? with
  | none => cases again
  | some second => rfl

end Courier.Session
