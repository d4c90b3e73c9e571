import Courier.Proofs.Outcome
import Courier.Session
/-! What a run of a session does. It fails before anything is handed over, or it hands one message
to the wire: the request as it stands, with the authorization after its headers. Nothing that a
session sends changes its credentials. -/

namespace Courier.Session

def handed (request : Request) (authorization : Option String) : Message where
  method := request.method
  headers := request.headers ++ (authorization.map fun value => ("Authorization", value)).toList
  body := request.body

@[simp] theorem headers_handed_none (request : Request) :
    (handed request none).headers = request.headers := by
  simp only [handed, Option.map_none, Option.toList_none, List.append_nil]

theorem mem_handed_some (request : Request) (authorization : String) (header : Header) :
    header ∈ (handed request (some authorization)).headers ↔
      header ∈ request.headers ∨ header = ("Authorization", authorization) := by
  simp only [handed, Option.map_some, Option.toList_some, List.mem_append, List.mem_singleton]

theorem message_eq_ok_iff (request : Request) (authorization : Option String) (text : Message) :
    message request authorization = .ok text ↔
      Strict.check request.url = .ok () ∧
        (∀ header ∈ (handed request authorization).headers, Header.fault? header = none) ∧
        text = handed request authorization := by
  unfold message handed
  cases Strict.check request.url with
  | error fault => simp
  | ok _ =>
    cases faults : (request.headers ++
        (authorization.map fun value => ("Authorization", value)).toList).findSome?
          Header.fault? with
    | some fault =>
      obtain ⟨header, member, wrong⟩ := List.exists_of_findSome?_eq_some faults
      simp only [faults, reduceCtorEq, true_and, false_iff, not_and]
      intro sound
      rw [sound header member] at wrong
      cases wrong
    | none =>
      simp only [faults, Except.ok.injEq, true_and]
      rw [List.findSome?_eq_none_iff] at faults
      exact ⟨fun same => ⟨faults, same.symm⟩, fun known => known.2.symm⟩

theorem message_eq_error_iff (request : Request) (authorization : Option String) :
    (∃ reason, message request authorization = .error reason) ↔
      Strict.check request.url ≠ .ok () ∨
        ∃ header ∈ (handed request authorization).headers, Header.fault? header ≠ none := by
  have fit := message_eq_ok_iff request authorization (handed request authorization)
  cases made : message request authorization with
  | error reason =>
    simp only [made, reduceCtorEq, false_iff, and_true, not_and] at fit
    simp only [Except.error.injEq, exists_eq', true_iff]
    by_cases readable : Strict.check request.url = .ok ()
    · right
      simpa using fit readable
    · exact Or.inl readable
  | ok text =>
    obtain ⟨readable, sound, _⟩ := (message_eq_ok_iff request authorization text).mp made
    simp only [reduceCtorEq, exists_false, readable, ne_eq, not_true_eq_false, false_or, false_iff]
    rintro ⟨header, member, wrong⟩
    exact wrong (sound header member)

variable (around : Surroundings) (session : Session) (request : Request)

theorem run_of_unfit {authorization : Option String} {reason : UrlReason}
    (unfit : message request authorization = .error reason) :
    session.run around request authorization =
      (.error (.configuration (.invalidUrl request.url reason)), session) := by
  simp only [run, unfit]

theorem run_of_unplaced {authorization : Option String} {text : Message}
    (fit : message request authorization = .ok text)
    (unplaced : Destination.ofText? request.url = none) :
    session.run around request authorization =
      (.error (.transport (.request request.url (.missingScheme request.url))), session) := by
  simp only [run, fit, unplaced]

theorem run_of_placed {authorization : Option String} {text : Message} {destination : Destination}
    (fit : message request authorization = .ok text)
    (placed : Destination.ofText? request.url = some destination) :
    session.run around request authorization =
      ((session.wire.exchange around.now destination text).1.mapError fun interruption =>
          .transport (session.interrupted request.url interruption),
        { session with wire := (session.wire.exchange around.now destination text).2 }) := by
  simp only [run, fit, placed]
  rcases session.wire.exchange around.now destination text with ⟨_ | _, wire⟩ <;> rfl

/-- A run leaves the session alone or hands one message to the wire. -/
theorem run_hands_over (authorization : Option String) :
    ((session.run around request authorization).2 = session ∧
        ∃ error, (session.run around request authorization).1 = .error error) ∨
      ∃ destination, Destination.ofText? request.url = some destination ∧
        message request authorization = .ok (handed request authorization) ∧
        (session.run around request authorization).2 = { session with
          wire := (session.wire.exchange around.now destination
            (handed request authorization)).2 } := by
  cases made : message request authorization with
  | error reason => simp [run_of_unfit around session request made]
  | ok text =>
    obtain ⟨_, _, rfl⟩ := (message_eq_ok_iff request authorization text).mp made
    cases placed : Destination.ofText? request.url with
    | none => simp [run_of_unplaced around session request made placed]
    | some destination =>
      right
      exact ⟨destination, rfl, rfl, by rw [run_of_placed around session request made placed]⟩

@[simp] theorem run_credentials (authorization : Option String) :
    (session.run around request authorization).2.credentials = session.credentials := by
  rcases run_hands_over around session request authorization with ⟨same, _⟩ | ⟨_, _, _, after⟩
  · rw [same]
  · rw [after]

/-! ### Sending -/

theorem send_of_unreadable {error : ConfigurationError}
    (unreadable : Request.parseUrl request.url = .error error) :
    session.send around request = (.error (.configuration error), session) := by
  simp only [send, unreadable]

def reply? (url : Url) : Except Error Response → Option String
  | .error _ => none
  | .ok response => (session.credentialsFor url request).bind fun known =>
    answer? around known url request response

/-- Sending runs the request once, and once more if an answer is called for. -/
theorem send_of_readable {url : Url} (readable : Request.parseUrl request.url = .ok url) :
    session.send around request =
      let first := session.run around request
        ((session.credentialsFor url request).map Credentials.basic)
      match session.reply? around request url first.1 with
      | none => first
      | some authorization => first.2.run around request (some authorization) := by
  simp only [send, readable]
  rcases session.run around request
    ((session.credentialsFor url request).map Credentials.basic) with ⟨_ | response, after⟩
  · rfl
  · unfold reply?
    cases (session.credentialsFor url request).bind fun known =>
      answer? around known url request response <;> rfl

@[simp] theorem send_credentials :
    (session.send around request).2.credentials = session.credentials := by
  cases read : Request.parseUrl request.url with
  | error error => rw [send_of_unreadable around session request read]
  | ok url =>
    rw [send_of_readable around session request read]
    dsimp only
    split <;> simp

/-! ### An address to send to -/

def loopback : Url where
  scheme := "http"
  host := some (.ipv6 [0, 0, 0, 0, 0, 0, 0, 1])
  path := .rooted [""]

theorem parseUrl_loopback : Request.parseUrl "http://[::1]/" = .ok loopback :=
  Outcome.eq_ok_of_toOption (by decide +kernel)

end Courier.Session
