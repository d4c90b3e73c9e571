import Courier.Proofs.Digest.Answer
import Courier.Proofs.Session.Refusal
import Courier.Proofs.Session.Challenge
import Courier.Proofs.Url.Place
import Courier.Proofs.Url.Target
/-! User names that no answer can hold. A challenge is answered with the user name as it stands, so a
name with control characters makes the second run of a request fail after the first one was sent.
Nothing else that is found at that time can be at fault. -/

namespace Courier.Session

open Header (isValue isReadable)

variable {around : Surroundings} {session : Session} {request : Request}

theorem fault?_authorization_iff (value : String) :
    Header.fault? ("Authorization", value) = none ↔ isValue value = true := by
  have named : Header.isName "Authorization" = true := by decide
  simp only [Header.fault?, named, Bool.not_true, Bool.false_eq_true, ↓reduceIte]
  cases isValue value <;> simp

theorem message_added_iff (sound : request.Sound) (sendable : Strict.check request.url = .ok ())
    (authorization : String) :
    (∃ reason, message request (some authorization) = .error reason) ↔
      isValue authorization = false := by
  rw [message_eq_error_iff]
  constructor
  · rintro (unsendable | ⟨header, member, fault⟩)
    · exact absurd sendable unsendable
    · rcases (mem_handed_some request authorization header).mp member with own | rfl
      · exact absurd (sound header own) fault
      · simpa [fault?_authorization_iff] using fault
  · intro illegal
    refine Or.inr ⟨_, (mem_handed_some request authorization _).mpr (Or.inr rfl), ?_⟩
    simp [fault?_authorization_iff, illegal]

theorem message_of_legal (sound : request.Sound) (sendable : Strict.check request.url = .ok ())
    {authorization : String} (legal : isValue authorization = true) :
    message request (some authorization) = .ok (handed request (some authorization)) := by
  refine (message_eq_ok_iff request _ _).mpr ⟨sendable, ?_, rfl⟩
  intro header member
  rcases (mem_handed_some request authorization header).mp member with own | rfl
  · exact sound header own
  · exact (fault?_authorization_iff _).mpr legal

theorem isReadable_basic (credentials : Credentials) : isReadable credentials.basic = true :=
  Base64.isReadable_basic _

/-- The answer to a challenge that came with a response is legal exactly when the user name is. -/
theorem isValue_reply {url : Url} {values : List String} {challenge : Digest.Challenge}
    (readable : Request.parseUrl request.url = .ok url) (first : IsFirstChallenge values challenge)
    (nonce : isValue around.clientNonce = true) (username password : String) :
    isValue (challenge.authorization request.method.name url.target username password
      around.clientNonce) = isValue username := by
  obtain ⟨_, value, _, _, shown, parsed, _⟩ := first
  have held := Digest.Challenge.from_of_parse parsed
  have parsed := ((Request.parseUrl_eq_ok_iff _ _).mp readable).1
  have target : isValue url.target = true :=
    Header.isValue_of_isReadable (Url.readable_target parsed)
  exact Digest.isValue_authorization held (List.all_eq_true.mp shown) _ target nonce _ _

/-- If the configuration is blamed when something was sent already, then a challenge came to
credentials with a user name that no answer can hold. -/
theorem illegal_of_blames (sound : request.Sound) (nonce : isValue around.clientNonce = true)
    (clear : session.wire.traces = []) (blames : Blames (session.send around request).1)
    (late : (session.send around request).2.wire.traces ≠ []) :
    ∃ url credentials, InScope session url request credentials ∧
      isValue credentials.username = false ∧ request.IsDeliverable := by
  cases readable : Request.parseUrl request.url with
  | error error =>
    rw [send_of_unreadable around session request readable] at late
    exact absurd clear late
  | ok url =>
    rw [send_of_readable around session request readable] at blames late
    dsimp only at blames late
    split at blames
    next unanswered =>
      -- The run that is blamed is the only one, and it left the wire as it was.
      simp only [unanswered] at late
      obtain ⟨reason, unfit⟩ := (run_blames_iff _).mp blames
      rw [run_of_unfit around session request unfit] at late
      exact absurd clear late
    next authorization replied =>
      -- The first run was answered, so the address is fine and only the answer can be at fault.
      obtain ⟨credentials, response, challenge, scope, answered, _, first, rfl⟩ :=
        (reply?_eq_some_iff around session request url _ authorization).mp replied
      obtain ⟨fit, placed⟩ := of_run_eq_ok answered
      have sendable := ((message_eq_ok_iff request _ _).mp fit).1
      have illegal := (message_added_iff sound sendable _).mp ((run_blames_iff _).mp blames)
      rw [isValue_reply readable first nonce] at illegal
      exact ⟨url, credentials, scope, illegal, ⟨url, readable⟩, sendable, placed⟩

def refusal : Response := ⟨401, [("www-authenticate", "Digest realm=r, nonce=n")], .whole []⟩

theorem isFirstChallenge_refusal (method : Method) :
    IsFirstChallenge (Header.values "www-authenticate" (refusal.received method).headers)
      ⟨"r", "n", none, .md5, false⟩ := by
  have values : Header.values "www-authenticate" (refusal.received method).headers =
      ["Digest realm=r, nonce=n"] := by
    change Header.values "www-authenticate" (refusal.received .get).headers = _
    decide +kernel
  rw [values]
  exact ⟨[], _, [], rfl, by decide +kernel, by decide +kernel, by simp⟩

theorem blames_of_illegal {url : Url} {credentials : Credentials} {rest : List Reply}
    (scope : InScope session url request credentials) (sound : request.Sound)
    (nonce : isValue around.clientNonce = true) (illegal : isValue credentials.username = false)
    (readable : Request.parseUrl request.url = .ok url) (deliverable : request.IsDeliverable)
    (shown : session.wire.network = .scripted (.answer refusal :: rest)) :
    Blames (session.send around request).1 ∧ (session.send around request).2.wire.traces ≠ [] := by
  obtain ⟨destination, placed⟩ := deliverable.placed
  have legal : isValue credentials.basic = true :=
    Header.isValue_of_isReadable (isReadable_basic credentials)
  have fit := message_of_legal sound deliverable.sendable legal
  have visible : (handed request (some credentials.basic)).Readable := by
    intro header member named
    rcases (mem_handed_some request credentials.basic header).mp member with own | rfl
    · exact absurd named (scope.ownless header own)
    · exact isReadable_basic credentials
  obtain ⟨after, ran, _, answered⟩ := run_of_answer around fit placed visible shown rfl
  have applies := (credentialsFor_eq_some_iff session url request credentials).mpr scope
  have replied := (reply?_eq_some_iff around session request url (.ok (refusal.received request.method))
    _).mpr ⟨credentials, _, _, scope, rfl, rfl, isFirstChallenge_refusal request.method, rfl⟩
  have unfit := (message_added_iff sound deliverable.sendable _).mpr
    ((isValue_reply readable (isFirstChallenge_refusal request.method) nonce _
      credentials.password).trans illegal)
  obtain ⟨reason, unfit⟩ := unfit
  rw [send_of_readable around session request readable]
  simp only [applies, Option.map_some, ran, replied, run_of_unfit around after request unfit]
  exact ⟨⟨_, rfl⟩, answered.traces⟩

end Courier.Session
