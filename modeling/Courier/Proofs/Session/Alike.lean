import Courier.Proofs.Digest.Answer
import Courier.Proofs.Session.Run
import Courier.Proofs.Transport.Alike
/-! Sessions that differ only in the password they know. It is told in Basic tokens and in digests,
which are printable whatever it is, so that such sessions find the same requests fit to be sent, get
the same responses and answer the same challenges. -/

namespace Courier

open Outcome (Agree)

/-- Values of an authorization of which both are legal or none is, and both readable or none. -/
structure Header.Interchangeable (left right : String) : Prop where
  legal : Header.isValue left = Header.isValue right
  readable : Header.isReadable left = Header.isReadable right

structure Credentials.SameUser (left right : Credentials) : Prop where
  host : left.host = right.host
  port : left.port = right.port
  username : left.username = right.username

theorem Credentials.basic_interchangeable (left right : Credentials) :
    Header.Interchangeable left.basic right.basic := by
  have readable (credentials : Credentials) : Header.isReadable credentials.basic = true :=
    Base64.isReadable_basic _
  constructor
  · rw [Header.isValue_of_isReadable (readable left), Header.isValue_of_isReadable (readable right)]
  · rw [readable left, readable right]

theorem Digest.Challenge.authorization_interchangeable (challenge : Challenge)
    (method uri username password other clientNonce : String) :
    Header.Interchangeable (challenge.authorization method uri username password clientNonce)
      (challenge.authorization method uri username other clientNonce) where
  legal := all_authorization_password (fun _ => Header.isValueChar_of_isReadableChar) challenge
    method uri username password other clientNonce
  readable := all_authorization_password (fun _ => id) challenge method uri username password other
    clientNonce

namespace Session

/-- Sessions that differ at most in the password they know and in what the authorizations said that
they sent. -/
structure Alike (left right : Session) : Prop where
  timeout : left.timeout = right.timeout
  wire : Wire.Alike left.wire right.wire
  credentials : Option.Rel Credentials.SameUser left.credentials right.credentials

theorem Alike.refl (session : Session) : Alike session session := by
  refine ⟨rfl, .refl _, ?_⟩
  cases session.credentials with
  | none => exact .none
  | some known => exact .some ⟨rfl, rfl, rfl⟩

/-! ### Running -/

section

variable {one other : Option String} (values : Option.Rel Header.Interchangeable one other)
include values

theorem handed_alike (request : Request) :
    Message.Alike (handed request one) (handed request other) where
  method := rfl
  headers := by
    apply List.rel_append (Header.alike_refl request.headers)
    cases values with
    | none => exact .nil
    | some same =>
      have lower : asciiLowerText "Authorization" = "authorization" := by decide
      exact .cons ⟨rfl, fun shown => absurd lower shown, same.readable⟩ .nil
  body := rfl

theorem fault_alike (headers : List Header) :
    (headers ++ (one.map fun value => ("Authorization", value)).toList).findSome? Header.fault? =
      (headers ++ (other.map fun value => ("Authorization", value)).toList).findSome?
        Header.fault? := by
  rw [List.findSome?_append, List.findSome?_append]
  cases values with
  | none => rfl
  | some same =>
    simp only [Option.map_some, Option.toList_some, List.findSome?_singleton, Header.fault?,
      same.legal]

/-- Values that are interchangeable make messages that are alike, or make the request unfit for one
reason. -/
theorem message_alike (request : Request) :
    Outcome.Rel Message.Alike (message request one) (message request other) := by
  unfold message
  dsimp only
  rw [fault_alike values request.headers]
  cases Strict.check request.url with
  | error fault => exact .error _
  | ok _ =>
    dsimp only
    split
    · exact .error _
    · exact .ok (handed_alike values request)

theorem run_alike {left right : Session} (alike : Alike left right) (around : Surroundings)
    (request : Request) :
    Agree Alike (left.run around request one) (right.run around request other) := by
  rcases (message_alike values request).elim with
    ⟨reason, first, second⟩ | ⟨text, text', first, second, messages⟩
  · rw [run_of_unfit around left request first, run_of_unfit around right request second]
    exact ⟨rfl, alike⟩
  cases placed : Destination.ofText? request.url with
  | none =>
    rw [run_of_unplaced around left request first placed,
      run_of_unplaced around right request second placed]
    exact ⟨rfl, alike⟩
  | some destination =>
    rw [run_of_placed around left request first placed,
      run_of_placed around right request second placed]
    obtain ⟨outcome, before, after, here, there, wires⟩ :=
      (Wire.exchange_alike around.now alike.wire messages destination).exists
    rw [here, there]
    refine ⟨?_, alike.timeout, wires, alike.credentials⟩
    dsimp only [interrupted]
    rw [alike.timeout]

end

/-! ### Sending -/

variable {left right : Session} (alike : Alike left right) (request : Request) (url : Url)
include alike

theorem credentialsFor_alike :
    Option.Rel Credentials.SameUser (left.credentialsFor url request)
      (right.credentialsFor url request) := by
  have known := alike.credentials
  unfold credentialsFor
  generalize left.credentials = one, right.credentials = other at known
  cases known with
  | none => exact .none
  | @some one other same =>
    have applies : one.appliesTo url = other.appliesTo url := by
      rw [Credentials.appliesTo, Credentials.appliesTo, same.host, same.port]
    simp only [Option.filter_some, applies]
    split
    · exact .some same
    · exact .none

theorem basic_alike :
    Option.Rel Header.Interchangeable ((left.credentialsFor url request).map Credentials.basic)
      ((right.credentialsFor url request).map Credentials.basic) := by
  have known := credentialsFor_alike alike request url
  generalize left.credentialsFor url request = one, right.credentialsFor url request = other at known
  cases known with
  | none => exact .none
  | some _ => exact .some (Credentials.basic_interchangeable _ _)

theorem reply?_alike (around : Surroundings) (outcome : Except Error Response) :
    Option.Rel Header.Interchangeable (left.reply? around request url outcome)
      (right.reply? around request url outcome) := by
  cases outcome with
  | error error => exact .none
  | ok response =>
    have known := credentialsFor_alike alike request url
    unfold reply?
    dsimp only
    generalize left.credentialsFor url request = one, right.credentialsFor url request = other
      at known
    cases known with
    | none => exact .none
    | @some one other same =>
      simp only [Option.bind_some, answer?, same.username]
      split
      · cases challenge? response with
        | none => exact .none
        | some challenge => exact .some (challenge.authorization_interchangeable _ _ _ _ _ _)
      · exact .none

theorem send_alike (around : Surroundings) :
    Agree Alike (left.send around request) (right.send around request) := by
  cases readable : Request.parseUrl request.url with
  | error error =>
    rw [send_of_unreadable around left request readable,
      send_of_unreadable around right request readable]
    exact ⟨rfl, alike⟩
  | ok url =>
    obtain ⟨outcome, before, after, first, second, between⟩ :=
      (run_alike (basic_alike alike request url) alike around request).exists
    have replied := reply?_alike alike request url around outcome
    rw [send_of_readable around left request readable, send_of_readable around right request readable]
    dsimp only
    rw [first, second]
    generalize left.reply? around request url outcome = one,
      right.reply? around request url outcome = other at replied
    cases replied with
    | none => exact ⟨rfl, between⟩
    | some same => exact run_alike (.some same) between around request

end Session
end Courier
