import Courier.Proofs.Request
import Courier.Proofs.Session.Login
import Courier.Proofs.Transport.Arrivals
/-! Requests that are found unfit only when they are sent. A session without credentials blames the
configuration for exactly those whose address cannot be read or cannot be sent, and everything that
it sent before is already on the wire. -/

namespace Courier

def Request.IsRefused (request : Request) : Prop :=
  (∃ error, Request.parseUrl request.url = .error error) ∨ Strict.check request.url ≠ .ok ()

structure Request.IsDeliverable (request : Request) : Prop where
  readable : ∃ url, Request.parseUrl request.url = .ok url
  sendable : Strict.check request.url = .ok ()
  placed : ∃ destination, Destination.ofText? request.url = some destination

def Blames {α : Type} (outcome : Except Error α) : Prop :=
  ∃ error, outcome = .error (.configuration error)

def welcome : Response := ⟨200, [], .whole []⟩

namespace Session

variable {around : Surroundings} {session : Session} {request : Request}

theorem run_blames_iff (authorization : Option String) :
    Blames (session.run around request authorization).1 ↔
      ∃ reason, message request authorization = .error reason := by
  cases made : message request authorization with
  | error reason =>
    rw [run_of_unfit around session request made]
    exact ⟨fun _ => ⟨reason, rfl⟩, fun _ => ⟨_, rfl⟩⟩
  | ok text =>
    simp only [reduceCtorEq, exists_false, iff_false]
    rintro ⟨error, blamed⟩
    cases placed : Destination.ofText? request.url with
    | none =>
      rw [run_of_unplaced around session request made placed] at blamed
      cases blamed
    | some destination =>
      rw [run_of_placed around session request made placed] at blamed
      cases given : (session.wire.exchange around.now destination text).1 with
      | error interruption =>
        rw [given] at blamed
        cases blamed
      | ok response =>
        rw [given] at blamed
        cases blamed

theorem of_run_eq_ok {authorization : Option String} {response : Response}
    (answered : (session.run around request authorization).1 = .ok response) :
    message request authorization = .ok (handed request authorization) ∧
      ∃ destination, Destination.ofText? request.url = some destination := by
  rcases run_hands_over around session request authorization with
    ⟨_, error, failed⟩ | ⟨destination, placed, fit, _⟩
  · rw [answered] at failed
    cases failed
  · exact ⟨fit, destination, placed⟩

theorem message_of_sound (sound : request.Sound) :
    (∃ reason, message request none = .error reason) ↔ Strict.check request.url ≠ .ok () := by
  rw [message_eq_error_iff]
  constructor
  · rintro (unsendable | ⟨header, member, fault⟩)
    · exact unsendable
    · rw [headers_handed_none] at member
      exact absurd (sound header member) fault
  · exact Or.inl

theorem send_of_uncredentialed (unknown : session.credentials = none) {url : Url}
    (readable : Request.parseUrl request.url = .ok url) :
    session.send around request = session.run around request none := by
  have none_for : session.credentialsFor url request = none := by
    simp only [credentialsFor, unknown, Option.filter_none]
  rw [send_of_readable around session request readable]
  have unanswered : ∀ outcome, session.reply? around request url outcome = none := by
    intro outcome
    cases outcome with
    | error error => rfl
    | ok response => simp only [reply?, none_for, Option.bind_none]
  simp only [none_for, Option.map_none, unanswered]

variable (around) in
theorem send_of_refused (unknown : session.credentials = none) (refused : request.IsRefused) :
    ∃ error, session.send around request = (.error (.configuration error), session) := by
  cases readable : Request.parseUrl request.url with
  | error error => exact ⟨error, send_of_unreadable around session request readable⟩
  | ok url =>
    have unsendable : Strict.check request.url ≠ .ok () := by
      rcases refused with ⟨error, unreadable⟩ | unsendable
      · rw [readable] at unreadable
        cases unreadable
      · exact unsendable
    obtain ⟨reason, unfit⟩ := (message_eq_error_iff request none).mpr (Or.inl unsendable)
    rw [send_of_uncredentialed unknown readable]
    exact ⟨_, run_of_unfit around session request unfit⟩

theorem isRefused_of_blames (unknown : session.credentials = none) (sound : request.Sound)
    (blames : Blames (session.send around request).1) : request.IsRefused := by
  cases readable : Request.parseUrl request.url with
  | error error => exact Or.inl ⟨error, readable⟩
  | ok url =>
    rw [send_of_uncredentialed unknown readable, run_blames_iff, message_of_sound sound] at blames
    exact Or.inr blames

theorem isDeliverable_of_send (unknown : session.credentials = none) {response : Response}
    (answered : (session.send around request).1 = .ok response) : request.IsDeliverable := by
  cases readable : Request.parseUrl request.url with
  | error error =>
    rw [send_of_unreadable around session request readable] at answered
    cases answered
  | ok url =>
    rw [send_of_uncredentialed unknown readable] at answered
    obtain ⟨fit, placed⟩ := of_run_eq_ok answered
    exact ⟨⟨url, readable⟩, ((message_eq_ok_iff request none _).mp fit).1, placed⟩

structure Answered (after : Session) (rest : List Reply) : Prop where
  network : after.wire.network = .scripted rest
  traces : after.wire.traces ≠ []

variable (around) in
theorem run_of_answer {authorization : Option String} {destination : Destination}
    {response : Response} {rest : List Reply}
    (fit : message request authorization = .ok (handed request authorization))
    (placed : Destination.ofText? request.url = some destination)
    (readable : (handed request authorization).Readable)
    (shown : session.wire.network = .scripted (.answer response :: rest))
    (final : response.isRedirect = false) :
    ∃ after, session.run around request authorization =
        (.ok (response.received request.method), after) ∧
      after.credentials = session.credentials ∧ after.Answered rest := by
  obtain ⟨wire, exchanged, network, traces⟩ :=
    Wire.exchange_of_answer around.now destination shown final readable
  rw [run_of_placed around session request fit placed, exchanged]
  exact ⟨_, rfl, rfl, network, traces⟩

variable (around) in
theorem send_of_deliverable (unknown : session.credentials = none) (sound : request.Sound)
    (bare : Header.Bare request.headers) (deliverable : request.IsDeliverable) {rest : List Reply}
    (shown : session.wire.network = .scripted (.answer welcome :: rest)) :
    ∃ after, session.send around request = (.ok (welcome.received request.method), after) ∧
      after.credentials = none ∧ after.Answered rest := by
  obtain ⟨url, readable⟩ := deliverable.readable
  obtain ⟨destination, placed⟩ := deliverable.placed
  have plain := headers_handed_none request
  have fit : message request none = .ok (handed request none) :=
    (message_eq_ok_iff request none _).mpr
      ⟨deliverable.sendable, fun header member => sound header (plain ▸ member), rfl⟩
  have silent : (handed request none).Readable := fun header member named =>
    absurd named (bare header (plain ▸ member))
  rw [send_of_uncredentialed unknown readable]
  obtain ⟨after, ran, same, answered⟩ := run_of_answer around fit placed silent shown rfl
  exact ⟨after, ran, same.trans unknown, answered⟩

/-! ### One request after another -/

theorem Sends.split_last {before : List (Request × Except Error Response)}
    {outcome : Except Error Response} {after : Session}
    (sent : Sends around session (before ++ [(request, outcome)]) after) :
    ∃ ready, Sends around session before ready ∧ ready.send around request = (outcome, after) := by
  induction before generalizing session with
  | nil =>
    cases sent with
    | cons first others =>
      cases others
      exact ⟨session, .nil session, first⟩
  | cons head rest ih =>
    cases sent with
    | cons first others =>
      obtain ⟨ready, early, last⟩ := ih others
      exact ⟨ready, .cons first early, last⟩

theorem Sends.deliverable {sends : List (Request × Except Error Response)} {after : Session}
    (sent : Sends around session sends after) (unknown : session.credentials = none)
    (good : ∀ one ∈ sends, Succeeds one.2) :
    after.credentials = none ∧ ∀ one ∈ sends, one.1.IsDeliverable := by
  induction sent with
  | nil session => exact ⟨unknown, by simp⟩
  | @cons session between after request outcome rest first others ih =>
    obtain ⟨here, later⟩ := List.forall_mem_cons.mp good
    obtain ⟨response, answered, _⟩ := here
    have kept : between.credentials = none := by
      rw [← unknown, ← send_credentials around session request, first]
    have deliverable : request.IsDeliverable := by
      apply isDeliverable_of_send unknown
      rw [first]
      exact answered
    obtain ⟨after_kept, rest_deliverable⟩ := ih kept later
    exact ⟨after_kept, List.forall_mem_cons.mpr ⟨deliverable, rest_deliverable⟩⟩

/-- If the configuration is blamed for a request when something was sent already, then the address
of the request is at fault, and some requests before it were fit. -/
theorem refused_after_sends {timeout : Nat} {network : Network}
    {before : List (Request × Except Error Response)} {ready after : Session}
    {outcome : Except Error Response} (sent : Sends around (start timeout network) before ready)
    (good : ∀ one ∈ before, Succeeds one.2) (last : ready.send around request = (outcome, after))
    (blames : Blames outcome) (sound : request.Sound) (late : after.wire.traces ≠ []) :
    before ≠ [] ∧ (∀ one ∈ before, one.1.IsDeliverable) ∧ request.IsRefused := by
  obtain ⟨unknown, deliverable⟩ := sent.deliverable rfl good
  have refused : request.IsRefused := by
    apply isRefused_of_blames unknown sound
    rw [last]
    exact blames
  obtain ⟨error, stays⟩ := send_of_refused around unknown refused
  have same : after = ready := congrArg Prod.snd (last.symm.trans stays)
  refine ⟨?_, deliverable, refused⟩
  -- Without requests before it, nothing would be on the wire.
  rintro rfl
  cases sent
  exact late (by rw [same]; rfl)

theorem sendSteps_of_deliverable (around : Surroundings) (key : String) (before more : List Request)
    (fine : ∀ request ∈ before,
      request.Sound ∧ Header.Bare request.headers ∧ request.IsDeliverable)
    (session : Session) (number : Nat) (unknown : session.credentials = none)
    (shown : session.wire.network = .scripted (before.map fun _ => .answer welcome)) :
    ∃ ready : Session, session.sendSteps around key number (before ++ more) =
        ready.sendSteps around key (number + before.length) more ∧ ready.credentials = none ∧
      (before ≠ [] ∨ session.wire.traces ≠ [] → ready.wire.traces ≠ []) := by
  induction before generalizing session number with
  | nil => exact ⟨session, rfl, unknown, by simp⟩
  | cons request rest ih =>
    obtain ⟨⟨sound, bare, deliverable⟩, others⟩ := List.forall_mem_cons.mp fine
    obtain ⟨between, sent, kept, answered⟩ :=
      send_of_deliverable around unknown sound bare deliverable shown
    obtain ⟨ready, steps, ready_unknown, traces⟩ := ih others between (number + 1) kept answered.network
    refine ⟨ready, ?_, ready_unknown, fun _ => traces (Or.inr answered.traces)⟩
    have good : isSuccess (welcome.received request.method).status = true := by
      change isSuccess welcome.status = true
      decide
    rw [List.cons_append, sendSteps, sent]
    simp only [good, ↓reduceIte, steps, List.length_cons]
    rw [Nat.add_assoc, Nat.add_comm 1]

end Session
end Courier
