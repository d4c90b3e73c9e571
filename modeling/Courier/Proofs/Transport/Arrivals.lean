import Courier.Proofs.Bytes
import Courier.Proofs.Header
import Courier.Proofs.Text
import Courier.Transport.Exchange
/-! What arrives when a message is sent and redirects are followed. Only the first destination sees
the authorization of a message: every redirect takes it away, and an address that names no user adds
none. -/

namespace Courier

open Header (Bare)

def Arrival.HasAuthorization (arrival : Arrival) : Prop :=
  ∃ header ∈ arrival.headers, asciiLowerText header.1 = "authorization"

def IsUserless (location : String) : Prop :=
  ∀ base target, Destination.redirect? base location = some target → target.userinfo = none

def Response.Userless (response : Response) : Prop :=
  ∀ header ∈ response.headers, asciiLowerText header.1 = "location" → IsUserless header.2

def Network.Userless (network : Network) : Prop :=
  ∀ replies, network = .scripted replies → ∀ response, .answer response ∈ replies →
    response.Userless

namespace Message

theorem arrival_hasAuthorization_iff (message : Message) (destination : Destination) :
    (message.arrival destination).HasAuthorization ↔ ¬Bare message.headers := by
  have lowered (header : Header) :
      asciiLowerText (arrivingHeader header).1 = asciiLowerText header.1 :=
    Header.asciiLowerText_idem header.1
  simp only [Arrival.HasAuthorization, arrival, Header.sorted, List.mem_mergeSort, List.mem_map,
    exists_exists_and_eq_and, lowered, Bare, not_forall, not_not, exists_prop]

theorem mem_withCookies {message : Message} {jar : Jar} {destination : Destination} {header : Header}
    (member : header ∈ (message.withCookies jar destination).headers) :
    header ∈ message.headers ∨ asciiLowerText header.1 ≠ "authorization" := by
  unfold withCookies at member
  split at member
  · rcases List.mem_append.mp member with own | added
    · exact Or.inl own
    · obtain rfl := List.mem_singleton.mp added
      have other : asciiLowerText "cookie" ≠ "authorization" := by decide
      exact Or.inr other
  · exact Or.inl member

theorem bare_withCookies {message : Message} (bare : Bare message.headers) (jar : Jar)
    (destination : Destination) : Bare (message.withCookies jar destination).headers := by
  intro header member
  rcases mem_withCookies member with own | other
  · exact bare header own
  · exact other

theorem addressed_of_userless (message : Message) {destination : Destination}
    (userless : destination.userinfo = none) : message.addressed destination = message := by
  simp only [addressed, Destination.authorization?, userless, Option.map_none]

theorem bare_withoutAuthorization (message : Message) :
    Bare message.withoutAuthorization.headers := by
  intro header member
  have lower : asciiLowerText authorizationName = "authorization" := by decide
  have kept := (List.mem_filter.mp member).2
  intro same
  rw [(Header.sameIgnoringCase_iff _ _).mpr (same.trans lower.symm)] at kept
  cases kept

theorem bare_of_redirected {message next : Message} {status : Nat}
    (redirected : message.redirected? status = some next) : Bare next.headers := by
  have bare := bare_withoutAuthorization message
  unfold redirected? at redirected
  split at redirected
  · split at redirected
    case h_5 =>
      cases redirected
      exact bare
    all_goals cases redirected
  · split at redirected
    all_goals
      cases redirected
      exact bare

end Message

theorem redirect?_trim (base : Destination) (location : String) :
    base.redirect? (String.ofList (trim location.toList)) = base.redirect? location := by
  simp only [Destination.redirect?, String.toList_ofList, trim_idem]

theorem Response.userless_received {response : Response} (userless : response.Userless)
    (method : Method) : (response.received method).Userless := by
  intro header member named base target redirected
  obtain ⟨original, own, rfl⟩ := List.mem_map.mp member
  dsimp only at named redirected
  rw [Header.asciiLowerText_idem] at named
  rw [redirect?_trim] at redirected
  exact userless original own named base target redirected

theorem Network.userless_of_next {network after : Network} {reply : Reply}
    (userless : network.Userless) (next : network.next? = some (reply, after)) :
    after.Userless ∧ ∀ response, reply = .answer response → response.Userless := by
  unfold Network.next? at next
  split at next
  · cases next
  · cases next
    constructor
    · intro replies same response member
      cases same
      cases member
    · intro response same
      cases same
  next first rest =>
    cases next
    constructor
    · intro replies same response member
      cases same
      exact userless _ rfl response (List.mem_cons_of_mem _ member)
    · intro response same
      exact userless _ rfl response (by simp [same])

/-- From one wire to another, only destinations that are allowed saw an authorization. -/
structure Reveals (allowed : Destination → Prop) (before after : Wire) : Prop where
  traces : ∃ added, after.traces = before.traces ++ added ∧
    ∀ arrival, .arrived arrival ∈ added → arrival.HasAuthorization → allowed arrival.destination
  userless : before.network.Userless → after.network.Userless

namespace Reveals

variable {allowed wider : Destination → Prop} {before between after : Wire}

theorem refl (allowed : Destination → Prop) (wire : Wire) : Reveals allowed wire wire where
  traces := ⟨[], by simp⟩
  userless := id

theorem trans (first : Reveals allowed before between) (second : Reveals allowed between after) :
    Reveals allowed before after := by
  obtain ⟨early, early_added, early_allowed⟩ := first.traces
  obtain ⟨late, late_added, late_allowed⟩ := second.traces
  refine ⟨⟨early ++ late, by rw [late_added, early_added, List.append_assoc], ?_⟩,
    fun userless => second.userless (first.userless userless)⟩
  intro arrival member carries
  rcases List.mem_append.mp member with old | new
  · exact early_allowed arrival old carries
  · exact late_allowed arrival new carries

theorem mono (wider_of : ∀ place, allowed place → wider place)
    (reveals : Reveals allowed before after) : Reveals wider before after where
  traces := by
    obtain ⟨added, traces, kept⟩ := reveals.traces
    exact ⟨added, traces, fun arrival member carries => wider_of _ (kept arrival member carries)⟩
  userless := reveals.userless

end Reveals

namespace Wire

/-- One hop reveals the authorization of a message to its destination, and gives a response whose
locations name no user if none of those to come does. -/
theorem hop_reveals (now : Int) (wire : Wire) (destination : Destination) (message : Message)
    (userless : destination.userinfo = none) :
    Reveals (fun place => place = destination ∧ ¬Bare message.headers) wire
        (wire.hop now destination message).2 ∧
      (wire.network.Userless → ∀ response, (wire.hop now destination message).1 = .ok response →
        response.Userless) := by
  unfold hop
  rw [Message.addressed_of_userless message userless]
  cases next : wire.network.next? with
  | none => exact ⟨.refl _ _, by simp⟩
  | some reached =>
    obtain ⟨reply, network⟩ := reached
    dsimp only
    split
    · exact ⟨.refl _ _, by simp⟩
    have arrives : ∀ arrival,
        Trace.arrived arrival ∈
          [Trace.arrived ((message.withCookies wire.jar destination).arrival destination)] →
        arrival.HasAuthorization → arrival.destination = destination ∧ ¬Bare message.headers := by
      intro arrival member carries
      obtain rfl := Trace.arrived.inj (List.mem_singleton.mp member)
      rw [Message.arrival_hasAuthorization_iff] at carries
      exact ⟨rfl, fun bare => carries (Message.bare_withCookies bare wire.jar destination)⟩
    have later : wire.network.Userless → network.Userless := fun userless =>
      (Network.userless_of_next userless next).1
    cases reply with
    | refuse => exact ⟨⟨⟨_, rfl, by simp⟩, later⟩, by simp⟩
    | close => exact ⟨⟨⟨_, rfl, arrives⟩, later⟩, by simp⟩
    | stall => exact ⟨⟨⟨_, rfl, arrives⟩, later⟩, by simp⟩
    | answer response =>
      refine ⟨⟨⟨_, rfl, arrives⟩, later⟩, fun userless received same => ?_⟩
      obtain rfl := Except.ok.inj same
      exact Response.userless_received ((Network.userless_of_next userless next).2 response rfl) _

theorem next_eq_ok {destination target : Destination} {message after : Message}
    {response : Response} (userless : response.Userless)
    (next : Wire.next destination message response = .ok (target, after)) :
    target.userinfo = none ∧ Bare after.headers := by
  unfold Wire.next at next
  split at next
  · cases next
  next location located =>
    split at next
    · cases next
    next following redirected =>
      split at next
      · cases next
      next found place =>
        cases next
        simp only [Header.value?, Option.map_eq_some_iff] at located
        obtain ⟨header, found, rfl⟩ := located
        have lower : asciiLowerText "location" = "location" := by decide
        have matched := List.find?_some found
        have named := (Header.sameIgnoringCase_iff _ _).mp matched
        rw [lower] at named
        exact ⟨userless header (List.mem_of_find?_eq_some found) named destination target place,
          Message.bare_of_redirected redirected⟩

/-- However many redirects are followed, only the first destination sees an authorization. -/
theorem follow_reveals (now : Int) (redirects : Nat) (wire : Wire) (destination : Destination)
    (message : Message) (quiet : wire.network.Userless) (userless : destination.userinfo = none) :
    Reveals (fun place => place = destination ∧ ¬Bare message.headers) wire
      (follow now wire destination message redirects).2 := by
  induction redirects generalizing wire destination message with
  | zero =>
    have revealed := (hop_reveals now wire destination message userless).1
    rw [follow]
    split
    next response after hopped =>
      rw [hopped] at revealed
      split <;> exact revealed
    next => exact revealed
  | succ redirects ih =>
    obtain ⟨revealed, located⟩ := hop_reveals now wire destination message userless
    rw [follow]
    split
    next response after hopped =>
      rw [hopped] at revealed located
      split
      · split
        next target following goes =>
          obtain ⟨target_userless, bare⟩ := next_eq_ok (located quiet response rfl) goes
          -- The message is bare from here on, so the rest of the way reveals nothing.
          have rest := ih after target following (revealed.userless quiet) target_userless
          exact revealed.trans (rest.mono fun place allowed => absurd bare allowed.2)
        next => exact revealed
      · exact revealed
    next => exact revealed

end Wire

/-! ### Answers -/

def Message.Readable (message : Message) : Prop :=
  ∀ header ∈ message.headers, asciiLowerText header.1 = "authorization" →
    Header.isReadable header.2 = true

namespace Message

theorem readable_addressed {message : Message} (readable : message.Readable)
    (destination : Destination) : (message.addressed destination).Readable := by
  unfold addressed
  split
  next authorization known =>
    split
    · exact readable
    intro header member named
    rcases List.mem_append.mp member with own | added
    · exact readable header own named
    · obtain rfl := List.mem_singleton.mp added
      simp only [Destination.authorization?, Option.map_eq_some_iff] at known
      obtain ⟨info, _, rfl⟩ := known
      exact Base64.isReadable_basic _
  next => exact readable

theorem readable_withCookies {message : Message} (readable : message.Readable) (jar : Jar)
    (destination : Destination) : (message.withCookies jar destination).Readable := by
  intro header member named
  rcases mem_withCookies member with own | other
  · exact readable header own named
  · exact absurd named other

@[simp] theorem addressed_method (message : Message) (destination : Destination) :
    (message.addressed destination).method = message.method := by
  unfold addressed
  split
  · split <;> rfl
  · rfl

@[simp] theorem withCookies_method (message : Message) (jar : Jar) (destination : Destination) :
    (message.withCookies jar destination).method = message.method := by
  unfold withCookies
  split <;> rfl

end Message

namespace Wire

/-- An answer that is no redirect is what comes of a message that is readable. -/
theorem exchange_of_answer (now : Int) {wire : Wire} {response : Response} {rest : List Reply}
    (destination : Destination) {message : Message}
    (shown : wire.network = .scripted (.answer response :: rest))
    (final : response.isRedirect = false) (readable : message.Readable) :
    ∃ after, wire.exchange now destination message = (.ok (response.received message.method), after) ∧
      after.network = .scripted rest ∧ after.traces ≠ [] := by
  have plain : (Header.values Message.authorizationName
      ((message.addressed destination).withCookies wire.jar destination).headers).any
        (!Header.isReadable ·) = false := by
    rw [List.any_eq_false]
    intro value member
    have lower : asciiLowerText Message.authorizationName = "authorization" := by decide
    obtain ⟨header, own, named, rfl⟩ := (Header.mem_values_iff _ _ _).mp member
    have fine := Message.readable_withCookies (Message.readable_addressed readable destination)
      wire.jar destination header own (named.trans lower)
    simp [fine]
  have hopped : ∃ after, wire.hop now destination message =
        (.ok (response.received message.method), after) ∧
      after.network = .scripted rest ∧ after.traces ≠ [] := by
    unfold hop
    simp only [shown, Network.next?, plain, Bool.false_eq_true, ↓reduceIte,
      Message.withCookies_method, Message.addressed_method]
    exact ⟨_, rfl, rfl, by simp⟩
  obtain ⟨after, hop_eq, network, traces⟩ := hopped
  have last : (response.received message.method).isRedirect = false := final
  refine ⟨after, ?_, network, traces⟩
  simp only [exchange, greatestRedirects, follow, hop_eq, last, Bool.false_eq_true, ↓reduceIte]

end Wire
end Courier
