import Courier.Proofs.Header
import Courier.Transport.Exchange
/-! Where requests come from. A wire takes the replies of its script one after another and notes each
time what arrived, so its notes tell which replies it took and in answer to what. All that arrives is
made of the message that was sent, of the address it went to and of cookies that were set by replies
taken before, and it goes to an address of the sender or to one that such a reply points to. -/

namespace Courier

/-! ### Replies -/

namespace Network

def replies : Network → List Reply
  | .unreachable => []
  | .scripted replies => replies

def drop : Network → Nat → Network
  | .unreachable, _ => .unreachable
  | .scripted replies, taken => .scripted (replies.drop taken)

@[simp] theorem drop_zero (network : Network) : network.drop 0 = network := by
  cases network <;> rfl

theorem drop_drop (network : Network) (first second : Nat) :
    (network.drop first).drop second = network.drop (first + second) := by
  cases network with
  | unreachable => rfl
  | scripted replies => simp only [drop, List.drop_drop]

theorem next?_drop {script after : Network} {taken : Nat} {reply : Reply}
    (next : (script.drop taken).next? = some (reply, after)) :
    after = script.drop (taken + 1) ∧
      ∀ response, reply = .answer response → script.replies[taken]? = some (.answer response) := by
  cases script with
  | unreachable => cases next
  | scripted replies =>
    have tail : replies.drop (taken + 1) = (replies.drop taken).tail := List.tail_drop.symm
    have head : (replies.drop taken).head? = replies[taken]? := List.head?_drop
    simp only [drop] at next ⊢
    cases rest : replies.drop taken with
    | nil =>
      rw [rest] at next tail
      cases next
      exact ⟨by rw [tail]; rfl, by simp⟩
    | cons first others =>
      rw [rest] at next tail head
      cases next
      refine ⟨by rw [tail]; rfl, ?_⟩
      rintro response rfl
      exact head.symm

/-- Whether a script answered that arrival, among those seen, with the response, as it is received. -/
def Answered (script : Network) (seen : List Trace) (arrival : Arrival) (response : Response) :
    Prop :=
  ∃ (number : Nat) (sent : Response), seen[number]? = some (.arrived arrival) ∧
    script.replies[number]? = some (.answer sent) ∧ response = sent.received arrival.method

theorem Answered.mono {script : Network} {seen more : List Trace} (grown : seen <+: more)
    {arrival : Arrival} {response : Response} (answered : script.Answered seen arrival response) :
    script.Answered more arrival response := by
  obtain ⟨number, sent, arrived, replied, received⟩ := answered
  obtain ⟨rest, rfl⟩ := grown
  have within : number < seen.length := (List.getElem?_eq_some_iff.mp arrived).1
  exact ⟨number, sent, (List.getElem?_append_left within).trans arrived, replied, received⟩

end Network

/-! ### Cookies -/

def Cookie.WasSet (script : Network) (now : Int) (seen : List Trace) (cookie : Cookie) : Prop :=
  ∃ arrival response, script.Answered seen arrival response ∧
    ∃ text ∈ Header.values "set-cookie" response.headers,
      Cookie.ofText? now arrival.destination.cookiePlace text = some (cookie, false)

theorem Cookie.WasSet.mono {script : Network} {now : Int} {seen more : List Trace}
    (grown : seen <+: more) {cookie : Cookie} (set : cookie.WasSet script now seen) :
    cookie.WasSet script now more := by
  obtain ⟨arrival, response, answered, text⟩ := set
  exact ⟨arrival, response, answered.mono grown, text⟩

namespace Jar

theorem mem_receive {now : Int} {place : CookiePlace} {jar : Jar} {text : String} {cookie : Cookie}
    (member : cookie ∈ (jar.receive now place text).cookies) :
    cookie ∈ jar.cookies ∨ Cookie.ofText? now place text = some (cookie, false) := by
  unfold receive at member
  split at member
  next => exact .inl member
  next newer ended read =>
    have others : ∀ older ∈ jar.cookies.filter fun older => !newer.replaces older,
        older ∈ jar.cookies := fun older kept => (List.mem_filter.mp kept).1
    cases ended with
    | true => exact .inl (others cookie member)
    | false =>
      rcases List.mem_append.mp member with old | new
      · exact .inl (others cookie old)
      · rw [List.mem_singleton.mp new]
        exact .inr read

/-- A cookie in a jar was in it before or was set by one of the fields it received. -/
theorem mem_receiveAll {now : Int} {place : CookiePlace} {jar : Jar} {headers : List Header}
    {cookie : Cookie} (member : cookie ∈ (jar.receiveAll now place headers).cookies) :
    cookie ∈ jar.cookies ∨ ∃ text ∈ Header.values "set-cookie" headers,
      Cookie.ofText? now place text = some (cookie, false) := by
  unfold receiveAll at member
  generalize Header.values "set-cookie" headers = texts at member ⊢
  induction texts generalizing jar with
  | nil => exact .inl member
  | cons text rest ih =>
    rcases ih member with first | ⟨later, own, read⟩
    · rcases mem_receive first with old | read
      · exact .inl old
      · exact .inr ⟨text, List.mem_cons_self, read⟩
    · exact .inr ⟨later, List.mem_cons_of_mem _ own, read⟩

end Jar

/-! ### Messages -/

/-- Where a field comes from that is sent to a destination: it was given, or it tells the user that
the address names, or it shows cookies that were set before. -/
inductive Header.Stems (script : Network) (now : Int) (seen : List Trace) (given : List Header)
    (destination : Destination) : Header → Prop where
  | given {header : Header} (member : header ∈ given) : Stems script now seen given destination header
  | user {authorization : String} (named : destination.authorization? = some authorization) :
      Stems script now seen given destination (Message.authorizationName, authorization)
  | cookies {text : String} (jar : Jar) (set : ∀ cookie ∈ jar.cookies, cookie.WasSet script now seen)
      (shown : jar.header? destination.cookiePlace = some text) :
      Stems script now seen given destination ("cookie", text)

def Destination.Stems (script : Network) (seen : List Trace) (first destination : Destination) :
    Prop :=
  destination = first ∨ ∃ arrival response location, script.Answered seen arrival response ∧
    response.isRedirect = true ∧ Header.value? "location" response.headers = some location ∧
    arrival.destination.redirect? location = some destination

/-- Whether an arrival comes of a message to a first destination, and of nothing else than what was
seen before it. -/
structure Arrival.Stems (script : Network) (now : Int) (seen : List Trace) (message : Message)
    (first : Destination) (arrival : Arrival) : Prop where
  destination : Destination.Stems script seen first arrival.destination
  headers : ∀ header ∈ arrival.headers, ∃ field,
    Header.Stems script now seen message.headers arrival.destination field ∧
      header = Message.arrivingHeader field
  body : arrival.body = message.body.getD "" ∨ arrival.body = ""

structure Message.IsPart (part whole : Message) : Prop where
  headers : part.headers ⊆ whole.headers
  body : part.body = whole.body ∨ part.body = none

namespace Message

theorem isPart_refl (message : Message) : message.IsPart message :=
  ⟨List.Subset.refl _, .inl rfl⟩

theorem isPart_of_redirected {message whole after : Message} {status : Nat}
    (part : message.IsPart whole) (redirected : message.redirected? status = some after) :
    after.IsPart whole := by
  have kept : message.withoutAuthorization.IsPart whole :=
    ⟨fun header member => part.headers (List.mem_filter.mp member).1, part.body⟩
  unfold redirected? at redirected
  split at redirected
  · split at redirected
    case h_5 =>
      cases redirected
      exact kept
    all_goals cases redirected
  · split at redirected
    · cases redirected
      exact kept
    · cases redirected
      exact ⟨kept.headers, .inr rfl⟩

end Message

section

variable {script : Network} {now : Int} {seen : List Trace}

theorem Header.Stems.of_subset {given more : List Header} {destination : Destination}
    {header : Header} (grown : given ⊆ more)
    (stems : Header.Stems script now seen given destination header) :
    Header.Stems script now seen more destination header := by
  cases stems with
  | given member => exact .given (grown member)
  | user named => exact .user named
  | cookies jar set shown => exact .cookies jar set shown

namespace Message

variable {message whole : Message} {destination : Destination}

theorem stems_of_mem_addressed {header : Header}
    (member : header ∈ (message.addressed destination).headers) :
    Header.Stems script now seen message.headers destination header := by
  unfold addressed at member
  split at member
  next authorization named =>
    split at member
    · exact .given member
    · rcases List.mem_append.mp member with own | added
      · exact .given own
      · rw [List.mem_singleton.mp added]
        exact .user named
  next => exact .given member

def outgoing (message : Message) (jar : Jar) (destination : Destination) : Message :=
  (message.addressed destination).withCookies jar destination

theorem stems_of_mem_outgoing {jar : Jar} (set : ∀ cookie ∈ jar.cookies, cookie.WasSet script now seen)
    {header : Header} (member : header ∈ (message.outgoing jar destination).headers) :
    Header.Stems script now seen message.headers destination header := by
  unfold outgoing withCookies at member
  split at member
  next text shown =>
    rcases List.mem_append.mp member with own | added
    · exact stems_of_mem_addressed own
    · rw [List.mem_singleton.mp added]
      exact .cookies jar set shown
  next => exact stems_of_mem_addressed member

theorem outgoing_body (message : Message) (jar : Jar) (destination : Destination) :
    (message.outgoing jar destination).body = message.body := by
  have addressed_body : (message.addressed destination).body = message.body := by
    unfold addressed
    split
    · split <;> rfl
    · rfl
  rw [← addressed_body]
  unfold outgoing withCookies
  split <;> rfl

theorem arrival_stems {jar : Jar} {first : Destination}
    (set : ∀ cookie ∈ jar.cookies, cookie.WasSet script now seen) (part : message.IsPart whole)
    (leads : Destination.Stems script seen first destination) :
    ((message.outgoing jar destination).arrival destination).Stems script now seen whole first where
  destination := leads
  headers := by
    intro header member
    obtain ⟨field, own, rfl⟩ := List.mem_map.mp (List.mem_mergeSort.mp member)
    exact ⟨field, (stems_of_mem_outgoing set own).of_subset part.headers, rfl⟩
  body := by
    have said : ((message.outgoing jar destination).arrival destination).body =
        message.body.getD "" := congrArg (Option.getD · "") (outgoing_body message jar destination)
    rw [said]
    rcases part.body with same | taken
    · exact .inl (by rw [same])
    · exact .inr (by rw [taken]; rfl)

end Message

/-! ### The wire -/

/-- What a wire is like that has followed a script from its start, when everything that arrived is
explained by what was seen before it. -/
structure Wire.Follows (script : Network) (now : Int) (explained : List Trace → Arrival → Prop)
    (wire : Wire) : Prop where
  network : wire.network = script.drop wire.traces.length
  cookies : ∀ cookie ∈ wire.jar.cookies, cookie.WasSet script now wire.traces
  arrivals : ∀ seen arrival, seen ++ [.arrived arrival] <+: wire.traces → explained seen arrival

structure Wire.Advances {ε : Type} (script : Network) (now : Int)
    (explained : List Trace → Arrival → Prop) (before : Wire) (outcome : Except ε Response)
    (after : Wire) : Prop where
  follows : after.Follows script now explained
  grown : before.traces <+: after.traces
  answered : ∀ response, outcome = .ok response →
    ∃ arrival, script.Answered after.traces arrival response

namespace Wire

variable {explained : List Trace → Arrival → Prop} {wire : Wire}

theorem follows_start (script : Network) (now : Int) (explained : List Trace → Arrival → Prop) :
    Follows script now explained { network := script } where
  network := script.drop_zero.symm
  cookies := by simp
  arrivals := by simp

theorem Advances.trans {ε : Type} {between after : Wire} {first second : Except ε Response}
    (early : wire.Advances script now explained first between)
    (late : between.Advances script now explained second after) :
    wire.Advances script now explained second after :=
  ⟨late.follows, early.grown.trans late.grown, late.answered⟩

theorem Advances.of_error {ε : Type} (follows : wire.Follows script now explained) (error : ε) :
    wire.Advances script now explained (.error error) wire :=
  ⟨follows, List.prefix_rfl, by simp⟩

theorem Follows.note (follows : wire.Follows script now explained) {reply : Reply}
    {network : Network} (next : wire.network.next? = some (reply, network)) (trace : Trace)
    (fits : ∀ arrival, trace = .arrived arrival → explained wire.traces arrival) {jar : Jar}
    (set : ∀ cookie ∈ jar.cookies, cookie.WasSet script now (wire.traces ++ [trace])) :
    Follows script now explained { network, jar, traces := wire.traces ++ [trace] } where
  network := by
    rw [follows.network] at next
    rw [List.length_append]
    exact (Network.next?_drop next).1
  cookies := set
  arrivals := by
    intro seen arrival known
    rcases List.prefix_concat_iff.mp known with last | earlier
    · obtain ⟨rfl, same⟩ := List.append_inj' last rfl
      exact fits arrival (List.singleton_inj.mp same).symm
    · exact follows.arrivals seen arrival earlier

/-- The response that is noted last is the answer to what arrived last. -/
theorem Follows.answered (follows : wire.Follows script now explained) {response : Response}
    {network : Network} (next : wire.network.next? = some (.answer response, network))
    (arrival : Arrival) :
    script.Answered (wire.traces ++ [.arrived arrival]) arrival (response.received arrival.method) := by
  rw [follows.network] at next
  refine ⟨wire.traces.length, response, List.getElem?_concat_length, ?_, rfl⟩
  exact (Network.next?_drop next).2 response rfl

theorem Advances.failing {ε ε' : Type} {after : Wire} {outcome : Except ε Response}
    (advances : wire.Advances script now explained outcome after) (error : ε') :
    wire.Advances script now explained (.error error : Except ε' Response) after :=
  ⟨advances.follows, advances.grown, by simp⟩

/-- One hop takes one reply and one note, or neither. -/
theorem hop_advances (follows : wire.Follows script now explained) (destination : Destination)
    (message : Message)
    (fits : explained wire.traces ((message.outgoing wire.jar destination).arrival destination)) :
    wire.Advances script now explained (wire.hop now destination message).1
        (wire.hop now destination message).2 ∧
      ∀ response, (wire.hop now destination message).1 = .ok response → ∃ arrival,
        arrival.destination = destination ∧
        script.Answered (wire.hop now destination message).2.traces arrival response := by
  have kept (trace : Trace) : ∀ cookie ∈ wire.jar.cookies,
      cookie.WasSet script now (wire.traces ++ [trace]) := fun cookie member =>
    (follows.cookies cookie member).mono (List.prefix_append _ _)
  unfold hop
  cases next : wire.network.next? with
  | none => exact ⟨.of_error follows _, by simp⟩
  | some reached =>
    obtain ⟨reply, network⟩ := reached
    dsimp only
    split
    · exact ⟨.of_error follows _, by simp⟩
    -- From here on a reply was taken, and whatever it is, a note is left with it.
    let arrival := (message.outgoing wire.jar destination).arrival destination
    have arrives : ∀ other, Trace.arrived arrival = .arrived other →
        explained wire.traces other := by
      rintro other ⟨⟩
      exact fits
    cases reply with
    | refuse => exact ⟨⟨follows.note next _ (by simp) (kept _), List.prefix_append _ _, by simp⟩, by simp⟩
    | close | stall =>
      exact ⟨⟨follows.note next _ arrives (kept _), List.prefix_append _ _, by simp⟩, by simp⟩
    | answer response =>
      let received := response.received arrival.method
      have answered : script.Answered (wire.traces ++ [.arrived arrival]) arrival received :=
        follows.answered next arrival
      have set : ∀ cookie ∈ (wire.jar.receiveAll now destination.cookiePlace received.headers).cookies,
          cookie.WasSet script now (wire.traces ++ [.arrived arrival]) := by
        intro cookie member
        rcases Jar.mem_receiveAll member with old | ⟨text, own, read⟩
        · exact kept _ cookie old
        · exact ⟨arrival, received, answered, text, own, read⟩
      refine ⟨⟨follows.note next _ arrives set, List.prefix_append _ _, ?_⟩, ?_⟩
      · rintro other ⟨⟩
        exact ⟨arrival, answered⟩
      · rintro other ⟨⟩
        exact ⟨arrival, rfl, answered⟩

/-- A redirect leads where the response points to, with what it leaves of the message. -/
theorem next_leads {destination target : Destination} {message after : Message} {response : Response}
    (goes : next destination message response = .ok (target, after)) :
    (∃ location, Header.value? "location" response.headers = some location ∧
        destination.redirect? location = some target) ∧
      message.redirected? response.status = some after := by
  unfold next at goes
  split at goes
  · cases goes
  next location located =>
    split at goes
    · cases goes
    next following redirected =>
      split at goes
      · cases goes
      next found place =>
        cases goes
        exact ⟨⟨location, located, place⟩, redirected⟩

/-- However many redirects are followed, what arrives stems from the message that was sent. -/
theorem follow_advances (redirects : Nat) (follows : wire.Follows script now explained)
    {message whole : Message} (part : message.IsPart whole) {first destination : Destination}
    (leads : Destination.Stems script wire.traces first destination)
    (explains : ∀ seen arrival, wire.traces <+: seen →
      arrival.Stems script now seen whole first → explained seen arrival) :
    wire.Advances script now explained (follow now wire destination message redirects).1
      (follow now wire destination message redirects).2 := by
  -- The message shrinks and the destination moves on from hop to hop; what both stem from does not.
  induction redirects generalizing wire destination message with
  | zero =>
    have hopped := (hop_advances follows destination message (explains _ _ List.prefix_rfl
      (Message.arrival_stems follows.cookies part leads))).1
    rw [follow]
    split
    next response after given =>
      rw [given] at hopped
      split
      · exact hopped.failing _
      · exact hopped
    next => exact hopped
  | succ redirects ih =>
    obtain ⟨hopped, place⟩ := hop_advances follows destination message (explains _ _ List.prefix_rfl
      (Message.arrival_stems follows.cookies part leads))
    rw [follow]
    split
    next response after given =>
      rw [given] at hopped place
      split
      next redirect =>
        split
        next target following goes =>
          obtain ⟨arrival, rfl, answered⟩ := place response rfl
          obtain ⟨⟨location, located, redirects⟩, redirected⟩ := next_leads goes
          have onward : Destination.Stems script after.traces first target :=
            .inr ⟨arrival, response, location, answered, redirect, located, redirects⟩
          exact hopped.trans (ih hopped.follows (Message.isPart_of_redirected part redirected) onward
            fun seen other seen_before => explains seen other (hopped.grown.trans seen_before))
        next => exact hopped.failing _
      next => exact hopped
    next => exact hopped

end Wire
end
end Courier
