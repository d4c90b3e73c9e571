import Courier.Proofs.Outcome
import Courier.Proofs.Transport.Arrivals
/-! Messages that differ only in what their authorizations say. The same comes of both, and what
arrives shows no other difference. A redirect takes authorizations away, so that from the first one
on the messages are equal. -/

namespace Courier

open Outcome (Agree)

/-! ### Fields -/

namespace Header

def veiled (header : Header) : Header :=
  if asciiLowerText header.1 = "authorization" then (header.1, "") else header

theorem veiled_name (header : Header) : header.veiled.1 = header.1 := by
  unfold veiled
  split <;> rfl

/-- Fields that differ at most in what an authorization says. Both are readable or none is. -/
structure Alike (left right : Header) : Prop where
  name : left.1 = right.1
  value : asciiLowerText left.1 ≠ "authorization" → left.2 = right.2
  readable : isReadable left.2 = isReadable right.2

theorem Alike.refl (header : Header) : Alike header header := ⟨rfl, fun _ => rfl, rfl⟩

theorem Alike.eq {left right : Header} (alike : Alike left right)
    (shown : asciiLowerText left.1 ≠ "authorization") : left = right :=
  Prod.ext alike.name (alike.value shown)

section

variable {left right : List Header}

theorem alike_refl (headers : List Header) : List.Forall₂ Alike headers headers :=
  List.forall₂_same.mpr fun header _ => .refl header

theorem alike_values (alike : List.Forall₂ Alike left right) (name : String) :
    List.Forall₂ (fun one other => isReadable one = isReadable other) (values name left)
      (values name right) := by
  induction alike with
  | nil => exact .nil
  | @cons one other _ _ here _ ih =>
    unfold values at ih ⊢
    rw [List.filter_cons, List.filter_cons, here.name]
    by_cases named : sameIgnoringCase other.1 name = true
    · rw [if_pos named, if_pos named]
      exact .cons here.readable ih
    · rw [if_neg named, if_neg named]
      exact ih

theorem any_unreadable_of_alike (alike : List.Forall₂ Alike left right) (name : String) :
    (values name left).any (!isReadable ·) = (values name right).any (!isReadable ·) := by
  have each := alike_values alike name
  generalize values name left = one, values name right = other at each
  induction each with
  | nil => rfl
  | cons here _ ih => rw [List.any_cons, List.any_cons, here, ih]

theorem isEmpty_values_of_alike (alike : List.Forall₂ Alike left right) (name : String) :
    (values name left).isEmpty = (values name right).isEmpty := by
  have same := (alike_values alike name).length_eq
  rw [Bool.eq_iff_iff, List.isEmpty_iff_length_eq_zero, List.isEmpty_iff_length_eq_zero, same]

/-- Fields that are alike are equal when their authorizations are taken away. -/
theorem filter_of_alike (alike : List.Forall₂ Alike left right) :
    left.filter (fun header => !sameIgnoringCase header.1 Message.authorizationName) =
      right.filter fun header => !sameIgnoringCase header.1 Message.authorizationName := by
  have lower : asciiLowerText Message.authorizationName = "authorization" := by decide
  induction alike with
  | nil => rfl
  | @cons one other _ _ here _ ih =>
    by_cases hidden : asciiLowerText one.1 = "authorization"
    · have both : asciiLowerText other.1 = "authorization" := here.name ▸ hidden
      have dropped : ∀ header : Header, asciiLowerText header.1 = "authorization" →
          sameIgnoringCase header.1 Message.authorizationName = true := by
        intro header named
        rw [sameIgnoringCase_iff, named, lower]
      simpa [dropped one hidden, dropped other both] using ih
    · rw [here.eq hidden, List.filter_cons, List.filter_cons, ih]

end

end Header

/-! ### Messages -/

namespace Message

structure Alike (left right : Message) : Prop where
  method : left.method = right.method
  headers : List.Forall₂ Header.Alike left.headers right.headers
  body : left.body = right.body

variable {left right : Message}

theorem Alike.refl (message : Message) : Alike message message :=
  ⟨rfl, Header.alike_refl _, rfl⟩

theorem Alike.with (alike : Alike left right) (header : Header) :
    Alike { left with headers := left.headers ++ [header] }
      { right with headers := right.headers ++ [header] } where
  method := alike.method
  headers := List.rel_append alike.headers (.cons (.refl header) .nil)
  body := alike.body

theorem Alike.addressed (alike : Alike left right) (destination : Destination) :
    Alike (left.addressed destination) (right.addressed destination) := by
  have own : left.hasAuthorization = right.hasAuthorization :=
    congrArg (!·) (Header.isEmpty_values_of_alike alike.headers authorizationName)
  unfold Message.addressed
  rw [own]
  split
  · split
    · exact alike
    · exact alike.with _
  · exact alike

theorem Alike.withCookies (alike : Alike left right) (jar : Jar) (destination : Destination) :
    Alike (left.withCookies jar destination) (right.withCookies jar destination) := by
  unfold Message.withCookies
  split
  · exact alike.with _
  · exact alike

theorem withoutAuthorization_of_alike (alike : Alike left right) :
    left.withoutAuthorization = right.withoutAuthorization := by
  unfold withoutAuthorization
  rw [alike.method, alike.body, Header.filter_of_alike alike.headers]

theorem redirected?_of_alike (alike : Alike left right) (status : Nat) :
    left.redirected? status = right.redirected? status := by
  unfold redirected?
  rw [withoutAuthorization_of_alike alike, alike.method]

end Message

/-! ### Arrivals -/

def Arrival.veiled (arrival : Arrival) : Arrival :=
  { arrival with headers := arrival.headers.map Header.veiled }

def Trace.veiled : Trace → Trace
  | .arrived arrival => .arrived arrival.veiled
  | .refused destination => .refused destination

namespace Message

theorem veiled_arrivingHeader {left right : Header} (alike : Header.Alike left right) :
    (arrivingHeader left).veiled = (arrivingHeader right).veiled := by
  by_cases hidden : asciiLowerText left.1 = "authorization"
  · have both : asciiLowerText right.1 = "authorization" := alike.name ▸ hidden
    have lower : asciiLowerText "authorization" = "authorization" := by decide
    simp only [Header.veiled, arrivingHeader, hidden, both, lower, ↓reduceIte]
  · rw [alike.eq hidden]

theorem map_veiled_sorted (headers : List Header) :
    (Header.sorted headers).map Header.veiled = Header.sorted (headers.map Header.veiled) := by
  unfold Header.sorted
  apply List.map_mergeSort
  intro one _ other _
  rw [Header.veiled_name, Header.veiled_name]

theorem veiled_arrival {left right : Message} (alike : Alike left right)
    (destination : Destination) :
    (left.arrival destination).veiled = (right.arrival destination).veiled := by
  have fields : (left.headers.map arrivingHeader).map Header.veiled =
      (right.headers.map arrivingHeader).map Header.veiled := by
    have each : List.Forall₂ (fun one other => (arrivingHeader one).veiled = (arrivingHeader other).veiled)
        left.headers right.headers := alike.headers.imp fun _ _ => veiled_arrivingHeader
    rw [← List.forall₂_eq_eq_eq]
    simpa only [List.forall₂_map_left_iff, List.forall₂_map_right_iff] using each
  have arrived := calc
    (Header.sorted (left.headers.map arrivingHeader)).map Header.veiled
      = Header.sorted ((left.headers.map arrivingHeader).map Header.veiled) := map_veiled_sorted _
    _ = Header.sorted ((right.headers.map arrivingHeader).map Header.veiled) := by rw [fields]
    _ = (Header.sorted (right.headers.map arrivingHeader)).map Header.veiled :=
      (map_veiled_sorted _).symm
  unfold Arrival.veiled arrival
  dsimp only
  rw [arrived, alike.method, alike.body]

end Message

/-! ### Wires -/

namespace Wire

structure Alike (left right : Wire) : Prop where
  network : left.network = right.network
  jar : left.jar = right.jar
  traces : left.traces.map Trace.veiled = right.traces.map Trace.veiled

variable {left right : Wire}

theorem Alike.refl (wire : Wire) : Alike wire wire := ⟨rfl, rfl, rfl⟩

theorem Alike.arriving (alike : Alike left right) {one other : Message}
    (messages : Message.Alike one other) (destination : Destination) (network : Network)
    (jar : Jar) :
    Alike ⟨network, jar, left.traces ++ [.arrived (one.arrival destination)]⟩
      ⟨network, jar, right.traces ++ [.arrived (other.arrival destination)]⟩ := by
  refine ⟨rfl, rfl, ?_⟩
  have arrivals := Message.veiled_arrival messages destination
  simp only [List.map_append, List.map_singleton, Trace.veiled, alike.traces, arrivals]

/-- Of messages that are alike a hop gives the same response and wires that are alike. -/
theorem hop_alike (alike : Alike left right) {one other : Message}
    (messages : Message.Alike one other) (now : Int) (destination : Destination) :
    Agree Alike (left.hop now destination one) (right.hop now destination other) := by
  have sent := (messages.addressed destination).withCookies right.jar destination
  unfold hop
  dsimp only
  rw [alike.network, alike.jar, Header.any_unreadable_of_alike sent.headers, sent.method]
  cases right.network.next? with
  | none => exact ⟨rfl, alike⟩
  | some reached =>
    obtain ⟨reply, network⟩ := reached
    dsimp only
    split
    · exact ⟨rfl, alike⟩
    cases reply with
    | refuse =>
      refine ⟨rfl, rfl, rfl, ?_⟩
      rw [List.map_append, List.map_append, alike.traces]
    | close | stall | answer => exact ⟨rfl, alike.arriving sent destination _ _⟩

theorem next_of_alike {one other : Message} (messages : Message.Alike one other)
    (destination : Destination) (response : Response) :
    next destination one response = next destination other response := by
  unfold next
  rw [Message.redirected?_of_alike messages]

/-- Following redirects starts with messages that are alike and goes on with one message for both. -/
theorem follow_alike (now : Int) (redirects : Nat) (alike : Alike left right) {one other : Message}
    (messages : Message.Alike one other) (destination : Destination) :
    Agree Alike (follow now left destination one redirects)
      (follow now right destination other redirects) := by
  induction redirects generalizing left right one other destination with
  | zero =>
    obtain ⟨outcome, before, after, first, second, wires⟩ :=
      (hop_alike alike messages now destination).exists
    rw [follow, follow, first, second]
    cases outcome with
    | error interruption => exact ⟨rfl, wires⟩
    | ok response =>
      dsimp only
      split <;> exact ⟨rfl, wires⟩
  | succ redirects ih =>
    obtain ⟨outcome, before, after, first, second, wires⟩ :=
      (hop_alike alike messages now destination).exists
    rw [follow, follow, first, second]
    cases outcome with
    | error interruption => exact ⟨rfl, wires⟩
    | ok response =>
      dsimp only
      rw [next_of_alike messages]
      split
      · cases next destination other response with
        | error fault => exact ⟨rfl, wires⟩
        | ok following => exact ih wires (.refl following.2) following.1
      · exact ⟨rfl, wires⟩

theorem exchange_alike (now : Int) (alike : Alike left right) {one other : Message}
    (messages : Message.Alike one other) (destination : Destination) :
    Agree Alike (left.exchange now destination one) (right.exchange now destination other) :=
  follow_alike now greatestRedirects alike messages destination

end Wire
end Courier
