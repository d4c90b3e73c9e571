import Courier.Proofs.Executor.LateBlame
import Courier.Proofs.Executor.Saving
/-! Bodies that are read or not. A body that the client reads within the limit of its job is there in
full, whenever it is read. One that the client finds too large, or that breaks off or comes to a halt,
is refused as a whole, and nothing of it shows in what is read, told or saved afterwards. What becomes
of a body that is exactly as large as the limit is up to the client, and both ways are followed here. -/

namespace Courier

namespace BodyReader

variable [BodyReader]

/-- Bodies that are exactly as large as the limit are read. -/
def ReadsFull : Prop :=
  ∀ bytes limit, bytes.length = limit → read (.whole bytes) limit = .ok bytes

/-- Bodies that are exactly as large as the limit are too large for it. -/
def RefusesFull : Prop :=
  ∀ bytes limit, bytes.length = limit → read (.whole bytes) limit = .error (.exceedsLimit limit)

omit [BodyReader] in
theorem readsFull_lenient : @ReadsFull lenient := by
  intro bytes limit full
  change judge _ limit (.whole bytes) = _
  simp [judge, full]

omit [BodyReader] in
theorem refusesFull_strict : @RefusesFull strict := by
  intro bytes limit full
  change judge _ limit (.whole bytes) = _
  simp [judge, full]

end BodyReader

namespace PendingBody

variable [BodyReader] {pending : PendingBody}

theorem read_of_taken {raw : List UInt8}
    (taken : BodyReader.read pending.delivery pending.limit = .ok raw) :
    pending.read = .ok (.decode raw) := (read_eq_ok_iff pending _).mpr ⟨raw, taken, rfl⟩

theorem read_of_interrupted {interruption : Interruption}
    (interrupted : BodyReader.read pending.delivery pending.limit = .error interruption) :
    pending.read = .error (.ofInterruption pending.url pending.timeout interruption) :=
  (read_eq_error_iff pending _).mpr ⟨interruption, interrupted, rfl⟩

end PendingBody

section

variable [BodyReader] {Files : Type} [FileSystem Files]

namespace Capture

/-- Captures that differ at most in a body that neither of them can read, for one reason. -/
structure AlikeUnread (error : TransportError) (left right : Capture) : Prop where
  status : left.status = right.status
  headers : left.headers = right.headers
  body : left.body = right.body ∨ left.Fails error ∧ right.Fails error

namespace AlikeUnread

variable {error : TransportError} {left right : Capture}

theorem of_same (same : left = right) : AlikeUnread error left right := by
  subst same
  exact ⟨rfl, rfl, Or.inl rfl⟩

theorem load_eq (alike : AlikeUnread error left right) : left.load = right.load := by
  obtain ⟨status, headers, body⟩ := alike
  rcases body with same | ⟨first, second⟩
  · have whole : left = right := by
      cases left
      cases right
      simp_all
    rw [whole]
  · rw [load_of_fails first, load_of_fails second, status, headers]

theorem debugText_eq (alike : AlikeUnread error left right) (shown : String) :
    left.debugText shown = right.debugText shown := by
  have body : debugBody left.body = debugBody right.body := by
    rcases alike.body with same | ⟨⟨_, first, _⟩, ⟨_, second, _⟩⟩
    · rw [same]
    · rw [first, second]
      rfl
  unfold debugText
  rw [alike.status, body]

theorem read (alike : AlikeUnread error left right) (shown : String) (how : Read) :
    (left.read shown how).1 = (right.read shown how).1 ∧
      AlikeUnread error (left.read shown how).2 (right.read shown how).2 := by
  have loaded := alike.load_eq
  by_cases debug : how = .debug
  · have debugged (capture : Capture) :
        capture.read shown how = (.shown (capture.debugText shown), capture) := by rw [debug]; rfl
    rw [debugged, debugged, alike.debugText_eq shown]
    exact ⟨rfl, alike⟩
  · constructor
    · cases how with
      | debug => exact absurd rfl debug
      | content | bytes => simp only [Capture.read, loadQuietly, loaded]
      | tryContent | tryBytes => simp only [Capture.read, loaded]
      | display => simp only [Capture.read, loadQuietly, loaded, alike.status]
    · apply of_same
      rw [read_snd, read_snd, if_neg debug, if_neg debug, loaded]

theorem readAll (alike : AlikeUnread error left right) (shown : String) (reads : List Read) :
    (left.readAll shown reads).1 = (right.readAll shown reads).1 := by
  induction reads generalizing left right with
  | nil => rfl
  | cons how rest ih =>
    have goes (capture : Capture) : (capture.readAll shown (how :: rest)).1 =
        (capture.read shown how).1 :: ((capture.read shown how).2.readAll shown rest).1 := rfl
    obtain ⟨same, after⟩ := alike.read shown how
    rw [goes, goes, same, ih after]

end AlikeUnread

/-- Whether every read of a body gives all of it, whatever was read before. -/
structure YieldsAll (capture : Capture) (raw : List UInt8) : Prop where
  bytes : ∀ shown earlier how, how = .bytes ∨ how = .tryBytes →
    ((capture.readAll shown earlier).2.read shown how).1 = .bytes (some raw)
  content : ∀ shown earlier how, how = .content ∨ how = .tryContent →
    ((capture.readAll shown earlier).2.read shown how).1 = .content (some (Utf8.lossyText raw))

/-- Whether the reader that looks first at a body that is not read, and can tell, reports the error, and
whether nothing of the body shows: any other that is not read for the same reason, whatever its bytes,
gives the same answers. -/
structure Withholds (capture : Capture) (interruption : Interruption) (error : TransportError) :
    Prop where
  blamed : ∀ shown earlier, (∀ how ∈ earlier, how = .debug) →
    ∀ how, how = .tryContent ∨ how = .tryBytes →
      ((capture.readAll shown earlier).2.read shown how).1 = .failed error
  hidden : ∃ pending, capture.body = .deferred pending ∧
    ∀ other, BodyReader.read other pending.limit = .error interruption → ∀ shown reads,
      let exchanged := { capture with body := .deferred { pending with delivery := other } }
      (capture.readAll shown reads).1 = (exchanged.readAll shown reads).1

theorem yieldsAll_of_made {origin : Origin} {status : Nat} {headers : List Header}
    {capture : Capture} {raw : List UInt8} (made : origin.capture status headers = .ok capture)
    (holds : origin.Holds raw) : capture.YieldsAll raw where
  bytes := by
    intro shown earlier how gives
    exact (readsOnce_of_made made shown earlier how).bytes raw holds gives
  content := by
    intro shown earlier how gives
    exact (readsOnce_of_made made shown earlier how).text raw holds gives

theorem withholds_of_interrupted {capture : Capture} {pending : PendingBody}
    {interruption : Interruption} (deferred : capture.body = .deferred pending)
    (interrupted : BodyReader.read pending.delivery pending.limit = .error interruption) :
    capture.Withholds interruption
      (.ofInterruption pending.url pending.timeout interruption) := by
  have fails : capture.Fails (.ofInterruption pending.url pending.timeout interruption) :=
    ⟨pending, deferred, PendingBody.read_of_interrupted interrupted⟩
  constructor
  case blamed =>
    intro shown earlier debugs how tells
    obtain ⟨content, bytes⟩ := told_of_fails fails shown debugs
    rcases tells with rfl | rfl
    · exact content
    · exact bytes
  case hidden =>
    refine ⟨pending, deferred, ?_⟩
    intro other likewise shown reads exchanged
    have also : exchanged.Fails (.ofInterruption pending.url pending.timeout interruption) :=
      ⟨{ pending with delivery := other }, rfl, PendingBody.read_of_interrupted likewise⟩
    have alike : AlikeUnread (.ofInterruption pending.url pending.timeout interruption) capture
        exchanged := ⟨rfl, rfl, Or.inr ⟨fails, also⟩⟩
    exact alike.readAll shown reads

end Capture

namespace Executor

open Capture (Origin)

def YieldsBody (executor : Executor) (network : Network) (job : Job) (raw : List UInt8) : Prop :=
  ∀ eager, ∃ capture, (executor.execute network (withCapture job eager)).outcome = .ok capture ∧
    capture.YieldsAll raw

/-- What comes of a job whose body is not read: the error tells why, whether the body is read at once
or when it is first asked for, and a job that is judged and asks for it saves and tells nothing of it. -/
structure RefusesBody (executor : Executor) (network : Network) (files : Files) (job : Job)
    (interruption : Interruption) (error : TransportError) : Prop where
  eager : (executor.execute network (withCapture job true)).outcome = .error (.transport error)
  deferred : ∃ capture, (executor.execute network (withCapture job false)).outcome = .ok capture ∧
    capture.Withholds interruption error
  judged : ∀ accepted, RangeSet.parse (some job.acceptedCodes) = .ok accepted → AsksForBody job →
    executor.perform network files job =
      ({ executor.execute network job with outcome := .error (.transport error) }, files)

section

variable {executor : Executor} {network : Network} {job : Job} {plan : Plan} {response : Response}
  {session : Session} {raw : List UInt8} (planned : Executor.plan executor.registry job = .ok plan)
  (sent : sendPlan executor.around (Session.start (job.timeout * 1000) network) plan =
    (.ok response, session))

include planned sent

theorem yieldsBody_of_taken (taken : BodyReader.read response.delivery job.bodyLimit = .ok raw) :
    YieldsBody executor network job raw := by
  intro eager
  have read : (onItsWay job plan.request response).read = .ok (.decode raw) :=
    PendingBody.read_of_taken taken
  have holds : (Origin.response (onItsWay job plan.request response) eager).Holds raw :=
    ⟨BodyReader.all taken, _, read⟩
  cases eager with
  | true =>
    have outcome := congrArg Report.outcome (execute_eager job planned sent)
    rw [read] at outcome
    have made : (Origin.response (onItsWay job plan.request response) true).capture
        response.status response.headers = .ok (captureWith response (.present (.decode raw))) := by
      change Executor.capture (withCapture job true) plan.request response = _
      rw [capture_eager, read]
      rfl
    exact ⟨_, outcome, Capture.yieldsAll_of_made made holds⟩
  | false =>
    have outcome := congrArg Report.outcome (execute_deferred job planned sent)
    exact ⟨_, outcome, Capture.yieldsAll_of_made rfl holds⟩

theorem refusesBody_of_interrupted (files : Files) {interruption : Interruption}
    (interrupted : BodyReader.read response.delivery job.bodyLimit = .error interruption) :
    RefusesBody executor network files job interruption
      (.ofInterruption plan.request.url (job.timeout * 1000) interruption) := by
  have unread : (onItsWay job plan.request response).read =
      .error (.ofInterruption plan.request.url (job.timeout * 1000) interruption) :=
    PendingBody.read_of_interrupted interrupted
  have at_once := congrArg Report.outcome (execute_eager job planned sent)
  have later := congrArg Report.outcome (execute_deferred job planned sent)
  rw [unread] at at_once
  constructor
  case eager => exact at_once
  case deferred =>
    let pending := onItsWay job plan.request response
    have withholds : (captureWith response (.deferred pending)).Withholds interruption
        (.ofInterruption pending.url pending.timeout interruption) :=
      Capture.withholds_of_interrupted rfl interrupted
    exact ⟨_, later, withholds⟩
  case judged =>
    intro accepted ranged asks
    cases eager : job.captureBody with
    | true =>
      have same : withCapture job true = job := by rw [withCapture, ← eager]
      rw [same] at at_once
      have failed : (executor.execute network job).outcome = .error
          (.transport (.ofInterruption plan.request.url (job.timeout * 1000) interruption)) :=
        at_once
      rw [perform_of_failed files job ranged failed, ← failed]
    | false =>
      have same : withCapture job false = job := by rw [withCapture, ← eager]
      rw [same] at later
      have refused : Unread job
          (captureWith response (.deferred (onItsWay job plan.request response)))
          (.ofInterruption plan.request.url (job.timeout * 1000) interruption) :=
        ⟨asks, _, rfl, unread⟩
      rw [perform_of_captured files job ranged later, conclude_of_unread refused, List.append_nil]

/-- A body that comes to a halt or breaks off below the limit of its job is refused: for the time, which
the error tells, or for what broke it off. -/
theorem incomplete_body_is_refused (files : Files) (small : raw.length < job.bodyLimit) :
    (response.delivery = .stalled raw →
      RefusesBody executor network files job .timeout
        (.timeout plan.request.url (job.timeout * 1000))) ∧
    (response.delivery = .broken raw →
      ∃ fault, RefusesBody executor network files job (.fault fault)
        (.request plan.request.url fault)) := by
  constructor
  · intro stalled
    exact refusesBody_of_interrupted planned sent files (stalled ▸ BodyReader.stalled small)
  · intro broken
    obtain ⟨fault, interrupted⟩ := BodyReader.broken small
    exact ⟨fault, refusesBody_of_interrupted planned sent files (broken ▸ interrupted)⟩

end

/-- A body below the limit of its job is there in full, and one beyond it is refused, with an error that
tells the limit. One that is exactly as large as the limit is treated as one of these, as the client
does. -/
theorem body_is_read_within_limit (executor : Executor) (network : Network) (files : Files)
    (job : Job) (raw : List UInt8) (received : Receives executor network job raw) :
    ∃ plan, Executor.plan executor.registry job = .ok plan ∧
      let yields := YieldsBody executor network job raw
      let refuses := RefusesBody executor network files job (.exceedsLimit job.bodyLimit)
        (.bodyTooLarge plan.request.url job.bodyLimit)
      (raw.length < job.bodyLimit → yields) ∧
      (job.bodyLimit < raw.length → refuses) ∧
      (raw.length = job.bodyLimit → (yields ∨ refuses) ∧
        (BodyReader.ReadsFull → yields) ∧ (BodyReader.RefusesFull → refuses)) := by
  obtain ⟨plan, response, session, planned, sent, delivered⟩ := received
  have yields (taken : BodyReader.read (.whole raw) job.bodyLimit = .ok raw) :
      YieldsBody executor network job raw :=
    yieldsBody_of_taken planned sent (delivered ▸ taken)
  have refuses (exceeds : BodyReader.read (.whole raw) job.bodyLimit =
      .error (.exceedsLimit job.bodyLimit)) :
      RefusesBody executor network files job (.exceedsLimit job.bodyLimit)
        (.bodyTooLarge plan.request.url job.bodyLimit) :=
    refusesBody_of_interrupted planned sent files (delivered ▸ exceeds)
  refine ⟨plan, planned, fun small => yields (BodyReader.below small),
    fun large => refuses (BodyReader.beyond large), fun full => ⟨?_, ?_, ?_⟩⟩
  · exact (BodyReader.exact full).imp yields refuses
  · intro reads
    exact yields (reads raw job.bodyLimit full)
  · intro stops
    exact refuses (stops raw job.bodyLimit full)

end Executor

end

end Courier
