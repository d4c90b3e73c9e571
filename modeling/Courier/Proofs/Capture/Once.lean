import Courier.Proofs.Capture.Payload
import Courier.Proofs.Capture.Reading
/-! Bodies are read at most once. Of all reads of a capture only the first that looks at the body can
take it from the wire, and what that one finds is what every later one gives. -/

namespace Courier.Capture

variable [BodyReader]

/-- Where a capture comes from: a text that is there if there is a body, or a response whose body is
read at once or when it is asked for. -/
inductive Origin where
  | buffered (content : Option String)
  | response (pending : PendingBody) (eager : Bool)

namespace Origin

def capture (status : Nat) (headers : List Header) : Origin → Except TransportError Capture
  | .buffered content => .ok (Capture.buffered status headers content)
  | .response pending eager => ofResponse status headers pending eager

def IsDeferred (origin : Origin) : Prop := ∃ pending, origin = .response pending false

/-- Whether there is a body and it can be had: the bytes of the text, or those that are delivered. -/
def Holds (raw : List UInt8) : Origin → Prop
  | .buffered content => ∃ text, content = some text ∧ raw = Utf8.bytes text
  | .response pending _ => pending.delivery = .whole raw ∧ ∃ payload, pending.read = .ok payload

end Origin

def isDeferred (capture : Capture) : Bool :=
  match capture.body with
  | .deferred _ => true
  | _ => false

def takes (before after : Capture) : Bool := before.isDeferred && !after.isDeferred

def takings (capture : Capture) (headers : String) : List Read → Nat
  | [] => 0
  | how :: rest =>
    let after := (capture.read headers how).2
    (if capture.takes after then 1 else 0) + after.takings headers rest

/-! ### The body on the wire -/

theorem isDeferred_load (capture : Capture) : capture.load.2.isDeferred = false := by
  unfold load
  split
  next payload present => simp only [isDeferred, present]
  next absent => simp only [isDeferred, absent]
  · split <;> rfl

theorem isDeferred_readAll (capture : Capture) (headers : String) (reads : List Read) :
    (capture.readAll headers reads).2.isDeferred = true ↔
      capture.isDeferred = true ∧ ∀ how ∈ reads, how = .debug := by
  rw [readAll_snd]
  split
  next shown => exact (and_iff_left shown).symm
  next looked => simp only [isDeferred_load, Bool.false_eq_true, looked, and_false]

/-- A body is taken at most once, by the first read that looks at it. -/
theorem takings_eq (capture : Capture) (headers : String) (reads : List Read) :
    capture.takings headers reads =
      if capture.isDeferred ∧ ∃ how ∈ reads, how ≠ .debug then 1 else 0 := by
  induction reads generalizing capture with
  | nil => simp [takings]
  | cons how rest ih =>
    rw [takings, ih, takes, read_snd]
    by_cases shown : how = .debug
    · simp [shown]
    · cases deferred : capture.isDeferred <;> simp [shown, isDeferred_load]

inductive Origin.StartsWith : Origin → CapturedBody → Prop where
  | absent : StartsWith (.buffered none) .absent
  | kept (text : String) : StartsWith (.buffered (some text)) (.present (.text text))
  | read {pending : PendingBody} {payload : Payload} (read : pending.read = .ok payload) :
      StartsWith (.response pending true) (.present payload)
  | deferred (pending : PendingBody) : StartsWith (.response pending false) (.deferred pending)

theorem startsWith_of_made {origin : Origin} {status : Nat} {headers : List Header}
    {capture : Capture} (made : origin.capture status headers = .ok capture) :
    origin.StartsWith capture.body ∧ capture.status = status := by
  cases origin with
  | buffered content =>
    obtain rfl := Except.ok.inj made
    cases content with
    | none => exact ⟨.absent, rfl⟩
    | some text => exact ⟨.kept text, rfl⟩
  | response pending eager =>
    cases eager with
    | true =>
      obtain ⟨payload, read, kept⟩ := (Outcome.bind_eq_ok_iff _ _ _).mp made
      obtain rfl := Except.ok.inj kept
      exact ⟨.read read, rfl⟩
    | false =>
      obtain rfl := Except.ok.inj made
      exact ⟨.deferred pending, rfl⟩

theorem Origin.StartsWith.isDeferred_iff {origin : Origin} {capture : Capture}
    (starts : origin.StartsWith capture.body) :
    capture.isDeferred = true ↔ origin.IsDeferred := by
  unfold isDeferred
  generalize capture.body = body at starts
  cases starts <;> simp [Origin.IsDeferred]

/-! ### What is read -/

theorem Origin.StartsWith.load {origin : Origin} {capture : Capture}
    (starts : origin.StartsWith capture.body) {raw : List UInt8} (holds : origin.Holds raw) :
    ∃ payload, capture.load.1 = .ok (some payload) ∧ payload.bytes = raw ∧
      payload.content = Utf8.lossyText raw := by
  unfold Capture.load
  generalize capture.body = body at starts
  cases starts with
  | absent =>
    obtain ⟨text, given, _⟩ := holds
    cases given
  | kept text =>
    obtain ⟨other, given, rfl⟩ := holds
    obtain rfl := Option.some.inj given
    exact ⟨.text text, rfl, rfl, (Utf8.lossyText_bytes text).symm⟩
  | @read pending payload read => exact ⟨payload, rfl, PendingBody.delivers read holds.1⟩
  | deferred pending =>
    obtain ⟨delivered, payload, read⟩ := holds
    dsimp only
    rw [read]
    exact ⟨payload, rfl, PendingBody.delivers read delivered⟩

theorem Origin.StartsWith.exists_read {pending : PendingBody} {eager : Bool} {capture : Capture}
    (starts : (Origin.response pending eager).StartsWith capture.body)
    (readable : ∀ error, ¬capture.Fails error) : ∃ payload, pending.read = .ok payload := by
  unfold Fails at readable
  generalize capture.body = body at starts readable
  cases starts with
  | read read => exact ⟨_, read⟩
  | deferred =>
    cases read : pending.read with
    | error error => exact absurd ⟨pending, rfl, read⟩ (readable error)
    | ok payload => exact ⟨payload, rfl⟩

/-- What each read gives of a body that is loaded. -/
theorem read_of_load {capture : Capture} {payload : Option Payload}
    (loaded : capture.load.1 = .ok payload) (headers : String) :
    (capture.read headers .content).1 = .content (payload.map Payload.content) ∧
      (capture.read headers .tryContent).1 = .content (payload.map Payload.content) ∧
      (capture.read headers .bytes).1 = .bytes (payload.map Payload.bytes) ∧
      (capture.read headers .tryBytes).1 = .bytes (payload.map Payload.bytes) ∧
      (capture.read headers .display).1 = .shown (displayText capture.status payload) := by
  rcases known : capture.load with ⟨result, after⟩
  obtain rfl : result = .ok payload := (congrArg Prod.fst known).symm.trans loaded
  simp only [read, loadQuietly, known, and_self]

theorem read_eq_failed_iff (capture : Capture) (headers : String) {how : Read}
    (reports : how = .tryContent ∨ how = .tryBytes) (error : TransportError) :
    (capture.read headers how).1 = .failed error ↔ capture.load.1 = .error error := by
  rcases known : capture.load with ⟨_ | payload, after⟩ <;> rcases reports with rfl | rfl <;>
    simp only [read, known, Answer.failed.injEq, Except.error.injEq, reduceCtorEq]

theorem load_readAll {capture : Capture} {payload : Option Payload}
    (loaded : capture.load.1 = .ok payload) (headers : String) (reads : List Read) :
    (capture.readAll headers reads).2.load.1 = .ok payload := by
  rw [readAll_snd]
  split
  · exact loaded
  · exact congrArg Prod.fst (load_of_load_ok (Prod.ext loaded rfl : capture.load = (_, _)))

theorem readAll_status (capture : Capture) (headers : String) (reads : List Read) :
    (capture.readAll headers reads).2.status = capture.status := by
  rw [readAll_snd]
  split
  · rfl
  · exact load_status capture

theorem readAll_headers (capture : Capture) (headers : String) (reads : List Read) :
    (capture.readAll headers reads).2.headers = capture.headers := by
  rw [readAll_snd]
  split
  · rfl
  · exact load_headers capture

theorem length_readAll (capture : Capture) (headers : String) (reads : List Read) :
    (capture.readAll headers reads).1.length = reads.length := by
  induction reads generalizing capture with
  | nil => rfl
  | cons how rest ih => simp only [readAll, List.length_cons, ih]

theorem readAll_append_fst (capture : Capture) (headers : String) (earlier later : List Read) :
    (capture.readAll headers (earlier ++ later)).1 =
      (capture.readAll headers earlier).1 ++
        ((capture.readAll headers earlier).2.readAll headers later).1 := by
  induction earlier generalizing capture with
  | nil => rfl
  | cons how rest ih => simp only [List.cons_append, readAll, ih]

theorem getElem?_readAll (capture : Capture) (headers : String) (earlier : List Read) (how : Read)
    (later : List Read) :
    (capture.readAll headers (earlier ++ how :: later)).1[earlier.length]? =
      some ((capture.readAll headers earlier).2.read headers how).1 := by
  have before := length_readAll capture headers earlier
  rw [readAll_append_fst, List.getElem?_append_right (Nat.le_of_eq before), before, Nat.sub_self]
  rfl

omit [BodyReader] in
theorem debugBody_eq_none_iff (capture : Capture) :
    debugBody capture.body = "None" ↔ capture.isDeferred = true := by
  unfold isDeferred
  cases capture.body with
  | deferred pending => simp [debugBody]
  | absent => simp [debugBody]
  | present payload =>
    have start : (debugBody (.present payload)).toList.head? = some 'S' := by simp [debugBody]
    simp only [Bool.false_eq_true, iff_false]
    intro same
    rw [same] at start
    cases start

/-! ### One read among others -/

/-- What one read gives after earlier ones, and what it leaves behind. -/
structure ReadsOnce (origin : Origin) (status : Nat) (headers : List Header) (capture : Capture)
    (shown : String) (earlier : List Read) (how : Read) (before : Capture) (answer : Answer)
    (after : Capture) : Prop where
  /-- The body is taken from the wire by the first read that looks at it and by no other. -/
  taken : before.takes after = true ↔
    origin.IsDeferred ∧ how ≠ .debug ∧ ∀ other ∈ earlier, other = .debug
  text : ∀ raw, origin.Holds raw → how = .content ∨ how = .tryContent →
    answer = .content (some (Utf8.lossyText raw))
  bytes : ∀ raw, origin.Holds raw → how = .bytes ∨ how = .tryBytes → answer = .bytes (some raw)
  display : ∀ raw, origin.Holds raw → how = .display →
    answer = .shown ("Status: " ++ toString status ++ ", Response: " ++ Utf8.lossyText raw)
  /-- What a developer is shown leaves the body alone and tells whether it is still to be read. -/
  debug : how = .debug → after = before ∧ ∃ content,
    answer = .shown ("ResponseCapture \x7b status: " ++ toString status ++ ", headers: " ++ shown ++
      ", content: " ++ content ++ " \x7d") ∧
    (content = "None" ↔ origin.IsDeferred ∧ ∀ other ∈ earlier, other = .debug)
  /-- The first read that looks at the body blames what the eager capture is blamed for. -/
  blamed : ∀ pending, origin = .response pending false → (∀ other ∈ earlier, other = .debug) →
    how = .tryContent ∨ how = .tryBytes → ∀ error,
      answer = .failed error ↔ ofResponse status headers pending true = .error error
  kept : after.status = status ∧ after.headers = capture.headers

theorem ofResponse_eager_eq_error_iff (status : Nat) (headers : List Header) (pending : PendingBody)
    (error : TransportError) :
    ofResponse status headers pending true = .error error ↔ pending.read = .error error := by
  change (pending.read.bind fun _ => .ok _) = _ ↔ _
  cases pending.read <;> simp [Except.bind]

theorem readsOnce_of_made {origin : Origin} {status : Nat} {headers : List Header}
    {capture : Capture} (made : origin.capture status headers = .ok capture) (shown : String)
    (earlier : List Read) (how : Read) :
    let before := (capture.readAll shown earlier).2
    ReadsOnce origin status headers capture shown earlier how before (before.read shown how).1
      (before.read shown how).2 := by
  intro before
  obtain ⟨starts, status_eq⟩ := startsWith_of_made made
  have deferred : before.isDeferred = true ↔
      origin.IsDeferred ∧ ∀ other ∈ earlier, other = .debug := by
    rw [isDeferred_readAll, starts.isDeferred_iff]
  have kept : before.status = status := (readAll_status capture shown earlier).trans status_eq
  have fields : before.headers = capture.headers := readAll_headers capture shown earlier
  constructor
  case taken =>
    rw [takes, read_snd]
    by_cases debug : how = .debug
    · simp [debug]
    · simp only [debug, ↓reduceIte, isDeferred_load, Bool.not_false, Bool.and_true, deferred,
        ne_eq, not_false_eq_true, true_and]
  case text =>
    intro raw holds
    obtain ⟨payload, loaded, _, content⟩ := starts.load holds
    have given := read_of_load (load_readAll loaded shown earlier) shown
    rintro (rfl | rfl)
    · rw [given.1, Option.map_some, content]
    · rw [given.2.1, Option.map_some, content]
  case bytes =>
    intro raw holds
    obtain ⟨payload, loaded, bytes, _⟩ := starts.load holds
    have given := read_of_load (load_readAll loaded shown earlier) shown
    rintro (rfl | rfl)
    · rw [given.2.2.1, Option.map_some, bytes]
    · rw [given.2.2.2.1, Option.map_some, bytes]
  case display =>
    rintro raw holds rfl
    obtain ⟨payload, loaded, _, content⟩ := starts.load holds
    have given := read_of_load (load_readAll loaded shown earlier) shown
    rw [given.2.2.2.2, displayText, Option.elim_some, content]
    exact congrArg (fun code => Answer.shown ("Status: " ++ toString code ++ ", Response: " ++ _)) kept
  case debug =>
    rintro rfl
    refine ⟨rfl, debugBody before.body, ?_, (debugBody_eq_none_iff before).trans deferred⟩
    rw [← kept]
    rfl
  case blamed =>
    rintro pending rfl silent reports error
    obtain rfl := Except.ok.inj made
    have same : before = _ := readAll_snd _ shown earlier
    rw [if_pos silent] at same
    rw [read_eq_failed_iff before shown reports, load_eq_error_iff, same,
      ofResponse_eager_eq_error_iff]
    simp [Fails]
  case kept =>
    rw [read_snd]
    split
    · exact ⟨kept, fields⟩
    · exact ⟨(load_status before).trans kept, (load_headers before).trans fields⟩

end Courier.Capture
