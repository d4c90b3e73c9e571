import Courier.Failure
import Courier.Text.Quoted
import Courier.Text.Utf8
/-!
Captured responses. The body of a capture may be there from the start or be read when it is first
asked for. A body that cannot be read is reported to whoever asked first; from then on the capture
has no body.
-/
namespace Courier

inductive Payload where
  | text (content : String)
  | binary (raw : List UInt8) (shown : String)
  deriving DecidableEq, Repr

namespace Payload

def decode (raw : List UInt8) : Payload :=
  match Utf8.text? raw with
  | some content => .text content
  | none => .binary raw (Utf8.lossyText raw)

def bytes : Payload → List UInt8
  | .text content => Utf8.bytes content
  | .binary raw _ => raw

def content : Payload → String
  | .text content => content
  | .binary _ shown => shown

end Payload

inductive Delivery where
  | whole (bytes : List UInt8)
  /-- The connection breaks after these bytes. -/
  | broken (bytes : List UInt8)
  /-- After these bytes nothing comes any more, and the connection stays. -/
  | stalled (bytes : List UInt8)
  deriving DecidableEq, Repr

/-- The client's way of reading a body of which no more than so many bytes are to be read. Whether a
body of exactly that many is still read is left to the client. -/
class BodyReader where
  read : Delivery → (limit : Nat) → Except Interruption (List UInt8)
  all {delivery : Delivery} {limit : Nat} {bytes : List UInt8} :
    read delivery limit = .ok bytes → delivery = .whole bytes
  below {bytes : List UInt8} {limit : Nat} :
    bytes.length < limit → read (.whole bytes) limit = .ok bytes
  exact {bytes : List UInt8} {limit : Nat} : bytes.length = limit →
    read (.whole bytes) limit = .ok bytes ∨ read (.whole bytes) limit = .error (.exceedsLimit limit)
  beyond {bytes : List UInt8} {limit : Nat} :
    limit < bytes.length → read (.whole bytes) limit = .error (.exceedsLimit limit)
  broken {bytes : List UInt8} {limit : Nat} : bytes.length < limit →
    ∃ fault, read (.broken bytes) limit = .error (.fault fault)
  stalled {bytes : List UInt8} {limit : Nat} : bytes.length < limit →
    read (.stalled bytes) limit = .error .timeout

namespace BodyReader

def judge (admits : List UInt8 → Bool) (limit : Nat) : Delivery → Except Interruption (List UInt8)
  | .whole bytes => if admits bytes then .ok bytes else .error (.exceedsLimit limit)
  | .broken bytes => .error (if admits bytes then .fault .disconnected else .exceedsLimit limit)
  | .stalled bytes => .error (if admits bytes then .timeout else .exceedsLimit limit)

theorem whole_of_judge {admits : List UInt8 → Bool} {delivery : Delivery} {limit : Nat}
    {bytes : List UInt8} (given : judge admits limit delivery = .ok bytes) :
    delivery = .whole bytes := by
  cases delivery with
  | whole other =>
    rw [judge] at given
    split at given
    · exact congrArg Delivery.whole (Except.ok.inj given)
    · cases given
  | broken other => cases given
  | stalled other => cases given

/-- A client that stops as soon as it has read as many bytes as it may. -/
@[reducible]
def strict : BodyReader where
  read delivery limit := judge (fun bytes => bytes.length < limit) limit delivery
  all := whole_of_judge
  below fits := by simp [judge, fits]
  exact full := by simp [judge, full]
  beyond large := by simp [judge, Nat.not_lt_of_gt large]
  broken fits := ⟨.disconnected, by simp [judge, fits]⟩
  stalled fits := by simp [judge, fits]

/-- A client that stops when there is a byte more than it may read. -/
@[reducible]
def lenient : BodyReader where
  read delivery limit := judge (fun bytes => bytes.length ≤ limit) limit delivery
  all := whole_of_judge
  below fits := by simp [judge, Nat.le_of_lt fits]
  exact full := by simp [judge, full]
  beyond large := by simp [judge, Nat.not_le_of_gt large]
  broken fits := ⟨.disconnected, by simp [judge, Nat.le_of_lt fits]⟩
  stalled fits := by simp [judge, Nat.le_of_lt fits]

end BodyReader

structure PendingBody where
  delivery : Delivery
  url : String
  /-- Milliseconds. -/
  timeout : Nat
  limit : Nat
  deriving DecidableEq, Repr

variable [BodyReader]

def PendingBody.read (pending : PendingBody) : Except TransportError Payload :=
  match BodyReader.read pending.delivery pending.limit with
  | .ok bytes => .ok (.decode bytes)
  | .error interruption =>
    .error (.ofInterruption pending.url pending.timeout interruption)

inductive CapturedBody where
  | deferred (pending : PendingBody)
  | absent
  | present (payload : Payload)
  deriving DecidableEq, Repr

structure Capture where
  status : Nat
  headers : List Header
  body : CapturedBody
  deriving DecidableEq, Repr

namespace Capture

def buffered (status : Nat) (headers : List Header) (content : Option String) : Capture :=
  { status, headers, body := content.elim .absent fun content => .present (.text content) }

/-- A capture of a response: with `eager` the body is read now, and otherwise when asked for.
Only fields whose values are readable text are kept. -/
def ofResponse (status : Nat) (headers : List Header) (pending : PendingBody) (eager : Bool) :
    Except TransportError Capture := do
  let headers := headers.filter fun header => Header.isReadable header.2
  if eager then
    let payload ← pending.read
    return { status, headers, body := .present payload }
  else return { status, headers, body := .deferred pending }

def header? (capture : Capture) (name : String) : Option String := Header.value? name capture.headers

def load (capture : Capture) : Except TransportError (Option Payload) × Capture :=
  match capture.body with
  | .present payload => (.ok (some payload), capture)
  | .absent => (.ok none, capture)
  | .deferred pending =>
    match pending.read with
    | .ok payload => (.ok (some payload), { capture with body := .present payload })
    | .error error => (.error error, { capture with body := .absent })

def loadQuietly (capture : Capture) : Option Payload × Capture :=
  match capture.load with
  | (.ok payload, after) => (payload, after)
  | (.error _, after) => (none, after)

inductive Read where
  | content | bytes | tryContent | tryBytes | display | debug
  deriving DecidableEq, Repr

inductive Answer where
  | content (text : Option String)
  | bytes (raw : Option (List UInt8))
  | failed (error : TransportError)
  | shown (text : String)
  deriving DecidableEq, Repr

def displayText (status : Nat) (payload : Option Payload) : String :=
  "Status: " ++ toString status ++ ", Response: " ++ (payload.elim "null" Payload.content)

def debugHeader (header : Header) : String :=
  "(" ++ Quoted.text header.1 ++ ", " ++ Quoted.text header.2 ++ ")"

def debugHeaders (headers : List Header) : String :=
  "[" ++ joinTexts ", " (headers.map debugHeader) ++ "]"

def debugBody : CapturedBody → String
  | .deferred _ => "None"
  | .absent => "Some(None)"
  | .present payload => "Some(Some(" ++ Quoted.text payload.content ++ "))"

def debugText (capture : Capture) (headers : String) : String :=
  "ResponseCapture \x7b status: " ++ toString capture.status ++ ", headers: " ++ headers ++
    ", content: " ++ debugBody capture.body ++ " \x7d"

def read (capture : Capture) (headers : String) : Read → Answer × Capture
  | .content =>
    let (payload, after) := capture.loadQuietly
    (.content (payload.map Payload.content), after)
  | .bytes =>
    let (payload, after) := capture.loadQuietly
    (.bytes (payload.map Payload.bytes), after)
  | .tryContent =>
    match capture.load with
    | (.ok payload, after) => (.content (payload.map Payload.content), after)
    | (.error error, after) => (.failed error, after)
  | .tryBytes =>
    match capture.load with
    | (.ok payload, after) => (.bytes (payload.map Payload.bytes), after)
    | (.error error, after) => (.failed error, after)
  | .display =>
    let (payload, after) := capture.loadQuietly
    (.shown (displayText capture.status payload), after)
  | .debug => (.shown (capture.debugText headers), capture)

def readAll (capture : Capture) (headers : String) : List Read → List Answer × Capture
  | [] => ([], capture)
  | how :: rest =>
    let (answer, after) := capture.read headers how
    let (answers, last) := after.readAll headers rest
    (answer :: answers, last)

end Capture
end Courier
