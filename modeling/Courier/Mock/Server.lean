import Courier.Json.Writer
import Courier.Mock.Account
import Courier.Mock.Page
/-!
The mock server. A request is answered by its page, which counts as a hit, or refused: the path is
unknown, the page does not take the method, or the request lacks what the page needs.
-/
namespace Courier.Mock

namespace Answer

def typed (status : Nat) (type : String) (body : List UInt8) (headers : List Header) : Answer :=
  { status, headers := ("content-type", type) :: headers, body }

def words (status : Nat) (text : String) (headers : List Header) : Answer :=
  typed status "text/plain; charset=utf-8" (Utf8.bytes text) headers

def tellsLength (answer : Answer) (method : String) : Bool :=
  answer.ended && !(method == "CONNECT" && 200 ≤ answer.status && answer.status < 300)

def sendsBody (answer : Answer) (method : String) : Bool :=
  method != "HEAD" && !(method == "CONNECT" && 200 ≤ answer.status && answer.status < 300)

/-- The answer as it is sent for a method: with the length of its body, where it is known, and
without the body, where there must be none. -/
def sent (answer : Answer) (method : String) : Answer :=
  { answer with
    headers := Header.sorted (answer.headers ++
      if answer.tellsLength method then
        [("content-length", toString answer.body.length)] else [])
    body := if answer.sendsBody method then answer.body else []
    ended := answer.ended || !answer.sendsBody method }

end Answer

def groupByName (headers : List Header) : List Header :=
  (headers.map Prod.fst).eraseDups.flatMap fun name => headers.filter fun header => header.1 == name

def echoed (request : Incoming) (body : String) : Json :=
  let headers := groupByName (request.headers.map fun header => (asciiLowerText header.1, header.2))
  .object [
    ("method", .string request.method),
    ("query", .ofText? request.query),
    ("headers", .array (headers.map fun header => .array [.string header.1, .string header.2])),
    ("body", .string body)]

def binaryBytes : List UInt8 := [0x50, 0x4B, 0x03, 0x04, 0xFF, 0xFE, 0x00, 0x80]

def hangSeconds : Nat := 30

def isStatus (code : Nat) : Bool := 100 ≤ code && code ≤ 999

/-- The answer of a page and the sessions after it. New sessions are named by their number. -/
def Call.answer (names : Nat → String) (sessions : List String) (request : Incoming) :
    Call → Answer × List String
  | .echo body =>
    (.typed 200 "application/json" (Utf8.bytes (echoed request body).text) [], sessions)
  | .hello => (.words 200 "All is well" [], sessions)
  | .status code =>
    if isStatus code then (.words code ("status " ++ toString code) [], sessions)
    else (.words 400 "invalid status" [], sessions)
  | .hang => ({ Answer.words 200 "too late" [] with waited := hangSeconds }, sessions)
  | .stall =>
    ({ status := 200, headers := [], body := Utf8.bytes "partial", ended := false }, sessions)
  | .bytes length =>
    (.typed 200 "application/octet-stream" (List.replicate length 0x61) [], sessions)
  | .binary => (.typed 200 "application/zip" binaryBytes [], sessions)
  | .login username password =>
    if Account.accepts username password then
      let session := names sessions.length
      (.words 200 "logged in" [("set-cookie", "session=" ++ session ++ "; Path=/")],
        sessions ++ [session])
    else (.words 401 "bad credentials" [], sessions)
  | .guarded =>
    if Account.acceptsSession sessions request.headers then (.words 200 "welcome" [], sessions)
    else (.words 403 "login required" [], sessions)
  | .basic =>
    if Account.acceptsToken request.headers then (.words 200 "basic ok" [], sessions)
    else (.words 401 "basic required" [], sessions)
  | .digest =>
    if Account.acceptsDigest request.method request.headers then (.words 200 "digest ok" [], sessions)
    else (.words 401 "digest required" [("www-authenticate", Account.challenge)], sessions)

inductive Handling where
  | unknownPath
  | refusedMethod (allowed : Methods)
  | rejected (rejection : Rejection)
  | handled (call : Call)
  deriving DecidableEq, Repr

def handling (request : Incoming) : Handling :=
  match Page.ofPath? request.path with
  | none => .unknownPath
  | some page =>
    if page.methods.include request.method then
      match page.call request with
      | .ok call => .handled call
      | .error rejection => .rejected rejection
    else .refusedMethod page.methods

namespace Server

def serve (names : Nat → String) (server : Server) (request : Incoming) : Answer × Server :=
  match handling request with
  | .unknownPath => ({ status := 404, headers := [], body := [] }, server)
  | .refusedMethod allowed =>
    (({ status := 405, headers := [("allow", allowed.text)], body := [] } : Answer).sent
      request.method, server)
  | .rejected rejection =>
    ((Answer.words rejection.status rejection.message []).sent request.method, server)
  | .handled call =>
    let (answer, sessions) := call.answer names server.sessions request
    (answer.sent request.method, { hits := server.hits + 1, sessions })

def serveAll (names : Nat → String) (server : Server) : List Incoming → List (Answer × Server)
  | [] => []
  | request :: rest =>
    let served := server.serve names request
    served :: serveAll names served.2 rest

end Server
end Courier.Mock
