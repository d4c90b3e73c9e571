import Courier.Form
import Courier.Mock.Basic
/-!
The pages of the mock server: which path names which page, which methods a page takes, and what it
needs to know of a request. A request that lacks this is rejected before the page handles it.
-/
namespace Courier.Mock

inductive Page where
  | echo
  | hello
  | status (code : List Char)
  | hang
  | stall
  | bytes (length : List Char)
  | binary
  | login
  | guarded
  | basic
  | digest
  deriving DecidableEq, Repr

inductive Methods where
  | any
  | get
  | post
  deriving DecidableEq, Repr

def Methods.include (methods : Methods) (method : String) : Bool :=
  match methods with
  | .any => true
  | .get => method == "GET" || method == "HEAD"
  | .post => method == "POST"

def Methods.text : Methods → String
  | .any => ""
  | .get => "GET,HEAD"
  | .post => "POST"

namespace Page

def ofPath? (path : String) : Option Page :=
  match (splitAt '/' path.toList).map fun segment => (String.ofList segment, segment) with
  | [("", _), ("echo", _)] => some .echo
  | [("", _), ("hello", _)] => some .hello
  | [("", _), ("status", _), (_, code)] => if code.isEmpty then none else some (.status code)
  | [("", _), ("hang", _)] => some .hang
  | [("", _), ("stall-body", _)] => some .stall
  | [("", _), ("bytes", _), (_, length)] => if length.isEmpty then none else some (.bytes length)
  | [("", _), ("binary", _)] => some .binary
  | [("", _), ("login", _)] => some .login
  | [("", _), ("protected", _)] => some .guarded
  | [("", _), ("basic", _)] => some .basic
  | [("", _), ("digest", _)] => some .digest
  | _ => none

def methods : Page → Methods
  | .echo | .status _ | .hang | .digest => .any
  | .login => .post
  | _ => .get

end Page

inductive Call where
  | echo (body : String)
  | hello
  | status (code : Nat)
  | hang
  | stall
  | bytes (length : Nat)
  | binary
  | login (username password : String)
  | guarded
  | basic
  | digest
  deriving DecidableEq, Repr

inductive Rejection where
  | parameterText (name : String)
  | parameter (text type : String)
  | bodyLength
  | bodyText (flaw : Utf8.Flaw)
  | contentType
  | duplicateField (name : String)
  | missingField (name : String)
  deriving DecidableEq, Repr

namespace Rejection

def status : Rejection → Nat
  | .bodyLength => 413
  | .contentType => 415
  | .duplicateField _ | .missingField _ => 422
  | _ => 400

def message : Rejection → String
  | .parameterText name => "Invalid URL: Invalid UTF-8 in \x60" ++ name ++ "\x60"
  | .parameter text type =>
    "Invalid URL: Cannot parse \x60" ++ text ++ "\x60 to a \x60" ++ type ++ "\x60"
  | .bodyLength => "Failed to buffer the request body: length limit exceeded"
  | .bodyText flaw => "Request body didn't contain valid UTF-8: " ++ flaw.message
  | .contentType =>
    "Form requests must have \x60Content-Type: application/x-www-form-urlencoded\x60"
  | .duplicateField name =>
    "Failed to deserialize form body: duplicate field \x60" ++ name ++ "\x60"
  | .missingField name => "Failed to deserialize form body: missing field \x60" ++ name ++ "\x60"

end Rejection

def bounded? (bound : Nat) (text : List Char) : Option Nat :=
  let digits := match text with
    | '+' :: rest => rest
    | _ => text
  (number? 10 digits).filter (· < bound)

def parameter (name : String) (bits : Nat) (text : List Char) : Except Rejection Nat :=
  match Utf8.decode? (Percent.decode text) with
  | none => .error (.parameterText name)
  | some text =>
    match bounded? (Nat.pow 2 bits) text with
    | some n => .ok n
    | none => .error (.parameter (String.ofList text) ("u" ++ toString bits))

def formType : List Char := "application/x-www-form-urlencoded".toList

def announcesForm (headers : List Header) : Bool :=
  match (Header.value? "content-type" headers).filter Header.isReadable with
  | some value => formType.isPrefixOf value.toList
  | none => false

/-- The user name and password among pairs, none of which may come twice; others do not count. -/
def credentialsAfter (username password : Option String) :
    List Pair → Except Rejection (String × String)
  | [] =>
    match username, password with
    | some username, some password => .ok (username, password)
    | none, _ => .error (.missingField "username")
    | _, none => .error (.missingField "password")
  | pair :: rest =>
    match pair.name with
    | "username" =>
      if username.isSome then .error (.duplicateField "username")
      else credentialsAfter (some pair.value) password rest
    | "password" =>
      if password.isSome then .error (.duplicateField "password")
      else credentialsAfter username (some pair.value) rest
    | _ => credentialsAfter username password rest

def greatestBodyLength : Nat := 2097152

def wholeBody (request : Incoming) : Except Rejection (List UInt8) :=
  if request.body.length ≤ greatestBodyLength then .ok request.body else .error .bodyLength

def textBody (body : List UInt8) : Except Rejection String :=
  match Utf8.text? body, Utf8.flaw? body with
  | some text, _ => .ok text
  | none, some flaw => .error (.bodyText flaw)
  | none, none => .ok (Utf8.lossyText body)

def Page.call (page : Page) (request : Incoming) : Except Rejection Call :=
  match page with
  | .echo => (wholeBody request).bind fun body => (textBody body).map .echo
  | .hello => .ok .hello
  | .status code => (parameter "code" 16 code).map .status
  | .hang => .ok .hang
  | .stall => .ok .stall
  | .bytes length => (parameter "len" 64 length).map .bytes
  | .binary => .ok .binary
  | .login =>
    if announcesForm request.headers then
      (wholeBody request).bind fun body =>
        (credentialsAfter none none (Form.decode body)).map fun (username, password) =>
          .login username password
    else .error .contentType
  | .guarded => .ok .guarded
  | .basic => .ok .basic
  | .digest => .ok .digest

end Courier.Mock
