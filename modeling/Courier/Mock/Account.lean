import Courier.Digest.Challenge
import Courier.Mock.Basic
/-!
The one account of the mock server, and the ways to show that one may use it: a session, a token
or the answer to a digest challenge. Parameters of an answer are cut at commas wherever they stand.
-/
namespace Courier.Mock.Account

def username : String := "admin"

def password : String := "secret"

def realm : String := "mock"

def nonce : String := "5f3b9a1c7d2e4f60"

def challenge : String :=
  "Digest realm=\"" ++ realm ++ "\", qop=\"auth\", nonce=\"" ++ nonce ++ "\", opaque=\"0pa9ue\""

def accepts (name secret : String) : Bool := name == username && secret == password

def token : String := "Basic YWRtaW46c2VjcmV0"

def readable? (name : String) (headers : List Header) : Option String :=
  (Header.value? name headers).filter Header.isReadable

def acceptsToken (headers : List Header) : Bool :=
  readable? "authorization" headers == some token

def unquote (text : List Char) : List Char :=
  ((text.dropWhile (· = '"')).reverse.dropWhile (· = '"')).reverse

def answerParams (text : List Char) : List (String × String) :=
  (splitAt ',' text).filterMap fun piece =>
    (cutAt? (· = '=') piece).map fun (name, value) =>
      (String.ofList (trim name), String.ofList (unquote (trim value)))

def param (params : List (String × String)) (name : String) : String :=
  ((params.reverse.find? fun (key, _) => key == name).map Prod.snd).getD ""

def expectedResponse (method : String) (params : List (String × String)) : String :=
  let secret := Digest.hash (username ++ ":" ++ realm ++ ":" ++ password)
  let request := Digest.hash (method ++ ":" ++ param params "uri")
  if param params "qop" == "auth" then
    Digest.hash (secret ++ ":" ++ nonce ++ ":" ++ param params "nc" ++ ":" ++
      param params "cnonce" ++ ":auth:" ++ request)
  else Digest.hash (secret ++ ":" ++ nonce ++ ":" ++ request)

def acceptsParams (method : String) (params : List (String × String)) : Bool :=
  param params "username" == username && param params "realm" == realm &&
    param params "nonce" == nonce && param params "response" == expectedResponse method params

def acceptsAnswer (method header : String) : Bool :=
  match header.toList with
  | 'D' :: 'i' :: 'g' :: 'e' :: 's' :: 't' :: ' ' :: rest => acceptsParams method (answerParams rest)
  | _ => false

def acceptsDigest (method : String) (headers : List Header) : Bool :=
  (readable? "authorization" headers).any (acceptsAnswer method)

def sessionOf? (cookie : List Char) : Option String :=
  match trim cookie with
  | 's' :: 'e' :: 's' :: 's' :: 'i' :: 'o' :: 'n' :: '=' :: id => some (String.ofList id)
  | _ => none

def session? (headers : List Header) : Option String :=
  (((Header.values "cookie" headers).filter Header.isReadable).flatMap fun value =>
    splitAt ';' value.toList).findSome? sessionOf?

def acceptsSession (sessions : List String) (headers : List Header) : Bool :=
  (session? headers).any sessions.contains

end Courier.Mock.Account
