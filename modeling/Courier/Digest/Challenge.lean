import Courier.Bytes.Md5
import Courier.Digest.Params
import Courier.Text.Split
import Courier.Text.Utf8
/-!
Digest challenges and answers to them. A challenge can be answered when it names a realm and a
nonce, an algorithm of the MD5 family, and, if it lists qualities of protection, plain
authentication among them. The answer proves knowledge of the password by hashes only.
-/
namespace Courier.Digest

inductive Algorithm where
  | md5
  /-- The first hash also covers the nonces. -/
  | md5Session
  deriving DecidableEq, Repr

def Algorithm.name : Algorithm → String
  | .md5 => "MD5"
  | .md5Session => "MD5-sess"

structure Challenge where
  realm : String
  nonce : String
  /-- A text that is given back as it came. -/
  token : Option String
  algorithm : Algorithm
  /-- Whether the answer names plain authentication as its quality of protection. -/
  qopAuth : Bool
  deriving DecidableEq, Repr

def algorithm? (name : List Char) : Option Algorithm :=
  let lowered := String.ofList (name.map asciiLower)
  if lowered = "md5" then some .md5
  else if lowered = "md5-sess" then some .md5Session
  else none

def offersAuth (list : List Char) : Bool :=
  (splitAt ',' list).any fun quality => (trim quality).map asciiLower == ['a', 'u', 't', 'h']

def lastValue? (name : String) (params : List (List Char × List Char)) : Option (List Char) :=
  (params.reverse.find? fun param => String.ofList (param.1.map asciiLower) == name).map Prod.snd

def allValues (name : String) (params : List (List Char × List Char)) : List (List Char) :=
  (params.filter fun param => String.ofList (param.1.map asciiLower) == name).map Prod.snd

/-- The challenge of a list of parameters. Of parameters with one name the last counts, but every
algorithm named must be known. -/
def ofParams? (params : List (List Char × List Char)) : Option Challenge := do
  let algorithms ← (allValues "algorithm" params).mapM algorithm?
  let quality := lastValue? "qop" params
  if quality.any (!offersAuth ·) then none
  else
    let realm ← lastValue? "realm" params
    let nonce ← lastValue? "nonce" params
    return {
      realm := String.ofList realm
      nonce := String.ofList nonce
      token := (lastValue? "opaque" params).map String.ofList
      algorithm := algorithms.getLast?.getD .md5
      qopAuth := quality.isSome }

def Challenge.parse? (header : String) : Option Challenge := do
  let (scheme, rest) ← cutAt? isBlank (trim header.toList)
  if scheme.map asciiLower = ['d', 'i', 'g', 'e', 's', 't'] then ofParams? (params rest) else none

def hash (text : String) : String := String.ofList (Md5.hexDigest (Utf8.bytes text))

def escape (text : String) : String :=
  String.ofList (text.toList.flatMap fun c => if c = '\\' || c = '"' then ['\\', c] else [c])

def quoted (name value : String) : String := name ++ "=\"" ++ escape value ++ "\""

def nonceCount : String := "00000001"

def Challenge.secretHash (challenge : Challenge) (username password clientNonce : String) : String :=
  let plain := hash (username ++ ":" ++ challenge.realm ++ ":" ++ password)
  match challenge.algorithm with
  | .md5 => plain
  | .md5Session => hash (plain ++ ":" ++ challenge.nonce ++ ":" ++ clientNonce)

def Challenge.response (challenge : Challenge)
    (method uri username password clientNonce : String) : String :=
  let secret := challenge.secretHash username password clientNonce
  let request := hash (method ++ ":" ++ uri)
  if challenge.qopAuth then
    hash (secret ++ ":" ++ challenge.nonce ++ ":" ++ nonceCount ++ ":" ++ clientNonce ++ ":auth:" ++
      request)
  else hash (secret ++ ":" ++ challenge.nonce ++ ":" ++ request)

def Challenge.authorization (challenge : Challenge)
    (method uri username password clientNonce : String) : String :=
  let response := challenge.response method uri username password clientNonce
  "Digest " ++ joinTexts ", " (
    [quoted "username" username, quoted "realm" challenge.realm, quoted "nonce" challenge.nonce,
      quoted "uri" uri, "response=\"" ++ response ++ "\"",
      "algorithm=" ++ challenge.algorithm.name] ++
    (if challenge.qopAuth then
      ["qop=auth", "nc=" ++ nonceCount, "cnonce=\"" ++ clientNonce ++ "\""] else []) ++
    (match challenge.token with
     | some token => [quoted "opaque" token]
     | none => []))

end Courier.Digest
