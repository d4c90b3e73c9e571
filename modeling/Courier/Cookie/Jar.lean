import Courier.Cookie.Date
import Courier.Header
import Courier.Text.Blank
/-!
Cookies. A host sets a cookie for itself or for a domain it belongs to, and for the paths below
one; the jar gives it back to requests for these. At most one cookie has the same name, domain and
path: a later one takes its place, and one that is over takes it away.
-/
namespace Courier

structure Cookie where
  name : String
  value : String
  domain : String
  /-- Whether the domain stands for its host alone. -/
  hostOnly : Bool
  path : String
  deriving DecidableEq, Repr

structure CookiePlace where
  host : String
  path : String
  deriving DecidableEq, Repr

namespace Cookie

def isWithin (domain host : String) : Bool :=
  host == domain || ('.' :: domain.toList).isSuffixOf host.toList

def coversPath (path request : String) : Bool :=
  let path := path.toList
  let request := request.toList
  path == request ||
    (path.isPrefixOf request &&
      (path.getLast? == some '/' || (request.drop path.length).head? == some '/'))

def belongsTo (cookie : Cookie) (place : CookiePlace) : Bool :=
  (if cookie.hostOnly then place.host == cookie.domain else isWithin cookie.domain place.host) &&
    coversPath cookie.path place.path

def replaces (newer older : Cookie) : Bool :=
  newer.name == older.name && newer.domain == older.domain && newer.path == older.path

/-- The path of a cookie that names none: the request path up to its last slash. -/
def usualPath (request : String) : String :=
  match (request.toList.reverse.dropWhile (· ≠ '/')).drop 1 with
  | [] => "/"
  | directory => String.ofList directory.reverse

def readAttribute (text : List Char) : String × List Char :=
  let name := text.takeWhile (· ≠ '=')
  (asciiLowerText (String.ofList (trim name)), trim ((text.dropWhile (· ≠ '=')).drop 1))

def attribute? (name : String) (attributes : List (String × List Char)) : Option (List Char) :=
  (attributes.reverse.find? fun (key, _) => key == name).map Prod.snd

def isNoLifetime? (text : List Char) : Option Bool :=
  match text with
  | '-' :: digits => (number? 10 digits).map fun _ => true
  | digits => (number? 10 digits).map fun seconds => seconds == 0

/-- Whether a cookie with these attributes is over at that time. Its lifetime counts before its
last day. -/
def isOver (now : Int) (attributes : List (String × List Char)) : Bool :=
  match (attribute? "max-age" attributes).bind isNoLifetime? with
  | some ended => ended
  | none =>
    match (attribute? "expires" attributes).bind Date.ofText? with
    | some date => date.seconds ≤ now
    | none => false

/-- The domain of a cookie and whether it stands for its host alone; nothing for a domain that the
host does not belong to. -/
def domain? (host : String) (attributes : List (String × List Char)) : Option (String × Bool) :=
  let named := (attribute? "domain" attributes).map fun text =>
    asciiLowerText (String.ofList (if text.head? == some '.' then text.drop 1 else text))
  match named with
  | none => some (host, true)
  | some domain =>
    if domain.isEmpty then some (host, true)
    else if isWithin domain host then some (domain, false)
    else none

def pathOf (request : String) (attributes : List (String × List Char)) : String :=
  match attribute? "path" attributes with
  | some ('/' :: rest) => String.ofList ('/' :: rest)
  | _ => usualPath request

def ofText? (now : Int) (place : CookiePlace) (text : String) : Option (Cookie × Bool) :=
  match splitAt ';' text.toList with
  | [] => none
  | pair :: rest => do
    let attributes := rest.map readAttribute
    let (name, value) ← cutAt? (· = '=') pair
    let (domain, hostOnly) ← domain? place.host attributes
    let name := trim name
    if name.isEmpty then none
    else
      return ({
        name := String.ofList name
        value := String.ofList (trim value)
        domain
        hostOnly
        path := pathOf place.path attributes }, isOver now attributes)

end Cookie

structure Jar where
  cookies : List Cookie := []
  deriving DecidableEq, Repr

namespace Jar

def receive (now : Int) (place : CookiePlace) (jar : Jar) (text : String) : Jar :=
  match Cookie.ofText? now place text with
  | none => jar
  | some (cookie, ended) =>
    let others := jar.cookies.filter fun older => !cookie.replaces older
    { cookies := if ended then others else others ++ [cookie] }

def receiveAll (now : Int) (place : CookiePlace) (jar : Jar) (headers : List Header) : Jar :=
  (Header.values "set-cookie" headers).foldl (receive now place) jar

def header? (jar : Jar) (place : CookiePlace) : Option String :=
  match jar.cookies.filter (·.belongsTo place) with
  | [] => none
  | cookies => some (joinTexts "; " (cookies.map fun cookie => cookie.name ++ "=" ++ cookie.value))

end Jar
end Courier
